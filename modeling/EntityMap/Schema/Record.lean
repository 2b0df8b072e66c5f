import EntityMap.Schema.Basic
import EntityMap.Schema.Value

/-!
Schemas as records. A record is read leniently: names may be any value, flags count by whether they
stand for yes, and what is left out gets its usual value. Only a missing name is an error, and the
first one is reported with the place where it is missing.
-/

namespace EntityMap

inductive EntryKind where
  | table
  | column
  | relationship
  deriving DecidableEq, Repr

def EntryKind.word : EntryKind → String
  | table => "table"
  | column => "column"
  | relationship => "relationship"

inductive LoadError where
  | missingField (key : String)
  /-- Where a record with optional fields should stand, there is something else. -/
  | notRecord
  /-- Where a record with required fields should stand, there is something that has no fields. -/
  | noFields
  | notList
  | notText (key : String)
  | entry (kind : EntryKind) (index : Nat) (cause : LoadError)
  deriving DecidableEq, Repr

/-- The text of an error. A missing field is given by its quoted key. -/
def LoadError.message : LoadError → String
  | missingField key => "'" ++ key ++ "'"
  | notRecord => "not a record"
  | noFields => "not a record with the required fields"
  | notList => "not a list"
  | notText key => "not a text: " ++ key
  | entry kind index cause =>
    "Failed to load " ++ kind.word ++ " at index " ++ toString index ++ ": " ++ cause.message

namespace Value

def required (key : String) (v : Value) : Except LoadError Value :=
  match v with
  | .record _ => match v.field? key with
    | some x => .ok x
    | none => .error (.missingField key)
  | _ => .error .noFields

/-- Whether the value of a field stands for yes; without the field, it does not. -/
def flag (key : String) (v : Value) : Bool := ((v.field? key).map isTruthy).getD false

/-- Loads all entries of a list from a position on and stops at the first that is not accepted. -/
def loadEntriesFrom {α : Type} (kind : EntryKind) (load : Value → Except LoadError α) :
    Nat → List Value → Except LoadError (List α)
  | _, [] => .ok []
  | index, x :: rest =>
    match load x with
    | .error cause => .error (.entry kind index cause)
    | .ok a => match loadEntriesFrom kind load (index + 1) rest with
      | .error cause => .error cause
      | .ok as => .ok (a :: as)

/-- Loads the entries of a field that holds a list. What does not stand for yes is no list and has
no entries. -/
def loadEntries {α : Type} (kind : EntryKind) (load : Value → Except LoadError α) (key : String)
    (v : Value) : Except LoadError (List α) :=
  match v.field? key with
  | some (.list items) => loadEntriesFrom kind load 0 items
  | some other => if other.isTruthy then .error .notList else .ok []
  | none => .ok []

end Value

structure ReferenceRecord where
  table : Value
  column : Value

structure ColumnRecord where
  name : Value
  type : Value
  isPrimaryKey : Bool
  isForeignKey : Bool
  isNotNull : Bool
  isUnique : Bool
  references : Option ReferenceRecord
  defaultValue : Value

structure TableRecord where
  id : Value
  name : Value
  columns : List ColumnRecord

structure RelationshipRecord where
  sourceTable : Value
  sourceColumn : Value
  targetTable : Value
  targetColumn : Value
  type : Value
  id : Value

structure SchemaRecord where
  tables : List TableRecord
  relationships : List RelationshipRecord

namespace ReferenceRecord

def ofValue (v : Value) : Except LoadError ReferenceRecord := do
  let table ← v.required "table"
  let column ← v.required "column"
  return ⟨table, column⟩

/-- Reads a reference; `null` stands for none. -/
def ofValue? : Value → Except LoadError (Option ReferenceRecord)
  | .null => .ok none
  | v => (ofValue v).map some

def toValue (r : ReferenceRecord) : Value := .record [("table", r.table), ("column", r.column)]

end ReferenceRecord

namespace ColumnRecord

def defaultType : String := "VARCHAR"

/-- Reads a column. A primary key is never nullable. -/
def ofValue (v : Value) : Except LoadError ColumnRecord := do
  let name ← v.required "name"
  let references ← ReferenceRecord.ofValue? ((v.field? "references").getD .null)
  return {
    name := name
    type := (v.field? "type").getD (.text defaultType)
    isPrimaryKey := v.flag "isPrimaryKey"
    isForeignKey := v.flag "isForeignKey"
    isNotNull := v.flag "isNotNull" || v.flag "isPrimaryKey"
    isUnique := v.flag "isUnique"
    references := references
    defaultValue := (v.field? "defaultValue").getD .null }

/-- The column as data; a default or reference that is not there is left out. -/
def toValue (c : ColumnRecord) : Value :=
  .record <|
    [("name", c.name), ("type", c.type), ("isPrimaryKey", .bool c.isPrimaryKey),
      ("isForeignKey", .bool c.isForeignKey), ("isNotNull", .bool c.isNotNull),
      ("isUnique", .bool c.isUnique)] ++
    (match c.defaultValue with
      | .null => []
      | v => [("defaultValue", v)]) ++
    (match c.references with
      | none => []
      | some r => [("references", r.toValue)])

end ColumnRecord

namespace TableRecord

/-- Reads a table. Without an id, its name is its id. -/
def ofValue (v : Value) : Except LoadError TableRecord := do
  if let .record _ := v then pure () else throw .notRecord
  let name ← v.required "name"
  let columns ← v.loadEntries .column ColumnRecord.ofValue "columns"
  return ⟨(v.field? "id").getD name, name, columns⟩

def toValue (t : TableRecord) : Value :=
  .record [("id", t.id), ("name", t.name), ("columns", .list (t.columns.map (·.toValue)))]

end TableRecord

namespace RelationshipRecord

def idOf (sourceTable sourceColumn targetTable targetColumn : Value) : String :=
  Relationship.idOf sourceTable.display sourceColumn.display targetTable.display
    targetColumn.display

/-- Reads a relationship. Without an id, it gets the one that its names give. -/
def ofValue (v : Value) : Except LoadError RelationshipRecord := do
  let sourceTable ← v.required "sourceTable"
  let sourceColumn ← v.required "sourceColumn"
  let targetTable ← v.required "targetTable"
  let targetColumn ← v.required "targetColumn"
  let id := (v.field? "id").getD (.text "")
  return {
    sourceTable := sourceTable
    sourceColumn := sourceColumn
    targetTable := targetTable
    targetColumn := targetColumn
    type := (v.field? "type").getD (.text Relationship.oneToMany)
    id := if id.isTruthy then id
      else .text (idOf sourceTable sourceColumn targetTable targetColumn) }

def toValue (r : RelationshipRecord) : Value :=
  .record [("id", r.id), ("sourceTable", r.sourceTable), ("sourceColumn", r.sourceColumn),
    ("targetTable", r.targetTable), ("targetColumn", r.targetColumn), ("type", r.type)]

end RelationshipRecord

namespace SchemaRecord

/-- Reads a schema, the tables before the relationships. -/
def ofValue (v : Value) : Except LoadError SchemaRecord := do
  if let .record _ := v then pure () else throw .notRecord
  let tables ← v.loadEntries .table TableRecord.ofValue "tables"
  let relationships ← v.loadEntries .relationship RelationshipRecord.ofValue "relationships"
  return ⟨tables, relationships⟩

def toValue (s : SchemaRecord) : Value :=
  .record [("tables", .list (s.tables.map (·.toValue))),
    ("relationships", .list (s.relationships.map (·.toValue)))]

end SchemaRecord

/-! ### Records with texts for names -/

def Value.requireText (key : String) (v : Value) : Except LoadError String :=
  match v with
  | .text s => .ok s
  | _ => .error (.notText key)

namespace ColumnReference

def toRecord (r : ColumnReference) : ReferenceRecord := ⟨.text r.table, .text r.column⟩

def ofRecord (r : ReferenceRecord) : Except LoadError ColumnReference := do
  return ⟨← r.table.requireText "table", ← r.column.requireText "column"⟩

end ColumnReference

namespace Column

def toRecord (c : Column) : ColumnRecord where
  name := .text c.name
  type := .text c.type
  isPrimaryKey := c.isPrimaryKey
  isForeignKey := c.isForeignKey
  isNotNull := c.isNotNull
  isUnique := c.isUnique
  references := c.references.map (·.toRecord)
  defaultValue := .ofText? c.defaultValue

def ofRecord (r : ColumnRecord) : Except LoadError Column := do
  let references ← match r.references with
    | none => pure none
    | some x => some <$> ColumnReference.ofRecord x
  let defaultValue ← match r.defaultValue with
    | .null => pure none
    | v => some <$> v.requireText "defaultValue"
  return {
    name := ← r.name.requireText "name"
    type := ← r.type.requireText "type"
    isPrimaryKey := r.isPrimaryKey
    isForeignKey := r.isForeignKey
    isNotNull := r.isNotNull
    isUnique := r.isUnique
    references := references
    defaultValue := defaultValue }

end Column

namespace Table

def toRecord (t : Table) : TableRecord := ⟨.text t.id, .text t.name, t.columns.map (·.toRecord)⟩

def ofRecord (r : TableRecord) : Except LoadError Table := do
  return ⟨← r.id.requireText "id", ← r.name.requireText "name", ← r.columns.mapM Column.ofRecord⟩

end Table

namespace Relationship

def toRecord (r : Relationship) : RelationshipRecord where
  sourceTable := .text r.sourceTable
  sourceColumn := .text r.sourceColumn
  targetTable := .text r.targetTable
  targetColumn := .text r.targetColumn
  type := .text r.type
  id := .text r.id

def ofRecord (r : RelationshipRecord) : Except LoadError Relationship := do
  return {
    sourceTable := ← r.sourceTable.requireText "sourceTable"
    sourceColumn := ← r.sourceColumn.requireText "sourceColumn"
    targetTable := ← r.targetTable.requireText "targetTable"
    targetColumn := ← r.targetColumn.requireText "targetColumn"
    type := ← r.type.requireText "type"
    id := ← r.id.requireText "id" }

end Relationship

namespace Schema

def toRecord (s : Schema) : SchemaRecord :=
  ⟨s.tables.map (·.toRecord), s.relationships.map (·.toRecord)⟩

def ofRecord (r : SchemaRecord) : Except LoadError Schema := do
  return ⟨← r.tables.mapM Table.ofRecord, ← r.relationships.mapM Relationship.ofRecord⟩

def toValue (s : Schema) : Value := s.toRecord.toValue

def ofValue (v : Value) : Except LoadError Schema := do ofRecord (← SchemaRecord.ofValue v)

end Schema

end EntityMap
