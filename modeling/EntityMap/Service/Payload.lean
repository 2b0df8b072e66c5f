import EntityMap.Schema.Value

/-!
The form in which a schema is sent: records with fixed fields, and a value of a fixed kind in each
of them. Other fields are not sent, nor is an optional field with nothing in it.
-/

namespace EntityMap

namespace Value

def bool? : Value → Option Bool
  | bool b => some b
  | _ => none

def list? {α : Type} (read : Value → Option α) : Value → Option (List α)
  | list items => items.mapM read
  | _ => none

def field {α : Type} (key : String) (read : Value → Option α) (v : Value) : Option α :=
  (v.field? key).bind read

def optionalField {α : Type} (key : String) (read : Value → Option α) (v : Value) :
    Option (Option α) :=
  match v.field? key with
  | none | some null => some none
  | some x => (read x).map some

def optionalEntry (key : String) : Option Value → List (String × Value)
  | some v => [(key, v)]
  | none => []

end Value

namespace Service

structure ReferencePayload where
  table : String
  column : String
  deriving DecidableEq, Repr

structure ColumnPayload where
  name : String
  type : String
  isPrimaryKey : Bool
  isForeignKey : Bool
  isNotNull : Bool
  isUnique : Bool
  defaultValue : Option String
  references : Option ReferencePayload
  deriving DecidableEq, Repr

structure TablePayload where
  id : String
  name : String
  columns : List ColumnPayload
  deriving DecidableEq, Repr

structure RelationshipPayload where
  id : String
  sourceTable : String
  sourceColumn : String
  targetTable : String
  targetColumn : String
  type : String
  deriving DecidableEq, Repr

structure SchemaPayload where
  tables : List TablePayload
  relationships : List RelationshipPayload
  deriving DecidableEq, Repr

namespace ReferencePayload

/-- Reads a reference. Like all that is sent, it must have its form: names are texts and flags are
truth values. -/
def ofValue? (v : Value) : Option ReferencePayload := do
  return ⟨← v.field "table" Value.text?, ← v.field "column" Value.text?⟩

def toValue (r : ReferencePayload) : Value :=
  .record [("table", .text r.table), ("column", .text r.column)]

end ReferencePayload

namespace ColumnPayload

def ofValue? (v : Value) : Option ColumnPayload := do
  return {
    name := ← v.field "name" Value.text?
    type := ← v.field "type" Value.text?
    isPrimaryKey := ← v.field "isPrimaryKey" Value.bool?
    isForeignKey := ← v.field "isForeignKey" Value.bool?
    isNotNull := ← v.field "isNotNull" Value.bool?
    isUnique := ← v.field "isUnique" Value.bool?
    defaultValue := ← v.optionalField "defaultValue" Value.text?
    references := ← v.optionalField "references" ReferencePayload.ofValue? }

def toValue (c : ColumnPayload) : Value :=
  .record <|
    [("name", .text c.name), ("type", .text c.type), ("isPrimaryKey", .bool c.isPrimaryKey),
      ("isForeignKey", .bool c.isForeignKey), ("isNotNull", .bool c.isNotNull),
      ("isUnique", .bool c.isUnique)] ++
    Value.optionalEntry "defaultValue" (c.defaultValue.map .text) ++
    Value.optionalEntry "references" (c.references.map (·.toValue))

end ColumnPayload

namespace TablePayload

def ofValue? (v : Value) : Option TablePayload := do
  return {
    id := ← v.field "id" Value.text?
    name := ← v.field "name" Value.text?
    columns := ← v.field "columns" (Value.list? ColumnPayload.ofValue?) }

def toValue (t : TablePayload) : Value :=
  .record [("id", .text t.id), ("name", .text t.name),
    ("columns", .list (t.columns.map (·.toValue)))]

end TablePayload

namespace RelationshipPayload

def ofValue? (v : Value) : Option RelationshipPayload := do
  return {
    id := ← v.field "id" Value.text?
    sourceTable := ← v.field "sourceTable" Value.text?
    sourceColumn := ← v.field "sourceColumn" Value.text?
    targetTable := ← v.field "targetTable" Value.text?
    targetColumn := ← v.field "targetColumn" Value.text?
    type := ← v.field "type" Value.text? }

def toValue (r : RelationshipPayload) : Value :=
  .record [("id", .text r.id), ("sourceTable", .text r.sourceTable),
    ("sourceColumn", .text r.sourceColumn), ("targetTable", .text r.targetTable),
    ("targetColumn", .text r.targetColumn), ("type", .text r.type)]

end RelationshipPayload

namespace SchemaPayload

def ofValue? (v : Value) : Option SchemaPayload := do
  return {
    tables := ← v.field "tables" (Value.list? TablePayload.ofValue?)
    relationships := ← v.field "relationships" (Value.list? RelationshipPayload.ofValue?) }

def toValue (s : SchemaPayload) : Value :=
  .record [("tables", .list (s.tables.map (·.toValue))),
    ("relationships", .list (s.relationships.map (·.toValue)))]

end SchemaPayload

end Service

end EntityMap
