import EntityMap.Schema.Record

/-!
Schemas as data, before anything is known of the types of their fields. They are changed like
schemas whose names are texts. Names and ids are compared as values, whatever they are; but where
case does not count, a search fails at the first name that is no text.
-/

namespace EntityMap

inductive StoreError where
  | noLowerCase
  | notCleanable
  deriving DecidableEq, Repr

/-! ### Names -/

/-- The text of a value, for its lower case. -/
def Value.cased : Value → Except StoreError String
  | .text s => .ok s
  | _ => .error .noLowerCase

def Value.clean (v : Value) : Except StoreError String :=
  match v with
  | .text s => .ok (Identifier.clean s)
  | _ => if v.isTruthy then .error .notCleanable else .ok ""

def findNamed? {α : Type} (name : α → Value) (lowered : String) :
    List α → Except StoreError (Option (Nat × α))
  | [] => .ok none
  | a :: as => do
    if Text.lower (← (name a).cased) = lowered then return some (0, a)
    return (← findNamed? name lowered as).map fun (i, b) => (i + 1, b)

/-- The relationship between two columns by the clean forms of their names, if none is empty. -/
def Relationship.ofValues? (sourceTable sourceColumn targetTable targetColumn : Value) :
    Except StoreError (Option Relationship) := do
  return ofNames? (← sourceTable.clean) (← sourceColumn.clean) (← targetTable.clean)
    (← targetColumn.clean)

/-! ### Tables and relationships -/

namespace ColumnRecord

def normalize (c : ColumnRecord) : ColumnRecord :=
  { c with isNotNull := c.isNotNull || c.isPrimaryKey }

def markForeignKey (target : ReferenceRecord) (overwrite : Bool) (c : ColumnRecord) :
    ColumnRecord :=
  { c with
    isForeignKey := true
    references := if overwrite || c.references.isNone then some target else c.references }

end ColumnRecord

namespace TableRecord

def normalize (t : TableRecord) : TableRecord :=
  { t with columns := t.columns.map ColumnRecord.normalize }

def findColumn? (t : TableRecord) (name : Value) :
    Except StoreError (Option (Nat × ColumnRecord)) := do
  findNamed? (·.name) (Text.lower (← name.cased)) t.columns

def primaryKeyColumns (t : TableRecord) : List ColumnRecord := t.columns.filter (·.isPrimaryKey)

end TableRecord

/-- The relationship as it is made: an id that is empty in some way is replaced. -/
def RelationshipRecord.normalize (r : RelationshipRecord) : RelationshipRecord :=
  { r with
    id := if r.id.isTruthy then r.id
      else .text (idOf r.sourceTable r.sourceColumn r.targetTable r.targetColumn) }

namespace SchemaRecord

def empty : SchemaRecord := ⟨[], []⟩

def findTable? (s : SchemaRecord) (name : Value) :
    Except StoreError (Option (Nat × TableRecord)) := do
  findNamed? (·.name) (Text.lower (← name.cased)) s.tables

def hasTable (s : SchemaRecord) (name : Value) : Bool := s.tables.any (·.name.same name)

def addTable (s : SchemaRecord) (t : TableRecord) : SchemaRecord :=
  match s.tables.findIdx? (·.name.same t.name) with
  | some i => { s with tables := s.tables.set i t }
  | none => { s with tables := s.tables ++ [t] }

def hasRelationship (s : SchemaRecord) (id : Value) : Bool :=
  s.relationships.any (·.id.same id)

def addRelationship (s : SchemaRecord) (r : RelationshipRecord) : SchemaRecord :=
  if s.hasRelationship r.id then s else { s with relationships := s.relationships ++ [r] }

def relationshipsFrom (s : SchemaRecord) (table : Value) : List RelationshipRecord :=
  s.relationships.filter (·.sourceTable.same table)

def removeRelationshipsFrom (s : SchemaRecord) (table : Value) : SchemaRecord :=
  { s with relationships := s.relationships.filter fun r => !r.sourceTable.same table }

def modifyColumn (s : SchemaRecord) (table column : Nat) (f : ColumnRecord → ColumnRecord) :
    SchemaRecord :=
  { s with
    tables := s.tables.modify table fun t => { t with columns := t.columns.modify column f } }

def columnPosition? (s : SchemaRecord) (table column : Value) :
    Except StoreError (Option (Nat × Nat)) := do
  let some (i, t) ← s.findTable? table | return none
  return (← t.findColumn? column).map fun (j, _) => (i, j)

end SchemaRecord

/-- A relationship that starts from a column given by positions, and what that column then refers
to. -/
structure LinkRecord where
  table : Nat
  column : Nat
  relationship : RelationshipRecord
  reference : ReferenceRecord

def SchemaRecord.addLink (overwrite : Bool) (s : SchemaRecord) (l : LinkRecord) : SchemaRecord :=
  if s.hasRelationship l.relationship.id then s
  else (s.addRelationship l.relationship).modifyColumn l.table l.column
    (·.markForeignKey l.reference overwrite)

/-! ### Operations that may fail -/

/-- An operation on a schema. If it fails, what it has done until then stays done. -/
abbrev Store := EStateM StoreError SchemaRecord

namespace Store

def look {α : Type} (f : SchemaRecord → Except StoreError α) : Store α := fun s =>
  match f s with
  | .ok a => .ok a s
  | .error e => .error e s

def after {α : Type} (p : Store α) (s : SchemaRecord) : SchemaRecord :=
  match p s with
  | .ok _ s' => s'
  | .error _ s' => s'

def markForeignKey (table column : Value) (target : ReferenceRecord) (overwrite : Bool) :
    Store Unit := do
  match ← look (·.columnPosition? table column) with
  | some (i, j) => modify (·.modifyColumn i j (·.markForeignKey target overwrite))
  | none => return

def addFound (overwrite : Bool) (link? : SchemaRecord → Except StoreError (Option LinkRecord)) :
    Store Unit := do
  match ← look link? with
  | some l => modify (·.addLink overwrite l)
  | none => return

end Store

end EntityMap
