import EntityMap.Text.Case
import EntityMap.Identifier

/-!
The entity-relationship schema: tables with their columns, and the relationships between them.

A table is found by name without regard to case, the first one first; it is added under its exact
name, in the place of a table that already has it. A relationship is added only once, as told by
its id.
-/

namespace EntityMap

structure ColumnReference where
  table : String
  column : String
  deriving DecidableEq, Inhabited, Repr

/-- A column of a table. `normalize` makes a primary key not nullable. -/
structure Column where
  name : String
  type : String
  isPrimaryKey : Bool
  isForeignKey : Bool
  isNotNull : Bool
  isUnique : Bool
  references : Option ColumnReference
  defaultValue : Option String
  deriving DecidableEq, Inhabited, Repr

namespace Column

def normalize (c : Column) : Column := { c with isNotNull := c.isNotNull || c.isPrimaryKey }

def isNamed (name : String) (c : Column) : Bool := Text.lower c.name == Text.lower name

/-- Marks the column as a foreign key. A reference that it already has is kept, unless it is to be
overwritten. -/
def markForeignKey (target : ColumnReference) (overwrite : Bool) (c : Column) : Column :=
  { c with
    isForeignKey := true
    references := if overwrite || c.references.isNone then some target else c.references }

end Column

structure Table where
  id : String
  name : String
  columns : List Column
  deriving DecidableEq, Inhabited, Repr

namespace Table

def isNamed (name : String) (t : Table) : Bool := Text.lower t.name == Text.lower name

/-- The position of the first column with this name, case aside. -/
def columnIndex? (t : Table) (name : String) : Option Nat := t.columns.findIdx? (·.isNamed name)

def findColumn? (t : Table) (name : String) : Option Column := t.columns.find? (·.isNamed name)

def primaryKeyColumns (t : Table) : List Column := t.columns.filter (·.isPrimaryKey)

end Table

/-- A foreign key from a column of one table to a column of another. -/
structure Relationship where
  sourceTable : String
  sourceColumn : String
  targetTable : String
  targetColumn : String
  type : String
  id : String
  deriving DecidableEq, Inhabited, Repr

namespace Relationship

def oneToMany : String := "one-to-many"

def idOf (sourceTable sourceColumn targetTable targetColumn : String) : String :=
  sourceTable ++ "." ++ sourceColumn ++ "->" ++ targetTable ++ "." ++ targetColumn

/-- The relationship between two columns as they are named, of the usual type and id. -/
def between (sourceTable sourceColumn targetTable targetColumn : String) : Relationship where
  sourceTable := sourceTable
  sourceColumn := sourceColumn
  targetTable := targetTable
  targetColumn := targetColumn
  type := oneToMany
  id := idOf sourceTable sourceColumn targetTable targetColumn

/-- The relationship between two columns by the clean forms of their names, if none of the four
is empty. -/
def ofNames? (sourceTable sourceColumn targetTable targetColumn : String) : Option Relationship :=
  let r := between (Identifier.clean sourceTable) (Identifier.clean sourceColumn)
    (Identifier.clean targetTable) (Identifier.clean targetColumn)
  if r.sourceTable ≠ "" ∧ r.sourceColumn ≠ "" ∧ r.targetTable ≠ "" ∧ r.targetColumn ≠ "" then some r
  else none

def target (r : Relationship) : ColumnReference := ⟨r.targetTable, r.targetColumn⟩

/-- Appends a relationship unless its id is already there. -/
def appendUnique (rs : List Relationship) (r : Relationship) : List Relationship :=
  if rs.any (·.id == r.id) then rs else rs ++ [r]

end Relationship

/-- Tables in the order of their first declaration, and relationships in the order of their
discovery. -/
structure Schema where
  tables : List Table
  relationships : List Relationship
  deriving DecidableEq, Inhabited, Repr

namespace Schema

def empty : Schema := ⟨[], []⟩

/-- The position of the first table with this name, case aside. -/
def tableIndex? (s : Schema) (name : String) : Option Nat := s.tables.findIdx? (·.isNamed name)

def findTable? (s : Schema) (name : String) : Option Table := s.tables.find? (·.isNamed name)

def hasTable (s : Schema) (name : String) : Bool := s.tables.any (·.name == name)

/-- Puts a table in the place of the first one with exactly its name, or at the end. -/
def addTable (s : Schema) (t : Table) : Schema :=
  match s.tables.findIdx? (·.name == t.name) with
  | some i => { s with tables := s.tables.set i t }
  | none => { s with tables := s.tables ++ [t] }

def hasRelationship (s : Schema) (id : String) : Bool := s.relationships.any (·.id == id)

def addRelationship (s : Schema) (r : Relationship) : Schema :=
  { s with relationships := Relationship.appendUnique s.relationships r }

def relationshipsFrom (s : Schema) (name : String) : List Relationship :=
  s.relationships.filter (·.sourceTable == name)

def removeRelationshipsFrom (s : Schema) (name : String) : Schema :=
  { s with relationships := s.relationships.filter (·.sourceTable != name) }

def modifyColumn (s : Schema) (table column : Nat) (f : Column → Column) : Schema :=
  { s with
    tables := s.tables.modify table fun t => { t with columns := t.columns.modify column f } }

/-- The positions of the first table and, in it, of the first column with these names. -/
def columnPosition? (s : Schema) (table column : String) : Option (Nat × Nat) := do
  let i ← s.tableIndex? table
  let t ← s.tables[i]?
  let j ← t.columnIndex? column
  return (i, j)

/-- Marks the column with this name in the table with this name as a foreign key. Without such a
table or column nothing changes. -/
def markForeignKey (s : Schema) (table column : String) (target : ColumnReference)
    (overwrite : Bool) : Schema :=
  match s.columnPosition? table column with
  | some (i, j) => s.modifyColumn i j (·.markForeignKey target overwrite)
  | none => s

/-- A relationship that starts from a column of the schema, given by positions, and what that
column then refers to. -/
structure Link where
  table : Nat
  column : Nat
  relationship : Relationship
  reference : ColumnReference
  deriving DecidableEq, Inhabited, Repr

/-- Adds the relationship of a link and marks its column, unless the id is already there. -/
def addLink (overwrite : Bool) (s : Schema) (l : Link) : Schema :=
  if s.hasRelationship l.relationship.id then s
  else (s.addRelationship l.relationship).modifyColumn l.table l.column
    (·.markForeignKey l.reference overwrite)

end Schema

end EntityMap
