import EntityMap.Inference.Naming
import EntityMap.Schema.Basic

/-!
Relationships inferred from column names, for a schema that declares none. Declared and inferred
relationships never stand together.
-/

namespace EntityMap.Schema

/-- The target column in a table without a primary key. -/
def fallbackKey : String := "id"

/-- The tables other than the one at a position, which need not differ from it in name. -/
def otherTables (tables : List Table) (own : Nat) : List Table := tables.eraseIdx own

/-- The first table named by the first candidate that names one. -/
def forwardMatch? (others : List Table) (base : String) : Option Table :=
  (Naming.candidates base).findSome? fun candidate =>
    others.find? fun t => Text.lower t.name == candidate

/-- The first table with the base among its singular forms. -/
def reverseMatch? (others : List Table) (base : String) : Option Table :=
  others.find? fun t => (Naming.singularForms t.name).contains base

def match? (others : List Table) (base : String) : Option Table :=
  (forwardMatch? others base).or (reverseMatch? others base)

/-- The column of a table that an inferred relationship points to. -/
def keyName (t : Table) : String := (t.primaryKeyColumns.head?.map (·.name)).getD fallbackKey

/-- The link inferred for a column, given by positions. Columns of the primary key have none. -/
def inferredLink? (tables : List Table) (i : Nat) (t : Table) (j : Nat) (c : Column) :
    Option Link := do
  guard (!c.isPrimaryKey)
  let base ← Naming.base? c.name
  let target ← match? (otherTables tables i) base
  let key := keyName target
  let relationship ← Relationship.ofNames? t.name c.name target.name key
  return ⟨i, j, relationship, ⟨target.name, key⟩⟩

def inferredLinkAt? (tables : List Table) (position : Nat × Nat) : Option Link := do
  let table ← tables[position.1]?
  let column ← table.columns[position.2]?
  inferredLink? tables position.1 table position.2 column

def columnPositions (tables : List Table) : List (Nat × Nat) :=
  tables.zipIdx.flatMap fun (t, i) => (List.range t.columns.length).map (i, ·)

/-- Adds what is inferred for the column at a position in the schema as it stands. A reference that
the column has is overwritten. -/
def inferAt (s : Schema) (position : Nat × Nat) : Schema :=
  (inferredLinkAt? s.tables position).elim s (s.addLink true)

/-- Adds the inferred relationships to a schema that has none and more than one table, one column
after another. -/
def infer (s : Schema) : Schema :=
  if s.relationships.isEmpty && 2 ≤ s.tables.length then
    (columnPositions s.tables).foldl inferAt s
  else s

end EntityMap.Schema
