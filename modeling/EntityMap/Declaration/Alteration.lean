import EntityMap.Declaration.ForeignKey

/-!
Foreign keys that are added to tables later. A pair is linked to the table and column that it
names, case aside; it is dropped if the altered table, its source column or the referenced table is
not there.
-/

namespace EntityMap.Schema

/-- Finds the source column and the target of a pair, and names them as the schema does. A
referenced column that the target table lacks keeps its written name. -/
def resolve? (s : Schema) (tableIndex : Nat) (pair : Relationship) : Option Link := do
  let table ← s.tables[tableIndex]?
  let columnIndex ← table.columnIndex? pair.sourceColumn
  let column ← table.columns[columnIndex]?
  let target ← s.findTable? pair.targetTable
  let targetColumn := ((target.findColumn? pair.targetColumn).map (·.name)).getD pair.targetColumn
  let relationship ← Relationship.ofNames? table.name column.name target.name targetColumn
  return ⟨tableIndex, columnIndex, relationship, relationship.target⟩

def alteredTable? (s : Schema) (a : TableAlteration) : Option Nat :=
  match a.name with
  | none => none
  | some name => if name = "" then none else s.tableIndex? (Identifier.clean name)

def alterationPairs (s : Schema) (tableIndex : Nat) (a : TableAlteration) : List Relationship :=
  a.foreignKeys.flatMap
    (ForeignKeyClause.relationships ((s.tables[tableIndex]?.map (·.name)).getD ""))

/-- Adds the foreign key of one pair, if the schema as it stands has what the pair names. A column
keeps the reference that it has. -/
def addPair (tableIndex : Nat) (s : Schema) (pair : Relationship) : Schema :=
  (s.resolve? tableIndex pair).elim s (s.addLink false)

def alterTable (s : Schema) (a : TableAlteration) : Schema :=
  match s.alteredTable? a with
  | none => s
  | some i => (s.alterationPairs i a).foldl (addPair i) s

def alter (s : Schema) (statements : List Statement) : Schema :=
  statements.foldl (fun s statement => match statement with
    | .alterTable a => s.alterTable a
    | _ => s) s

end EntityMap.Schema
