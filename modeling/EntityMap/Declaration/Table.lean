import EntityMap.Declaration.ForeignKey

/-!
Declared tables. `TableDefinition.build` makes a table and its relationships from one declaration;
`Schema.declare` does so for all declarations of a script, the last one of a name winning.
-/

namespace EntityMap

namespace ColumnDefinition

/-- The column without its foreign keys. It belongs to the primary key if it is declared so, counts
by itself, or is named in the key of the table, case aside. -/
def toColumn (primaryKeys : List String) (d : ColumnDefinition) : Column :=
  let name := Identifier.clean d.name
  let isPrimaryKey :=
    primaryKeys.contains (Text.lower name) || d.autoIncrement || d.primaryKey
  { name := name
    type := d.type
    isPrimaryKey := isPrimaryKey
    isForeignKey := false
    isNotNull := d.notNull || isPrimaryKey
    isUnique := d.unique
    references := none
    defaultValue := d.defaultValue }

def inlineRelationship? (table : String) (d : ColumnDefinition) : Option Relationship :=
  d.reference.bind fun clause =>
    let clause := { clause with columns := [Identifier.clean d.name] }
    (clause.relationships table).head?

end ColumnDefinition

namespace TableDefinition

/-- The name of a table that is declared without one. -/
def unknownName : String := "unknown"

def tableName (d : TableDefinition) : String :=
  let name := Identifier.clean (d.name.getD "")
  if name = "" then unknownName else name

def keyNames (d : TableDefinition) : List String :=
  d.primaryKeys.map fun key => Text.lower (Identifier.clean key)

def clausePairs (d : TableDefinition) : List Relationship :=
  d.foreignKeys.flatMap (ForeignKeyClause.relationships d.tableName)

/-- What the foreign keys of the table say about a column: the last pair with its name counts. -/
def clauseReference? (pairs : List Relationship) (column : String) : Option ColumnReference :=
  (pairs.reverse.find? fun r => Text.lower r.sourceColumn == Text.lower column).map (·.target)

/-- Builds the columns in order. `found` holds the relationships found so far, those of the earlier
columns included: they decide together with the reference whether a column is a foreign key. -/
def buildColumns (d : TableDefinition) :
    List ColumnDefinition → (found : List Relationship) → List Column × List Relationship
  | [], found => ([], found)
  | definition :: rest, found =>
    let column := definition.toColumn d.keyNames
    let inline? := definition.inlineRelationship? d.tableName
    let found := inline?.elim found (Relationship.appendUnique found)
    let references := match inline? with
      | some r => some r.target
      | none => clauseReference? d.clausePairs column.name
    let isForeignKey := references.isSome ||
      found.any fun r => Text.lower r.sourceColumn == Text.lower column.name
    let (columns, found) := buildColumns d rest found
    ({ column with references := references, isForeignKey := isForeignKey } :: columns, found)

def build (d : TableDefinition) : Table × List Relationship :=
  let (columns, relationships) :=
    d.buildColumns d.columns (d.clausePairs.foldl Relationship.appendUnique [])
  (⟨d.tableName, d.tableName, columns⟩, relationships)

end TableDefinition

namespace Schema

/-- Adds a declared table. If one has its name, that table and its relationships go. -/
def declareTable (s : Schema) (d : TableDefinition) : Schema :=
  let (table, relationships) := d.build
  let s := if s.hasTable table.name then s.removeRelationshipsFrom table.name else s
  relationships.foldl addRelationship (s.addTable table)

def declare (s : Schema) (statements : List Statement) : Schema :=
  statements.foldl (fun s statement => match statement with
    | .createTable d => s.declareTable d
    | _ => s) s

end Schema

end EntityMap
