/-!
Statements of a script, as far as they tell something about tables. This is what a schema is built
from; how a statement was written in its dialect is gone.
-/

namespace EntityMap

/-- A foreign key: source columns, the referenced table, and its columns as far as they are
named. -/
structure ForeignKeyClause where
  columns : List String
  referencesTable : String
  referencesColumns : List String
  deriving DecidableEq, Inhabited, Repr

structure ColumnDefinition where
  name : String
  /-- The type with its parameters. -/
  type : String
  primaryKey : Bool
  autoIncrement : Bool
  notNull : Bool
  unique : Bool
  defaultValue : Option String
  reference : Option ForeignKeyClause
  deriving DecidableEq, Inhabited, Repr

structure TableDefinition where
  name : Option String
  columns : List ColumnDefinition
  primaryKeys : List String
  foreignKeys : List ForeignKeyClause
  deriving DecidableEq, Inhabited, Repr

/-- A change of a table; only the foreign keys that it adds count. -/
structure TableAlteration where
  name : Option String
  foreignKeys : List ForeignKeyClause
  deriving DecidableEq, Inhabited, Repr

inductive Statement where
  | createTable (definition : TableDefinition)
  | alterTable (alteration : TableAlteration)
  | other (kind : String)
  deriving DecidableEq, Inhabited, Repr

end EntityMap
