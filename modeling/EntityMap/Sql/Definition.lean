import EntityMap.Sql.Expression

/-!
Statements about tables, as they are written. What has no bearing on tables, their columns and keys
is left out. Since a column without a name of its own is called by the outermost name anywhere in
its declaration, a declaration keeps all the expressions in it. Only what stands in the parentheses
of `WITH` and `OPTIONS` is not kept.
-/

namespace EntityMap.Sql

/-- The name of a table, perhaps with its schema in front, the outermost first. -/
structure TableName where
  path : List Name
  deriving DecidableEq, Inhabited, Repr

def TableName.label (t : TableName) : String := (t.path.getLast?.map (·.text)).getD ""

structure Reference where
  table : TableName
  columns : List Expr
  deriving Inhabited

/-- What a constraint on a column or on a whole table says. The `parts` are other expressions in it,
which say nothing here. -/
inductive Constraint where
  /-- A primary key that names no columns. -/
  | primaryKey (parts : List Expr)
  | primaryKeyOf (columns parts : List Expr)
  | foreignKey (columns : List Expr) (reference : Option Reference)
  | references (reference : Reference)
  | nullable (allowed : Bool)
  | unique (parts : List Expr)
  | autoIncrement (parts : List Expr)
  /-- A value that the database generates, by an expression or else by counting up. -/
  | generated (parts : List Expr) (expression : Option Expr)
  | computed (parts : List Expr)
  | default (value : Option Expr)
  | other (parts : List Expr)
  deriving Inhabited

inductive ColumnConstraint where
  /-- A constraint in its wrapper, which has the name if there is one. -/
  | wrapped (name : Option Name) (constraint : Constraint)
  | bare (constraint : Constraint)
  /-- A name that no constraint follows. -/
  | name (name : Name)
  deriving Inhabited

/-- A column: an expression that names it, its type if one is given, its constraints, and the value
that is assigned behind them. -/
structure ColumnDeclaration where
  name : Expr
  type : Option DataType
  constraints : List ColumnConstraint
  assigned : Option Expr
  deriving Inhabited

inductive TableElement where
  | column (declaration : ColumnDeclaration)
  /-- A name with neither a type nor a constraint. -/
  | bare (name : Expr)
  | constraint (constraint : Constraint)
  /-- The constraints that follow `CONSTRAINT` and a name. -/
  | named (constraints : List Constraint)
  deriving Inhabited

structure TableDeclaration where
  name : TableName
  elements : Option (List TableElement)
  deriving Inhabited

inductive AlterAction where
  | addConstraints (elements : List TableElement)
  | addColumn (declaration : ColumnDeclaration)
  | drop
  | other
  deriving Inhabited

inductive Command where
  | createTable (declaration : TableDeclaration)
  | alterTable (name : TableName) (actions : List AlterAction)
  | other (kind : String)
  deriving Inhabited

/-! ### Names in declarations -/

def TableName.namesByDepth (t : TableName) : List (List String) :=
  [[], t.path.reverse.map (·.text)]

/-- The columns lie between the reference and its table. -/
def Reference.namesByDepth (r : Reference) : List (List String) :=
  if r.columns.isEmpty then [] :: r.table.namesByDepth
  else [] :: [] :: mergeLevels r.table.namesByDepth (namesOfAll r.columns)

def Constraint.namesByDepth : Constraint → List (List String)
  | primaryKey parts | unique parts | autoIncrement parts | computed parts | other parts =>
    [] :: namesOfAll parts
  | primaryKeyOf columns parts => [] :: mergeLevels (namesOfAll columns) (namesOfAll parts)
  | foreignKey columns reference =>
    [] :: mergeLevels (namesOfAll columns) (reference.elim [] (·.namesByDepth))
  | references reference => reference.namesByDepth
  | nullable _ => []
  | generated parts expression =>
    [] :: mergeLevels (namesOfAll parts) (namesOfOption expression)
  | default value => [] :: namesOfOption value

namespace ColumnConstraint

def constraint? : ColumnConstraint → Option Constraint
  | wrapped _ c | bare c => some c
  | name _ => none

def namesByDepth : ColumnConstraint → List (List String)
  | wrapped n c => [] :: mergeLevels (n.toList.map fun n => [n.text]) c.namesByDepth
  | bare c => c.namesByDepth
  | name n => [[n.text]]

end ColumnConstraint

namespace ColumnDeclaration

def constraintNames (constraints : List ColumnConstraint) : List (List String) :=
  constraints.foldr (fun c levels => mergeLevels c.namesByDepth levels) []

def namesByDepth (c : ColumnDeclaration) : List (List String) :=
  [] :: mergeLevels c.name.namesByDepth (mergeLevels (c.type.elim [] (·.namesByDepth))
    (mergeLevels (constraintNames c.constraints) (namesOfOption c.assigned)))

/-- The text that stands in the place of the name, nothing if an expression does. -/
def ownName (c : ColumnDeclaration) : String := c.name.ownText?.getD ""

/-- The name of the column: its own, or else the outermost name in the whole declaration. -/
def label (c : ColumnDeclaration) : String :=
  if c.ownName = "" then firstName c.namesByDepth else c.ownName

end ColumnDeclaration

end EntityMap.Sql
