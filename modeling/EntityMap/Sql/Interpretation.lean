import EntityMap.Identifier
import EntityMap.Sql.Definition
import EntityMap.Sql.ExpressionKind
import EntityMap.Sql.Printer
import EntityMap.Statement

/-!
What the statements of a script tell about tables. Names come out in their clean form; columns,
keys and references keep the order in which they are written.
-/

namespace EntityMap.Sql

/-! ### Names and references -/

/-- The clean names of some columns, those that are empty left out. -/
def columnLabels (columns : List Expr) : List String := Identifier.cleanAll (columns.map (·.label))

def TableName.clean? (t : TableName) : Option String :=
  let name := Identifier.clean t.label
  if name = "" then none else some name

/-- The foreign key of some columns that a reference makes, if it names a table. -/
def Reference.clause? (columns : List String) (r : Reference) : Option ForeignKeyClause :=
  r.table.clean?.map fun table => ⟨columns, table, columnLabels r.columns⟩

namespace Constraint

def clause? : Constraint → Option ForeignKeyClause
  | foreignKey columns reference => reference.bind (·.clause? (columnLabels columns))
  | _ => none

def keyColumns : Constraint → List String
  | primaryKeyOf columns _ => columnLabels columns
  | _ => []

def apply (dialect : Dialect) (column : ColumnDefinition) : Constraint → ColumnDefinition
  | primaryKey _ => { column with primaryKey := true }
  | nullable allowed => { column with notNull := !allowed }
  | unique _ => { column with unique := true }
  | autoIncrement _ | generated _ none => { column with autoIncrement := true }
  | default (some value) => { column with defaultValue := some (value.render dialect) }
  | references reference => { column with reference := reference.clause? [column.name] }
  | generated _ (some _) | default none | primaryKeyOf _ _ | foreignKey _ _ | computed _
  | other _ => column

end Constraint

/-! ### Tables -/

def defaultType : String := "VARCHAR"

def ColumnDeclaration.bareConstraints (c : ColumnDeclaration) : List Constraint :=
  c.constraints.filterMap fun
    | .bare constraint => some constraint
    | _ => none

def ColumnDeclaration.wrappedConstraints (c : ColumnDeclaration) : List Constraint :=
  c.constraints.filterMap fun
    | .wrapped _ constraint => some constraint
    | _ => none

def ColumnDeclaration.definition (dialect : Dialect) (c : ColumnDeclaration) : ColumnDefinition :=
  let column : ColumnDefinition := {
    name := Identifier.clean c.label
    type := (c.type.map (·.render dialect)).getD defaultType
    primaryKey := false
    autoIncrement := false
    notNull := false
    unique := false
    defaultValue := none
    reference := none }
  (c.constraints.filterMap (·.constraint?)).foldl (Constraint.apply dialect) column

namespace TableElement

def definition? (dialect : Dialect) : TableElement → Option ColumnDefinition
  | column declaration => some (declaration.definition dialect)
  | _ => none

def constraints : TableElement → List Constraint
  | constraint c => [c]
  | named cs => cs
  | column _ | bare _ => []

/-- The constraints in an item by their depth: those of a table without a name; with one, or bare in
a column; and those in their wrappers in a column. -/
def constraintsByDepth : TableElement → List Constraint × List Constraint × List Constraint
  | constraint c => ([c], [], [])
  | named cs => ([], cs, [])
  | column declaration => ([], declaration.bareConstraints, declaration.wrappedConstraints)
  | bare _ => ([], [], [])

end TableElement

def TableDeclaration.definition (dialect : Dialect) (t : TableDeclaration) : TableDefinition :=
  let elements := t.elements.getD []
  let constraints := elements.flatMap (·.constraints)
  { name := t.name.clean?
    columns := elements.filterMap (·.definition? dialect)
    primaryKeys := constraints.flatMap (·.keyColumns)
    foreignKeys := constraints.filterMap (·.clause?) }

/-- The constraints that a change adds, those of a lower depth first. -/
def AlterAction.constraints : AlterAction → List Constraint
  | addConstraints elements =>
    let depths := elements.map (·.constraintsByDepth)
    depths.flatMap (·.1) ++ depths.flatMap (·.2.1) ++ depths.flatMap (·.2.2)
  | addColumn declaration => declaration.bareConstraints ++ declaration.wrappedConstraints
  | drop | other => []

/-! ### Statements -/

def Command.statement (dialect : Dialect) : Command → Statement
  | createTable declaration => .createTable (declaration.definition dialect)
  | alterTable name actions =>
    .alterTable ⟨name.clean?, (actions.flatMap (·.constraints)).filterMap (·.clause?)⟩
  | other kind => .other kind

def statements (dialect : Dialect) (commands : List Command) : List Statement :=
  commands.map (·.statement dialect)

end EntityMap.Sql
