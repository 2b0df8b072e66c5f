import EntityMap.Sql.Parser.Constraint

/-!
Declarations of tables and their columns.
-/

namespace EntityMap.Sql.Parser

/-! ### Columns -/

def computed? (typed : Bool) : Parser (Option ColumnConstraint) := do
  let inParentheses ← lookAhead (acceptAll ["AS", "("])
  let other : Parser Bool := return (← wordIn? ["ALIAS", "MATERIALIZED"]).isSome
  if ← either (onlyIf (!typed) (accept "AS")) other then
    let value ← require "an expression" grammar.disjunction
    discard (words ["PERSISTED"])
    let type ← if ← words ["AUTO"] then pure none else type? grammar .target
    discard (acceptAll ["NOT", "NULL"])
    return some (.wrapped none (.computed (value :: type.toList.map .type)))
  else if inParentheses || (← dialect) = .snowflake then after "AS" do
    let value ← require "an expression" grammar.disjunction
    discard (wordIn? ["STORED", "VIRTUAL"])
    return some (.wrapped none (.computed [value]))
  else return none

def assignedValue? : Parser (Option Expr) := do
  if (← dialect) ≠ .tsql then return none
  let value ← after "=" (some <$> require "a value" grammar.disjunction)
  discard (wordIn? ["OUT", "OUTPUT", "READONLY"])
  return value

/-- A column, given what it starts with. Without a type and constraints it is a bare name. -/
def columnAfter? (name : Option Expr) : Parser (Option TableElement) := do
  let type ← type? grammar .declared
  let computed ← computed? type.isSome
  let constraints := computed.toList ++ (← many columnConstraint?)
  let assigned ← assignedValue?
  if type.isNone && constraints.isEmpty then return name.map .bare
  else return some (.column ⟨← require "a name" (return name), type, constraints, assigned⟩)

def column : Parser (Option TableElement) := do columnAfter? (← field? grammar true)

def tableElements? : Parser (Option (List TableElement)) := do
  if ← listFollows then some <$> wrappedList (orElse tableConstraint? column) else return none

/-! ### Statements -/

def unread : Parser Command := do
  skipRest
  return .other "command"

def catalogued : List String := [
  "DATABASE", "FILE FORMAT", "NAMESPACE", "SCHEMA", "SEQUENCE", "STAGE", "STORAGE INTEGRATION",
  "STREAMLIT", "TABLE", "TAG", "VIEW", "WAREHOUSE"]

def creatables (dialect : Dialect) : List String :=
  ["COLUMN", "CONSTRAINT", "FOREIGN KEY", "FUNCTION", "INDEX", "PROCEDURE", "TRIGGER"] ++
    catalogued ++
    match dialect with
    | .postgres => ["TYPE"]
    | .tsql => ["CLUSTERED INDEX", "NONCLUSTERED INDEX", "PROC"]
    | _ => []

def creatable? : Parser (Option String) := do
  return (← acceptIn? (creatables (← dialect))).map fun key =>
    if key = "PROC" then "PROCEDURE"
    else if ["CLUSTERED INDEX", "NONCLUSTERED INDEX"].contains key then "INDEX" else key

def indexDefinition : Parser Command := do
  unless ← accept "ON" do
    discard (require "a name" (name? true))
    discard (accept "ON")
  discard (accept "TABLE")
  discard tableName
  discard indexParameters
  if ← onlyIf ((← dialect) = .postgres) (words ["TABLESPACE"]) then discard (word? true)
  return .other "create"

def content : Parser Unit := do
  let renamed ← accept "AS"
  unless ← nextIn ["SELECT", "WITH", "("] do discard properties
  match ← orElse grammar.query (wrappedQuery? grammar) with
  | some query => discard (grammar.combined query)
  | none => if renamed then discard (attempt (some <$> tableName))

def definition (kind : String) : Parser Command := do
  let name ← tableName
  earlyProperties
  let elements ← tableElements?
  discard properties
  if kind = "SEQUENCE" then
    discard (accept "AS")
    discard (type? grammar .target)
    discard properties
  else content
  if kind = "TABLE" then discard properties
  else if kind = "VIEW" then discard (words ["WITH", "NO", "SCHEMA", "BINDING"])
  if (← wordIn? ["CLONE", "COPY"]).isSome then discard tableName
  return if kind = "TABLE" then .createTable ⟨name, elements⟩ else .other "create"

/-- The values or parts of a type that is created; other types are not looked into. -/
def typeDefinition : Parser Command := do
  discard tableName
  unless ← accept "AS" do return ← unread
  if ← accept "ENUM" then
    discard (wrappedList (literal? grammar))
    return .other "create"
  else match ← tableElements? with
    | some _ => return .other "create"
    | none => unread

def triggerEvent? : Parser (Option Unit) := do
  match ← wordIn? ["DELETE", "INSERT", "TRUNCATE", "UPDATE"] with
  | none => return none
  | some key => do
    if key = "UPDATE" then
      if ← words ["OF"] then discard (commaSeparated (name? true))
    return some ()

/-- When a trigger calls which function. One with statements of its own is not looked into. -/
def triggerDefinition : Parser Command := do
  discard tableName
  unless (← wordIn? ["AFTER", "BEFORE"]).isSome do
    unless ← words ["INSTEAD", "OF"] do return ← unread
  discard triggerEvent?
  discard <| many (after "OR" triggerEvent?)
  unless ← accept "ON" do return ← unread
  discard tableName
  if ← accept "FROM" then discard tableName
  discard (many (phrase? keyOptionWords))
  if ← words ["REFERENCING"] then
    discard <| many do
      if (← wordIn? ["NEW", "OLD"]).isSome then
        discard (words ["TABLE"])
        discard (accept "AS")
        name? true
      else return none
  if ← words ["FOR"] then
    discard (words ["EACH"])
    discard (wordIn? ["ROW", "STATEMENT"])
  if ← accept "WHEN" then discard (wrapped (require "a condition" grammar.disjunction))
  if ← accept "EXECUTE" then
    unless (← wordIn? ["FUNCTION", "PROCEDURE"]).isSome do return ← unread
    discard (require "a function" (column? grammar))
    return .other "create"
  else unread

def createOptions : Parser Unit := do
  unless ← acceptAll ["OR", "REPLACE"] do discard (acceptAll ["OR", "ALTER"])
  discard (accept "UNIQUE")
  unless ← words ["CLUSTERED", "COLUMNSTORE"] do
    unless ← words ["NONCLUSTERED", "COLUMNSTORE"] do discard (words ["COLUMNSTORE"])
  if ← lookAhead (words ["TABLE", "FUNCTION"]) then skip

/-- What `CREATE` is followed by, given a parser for routines. A statement that goes on in an
unknown way is not looked into. -/
def create (routine : (kind : String) → Parser Command) : Parser Command := do
  createOptions
  let kind ← match ← creatable? with
    | some kind => pure (some kind)
    | none => if ← properties then creatable? else pure none
  match kind with
  | none => unread
  | some kind => do
    discard (words ["CONCURRENTLY"])
    discard (ifExists true)
    let command ← match kind with
      | "FUNCTION" | "PROCEDURE" => some <$> routine kind
      | "INDEX" => some <$> indexDefinition
      | "TRIGGER" => some <$> triggerDefinition
      | "TYPE" => some <$> typeDefinition
      | _ => if catalogued.contains kind then some <$> definition kind else pure none
    if (← atEnd) || (← nextIn [")", ","]) then require "a definition" (return command)
    else unread

end EntityMap.Sql.Parser
