import EntityMap.Sql.Parser.Table

/-!
Statements about what the database holds: comments, privileges, and what can be shown.
-/

namespace EntityMap.Sql.Parser

/-! ### Comments -/

/-- What `COMMENT` is followed by. The text must be there. Only the names of tables, columns and
routines may have several parts. -/
def comment : Parser Command := do
  discard (ifExists false)
  discard (accept "ON")
  discard (words ["MATERIALIZED"])
  match ← creatable? with
  | none => unread
  | some kind => do
    match kind with
    | "COLUMN" => discard (column? grammar)
    | "FUNCTION" | "PROCEDURE" => do
      discard tableName
      if ← nextIn ["("] then skipBalanced
    | "TABLE" => discard tableName
    | _ => discard (name? true)
    discard (accept "IS")
    discard (require "a text" text?)
    return .other "comment"

/-! ### Privileges -/

def privilege? : Parser (Option Unit) := do
  let parts ← many (acceptIf? fun t => !(["ON", ",", "("].any (t.is ·)))
  if ← nextIs (·.is "(") then discard (wrappedList (column? grammar))
  return if parts.isEmpty then none else some ()

/-- Privileges and the object that they are for; tells whether there is such an object. -/
def privileges : Parser Bool := do
  discard (commaSeparated privilege?)
  discard (accept "ON")
  discard creatable?
  return (← attempt (some <$> tableName)).isSome

def principals : Parser Unit := discard <| commaSeparated do
  discard (wordIn? ["GROUP", "ROLE"])
  name? true

def grant : Parser Command := do
  if (← privileges) && (← words ["TO"]) then
    principals
    discard (words ["WITH", "GRANT", "OPTION"])
    if ← atEnd then return .other "grant" else unread
  else unread

def revoke : Parser Command := do
  discard (words ["GRANT", "OPTION", "FOR"])
  if (← privileges) && (← words ["FROM"]) then
    principals
    discard (wordIn? ["CASCADE", "RESTRICT"])
    if ← atEnd then return .other "revoke" else unread
  else unread

/-! ### What is there -/

def analyze : Parser Command := do
  unless ← atEnd do
    discard (wordIn? ["FULL", "LOCAL", "NO_WRITE_TO_BINLOG", "VERBOSE"])
    discard (acceptIn? ["TABLE", "INDEX"])
    discard tableName
    discard columnNames
    discard properties
  return .other "analyze"

def shownWords : List (List String) := [
  ["BINARY", "LOGS"], ["MASTER", "LOGS"], ["BINLOG", "EVENTS"], ["CHARACTER SET"], ["CHARSET"],
  ["COLLATION"], ["DATABASES"], ["SCHEMAS"], ["STORAGE", "ENGINES"], ["ENGINES"], ["ERRORS"],
  ["EVENTS"], ["FUNCTION", "STATUS"], ["MASTER", "STATUS"], ["OPEN", "TABLES"], ["PLUGINS"],
  ["PROCEDURE", "STATUS"], ["PRIVILEGES"], ["FULL", "PROCESSLIST"], ["PROCESSLIST"], ["PROFILES"],
  ["PROFILE"], ["RELAYLOG", "EVENTS"], ["REPLICAS"], ["SLAVE", "HOSTS"], ["REPLICA", "STATUS"],
  ["SLAVE", "STATUS"], ["GLOBAL", "STATUS"], ["SESSION", "STATUS"], ["STATUS"],
  ["TABLE", "STATUS"], ["FULL", "TABLES"], ["TABLES"], ["TRIGGERS"], ["GLOBAL", "VARIABLES"],
  ["SESSION", "VARIABLES"], ["VARIABLES"], ["WARNINGS"]]

def shownOfObject : List (List String) := [
  ["FULL", "COLUMNS", "FROM"], ["COLUMNS", "FROM"], ["CREATE", "DATABASE"], ["CREATE", "EVENT"],
  ["CREATE", "FUNCTION"], ["CREATE", "PROCEDURE"], ["CREATE", "TABLE"], ["CREATE", "TRIGGER"],
  ["CREATE", "VIEW"], ["ENGINE"], ["FUNCTION", "CODE"], ["GRANTS", "FOR"], ["GRANTS"],
  ["INDEX", "FROM"], ["PROCEDURE", "CODE"]]

/-- Accepts one of some sequences of words; tells whether one is there. -/
def wordsOf (options : List (List String)) : Parser Bool :=
  return (← firstOf (options.map fun keys => return if ← words keys then some () else none)).isSome

def shownFilter : Parser Unit := do
  if ← words ["IN"] then discard text?
  if ← accept "FROM" then discard (name? true)
  else if ← accept "." then discard (name? true)
  if ← words ["FOR", "CHANNEL"] then discard (name? true)
  if ← accept "LIKE" then discard text?
  discard (condition? grammar "WHERE")
  if ← words ["FOR", "QUERY"] then discard grammar.term
  if ← accept "LIMIT" then
    discard grammar.term
    if (← acceptIn? [",", "OFFSET"]).isSome then discard grammar.term
  discard (wordIn? ["MUTEX", "STATUS"])

def shownKinds : List String := [
  "COLUMNS", "DATABASES", "FUNCTIONS", "OBJECTS", "PROCEDURES", "SCHEMAS", "SEQUENCES", "STAGES",
  "TABLES", "USERS", "VIEWS", "WAREHOUSES"]

/-- What `SHOW` is followed by. What is unknown is not looked into. -/
def showCommand : Parser Command := do
  match ← dialect with
  | .mysql => do
    if ← wordsOf shownWords then
      shownFilter
      return .other "show"
    else if ← wordsOf shownOfObject then
      discard (name? true)
      shownFilter
      return .other "show"
    else unread
  | .snowflake => do
    discard (words ["TERSE"])
    if ← wordsOf ([["PRIMARY", "KEYS"], ["PRIMARY KEY"], ["IMPORTED", "KEYS"],
        ["UNIQUE", "KEYS"]] ++ shownKinds.map ([·])) then
      skipRest
      return .other "show"
    else unread
  | .duckdb => do
    discard (words ["ALL"])
    if ← words ["TABLES"] then return .other "show" else unread
  | _ => unread

end EntityMap.Sql.Parser
