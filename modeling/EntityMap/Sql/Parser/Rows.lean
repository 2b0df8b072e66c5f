import EntityMap.Sql.Parser.Table

/-!
Statements that change the rows of tables.
-/

namespace EntityMap.Sql.Parser

def assignments : Parser Unit := discard (commaSeparated grammar.equality)

def returning? : Parser (Option Unit) := do
  match ← acceptIn? ["OUTPUT", "RETURNING"] with
  | none => return none
  | some _ => do
    discard (commaSeparated grammar.expression)
    if ← accept "INTO" then
      if (← parameter?).isNone then discard tableName
    return some ()

def rowConflict : Parser Unit := do
  if ← words ["ON", "CONFLICT"] then
    if ← words ["ON", "CONSTRAINT"] then discard (name? true)
    else if ← nextIs (·.is "(") then discard (wrappedList (ordered? grammar.disjunction))
    discard (condition? grammar "WHERE")
    if ← words ["DO", "UPDATE"] then
      discard (accept "SET")
      assignments
      discard (condition? grammar "WHERE")
    else discard (words ["DO", "NOTHING"])
  else if ← words ["ON", "DUPLICATE", "KEY"] then
    expect "UPDATE"
    discard (accept "SET")
    assignments

/-- The rows that are inserted: those of a query, perhaps with a name. -/
def insertedRows : Parser Unit := do
  if ← onlyIf ((← dialect) = .mysql) (accept "SET") then assignments
  else match ← grammar.query with
    | some _ => discard tableAlias
    | none =>
      match ← wrappedQuery? grammar with
      | some query => discard (grammar.combined (.paren query))
      | none => return

def insert : Parser Command := do
  discard (acceptIn? ["OVERWRITE"])
  discard (words ["IGNORE"])
  if ← accept "OR" then discard (wordIn? ["ABORT", "FAIL", "IGNORE", "REPLACE", "ROLLBACK"])
  discard (accept "INTO")
  discard (accept "TABLE")
  discard tableName
  if ← accept "PARTITION" then skipBalanced
  discard columnNames
  if ← nextIn ["AS"] then discard tableAlias
  discard returning?
  unless ← words ["DEFAULT", "VALUES"] do insertedRows
  rowConflict
  discard returning?
  return .other "insert"

def changeClause? : Parser (Option Unit) := do
  if ← accept "FROM" then
    discard (sources grammar)
    return some ()
  else if ← nextIn ["WHERE", "ORDER BY", "LIMIT"] then
    return (← clause? grammar).map fun _ => ()
  else returning?

def update : Parser Command := do
  discard (sources grammar)
  discard <| many do
    if ← accept "SET" then
      assignments
      return some ()
    else changeClause?
  return .other "update"

def delete : Parser Command := do
  unless ← nextIn ["FROM"] do discard (sources grammar)
  discard <| many do
    if ← accept "USING" then
      discard (sources grammar)
      return some ()
    else changeClause?
  return .other "delete"

def truncate : Parser Command := do
  discard (accept "DATABASE")
  discard (accept "TABLE")
  discard (ifExists false)
  discard <| commaSeparated do
    discard (words ["ONLY"])
    discard tableName
    discard columnNames
    return some ()
  unless ← words ["RESTART", "IDENTITY"] do discard (words ["CONTINUE", "IDENTITY"])
  discard (wordIn? ["CASCADE", "RESTRICT"])
  if ← atEnd then return .other "truncatetable" else unread

def copyOption? : Parser (Option Unit) := do
  match ← word? true with
  | none => return none
  | some _ => do
    discard (accept "=")
    discard (accept "AS")
    if ← nextIn ["("] then skipBalanced else discard (field? grammar false)
    discard (accept ",")
    return some ()

def copy : Parser Command := do
  discard (accept "INTO")
  if ← nextIn ["("] then skipBalanced
  else do
    discard tableName
    discard columnNames
  unless ← accept "FROM" do discard (words ["TO"])
  discard (commaSeparated (field? grammar false))
  discard (accept "WITH")
  if ← accept "(" then
    discard (many copyOption?)
    expect ")"
  else discard (many copyOption?)
  if ← atEnd then return .other "copy" else unread

def load : Parser Command := do
  unless ← words ["DATA"] do return ← unread
  discard (words ["LOCAL"])
  discard (words ["INPATH"])
  discard text?
  discard (accept "OVERWRITE")
  discard (acceptAll ["INTO", "TABLE"])
  discard tableName
  discard columnNames
  return .other "loaddata"

end EntityMap.Sql.Parser
