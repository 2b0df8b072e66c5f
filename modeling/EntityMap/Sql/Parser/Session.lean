import EntityMap.Sql.Parser.Table

/-!
Statements about the session: variables, transactions, calls and other databases.
-/

namespace EntityMap.Sql.Parser

/-! ### Variables -/

def newValue : Parser Unit := do
  match ← orElse grammar.expression grammar.query with
  | some _ => pure ()
  | none => discard (require "a value" (name? true))

/-- A variable and what it is set to. Only in Transact-SQL may the sign between them be left
out. -/
def assigned? : Parser (Option Unit) := orBack do
  match ← orElse (literal? grammar) (column? grammar) with
  | none => return none
  | some _ => do
    let assigned ← wordIn? ["=", ":=", "TO"]
    if assigned.isNone && (← dialect) ≠ .tsql then return none
    newValue
    return some ()

def scopes (dialect : Dialect) : List String :=
  ["GLOBAL", "LOCAL", "SESSION"] ++ if dialect = .mysql then ["PERSIST", "PERSIST_ONLY"] else []

def setItem? : Parser (Option Unit) := do
  let dialect ← dialect
  let names := onlyIf (dialect = .mysql) do
    return (← wordIn? ["NAMES", "CHARSET", "CHARACTER SET"]).isSome
  if ← names then
    discard (orElse (field? grammar false) (return (← name? true).map .name))
    if ← accept "COLLATE" then discard (field? grammar false)
    return some ()
  discard (wordIn? (scopes dialect))
  if ← words ["TRANSACTION"] then
    skipRest
    return some ()
  else assigned?

def setVariables : Parser Command := do
  discard (commaSeparated setItem?)
  if ← atEnd then return .other "set" else unread

def declared? : Parser (Option Unit) := do
  match ← orElse parameter? (return (← name? true).map .name) with
  | none => return none
  | some _ => do
    discard (accept "AS")
    if ← accept "TABLE" then discard tableElements?
    else if (← type? grammar .declared).isNone then return none
    if (← acceptIn? ["=", "DEFAULT"]).isSome then discard (require "a value" grammar.bitwise)
    return some ()

def declareVariables : Parser Command := do
  let declared ← attempt do
    let found ← commaSeparated declared?
    return if found.isEmpty then none else some ()
  if declared.isSome && (← atEnd) then return .other "declare" else unread

/-! ### Transactions -/

def namedTransaction : Parser Command := do
  if (← wordIn? ["TRAN", "TRANSACTION"]).isNone then unread
  else do
    discard (name? true)
    if ← words ["WITH", "MARK"] then discard text?
    return .other "transaction"

def transaction : Parser Command := do
  if (← dialect) = .tsql then namedTransaction
  else if (← dialect) = .bigquery && !(← nextIs (·.readsAs "TRANSACTION")) then unread
  else do
    discard (wordIn? ["DEFERRED", "IMMEDIATE", "EXCLUSIVE"])
    discard (wordIn? ["TRANSACTION", "WORK"])
    discard <| commaSeparated do
      let modes ← many (acceptIf? fun t => t.kind = .word || t.is "NOT")
      return if modes.isEmpty then none else some ()
    return .other "transaction"

/-- What the word that ends a transaction is followed by. In Transact-SQL that is the name of the
transaction. -/
def transactionEnd (kind : String) : Parser Command := do
  if (← dialect) = .tsql then
    discard (wordIn? ["TRAN", "TRANSACTION"])
    discard (name? true)
    if ← onlyIf (kind = "commit") (nextAre ["WITH", "("]) then
      skip
      skipBalanced
  else
    discard (wordIn? ["TRANSACTION", "WORK"])
    if ← words ["TO"] then
      discard (words ["SAVEPOINT"])
      discard (name? true)
    if ← words ["AND"] then
      discard (words ["NO"])
      discard (words ["CHAIN"])
  return .other kind

/-! ### Calls and databases -/

def execute : Parser Command := do
  let name ← if ← nextIn ["("] then do
      skipBalanced
      pure ""
    else pure (← tableName).label
  discard (commaSeparated grammar.expression)
  return .other (if Text.lower name = "sp_executesql" then "executesql" else "execute")

def use : Parser Command := do
  discard <| orBack do
    match ← wordIn? ["ROLE", "WAREHOUSE", "DATABASE", "SCHEMA", "CATALOG"] with
    | some key => return if ← atEnd then none else some key
    | none => return none
  discard tableName
  return .other "use"

/-- What `CACHE` is followed by: a table that is kept in memory, perhaps with a query for its
rows. -/
def cache : Parser Command := do
  discard (words ["LAZY"])
  discard (accept "TABLE")
  discard tableName
  if ← words ["OPTIONS"] then skipBalanced
  discard (accept "AS")
  discard grammar.query
  return .other "cache"

def uncache : Parser Command := do
  expect "TABLE"
  discard (ifExists false)
  discard tableName
  return .other "uncache"

def kill : Parser Command := do
  discard (wordIn? ["CONNECTION", "QUERY"])
  discard (literal? grammar)
  return .other "kill"

def pragma : Parser Command := do
  if (← dialect) = .sqlite then skipRest else discard grammar.expression
  return .other "pragma"

/-- What the word is followed by that attaches a database or detaches it. -/
def attachment (kind : String) : Parser Command := do
  discard (accept "DATABASE")
  discard (ifExists (kind = "attach"))
  discard (orElse (literal? grammar) (return (← word? true).map .word))
  if ← accept "AS" then discard (name? true)
  if ← nextIn ["("] then skipBalanced
  return .other kind

end EntityMap.Sql.Parser
