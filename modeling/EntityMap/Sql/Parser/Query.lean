import EntityMap.Sql.Parser.Expression
import EntityMap.Sql.Parser.TableName

/-!
Queries. Their parts are kept in the order in which they are written, so that a query inside an
expression can be written again.
-/

namespace EntityMap.Sql.Parser

variable (g : Nested)

/-! ### Sources -/

/-- Keywords that go on after a table and are no name for it. -/
def noAliases : List String := [
  "ANTI", "ASOF", "FULL", "LEFT", "LIMIT", "LOCK", "NATURAL", "OFFSET", "RIGHT", "SEMI", "SET",
  "WINDOW"]

def tableAlias : Parser (List Expr) := do
  let any ← accept "AS"
  let name ← if !any && (← nextIn noAliases) then pure none else name? any
  let columns ← attempt do
    if ← nextIn ["("] then
      let names ← wrappedList (name? true)
      return if names.isEmpty then none else some (Expr.tuple (names.map .name))
    else return none
  let parts := name.toList.map Expr.name ++ columns.toList
  return if parts.isEmpty then [] else .word "AS" :: parts

def pivot? : Parser (Option Unit) := orBack do
  if (← acceptIn? ["PIVOT", "UNPIVOT"]).isNone then return none
  if (← wordIn? ["INCLUDE", "EXCLUDE"]).isSome then discard (words ["NULLS"])
  if ← nextIn ["("] then
    skipBalanced
    discard tableAlias
    return some ()
  else return none

def indexHint? : Parser (Option Unit) := orBack do
  if (← wordIn? ["FORCE", "IGNORE", "USE"]).isNone then return none
  if (← wordIn? ["INDEX", "KEY"]).isNone then return none
  if ← accept "FOR" then
    discard (wordIn? ["JOIN", "ORDER BY", "GROUP BY"])
  skipBalanced
  return some ()

/-- How a table is read: hints, a sample of its rows, or an old version of it. -/
def tableHints : Parser Unit := do
  if ← words ["WITH", "("] then
    match dropBalanced 0 (← get) with
    | some rest => set rest
    | none => failure ")"
  discard (many indexHint?)
  if (← dialect) = .postgres then discard (accept "*")
  if (← wordIn? ["TABLESAMPLE"]).isSome then
    discard (wordIn? ["BERNOULLI", "SYSTEM"])
    skipBalanced
  if ← accept "FOR SYSTEM_TIME" then
    discard (words ["AS", "OF"])
    discard g.bitwise

def history? : Parser (Option Unit) := orBack do
  if (← wordIn? ["AT", "BEFORE", "END"]).isNone then return none
  if ← lookAhead do
    discard (accept "(")
    return (← wordIn? ["OFFSET", "STATEMENT", "STREAM", "TIMESTAMP", "VERSION"]).isSome
  then
    skipBalanced
    return some ()
  else return none

/-- A table, a query in parentheses or a function that rows are taken from. -/
def source : Parser Expr := do
  let front ← if ← words ["LATERAL"] then pure [.word "LATERAL"] else pure []
  discard (words ["ONLY"])
  let table ← if ← accept "(" then do
      match ← g.query with
      | some query => do
        expect ")"
        pure (.paren query)
      | none => do
        let rest ← get
        match dropBalanced 0 rest with
        | some after => do
          set after
          pure (.paren (.word ""))
        | none => failure ")"
    else do
      match ← attempt (parenCall? g false false) with
      | some call => do
        unless ← words ["WITH", "OFFSET"] do discard (words ["WITH", "ORDINALITY"])
        pure call
      | none => pure (.column (← tableName).path)
  discard history?
  tableHints g
  discard (many pivot?)
  let label ← tableAlias
  if ← words ["WITH", "OFFSET"] then
    discard (accept "AS")
    discard (name? false)
  tableHints g
  discard (many pivot?)
  return .phrase (front ++ table :: label)

def join? : Parser (Option Expr) := orBack do
  let natural ← if ← words ["NATURAL"] then pure ["NATURAL"] else pure []
  let side ← wordIn? ["LEFT", "RIGHT", "FULL", "INNER", "CROSS", "SEMI", "ANTI", "ASOF"]
  let outer ← if ← words ["OUTER"] then pure ["OUTER"] else pure []
  let key ← orElse (acceptIn? ["JOIN", "STRAIGHT_JOIN"]) (wordIn? ["APPLY"])
  if key.isNone then return none
  let table ← source g
  let words := (natural ++ side.toList ++ outer ++ key.toList).map .word
  if ← accept "ON" then
    return some (.phrase (words ++ [table, .word "ON", ← require "a condition" g.disjunction]))
  else if ← accept "USING" then
    let columns ← wrappedList (name? true)
    return some (.phrase (words ++ [table, .word "USING", .tuple (columns.map .name)]))
  else return some (.phrase (words ++ [table]))

def joined : Parser Expr := do
  let table ← source g
  return .phrase (table :: (← many (join? g)))

def sources : Parser Expr := return .list (← commaSeparated (some <$> joined g))

/-! ### Clauses -/

def condition? (key : String) : Parser (Option Expr) :=
  after key (some <$> require "a condition" g.disjunction)

def grouping : Parser (List Expr) := do
  let items ← commaSeparated g.disjunction
  let items ← if ← accept "GROUPING SETS" then do
      skipBalanced
      pure items
    else pure items
  if ← words ["WITH"] then discard (wordIn? ["CUBE", "ROLLUP", "TOTALS"])
  return [.word "GROUP BY", .list items]

def fetched : Parser (List Expr) := do
  let direction := (← wordIn? ["FIRST", "NEXT"]).getD "FIRST"
  let count ← g.bitwise
  discard (words ["PERCENT"])
  discard (acceptIn? ["ROW", "ROWS"])
  unless ← words ["ONLY"] do discard (words ["WITH", "TIES"])
  return [.word "FETCH", .word direction] ++ count.toList ++ [.word "ROWS ONLY"]

def locking? : Parser (Option (List Expr)) := orBack do
  let isLock ← firstOf ([["FOR", "UPDATE"], ["FOR", "SHARE"], ["FOR", "NO", "KEY", "UPDATE"],
    ["FOR", "KEY", "SHARE"], ["LOCK", "IN", "SHARE", "MODE"]].map fun keys => do
      return if ← words keys then some () else none)
  if isLock.isNone then
    if ← words ["FOR"] then
      if (← wordIn? ["BROWSE", "JSON", "XML"]).isSome then
        skipRest
        return some []
    return none
  if ← words ["OF"] then discard (commaSeparated (some <$> tableName))
  unless ← words ["NOWAIT"] do discard (words ["SKIP", "LOCKED"])
  return some []

def clauseWords : List String := [
  "CLUSTER BY", "CONNECT BY", "DISTRIBUTE BY", "FETCH", "GROUP BY", "HAVING", "LIMIT", "OFFSET",
  "OPTION", "ORDER BY", "QUALIFY", "SORT BY", "START WITH", "WHERE", "WINDOW"]

def clauseAfter (key : String) : Parser (List Expr) := do
  match key with
  | "GROUP BY" => grouping g
  | "ORDER BY" => return [.word key, .list (← orderItems g)]
  | "CLUSTER BY" | "DISTRIBUTE BY" | "SORT BY" =>
    return [.word key, .list (← commaSeparated (ordered? g.disjunction))]
  | "LIMIT" => do
    let items ← commaSeparated g.bitwise
    match items with
    | [offset, count] => return [.word key, count, .word "OFFSET", offset]
    | items => return [.word key, .list items]
  | "OFFSET" => do
    let count ← g.bitwise
    discard (acceptIn? ["ROW", "ROWS"])
    return .word key :: count.toList
  | "FETCH" => fetched g
  | "OPTION" => do
    skipBalanced
    return []
  | "WINDOW" => do
    discard <| commaSeparated do
      let name ← name? false
      discard (accept "AS")
      skipBalanced
      return name
    return []
  | "CONNECT BY" => do
    discard (words ["NOCYCLE"])
    return [.word key, ← require "a condition" g.disjunction]
  | _ => return [.word key, ← require "a condition" g.disjunction]

def clause? : Parser (Option (List Expr)) := do
  match ← acceptIn? clauseWords with
  | some key => some <$> clauseAfter g key
  | none => locking?

def clauses : Parser (List Expr) := do
  let joins ← many (join? g)
  return joins ++ (← many (clause? g)).flatten

/-! ### The whole -/

def changeWords : List String := ["DELETE", "INSERT", "MERGE", "UPDATE"]

/-- A query that is given a name in front of another one. A statement in its place that changes
rows is not looked into. -/
def namedQuery? : Parser (Option Expr) := do
  match ← name? false with
  | none => return none
  | some name => do
    let columns ← if ← nextIn ["("] then wrappedList (name? true) else pure []
    expect "AS"
    discard (accept "NOT")
    discard (words ["MATERIALIZED"])
    let query ← if ← lookAhead do
        expect "("
        nextIn changeWords
      then do
        skipBalanced
        pure (.tuple [])
      else wrapped do return .paren (← require "a query" g.query)
    let columns := if columns.isEmpty then [] else [.tuple (columns.map .name)]
    return some (.phrase (.name name :: columns ++ [.word "AS", query]))

/-- The queries that are given names in front of another one, given the keyword for that. -/
def namedQueries? : Parser (Option (List Expr)) := after "WITH" do
  let recursive ← if ← words ["RECURSIVE"] then pure [.word "RECURSIVE"] else pure []
  let queries ← commaSeparated (namedQuery? g)
  if queries.isEmpty then failure "a query"
  return some (.word "WITH" :: recursive ++ [.list queries])

def top : Parser (List Expr) := do
  if ← words ["TOP"] then
    let count ← g.operand
    discard (words ["PERCENT"])
    discard (words ["WITH", "TIES"])
    return .word "TOP" :: count.toList
  else return []

def selection? : Parser (Option Expr) := after "SELECT" do
  discard <| many (wordIn? ["HIGH_PRIORITY", "SQL_BIG_RESULT", "SQL_CALC_FOUND_ROWS",
    "SQL_NO_CACHE", "SQL_SMALL_RESULT"])
  let distinct ← if (← acceptIn? ["DISTINCT", "DISTINCTROW"]).isSome then do
      let columns ← if ← accept "ON" then wrappedList g.disjunction else pure []
      let columns := if columns.isEmpty then [] else [.word "ON", .tuple columns]
      pure (.word "DISTINCT" :: columns)
    else do
      discard (accept "ALL")
      pure []
  let limit ← top g
  if ← accept "AS" then discard (wordIn? ["STRUCT", "VALUE"])
  let items ← commaSeparated g.expression
  if ← accept "INTO" then
    discard (words ["TEMPORARY"])
    discard (words ["TABLE"])
    discard (commaSeparated (orElse (parameter?) (return some (.column (← tableName).path))))
  let tables ← if ← accept "FROM" then pure [.word "FROM", ← sources g] else pure []
  let rest ← clauses g
  return some (.query .select
    (.word "SELECT" :: distinct ++ limit ++ .list items :: tables ++ rest))

def rows? : Parser (Option Expr) := after "VALUES" do
  let rows ← commaSeparated do
    discard (words ["ROW"])
    g.expression
  return some (.query .values [.word "VALUES", .list rows])

def tablesFirst? : Parser (Option Expr) := after "FROM" do
  let tables ← sources g
  let rest ← clauses g
  let items ← after "SELECT" (some <$> commaSeparated g.expression)
  let rest := rest ++ (← clauses g)
  return some (.query .select
    (.word "SELECT" :: .list (items.getD [.star]) :: .word "FROM" :: tables :: rest))

def wholeTable? : Parser (Option Expr) := do
  unless [.mysql, .postgres].contains (← dialect) do return none
  after "TABLE" do
    let table ← tableName
    let rest ← clauses g
    return some (.query .select
      (.word "SELECT" :: .star :: .word "FROM" :: .column table.path :: rest))

def combinations : List (String × QueryKind) := [
  ("UNION", .union), ("INTERSECT", .intersect), ("EXCEPT", .except), ("MINUS", .except)]

def wrappedQuery? : Parser (Option Expr) := after "(" do
  let query ← require "a query" g.query
  expect ")"
  return some query

def combined (first : Expr) : Parser Expr :=
  goOn (fun left => do
    match ← acceptIn? (combinations.map (·.1)) with
    | none => return none
    | some key => do
      let every ← if ← accept "DISTINCT" then pure []
        else if ← accept "ALL" then pure [.word "ALL"] else pure []
      discard (words ["BY", "NAME"])
      let paren : Parser (Option Expr) := return (← wrappedQuery? g).map .paren
      let right ← require "a query" (firstOf [selection? g, rows? g, paren, wholeTable? g])
      let rest ← clauses g
      let kind := (combinations.lookup key).getD .union
      return some (.query kind (left :: .word key :: every ++ right :: rest))) first

/-- A query that does not start with those that are given names. -/
def plainQuery? : Parser (Option Expr) := do
  match ← firstOf [selection? g, rows? g, tablesFirst? g, wholeTable? g] with
  | some first => return some (← combined g first)
  | none => return none

def query? : Parser (Option Expr) := do
  match ← namedQueries? g with
  | some names => do
    let query ← require "a query" <| orElse (plainQuery? g) do
      match ← wrappedQuery? g with
      | some query => return some (← combined g (.paren query))
      | none => return none
    return some (.query .select (names ++ [query]))
  | none => plainQuery? g

end EntityMap.Sql.Parser
