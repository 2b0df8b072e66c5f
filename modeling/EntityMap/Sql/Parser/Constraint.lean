import EntityMap.Sql.Parser.Property

/-!
Constraints of columns and tables.
-/

namespace EntityMap.Sql.Parser

/-! ### Keys -/

def keyOptionWords : List (String × List (List String)) := [
  ("NOT", [["ENFORCED"]]), ("MATCH", [["FULL"], ["PARTIAL"], ["SIMPLE"]]),
  ("INITIALLY", [["DEFERRED"], ["IMMEDIATE"]]), ("USING", [["BTREE"], ["HASH"]]),
  ("DEFERRABLE", []), ("NORELY", []), ("RELY", [])]

def keyAction : Parser Unit := do
  discard (require "an event" (word? true))
  if ← words ["NO", "ACTION"] then return
  if (← wordIn? ["CASCADE", "RESTRICT"]).isSome then return
  if ← acceptAll ["SET", "NULL"] then return
  unless ← acceptAll ["SET", "DEFAULT"] do failure "an action"

def keyOptions : Parser Unit := discard <| many do
  if ← accept "ON" then
    keyAction
    return some ()
  else if ← onlyIf ((← dialect) = .mysql) (accept "COMMENT") then return (← text?).map fun _ => ()
  else return (← phrase? keyOptionWords).map fun _ => ()

def reference : Parser Reference := do
  discard (words ["ONLY"])
  let table ← tableName
  let columns ← columnNames
  keyOptions
  return ⟨table, columns⟩

def reference? : Parser (Option Reference) := after "REFERENCES" (some <$> reference)

/-- What is done with a foreign key that has no reference when the other table changes. -/
def foreignKeyAction? : Parser (Option Unit) := after "ON" do
  unless (← acceptIn? ["DELETE", "UPDATE"]).isSome do failure "DELETE or UPDATE"
  if ← words ["NO", "ACTION"] then return some ()
  if ← accept "SET" then discard (acceptIn? ["NULL", "DEFAULT"]) else skip
  return some ()

/-- What `FOREIGN KEY` is followed by. Only in MySQL may it have a name. -/
def foreignKey : Parser Constraint := do
  if (← dialect) = .mysql then
    discard <| orBack do
      let name ← name? true
      return if ← nextIs (·.is "(") then name else none
  let columns ← if ← nextIn ["REFERENCES"] then pure []
    else wrappedList do return (← name? true).map .name
  let reference ← reference?
  discard (many foreignKeyAction?)
  keyOptions
  return .foreignKey columns reference

def indexedExpression? : Parser (Option Expr) := do
  match ← grammar.disjunction with
  | none => return none
  | some value => do
    let plain ← nextIs fun t =>
      ["ASC", "DESC", "NULLS", "WITH"].any (t.readsAs ·) || [",", ")"].any (t.is ·)
    if plain then return some value
    return some (.phrase [value, tableExpression (← tableName) []])

def indexParameters : Parser Expr := do
  if ← accept "USING" then discard (word? true)
  let columns ← if ← nextIs (·.is "(") then wrappedList do
      match ← ordered? indexedExpression? with
      | none => return none
      | some value => do
        if ← accept "WITH" then skip
        return some value
    else pure []
  let included ← if ← words ["INCLUDE"] then wrappedList (name? true) else pure []
  let partition ← if ← accept "PARTITION BY" then commaSeparated grammar.disjunction else pure []
  if ← accept "WITH" then wrappedProperties
  if ← words ["USING", "INDEX", "TABLESPACE"] then discard (word? true)
  let condition ← condition? grammar "WHERE"
  let place ← after "ON" (field? grammar false)
  return .phrase (columns ++ included.map .name ++ partition ++
    condition.toList.map (fun e => .phrase [e]) ++ place.toList)

/-- A column of a primary key: in MySQL perhaps with a length, in Transact-SQL with an order. -/
def primaryKeyPart? : Parser (Option Expr) := do
  match ← dialect with
  | .mysql => do
    let name ← name? true
    if ← accept "(" then
      discard (acceptIf? (·.kind = .number))
      expect ")"
    return name.map .name
  | .tsql => do
    match ← grammar.disjunction with
    | none => return none
    | some column => return some (.ordered column (← acceptIn? ["ASC", "DESC"]).toList)
  | _ => field? grammar false

/-! ### Other constraints -/

def constraintWords (dialect : Dialect) : List String := [
  "AUTOINCREMENT", "AUTO_INCREMENT", "CASESPECIFIC", "CHARACTER SET", "CHECK", "CLUSTERED",
  "COLLATE", "COMMENT", "COMPRESS", "DEFAULT", "ENCODE", "EPHEMERAL", "EXCLUDE", "FOREIGN KEY",
  "FORMAT", "GENERATED", "IDENTITY", "INLINE", "LIKE", "NONCLUSTERED", "NOT", "NULL", "ON", "PATH",
  "PERIOD", "PRIMARY KEY", "REFERENCES", "TITLE", "TTL", "UNIQUE", "UPPERCASE", "WITH"] ++
  match dialect with
  | .mysql =>
    ["BINARY", "CHARSET", "FULLTEXT", "INDEX", "INVISIBLE", "KEY", "SPATIAL", "ZEROFILL"]
  | .bigquery => ["OPTIONS"]
  | _ => []

def tableConstraintWords (dialect : Dialect) : List String :=
  ["CHECK", "EXCLUDE", "FOREIGN KEY", "LIKE", "PERIOD", "PRIMARY KEY", "UNIQUE"] ++
    if dialect = .mysql then ["FULLTEXT", "INDEX", "KEY", "SPATIAL"] else []

def orderedList : Parser (List Expr) := wrappedList (ordered? grammar.disjunction)

def indexOption? : Parser (Option Unit) := do
  if ← words ["KEY_BLOCK_SIZE"] then
    discard (accept "=")
    discard (acceptIf? (·.kind = .number))
    return some ()
  else if ← either (accept "USING") (words ["WITH", "PARSER"]) then
    discard (word? true)
    return some ()
  else if ← accept "COMMENT" then
    discard text?
    return some ()
  else if (← wordIn? ["ENGINE_ATTRIBUTE", "SECONDARY_ENGINE_ATTRIBUTE"]).isSome then
    discard (accept "=")
    discard text?
    return some ()
  else return (← wordIn? ["VISIBLE", "INVISIBLE"]).map fun _ => ()

def index : Parser Constraint := do
  let name ← name? false
  if ← accept "USING" then discard (word? true)
  let columns ← orderedList
  discard (many indexOption?)
  return .other (name.toList.map .name ++ columns)

def conflict : Parser Unit := do
  if ← words ["ON", "CONFLICT"] then
    discard (wordIn? ["ABORT", "FAIL", "IGNORE", "REPLACE", "ROLLBACK"])

def named (name : Option Name) (columns : List Expr) : List Expr :=
  let name := name.toList.map .name
  if columns.isEmpty then name else [.phrase (name ++ columns)]

def unique : Parser Constraint := do
  let dialect ← dialect
  if dialect = .tsql then
    if (← wordIn? ["CLUSTERED", "NONCLUSTERED"]).isSome then
      return .unique [.phrase (← orderedList)]
    else
      let name ← name? false
      return .unique (named name (← columnNames))
  else
    discard (wordIn? ["KEY", "INDEX"])
    discard (words ["NULLS", "NOT", "DISTINCT"])
    let anonymous ← nextIs fun t => (constraintWords dialect).any (t.readsAs ·)
    let name ← if dialect ≠ .postgres && !anonymous then name? false else pure none
    let columns ← if dialect = .mysql then do
        if ← accept "USING" then discard (word? true)
        let columns ← if ← nextIn ["("] then orderedList else pure []
        discard (many indexOption?)
        pure columns
      else do
        let columns ← columnNames
        if ← accept "USING" then discard (word? true)
        pure columns
    conflict
    keyOptions
    return .unique (named name columns)

/-- The name of a primary key in MySQL, if its columns follow. -/
def primaryKeyName? : Parser (Option Name) := do
  if (← dialect) ≠ .mysql then return none
  match ← get with
  | t :: next :: _ =>
    if next.is "(" && !(constraintWords .mysql).any (t.readsAs ·) then name? false else return none
  | _ => return none

/-- What `PRIMARY KEY` is followed by. PostgreSQL looks for the columns of the index only. -/
def primaryKey : Parser Constraint := do
  discard (acceptIn? ["ASC", "DESC"])
  let name ← primaryKeyName?
  if ← nextIs (·.is "(") then
    let columns ← wrappedList primaryKeyPart?
    if columns.isEmpty then failure "a column"
    let index ← indexParameters
    keyOptions
    return .primaryKeyOf columns (name.toList.map .name ++ [index])
  else if (← dialect) = .postgres && (← nextIn ["USING"]) then
    let index ← indexParameters
    keyOptions
    return .primaryKey [index]
  else do
    keyOptions
    return .primaryKey []

def bound? (keys : List String) : Parser (Option Expr) := do
  if ← either (acceptAll keys) (words keys) then grammar.bitwise else return none

def generator : Parser (List Expr × Option Expr) := do
  let counted ← words ["IDENTITY"]
  unless ← accept "(" do return ([], none)
  let start ← bound? ["START WITH"]
  let step ← bound? ["INCREMENT", "BY"]
  let low ← bound? ["MINVALUE"]
  let high ← bound? ["MAXVALUE"]
  let bounds := start.toList ++ step.toList ++ low.toList ++ high.toList
  unless ← words ["CYCLE"] do discard (words ["NO", "CYCLE"])
  let found ← if !counted then do pure (bounds, ← range? grammar)
    else if ← nextIs (·.kind = .number) then do
      pure (bounds ++ (← commaSeparated grammar.bitwise), none)
    else pure (bounds, none)
  expect ")"
  return found

/-- What `GENERATED` is followed by. A column whose values are kept is computed. -/
def generated : Parser Constraint := do
  if ← words ["BY", "DEFAULT"] then discard (acceptAll ["ON", "NULL"])
  else discard (words ["ALWAYS"])
  discard (accept "AS")
  if ← words ["ROW"] then
    unless ← words ["START"] do discard (accept "END")
    discard (words ["HIDDEN"])
    return .other []
  let (bounds, value) ← generator
  let kept ← match ← dialect with
    | .mysql => wordIn? ["STORED", "VIRTUAL"]
    | .postgres => wordIn? ["STORED"]
    | _ => pure none
  return if kept.isSome then .computed value.toList else .generated bounds value

def negated? : Parser (Option Constraint) := do
  if ← accept "NULL" then return some (.nullable false)
  else if ← words ["CASESPECIFIC"] then return some (.other [])
  else return if ← words ["FOR", "REPLICATION"] then some (.other []) else none

def valueOrWord : Parser Unit := discard (orElse text? (word? false))

/-- The start and the step of a column that is counted up. One without the other is not kept. -/
def counter : Parser (List Expr) := do
  let bounds ← if ← nextIs (·.is "(") then wrappedList grammar.bitwise
    else if ← words ["START"] then do
      let start ← grammar.bitwise
      discard (words ["INCREMENT"])
      pure (start.toList ++ (← grammar.bitwise).toList)
    else pure []
  return if bounds.length < 2 then [] else bounds.take 2

/-- What follows the word that a constraint starts with. A word may also turn out not to start
one. -/
def constraintAfter? (key : String) : Parser (Option Constraint) := do
  let dialect ← dialect
  let other (p : Parser (List Expr)) : Parser (Option Constraint) := return some (.other (← p))
  let nameless (p : Parser Unit) : Parser (Option Constraint) := do
    p
    return some (.other [])
  match key with
  | "AUTOINCREMENT" | "AUTO_INCREMENT" | "IDENTITY" => return some (.autoIncrement (← counter))
  | "CHARACTER SET" | "CHARSET" | "ENCODE" | "FORMAT" | "TITLE" => nameless valueOrWord
  | "CHECK" =>
    if ← nextIs (·.is "(") then other do
      let condition ← wrapped (require "a condition" grammar.disjunction)
      discard (words ["ENFORCED"])
      return [condition]
    else return none
  | "CLUSTERED" | "NONCLUSTERED" => other orderedList
  | "COLLATE" => other do
    match ← quotedName? with
    | some name => return [.name name]
    | none => return [← require "a collation" (column? grammar)]
  | "COMMENT" => nameless do discard (require "a text" text?)
  | "COMPRESS" => other do
    if ← nextIs (·.is "(") then wrappedList grammar.bitwise else return (← grammar.bitwise).toList
  | "DEFAULT" => return some (.default (some (← require "a value" grammar.bitwise)))
  | "EPHEMERAL" => other do return (← grammar.bitwise).toList
  | "EXCLUDE" => other do return [← indexParameters]
  | "FOREIGN KEY" => do
    if dialect = .snowflake && (← nextIn ["REFERENCES"]) then return (← reference?).map .references
    return some (← foreignKey)
  | "FULLTEXT" | "SPATIAL" => do
    discard (wordIn? ["INDEX", "KEY"])
    return some (← index)
  | "GENERATED" => return some (← generated)
  | "INDEX" | "KEY" => return some (← index)
  | "INLINE" => other do
    unless ← words ["LENGTH"] do failure "LENGTH"
    return (← grammar.bitwise).toList
  | "LIKE" => other do return [← likeTable]
  | "NOT" => negated?
  | "NULL" => return some (.nullable true)
  | "ON" => other do
    if ← accept "UPDATE" then return [← require "a function" (call? grammar false false)]
    else return [.name (← require "a name" (name? true))]
  | "OPTIONS" => nameless wrappedProperties
  | "PATH" => nameless do discard (require "a text" text?)
  | "PERIOD" =>
    if ← either (accept "FOR SYSTEM_TIME")
        (onlyIf (dialect = .mysql) (words ["FOR", "SYSTEM_TIME"])) then
      other do return ((← wrappedList (name? true)).take 2).map .name
    else return none
  | "PRIMARY KEY" => return some (← primaryKey)
  | "REFERENCES" => return some (.references (← reference))
  | "TTL" => other (commaSeparated grammar.bitwise)
  | "UNIQUE" => return some (← unique)
  | "WITH" => nameless wrappedProperties
  | _ => return some (.other [])

/-! ### Constraints in their places -/

/-- A constraint of a column, perhaps with a name. A name alone counts, too. The word `KEY` makes
the column a primary key. -/
def columnConstraint? : Parser (Option ColumnConstraint) := do
  let name ← after "CONSTRAINT" (name? true)
  match ← wordIn? (constraintWords (← dialect)) with
  | some "KEY" => return some (.wrapped name (.primaryKey []))
  | some key => return some (.wrapped name (← require "a constraint" (constraintAfter? key)))
  | none => return name.map .name

def unnamedConstraint? (keys : List String) : Parser (Option Constraint) := orBack do
  if ← nextIs (·.kind = .quotedName) then return none
  match ← wordIn? keys with
  | some key => constraintAfter? key
  | none => return none

/-- Whether a name stands between `CONSTRAINT` and the constraint. In MySQL it may be left out. -/
def isNamed : Parser Bool := do
  if (← dialect) = .mysql then
    return !(← nextIn ["FOREIGN KEY", "PRIMARY KEY", "UNIQUE"]) &&
      !(← nextIs (·.readsAs "CHECK"))
  else return true

/-- The constraints that follow `CONSTRAINT` and a name. -/
def namedConstraints? : Parser (Option (List Constraint)) := after "CONSTRAINT" do
  if ← isNamed then discard (require "a name" (name? true))
  let keys := constraintWords (← dialect)
  let found ← many <| orElse (unnamedConstraint? keys) do
    return (← call? grammar false false).map fun call => .other [call]
  if found.isEmpty then failure "a constraint" else return some found

def tableConstraint? : Parser (Option TableElement) := do
  match ← namedConstraints? with
  | some found => return some (.named found)
  | none => return (← unnamedConstraint? (tableConstraintWords (← dialect))).map .constraint

end EntityMap.Sql.Parser
