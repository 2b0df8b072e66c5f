import EntityMap.Sql.Parser.Table

/-!
Changes of tables, and dropping objects.
-/

namespace EntityMap.Sql.Parser

/-! ### Dropping -/

def dropOptions : Parser Unit := do
  unless ← words ["CASCADE"] do discard (words ["RESTRICT"])
  discard (words ["CONSTRAINTS"])
  discard (words ["PURGE"])

def droppedObject (kind : String) : Parser Unit := do
  discard (words ["CONCURRENTLY"])
  discard (ifExists false)
  if kind = "COLUMN" then discard (column? grammar) else discard tableName
  if ← accept "ON" then location
  if ← nextIs (·.is "(") then discard (wrappedList (type? grammar .target))

/-- What `DROP` is followed by. A statement that drops something unknown is not looked into. -/
def drop : Parser Command := do
  discard (acceptIn? ["TEMP", "TEMPORARY"])
  discard (words ["MATERIALIZED"])
  match ← creatable? with
  | none => unread
  | some kind => do
    droppedObject kind
    discard (many (after "," (some <$> droppedObject kind)))
    dropOptions
    return .other "drop"

/-! ### Adding -/

def addedConstraints (dialect : Dialect) : List String :=
  ["CONSTRAINT", "FOREIGN KEY", "INDEX", "KEY", "PRIMARY KEY", "UNIQUE"] ++
    if dialect = .mysql then ["FULLTEXT", "SPATIAL"] else []

def continuesAlteration (dialect : Dialect) : Bool := [.mysql, .postgres].contains dialect

def addsSeveral (dialect : Dialect) : Bool := [.tsql, .snowflake, .oracle].contains dialect

def constraintFollows : Parser Bool := do
  let keys := addedConstraints (← dialect)
  nextIs fun t => t.kind ≠ .quotedName && keys.any (t.readsAs ·)

def addedColumn? : Parser (Option AlterAction) := orBack do
  discard (accept "COLUMN")
  discard (ifExists true)
  match ← column with
  | some (.column declaration) => return some (.addColumn declaration)
  | _ => return none

def addedConstraints? : Parser (Option AlterAction) := do
  let dialect ← dialect
  let found ← if continuesAlteration dialect then strictlyCommaSeparated tableConstraint?
    else commaSeparated tableConstraint?
  if found.isEmpty then failure "a constraint" else return some (.addConstraints found)

def place : Parser Unit := do
  if (← wordIn? ["FIRST", "AFTER"]).isSome then discard (column? grammar)

def addition? (added : Bool) : Parser (Option AlterAction) := do
  let added := (← words ["ADD"]) || added
  if ← constraintFollows then addedConstraints?
  else if added then
    match ← addedColumn? with
    | none => return none
    | some action => do
      place
      return some action
  else return none

def additions : Parser (List AlterAction) := do
  let dialect ← dialect
  if addsSeveral dialect && !(← constraintFollows) then
    match ← tableElements? with
    | some elements => return [.addConstraints elements]
    | none => commaSeparated addedColumn?
  else
    let first ← addition? true
    let next := after "," (addition? false)
    let rest ← many (if continuesAlteration dialect then orBack next else next)
    return first.toList ++ rest

/-! ### Other changes -/

/-- What the type of a column is changed to. PostgreSQL insists on the word in front of it. -/
def alteredType : Parser Bool := do
  discard (words ["SET", "DATA"])
  let marked ← words ["TYPE"]
  if (← dialect) = .postgres && !marked then return false
  discard (type? grammar .target)
  if ← accept "COLLATE" then discard (term? grammar)
  if ← accept "USING" then discard grammar.disjunction
  if (← dialect) = .tsql then discard (many columnConstraint?)
  return true

/-- What `ALTER` is followed by inside the change of a table; tells whether it is understood. -/
def alteredColumn : Parser Bool := do
  if (← dialect) = .mysql then
    if ← accept "INDEX" then
      discard (require "a name" (name? true))
      return (← wordIn? ["VISIBLE", "INVISIBLE"]).isSome
  discard (accept "COLUMN")
  discard (field? grammar true)
  if ← acceptAll ["DROP", "DEFAULT"] then return true
  if ← acceptAll ["SET", "DEFAULT"] then
    discard (require "a value" grammar.disjunction)
    return true
  if ← accept "COMMENT" then
    discard text?
    return true
  if ← words ["DROP", "NOT", "NULL"] then return true
  if ← words ["SET", "NOT", "NULL"] then return true
  if ← words ["SET", "VISIBLE"] then return true
  if ← words ["SET", "INVISIBLE"] then return true
  alteredType

def redeclared (renamed : Bool) : Parser Bool := do
  discard (accept "COLUMN")
  if renamed then discard (require "a column" (name? true))
  match ← column with
  | some (.column _) => do
    place
    return true
  | _ => return false

def droppedPartition? : Parser (Option Unit) := after "PARTITION" do
  discard (wrappedList grammar.disjunction)
  return some ()

def droppedWords : List String := ["CHECK", "CONSTRAINT", "FOREIGN KEY", "INDEX", "KEY"]

/-- What is dropped from a table, given `DROP`. In MySQL that is a column if nothing else is
said; in other dialects a change that drops something unknown is not looked into. -/
def dropped : Parser Unit := do
  let dialect ← dialect
  if ← lookAhead do
      discard (ifExists false)
      nextIn ["PARTITION"]
  then
    discard (ifExists false)
    discard (commaSeparated droppedPartition?)
  else if dialect = .mysql then
    unless ← accept "PRIMARY KEY" do
      unless (← wordIn? droppedWords).isSome do discard (accept "COLUMN")
      discard (ifExists false)
      discard (require "a name" (name? true))
      dropOptions
  else match ← creatable? with
    | none => skipRest
    | some kind => do
      droppedObject kind
      unless continuesAlteration dialect do
        discard (many (orBack (after "," (name? false))))
      dropOptions

def renaming? (name : Parser (Option Expr)) : Parser (Option AlterAction) := do
  let old ← name
  let renames ← words ["TO"]
  let new ← name
  return if old.isSome && renames && new.isSome then some .other else none

/-- What `RENAME` is followed by. SQLite takes anything for a column. -/
def renamed? : Parser (Option AlterAction) := do
  let dialect ← dialect
  if (← accept "COLUMN") || dialect = .sqlite then
    discard (ifExists false)
    renaming? (column? grammar)
  else if ← onlyIf (dialect = .mysql) (return (← acceptIn? ["INDEX", "KEY"]).isSome) then
    renaming? (return (← name? true).map .name)
  else
    discard (words ["TO"])
    discard tableName
    discard columnNames
    return some .other

def settings : Parser Unit := do
  if ← nextIs (·.is "(") then discard (wrappedList grammar.disjunction)
  else if (← wordIn? ["LOGGED", "UNLOGGED"]).isSome then return
  else if ← words ["WITHOUT"] then discard (wordIn? ["CLUSTER", "OIDS"])
  else if (← wordIn? ["LOCATION", "TABLESPACE"]).isSome then discard (field? grammar false)
  else if ← words ["ACCESS", "METHOD"] then discard (field? grammar false)
  else if (← wordIn? ["FILE FORMAT", "FILEFORMAT"]).isSome then discard (field? grammar false)
  else if (← wordIn? ["TAG", "TAGS"]).isSome then discard (commaSeparated grammar.disjunction)
  else discard properties

def alterWords (dialect : Dialect) : List String :=
  ["ADD", "ALTER", "AS", "CLUSTER BY", "DELETE", "DROP", "RENAME", "SET", "SWAP"] ++
    match dialect with
    | .mysql => ["CHANGE", "MODIFY"]
    | .snowflake => ["UNSET"]
    | _ => []

/-- The changes that a word starts, none if they cannot be understood. -/
def changesAfter (key : String) : Parser (List AlterAction) := do
  let other (p : Parser Unit) : Parser (List AlterAction) := do
    p
    return [.other]
  let ifUnderstood (p : Parser Bool) : Parser (List AlterAction) := do
    return if ← p then [.other] else []
  match key with
  | "ADD" => additions
  | "ALTER" => ifUnderstood alteredColumn
  | "AS" => return (← grammar.query).toList.map fun _ => .other
  | "CHANGE" => ifUnderstood (redeclared true)
  | "CLUSTER BY" => other (discard orderedList)
  | "DELETE" => other (discard (condition? grammar "WHERE"))
  | "DROP" => do
    dropped
    let further ← many <| orBack do
      if ← acceptAll [",", "DROP"] then some <$> dropped else return none
    return .drop :: further.map fun _ => .drop
  | "MODIFY" => ifUnderstood (redeclared false)
  | "RENAME" => return (← renamed?).toList
  | "SET" => other settings
  | "SWAP" => other do
    unless ← words ["WITH"] do failure "WITH"
    discard tableName
  | "UNSET" => other do
    discard (words ["TAG"])
    discard (commaSeparated (name? true))
  | _ => return []

def alterWord? : Parser (Option String) := orBack do
  let keys := alterWords (← dialect)
  match ← wordIn? keys with
  | none => return none
  | some key => return if ← atEnd then none else some key

/-- What is set for a table as a whole. Only MySQL takes it without a word in front. -/
def tableOptions? : Parser (Option (List AlterAction)) := do
  unless (← dialect) = .mysql do return none
  if ← words ["FORCE"] then return some [.other]
  let options ← many do
    if ← nextIn [","] then return none else property?
  return if options.isEmpty then none else some [.other]

def change? : Parser (Option (List AlterAction)) := orBack do
  match ← alterWord? with
  | some key => do
    let found ← changesAfter key
    return if found.isEmpty then none else some found
  | none => tableOptions?

def changes : Parser (List AlterAction) := do
  let dialect ← dialect
  if continuesAlteration dialect then return (← strictlyCommaSeparated change?).flatten
  else return (← change?).getD []

def alteredSession : Parser Command := do
  unless (← wordIn? ["SET", "UNSET"]).isSome do return ← unread
  settings
  discard (commaSeparated property?)
  if ← atEnd then return .other "alter" else unread

/-- What `ALTER` is followed by. A change that is not understood is not looked into. -/
def alter : Parser Command := do
  match ← acceptIn? ["INDEX", "SESSION", "TABLE", "VIEW"] with
  | none => unread
  | some "SESSION" => alteredSession
  | some kind => do
    discard (ifExists false)
    discard (words ["ONLY"])
    let name ← tableName
    discard (accept "*")
    discard columnNames
    discard (words ["WITH", "CHECK"])
    if ← accept "ON" then location
    let actions ← changes
    if actions.isEmpty then unread
    else do
      discard (words ["NOT", "VALID"])
      discard (commaSeparated property?)
      if ← atEnd then return if kind = "TABLE" then .alterTable name actions else .other "alter"
      else unread

end EntityMap.Sql.Parser
