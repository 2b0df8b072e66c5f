import EntityMap.Sql.Parser.Grammar

/-!
Properties of tables and other objects, such as the storage engine or a partition. Nothing of them
is kept; a property is only told from what is none.
-/

namespace EntityMap.Sql.Parser

/-! ### Sequences -/

def sequenceOptions : List (String × List (List String)) :=
  [("SCALE", [["EXTEND"], ["NOEXTEND"]]), ("SHARD", [["EXTEND"], ["NOEXTEND"]]),
    ("NO", [["CYCLE"], ["CACHE"], ["MAXVALUE"], ["MINVALUE"]])] ++
  ["SESSION", "GLOBAL", "KEEP", "NOKEEP", "ORDER", "NOORDER", "NOCACHE", "CYCLE", "NOCYCLE",
    "NOMINVALUE", "NOMAXVALUE", "NOSCALE", "NOSHARD"].map (·, [])

def optionNumber : Parser Unit := do
  discard (accept "=")
  discard (term? grammar)

def sequenceOption? : Parser (Option Unit) := do
  let start ← get
  discard (accept ",")
  if ← words ["INCREMENT"] then
    discard (words ["BY"])
    optionNumber
    return some ()
  else if (← wordIn? ["MINVALUE", "MAXVALUE", "START WITH", "START"]).isSome then
    optionNumber
    return some ()
  else if ← words ["CACHE"] then
    discard (acceptIf? (·.kind = .number))
    return some ()
  else if ← words ["OWNED", "BY"] then
    discard (column? grammar)
    return some ()
  else match ← phrase? sequenceOptions with
    | some _ => return some ()
    | none => return if (← get).length < start.length then some () else none

def sequenceOptions? : Parser (Option Unit) := do
  let options ← many sequenceOption?
  return if options.isEmpty then none else some ()

/-! ### Properties with a keyword -/

def assignedProperties : List String := [
  "ALGORITHM", "AUTO_INCREMENT", "BACKUP", "COLLATE", "COMMENT", "DISTSTYLE", "ENGINE", "EXECUTE",
  "FORMAT", "LANGUAGE", "LOCATION", "ROW_FORMAT", "SHARING", "USING"]

def plainProperties : List String := [
  "TEMP", "TEMPORARY", "GLOBAL", "UNLOGGED", "TRANSIENT", "VOLATILE", "EXTERNAL", "ICEBERG",
  "IMMUTABLE", "STABLE", "STRICT", "SECURE", "MATERIALIZED", "MULTISET", "DYNAMIC", "HEAP", "EMPTY",
  "STREAMING", "SET", "DETERMINISTIC"]

def otherProperties : List String := [
  "CALLED", "CHARSET", "CHARACTER SET", "CHECKSUM", "CLUSTER BY", "CLUSTERED", "CONTAINS", "COPY",
  "DEFINER", "DISTKEY", "DISTRIBUTED", "DUPLICATE", "INHERITS", "LIKE", "MODIFIES", "NO", "ON",
  "ORDER BY", "PARTITION", "PARTITION BY", "PARTITIONED BY", "PARTITIONED_BY", "PRIMARY KEY",
  "READS", "RETURNS", "ROW", "SECURITY", "SORTKEY", "STORED", "SYSTEM_VERSIONING", "TBLPROPERTIES",
  "TO", "TTL", "WITH"]

def propertyWords (dialect : Dialect) : List String :=
  assignedProperties ++ plainProperties ++ otherProperties ++
    match dialect with
    | .mysql => ["LOCK"]
    | .postgres => ["TABLESPACE"]
    | .bigquery => ["NOT DETERMINISTIC", "OPTIONS"]
    | _ => []

def listFollows : Parser Bool := do
  match ← get with
  | opening :: rest =>
    return opening.is "(" && !rest.head?.any fun t => ["(", "SELECT", "WITH"].any (t.is ·)
  | [] => return false

def columnNames : Parser (List Expr) := do
  if ← listFollows then wrappedList (field? grammar true) else return []

def likeTable : Parser Expr := do
  let table ← tableName
  let columns ← columnNames
  discard <| many do
    match ← wordIn? ["INCLUDING", "EXCLUDING"] with
    | some _ => return some (← require "a name" (name? true))
    | none => return none
  return tableExpression table columns

def location : Parser Unit := do
  unless ← words ["COMMIT", "PRESERVE", "ROWS"] do
    unless (← words ["COMMIT", "DELETE", "ROWS"]) do
      discard (require "a name" (name? true))
      discard columnNames

def distribution : Parser Unit := do
  if ← words ["BY", "HASH"] then discard (wrappedList (name? true))
  else discard (words ["BY", "RANDOM"])
  if ← words ["BUCKETS"] then
    unless ← words ["AUTO"] do discard (literal? grammar)

def definer? : Parser (Option Unit) := do
  discard (accept "=")
  let user ← name? false
  discard (accept "@")
  let host ← name? false
  if user.isNone then return none
  if host.isSome then return some ()
  return if ← accept "%" then some () else none

def versioning : Parser Unit := do
  discard (accept "=")
  unless ← words ["OFF"] do
    discard (accept "ON")
    if ← nextIs (·.is "(") then skipBalanced

/-! ### Partitions -/

def partitionPart? (byRange : Bool) : Parser (Option Unit) := do
  discard (words ["PARTITION"])
  let name ← name? true
  if byRange then
    if ← words ["VALUES", "LESS", "THAN"] then discard (wrappedList grammar.expression)
    else return name.map fun _ => ()
  else
    discard (words ["VALUES", "IN"])
    discard (wrappedList grammar.expression)
  return some ()

/-- How a table is divided. In MySQL only by ranges or lists. -/
def partition? : Parser (Option Unit) := do
  if (← dialect) = .mysql then
    match ← wordIn? ["RANGE", "LIST"] with
    | none => return none
    | some key => do
      discard (wrappedList (assignment? grammar))
      if ← lookAhead (words ["(", "PARTITION"]) then
        discard (wrappedList (partitionPart? (key = "RANGE")))
      return some ()
  else
    discard (accept "=")
    if ← listFollows then
      discard (wrappedList (field? grammar true))
    else
      discard (require "a column" (field? grammar false))
    return some ()

def partitionOf? : Parser (Option Unit) := orBack do
  unless ← words ["OF"] do return none
  discard tableName
  discard columnNames
  if ← accept "DEFAULT" then return some ()
  unless ← words ["FOR", "VALUES"] do failure "FOR VALUES"
  if (← acceptIn? ["IN", "WITH"]).isSome then skipBalanced
  else do
    expect "FROM"
    skipBalanced
    unless ← words ["TO"] do failure "TO"
    skipBalanced
  return some ()

/-! ### All properties -/

def returned : Parser Unit := do
  if (← dialect) = .tsql then
    if ← accept "@" then discard (name? true)
  if ← accept "TABLE" then
    if ← accept "<" then
      discard (elementTypes grammar .declared .struct)
      expect ">"
    else if ← nextIs (·.is "(") then skipBalanced
  else unless ← words ["NULL", "ON", "NULL", "INPUT"] do
    discard (type? grammar .declared)

/-- What `WITH` is followed by in a property, given a parser for further properties. -/
def withProperty? (property : Parser (Option Unit)) : Parser (Option Unit) := do
  if ← nextIs (·.is "(") then
    discard (wrappedList property)
    return some ()
  else if (← wordIn? ["ENCRYPTION", "SCHEMABINDING", "VIEW_METADATA"]).isSome then return some ()
  else if ← either (words ["NO", "DATA"]) (words ["DATA"]) then
    if ← words ["AND"] then
      discard (words ["NO"])
      discard (words ["STATISTICS"])
    return some ()
  else if (← wordIn? ["NATIVE_COMPILATION", "RECOMPILE"]).isSome then return some ()
  else if ← words ["EXECUTE", "AS"] then
    discard (orElse text? (word? true))
    return some ()
  else return none

def propertyAfter? (property : Parser (Option Unit)) (key : String) : Parser (Option Unit) := do
  let other (p : Parser Unit) : Parser (Option Unit) := do
    p
    return some ()
  let ifWords (keys : List String) : Parser (Option Unit) := do
    return if ← words keys then some () else none
  if key = "SET" && (← dialect) = .postgres then other skipRest
  else if plainProperties.contains key then return some ()
  else match key with
    | "CHARSET" | "CHARACTER SET" => other do
      discard (accept "=")
      discard (require "a character set" (orElse text? (word? false)))
    | "CHECKSUM" => other do
      discard (accept "=")
      unless ← accept "ON" do discard (words ["OFF"])
      discard (accept "DEFAULT")
    | "CLUSTER BY" => other do discard (commaSeparated (ordered? grammar.disjunction))
    | "CLUSTERED" => do
      unless ← words ["BY"] do return none
      skipBalanced
      if ← words ["SORTED", "BY"] then skipBalanced
      discard (words ["INTO"])
      discard grammar.operand
      ifWords ["BUCKETS"]
    | "CALLED" => other do discard (words ["ON", "NULL", "INPUT"])
    | "CONTAINS" => ifWords ["SQL"]
    | "COPY" => ifWords ["GRANTS"]
    | "DEFINER" => definer?
    | "DISTKEY" => other do discard (wrapped (name? true))
    | "DISTRIBUTED" => other distribution
    | "DUPLICATE" => other do
      discard (accept "KEY")
      discard (wrappedList (name? true))
    | "INHERITS" => other do discard (wrappedList (some <$> tableName))
    | "LIKE" => other do discard likeTable
    | "MODIFIES" | "READS" => ifWords ["SQL", "DATA"]
    | "NO" => ifWords ["SQL"]
    | "NOT DETERMINISTIC" => return some ()
    | "ON" => other location
    | "OPTIONS" | "TBLPROPERTIES" => other do discard (wrappedList property)
    | "ORDER BY" => other do discard (orderItems grammar)
    | "PARTITION" => partitionOf?
    | "PARTITION BY" | "PARTITIONED BY" | "PARTITIONED_BY" => partition?
    | "PRIMARY KEY" => other do discard (wrappedList (field? grammar false))
    | "RETURNS" => other returned
    | "ROW" => do
      unless ← words ["FORMAT"] do return none
      discard (word? true)
      return some ()
    | "SECURITY" => other do discard (wordIn? ["DEFINER", "INVOKER", "NONE"])
    | "SORTKEY" => other do discard (wrappedList (name? true))
    | "STORED" => other do
      discard (words ["AS"])
      discard (words ["BY"])
      discard (field? grammar false)
    | "SYSTEM_VERSIONING" => other versioning
    | "TO" => other do discard tableName
    | "TTL" => other do discard (commaSeparated grammar.bitwise)
    | "WITH" => withProperty? property
    | _ => other do
      discard (accept "=")
      discard (accept "AS")
      discard (require "a value" (field? grammar false))

def setting? : Parser (Option Unit) := orBack do
  discard (column? grammar)
  unless ← accept "=" do return none
  match ← grammar.bitwise with
  | some _ => return some ()
  | none => do
    discard (require "a value" (word? true))
    return some ()

/-- A property; those inside of it may be nested to the given depth. -/
def propertyTo? : Nat → Parser (Option Unit)
  | 0 => throw .tooDeep
  | depth + 1 => do
    if ← words ["SQL", "SECURITY"] then
      discard (wordIn? ["DEFINER", "INVOKER"])
      return some ()
    if ← lookAhead (words ["COMPOUND", "SORTKEY"]) then skip
    let keys := propertyWords (← dialect)
    match ← wordIn? keys with
    | some key => propertyAfter? (propertyTo? depth) key
    | none => do
      let key ← after "DEFAULT" (wordIn? keys)
      match key with
      | some key => propertyAfter? (propertyTo? depth) key
      | none => orElse (orBack sequenceOptions?) setting?

def property? : Parser (Option Unit) := propertyTo? maxDepth

/-- As many properties as there are; tells whether there is one. -/
def properties : Parser Bool := return !(← many property?).isEmpty

def wrappedProperties : Parser Unit := discard (wrappedList property?)

/-- Properties between the name of a table and its columns. Here a word is needed. -/
def earlyProperties : Parser Unit := do
  discard (accept ",")
  discard <| many do
    match ← wordIn? (propertyWords (← dialect)) with
    | some key => propertyAfter? property? key
    | none => return none

end EntityMap.Sql.Parser
