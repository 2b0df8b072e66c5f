import EntityMap.Sql.FunctionForm
import EntityMap.Sql.Parser.DataType

/-!
Function calls: plain ones, those with words between their arguments, and what may stand behind a
call.
-/

namespace EntityMap.Sql.Parser

variable (g : Nested)

/-! ### Order and windows -/

def ordered? (value : Parser (Option Expr)) : Parser (Option Expr) := do
  match ← value with
  | none => return none
  | some value => do
    let direction ← acceptIn? ["ASC", "DESC"]
    let nulls ← if ← words ["NULLS", "FIRST"] then pure ["NULLS FIRST"]
      else if ← words ["NULLS", "LAST"] then pure ["NULLS LAST"] else pure []
    return some (.ordered value (direction.toList ++ nulls))

def orderItems : Parser (List Expr) := commaSeparated (ordered? g.disjunction)

def nullTreatment : Parser Unit := do
  unless ← words ["IGNORE", "NULLS"] do discard (words ["RESPECT", "NULLS"])

def frameBound : Parser (List Expr) := do
  let value ← if ← words ["UNBOUNDED"] then pure [.word "UNBOUNDED"]
    else if ← words ["CURRENT", "ROW"] then pure [.word "CURRENT ROW"]
    else do pure (← g.bitwise).toList
  let side ← acceptIf? fun t => ["FOLLOWING", "PRECEDING"].any (t.readsAs ·)
  return value ++ (side.map fun t => Expr.word t.text).toList

def frame : Parser (List Expr) := do
  match ← wordIn? ["ROWS", "RANGE", "GROUPS"] with
  | none => return []
  | some kind => do
    discard (accept "BETWEEN")
    let low ← frameBound g
    let high ← if ← accept "AND" then frameBound g else pure [.word "CURRENT ROW"]
    return .word kind :: .word "BETWEEN" :: low ++ .word "AND" :: high

def order : Parser (List Expr) := do
  if ← accept "ORDER BY" then orderItems g else return []

def windowRows? : Parser (Option Expr) := attempt do
  expect "("
  let isNamed : Bool := match ← get with
    | t :: _ => t.kind = .word || t.kind = .quotedName
    | [] => false
  let name ← if isNamed then name? false else pure none
  let partition ← if ← accept "PARTITION BY" then commaSeparated g.disjunction else pure []
  let partition :=
    if partition.isEmpty then [] else [.word "PARTITION", .word "BY", .list partition]
  let order ← order g
  let frame ← frame g
  expect ")"
  let parts := (name.map .name).toList ++ partition ++ FunctionForm.orderWords order ++ frame
  return some (.paren (.phrase parts))

def window (call : Expr) : Parser Expr := do
  let call ← if ← words ["WITHIN", "GROUP", "("] then do
      let order ← order g
      expect ")"
      pure (FunctionForm.withinGroup call order)
    else pure call
  let call ← if ← words ["FILTER", "("] then do
      discard (accept "WHERE")
      let condition ← require "a condition" g.disjunction
      expect ")"
      pure (.phrase [call, .builtin "FILTER" [.phrase [.word "WHERE", condition]]])
    else pure call
  nullTreatment
  if ← accept "OVER" then
    if ← nextIn ["("] then
      match ← windowRows? g with
      | some rows => return .phrase [call, .word "OVER", rows]
      | none => do
        skipBalanced
        return call
    else
      return .phrase ([call, .word "OVER"] ++ ((← name? false).map Expr.name).toList)
  else return call

/-! ### Arguments -/

/-- Names in front of an arrow, which stand for the arguments of a function without a name. -/
def lambdaNames? : Parser (Option (List Expr)) := attempt do
  let dialect ← dialect
  let name : Parser (Option Expr) :=
    return (← acceptIf? fun t => t.kind = .quotedName || isName dialect t).map fun t =>
      .name (nameOf t)
  let names ← if ← nextIn ["("] then wrappedList name else return (← name).toList
  return if names.isEmpty || !(← nextIn ["->", "=>"]) then none else some names

def lambda? : Parser (Option Expr) := do
  let early : Bool := match ← get with
    | t :: next :: _ => t.is "(" || next.is "->" || next.is "=>"
    | _ => false
  if !early then return none
  match ← lambdaNames? with
  | none => return none
  | some names => do
    let names := match names with
      | [name] => name
      | names => .tuple names
    if ← accept "=>" then
      return some (.binary .named names (← require "a value" g.disjunction))
    else do
      expect "->"
      return some (.phrase [names, .word "->", ← require "a value" g.disjunction])

def assignment? : Parser (Option Expr) := do
  match ← g.disjunction with
  | none => return none
  | some left =>
    if ← accept ":=" then
      return some (.binary .assign left (← require "a value" g.disjunction))
    else return some left

def plainArgument? : Parser (Option Expr) := do
  if ← accept "DISTINCT" then
    return some (.phrase [.word "DISTINCT", .list (← commaSeparated g.disjunction)])
  match ← orElse (lambda? g) g.query with
  | some e => return some e
  | none =>
    match ← assignment? g with
    | none => return none
    | some value =>
      if ← accept "AS" then return (← name? true).map (.alias value) else return some value

def argument? : Parser (Option Expr) := do
  match ← plainArgument? g with
  | none => return none
  | some value => do
    nullTreatment
    if ← accept "HAVING" then
      discard (wordIn? ["MAX", "MIN"])
      discard g.operand
    let order ← order g
    if ← accept "LIMIT" then discard g.term
    return some (FunctionForm.ordered value order)

def arguments : Parser (List Expr) := commaSeparated (argument? g)

/-! ### Casts -/

def castType : Parser DataType := do
  match ← require "a type" (type? g .target) with
  | .builtin .char parameters =>
    if (← acceptIn? ["CHARACTER SET", "CHARSET"]).isSome then
      let charset := (← orElse text? (word? true)).getD ""
      return .written ("CHAR CHARACTER SET " ++ charset) []
    else return .builtin .char parameters
  | type => return type

def castArguments (safe : Bool) : Parser Expr := do
  let value ← require "a value" (assignment? g)
  expect "AS"
  let type ← castType g
  if ← accept "DEFAULT" then
    discard g.bitwise
    discard (words ["ON", "CONVERSION", "ERROR"])
  if (← acceptIn? ["FORMAT", ","]).isSome then discard text?
  return .cast safe value type

def conversion (safe : Bool) : Parser Expr := do
  let value ← require "a value" g.bitwise
  if ← accept "USING" then
    let charset := (← word? true).getD ""
    return .cast safe value (.written ("CHAR CHARACTER SET " ++ charset) [])
  else do
    expect ","
    return .cast safe value (← require "a type" (type? g .target))

/-- A type, a value that is converted to it, and perhaps a style. -/
def typedConversion (name : String) : Parser Expr := do
  let type ← require "a type" (type? g .target)
  discard (accept ",")
  let arguments ← commaSeparated (assignment? g)
  if arguments.isEmpty then failure "a value"
  return .builtin name (.type type :: arguments)

/-! ### Words between arguments -/

def extraction : Parser Expr := do
  let unit ← match ← text? with
    | some s => pure (.text s)
    | none => pure (.word (Text.upper (← require "a unit" (word? true))))
  unless (← acceptIn? ["FROM", ","]).isSome do failure "FROM"
  let time ← require "a time" g.bitwise
  match ← dialect with
  | .tsql => return .builtin "DATEPART" [unit, time]
  | .snowflake => return .builtin "DATE_PART" [unit, time]
  | _ => return .builtin "EXTRACT" [.phrase [unit, .word "FROM", time]]

def timePart : Parser Expr := do
  let unit ← match ← require "a unit" g.operand with
    | .literal .text s => pure (Text.upper s)
    | e => pure (Text.upper e.label)
  discard (accept ",")
  let time ← require "a time" g.bitwise
  match ← dialect with
  | .snowflake => return .builtin "DATE_PART" [.word unit, time]
  | _ => return .builtin "EXTRACT" [.phrase [.word unit, .word "FROM", time]]

def trimming (side : Option String) (s : Expr) (characters : Option Expr) : Parser Expr := do
  let words := [.mysql, .postgres, .oracle, .tsql].contains (← dialect)
  match words, characters with
  | true, some characters =>
    let side := (side.map .word).toList
    return .builtin "TRIM" [.phrase (side ++ [characters, .word "FROM", s])]
  | _, _ =>
    let name := match side with
      | some "LEADING" => "LTRIM"
      | some "TRAILING" => "RTRIM"
      | _ => "TRIM"
    return .builtin name (s :: characters.toList)

def trimArguments : Parser Expr := do
  let side ← wordIn? ["BOTH", "LEADING", "TRAILING"]
  let first ← g.bitwise
  let result ← match ← acceptIn? ["FROM", ","] with
    | some "FROM" => do trimming side (← require "a text" g.bitwise) first
    | some _ => do trimming side (← require "a text" (return first)) (← g.bitwise)
    | none => do trimming side (← require "a text" (return first)) none
  if ← accept "COLLATE" then discard g.bitwise
  return result

def substringArguments : Parser Expr := do
  let items ← commaSeparated g.bitwise
  let start ← after "FROM" g.bitwise
  let length ← after "FOR" g.bitwise
  let start := if length.isSome then some (start.getD (.number "1")) else start
  let arguments := items ++ start.toList ++ length.toList
  if arguments.isEmpty then failure "a text"
  return FunctionForm.substring (← dialect) arguments

def positionArguments : Parser Expr := do
  let items ← commaSeparated g.bitwise
  let dialect ← dialect
  match items, ← after "IN" g.bitwise with
  | part :: _, some s => return FunctionForm.position dialect s part []
  | part :: s :: start, none => return FunctionForm.position dialect s part start
  | _, _ => failure "IN"

def overlayArguments : Parser Expr := do
  let s ← require "a text" g.bitwise
  unless ← either (words ["PLACING"]) (accept ",") do failure "PLACING"
  let part ← require "a text" g.bitwise
  unless (← acceptIn? ["FROM", ","]).isSome do failure "FROM"
  let start ← require "a place" g.bitwise
  let length ← if (← acceptIn? ["FOR", ","]).isSome then g.bitwise else pure none
  let tail := length.toList.flatMap fun length => [.word "FOR", length]
  return .builtin "OVERLAY" [.phrase ([s, .word "PLACING", part, .word "FROM", start] ++ tail)]

def charArguments : Parser Expr := do
  let items ← commaSeparated (assignment? g)
  if items.isEmpty then failure "a code"
  if ← accept "USING" then
    let charset := (← word? true).getD ""
    return .builtin "CHR" [.phrase [.list items, .word "USING", .word charset]]
  else return .builtin "CHR" items

def keyValue? : Parser (Option Expr) := do
  discard (words ["KEY"])
  let key ← g.bitwise
  unless (← acceptIn? [":", ",", "IS"]).isSome do pure ()
  discard (words ["VALUE"])
  let value ← g.bitwise
  match key, value with
  | some key, some value => do
    discard (words ["FORMAT", "JSON"])
    return some (.binary .pair key value)
  | some _, none => failure "a value"
  | none, _ => return none

def objectArguments (name : String) : Parser Expr := do
  let items ← match ← after "*" (return some [Expr.star]) with
    | some items => pure items
    | none => commaSeparated (keyValue? g)
  let nulls ← firstOf (["NULL", "ABSENT"].map fun word => do
    if ← words [word, "ON", "NULL"] then return some (word ++ " ON NULL") else return none)
  let unique ← firstOf (["WITH", "WITHOUT"].map fun word => do
    if ← words [word, "UNIQUE"] then return some (word ++ " UNIQUE KEYS") else return none)
  discard (words ["KEYS"])
  let type ← after "RETURNING" (g.type .target)
  let returning := type.toList.flatMap fun type => [.word "RETURNING", .type type]
  match (nulls.toList ++ unique.toList).map Expr.word ++ returning with
  | [] => return .builtin name items
  | rest => return .builtin name [.phrase (.list items :: rest)]

def matchArguments : Parser Expr := do
  let items ← commaSeparated g.operand
  unless ← words [")", "AGAINST", "("] do failure "AGAINST"
  let text ← g.operand
  let natural ← if ← words ["IN", "NATURAL", "LANGUAGE", "MODE"] then
      pure [.word "IN NATURAL LANGUAGE MODE"]
    else if ← words ["IN", "BOOLEAN", "MODE"] then pure [.word "IN BOOLEAN MODE"] else pure []
  let expansion ← if ← words ["WITH", "QUERY", "EXPANSION"] then
      pure [.word "WITH QUERY EXPANSION"]
    else pure []
  let search := .phrase (text.toList ++ natural ++ expansion)
  return .phrase [.builtin "MATCH" items, .builtin "AGAINST" [search]]

/-- Texts that MySQL joins, with their order and what separates them. Several texts of a row are
joined without a separator. -/
def groupArguments : Parser Expr := do
  let items ← commaSeparated (plainArgument? g)
  let order ← order g
  let separator ← after "SEPARATOR" g.operand
  match items with
  | [] => failure "a text"
  | [item] => return FunctionForm.joinedTexts .mysql item order separator
  | items => return FunctionForm.joinedTexts .mysql (.builtin "CONCAT" items) order separator

def overflowTreatment : Parser Unit := do
  if ← words ["ON", "OVERFLOW"] then
    unless ← words ["ERROR"] do
      discard (words ["TRUNCATE"])
      discard text?
      unless ← words ["WITH", "COUNT"] do discard (words ["WITHOUT", "COUNT"])

/-- Texts that are joined with what separates them, and their order, which may also stand behind the
call. -/
def joinedArguments : Parser Expr := do
  let items ← commaSeparated (plainArgument? g)
  overflowTreatment
  let inner ← order g
  if ← accept "LIMIT" then discard g.term
  let outer ← if ← words [")", "WITHIN", "GROUP", "("] then order g else pure []
  match items with
  | [] => failure "a text"
  | value :: separator =>
    return FunctionForm.joinedTexts (← dialect) value (inner ++ outer) separator.head?

def exception? (case : String) : Parser (Option (List Expr)) := orBack do
  match ← wordIn? ["ERROR", "NULL", "TRUE", "FALSE", "EMPTY", "DEFAULT"] with
  | none => return none
  | some "DEFAULT" => do
    let value ← g.bitwise
    if ← words ["ON", case] then
      return some (.word "DEFAULT" :: value.toList ++ [.word ("ON " ++ case)])
    else return none
  | some word => do
    if ← words ["ON", case] then return some [.word (word ++ " ON " ++ case)] else return none

def jsonValueArguments : Parser Expr := do
  let value ← require "a value" g.bitwise
  discard (accept ",")
  let path ← require "a path" g.bitwise
  let type ← after "RETURNING" (g.type .target)
  let onEmpty ← exception? g "EMPTY"
  let onError ← exception? g "ERROR"
  let returning := type.toList.flatMap fun type => [.word "RETURNING", .type type]
  let rest := returning ++ onEmpty.getD [] ++ onError.getD []
  let path := FunctionForm.jsonPath path
  return .builtin "JSON_VALUE" [value, if rest.isEmpty then path else .phrase (path :: rest)]

def insertedValue : Parser Expr := do
  return .call ⟨"VALUES", false⟩ ((← name? true).map Expr.name).toList

def roundedArguments (name : String) : Parser Expr := do
  let items ← arguments g
  if ← words ["TO"] then discard (word? true)
  if items.isEmpty then failure "a number"
  return .builtin name items

def skippedArguments (name : String) : Parser Expr := do
  let tokens ← get
  match dropBalanced 0 tokens with
  | some rest => do
    set (tokens.drop (tokens.length - rest.length - 1))
    return .builtin name []
  | none => failure ")"

/-- What a function is called with if it has words between its arguments. -/
def worded? (dialect : Dialect) (name : String) : Option (Parser Expr) :=
  match name with
  | "CAST" => some (castArguments g false)
  | "TRY_CAST" | "SAFE_CAST" => some (castArguments g true)
  | "CONVERT" =>
    if dialect = .oracle then none
    else if dialect = .tsql then some (typedConversion g name) else some (conversion g false)
  | "TRY_CONVERT" =>
    if dialect = .tsql then some (typedConversion g name) else some (conversion g true)
  | "EXTRACT" => some (extraction g)
  | "DATE_PART" =>
    if [.postgres, .snowflake].contains dialect then some (timePart g) else none
  | "TRIM" => some (trimArguments g)
  | "SUBSTRING" => some (substringArguments g)
  | "SUBSTR" => if dialect = .mysql then some (substringArguments g) else none
  | "VALUES" => if dialect = .mysql then some insertedValue else none
  | "POSITION" => some (positionArguments g)
  | "OVERLAY" => some (overlayArguments g)
  | "CHAR" | "CHR" => some (charArguments g)
  | "JSON_OBJECT" | "JSON_OBJECTAGG" => some (objectArguments g name)
  | "MATCH" => some (matchArguments g)
  | "GROUP_CONCAT" =>
    if dialect = .mysql then some (groupArguments g)
    else if dialect = .duckdb then some (joinedArguments g) else none
  | "STRING_AGG" => some (joinedArguments g)
  | "LISTAGG" =>
    if [.snowflake, .duckdb].contains dialect then some (joinedArguments g) else none
  | "JSON_VALUE" => if dialect = .mysql then some (jsonValueArguments g) else none
  | "CEIL" | "CEILING" => some (roundedArguments g "CEIL")
  | "FLOOR" => some (roundedArguments g name)
  | "JSON_TABLE" | "OPENJSON" | "XMLELEMENT" | "XMLTABLE" =>
    some (skippedArguments name)
  | _ => none

/-! ### Calls -/

def choice? : Parser (Option Expr) := after "CASE" do
  let operand ← g.disjunction
  let branches ← many <| after "WHEN" do
    let condition ← require "a condition" g.disjunction
    discard (accept "THEN")
    return some [condition, ← require "a value" g.disjunction]
  let otherwise ← after "ELSE" g.disjunction
  expect "END"
  return some (.choice operand branches.flatten otherwise)

def nextValue? : Parser (Option Expr) := do
  if ← words ["NEXT", "VALUE", "FOR"] then
    let dialect ← dialect
    let accepts (t : Token) : Bool := t.kind = .quotedName || isName dialect t
    let first ← require "a name" (acceptIf? accepts)
    return some (← window g (.nextValue (.column (← typePath first))))
  else return none

def anyOf? : Parser (Option Expr) := orBack do
  if ← nextIs (·.kind = .quotedName) then return none
  unless ← accept "ANY" do return none
  return (← g.bitwise).map fun e => .phrase [.word "ANY", e]

def bareCall? : Parser (Option Expr) := do
  match ← get with
  | t :: rest =>
    match (FunctionName.bare (← dialect)).lookup t.key with
    | some name =>
      if t.kind = .keyword && !(rest.head?.any (·.is "(")) then do
        skip
        return some (.builtin name [])
      else return none
    | none => return none
  | [] => return none

/-- Whether a word tells that rows of a query are looked at. -/
def isPredicate (t : Token) : Bool :=
  t.kind = .keyword && ["ALL", "ANY", "EXISTS", "SOME"].contains t.key

/-- What a function is called with, and the function if the dialect knows it. -/
def callArguments (t : Token) (asWritten : Bool) : Parser Expr := do
  let dialect ← dialect
  match if asWritten then none else worded? g dialect t.key with
  | some worded => worded
  | none => do
    let arguments ← arguments g
    if asWritten then return .call (nameOf t) arguments
    else if isPredicate t && arguments matches [.query _ _] then return .builtin t.key arguments
    else if FunctionForm.isMisused dialect t.key arguments then failure "other arguments"
    else return (FunctionForm.of? dialect t.key arguments).getD (.call (nameOf t) arguments)

def isFunctionName (dialect : Dialect) (any : Bool) (t : Token) : Bool :=
  if any then isAnyName dialect t
  else match t.kind with
    | .word | .quotedName => true
    | .keyword => Keyword.isCallable dialect t.key
    | _ => false

/-- A name and what the function is called with in parentheses. `any` tells that any word may be
the name, `asWritten` that the dialect need not know the function. -/
def parenCall? (any asWritten : Bool) : Parser (Option Expr) := do
  let dialect ← dialect
  match ← get with
  | t :: opening :: rest =>
    if opening.is "(" && isFunctionName dialect any t then do
      set rest
      let call ← callArguments g t asWritten
      expect ")"
      return some (← window g call)
    else return none
  | _ => return none

def bracedCall? : Parser (Option Expr) := orBack do
  if ← words ["\x7b", "FN"] then
    let call ← parenCall? g false false
    discard (accept "\x7d")
    return call
  else return none

def call? (any asWritten : Bool) : Parser (Option Expr) :=
  firstOf [choice? g, nextValue? g, anyOf? g, bareCall?, parenCall? g any asWritten, bracedCall? g]

end EntityMap.Sql.Parser
