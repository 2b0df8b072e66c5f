import EntityMap.Sql.Parser.Function

/-!
Expressions, from columns up to operators of the lowest rank.
-/

namespace EntityMap.Sql.Parser

variable (g : Nested)

/-! ### Parentheses, brackets and braces -/

def isCombined (e : Expr) : Parser Bool := do
  match e with
  | .paren (.query _ _) => nextIn ["EXCEPT", "INTERSECT", "MINUS", "UNION"]
  | _ => return false

def paren? : Parser (Option Expr) := after "(" do
  match ← g.query with
  | some query => do
    expect ")"
    return some (.paren query)
  | none => do
    let first ← g.expression
    let first ← match first with
      | some e => if ← isCombined e then some <$> g.combined e else pure (some e)
      | none => pure none
    let rest ← many do
      if ← accept "," then some <$> g.expression else return none
    expect ")"
    match (first :: rest).filterMap id with
    | [] => return some (.tuple [])
    | [item] => return some (if rest.getLast? matches some none then .tuple [item] else .paren item)
    | items => return some (.tuple items)

def index? : Parser (Option Expr) := do
  let low ← g.disjunction
  let low ← match low with
    | some e => if ← accept "AS" then pure ((← name? true).map (.alias e)) else pure (some e)
    | none => pure none
  if ← accept ":" then return some (.slice low (← g.disjunction)) else return low

def brackets? : Parser (Option (List Expr)) := after "[" do
  let items ← commaSeparated (index? g)
  expect "]"
  return some items

def bracedTimes : List (String × String) := [("D", "DATE"), ("T", "TIME"), ("TS", "TIMESTAMP")]

def braceMember? : Parser (Option (Expr × Expr)) := do
  let key ← if (← dialect) = .snowflake then text? else do
    match ← g.disjunction with
    | some key => pure (some key.label)
    | none => pure none
  match key with
  | none => return none
  | some key => do
    expect ":"
    return some (.text key, ← require "a value" g.disjunction)

def braces? : Parser (Option Expr) := after "\x7b" do
  let value ← match ← wordIn? (bracedTimes.map (·.1)) with
    | some key => do
      let text ← require "a text" text?
      pure (.builtin ((bracedTimes.lookup key).getD key) [.text text])
    | none => pure (FunctionForm.object (← dialect) (← commaSeparated (braceMember? g)))
  expect "\x7d"
  return some value

def braceMap? : Parser (Option Expr) := orBack do
  if (← dialect) = .duckdb && (← nextAre ["MAP", "\x7b"]) then
    skip
    return (← braces? g).map fun members => .phrase [.word "MAP", members]
  else return none

/-! ### Columns and what qualifies them -/

def field? (any : Bool) : Parser (Option Expr) :=
  firstOf [literal? g, paren? g, braceMap? g, call? g any false, parameter?, do
    return (← name? any).map .name]

def member? : Parser (Option Expr) :=
  firstOf [call? g true true, literal? g, paren? g, do return (← name? true).map .name]

def columnReference? : Parser (Option Expr) := do
  match ← field? g false with
  | some (.name n) => return some (.column [n])
  | e => return e

def memberOf (owner : Expr) (field : Expr) : Expr :=
  match owner, field with
  | .column path, .name n => if path.length < 4 then .column (path ++ [n]) else .member owner field
  | _, _ => .member owner field

def elements (e : Expr) : Parser Expr :=
  goOn (fun e => do
    match ← brackets? g with
    | none => return none
    | some items =>
      match e with
      | .column [⟨text, false⟩] =>
        let constructs := ["ARRAY", "LIST"].contains (Text.upper text)
        return some (if constructs then .array items else .element e items)
      | e => return some (.element e items)) e

def pathOperators : List (String × Operator) := [
  ("->", .arrow), ("->>", .longArrow), ("#>", .pathArrow), ("#>>", .longPathArrow),
  ("?", .hasKey)]

def operatorIn? (table : List (String × Operator)) : Parser (Option Operator) := do
  match ← peek? with
  | some t =>
    match table.find? fun (key, _) => t.is key with
    | some (_, operator) => do
      skip
      return some operator
    | none => return none
  | none => return none

def pathPart? : Parser (Option String) := do
  if ← accept "." then
    let dialect ← dialect
    return (← acceptIf? (isAnyName dialect)).map fun t => "." ++ t.text
  else
    match ← brackets? g with
    | some [.literal .number index] => return some ("[" ++ index ++ "]")
    | some [.literal .text key] => return some ("['" ++ key ++ "']")
    | _ => return none

def colonPath? : Parser (Option String) := orBack do
  if (← dialect) ≠ .snowflake then return none
  unless ← accept ":" do return none
  match ← name? true with
  | none => return none
  | some first => return some (String.join (first.text :: (← many (pathPart? g))))

def qualified (e : Expr) : Parser Expr := do
  let step (e : Expr) : Parser (Option Expr) := do
    if ← accept "::" then
      return some (← elements g (.cast false e (← require "a type" (type? g .target))))
    match ← operatorIn? pathOperators with
    | some operator => do
      let right ← require "an operand" (orElse (columnReference? g) g.bitwise)
      return some (FunctionForm.jsonArrow (← dialect) operator e right)
    | none =>
      if ← accept "." then
        let field ← require "a name" (member? g)
        return some (← elements g (memberOf e field))
      else return none
  let e ← goOn step (← elements g e)
  match ← many (colonPath? g) with
  | [] => return e
  | paths => do
    goOn step (.builtin "GET_PATH" [e, .text (".".intercalate paths)])

def column? : Parser (Option Expr) := do
  match ← columnReference? g with
  | some e => do
    let column ← qualified g e
    discard (accept "(+)")
    return some column
  | none =>
    match ← brackets? g with
    | some items => some <$> qualified g (.array items)
    | none =>
      match ← braces? g with
      | some e => some <$> qualified g e
      | none => return none

/-! ### Operands -/

/-- A text as a value of a type. Oracle has functions for dates and times. -/
def typedText (dialect : Dialect) (value : Expr) : DataType → Expr
  | .builtin .date [] =>
    if dialect = .oracle then .builtin "TO_DATE" [value, .text "YYYY-MM-DD"]
    else .cast false value (.builtin .date [])
  | .builtin .timestamp [] =>
    if dialect = .oracle then .builtin "TO_TIMESTAMP" [value, .text "YYYY-MM-DD HH24:MI:SS.FF6"]
    else .cast false value (.builtin .timestamp [])
  | .builtin .json [] =>
    match dialect with
    | .bigquery | .snowflake => .builtin "PARSE_JSON" [value]
    | .postgres => .cast false value (.builtin .json [])
    | .duckdb => .builtin "JSON" [value]
    | _ => value
  | type => .cast false value type

def typedItems? : DataType → Parser (Option Expr)
  | .nested kind elements size => do
    match ← acceptIn? ["[", "("] with
    | none => return none
    | some opening => do
      let items ← commaSeparated g.disjunction
      discard (accept (if opening = "[" then "]" else ")"))
      let value := if kind = .struct then .builtin "STRUCT" items else .array items
      return some (.cast false value (.nested kind elements size))
  | _ => return none

def typedLiteral? : Parser (Option Expr) := orBack do
  match ← type? g .value with
  | none => return none
  | some type =>
    if let some value ← typedItems? g type then return some (← qualified g value)
    match ← literal? g with
    | some (.literal .text s) =>
      return some (typedText (← dialect) (← qualified g (.text s)) type)
    | some (.literal .number s) =>
      return some (typedText (← dialect) (← qualified g (.number s)) type)
    | _ => return none

def binaryCast? : Parser (Option Expr) := orBack do
  if (← dialect) = .mysql && (← nextIs fun t => t.kind = .keyword && t.key = "BINARY") then
    let next := (← get)[1]?
    if next.any (·.is "(") then return none
    skip
    return some (.cast false (← require "a value" (column? g)) (.builtin .binary []))
  else return none

def operand? : Parser (Option Expr) :=
  firstOf [binaryCast? g, interval? g, typedLiteral? g, column? g]

/-! ### Operators -/

def zoned (e : Expr) : Parser Expr :=
  goOn (fun e => do
    if ← words ["AT", "TIME", "ZONE"] then
      return some (.binary .atTimeZone e (← require "a time zone" g.unary))
    else return none) e

/-- A negation by the sign. In MySQL it has a higher rank than comparisons. -/
def denial : Parser Expr := do
  if (← dialect) = .mysql then
    return .paren (.signed .not (← require "an operand" g.unary))
  else return .signed .not (← require "an operand" g.equality)

def unary? : Parser (Option Expr) := do
  if ← accept "+" then g.unary
  else if ← accept "-" then return some (.signed .minus (← require "an operand" g.unary))
  else if ← accept "~" then return some (.signed .complement (← require "an operand" g.unary))
  else if ← accept "NOT" then return some (.signed .not (← require "an operand" g.equality))
  else if ← accept "!" then some <$> denial g
  else if ← accept "|/" then return some (.builtin "SQRT" [← require "an operand" g.unary])
  else if ← accept "||/" then return some (.builtin "CBRT" [← require "an operand" g.unary])
  else match ← operand? g with
    | none => return none
    | some e => some <$> zoned g e

/-- Operands with operators between them, from the left to the right. -/
def chain (operator : Parser (Option Operator)) (operand : Parser (Option Expr)) :
    Parser (Option Expr) := do
  let first ← operand
  goOn (fun left => do
    match ← operator with
    | none => return none
    | some operator =>
      match left with
      | none => failure "an operand"
      | some left => return some (some (.binary operator left (← require "an operand" operand))))
    first

def hasPower (dialect : Dialect) : Bool := [.postgres, .duckdb].contains dialect

def power? : Parser (Option Expr) := do
  let first ← unary? g
  if hasPower (← dialect) then
    goOn (fun left => do
      match left with
      | none => return none
      | some base =>
        if (← acceptIn? ["^", "**"]).isSome then
          return some (some (FunctionForm.power base (← require "an operand" (unary? g))))
        else return none) first
  else return first

def factor? : Parser (Option Expr) :=
  chain (operatorIn? [("*", .multiply), ("/", .divide), ("DIV", .wholeDivide), ("//", .wholeDivide),
    ("<->", .distance)]) (power? g)

def collationName : Expr → Expr
  | .column [⟨text, false⟩] => .word text
  | e => e

def term? : Parser (Option Expr) := do
  let first ← factor? g
  goOn (fun left => do
    match left with
    | none => do
      if ← nextIn ["+", "-", "%", "MOD", "COLLATE"] then failure "an operand" else return none
    | some left =>
      match ← operatorIn? [("+", .add), ("-", .subtract), ("%", .modulo), ("MOD", .modulo),
          ("COLLATE", .collate)] with
      | none => return none
      | some .collate => do
        let right ← require "a collation" (factor? g)
        return some (some (.binary .collate left (collationName right)))
      | some .modulo => do
        let right ← require "an operand" (factor? g)
        return some (some (FunctionForm.remainder (← dialect) left right))
      | some operator => do
        return some (some (.binary operator left (← require "an operand" (factor? g))))) first

def bitwiseOperator? : Parser (Option Operator) := do
  let dialect ← dialect
  if ← acceptAll ["<", "<"] then return some .shiftLeft
  else if ← acceptAll [">", ">"] then return some .shiftRight
  else
    operatorIn? <|
      [("&", .bitAnd), ("|", .bitOr), ("??", .coalesce)] ++
      (if dialect = .postgres then [("#", .bitXor)]
        else if dialect = .duckdb then [] else [("^", .bitXor)]) ++
      (if dialect = .mysql then [] else [("||", .concatenate)])

def bitwise? : Parser (Option Expr) := chain bitwiseOperator? (term? g)

/-! ### Comparisons -/

def rangeOperators (dialect : Dialect) : List (String × Operator) :=
  [("LIKE", .like), ("~~", .like), ("ILIKE", .ilike), ("~~*", .ilike), ("GLOB", .glob),
    ("RLIKE", .regex), ("REGEXP", .regex), ("~*", .regexAnyCase),
    ("SIMILAR TO", .similarTo), ("OVERLAPS", .overlaps), ("@>", .containsAll),
    ("?|", .hasAnyKey), ("?&", .hasAllKeys), ("#-", .withoutPath), ("&<", .extendsLeft),
    ("&>", .extendsRight), ("-|-", .adjacent), ("^@", .startsWith)] ++
  match dialect with
  | .postgres => [("~", .regex), ("&&", .sharesSome), ("@@", .textSearch)]
  | .duckdb => [("~", .fullRegex), ("&&", .sharesSome)]
  | _ => []

def choices : Parser Expr := do
  if ← accept "(" then
    let items ← commaSeparated (orElse g.query g.expression)
    expect ")"
    return .tuple items
  else if ← accept "[" then
    let items ← commaSeparated g.expression
    expect "]"
    return .tuple items
  else require "some values" (column? g)

def jsonPredicate (left : Expr) : Parser Expr := do
  let kind ← wordIn? ["VALUE", "SCALAR", "OBJECT", "ARRAY"]
  let unique ← if ← words ["WITH"] then pure ["WITH"]
    else if ← words ["WITHOUT"] then pure ["WITHOUT"] else pure []
  discard (words ["UNIQUE"])
  discard (words ["KEYS"])
  let tail := kind.toList ++ unique.flatMap fun word => [word, "UNIQUE", "KEYS"]
  return .binary .is left (.phrase (.word "JSON" :: tail.map .word))

def identity? (left : Expr) : Parser (Option Expr) := orBack do
  let negated := (← acceptIn? ["NOT", "!"]).isSome
  if ← words ["DISTINCT", "FROM"] then
    let right ← require "an operand" (bitwise? g)
    return some (.binary (if negated then .nullSafeEqual else .nullSafeNotEqual) left right)
  let found ← if ← accept "JSON" then some <$> jsonPredicate left
    else match ← firstOf [after "NULL" (return some .null), after "UNKNOWN" (return some .null),
        bitwise? g] with
      | none => pure none
      | some right => pure (some (.binary .is left right))
  return found.map fun e => if negated then .signed .not e else e

def escaped (e : Expr) : Parser Expr := do
  if ← accept "ESCAPE" then
    return .binary .escape e ((← literal? g).getD .null)
  else return e

def schemaOperator? (left : Expr) : Parser (Option Expr) := after "OPERATOR" do
  let rest ← get
  skipBalanced
  let own := rest.take (rest.length - (← get).length)
  let operator := String.join (own.map (·.text))
  return some (.phrase [left, .word ("OPERATOR" ++ operator), ← require "an operand" (bitwise? g)])

def rangeOf? (left : Expr) : Parser (Option Expr) := do
  if ← accept "BETWEEN" then
    discard (wordIn? ["SYMMETRIC", "ASYMMETRIC"])
    let low ← require "an operand" (bitwise? g)
    discard (accept "AND")
    return some (.between left low (← require "an operand" (bitwise? g)))
  else if ← accept "IN" then return some (.isIn left (← choices g))
  else if ← accept "IS" then return some ((← identity? g left).getD left)
  else if ← accept "<@" then
    return some (.binary .containsAll (← require "an operand" (bitwise? g)) left)
  else if ← accept "SOUNDS LIKE" then
    let right ← require "an operand" (term? g)
    return some (.binary .equal (.builtin "SOUNDEX" [left]) (.builtin "SOUNDEX" [right]))
  else if ← accept "MEMBER OF" then
    return some (.binary .memberOf left (← wrapped (require "an array" g.expression)))
  else if ← nextIn ["OPERATOR"] then schemaOperator? g left
  else match ← operatorIn? (rangeOperators (← dialect)) with
    | none => return none
    | some operator =>
      return some (← escaped g (.binary operator left (← require "an operand" (bitwise? g))))

/-- The negation of a comparison. That with a pattern has an operator of its own. -/
def negation : Expr → Expr
  | .binary .like left right => .binary .notLike left right
  | .binary .ilike left right => .binary .notIlike left right
  | e => .signed .not e

def range? : Parser (Option Expr) := do
  match ← bitwise? g with
  | none => return none
  | some left => do
    let negated := (← acceptIn? ["NOT", "!"]).isSome
    let compared ← match ← rangeOf? g left with
      | some e => pure e
      | none =>
        if ← accept "ISNULL" then pure (.binary .is left .null)
        else if ← onlyIf negated (accept "NULL") then pure (.binary .is left .null)
        else pure left
    let compared := if ← accept "NOTNULL" then .signed .not (.binary .is compared .null)
      else compared
    let compared := if negated then negation compared else compared
    if ← accept "IS" then return some ((← identity? g compared).getD compared)
    else return some compared

def equality? : Parser (Option Expr) :=
  chain (operatorIn? [("=", .equal), ("==", .equal), ("<>", .notEqual), ("!=", .notEqual),
    ("<=>", .nullSafeEqual)])
    (chain (operatorIn? [("<", .less), ("<=", .lessEqual), (">", .greater), (">=", .greaterEqual)])
      (range? g))

def disjunction? : Parser (Option Expr) := do
  let own := if (← dialect) = .mysql then [("XOR", Operator.xor), ("&&", .and)] else []
  let ownOr := if (← dialect) = .mysql then [("||", Operator.or)] else []
  chain (operatorIn? (("OR", .or) :: ownOr))
    (chain (operatorIn? (("AND", .and) :: own)) (equality? g))

/-- Whether a limit comes next, whose keyword could also be a name. -/
def limitFollows : Parser Bool := do
  match ← get with
  | t :: next :: _ =>
    return ["LIMIT", "OFFSET"].any (t.is ·) && (next.kind ≠ .symbol || next.is "(" || next.is "?")
  | _ => return false

def expression? : Parser (Option Expr) := do
  match ← assignment? g with
  | none => return none
  | some value =>
    let any ← accept "AS"
    if ← nextIs (·.is "(") then
      let names ← wrappedList (name? any)
      return some (.phrase [value, .word "AS", .tuple (names.map .name)])
    if !any && (← limitFollows) then return some value
    match ← orElse (name? any) textAsName? with
    | some name => return some (.alias value name)
    | none => return some value

end EntityMap.Sql.Parser
