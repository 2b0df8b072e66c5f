import EntityMap.Sql.Parser.Nested
import EntityMap.Text.Digit

/-!
Values that are written down or given later: texts, numbers, spans of time, parameters.
-/

namespace EntityMap.Sql.Parser

variable (g : Nested)

/-! ### Names of several parts -/

/-- The rest of a name that consists of several parts. After the last point there may be none. -/
def dotted (name : String) : Parser String :=
  goOn (fun name => do
    if ← accept "." then
      let dialect ← dialect
      let part ← acceptIf? (isAnyName dialect)
      return some (name ++ "." ++ (part.map (·.text)).getD "None")
    else return none) name

/-! ### Single values -/

def texts? : Parser (Option Expr) := do
  match ← many (acceptIf? (·.kind = .text)) with
  | [] => return none
  | [t] => return some (.text t.text)
  | t :: ts => do
    let texts := (t :: ts).map fun t => Expr.text t.text
    if (← dialect) = .sqlite then
      return some ((texts.drop 1).foldl (.binary .concatenate) (.text t.text))
    else return some (.builtin "CONCAT" texts)

def valueOf? (t : Token) : Option Expr :=
  match t.kind with
  | .nationalText => some (.literal .nationalText t.text)
  | .rawText => some (.literal .rawText t.text)
  | .unicodeText => some (.literal .unicodeText t.text)
  | .bytes => some (.literal .bytes t.text)
  | .bits => some (.literal .bits t.text)
  | .hex => some (.literal .hex t.text)
  | .number => some (.number t.text)
  | .keyword | .symbol =>
    [("NULL", Expr.null), ("TRUE", .boolean true), ("FALSE", .boolean false)].lookup t.key
  | _ => none

def starOption? : Parser (Option Unit) := do
  match ← acceptIf? fun t => ["EXCEPT", "EXCLUDE", "RENAME", "REPLACE"].any (t.readsAs ·) with
  | none => return none
  | some _ => do
    if ← nextIs (·.is "(") then discard (wrappedList g.expression) else discard g.operand
    return some ()

def star? : Parser (Option Expr) := after "*" do
  let options : List String := ["EXCEPT", "EXCLUDE", "RENAME", "REPLACE"]
  let start ← get
  let modified : Bool := match start with
    | t :: next :: _ => options.any (t.readsAs ·) && (next.is "(" || next.kind = .word)
    | _ => false
  if modified then discard (many (starOption? g))
  return some .star

def fraction? : Parser (Option Expr) := do
  match ← get with
  | point :: digits :: rest =>
    if point.is "." && digits.kind = .number then do
      set rest
      return some (.number ("0." ++ digits.text))
    else return none
  | _ => return none

def sessionVariable? : Parser (Option Expr) := do
  if (← dialect) ≠ .mysql then return none
  after "@@" do
    let first ← require "a name" (word? true)
    return some (.parameter "@@" (some (.word (← dotted first))))

def introduced? : Parser (Option Expr) := do
  match ← peek? with
  | some t =>
    if (← dialect) = .mysql && t.kind = .word && Keyword.characterSets.contains t.key then do
      skip
      match ← firstOf [texts?, acceptIf? (fun t => t.kind = .hex || t.kind = .bits) >>= fun t =>
          return t.bind valueOf?] with
      | some value => return some (.phrase [.word t.text, value])
      | none => return some (.name ⟨t.text, false⟩)
    else return none
  | none => return none

def literal? : Parser (Option Expr) := do
  match (← peek?).bind valueOf? with
  | some value => do
    skip
    return some value
  | none => firstOf [texts?, star? g, fraction?, sessionVariable?, introduced?]

/-! ### Parameters -/

def parameterSigns (dialect : Dialect) : List String :=
  ["@", "?", ":"] ++
    if [.postgres, .duckdb, .snowflake, .tsql].contains dialect then ["$"] else []

def parameterName? (sign : String) : Parser (Option Expr) := do
  let dialect ← dialect
  match ← acceptIf? fun t =>
      t.kind = .number || t.kind = .quotedName || isName dialect t ||
        (sign = "@" && (t.kind = .text || isAnyName dialect t)) with
  | none => return none
  | some t =>
    match t.kind with
    | .quotedName => return some (.name (nameOf t))
    | .text => return some (.text t.text)
    | .number => return some (.number t.text)
    | _ => return some (.word t.text)

def parameter? : Parser (Option Expr) := orBack do
  match ← acceptIn? (parameterSigns (← dialect)) with
  | some "?" => return some (.parameter "?" none)
  | some sign => return (← parameterName? sign).map fun name => .parameter sign (some name)
  | none => return none

/-! ### Spans of time -/

/-- Splits off an amount with a unit behind it: the number of characters that they take, the amount
and the unit. -/
def amountAndUnit? (s : List Char) : Option (Nat × String × String) :=
  let blanks := s.takeWhile Text.isBlank
  let s := s.drop blanks.length
  let sign := s.takeWhile (· = '-')
  let whole := (s.drop sign.length).takeWhile Char.isDigit
  let rest := s.drop (sign.length + whole.length)
  let fraction := match rest with
    | '.' :: digits =>
      let digits := digits.takeWhile Char.isDigit
      if digits.isEmpty then [] else '.' :: digits
    | _ => []
  let gap := (rest.drop fraction.length).takeWhile Text.isBlank
  let unit := (rest.drop (fraction.length + gap.length)).takeWhile Char.isAlpha
  if sign.length ≤ 1 && !whole.isEmpty && !unit.isEmpty then
    some (blanks.length + sign.length + whole.length + fraction.length + gap.length + unit.length,
      String.ofList (sign ++ whole ++ fraction), String.ofList unit)
  else none

/-- All amounts with units in a text. `skip` characters belong to the last one. -/
def amountsFrom : (skip : Nat) → List Char → List (String × String)
  | _, [] => []
  | skip + 1, _ :: rest => amountsFrom skip rest
  | 0, c :: rest =>
    match amountAndUnit? (c :: rest) with
    | some (n, amount) => amount :: amountsFrom (n - 1) rest
    | none => amountsFrom 0 rest

def timeUnits : List String :=
  ["CENTURY", "CENTURIES", "DAYOFWEEK", "DAYOFYEAR", "DECADE", "DECADES", "DOW", "DOY", "EPOCH",
    "ISODOW", "ISOYEAR", "MILLENNIA", "MILLENNIUM", "TIMEZONE", "WEEKISO", "DAY_HOUR",
    "DAY_MICROSECOND", "DAY_MINUTE", "DAY_SECOND", "HOUR_MICROSECOND", "HOUR_MINUTE",
    "HOUR_SECOND", "MINUTE_MICROSECOND", "MINUTE_SECOND", "SECOND_MICROSECOND", "YEAR_MONTH"] ++
  ["DAY", "HOUR", "MICROSECOND", "MILLISECOND", "MINUTE", "MONTH", "NANOSECOND", "QUARTER",
    "SECOND", "WEEK", "YEAR"].flatMap fun unit => [unit, unit ++ "S"]

def amountOfNumber (digits : String) : String :=
  if digits.toList.all Char.isDigit then toString (digits.toNat?.getD 0) else digits

/-- The amount of a span of time, as a text if it is a number; and its unit if it is in the text. -/
def normalAmount (unit : Option String) : Expr → Expr × Option String
  | .literal .number s => (.text (amountOfNumber s), unit)
  | .signed .minus (.literal .number s) => (.text ("-" ++ amountOfNumber s), unit)
  | .literal .text s =>
    match amountsFrom 0 s.toList with
    | [(amount, own)] => (.text amount, some (Text.upper own))
    | _ => (.text s, unit)
  | e => (e, unit)

/-- Whether something is a name by which no span of time can start, given what follows it. -/
def isNoAmount (next : Option Token) : Expr → Bool
  | .column [n] => !n.quoted && next.any fun t => !timeUnits.contains (Text.upper t.text)
  | _ => false

/-- The unit of a span of time. A text that holds a unit takes no other one. -/
def timeUnit? (amount : Expr) : Parser (Option String) := do
  if ← nextIn ["AS", "::"] then return none
  let complete := match amount with
    | .literal .text s => !(amountsFrom 0 s.toList).isEmpty
    | _ => false
  if complete then return none
  let unit ← word? true
  return unit.map Text.upper

def intervalAfter? : Parser (Option Expr) := orBack do
  let amount ← if ← nextIs (·.kind = .text) then texts? else g.term
  match amount with
  | none => return none
  | some amount => do
    if isNoAmount (← peek?) amount then return none
    let (amount, unit) := normalAmount (← timeUnit? amount) amount
    let unit ← if ← words ["TO"] then do
        let last ← word? true
        pure (some ((unit.getD "") ++ " TO " ++ Text.upper (last.getD "")))
      else pure unit
    return some (.interval (some amount) unit)

def furtherInterval? : Parser (Option Expr) := orBack do
  discard (accept "+")
  if ← nextIs fun t => t.kind = .text || t.kind = .number then
    return some (← require "a span of time" (intervalAfter? g))
  else return none

def interval? : Parser (Option Expr) := orBack <| after "INTERVAL" do
  match ← intervalAfter? g with
  | none => return none
  | some first =>
    let rest ← many (furtherInterval? g)
    let sum := (first :: rest).foldr (fun e sum => match sum with
      | none => some e
      | some sum => some (Expr.binary .add e sum)) none
    return sum

end EntityMap.Sql.Parser
