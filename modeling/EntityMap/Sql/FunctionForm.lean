import EntityMap.Sql.FunctionForm.Aggregate
import EntityMap.Sql.FunctionForm.Json

/-!
The forms that calls of functions take. Some calls mean the same as an operator, a choice or another
call; each dialect has one form for all of them.
-/

namespace EntityMap.Sql.FunctionForm

/-! ### All forms -/

/-- The form of a call in all dialects, if it is not a call under a common name. -/
def shared? (dialect : Dialect) (name : String) (arguments : List Expr) : Option Expr :=
  match name, arguments with
  | "MOD", [a, b] => some (remainder dialect (wrapped a) (wrapped b))
  | "LOG10", [x] => some (logarithm dialect "10" x)
  | "LOG2", [x] => some (logarithm dialect "2" x)
  | "LOG", [x] =>
    if [.mysql, .tsql, .bigquery].contains dialect then some (.builtin "LN" [x]) else none
  | "LOG", [a, b] => some (.builtin "LOG" [a, b])
  | "IF", [c, a] | "IIF", [c, a] => some (choice dialect c a none)
  | "IF", [c, a, b] | "IIF", [c, a, b] => some (choice dialect c a (some b))
  | "NVL2", a :: b :: rest =>
    if [.oracle, .snowflake].contains dialect then none
    else some (.choice none [.signed .not (isNull a), b] rest.head?)
  | "STRPOS", s :: part :: start | "INSTR", s :: part :: start
  | "STR_POSITION", s :: part :: start => some (position dialect s part start)
  | "LOCATE", part :: s :: start | "CHARINDEX", part :: s :: start =>
    some (position dialect s part start)
  | "SUBSTRING", _ | "SUBSTR", _ => some (substring dialect arguments)
  | "CONCAT", _ :: _ => some (concatenation dialect arguments)
  | "MAX", _ :: _ => some (extremum dialect "MAX" "GREATEST" arguments)
  | "MIN", _ :: _ => some (extremum dialect "MIN" "LEAST" arguments)
  | "LTRIM", [s, c] | "RTRIM", [s, c] =>
    if [.mysql, .postgres, .oracle, .tsql].contains dialect then
      let side := if name = "LTRIM" then "LEADING" else "TRAILING"
      some (.builtin "TRIM" [.phrase [.word side, c, .word "FROM", s]])
    else none
  | "LPAD", _ :: _ :: _ | "RPAD", _ :: _ :: _ => some (padding dialect name arguments)
  | "UPPER", [.builtin "HEX" [x]] | "UCASE", [.builtin "HEX" [x]] =>
    if dialect = .bigquery then none else some (.builtin "HEX" [x])
  | "LOWER", [.builtin "HEX" [x]] | "LCASE", [.builtin "HEX" [x]] =>
    if dialect = .bigquery then some (.builtin "HEX" [x]) else none
  | "LIKE", [pattern, s] => some (.binary .like s pattern)
  | "LIKE", [pattern, s, sign] => some (.binary .escape (.binary .like s pattern) sign)
  | "GLOB", [pattern, s] => some (.binary .glob s pattern)
  | "JSON_EXTRACT", value :: path :: more => some (jsonPart dialect value path more)
  | "GROUP_CONCAT", value :: separator => some (joinedTexts dialect value [] separator.head?)
  | "DATE_TRUNC", unit :: rest =>
    if dialect = .bigquery then none else some (.builtin "DATE_TRUNC" (unitText unit :: rest))
  | _, _ => none

/-- A time, where it makes no difference that only its date counts. -/
def timeOfDate : Expr → Expr
  | .builtin "DATE" [time] => time
  | e => e

/-- The first day of a period in MySQL, given the unit of the period and a time in it. -/
def periodStart (unit : String) (time : Expr) : Expr :=
  let day (parts : List Expr) (format : String) : Expr :=
    .builtin "STR_TO_DATE" [.builtin "CONCAT" (.builtin "YEAR" [time] :: parts), .text format]
  match unit with
  | "WEEK" =>
    day [.text " ", .builtin "WEEK" [time, .number "1"], .text " 1"] "%Y %u %w"
  | "MONTH" => day [.text " ", .builtin "MONTH" [time], .text " 1"] "%Y %c %e"
  | "QUARTER" =>
    let months := .binary .multiply (.builtin "QUARTER" [time]) (.number "3")
    day [.text " ", .binary .subtract months (.number "2"), .text " 1"] "%Y %c %e"
  | "YEAR" => day [.text " 1 1"] "%Y %c %e"
  | _ => .builtin "DATE" [time]

def mysql? (name : String) (arguments : List Expr) : Option Expr :=
  match name, arguments with
  | "ISNULL", [x] => some (.paren (isNull x))
  | "LEN", [x] | "CHAR_LENGTH", [x] | "CHARACTER_LENGTH", [x] => some (.builtin "CHAR_LENGTH" [x])
  | "DATE_FORMAT", [x, f] =>
    some (.builtin "DATE_FORMAT" [timeOfDate x, timeFormat .mysql f])
  | "FROM_UNIXTIME", [x, f] => some (.builtin "FROM_UNIXTIME" [x, timeFormat .mysql f])
  | "DATE_ADD", [x, n] | "DATE_SUB", [x, n] => some (.builtin name [timeOfDate x, n])
  | "DATEDIFF", a :: b :: _ => some (.builtin "DATEDIFF" [timeOfDate a, timeOfDate b])
  | "DATE_TRUNC", [.literal .text unit, x] => some (periodStart (upperUnit unit) x)
  | "TO_DAYS", [x] =>
    let days := .builtin "DATEDIFF" [timeOfDate x, .text "0000-01-01"]
    some (.paren (.binary .add days (.number "1")))
  | "STR_TO_DATE", [x, f] => some (.builtin "STR_TO_DATE" [x, timeFormat .mysql f])
  | "MONTHNAME", [x] => some (.builtin "DATE_FORMAT" [x, .text "%M"])
  | "TIMESTAMPDIFF", unit :: rest =>
    some (.builtin "TIMESTAMPDIFF" (unitWord .mysql unit :: rest))
  | _, _ => none

def postgres? (name : String) (arguments : List Expr) : Option Expr :=
  match name, arguments with
  | "TO_CHAR", [x, f] | "TO_DATE", [x, f] | "TO_TIMESTAMP", [x, f] =>
    some (.builtin name [x, timeFormat .postgres f])
  | "DIV", [a, b] => some (castTo .decimal (.builtin "DIV" [a, b]))
  | "ROUND", [x, n] => some (.builtin "ROUND" [rounded x, n])
  | _, _ => none

/-- The first items of a list, with as many zeros behind it as are missing. -/
def withZeros : Nat → List Expr → List Expr
  | 0, _ => []
  | n + 1, e :: es => e :: withZeros n es
  | n + 1, [] => .number "0" :: withZeros n []

def tsql? (name : String) (arguments : List Expr) : Option Expr :=
  match name, arguments with
  | "ISNULL", [a, b] => some (.builtin "ISNULL" [a, b])
  | "LEN", [x] => some (.builtin "LENGTH" [asText x])
  | "LEFT", [x, n] => some (.builtin "LEFT" [asText x, n])
  | "RIGHT", [x, n] => some (.builtin "RIGHT" [asText x, n])
  | "SQUARE", [x] => some (power x (.number "2"))
  | "EOMONTH", [x] => some (.builtin "LAST_DAY" [castTo .date x])
  | "EOMONTH", [x, n] =>
    some (.builtin "LAST_DAY" [.builtin "DATEADD" [.word "MONTH", n, castTo .date x]])
  | "FORMAT", x :: .literal .text f :: rest =>
    some (.builtin "FORMAT" (x :: .text (mixedFormat f) :: rest))
  | "HASHBYTES", [.literal .text algorithm, x] =>
    let algorithm := Text.upper algorithm
    if algorithm = "MD5" then some (.builtin "MD5" [x])
    else if ["SHA", "SHA1"].contains algorithm then some (.builtin "SHA" [x])
    else if algorithm = "SHA2_256" then some (.builtin "SHA2" [x, .number "256"])
    else if algorithm = "SHA2_512" then some (.builtin "SHA2" [x, .number "512"])
    else none
  | "JSON_VALUE", [value, path] | "JSON_QUERY", [value, path] =>
    some (jsonValueOrObject value path)
  | "JSON_QUERY", [value] => some (jsonValueOrObject value (.text "$"))
  | "TIMEFROMPARTS", h :: m :: s :: rest =>
    some (.builtin "TIME_FROM_PARTS" (h :: m :: s :: withZeros 2 rest))
  | "DATETIMEFROMPARTS", [y, m, d, h, min, s] =>
    some (.builtin "TIMESTAMP_FROM_PARTS" [y, m, d, h, min, s, .number "0"])
  | "DATETIMEFROMPARTS", [_, _, _, _, _, _, _] => some (.builtin "TIMESTAMP_FROM_PARTS" arguments)
  | "DATETRUNC", [unit, .literal .text s] =>
    some (.builtin "DATETRUNC" [unitWord .oracle unit, castTo .dateTime2 (.text s)])
  | "DATETRUNC", [unit, x] => some (.builtin "DATETRUNC" [unitWord .oracle unit, x])
  | "TRUNC", [x] => some (.builtin "ROUND" [x, .number "0", .number "1"])
  | "TRUNC", [x, n] => some (.builtin "ROUND" [x, n, .number "1"])
  | "ANY_VALUE", [x] => some (.builtin "MAX" [x])
  | "DATEPART", [part, x] => some (namedPart [] part x)
  | "DATENAME", [part, x] => some (namedPart TimeFormat.namedParts part x)
  | "DATEADD", [unit, n, x] => some (dateSum .tsql unit n x)
  | "DATEDIFF", [unit, a, b] =>
    some (.builtin "DATEDIFF"
      [unitWord .tsql unit, castTo .dateTime2 (countedDate a), castTo .dateTime2 b])
  | _, _ => none

/-- The types that Snowflake has functions for, with a name for each function. -/
def datingFunctions : List (String × TypeKind) := [
  ("DATE", .date), ("TO_DATE", .date), ("TIME", .time), ("TO_TIME", .time),
  ("TO_TIMESTAMP", .timestamp), ("TO_TIMESTAMP_NTZ", .timestampPlain),
  ("TO_TIMESTAMP_LTZ", .timestampLocal), ("TO_TIMESTAMP_TZ", .timestampTz)]

def isWhole (s : String) : Bool :=
  let digits := if s.startsWith "-" || s.startsWith "+" then s.toList.drop 1 else s.toList
  !digits.isEmpty && digits.all Char.isDigit

/-- A value as a date or time in Snowflake. A number is a count, a text may have a format. -/
def dated? (name : String) (arguments : List Expr) : Option Expr :=
  match datingFunctions.lookup name, arguments with
  | some kind, [.literal .text s] =>
    if isWhole s then none else some (castTo kind (.text s))
  | some .date, [x] => some (.builtin "TO_DATE" [x])
  | some .time, [x] => some (.builtin "TO_TIME" [x])
  | some .date, [x, f] => some (.builtin "TO_DATE" [x, timeFormat .snowflake f])
  | some .time, [x, f] => some (.builtin "TO_TIME" [x, timeFormat .snowflake f])
  | some _, [x, .literal .text f] =>
    some (.builtin "TO_TIMESTAMP" [x, timeFormat .snowflake (.text f)])
  | _, _ => none

def snowflake? (name : String) (arguments : List Expr) : Option Expr :=
  match name, arguments with
  | "TRY_TO_DATE", [.literal .text s] =>
    if isWhole s then none else some (.cast true (.text s) (.builtin .date []))
  | "TRY_TO_TIMESTAMP", [.literal .text s] =>
    if isWhole s then none else some (.cast true (.text s) (.builtin .timestamp []))
  | "TO_CHAR", [.builtin time [], f] =>
    if ["CURRENT_DATE", "CURRENT_TIMESTAMP"].contains time then
      some (.builtin "TO_CHAR" [.builtin time [], timeFormat .snowflake f])
    else none
  | "IFF", [c, a, b] => some (choice .snowflake c a (some b))
  | "IFF", [c, a] => some (choice .snowflake c a none)
  | "ZEROIFNULL", [x] => some (choice .snowflake (isNull x) (.number "0") (some x))
  | "NULLIFZERO", [x] =>
    some (choice .snowflake (.binary .equal x (.number "0")) .null (some x))
  | "DIV0", [a, b] =>
    let (a, b) := (wrapped a, wrapped b)
    let condition := .binary .and (.binary .equal b (.number "0")) (.signed .not (isNull a))
    some (choice .snowflake condition (.number "0") (some (.binary .divide a b)))
  | "DIV0NULL", [a, b] =>
    let (a, b) := (wrapped a, wrapped b)
    let condition := .binary .or (.binary .equal b (.number "0")) (isNull b)
    some (choice .snowflake condition (.number "0") (some (.binary .divide a b)))
  | "SQUARE", [x] => some (power x (.number "2"))
  | "DATEADD", [unit, n, x] | "TIMESTAMPADD", [unit, n, x] => some (dateSum .snowflake unit n x)
  | "TIMEADD", [unit, n, x] => some (.builtin "TIMEADD" [unitWord .snowflake unit, n, x])
  | "DATEDIFF", [unit, a, b] | "TIMEDIFF", [unit, a, b] | "TIMESTAMPDIFF", [unit, a, b] =>
    some (.builtin "DATEDIFF" [unitWord .snowflake unit, a, b])
  | "LAST_DAY", [x, unit] => some (.builtin "LAST_DAY" [x, unitWord .snowflake unit])
  | "ARRAY_CONSTRUCT", _ => some (.array arguments)
  | "RLIKE", _ :: _ :: _ => some (.builtin "REGEXP_LIKE" arguments)
  | "REGEXP_REPLACE", [s, pattern] => some (.builtin "REGEXP_REPLACE" [s, pattern, .text ""])
  | _, _ => dated? name arguments

/-- Members that are given by their names, or by their places. -/
def membersFrom (place : Nat) : List Expr → List (Expr × Expr)
  | [] => []
  | .binary .assign name value :: rest => (.text name.label, value) :: membersFrom (place + 1) rest
  | .alias value name :: rest => (.text name.text, value) :: membersFrom (place + 1) rest
  | value :: rest => (.text ("_" ++ toString place), value) :: membersFrom (place + 1) rest

def members : List Expr → List (Expr × Expr) := membersFrom 0

def dateOfText : Expr → Expr
  | .literal .text s => castTo .date (.text s)
  | e => e

def other? (dialect : Dialect) (name : String) (arguments : List Expr) : Option Expr :=
  match dialect, name, arguments with
  | .oracle, "NVL", _ :: _ => some (.builtin "NVL" arguments)
  | .oracle, "SQUARE", [x] => some (power x (.number "2"))
  | .oracle, "TO_CHAR", [x, f] | .oracle, "TO_DATE", [x, f] | .oracle, "TO_TIMESTAMP", [x, f] =>
    some (.builtin name [x, timeFormat .oracle f])
  | .oracle, "TRUNC", [.literal .number n] => some (.builtin "TRUNC" [.number n])
  | .oracle, "TRUNC", [x] => some (.builtin "TRUNC" [x, .text "DD"])
  | .sqlite, "STRFTIME", [f] => some (.builtin "STRFTIME" [f, .builtin "CURRENT_TIMESTAMP" []])
  | .sqlite, "DATETIME", _ | .sqlite, "TIME", _ => some (.call ⟨name, false⟩ arguments)
  | .sqlite, "ANY_VALUE", [x] => some (.builtin "MAX" [x])
  | .duckdb, "DATE_DIFF", unit :: rest | .duckdb, "DATEDIFF", unit :: rest =>
    some (.builtin "DATEDIFF" (unitText unit :: rest))
  | .duckdb, "LIST_VALUE", _ => some (.array arguments)
  | .duckdb, "STRUCT_PACK", _ => some (object .duckdb (members arguments))
  | .duckdb, "DATE_ADD", [x, .interval amount unit] =>
    some (.binary .add (dateOfText x) (.interval amount unit))
  | .duckdb, "JSON_EXTRACT_PATH", [value, path] => some (jsonPart .duckdb value path [])
  | .duckdb, "JSON_EXTRACT_STRING", [value, path]
  | .duckdb, "JSON_EXTRACT_PATH_TEXT", [value, path] =>
    some (.binary .longArrow value (jsonPath path))
  | .duckdb, "ENCODE", [x] => some (.builtin "ENCODE" [x])
  | .duckdb, "DECODE", [x] => some (.builtin "DECODE" [x])
  | .bigquery, "DIV", [a, b] => some (.builtin "DIV" [a, b])
  | .bigquery, "DATE", _ | .bigquery, "DATETIME", _ | .bigquery, "TIME", _ =>
    some (.builtin name arguments)
  | .bigquery, "SPLIT", [s] => some (.builtin "SPLIT" [s, .text ","])
  | .bigquery, "JSON_EXTRACT_SCALAR", [x] | .bigquery, "JSON_VALUE", [x] =>
    some (.builtin name [x, .text "$"])
  | .bigquery, "FORMAT_DATE", f :: rest | .bigquery, "FORMAT_DATETIME", f :: rest
  | .bigquery, "FORMAT_TIMESTAMP", f :: rest | .bigquery, "FORMAT_TIME", f :: rest
  | .bigquery, "PARSE_DATE", f :: rest | .bigquery, "PARSE_DATETIME", f :: rest
  | .bigquery, "PARSE_TIMESTAMP", f :: rest =>
    some (.builtin name (timeFormat .bigquery f :: rest))
  | _, _, _ => none

def own? (dialect : Dialect) (name : String) (arguments : List Expr) : Option Expr :=
  match dialect with
  | .mysql => mysql? name arguments
  | .postgres => postgres? name arguments
  | .tsql => tsql? name arguments
  | .snowflake => snowflake? name arguments
  | _ => other? dialect name arguments

def special? (dialect : Dialect) (name : String) (arguments : List Expr) : Option Expr :=
  (own? dialect name arguments).or (shared? dialect name arguments)

def addsInterval (dialect : Dialect) (name : String) : Bool :=
  match dialect with
  | .mysql => ["DATE_ADD", "DATE_SUB"].contains name
  | .bigquery =>
    ["DATE_ADD", "DATE_SUB", "DATETIME_ADD", "DATETIME_SUB", "TIMESTAMP_ADD", "TIMESTAMP_SUB",
      "TIME_ADD", "TIME_SUB"].contains name
  | _ => false

def isMisused (dialect : Dialect) (name : String) (arguments : List Expr) : Bool :=
  let n := arguments.length
  let arity := (FunctionName.common? dialect name).bind FunctionName.arity?
  let wrongCount := arity.any fun (least, most) => n < least || most.any (· < n)
  let hasForm := (own? dialect name arguments).isSome
  wrongCount && !hasForm || addsInterval dialect name && !(arguments matches [_, .interval _ _])

/-- What a call of a function means, given its name in upper case; nothing if the dialect does not
know the function. -/
def of? (dialect : Dialect) (name : String) (arguments : List Expr) : Option Expr :=
  (special? dialect name arguments).or <|
    (FunctionName.common? dialect name).map (.builtin · arguments)

end EntityMap.Sql.FunctionForm
