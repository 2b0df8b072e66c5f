import EntityMap.Sql.Expression
import EntityMap.Sql.FunctionName
import EntityMap.Sql.TimeFormat
import EntityMap.Text.Case

/-!
Parts of the forms that calls of functions take, and the forms of single functions.
-/

namespace EntityMap.Sql.FunctionForm

/-! ### Parts of forms -/

def wrapped : Expr → Expr
  | .binary operator left right => .paren (.binary operator left right)
  | e => e

def unwrapped : Expr → Expr
  | .paren e => unwrapped e
  | e => e

/-- A value as another type that has no parameters; one of that type stays as it is. -/
def castTo (kind : TypeKind) (e : Expr) : Expr :=
  match e with
  | .cast _ _ (.builtin own []) => if own = kind then e else .cast false e (.builtin kind [])
  | _ => .cast false e (.builtin kind [])

def asText : Expr → Expr
  | .literal .text s => .text s
  | e => castTo .text e

/-- The names of units of time that are given by a letter or two. -/
def unitNames : List (String × String) := [
  ("D", "DAY"), ("H", "HOUR"), ("M", "MINUTE"), ("MS", "MILLISECOND"), ("NS", "NANOSECOND"),
  ("Q", "QUARTER"), ("S", "SECOND"), ("US", "MICROSECOND"), ("W", "WEEK"), ("Y", "YEAR")]

def dateUnits : List (String × String) := [
  ("YYYY", "YEAR"), ("YY", "YEAR"), ("QQ", "QUARTER"), ("Q", "QUARTER"), ("MM", "MONTH"),
  ("M", "MONTH"), ("WW", "WEEK"), ("WK", "WEEK"), ("DD", "DAY"), ("D", "DAY")]

def dateParts : List (String × String) := [
  ("Y", "YEAR"), ("YY", "YEAR"), ("YYY", "YEAR"), ("YYYY", "YEAR"), ("YR", "YEAR"),
  ("YEARS", "YEAR"), ("YRS", "YEAR"), ("MM", "MONTH"), ("MON", "MONTH"), ("MONS", "MONTH"),
  ("MONTHS", "MONTH"), ("D", "DAY"), ("DD", "DAY"), ("DAYS", "DAY"), ("DAYOFMONTH", "DAY"),
  ("WEEKDAY", "DAYOFWEEK"), ("DOW", "DAYOFWEEK"), ("DW", "DAYOFWEEK"),
  ("WEEKDAY_ISO", "DAYOFWEEKISO"), ("DOW_ISO", "DAYOFWEEKISO"), ("DW_ISO", "DAYOFWEEKISO"),
  ("DAYOFWEEK_ISO", "DAYOFWEEKISO"), ("DOY", "DAYOFYEAR"), ("DY", "DAYOFYEAR"), ("W", "WEEK"),
  ("WK", "WEEK"), ("WEEKOFYEAR", "WEEK"), ("WOY", "WEEK"), ("WY", "WEEK"),
  ("WEEK_ISO", "WEEKISO"), ("WEEKOFYEARISO", "WEEKISO"), ("WEEKOFYEAR_ISO", "WEEKISO"),
  ("Q", "QUARTER"), ("QTR", "QUARTER"), ("QTRS", "QUARTER"), ("QUARTERS", "QUARTER"),
  ("H", "HOUR"), ("HH", "HOUR"), ("HR", "HOUR"), ("HOURS", "HOUR"), ("HRS", "HOUR"),
  ("M", "MINUTE"), ("MI", "MINUTE"), ("MIN", "MINUTE"), ("MINUTES", "MINUTE"), ("MINS", "MINUTE"),
  ("S", "SECOND"), ("SEC", "SECOND"), ("SECONDS", "SECOND"), ("SECS", "SECOND"),
  ("MS", "MILLISECOND"), ("MSEC", "MILLISECOND"), ("MILLISECONDS", "MILLISECOND"),
  ("US", "MICROSECOND"), ("USEC", "MICROSECOND"), ("MICROSECONDS", "MICROSECOND"),
  ("NS", "NANOSECOND"), ("NSEC", "NANOSECOND"), ("NANOSECONDS", "NANOSECOND"),
  ("EPOCH_SECOND", "EPOCH"), ("EPOCH_SECONDS", "EPOCH"), ("TZH", "TIMEZONE_HOUR"),
  ("TZM", "TIMEZONE_MINUTE")]

/-- The name of a unit of time, which a letter or two in upper case may stand for. A dialect may
have other names for it. -/
def unitName (dialect : Dialect) (s : String) : String :=
  let name := Text.upper s
  let own := match dialect with
    | .tsql => dateUnits.lookup name
    | .snowflake => dateParts.lookup name
    | _ => none
  own.getD (Text.upper ((unitNames.lookup s).getD s))

def unitWord (dialect : Dialect) : Expr → Expr
  | .column [n] => .word (unitName dialect n.text)
  | .literal .text s | .word s => .word (unitName dialect s)
  | e => e

def upperUnit (s : String) : String :=
  let name := Text.upper s
  (unitNames.lookup name).getD name

def unitText : Expr → Expr
  | .literal .text s => .text (upperUnit s)
  | .column [n] => .text (upperUnit n.text)
  | e => e

/-- A format of dates and times with the preferred elements of the dialect. -/
def timeFormat (dialect : Dialect) : Expr → Expr
  | .literal .text s => .text (TimeFormat.preferred dialect s)
  | e => e

/-! ### Single forms -/

/-- The remainder of a division by the operator. Some dialects have a function for it only. -/
def remainder (dialect : Dialect) (a b : Expr) : Expr :=
  match dialect with
  | .oracle => .builtin "MOD" [a, b]
  | .bigquery => .builtin "MOD" [unwrapped a, unwrapped b]
  | _ => .binary .modulo a b

def power (a b : Expr) : Expr := .builtin "POWER" [a, b]

def logarithm (dialect : Dialect) (base : String) (x : Expr) : Expr :=
  match dialect with
  | .tsql | .bigquery => .builtin "LOG" [x, .number base]
  | .duckdb => .builtin ("LOG" ++ base) [x]
  | _ => .builtin "LOG" [.number base, x]

def choice (dialect : Dialect) (condition value : Expr) (otherwise : Option Expr) : Expr :=
  match dialect with
  | .tsql | .sqlite => .builtin "IF" (condition :: value :: otherwise.toList)
  | .bigquery | .snowflake => .builtin "IF" [condition, value, otherwise.getD .null]
  | _ => .choice none [condition, value] otherwise

def isNull (e : Expr) : Expr := .binary .is e .null

def position (dialect : Dialect) (s part : Expr) (start : List Expr) : Expr :=
  match dialect with
  | .mysql => .builtin "LOCATE" (part :: s :: start)
  | .tsql | .snowflake => .builtin "CHARINDEX" (part :: s :: start)
  | .oracle | .bigquery => .builtin "INSTR" (s :: part :: start)
  | .sqlite => .builtin "INSTR" [s, part]
  | .postgres => .builtin "POSITION" [.isIn part s]
  | .duckdb => .builtin "STRPOS" [s, part]

def substring (dialect : Dialect) (arguments : List Expr) : Expr :=
  match dialect, arguments with
  | .postgres, [s, start] => .builtin "SUBSTRING" [.phrase [s, .word "FROM", start]]
  | .postgres, [s, start, length] =>
    .builtin "SUBSTRING" [.phrase [s, .word "FROM", start, .word "FOR", length]]
  | _, _ => .builtin "SUBSTRING" arguments

def dateSum (dialect : Dialect) (unit n date : Expr) : Expr :=
  .builtin "DATEADD" [unitWord dialect unit, n, date]

/-- The first day in Transact-SQL's count of days, where a number is given for a date. -/
def countedDate : Expr → Expr
  | .literal .number "0" => .text "1900-01-01"
  | e => e

/-- A time in a format that Transact-SQL gives by the name of a part. -/
def namedPart (table : List (String × String)) (part time : Expr) : Expr :=
  let name := match part with
    | .column [n] => Text.lower n.text
    | .literal _ s => Text.lower s
    | _ => ""
  let meaning := TimeFormat.replace (table ++ TimeFormat.elements .tsql) name
  .builtin "FORMAT" [castTo .dateTime2 time, .text (TimeFormat.write .tsql meaning)]

/-- A format of numbers or times in Transact-SQL. Only times have a preferred form. -/
def mixedFormat (s : String) : String :=
  let isTime := s ≠ "N" && s ≠ "C" && s.toList.any fun c => "dDmMyYhHsS".toList.contains c
  if !isTime then s
  else if s.length = 1 then TimeFormat.write .tsql (TimeFormat.replace TimeFormat.letters s)
  else TimeFormat.preferred .tsql s

def concatenation (dialect : Dialect) : List Expr → Expr
  | e :: es =>
    if dialect = .sqlite then es.foldl (.binary .concatenate) e else .builtin "CONCAT" (e :: es)
  | [] => .builtin "CONCAT" []

/-- The greatest or least of some values, or of the values in all rows if there is only one. -/
def extremum (dialect : Dialect) (single several : String) (arguments : List Expr) : Expr :=
  let renamed := [.mysql, .postgres, .tsql, .bigquery, .snowflake].contains dialect
  .builtin (if renamed && arguments.length > 1 then several else single) arguments

/-- Fills up a text. Some dialects need the text to fill it up with. -/
def padding (dialect : Dialect) (name : String) (arguments : List Expr) : Expr :=
  let filled := [.mysql, .duckdb].contains dialect && arguments.length = 2
  .builtin name (if filled then arguments ++ [.text " "] else arguments)

/-- A number as a decimal number if it has a point, which PostgreSQL can round to some places. -/
def rounded : Expr → Expr
  | .literal .number s =>
    if s.contains '.' then castTo .decimal (.number s) else .number s
  | e => e

end EntityMap.Sql.FunctionForm
