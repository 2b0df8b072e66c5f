import EntityMap.Sql.Expression
import EntityMap.Sql.FunctionName
import EntityMap.Sql.LexicalRules
import EntityMap.Sql.ReservedName
import EntityMap.Text.Case
import EntityMap.Text.Digit

/-!
Writing types and expressions in a dialect: keywords and functions in upper case, one blank around
an operator and after a comma.
-/

namespace EntityMap.Sql

/-! ### Names and texts -/

/-- The character in a text, as it is written between single quotes. `escape` takes the meaning
from a quote. -/
def escapeChar (sequences : List (Char × Char)) (escape : Char) (c : Char) : List Char :=
  match sequences.find? fun (_, meant) => meant = c with
  | some (letter, _) => ['\\', letter]
  | none => if c = '\'' then [escape, '\''] else [c]

def quoteText (dialect : Dialect) (s : String) : String :=
  let rules := LexicalRules.of dialect
  let escape := (rules.textEscapes.head?).getD '\''
  "'" ++ String.ofList (s.toList.flatMap (escapeChar rules.sequences escape)) ++ "'"

def quoteBytes (dialect : Dialect) (s : String) : String :=
  let escape := ((LexicalRules.of dialect).byteEscapes.head?).getD '\''
  let sequences := commonSequences.filter fun (letter, _) => letter ≠ '\\'
  "'" ++ String.ofList (s.toList.flatMap (escapeChar sequences escape)) ++ "'"

/-- A name in the quotes of the dialect, which are doubled inside. -/
def quoteName (dialect : Dialect) (s : String) : String :=
  let (opening, closing) := ((LexicalRules.of dialect).nameQuotes.head?).getD ('"', '"')
  let inner := s.toList.flatMap fun c => if c = closing then [c, c] else [c]
  String.ofList (opening :: inner ++ [closing])

/-- Whether a name starts with a digit although the dialect has no such names. -/
def startsWrongly (dialect : Dialect) (s : String) : Bool :=
  !(LexicalRules.of dialect).digitNames && s.toList.head?.any Text.isDigit

/-- The name, with quotes if it has been written with quotes or cannot be written without. -/
def Name.render (dialect : Dialect) (n : Name) : String :=
  if n.quoted || needsQuotes dialect n.text || startsWrongly dialect n.text then
    quoteName dialect n.text
  else n.text

def commas (items : List String) : String := ", ".intercalate items

def parenthesized (items : List String) : String :=
  if items.isEmpty then "" else "(" ++ commas items ++ ")"

def LiteralKind.render (dialect : Dialect) (value : String) : LiteralKind → String
  | number => value
  | text | rawText => quoteText dialect value
  | nationalText => "N" ++ quoteText dialect value
  | unicodeText => (if dialect = .oracle then "U'" else "U&'") ++ value ++ "'"
  | bytes => (if dialect = .bigquery then "b" else "e") ++ quoteBytes dialect value
  | bits => "b'" ++ value ++ "'"
  | hex =>
    if [.tsql, .bigquery].contains dialect then "0x" ++ value else "x'" ++ value ++ "'"

/-! ### Types -/

/-- The parameters that a type has where none are written. -/
def defaultParameters : Dialect → TypeKind → List String
  | .duckdb, .decimal => ["18", "3"]
  | .snowflake, .decimal => ["38", "0"]
  | _, _ => []

def dropsParameters : Dialect → TypeKind → Bool
  | _, .json => true
  | .duckdb, .text | .duckdb, .time | .duckdb, .timeTz | .duckdb, .timestampTz
  | .duckdb, .timestampLocal => true
  | _, _ => false

def renderBuiltinType (dialect : Dialect) (kind : TypeKind) (parameters : List String) : String :=
  let name := kind.nameIn dialect
  let parameters := if parameters.isEmpty then defaultParameters dialect kind else parameters
  if dropsParameters dialect kind then name
  else match dialect, kind with
  | .mysql, .varchar => if parameters.isEmpty then "TEXT" else name ++ parenthesized parameters
  | _, .interval => if parameters.isEmpty then name else name ++ " " ++ commas parameters
  | .mysql, _ =>
    name ++ parenthesized parameters ++ (if kind.isUnsigned then " UNSIGNED" else "")
  | .postgres, .float | .postgres, .double =>
    if parameters.isEmpty then name else "FLOAT" ++ parenthesized parameters
  | .postgres, .enum => name ++ " (" ++ commas parameters ++ ")"
  | .oracle, .timestampTz | .oracle, .timeTz =>
    name ++ parenthesized parameters ++ " WITH TIME ZONE"
  | _, _ => name ++ parenthesized parameters

def renderNestedType (dialect : Dialect) (kind : TypeKind) (elements : List String)
    (size : List String) : String :=
  let name := kind.nameIn dialect
  match dialect, kind with
  | .postgres, .array | .duckdb, .array =>
    if elements.isEmpty then name else commas elements ++ "[" ++ commas size ++ "]"
  | .snowflake, _ => name ++ parenthesized elements
  | _, _ =>
    let inner := if elements.isEmpty then "" else "<" ++ commas elements ++ ">"
    name ++ inner ++ (if size.isEmpty then "" else "[" ++ commas size ++ "]")

/-- The name of a type that is declared elsewhere. Its quotes are kept. -/
def renderTypeName (dialect : Dialect) (path : List Name) : String :=
  ".".intercalate <| path.map fun n => if n.quoted then quoteName dialect n.text else n.text

def castNames : List (TypeKind × String) :=
  ([.longText, .longBlob, .mediumBlob, .mediumText, .text, .tinyBlob, .tinyText,
    .varchar].map fun kind => (kind, "CHAR")) ++
  ([.bigInt, .boolean, .int, .smallInt, .tinyInt, .mediumInt].map fun kind => (kind, "SIGNED")) ++
  [(.unsignedBigInt, "UNSIGNED")]

/-! ### Functions -/

def renderCall (name : String) (arguments : List String) : String :=
  name ++ "(" ++ commas arguments ++ ")"

def renderBuiltin (dialect : Dialect) (name : String) (arguments : List String) : String :=
  if FunctionName.writesBare dialect name then
    let keepsArguments := ["CURRENT_DATE", "LOCALTIME", "LOCALTIMESTAMP"].contains name ||
      (dialect = .oracle && name = "CURRENT_TIMESTAMP")
    if keepsArguments then name ++ parenthesized arguments else name
  else match dialect, name, arguments with
  | .tsql, "CURRENT_TIMESTAMP", _ | .tsql, "CURRENT_DATE", _ => renderCall "GETDATE" arguments
  | .tsql, "MD5", _ => renderCall "HASHBYTES" ("'MD5'" :: arguments)
  | .tsql, "SHA", _ => renderCall "HASHBYTES" ("'SHA1'" :: arguments)
  | .tsql, "SHA2", [x] => renderCall "HASHBYTES" ["'SHA2_256'", x]
  | .tsql, "SHA2", [x, length] => renderCall "HASHBYTES" ["'SHA2_" ++ length ++ "'", x]
  | _, _, _ => renderCall (FunctionName.writtenIn dialect name) arguments

/-- The name of a function, in upper case unless it stands behind a point or the dialect tells
cases apart. -/
def renderFunctionName (dialect : Dialect) (qualified : Bool) (n : Name) : String :=
  let text := if qualified || dialect = .bigquery then n.text else Text.upper n.text
  if n.quoted then quoteName dialect text else text

def castName (dialect : Dialect) (safe : Bool) : String :=
  if !safe || [.mysql, .postgres, .sqlite].contains dialect then "CAST"
  else if dialect = .bigquery then "SAFE_CAST" else "TRY_CAST"

/-! ### Operators -/

def Operator.textIn (dialect : Dialect) (operator : Operator) : String :=
  match dialect, operator with
  | .tsql, concatenate => "+"
  | .postgres, bitXor => "#"
  | .mysql, nullSafeEqual => "<=>"
  | .sqlite, nullSafeEqual => "IS"
  | .sqlite, nullSafeNotEqual => "IS NOT"
  | .duckdb, wholeDivide => "//"
  | _, _ => operator.text

/-- Dialects in which patterns always tell cases apart. -/
def tellsCases (dialect : Dialect) : Bool := [.mysql, .sqlite, .oracle, .bigquery].contains dialect

/-- Dialects that put a comma between a key and its value. -/
def writesPairsAsItems (dialect : Dialect) : Bool :=
  [.mysql, .sqlite, .bigquery, .snowflake].contains dialect

def renderBinary (dialect : Dialect) (operator : Operator) (left right : String) : String :=
  let lowered (operator : String) : String :=
    renderCall "LOWER" [left] ++ operator ++ renderCall "LOWER" [right]
  match dialect, operator with
  | _, .coalesce => renderCall "COALESCE" [left, right]
  | .bigquery, .wholeDivide | .postgres, .wholeDivide => renderCall "DIV" [left, right]
  | .mysql, .arrow => renderCall "JSON_EXTRACT" [left, right]
  | .snowflake, .bitAnd => renderCall "BITAND" [left, right]
  | .snowflake, .bitOr => renderCall "BITOR" [left, right]
  | .snowflake, .bitXor => renderCall "BITXOR" [left, right]
  | .snowflake, .shiftLeft => renderCall "BITSHIFTLEFT" [left, right]
  | .snowflake, .shiftRight => renderCall "BITSHIFTRIGHT" [left, right]
  | .postgres, .regex => left ++ " ~ " ++ right
  | .bigquery, .regex => renderCall "REGEXP_CONTAINS" [left, right]
  | .duckdb, .regex => renderCall "REGEXP_MATCHES" [left, right]
  | _, .regex => renderCall "REGEXP_LIKE" [left, right]
  | _, .fullRegex => renderCall "REGEXP_FULL_MATCH" [left, right]
  | .postgres, .regexAnyCase => left ++ " ~* " ++ right
  | .duckdb, .regexAnyCase => renderCall "REGEXP_MATCHES" [left, right, "'i'"]
  | .snowflake, .regexAnyCase => renderCall "REGEXP_LIKE" [left, right, "'i'"]
  | _, .regexAnyCase => renderCall "REGEXP_I_LIKE" [left, right]
  | _, .startsWith => renderCall "STARTS_WITH" [left, right]
  | .mysql, .atTimeZone => left
  | .snowflake, .atTimeZone => renderCall "CONVERT_TIMEZONE" [right, left]
  | .bigquery, .atTimeZone => renderCall "TIMESTAMP" [renderCall "DATETIME" [left, right]]
  | _, .memberOf => left ++ " MEMBER OF(" ++ right ++ ")"
  | _, .pair => left ++ (if writesPairsAsItems dialect then ", " else ": ") ++ right
  | .mysql, .nullSafeNotEqual => "NOT " ++ left ++ " <=> " ++ right
  | .duckdb, .bitXor => renderCall "XOR" [left, right]
  | _, .ilike =>
    if tellsCases dialect then lowered " LIKE " else left ++ " ILIKE " ++ right
  | _, .notIlike =>
    if tellsCases dialect then lowered " NOT LIKE " else left ++ " NOT ILIKE " ++ right
  | _, _ => left ++ " " ++ operator.textIn dialect ++ " " ++ right

/-- An operator before its operand. A minus never touches another one. -/
def renderSigned (dialect : Dialect) (operator : SignOperator) (operand : String) : String :=
  match operator with
  | .minus => (if operand.startsWith "-" then "- " else "-") ++ operand
  | .not => "NOT " ++ operand
  | .complement =>
    if dialect = .snowflake then renderCall "BITNOT" [operand] else "~" ++ operand

def renderMembers : List String → List String
  | key :: value :: rest => (key ++ ": " ++ value) :: renderMembers rest
  | _ => []

/-- A truth value. Transact-SQL has none and writes a comparison. -/
def renderBoolean (dialect : Dialect) (value : Bool) : String :=
  match dialect, value with
  | .tsql, true => "(1 = 1)"
  | .tsql, false => "(1 = 0)"
  | _, true => "TRUE"
  | _, false => "FALSE"

def renderArray (dialect : Dialect) (items : List String) : String :=
  match dialect with
  | .postgres => "ARRAY[" ++ commas items ++ "]"
  | .bigquery | .duckdb | .snowflake => "[" ++ commas items ++ "]"
  | _ => "ARRAY(" ++ commas items ++ ")"

/-! ### Spans of time -/

/-- Units of time that some dialects write in the singular only. -/
def pluralUnits : List (String × String) :=
  ["MICROSECOND", "SECOND", "MINUTE", "HOUR", "DAY", "WEEK", "MONTH", "QUARTER", "YEAR"].map
    fun unit => (unit ++ "S", unit)

def renderUnit (dialect : Dialect) (unit : String) : String :=
  if [.mysql, .bigquery].contains dialect then (pluralUnits.lookup unit).getD unit else unit

/-- A span of time, given by its amount, the amount in parentheses where it needs them, and what the
amount is by itself. PostgreSQL and Snowflake have one text for the amount and a single unit. -/
def renderInterval (dialect : Dialect) (amount : Option (String × String)) (unit : Option String) :
    String :=
  let unit := (unit.map fun unit => " " ++ renderUnit dialect unit).getD ""
  match amount with
  | none => "INTERVAL" ++ unit
  | some (written, plain) =>
    if [.postgres, .snowflake].contains dialect then
      if unit.contains " TO " then "INTERVAL '" ++ plain ++ "'" ++ unit
      else "INTERVAL '" ++ plain ++ unit ++ "'"
    else "INTERVAL " ++ written ++ unit

def Expr.amountText : Expr → String
  | .literal _ s => s
  | .column path => (path.getLast?.map (·.text)).getD ""
  | _ => ""

def Expr.isPlainAmount : Expr → Bool
  | .literal _ _ | .column _ | .paren _ | .signed .minus _ => true
  | _ => false

/-! ### Expressions -/

def renderBranches : List String → String
  | condition :: value :: rest => " WHEN " ++ condition ++ " THEN " ++ value ++ renderBranches rest
  | _ => ""

mutual

def DataType.render (dialect : Dialect) : DataType → String
  | .builtin kind parameters => renderBuiltinType dialect kind (renderAll dialect parameters)
  | .nested kind elements size =>
    renderNestedType dialect kind (renderTypes dialect elements) (renderAll dialect size)
  | .custom path parameters =>
    renderTypeName dialect path ++ parenthesized (renderAll dialect parameters)
  | .written text parameters => text ++ parenthesized (renderAll dialect parameters)
  | .field name type => name.render dialect ++ " " ++ type.render dialect

def renderTypes (dialect : Dialect) : List DataType → List String
  | [] => []
  | t :: ts => t.render dialect :: renderTypes dialect ts

/-- A cast as the dialect writes it, given the name of the cast and the value. In MySQL time stamps
are made by a function. -/
def DataType.renderCast (dialect : Dialect) (name value : String) : DataType → String
  | .builtin kind parameters =>
    let parameters := if dialect = .bigquery then [] else renderAll dialect parameters
    if dialect = .mysql && [.timestampTz, .timestampLocal].contains kind then
      renderCall "TIMESTAMP" [value]
    else match dialect, castNames.lookup kind with
    | .mysql, some target => renderCall name [value ++ " AS " ++ target ++ parenthesized parameters]
    | _, _ => renderCall name [value ++ " AS " ++ renderBuiltinType dialect kind parameters]
  | .nested kind elements size =>
    renderCall name [value ++ " AS " ++
      renderNestedType dialect kind (renderTypes dialect elements) (renderAll dialect size)]
  | .custom path parameters =>
    let target := renderTypeName dialect path ++ parenthesized (renderAll dialect parameters)
    renderCall name [value ++ " AS " ++ target]
  | .written text parameters =>
    renderCall name [value ++ " AS " ++ text ++ parenthesized (renderAll dialect parameters)]
  | .field field type =>
    renderCall name [value ++ " AS " ++ field.render dialect ++ " " ++ type.render dialect]

def Expr.render (dialect : Dialect) : Expr → String
  | .null => "NULL"
  | .boolean value => renderBoolean dialect value
  | .star => "*"
  | .literal kind value => kind.render dialect value
  | .name n => n.render dialect
  | .word word => word
  | .sized size unit => size.render dialect ++ " " ++ unit
  | .column path => ".".intercalate (path.map (·.render dialect))
  | .member owner (.call f arguments) =>
    owner.render dialect ++ "." ++
      renderCall (renderFunctionName dialect true f) (renderAll dialect arguments)
  | .member owner field => owner.render dialect ++ "." ++ field.render dialect
  | .parameter sign name => sign ++ String.join (renderOption dialect name)
  | .paren inner => "(" ++ inner.render dialect ++ ")"
  | .tuple items => "(" ++ commas (renderAll dialect items) ++ ")"
  | .array items => renderArray dialect (renderAll dialect items)
  | .record members => "\x7b" ++ commas (renderMembers (renderAll dialect members)) ++ "\x7d"
  | .signed operator operand => renderSigned dialect operator (operand.render dialect)
  | .binary operator left right =>
    renderBinary dialect operator (left.render dialect) (right.render dialect)
  | .between operand low high =>
    operand.render dialect ++ " BETWEEN " ++ low.render dialect ++ " AND " ++ high.render dialect
  | .isIn operand choices => operand.render dialect ++ " IN " ++ choices.render dialect
  | .element owner index =>
    owner.render dialect ++ "[" ++ commas (renderAll dialect index) ++ "]"
  | .slice low high =>
    String.join (renderOption dialect low) ++ ":" ++ String.join (renderOption dialect high)
  | .call f arguments =>
    renderCall (renderFunctionName dialect false f) (renderAll dialect arguments)
  | .builtin f arguments => renderBuiltin dialect f (renderAll dialect arguments)
  | .cast safe value type =>
    type.renderCast dialect (castName dialect safe) (value.render dialect)
  | .type type => type.render dialect
  | .nextValue sequence => "NEXT VALUE FOR " ++ sequence.render dialect
  | .interval none unit => renderInterval dialect none unit
  | .interval (some amount) unit =>
    let value := amount.render dialect
    let written := if amount.isPlainAmount then value else "(" ++ value ++ ")"
    renderInterval dialect (some (written, amount.amountText)) unit
  | .choice operand branches otherwise =>
    "CASE" ++ String.join ((renderOption dialect operand).map (" " ++ ·)) ++
      renderBranches (renderAll dialect branches) ++
      String.join ((renderOption dialect otherwise).map (" ELSE " ++ ·)) ++ " END"
  | .alias value n => value.render dialect ++ " AS " ++ n.render dialect
  | .ordered key words => " ".intercalate (key.render dialect :: words)
  | .phrase parts => " ".intercalate (renderAll dialect parts)
  | .list items => commas (renderAll dialect items)
  | .query _ parts => " ".intercalate (renderAll dialect parts)

def renderAll (dialect : Dialect) : List Expr → List String
  | [] => []
  | e :: es => e.render dialect :: renderAll dialect es

def renderOption (dialect : Dialect) : Option Expr → List String
  | none => []
  | some e => [e.render dialect]

end

end EntityMap.Sql
