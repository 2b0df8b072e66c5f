import EntityMap.Sql.Expression

/-!
The kinds of expressions, as they are called when an expression stands for a statement.
-/

namespace EntityMap.Sql

def Operator.kind : Operator → String
  | or => "or"
  | and => "and"
  | xor => "xor"
  | equal => "eq"
  | notEqual => "neq"
  | nullSafeEqual => "nullsafeeq"
  | nullSafeNotEqual => "nullsafeneq"
  | less => "lt"
  | lessEqual => "lte"
  | greater => "gt"
  | greaterEqual => "gte"
  | is => "is"
  | like => "like"
  | ilike => "ilike"
  | notLike | notIlike => "not"
  | escape => "escape"
  | glob => "glob"
  | regex => "regexplike"
  | fullRegex => "regexpfullmatch"
  | regexAnyCase => "regexpilike"
  | similarTo => "similarto"
  | textSearch => "matchagainst"
  | memberOf => "jsonarraycontains"
  | overlaps => "overlaps"
  | extendsLeft => "extendsleft"
  | extendsRight => "extendsright"
  | adjacent => "adjacent"
  | containsAll => "arraycontainsall"
  | sharesSome => "arrayoverlaps"
  | hasAnyKey => "jsonbcontainsanytopkeys"
  | hasAllKeys => "jsonbcontainsalltopkeys"
  | hasKey => "jsonbcontains"
  | withoutPath => "jsonbdeleteatpath"
  | startsWith => "startswith"
  | bitAnd => "bitwiseand"
  | bitOr => "bitwiseor"
  | bitXor => "bitwisexor"
  | shiftLeft => "bitwiseleftshift"
  | shiftRight => "bitwiserightshift"
  | concatenate => "dpipe"
  | coalesce => "coalesce"
  | add => "add"
  | subtract => "sub"
  | modulo => "mod"
  | collate => "collate"
  | multiply => "mul"
  | divide => "div"
  | wholeDivide => "intdiv"
  | distance => "distance"
  | atTimeZone => "attimezone"
  | arrow => "jsonextract"
  | longArrow => "jsonextractscalar"
  | pathArrow => "jsonbextract"
  | longPathArrow => "jsonbextractscalar"
  | assign => "propertyeq"
  | named => "kwarg"
  | pair => "jsonkeyvalue"

def SignOperator.kind : SignOperator → String
  | minus => "neg"
  | not => "not"
  | complement => "bitwisenot"

def LiteralKind.kind : LiteralKind → String
  | number | text => "literal"
  | nationalText => "national"
  | rawText => "rawstring"
  | unicodeText => "unicodestring"
  | bytes => "bytestring"
  | bits => "bitstring"
  | hex => "hexstring"

/-- The kinds of functions that are not called by their common names. -/
def functionKinds : List (String × String) := [
  ("DATE_DIFF", "datediff"), ("POWER", "pow"), ("STR_POSITION", "strposition"),
  ("TRUNC", "trunc")]

def functionKind (name : String) : String :=
  (functionKinds.lookup name).getD <|
    String.ofList ((name.toList.filter (· ≠ '_')).map Char.toLower)

def QueryKind.kind : QueryKind → String
  | select => "select"
  | values => "values"
  | union => "union"
  | intersect => "intersect"
  | except => "except"

def Expr.kind : Expr → String
  | null => "null"
  | boolean _ => "boolean"
  | star => "star"
  | literal kind _ => kind.kind
  | name _ => "identifier"
  | word _ => "var"
  | sized _ _ => "datatypeparam"
  | column _ => "column"
  | member _ _ => "dot"
  | parameter "?" _ => "placeholder"
  | parameter "@@" _ => "sessionparameter"
  | parameter _ _ => "parameter"
  | paren (query _ _) => "subquery"
  | paren _ => "paren"
  | tuple _ => "tuple"
  | array _ => "array"
  | record _ => "struct"
  | signed operator _ => operator.kind
  | binary operator _ _ => operator.kind
  | between _ _ _ => "between"
  | isIn _ _ => "in"
  | element _ _ => "bracket"
  | slice _ _ => "slice"
  | call _ _ => "anonymous"
  | builtin f _ => functionKind f
  | cast safe _ _ => if safe then "trycast" else "cast"
  | type _ => "datatype"
  | nextValue _ => "nextvaluefor"
  | interval _ _ => "interval"
  | choice _ _ _ => "case"
  | .alias _ _ => "alias"
  | ordered _ _ => "ordered"
  | phrase _ => "introducer"
  | list _ => "tuple"
  | query kind _ => kind.kind

end EntityMap.Sql
