import EntityMap.Sql.TypeKind

/-!
Expressions, types and queries, as they are written. A query is kept by its parts, so that it can be
written again.
-/

namespace EntityMap.Sql

structure Name where
  text : String
  quoted : Bool
  deriving DecidableEq, Inhabited, Repr

inductive LiteralKind where
  | number | text | nationalText
  | rawText
  | unicodeText
  | bytes | bits | hex
  deriving DecidableEq, Inhabited, Repr

inductive Operator where
  | or | and | xor
  | equal | notEqual | nullSafeEqual | nullSafeNotEqual | less | lessEqual | greater | greaterEqual
  | is | like | notLike | ilike | notIlike | escape | glob | regex | fullRegex | regexAnyCase
  | similarTo
  | textSearch | memberOf | overlaps | extendsLeft | extendsRight | adjacent
  | containsAll | sharesSome | hasAnyKey | hasAllKeys | hasKey | withoutPath | startsWith
  | bitAnd | bitOr | bitXor | shiftLeft | shiftRight | concatenate | coalesce
  | add | subtract | modulo | collate | multiply | divide | wholeDivide | distance
  | atTimeZone | arrow | longArrow | pathArrow | longPathArrow
  | assign | named | pair
  deriving DecidableEq, Inhabited, Repr

inductive SignOperator where
  | minus | not | complement
  deriving DecidableEq, Inhabited, Repr

/-- What a query does: it selects, it lists rows, or it combines other queries. -/
inductive QueryKind where
  | select | values | union | intersect | except
  deriving DecidableEq, Inhabited, Repr

mutual

inductive DataType where
  | builtin (kind : TypeKind) (parameters : List Expr)
  /-- A type made of other types, such as an array, and its size if that is fixed. -/
  | nested (kind : TypeKind) (elements : List DataType) (size : List Expr)
  /-- A type that is declared elsewhere, by its name, the outermost part first. -/
  | custom (path : List Name) (parameters : List Expr)
  /-- A type that is declared elsewhere, in a dialect that does not look into its name. -/
  | written (text : String) (parameters : List Expr)
  | field (name : Name) (type : DataType)

inductive Expr where
  | null
  | boolean (value : Bool)
  | star
  | literal (kind : LiteralKind) (value : String)
  /-- A name that is no column. -/
  | name (name : Name)
  /-- A word that is no name, such as `MAX` for a length. -/
  | word (word : String)
  | sized (size : Expr) (unit : String)
  | column (path : List Name)
  /-- What an expression holds under a name, or a function that it qualifies. -/
  | member (owner : Expr) (field : Expr)
  | parameter (sign : String) (name : Option Expr)
  | paren (inner : Expr)
  | tuple (items : List Expr)
  | array (items : List Expr)
  /-- A value made of members: their keys and values by turns. -/
  | record (members : List Expr)
  | signed (operator : SignOperator) (operand : Expr)
  | binary (operator : Operator) (left right : Expr)
  | between (operand low high : Expr)
  | isIn (operand : Expr) (choices : Expr)
  | element (owner : Expr) (index : List Expr)
  | slice (low high : Option Expr)
  /-- A function that is known by its name only. -/
  | call (function : Name) (arguments : List Expr)
  /-- A function that is known in some dialect, by its common name. -/
  | builtin (function : String) (arguments : List Expr)
  /-- A value of another type; `safe` tells that there is none if the value does not fit. -/
  | cast (safe : Bool) (value : Expr) (type : DataType)
  | type (type : DataType)
  | nextValue (sequence : Expr)
  | interval (amount : Option Expr) (unit : Option String)
  /-- A choice: the operand if there is one, conditions with their values by turns, and the value
  if no condition holds. -/
  | choice (operand : Option Expr) (branches : List Expr) (otherwise : Option Expr)
  | alias (value : Expr) (name : Name)
  /-- A key by which rows are ordered, with the words that stand behind it. -/
  | ordered (key : Expr) (words : List String)
  | phrase (parts : List Expr)
  | list (items : List Expr)
  /-- A query by its parts, which stand one after another. -/
  | query (kind : QueryKind) (parts : List Expr)

end

instance : Inhabited Expr := ⟨.null⟩

instance : Inhabited DataType := ⟨.written "" []⟩

abbrev Expr.text (value : String) : Expr := .literal .text value

abbrev Expr.number (digits : String) : Expr := .literal .number digits

namespace Operator

/-- How an operator is written in most dialects. -/
def text : Operator → String
  | or => "OR"
  | and => "AND"
  | xor => "XOR"
  | equal => "="
  | notEqual => "<>"
  | nullSafeEqual => "IS NOT DISTINCT FROM"
  | nullSafeNotEqual => "IS DISTINCT FROM"
  | less => "<"
  | lessEqual => "<="
  | greater => ">"
  | greaterEqual => ">="
  | is => "IS"
  | like => "LIKE"
  | notLike => "NOT LIKE"
  | ilike => "ILIKE"
  | notIlike => "NOT ILIKE"
  | escape => "ESCAPE"
  | glob => "GLOB"
  | regex => "RLIKE"
  | fullRegex => "~"
  | regexAnyCase => "~*"
  | similarTo => "SIMILAR TO"
  | textSearch => "@@"
  | memberOf => "MEMBER OF"
  | overlaps => "OVERLAPS"
  | extendsLeft => "&<"
  | extendsRight => "&>"
  | adjacent => "-|-"
  | containsAll => "@>"
  | sharesSome => "&&"
  | hasAnyKey => "?|"
  | hasAllKeys => "?&"
  | hasKey => "?"
  | withoutPath => "#-"
  | startsWith => "^@"
  | bitAnd => "&"
  | bitOr => "|"
  | bitXor => "^"
  | shiftLeft => "<<"
  | shiftRight => ">>"
  | concatenate => "||"
  | coalesce => "??"
  | add => "+"
  | subtract => "-"
  | modulo => "%"
  | collate => "COLLATE"
  | multiply => "*"
  | divide => "/"
  | wholeDivide => "DIV"
  | distance => "<->"
  | atTimeZone => "AT TIME ZONE"
  | arrow => "->"
  | longArrow => "->>"
  | pathArrow => "#>"
  | longPathArrow => "#>>"
  | assign => ":="
  | named => "=>"
  | pair => ":"

end Operator

/-! ### Names in expressions -/

/-- Joins the levels of two trees. -/
def mergeLevels : List (List String) → List (List String) → List (List String)
  | [], ys => ys
  | xs, [] => xs
  | x :: xs, y :: ys => (x ++ y) :: mergeLevels xs ys

/-- The names of a path by their depth: each point takes the names in front of it one level down. -/
def pathLevels : List Name → List (List String)
  | [] => []
  | n :: rest => rest.foldl (fun levels m => [] :: mergeLevels levels [[m.text]]) [[n.text]]

mutual

/-- The names in an expression by their depth, those of one depth in the order in which they are
written. -/
def Expr.namesByDepth : Expr → List (List String)
  | .name n => [[n.text]]
  | .column path => [[], (path.reverse.map (·.text))]
  | .sized e _ | .paren e | .signed _ e | .nextValue e | .ordered e _ => [] :: e.namesByDepth
  | .member e f | .binary _ e f | .isIn e f => [] :: mergeLevels e.namesByDepth f.namesByDepth
  | .parameter _ e | .interval e _ => [] :: namesOfOption e
  | .tuple es | .array es | .record es | .list es | .phrase es | .query _ es | .builtin _ es =>
    [] :: namesOfAll es
  | .between e l h =>
    [] :: mergeLevels e.namesByDepth (mergeLevels l.namesByDepth h.namesByDepth)
  | .element e es => [] :: mergeLevels e.namesByDepth (namesOfAll es)
  | .slice l h => [] :: mergeLevels (namesOfOption l) (namesOfOption h)
  | .call f es => [] :: mergeLevels (if f.quoted then [[f.text]] else []) (namesOfAll es)
  | .cast _ e t => [] :: mergeLevels e.namesByDepth t.namesByDepth
  | .type t => t.namesByDepth
  | .choice e es o =>
    [] :: mergeLevels (namesOfOption e) (mergeLevels (namesOfAll es) (namesOfOption o))
  | .alias e n => [] :: mergeLevels e.namesByDepth [[n.text]]
  | .null | .boolean _ | .star | .literal _ _ | .word _ => []

def namesOfAll : List Expr → List (List String)
  | [] => []
  | e :: es => mergeLevels e.namesByDepth (namesOfAll es)

def namesOfOption : Option Expr → List (List String)
  | none => []
  | some e => e.namesByDepth

/-- The names in a type by their depth. A parameter lies one level below the type even if it has no
unit. -/
def DataType.namesByDepth : DataType → List (List String)
  | .builtin kind ps => [] :: if kind.isEnumeration then namesOfAll ps else namesOfParameters ps
  | .nested _ ts size => [] :: mergeLevels (namesOfTypes ts) (namesOfAll size)
  | .custom path ps => [] :: mergeLevels (pathLevels path) (namesOfParameters ps)
  | .written _ ps => [] :: namesOfParameters ps
  | .field n t => [] :: mergeLevels [[n.text]] t.namesByDepth

def namesOfTypes : List DataType → List (List String)
  | [] => []
  | t :: ts => mergeLevels t.namesByDepth (namesOfTypes ts)

def namesOfParameters : List Expr → List (List String)
  | [] => []
  | .sized e u :: es => mergeLevels (Expr.sized e u).namesByDepth (namesOfParameters es)
  | e :: es => mergeLevels ([] :: e.namesByDepth) (namesOfParameters es)

end

/-- The first name on the first level that has any, nothing if no level has one. -/
def firstName (levels : List (List String)) : String := levels.flatten.head?.getD ""

namespace Expr

def ownText? : Expr → Option String
  | name n => some n.text
  | literal .number s | literal .text s | word s => some s
  | star => some "*"
  | null => some "NULL"
  | _ => none

/-- The part of an expression that may name the whole. -/
def principal? : Expr → Option Expr
  | sized e _ | paren e | signed _ e | binary _ e _ | between e _ _ | isIn e _ | element e _
  | .alias e _ | nextValue e => some e
  | parameter _ e | interval e _ => e
  | builtin _ (e :: _) => some e
  | _ => none

/-- The name of an expression by what it is itself, nothing if it has none. -/
def ownName : Expr → String
  | column path => (path.getLast?.map (·.text)).getD ""
  | call f _ => f.text
  | member _ field => ownName field
  | cast _ e _ => ownName e
  | e => (e.ownText?.orElse fun _ => e.principal?.bind ownText?).getD ""

/-- The name that stands for an expression in a list of columns: its own, or else the outermost name
in it. What only says how rows are ordered does not count. -/
def label : Expr → String
  | ordered key _ => label key
  | e => if e.ownName = "" then firstName e.namesByDepth else e.ownName

end Expr

end EntityMap.Sql
