import EntityMap.Dialect
import EntityMap.Text.Digit

/-!
Scripts and the dialect that they are written in. A script is tried in one dialect after another;
the first one in which all of it can be read wins.

A comment near the top may name the dialect. Lines that hold nothing but a batch separator become
semicolons before a script is read.
-/

namespace EntityMap

namespace Script

/-! ### The dialect named in a comment -/

def hintLines : Nat := 10

/-- The dialect that a line names: the whole text of its comment is a name. -/
def lineHint? (line : List Char) : Option Dialect :=
  match Text.trim line with
  | '-' :: '-' :: comment => Dialect.ofName? (String.ofList (Text.trim comment))
  | _ => none

def hint? (script : String) : Option Dialect :=
  ((Text.splitAt '\n' script.toList).take hintLines).findSome? lineHint?

/-- The dialects in which a script is tried: the one that it names first, then the others as they
are given. -/
def order (script : String) (dialects : List Dialect) : List Dialect :=
  match hint? script with
  | some hint => hint :: dialects.filter (· ≠ hint)
  | none => dialects

/-! ### Batch separators -/

def isGap (c : Char) : Bool := c = ' ' || c = '\t'

def dropCount (s : List Char) : List Char :=
  let count := s.dropWhile isGap
  match s, count with
  | first :: _, digit :: _ =>
    if isGap first && Text.isDecimal digit then count.dropWhile Text.isDecimal else s
  | _, _ => s

/-- Whether nothing follows but gaps and one semicolon. -/
def isSeparatorEnd (s : List Char) : Bool :=
  match s.dropWhile isGap with
  | [] => true
  | c :: rest => c = ';' && (rest.dropWhile isGap).isEmpty

/-- Whether a line holds a batch separator and nothing else: the word `GO` in any case, perhaps a
number of repetitions, perhaps a semicolon. -/
def isSeparator (line : List Char) : Bool :=
  match line.dropWhile isGap with
  | g :: o :: rest => g.toLower = 'g' && o.toLower = 'o' && isSeparatorEnd (dropCount rest)
  | _ => false

def replaceSeparator (line : List Char) : List Char := if isSeparator line then [';'] else line

/-- The script with a semicolon in the place of every batch separator. -/
def stripSeparators (script : String) : String :=
  String.ofList
    (Text.joinWith '\n' ((Text.splitAt '\n' script.toList).map replaceSeparator))

/-! ### Reading -/

inductive ParseError where
  | emptyInput
  | dialects (cause : Dialect.NameError)
  | unparseable
  deriving DecidableEq, Repr

def ParseError.message : ParseError → String
  | emptyInput => "SQL input is empty."
  | dialects cause => cause.message
  | unparseable => "Failed to parse SQL. Please check your syntax."

structure Parsed (α : Type) where
  dialect : Dialect
  statements : List α

/-- What a grammar does: it reads a whole script in a dialect or fails. A statement that is empty
comes out as `none`. -/
abbrev Grammar (ε α : Type) := Dialect → String → Except ε (List (Option α))

/-- Reads a script in the first dialect in which that succeeds, and drops the empty statements. -/
def firstMatch {ε α : Type} (grammar : Grammar ε α) (script : String) :
    List Dialect → Option (Parsed α)
  | [] => none
  | dialect :: rest => match grammar dialect script with
    | .ok statements => some ⟨dialect, statements.filterMap id⟩
    | .error _ => firstMatch grammar script rest

def isEmpty : Option String → Bool
  | none => true
  | some script => Text.isAllBlank script

def parse {ε α : Type} (grammar : Grammar ε α) (configured : List String)
    (script : Option String) (names : Option (List (Option String))) :
    Except ParseError (Parsed α) :=
  if isEmpty script then .error .emptyInput
  else
    let script := script.getD ""
    match Dialect.resolve configured names with
    | .error cause => .error (.dialects cause)
    | .ok dialects =>
      match firstMatch grammar (stripSeparators script) (order script dialects) with
      | some parsed => .ok parsed
      | none => .error .unparseable

end Script

end EntityMap
