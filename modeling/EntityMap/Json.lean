import EntityMap.Schema.Value
import EntityMap.Text.Digit

/-!
Reading structured data from JSON. The words for numbers that are not finite are read, too, and the
last one of several fields with the same name counts.
-/

namespace EntityMap.Json

inductive ReadError where
  | malformed
  | tooManyDigits
  | tooDeep
  deriving DecidableEq, Repr

abbrev Found (α : Type) := α × List Char

/-! ### Texts -/

def escape? : Char → Option Char
  | '"' => some '"'
  | '\\' => some '\\'
  | '/' => some '/'
  | 'b' => some '\x08'
  | 'f' => some '\x0c'
  | 'n' => some '\n'
  | 'r' => some '\r'
  | 't' => some '\t'
  | _ => none

def joinHalves? (high low : Nat) : Option Char :=
  if 0xD800 ≤ high && high < 0xDC00 && 0xDC00 ≤ low && low < 0xE000 then
    some (Char.ofNat (0x10000 + (high - 0xD800) * 0x400 + (low - 0xDC00)))
  else none

/-- The character with a number; one half by itself is none. -/
def single (n : Nat) : Char := if 0xD800 ≤ n && n < 0xE000 then '\uFFFD' else Char.ofNat n

def textAfter (read : List Char) : List Char → Except ReadError (Found String)
  | '"' :: rest => .ok (String.ofList read.reverse, rest)
  | '\\' :: 'u' :: a :: b :: c :: d :: rest =>
    match Text.hexNumber? [a, b, c, d], rest with
    | none, _ => .error .malformed
    | some n, '\\' :: 'u' :: e :: f :: g :: h :: after =>
      match (Text.hexNumber? [e, f, g, h]).bind (joinHalves? n) with
      | some joined => textAfter (joined :: read) after
      | none => textAfter (single n :: read) ('\\' :: 'u' :: e :: f :: g :: h :: after)
    | some n, rest => textAfter (single n :: read) rest
  | '\\' :: c :: rest =>
    match escape? c with
    | some c => textAfter (c :: read) rest
    | none => .error .malformed
  | c :: rest => if c < ' ' then .error .malformed else textAfter (c :: read) rest
  | [] => .error .malformed
termination_by s => s.length

/-! ### Numbers -/

/-- The exponent beyond which a number does not change any more. -/
def maxExponent : Nat := 400

def decimal (digits : List Char) : Nat :=
  Text.ofDigits (digits.map fun c => c.toNat - '0'.toNat)

def fraction : List Char → List Char × List Char
  | '.' :: rest =>
    let digits := rest.takeWhile Char.isDigit
    if digits.isEmpty then ([], '.' :: rest) else (digits, rest.drop digits.length)
  | s => ([], s)

def exponent? (s : List Char) : Option (Int × List Char) :=
  match s with
  | e :: rest =>
    let (negative, rest) := match rest with
      | '-' :: rest => (true, rest)
      | '+' :: rest => (false, rest)
      | rest => (false, rest)
    let digits := rest.takeWhile Char.isDigit
    if e.toLower ≠ 'e' || digits.isEmpty then none
    else
      let n := min (decimal digits) maxExponent
      some (if negative then -(n : Int) else n, rest.drop digits.length)
  | [] => none

/-- The digits in front of a point: a zero stands alone. -/
def wholeDigits (s : List Char) : List Char :=
  match s with
  | '0' :: _ => ['0']
  | s => s.takeWhile Char.isDigit

/-- A number. Only integers are limited in their digits. -/
def number (negative : Bool) (s : List Char) : Except ReadError (Found Value) :=
  let whole := wholeDigits s
  let (places, rest) := fraction (s.drop whole.length)
  let sign : Int := if negative then -1 else 1
  let mantissa := sign * decimal (whole ++ places)
  if whole.isEmpty then .error .malformed
  else match exponent? rest with
    | some (e, rest) =>
      -- a number with an exponent is no integer, so there is at least one place
      let shift := (places.length : Int) - e
      .ok (.number (mantissa * Int.pow 10 (1 - shift).toNat) (max shift 1).toNat, rest)
    | none =>
      if places.isEmpty && whole.length > Text.maxDigits then .error .tooManyDigits
      else .ok (.number mantissa places.length, rest)

/-! ### Values -/

/-- What has a word of its own. Nothing depends on what is read where there is no number. -/
def namedValues : List (String × Value) := [
  ("null", .null), ("true", .bool true), ("false", .bool false), ("NaN", .number 0 0),
  ("Infinity", .number (Int.pow 10 maxExponent) 1),
  ("-Infinity", .number (-Int.pow 10 maxExponent) 1)]

def named? (s : List Char) : Option (Value × List Char) :=
  (namedValues.find? fun (word, _) => word.toList.isPrefixOf s).map fun (word, value) =>
    (value, s.drop word.length)

def dropBlanks (s : List Char) : List Char :=
  s.dropWhile fun c => [' ', '\t', '\n', '\r'].contains c

def simple (s : List Char) : Except ReadError (Found Value) :=
  match named? s, s with
  | some found, _ => .ok found
  | none, '"' :: rest => do
    let (text, rest) ← textAfter [] rest
    return (.text text, rest)
  | none, '-' :: rest => number true rest
  | none, s => number false s

/-- Puts a field in the place of the one with its name, or at the end. -/
def putField (fields : List (String × Value)) (field : String × Value) : List (String × Value) :=
  if fields.any (·.1 == field.1) then fields.map fun f => if f.1 == field.1 then field else f
  else fields ++ [field]

/-- Keeps the last one of several fields with the same name, in the place of the first. -/
def lastFields (fields : List (String × Value)) : List (String × Value) := fields.foldl putField []

mutual

/-- A value. `fuel` is at least the number of characters, and `depth` tells how deeply lists and
records may be nested. -/
def value : (fuel depth : Nat) → List Char → Except ReadError (Found Value)
  | 0, _, _ => .error .malformed
  | _, 0, '[' :: _ => .error .tooDeep
  | _, 0, '\x7b' :: _ => .error .tooDeep
  | fuel + 1, depth + 1, '[' :: rest =>
    match dropBlanks rest with
    | ']' :: rest => .ok (.list [], rest)
    | rest => do
      let (items, rest) ← items fuel depth rest
      return (.list items, rest)
  | fuel + 1, depth + 1, '\x7b' :: rest =>
    match dropBlanks rest with
    | '\x7d' :: rest => .ok (.record [], rest)
    | rest => do
      let (fields, rest) ← fields fuel depth rest
      return (.record (lastFields fields), rest)
  | _, _, s => simple s

def items : (fuel depth : Nat) → List Char → Except ReadError (Found (List Value))
  | 0, _, _ => .error .malformed
  | fuel + 1, depth, s => do
    let (item, rest) ← value fuel depth s
    match dropBlanks rest with
    | ']' :: rest => return ([item], rest)
    | ',' :: rest => do
      let (others, rest) ← items fuel depth (dropBlanks rest)
      return (item :: others, rest)
    | _ => throw .malformed

def fields : (fuel depth : Nat) → List Char →
    Except ReadError (Found (List (String × Value)))
  | 0, _, _ => .error .malformed
  | fuel + 1, depth, '"' :: s => do
    let (name, rest) ← textAfter [] s
    match dropBlanks rest with
    | ':' :: rest => do
      let (value, rest) ← value fuel depth (dropBlanks rest)
      match dropBlanks rest with
      | '\x7d' :: rest => return ([(name, value)], rest)
      | ',' :: rest => do
        let (others, rest) ← fields fuel depth (dropBlanks rest)
        return ((name, value) :: others, rest)
      | _ => throw .malformed
    | _ => throw .malformed
  | _, _, _ => .error .malformed

end

def maxDepth : Nat := 1000

def read (s : String) : Except ReadError Value := do
  let s := s.toList
  let (found, rest) ← value (s.length + 1) maxDepth (dropBlanks s)
  if (dropBlanks rest).isEmpty then return found else throw .malformed

end EntityMap.Json
