import EntityMap.Double
import EntityMap.Text.Quoted

/-!
Structured data as it is exchanged with other programs: nothing, truth values, numbers, texts, lists
and records.
-/

namespace EntityMap

/-- A piece of structured data. A number without decimal places is an integer. Any other is of
double precision: the number nearest to `mantissa` divided by ten to the power `places`. -/
inductive Value where
  | null
  | bool (b : Bool)
  | number (mantissa : Int) (places : Nat)
  | text (s : String)
  | list (items : List Value)
  | record (fields : List (String × Value))
  deriving Inhabited

namespace Value

/-- Whether a value stands for yes: all do but nothing, `false`, zero and what is empty. -/
def isTruthy : Value → Bool
  | null => false
  | bool b => b
  | number mantissa 0 => mantissa != 0
  | number mantissa places => Double.ofDecimal? mantissa places != some 0
  | text s => s != ""
  | list items => !items.isEmpty
  | record fields => !fields.isEmpty

def field? (key : String) : Value → Option Value
  | record fields => (fields.find? (·.1 == key)).map (·.2)
  | _ => none

mutual

def written : Value → String
  | null => "None"
  | bool true => "True"
  | bool false => "False"
  | number mantissa 0 => toString mantissa
  | number mantissa places => Double.display mantissa places
  | text s => Text.quoted s
  | list items => "[" ++ ", ".intercalate (writtenItems items) ++ "]"
  | record fields => "\x7b" ++ ", ".intercalate (writtenFields fields) ++ "\x7d"

def writtenItems : List Value → List String
  | [] => []
  | item :: items => item.written :: writtenItems items

def writtenFields : List (String × Value) → List String
  | [] => []
  | (key, value) :: fields => (Text.quoted key ++ ": " ++ value.written) :: writtenFields fields

end

/-- The text of a value where it becomes part of a name. -/
def display : Value → String
  | text s => s
  | v => v.written

/-! ### Comparing -/

/-- A part of a value, as far as comparing goes. -/
inductive Token where
  | null
  | number (q : Rat)
  | infinite (negative : Bool)
  | text (s : String)
  | openList
  | openRecord
  | field (name : String)
  | close
  deriving DecidableEq

mutual

/-- The parts of a value. Truth values count as numbers, numbers by what they are and not by how
they are written, and the fields of a record come in the order of their names. -/
def tokens : Value → List Token
  | null => [.null]
  | bool b => [.number (if b then 1 else 0)]
  | number mantissa 0 => [.number mantissa]
  | number mantissa places =>
    match Double.ofDecimal? mantissa places with
    | some q => [.number q]
    | none => [.infinite (mantissa < 0)]
  | text s => [.text s]
  | list items => .openList :: itemTokens items ++ [.close]
  | record fields =>
    let sorted := (fieldTokens fields).mergeSort fun f g => f.1 ≤ g.1
    .openRecord :: sorted.flatMap (fun (name, ts) => .field name :: ts) ++ [.close]

def itemTokens : List Value → List Token
  | [] => []
  | item :: items => item.tokens ++ itemTokens items

def fieldTokens : List (String × Value) → List (String × List Token)
  | [] => []
  | (name, value) :: fields => (name, value.tokens) :: fieldTokens fields

end

def same (v w : Value) : Bool := v.tokens == w.tokens

/-! ### Texts -/

def text? : Value → Option String
  | text s => some s
  | _ => none

def ofText? : Option String → Value
  | some s => text s
  | none => null

end Value

end EntityMap
