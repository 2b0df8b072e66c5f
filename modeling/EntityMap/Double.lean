import EntityMap.Text.Blank

/-!
Numbers of double precision, by their exact values. A decimal stands for the number nearest to it,
and a number is written by the shortest decimal that stands for it.
-/

namespace EntityMap.Double

/-! ### Rounding -/

/-- The integer nearest to a number, and of two that are equally near the even one. -/
def roundToEven (q : Rat) : Int :=
  let below := q.floor
  let rest := q - below
  if rest < 1 / 2 ∨ rest = 1 / 2 ∧ below % 2 = 0 then below else below + 1

/-- The highest power of the base that is not above a positive number. -/
def leadingPower (base : Nat) (q : Rat) : Int :=
  let length (n : Nat) : Int := (Nat.toDigits base n).length
  let power := length q.num.natAbs - length q.den
  if (base : Rat) ^ power ≤ q then power else power - 1

def precision : Int := 53

def minPower : Int := -1074

def maxPower : Int := 1024

/-- The number nearest to a positive one, unless that is too large. -/
def nearest? (q : Rat) : Option Rat :=
  let unit : Rat := 2 ^ max (leadingPower 2 q - (precision - 1)) minPower
  let rounded := roundToEven (q / unit) * unit
  if rounded < 2 ^ maxPower then some rounded else none

/-! ### Writing -/

/-- A decimal that stands for a positive number, with as many digits as given: an integer, and the
power of ten that it is multiplied by. -/
def decimal? (q : Rat) (count : Nat) : Option (Int × Int) :=
  let power := leadingPower 10 q - (count - 1)
  let unit : Rat := 10 ^ power
  let exact := q / unit
  let near : List Int := [roundToEven exact, exact.floor, exact.ceil]
  (near.find? fun (n : Int) => nearest? (n * unit) = some q).map (·, power)

/-- No number needs more decimal digits. -/
def maxDigits : Nat := 17

/-- The digits of the shortest decimal that stands for a positive number, and how many of them are
in front of the point. -/
def digits (q : Rat) : List Char × Int :=
  let (n, power) := ((List.range maxDigits).findSome? fun i => decimal? q (i + 1)).getD (0, 0)
  let written := Nat.toDigits 10 n.natAbs
  (Text.dropEndWhile (· = '0') written, written.length + power)

def zeros (count : Int) : List Char := List.replicate count.toNat '0'

/-- How many digits may be in front of the point unless there is an exponent. -/
def maxWhole : Int := 16

/-- How many zeros may follow the point unless there is an exponent. -/
def maxLeadingZeros : Int := 3

def writeExponent (power : Int) : List Char :=
  let digits := Nat.toDigits 10 power.natAbs
  'e' :: (if power < 0 then '-' else '+') :: List.replicate (2 - digits.length) '0' ++ digits

def write (q : Rat) : List Char :=
  let (ds, whole) := digits q
  if -maxLeadingZeros ≤ whole ∧ whole ≤ 0 then '0' :: '.' :: zeros (-whole) ++ ds
  else if 0 < whole ∧ whole ≤ maxWhole then
    let ds := ds ++ zeros (whole + 1 - ds.length)
    ds.take whole.toNat ++ '.' :: ds.drop whole.toNat
  else
    ds.take 1 ++ (if ds.length = 1 then [] else '.' :: ds.drop 1) ++ writeExponent (whole - 1)

def size (mantissa : Int) (places : Nat) : Rat := mantissa.natAbs / 10 ^ places

def ofDecimal? (mantissa : Int) (places : Nat) : Option Rat :=
  (nearest? (size mantissa places)).map fun q => if mantissa < 0 then -q else q

def display (mantissa : Int) (places : Nat) : String :=
  let sign := if mantissa < 0 then ['-'] else []
  String.ofList <| sign ++ match nearest? (size mantissa places) with
    | none => ['i', 'n', 'f']
    | some q => if q = 0 then ['0', '.', '0'] else write q

end EntityMap.Double
