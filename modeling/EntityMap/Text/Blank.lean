/-!
White space in the sense of Unicode: the characters with the property `White_Space` and the four
information separators, and trimming them from the ends of a text.
-/

namespace EntityMap.Text

def blankRanges : List (Nat × Nat) := [
  (0x9, 0xD), (0x1C, 0x20), (0x85, 0x85), (0xA0, 0xA0), (0x1680, 0x1680), (0x2000, 0x200A),
  (0x2028, 0x2029), (0x202F, 0x202F), (0x205F, 0x205F), (0x3000, 0x3000)]

def inRanges (ranges : List (Nat × Nat)) (n : Nat) : Bool :=
  ranges.any fun (first, last) => first ≤ n && n ≤ last

/-- White space, by the character's Unicode properties. -/
def isBlank (c : Char) : Bool := inRanges blankRanges c.toNat

def dropEndWhile (p : Char → Bool) (s : List Char) : List Char := (s.reverse.dropWhile p).reverse

def trimWhile (p : Char → Bool) (s : List Char) : List Char := dropEndWhile p (s.dropWhile p)

def trim (s : List Char) : List Char := trimWhile isBlank s

def strip (s : String) : String := String.ofList (trim s.toList)

def isAllBlank (s : String) : Bool := s.toList.all isBlank

def splitAt (separator : Char) : List Char → List (List Char)
  | [] => [[]]
  | c :: rest =>
    if c = separator then [] :: splitAt separator rest
    else match splitAt separator rest with
      | [] => [[c]]
      | part :: parts => (c :: part) :: parts

def joinWith (separator : Char) : List (List Char) → List Char
  | [] => []
  | [part] => part
  | part :: parts => part ++ separator :: joinWith separator parts

/-- The text with a last line feed set aside: what stands before it, and the line feed itself. -/
def splitFinalNewline (s : List Char) : List Char × List Char :=
  match s.reverse with
  | '\n' :: rest => (rest.reverse, ['\n'])
  | _ => (s, [])

/-- Replaces an ending by another one. A last line feed does not count: the ending may stand right
before it, and the line feed is kept. -/
def replaceEnding (ending other : List Char) (s : List Char) : List Char :=
  let (body, newline) := splitFinalNewline s
  if ending.isSuffixOf body then body.take (body.length - ending.length) ++ other ++ newline else s

end EntityMap.Text
