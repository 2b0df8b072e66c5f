import EntityMap.Text.Blank
import EntityMap.Text.CaseMapping

/-!
Lower and upper case of whole texts by the full Unicode mappings: one character may become
several, and a capital sigma becomes a final sigma at the end of a word.
-/

namespace EntityMap.Text

def mapByRuns (runs : List CaseRun) (n : Nat) : Nat := (runs.findSome? (·.image? n)).getD n

/-- The image of one character, by the expansions if it has one and else by the runs. -/
def mapChar (expansions : List (Nat × List Nat)) (runs : List CaseRun) (c : Char) : List Char :=
  match expansions.find? (·.1 == c.toNat) with
  | some (_, image) => image.map Char.ofNat
  | none => [Char.ofNat (mapByRuns runs c.toNat)]

def lowerChar (c : Char) : List Char :=
  if c.toNat < 128 then [c.toLower] else mapChar lowerExpansions lowerRuns c

def upperChar (c : Char) : List Char :=
  if c.toNat < 128 then [c.toUpper] else mapChar upperExpansions upperRuns c

/-- A cased character that is not skipped around a sigma. -/
def isCased (c : Char) : Bool := inRanges casedRanges c.toNat

/-- A character that is skipped in deciding whether a sigma ends a word. -/
def isCaseIgnorable (c : Char) : Bool := inRanges caseIgnorableRanges c.toNat

def startsCased (s : List Char) : Bool :=
  match s.dropWhile isCaseIgnorable with
  | [] => false
  | c :: _ => isCased c

/-- Lower case of what follows a given context: `afterCased` tells whether the last character
that counts before it is cased. A capital sigma that stands after a cased character and not before
one is written as a final sigma. -/
def lowerFrom (afterCased : Bool) : List Char → List Char
  | [] => []
  | c :: rest =>
    let image :=
      if c = '\u03a3' then [if afterCased && !startsCased rest then '\u03c2' else '\u03c3']
      else lowerChar c
    image ++ lowerFrom (if isCaseIgnorable c then afterCased else isCased c) rest

def lower (s : String) : String := String.ofList (lowerFrom false s.toList)

def upper (s : String) : String := String.ofList (s.toList.flatMap upperChar)

end EntityMap.Text
