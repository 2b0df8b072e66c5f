/-!
Patterns in texts: classes of characters, repeated as often as possible, parts that may be missing,
and the ends of lines. What a pattern can match at a place is tried in a fixed order, more
characters before fewer, and what fails later on is given back. `Pattern.replaceAll` replaces the
matches in a whole text from left to right.
-/

namespace EntityMap.Text

/-- A place in a text: the character before it, if there is one, and the text after it. -/
structure Place where
  before : Option Char
  rest : List Char
  deriving DecidableEq, Repr

namespace Place

def startsLine (place : Place) : Bool := place.before.all (· = '\n')

def endsLine (place : Place) : Bool := place.rest.head?.all (· = '\n')

/-- The places that characters of a class lead to, the farthest one first. -/
def runs (p : Char → Bool) (before : Option Char) : List Char → List Place
  | [] => [⟨before, []⟩]
  | c :: rest => if p c then runs p (some c) rest ++ [⟨before, c :: rest⟩] else [⟨before, c :: rest⟩]

end Place

inductive Pattern where
  | lineStart
  | lineEnd
  | char (p : Char → Bool)
  | many (p : Char → Bool)
  | optional (q : Pattern)
  | append (q r : Pattern)

namespace Pattern

instance : Append Pattern := ⟨append⟩

def oneOrMore (p : Char → Bool) : Pattern := char p ++ many p

/-- The places where a match may end, in the order in which they are tried. -/
def ends : Pattern → Place → List Place
  | lineStart, place => if place.startsLine then [place] else []
  | lineEnd, place => if place.endsLine then [place] else []
  | char p, ⟨_, c :: rest⟩ => if p c then [⟨some c, rest⟩] else []
  | char _, ⟨_, []⟩ => []
  | many p, ⟨before, rest⟩ => Place.runs p before rest
  | optional q, place => q.ends place ++ [place]
  | append q r, place => (q.ends place).flatMap r.ends

/-- The length of the match at a place, the first one that is tried with success. -/
def matchLength? (q : Pattern) (place : Place) : Option Nat :=
  (q.ends place).head?.map fun final => place.rest.length - final.rest.length

/-- Replaces the matches in a text of which some characters have been matched already. A match
without characters is left alone. -/
def replaceFrom (q : Pattern) (new : List Char) : Nat → Option Char → List Char → List Char
  | _, _, [] => []
  | matched + 1, _, c :: rest => q.replaceFrom new matched (some c) rest
  | 0, before, c :: rest => match q.matchLength? ⟨before, c :: rest⟩ with
    | some (matched + 1) => new ++ q.replaceFrom new matched (some c) rest
    | _ => c :: q.replaceFrom new 0 (some c) rest

def replaceAll (q : Pattern) (new text : List Char) : List Char := q.replaceFrom new 0 none text

end Pattern

end EntityMap.Text
