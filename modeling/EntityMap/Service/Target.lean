import EntityMap.Text.Digit

/-!
The targets of requests: which path a target means. Host, query and fragment are left out, steps to
the place itself or to the one above are taken, and escaped characters stand for themselves.
-/

namespace EntityMap.Service

/-- A target without its query and its fragment. -/
def withoutQuery (target : List Char) : List Char :=
  (target.takeWhile (· ≠ '#')).takeWhile (· ≠ '?')

/-- A target without its host, which two slashes set off. -/
def withoutHost : List Char → List Char
  | '/' :: '/' :: rest => rest.dropWhile (· ≠ '/')
  | target => target

def segments : List Char → List (List Char)
  | [] => [[]]
  | c :: rest =>
    match segments rest with
    | segment :: others => if c = '/' then [] :: segment :: others else (c :: segment) :: others
    | [] => [[c]]

def takeSteps (before : List (List Char)) : List (List Char) → List (List Char)
  | [] => before.reverse
  | ['.'] :: rest => takeSteps before rest
  | ['.', '.'] :: rest => takeSteps (before.drop 1) rest
  | segment :: rest => takeSteps (segment :: before) rest

def fromRoot (path : List Char) : List Char :=
  (takeSteps [] (segments (path.dropWhile (· = '/')))).flatMap ('/' :: ·)

/-- The character that two hexadecimal digits stand for, if it needs no more. -/
def escaped? (high low : Char) : Option Char := do
  let n ← Text.hexNumber? [high, low]
  if n < 0x80 then some (Char.ofNat n) else none

def unescape : List Char → List Char
  | '%' :: high :: low :: rest =>
    match escaped? high low with
    | some c => c :: unescape rest
    | none => '%' :: unescape (high :: low :: rest)
  | c :: rest => c :: unescape rest
  | [] => []
termination_by s => s.length

/-- The path that a target means. The client and the server each put characters in the place of
their escapes. -/
def targetPath (target : String) : List Char :=
  unescape (unescape (fromRoot (withoutHost (withoutQuery target.toList))))

end EntityMap.Service
