import EntityMap.Text.Blank

/-!
Names of tables and columns. A name is compared and stored in its clean form, without the quote
characters of any dialect and without white space at its ends.
-/

namespace EntityMap

/-- The characters that quote a name in some dialect: backtick, double quote, single quote and the
two brackets. -/
def isQuote (c : Char) : Bool :=
  c = '\x60' || c = '"' || c = '\'' || c = '[' || c = ']'

namespace Identifier

/-- Drops all quote characters, then the white space at the ends. -/
def cleanChars (s : List Char) : List Char := Text.trim (s.filter (!isQuote ·))

def clean (name : String) : String := String.ofList (cleanChars name.toList)

/-- The clean forms of some names, those that are empty left out. -/
def cleanAll (names : List String) : List String := (names.map clean).filter (· ≠ "")

end Identifier

end EntityMap
