import EntityMap.Text.Case

/-!
The family of a declared column type: the type without its parameters, in upper case.
-/

namespace EntityMap.TypeFamily

/-- Drops the parameters at the end of a type: everything from the first opening parenthesis on, if
a closing one comes last. White space before and after the parameters goes with them. -/
def dropParameters (s : List Char) : List Char :=
  match (Text.dropEndWhile Text.isBlank s).reverse with
  | ')' :: body =>
    let body := body.reverse
    if '(' ∈ body then Text.dropEndWhile Text.isBlank (body.takeWhile (· ≠ '(')) else s
  | _ => s

/-- The family of a type, `DECIMAL` for `decimal(10, 2)`. -/
def ofType (type : String) : String :=
  Text.upper (Text.strip (String.ofList (dropParameters type.toList)))

def integerFamilies : List String := [
  "INT", "INTEGER", "TINYINT", "SMALLINT", "MEDIUMINT", "BIGINT", "INT2", "INT4", "INT8",
  "SERIAL", "SMALLSERIAL", "BIGSERIAL"]

/-- Whether a type holds integers. Only the first word of the family counts, so that modifiers such
as `UNSIGNED` change nothing. -/
def isInteger (type : String) : Bool :=
  integerFamilies.contains (String.ofList ((ofType type).toList.takeWhile (· ≠ ' ')))

end EntityMap.TypeFamily
