import EntityMap.Text.Case

/-!
Names that suggest a relationship: a column `user_id` may refer to a table `users`.
-/

namespace EntityMap.Naming

def replaceEnding (ending other : String) (name : String) : String :=
  String.ofList (Text.replaceEnding ending.toList other.toList name.toList)

/-- What stands before `_id` in the lower case of a column name, if there is something and it is on
one line. A last line feed of the name does not count. -/
def base? (column : String) : Option String :=
  let (body, _) := Text.splitFinalNewline (Text.lower column).toList
  let suffix := ['_', 'i', 'd']
  let base := body.take (body.length - suffix.length)
  if suffix.isSuffixOf body ∧ base ≠ [] ∧ '\n' ∉ base then some (String.ofList base) else none

/-- The table names that a base is looked up by, the most wanted first. -/
def candidates (base : String) : List String :=
  [base, base ++ "s", base ++ "es", replaceEnding "ies" "y" base]

def singularForms (table : String) : List String :=
  let lowered := Text.lower table
  [lowered, replaceEnding "s" "" lowered, replaceEnding "es" "" lowered,
    replaceEnding "ies" "y" lowered]

end EntityMap.Naming
