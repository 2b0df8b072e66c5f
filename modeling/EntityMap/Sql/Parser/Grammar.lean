import EntityMap.Sql.Parser.Query

/-!
The parsers for expressions, types and queries, which use each other.
-/

namespace EntityMap.Sql.Parser

/-- The parsers with which the given number of expressions can be nested. -/
def nested : Nat → Nested
  | 0 => .exhausted
  | depth + 1 =>
    let g := nested depth
    { expression := expression? g
      disjunction := disjunction? g
      equality := equality? g
      bitwise := bitwise? g
      term := term? g
      unary := unary? g
      operand := operand? g
      type := type? g
      query := query? g
      combined := combined g }

def maxDepth : Nat := 256

def grammar : Nested := nested maxDepth

end EntityMap.Sql.Parser
