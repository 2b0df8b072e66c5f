import EntityMap.Sql.Parser.Basic

/-!
Parsers for what may stand inside an expression or a type. The parsers of one depth use those of
the next; at the last depth nothing can be nested any more.
-/

namespace EntityMap.Sql.Parser

inductive TypeUse where
  | declared
  | target
  | value
  deriving DecidableEq, Repr

structure Nested where
  /-- An expression, perhaps with a name given to it. -/
  expression : Parser (Option Expr)
  disjunction : Parser (Option Expr)
  /-- An expression without `AND`, `OR` and the like. -/
  equality : Parser (Option Expr)
  /-- An expression without comparisons. -/
  bitwise : Parser (Option Expr)
  /-- A sum, or an expression with operators of a higher rank. -/
  term : Parser (Option Expr)
  /-- An expression without operators between operands. -/
  unary : Parser (Option Expr)
  operand : Parser (Option Expr)
  type : TypeUse → Parser (Option DataType)
  query : Parser (Option Expr)
  /-- A query and those with which it is combined, given the first one. -/
  combined : Expr → Parser Expr

def Nested.exhausted : Nested where
  expression := throw .tooDeep
  disjunction := throw .tooDeep
  equality := throw .tooDeep
  bitwise := throw .tooDeep
  term := throw .tooDeep
  unary := throw .tooDeep
  operand := throw .tooDeep
  type _ := throw .tooDeep
  query := throw .tooDeep
  combined _ := throw .tooDeep

end EntityMap.Sql.Parser
