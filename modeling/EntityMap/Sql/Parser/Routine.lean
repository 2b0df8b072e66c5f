import EntityMap.Sql.Parser.Table

/-!
Functions, procedures and other blocks of statements, given a parser for a statement. A block has no
end of its own: it goes on to the end of the script.
-/

namespace EntityMap.Sql.Parser

/-! ### Parameters -/

def parameterModes : List String := ["IN", "INOUT", "OUT", "VARIADIC"]

def typedParameter? : Parser (Option Unit) := do
  match ← orElse parameter? (return (← name? true).map .name) with
  | none => return none
  | some _ => return (← type? grammar .declared).map fun _ => ()

def directedParameter? : Parser (Option Unit) := orBack do
  match ← wordIn? parameterModes with
  | none => return none
  | some _ => typedParameter?

def namedParameter? : Parser (Option Unit) := do
  match ← orElse parameter? (return (← name? true).map .name) with
  | none => return none
  | some _ => do
    if (← type? grammar .declared).isNone then
      if (← wordIn? parameterModes).isSome then discard (type? grammar .declared)
    return some ()

def routineParameter? : Parser (Option Unit) := do
  let directed ← if (← dialect) = .postgres then directedParameter? else pure none
  match ← orElse (return directed) namedParameter? with
  | none => return none
  | some _ => do
    discard (many columnConstraint?)
    discard assignedValue?
    return some ()

/-- The name of a routine and its parameters. Those of a procedure in Transact-SQL need no
parentheses. -/
def signature (kind : String) : Parser Unit := do
  discard tableName
  if ← nextIn ["("] then discard (wrappedList routineParameter?)
  else if (← dialect) = .tsql && kind = "PROCEDURE" && !(← nextIn ["AS", "WITH"]) then
    discard (commaSeparated routineParameter?)

/-! ### Blocks -/

variable (statement : Parser (Option Command))

/-- The statements that come later, up to one that starts with `ELSE`. -/
def laterStatements : List (List Token) → Parser Unit
  | [] => return
  | _ :: fuel => do
    match ← later with
    | next :: _ =>
      if next.head?.any (·.is "ELSE") then return
      discard nextStatement
      discard statement
      laterStatements fuel
    | [] => return

/-- A block of statements. What is left of the first one is dropped if others follow. -/
def block : Parser Unit := do
  discard (accept "BEGIN")
  discard statement
  discard (accept "END")
  unless ← nextIn ["ELSE"] do laterStatements statement (← later)

def conditionalBlock : Parser Command := do
  discard (require "a condition" grammar.disjunction)
  block statement
  unless ← nextIn ["ELSE"] do
    if (← later).head?.any (·.head?.any (·.is "ELSE")) then discard nextStatement
  if ← accept "ELSE" then block statement
  return .other "ifblock"

def repeatedBlock : Parser Command := do
  discard (require "a condition" grammar.disjunction)
  block statement
  return .other "whileblock"

/-! ### Routines -/

def dollarText? : Parser (Option String) := return (← acceptIf? (·.kind = .rawText)).map (·.text)

/-- The one statement that a function consists of, or a text with its statements. -/
def functionBody : Parser Unit := do
  discard (accept "BEGIN")
  discard (words ["RETURN"])
  if ← nextIs (·.kind = .text) then
    discard text?
    discard properties
  else discard statement
  discard (accept "END")

def routine (kind : String) : Parser Command := do
  signature kind
  discard properties
  let body ← after "AS" dollarText?
  discard properties
  if body.isNone then
    let commands := Keyword.commands (← dialect)
    if ← nextIs fun t => t.kind = .keyword && commands.contains t.key then skipRest
    else if kind = "PROCEDURE" then block statement
    else functionBody statement
  return .other "create"

end EntityMap.Sql.Parser
