import EntityMap.Sql.Parser.Command

/-!
Whole scripts: statements with semicolons between them.
-/

namespace EntityMap.Sql

/-- The tokens of the statements of a script. A semicolon with a comment is a statement of its
own. -/
def chunks : List Token → List (List Token)
  | [] => [[]]
  | t :: rest =>
    let (chunk, others) := match chunks rest with
      | chunk :: others => (chunk, others)
      | [] => ([], [])
    if t.is ";" then
      let own := if t.commented then [[t]] else []
      let next := if rest.isEmpty then [] else chunk :: others
      [] :: own ++ next
    else (t :: chunk) :: others

/-- Reads the tokens of one statement, all of them, and perhaps some of the statements that come
later. The word `END` by itself ends a block that started earlier. -/
def command? (dialect : Dialect) (isFirst : Bool) (tokens : List Token)
    (later : List (List Token)) : Except Failure (Option Command × List (List Token)) := do
  match isFirst, tokens with
  | false, [t] => if t.is "END" then return (some (.other "endstatement"), later)
  | _, _ => pure ()
  let ((command, rest), later) ← ((Parser.command?.run dialect).run tokens).run later
  if rest.isEmpty then return (command, later) else throw .trailing

/-- Reads statements one after another, at most as many as `limit` has elements. -/
def commandsFrom (dialect : Dialect) (isFirst : Bool) (limit : List (List Token)) :
    List (List Token) → Except Failure (List (Option Command))
  | [] => return []
  | tokens :: later => do
    let (command, later) ← command? dialect isFirst tokens later
    match limit with
    | [] => return [command]
    | _ :: limit => return command :: (← commandsFrom dialect false limit later)

/-- Reads a script. An empty statement comes out as `none`. -/
def commands (dialect : Dialect) (script : String) : Except Failure (List (Option Command)) := do
  let statements := chunks (← tokenize dialect script)
  commandsFrom dialect true statements statements

end EntityMap.Sql
