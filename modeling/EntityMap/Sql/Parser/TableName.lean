import EntityMap.Sql.Definition
import EntityMap.Sql.Parser.Basic

/-!
The names of tables.
-/

namespace EntityMap.Sql.Parser

def tablePart? : Parser (Option Name) := orElse (name? false) textAsName?

/-- The parts of a name in BigQuery, where points inside the quotes separate parts, too. -/
def splitPart (n : Name) : List Name := (n.text.splitOn ".").map (⟨·, n.quoted⟩)

/-- The name of a table. Parts before the last one may be left out between points. -/
def tableName : Parser TableName := do
  let first ← require "the name of a table" tablePart?
  let (path, last) ← goOn (fun (path, last) => after "." do
    return some (path ++ last.toList, ← tablePart?)) ([], some first)
  let last ← require "the name of a table" (return last)
  let path := path ++ [last]
  return ⟨if (← dialect) = .bigquery then path.flatMap splitPart else path⟩

/-- A table as an expression, which has its columns behind it if there are any. -/
def tableExpression (t : TableName) (columns : List Expr) : Expr :=
  if columns.isEmpty then .column t.path else .phrase (.column t.path :: columns)

end EntityMap.Sql.Parser
