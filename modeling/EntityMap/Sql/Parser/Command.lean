import EntityMap.Sql.ExpressionKind
import EntityMap.Sql.Parser.Alter
import EntityMap.Sql.Parser.Catalogue
import EntityMap.Sql.Parser.Routine
import EntityMap.Sql.Parser.Rows
import EntityMap.Sql.Parser.Session

/-!
Statements. Of those that declare or change no table, only the kind is kept.
-/

namespace EntityMap.Sql.Parser

def tableStatement? : Parser (Option Expr) := attempt do
  match ← wholeTable? grammar with
  | some query => some <$> grammar.combined query
  | none => return none

def expressionStatement? : Parser (Option Command) := do
  match ← firstOf [tableStatement?, grammar.expression, grammar.query] with
  | none => return none
  | some e => do
    let e ← match e with
      | .paren (.query _ _) => do
        let e ← grammar.combined e
        discard (clauses grammar)
        pure e
      | e => pure e
    return some (.other e.kind)

def conditionFollows : Parser Bool := do
  match ← get with
  | t :: next :: _ => return t.kind = .word && t.key = "IF" && !next.is "("
  | _ => return false

variable (statement : Parser (Option Command))

def describe : Parser Command := do
  discard (wordIn? ["ANALYZE", "EXTENDED", "FORMATTED", "HISTORY", "TABLE"])
  if ← nextIn ["FORMAT"] then discard property?
  if ← nextIn ["DELETE", "INSERT", "UPDATE", "MERGE"] then discard statement
  else match ← grammar.query with
    | some _ => pure ()
    | none => do
      discard tableName
      discard columnNames
  return .other "describe"

def commonStatements : List (String × Parser Command) := [
  ("ALTER", alter), ("ANALYZE", analyze), ("BEGIN", transaction), ("CACHE", cache),
  ("COMMENT", comment),
  ("COMMIT", transactionEnd "commit"), ("COPY", copy), ("CREATE", create (routine statement)),
  ("DELETE", delete), ("DESC", describe statement), ("DESCRIBE", describe statement),
  ("DROP", drop), ("END", transactionEnd "commit"), ("GRANT", grant), ("INSERT", insert),
  ("KILL", kill), ("LOAD", load), ("PRAGMA", pragma), ("REVOKE", revoke),
  ("ROLLBACK", transactionEnd "rollback"), ("SET", setVariables), ("TRUNCATE", truncate),
  ("UNCACHE", uncache), ("UPDATE", update), ("USE", use), (";", return .other "semicolon"),
  ("MERGE", do
    skipRest
    return .other "merge")]

/-- The parsers for what follows the keyword of a statement in a dialect, before those for all
dialects. -/
def ownStatements : Dialect → List (String × Parser Command)
  | .mysql => [("EXPLAIN", describe statement), ("SHOW", showCommand), ("START", transaction)]
  | .oracle => [("START", transaction)]
  | .tsql => [
    ("DECLARE", declareVariables), ("EXEC", execute), ("EXECUTE", execute),
    ("IF", conditionalBlock statement), ("WHILE", repeatedBlock statement)]
  | .snowflake => [("SHOW", showCommand)]
  | .duckdb => [
    ("ATTACH", attachment "attach"), ("DETACH", attachment "detach"), ("SHOW", showCommand)]
  | .sqlite => [("ATTACH", attachment "attach"), ("DETACH", attachment "detach")]
  | .bigquery => [
    ("DECLARE", declareVariables), ("ELSE", unread), ("END", unread), ("LOOP", unread),
    ("REPEAT", unread), ("WHILE", unread)]
  | .postgres => []

def withNames? : Parser (Option Command) := do
  match ← namedQueries? grammar with
  | none => return none
  | some _ => some <$> require "a statement" statement

def statementWith? : Parser (Option Command) := do
  let dialect ← dialect
  match ← peek? with
  | none => return none
  | some t =>
    let quoted := t.kind = .quotedName || t.kind.isText
    let parsers := ownStatements statement dialect ++ commonStatements statement
    match if quoted then none else parsers.lookup t.key with
    | some parser => do
      skip
      some <$> parser
    | none =>
      if t.kind = .keyword && (Keyword.commands dialect).contains t.key then some <$> unread
      else if ← conditionFollows then some <$> unread
      else orElse (withNames? statement) expressionStatement?

/-- A statement; those in it may be nested to the given depth. -/
def commandTo? : Nat → Parser (Option Command)
  | 0 => throw .tooDeep
  | depth + 1 => statementWith? (commandTo? depth)

def command? : Parser (Option Command) := commandTo? maxDepth

end EntityMap.Sql.Parser
