import EntityMap.Text.Case

/-!
The dialects of SQL, and the names that users give them.
-/

namespace EntityMap

inductive Dialect where
  | bigquery
  | duckdb
  | mysql
  | oracle
  | postgres
  | snowflake
  | sqlite
  | tsql
  deriving DecidableEq, Inhabited, Repr

namespace Dialect

def all : List Dialect := [bigquery, duckdb, mysql, oracle, postgres, snowflake, sqlite, tsql]

def name : Dialect → String
  | bigquery => "bigquery"
  | duckdb => "duckdb"
  | mysql => "mysql"
  | oracle => "oracle"
  | postgres => "postgres"
  | snowflake => "snowflake"
  | sqlite => "sqlite"
  | tsql => "tsql"

def aliases : List (String × Dialect) := [
  ("postgresql", postgres), ("pg", postgres), ("mariadb", mysql), ("mssql", tsql),
  ("sqlserver", tsql), ("transactsql", tsql)]

/-- The dialect with a name, in any case and with white space around it. -/
def ofName? (s : String) : Option Dialect :=
  let key := Text.strip (Text.lower s)
  match aliases.lookup key with
  | some d => some d
  | none => all.find? (·.name == key)

inductive NameError where
  /-- A name, or a missing one, stands for no dialect. -/
  | unsupported (name : Option String)
  | noneGiven
  deriving DecidableEq, Repr

def NameError.message : NameError → String
  | unsupported name =>
    "지원하지 않는 dialect: " ++ name.getD "None" ++ ". 지원하는 dialect: " ++
      ", ".intercalate (all.map Dialect.name)
  | noneGiven => "시도할 dialect가 하나도 설정되지 않았습니다."

/-- The dialects with the given names, in the order of their first occurrence. -/
def ofNamesFrom (found : List Dialect) : List (Option String) → Except NameError (List Dialect)
  | [] => .ok found
  | name :: rest =>
    match name.bind ofName? with
    | none => .error (.unsupported name)
    | some d => ofNamesFrom (if d ∈ found then found else found ++ [d]) rest

def ofNames (names : List (Option String)) : Except NameError (List Dialect) := do
  match ← ofNamesFrom [] names with
  | [] => throw .noneGiven
  | dialects => return dialects

/-- The dialects to try for a request: those that it names, or else those of the settings. -/
def resolve (configured : List String) (names : Option (List (Option String))) :
    Except NameError (List Dialect) :=
  ofNames (names.getD (configured.map some))

end Dialect

end EntityMap
