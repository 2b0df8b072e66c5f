import EntityMap.Sql.FunctionForm.Basic

/-!
Access to parts of JSON values. A part is given by a path, which starts with a dollar for the whole
value.
-/

namespace EntityMap.Sql.FunctionForm

def isPathChar (c : Char) : Bool := c.isAlphanum || ['_', '.', '[', ']', '*'].contains c

/-- A path with its dollar. A number is an index of the whole value, a word is one of its keys. -/
def jsonPath : Expr → Expr
  | .literal .number n => .text ("$[" ++ n ++ "]")
  | .literal .text s =>
    if s.isEmpty || !(s.toList.all isPathChar) then .text s
    else if s.startsWith "[" then .text ("$" ++ s) else .text ("$." ++ s)
  | e => e

def innerPath : Expr → Expr
  | .literal .text s =>
    let inner := if s.startsWith "$" then s.toList.drop 1 else s.toList
    .text (String.ofList (inner.dropWhile (· = '.')))
  | e => e

def jsonPart (dialect : Dialect) (value path : Expr) (more : List Expr) : Expr :=
  let path := jsonPath path
  match dialect with
  | .sqlite | .duckdb =>
    if more.isEmpty then .binary .arrow value path
    else .builtin "JSON_EXTRACT" (value :: path :: more)
  | .snowflake => .builtin "GET_PATH" [value, innerPath path]
  | _ => .builtin "JSON_EXTRACT" (value :: path :: more)

/-- The part of a JSON value at a path in Transact-SQL, which has one function for values and
another one for objects. -/
def jsonValueOrObject (value path : Expr) : Expr :=
  let path := jsonPath path
  .builtin "ISNULL" [.builtin "JSON_QUERY" [value, path], .builtin "JSON_VALUE" [value, path]]

/-- What an operator takes out of a JSON value. PostgreSQL takes keys for the right operand, the
others paths. -/
def jsonArrow (dialect : Dialect) (operator : Operator) (value right : Expr) : Expr :=
  if [.mysql, .sqlite, .duckdb].contains dialect then .binary operator value (jsonPath right)
  else .binary operator value right

/-- An object given by its keys and values, which come by turns. -/
def object (dialect : Dialect) (members : List (Expr × Expr)) : Expr :=
  match dialect with
  | .snowflake => .builtin "OBJECT_CONSTRUCT" (members.flatMap fun (key, value) => [key, value])
  | .duckdb => .record (members.flatMap fun (key, value) => [key, value])
  | _ => .builtin "STRUCT" (members.map fun (key, value) => .binary .equal key value)

end EntityMap.Sql.FunctionForm
