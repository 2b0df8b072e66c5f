import EntityMap.Sql.FunctionForm.Basic

/-!
Functions of all rows: the order in which they take the rows, and the texts that they join.
-/

namespace EntityMap.Sql.FunctionForm

def orderWords (order : List Expr) : List Expr :=
  if order.isEmpty then [] else [.word "ORDER", .word "BY", .list order]

def ordered (value : Expr) (order : List Expr) : Expr :=
  if order.isEmpty then value else .phrase (value :: orderWords order)

def withinGroup (call : Expr) (order : List Expr) : Expr :=
  if order.isEmpty then call
  else .phrase [call, .word "WITHIN", .word "GROUP", .paren (.phrase (orderWords order))]

def joinedTexts (dialect : Dialect) (value : Expr) (order : List Expr) (separator : Option Expr) :
    Expr :=
  let given := separator.getD (.text ",")
  match dialect with
  | .mysql =>
    .builtin "GROUP_CONCAT" [.phrase (ordered value order :: [.word "SEPARATOR", given])]
  | .postgres => .builtin "STRING_AGG" [value, ordered given order]
  | .duckdb => .builtin "LISTAGG" [value, ordered given order]
  | .tsql => withinGroup (.builtin "STRING_AGG" [value, given]) order
  | .bigquery =>
    match separator with
    | some separator => .builtin "STRING_AGG" [value, ordered separator order]
    | none => .builtin "STRING_AGG" [ordered value order]
  | .snowflake => withinGroup (.builtin "LISTAGG" (value :: separator.toList)) order
  | .sqlite | .oracle => .builtin "GROUP_CONCAT" (ordered value order :: separator.toList)

end EntityMap.Sql.FunctionForm
