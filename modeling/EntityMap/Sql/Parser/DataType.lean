import EntityMap.Sql.Lexer
import EntityMap.Sql.Parser.Literal

/-!
Types: a word of the dialect or a name, what stands in parentheses behind it, and what tells an
array of it.
-/

namespace EntityMap.Sql.Parser

variable (g : Nested)

/-! ### The word -/

inductive TypeHead where
  | kind (kind : TypeKind)
  | custom (path : List Name)

def typeWord? : Parser (Option TypeKind) := do
  let dialect ← dialect
  match ← peek? with
  | some t =>
    match t.kind, TypeKind.ofWord? dialect t.key with
    | .keyword, some kind => do
      skip
      return some kind
    | _, _ => return none
  | none => return none

def hasCustomTypes (dialect : Dialect) : Bool :=
  [.postgres, .sqlite, .oracle, .tsql, .duckdb].contains dialect

def kindOfText? (dialect : Dialect) (text : String) : Option TypeKind :=
  match tokenize dialect text with
  | .ok [t] => if t.kind = .keyword then TypeKind.ofWord? dialect t.key else none
  | _ => none

/-- The parts of a name behind its first one. After the last point there may be none. -/
def typePath (first : Token) : Parser (List Name) :=
  goOn (fun path => do
    if ← accept "." then
      let dialect ← dialect
      let part ← acceptIf? (isAnyName dialect)
      return some (path ++ [(part.map nameOf).getD ⟨"None", false⟩])
    else return none) [nameOf first]

def typeHead? (use : TypeUse) : Parser (Option TypeHead) := do
  match ← typeWord? with
  | some kind => return some (.kind kind)
  | none =>
    if use = .value then return none
    let dialect ← dialect
    match ← peek? with
    | none => return none
    | some t =>
      if t.kind ≠ .word && t.kind ≠ .quotedName then return none
      match kindOfText? dialect t.text with
      | some kind => do
        skip
        return some (.kind kind)
      | none =>
        if hasCustomTypes dialect then do
          skip
          return some (.custom (← typePath t))
        else return none

/-! ### What stands in parentheses -/

/-- A parameter of a type: a value, perhaps with its unit. A word is written in upper case. -/
def typeParameter? : Parser (Option Expr) := do
  match ← g.operand with
  | none => return none
  | some value =>
    let value := match value with
      | .column [n] => .word (Text.upper n.text)
      | value => value
    match ← word? true with
    | some unit => return some (.sized value unit)
    | none => return some value

def typeField? (use : TypeUse) : Parser (Option DataType) := do
  let named ← attempt do
    match ← name? true with
    | none => return none
    | some name =>
      discard (accept ":")
      return (← g.type use).map (.field name)
  match named with
  | some field => return some field
  | none => g.type use

def elementTypes (use : TypeUse) (kind : TypeKind) : Parser (List DataType) :=
  commaSeparated (if kind = .struct then typeField? g use else g.type use)

/-! ### The whole -/

structure TypeParts where
  parameters : List Expr := []
  elements : List DataType := []
  size : List Expr := []
  /-- Whether it may be a function call as well. -/
  callLike : Bool := false
  angled : Bool := false

/-- Whether the parentheses that come next are followed by what makes a type with a text a
value. -/
def valueFollows : Parser Bool := do
  match ← get with
  | _ :: rest =>
    match dropBalanced 0 rest with
    | some (t :: _) => return t.kind = .text || ["WITH", "WITHOUT"].any (t.readsAs ·)
    | _ => return false
  | [] => return false

/-- What stands in parentheses behind a word for a type. There is no type if it does not end. -/
def typeParts? (use : TypeUse) (head : TypeHead) : Parser (Option TypeParts) := do
  unless ← nextIs (·.is "(") do return some {}
  if use = .value && !(← valueFollows) then return none
  skip
  let parts : TypeParts ← match head with
    | .kind kind =>
      if kind.isNested then do pure { elements := ← elementTypes g use kind }
      else if kind.isEnumeration then do pure { parameters := ← commaSeparated g.equality }
      else do pure { parameters := ← commaSeparated (typeParameter? g) }
    | .custom _ => do pure { parameters := ← commaSeparated (typeParameter? g) }
  if ← accept ")" then return some { parts with callLike := true } else return none

def angleParts (use : TypeUse) (head : TypeHead) (parts : TypeParts) : Parser TypeParts := do
  match head with
  | .kind kind =>
    if kind.isNested then
      if ← accept "<" then
        let elements ← elementTypes g use kind
        expect ">"
        return { parts with elements := elements, callLike := false, angled := true }
    return parts
  | .custom _ => return parts

def zonedKind? (kind : TypeKind) : Parser (Option TypeKind) := do
  unless kind.takesZone do return none
  if ← words ["WITH", "TIME", "ZONE"] then
    return some (if kind = .time || kind = .timeTz then .timeTz else .timestampTz)
  else if ← words ["WITH", "LOCAL", "TIME", "ZONE"] then return some .timestampLocal
  else if ← words ["WITHOUT", "TIME", "ZONE"] then return some kind
  else return none

/-- The kind, without a sign if the word for that follows. -/
def signedness (kind : TypeKind) : Parser TypeKind := do
  if ← words ["UNSIGNED"] then require "a type with a sign" (return kind.unsigned?) else return kind

def timeSpan (first : String) : Parser DataType := do
  let last ← if ← words ["TO"] then word? false else pure none
  let units := first :: last.toList.flatMap fun last => ["TO", last]
  return .builtin .interval [.phrase (units.map fun unit => .word (Text.upper unit))]

/-- A type that is declared elsewhere. Only PostgreSQL keeps the parts of its name apart. -/
def customType (path : List Name) (parameters : List Expr) : Parser DataType := do
  if (← dialect) = .postgres then return .custom path parameters
  else return .written (".".intercalate (path.map (·.text))) parameters

def finishType? (use : TypeUse) (head : TypeHead) (parts : TypeParts) :
    Parser (Option DataType) := do
  match head with
  | .custom path => return some (← customType path parts.parameters)
  | .kind kind =>
    let zoned ← zonedKind? kind
    if zoned.isNone && parts.callLike && use = .value && !(← nextIs (·.kind = .text)) then
      return none
    match zoned with
    | some kind => return some (.builtin kind parts.parameters)
    | none =>
      if kind = .interval then
        if let some unit ← word? false then return some (← timeSpan unit)
      let kind ← signedness kind
      if kind.isNested then
        if kind = .nullable && parts.elements.isEmpty then return none
        return some (.nested kind parts.elements parts.size)
      return some (.builtin kind parts.parameters)

def arrays (use : TypeUse) (type : DataType) : Parser DataType := do
  let marked ← accept "ARRAY"
  let step : DataType × Bool → Parser (Option (DataType × Bool)) := fun (type, marked) => orBack do
    let opened ← accept "["
    unless opened || marked do return none
    let size ← commaSeparated g.disjunction
    if !size.isEmpty && use ≠ .declared then return none
    discard (accept "]")
    return some (.nested .array [type] size, false)
  return (← goOn step (type, marked)).1

def type? (use : TypeUse) : Parser (Option DataType) := orBack do
  match ← typeHead? use with
  | none => return none
  | some head =>
    match ← typeParts? g use head with
    | none => return none
    | some parts =>
      let parts ← angleParts g use head parts
      match ← finishType? use head parts with
      | none => return none
      | some type =>
        if use = .value && parts.angled then return some type
        return some (← arrays g use type)

end EntityMap.Sql.Parser
