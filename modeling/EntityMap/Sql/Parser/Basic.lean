import EntityMap.Sql.Expression
import EntityMap.Sql.Keyword
import EntityMap.Sql.Token

/-!
Reading from a list of tokens. A parser for something that may be missing answers `none` where it
finds nothing; it fails where something has begun and does not go on as it must.
-/

namespace EntityMap.Sql

/-- Reads from the tokens of a statement in a dialect. Those of the statements that come later are
known, too. -/
abbrev Parser := ReaderT Dialect (StateT (List Token) (StateT (List (List Token)) (Except Failure)))

namespace Parser

/-! ### Single tokens -/

def dialect : Parser Dialect := read

def peek? : Parser (Option Token) := return (← get).head?

def failure {α : Type} (what : String) : Parser α := throw (.expected what)

def skip : Parser Unit := modify List.tail

def acceptIf? (condition : Token → Bool) : Parser (Option Token) := do
  match ← peek? with
  | some t => if condition t then do skip; return some t else return none
  | none => return none

def nextIs (condition : Token → Bool) : Parser Bool := return (← peek?).any condition

def nextIn (keys : List String) : Parser Bool := nextIs fun t => keys.any (t.is ·)

def nextAre (keys : List String) : Parser Bool := do
  let tokens ← get
  return keys.length ≤ tokens.length && (keys.zip tokens).all fun (key, t) => t.is key

def accept (key : String) : Parser Bool := return (← acceptIf? (·.is key)).isSome

def acceptIn? (keys : List String) : Parser (Option String) :=
  return (← acceptIf? fun t => keys.any (t.is ·)).map (·.key)

def acceptAll (keys : List String) : Parser Bool := do
  if ← nextAre keys then do
    modify (·.drop keys.length)
    return true
  else return false

/-- Accepts some words, all of them or none, whatever sort of token each is. -/
def words (keys : List String) : Parser Bool := do
  let tokens ← get
  if keys.length ≤ tokens.length && (keys.zip tokens).all fun (key, t) => t.readsAs key then do
    set (tokens.drop keys.length)
    return true
  else return false

def wordIn? (keys : List String) : Parser (Option String) :=
  return (← acceptIf? fun t => keys.any (t.readsAs ·)).map (·.key)

def expect (key : String) : Parser Unit := do
  unless ← accept key do failure key

/-! ### What may be missing -/

def require {α : Type} (what : String) (p : Parser (Option α)) : Parser α := do
  match ← p with
  | some a => return a
  | none => failure what

def orElse {α : Type} (p q : Parser (Option α)) : Parser (Option α) := do
  match ← p with
  | some a => return some a
  | none => q

def firstOf {α : Type} : List (Parser (Option α)) → Parser (Option α)
  | [] => return none
  | p :: ps => orElse p (firstOf ps)

def orBack {α : Type} (p : Parser (Option α)) : Parser (Option α) := do
  let start ← get
  match ← p with
  | some a => return some a
  | none => do
    set start
    return none

/-- Reads something and goes back to where it started if it is not there or not complete. Only a
nesting that is too deep is a failure still. -/
def attempt {α : Type} (p : Parser (Option α)) : Parser (Option α) := do
  try orBack p
  catch
    | .tooDeep => throw .tooDeep
    | _ => return none

def lookAhead {α : Type} (p : Parser α) : Parser α := do
  let start ← get
  let a ← p
  set start
  return a

def onlyIf (condition : Bool) (p : Parser Bool) : Parser Bool :=
  if condition then p else return false

def either (p q : Parser Bool) : Parser Bool := do
  if ← p then return true else q

def after {α : Type} (key : String) (p : Parser (Option α)) : Parser (Option α) := do
  if ← accept key then p else return none

/-! ### Repetition -/

/-- Goes on with a step as long as it succeeds, at most once for each of some tokens and once
more. -/
def iterate {α : Type} (step : α → Parser (Option α)) : List Token → α → Parser α
  | [], a => return (← step a).getD a
  | _ :: tokens, a => do
    match ← step a with
    | some b => iterate step tokens b
    | none => return a

/-- Goes on with a step as long as it succeeds. All steps but one take at least one token. -/
def goOn {α : Type} (step : α → Parser (Option α)) (a : α) : Parser α := do
  iterate step (← get) a

def many {α : Type} (p : Parser (Option α)) : Parser (List α) := do
  let found ← goOn (fun found => return (← p).map (· :: found)) []
  return found.reverse

/-- Items with commas between them. What is missing between two commas is left out. -/
def commaSeparated {α : Type} (p : Parser (Option α)) : Parser (List α) := do
  let first ← p
  let rest ← many do
    if ← accept "," then some <$> p else return none
  return (first :: rest).filterMap id

/-- Items with commas between them; a comma that no item follows is not touched. -/
def strictlyCommaSeparated {α : Type} (p : Parser (Option α)) : Parser (List α) := do
  let first ← p
  let rest ← many (orBack (after "," p))
  return first.toList ++ rest

def wrapped {α : Type} (p : Parser α) : Parser α := do
  expect "("
  let a ← p
  expect ")"
  return a

def wrappedList {α : Type} (p : Parser (Option α)) : Parser (List α) := wrapped (commaSeparated p)

def dropBalanced : (depth : Nat) → List Token → Option (List Token)
  | _, [] => none
  | depth, t :: rest =>
    if t.is "(" then dropBalanced (depth + 1) rest
    else if t.is ")" then
      match depth with
      | 0 => some rest
      | depth + 1 => dropBalanced depth rest
    else dropBalanced depth rest

def skipBalanced : Parser Unit := do
  expect "("
  match dropBalanced 0 (← get) with
  | some rest => set rest
  | none => failure ")"

def skipRest : Parser Unit := set ([] : List Token)

def atEnd : Parser Bool := return (← get).isEmpty

/-! ### Later statements -/

def later : Parser (List (List Token)) := fun _ tokens statements =>
  .ok ((statements, tokens), statements)

/-- Goes on with the tokens of the next statement, and leaves those that are not read. Tells whether
there is one. -/
def nextStatement : Parser Bool := fun _ tokens statements =>
  match statements with
  | [] => .ok ((false, tokens), [])
  | statement :: rest => .ok ((true, statement), rest)

/-! ### Names -/

/-- Whether a token may be a name where other words may come, too. -/
def isName (dialect : Dialect) (t : Token) : Bool :=
  t.kind = .word || (t.kind = .keyword && !Keyword.isReserved dialect t.key)

/-- Whether a token may be a name where nothing but a name can come. -/
def isAnyName (dialect : Dialect) (t : Token) : Bool :=
  t.kind ≠ .symbol && !(t.kind = .keyword && Keyword.isStrictlyReserved dialect t.key)

/-- The name that a token is. A text that is taken for a name counts as quoted. -/
def nameOf (t : Token) : Name := ⟨t.text, t.kind = .quotedName || t.kind = .text⟩

def quotedName? : Parser (Option Name) :=
  return (← acceptIf? (·.kind = .quotedName)).map nameOf

/-- A name, or any word where `any` tells that nothing but a name can come. The name of a table in
Transact-SQL may have a sign in front that makes it temporary. -/
def name? (any : Bool) : Parser (Option Name) := do
  let dialect ← dialect
  if dialect = .tsql then
    if ← accept "#" then discard (accept "#")
  let accepts : Token → Bool := if any then isAnyName dialect else isName dialect
  return (← acceptIf? fun t => t.kind = .quotedName || accepts t).map nameOf

def textAsName? : Parser (Option Name) := return (← acceptIf? (·.kind = .text)).map nameOf

/-- A word without a meaning of its own, or any word. -/
def word? (any : Bool) : Parser (Option String) := do
  let dialect ← dialect
  return (← acceptIf? fun t => t.kind = .word || (any && isAnyName dialect t)).map (·.text)

def text? : Parser (Option String) := return (← acceptIf? (·.kind.isText)).map (·.text)

def ifExists (negated : Bool) : Parser Bool := do
  if ← words ["IF"] then
    if !negated || (← onlyIf negated (accept "NOT")) then accept "EXISTS" else return false
  else return false

/-- Words with their continuations: the word, with one of its continuations if it has any. -/
def phrase? (options : List (String × List (List String))) : Parser (Option String) :=
  orBack do
    match ← acceptIf? fun t => options.any (t.readsAs ·.1) with
    | none => return none
    | some t =>
      let continuations := (options.lookup t.key).getD []
      if continuations.isEmpty then return some t.key
      firstOf (continuations.map fun continuation => do
        if ← words continuation then return some (" ".intercalate (t.key :: continuation))
        else return none)

end Parser

end EntityMap.Sql
