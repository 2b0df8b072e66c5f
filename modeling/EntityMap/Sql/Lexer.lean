import EntityMap.Sql.Keyword
import EntityMap.Sql.LexicalRules
import EntityMap.Text.Case
import EntityMap.Text.Digit

/-!
Splitting a script into tokens.

White space only separates tokens. A comment belongs to the token before it if it starts on the
line on which that token ends, and else to the token after it.
-/

namespace EntityMap.Sql

namespace Lexer

/-! ### Quotes and comments -/

structure Quoting where
  closing : List Char
  /-- The characters that take the meaning from a closing quote. -/
  escapes : List Char
  sequences : List (Char × Char) := []

/-- Whether a backslash in front of a character vanishes. -/
def dropsBackslash (rules : LexicalRules) (c d : Char) : Bool :=
  c = '\\' && rules.keptEscapes.any (!·.contains d)

def quoted? (rules : LexicalRules) (q : Quoting) : List Char → Option (List Char × List Char)
  | [] => none
  | [c] => if [c] = q.closing then some ([], []) else none
  | c :: d :: rest =>
    let special := if c = '\\' then q.sequences.lookup d else none
    match special with
    | some meant => (quoted? rules q rest).map fun (s, after) => (meant :: s, after)
    | none =>
      let dropped := dropsBackslash rules c d
      if q.escapes.contains c && ([d] = q.closing || q.escapes.contains d || dropped) &&
          (!rules.textQuotes.contains c || c = d) then
        if rest.isEmpty then none
        else (quoted? rules q rest).map fun (s, after) =>
          (if [d] = q.closing || dropped then d :: s else c :: d :: s, after)
      else if q.closing.isPrefixOf (c :: d :: rest) then
        some ([], (c :: d :: rest).drop q.closing.length)
      else (quoted? rules q (d :: rest)).map fun (s, after) => (c :: s, after)

/-- Reads up to the first occurrence of what ends a text in which nothing else is special. -/
def upTo? (closing : List Char) : List Char → Option (List Char × List Char)
  | [] => none
  | c :: rest =>
    if closing.isPrefixOf (c :: rest) then some ([], (c :: rest).drop closing.length)
    else (upTo? closing rest).map fun (s, after) => (c :: s, after)

def skipLine (s : List Char) : List Char := s.dropWhile fun c => c ≠ '\n' && c ≠ '\r'

def skipBlock? (nested : Bool) : Nat → List Char → Option (List Char)
  | _, [] => none
  | _, [_] => none
  | depth, '*' :: '/' :: rest => if depth = 0 then some rest else skipBlock? nested (depth - 1) rest
  | depth, c :: d :: rest =>
    if nested && c = '/' && d = '*' then skipBlock? nested (depth + 1) rest
    else skipBlock? nested depth (d :: rest)

def skipBraces? : List Char → Option (List Char)
  | [] => none
  | [_] => none
  | c :: d :: rest => if c = '#' && d = '\x7d' then some rest else skipBraces? (d :: rest)

/-! ### Words, numbers and signs -/

def spanWord (rules : LexicalRules) (s : List Char) : List Char × List Char :=
  s.span fun c => !Text.isBlank c && (rules.wordSymbols.contains c || !Keyword.isSymbol c)

/-- What follows a keyword of several words, if the text starts with it. A blank in it stands for
any white space. -/
def dropPhrase? : (phrase : List Char) → List Char → Option (List Char)
  | [], s => some s
  | _ :: _, [] => none
  | p :: phrase, c :: s =>
    if p = ' ' then
      if Text.isBlank c then dropPhrase? phrase (s.dropWhile Text.isBlank) else none
    else if c.toUpper = p then dropPhrase? phrase s
    else none

def endsWord : List Char → Bool
  | [] => true
  | c :: _ => Text.isBlank c || Keyword.isSymbol c

def phrase? (dialect : Dialect) (s : List Char) : Option (String × List Char) :=
  (Keyword.phrases dialect).findSome? fun phrase => do
    let rest ← dropPhrase? phrase.toList s
    guard (endsWord rest)
    return (phrase, rest)

def operator? (dialect : Dialect) (s : List Char) : Option (String × List Char) :=
  (Keyword.operators dialect).findSome? fun operator =>
    if operator.toList.isPrefixOf s then some (operator, s.drop operator.length) else none

inductive NumberPart where
  | whole
  | fraction
  | exponent
  | signedExponent
  deriving DecidableEq

def startsDigit : List Char → Bool
  | [] => false
  | c :: _ => Text.isDigit c

/-- Splits off the rest of a number. `point` tells whether it has a decimal point already. -/
def spanNumber (groups : Bool) (part : NumberPart) (point : Bool) :
    List Char → List Char × List Char
  | [] => ([], [])
  | c :: rest =>
    let take (part : NumberPart) (point : Bool) : List Char × List Char :=
      let (s, after) := spanNumber groups part point rest
      (c :: s, after)
    if Text.isDigit c then take part point
    else if c = '_' && groups then spanNumber groups part point rest
    else if c = '.' && !point then take part true
    else if (c = '-' || c = '+') && part = .exponent then
      if startsDigit rest then take .signedExponent point else ([], c :: rest)
    else if (c = 'e' || c = 'E') && part ≠ .exponent && part ≠ .signedExponent then
      take .exponent point
    else ([], c :: rest)

def startsName (c : Char) : Bool := c.isAlpha || c = '_' || (c.toNat ≥ 128 && !Text.isBlank c)

def isHexDigit (c : Char) : Bool :=
  c.isDigit || ('a' ≤ c && c ≤ 'f') || ('A' ≤ c && c ≤ 'F')

/-! ### Single tokens -/

inductive Lexeme where
  | gap (breaksLine : Bool)
  | comment
  | token (kind : TokenKind) (text : String)

def wordLexeme (dialect : Dialect) (s : List Char) : Lexeme :=
  let text := String.ofList s
  .token (if Keyword.isKeyword dialect (Text.upper text) then .keyword else .word) text

/-- A number whose base the first two characters tell. If it holds anything but digits, it is a
name. -/
def basedNumber (kind : TokenKind) (isDigit : Char → Bool) (first mark : Char) (rest : List Char) :
    Lexeme × List Char :=
  let (digits, after) := rest.span fun c => !Text.isBlank c && !Keyword.isSymbol c
  if !digits.isEmpty && digits.all isDigit then (.token kind (String.ofList digits), after)
  else (.token .quotedName (String.ofList (first :: mark :: digits)), after)

def hexValue (digits : List Char) : Nat :=
  digits.foldl (fun n c => 16 * n + if c.isDigit then c.toNat - 48 else c.toLower.toNat - 87) 0

def hexNumber (rules : LexicalRules) (first mark : Char) (rest : List Char) :
    Lexeme × List Char :=
  match basedNumber .hex isHexDigit first mark rest with
  | (.token .hex digits, after) =>
    if rules.wholeHexNumbers then (.token .number (toString (hexValue digits.toList)), after)
    else (.token .hex digits, after)
  | other => other

/-- A decimal number, or a word that starts with a digit. `point` tells whether it may have a
decimal point. -/
def decimalNumber (rules : LexicalRules) (point : Bool) (first : Char) (rest : List Char) :
    Lexeme × List Char :=
  let (more, after) := spanNumber rules.digitGroups .whole (!point) rest
  let continued := match after with
    | c :: _ => rules.digitNames && startsName c
    | [] => false
  if continued then
    let (tail, after) := after.span fun c => !Text.isBlank c && !Keyword.isSymbol c
    (.token .word (String.ofList (first :: more ++ tail)), after)
  else (.token .number (String.ofList (first :: more)), after)

def number (rules : LexicalRules) (point : Bool) (first : Char) (rest : List Char) :
    Lexeme × List Char :=
  match rest with
  | mark :: digits =>
    if first = '0' && (mark = 'x' || mark = 'X') then
      if rules.hexNumbers then hexNumber rules first mark digits
      else (.token .number "0", rest)
    else if first = '0' && (mark = 'b' || mark = 'B') then
      if rules.bitNumbers then basedNumber .bits (fun c => c = '0' || c = '1') first mark digits
      else (.token .number "0", rest)
    else decimalNumber rules point first rest
  | [] => decimalNumber rules point first rest

def startsLineComment (rules : LexicalRules) (s : List Char) : Bool :=
  rules.lineComments.any fun start =>
    start.toList.isPrefixOf s &&
      (!rules.blankAfterDashes || start ≠ "--" || (s.drop 2).head?.all Text.isBlank)

def comment? (rules : LexicalRules) (s : List Char) : Option (Except Failure (List Char)) :=
  if startsLineComment rules s then some (.ok (skipLine s))
  else match s with
    | '/' :: '*' :: rest => some (((skipBlock? rules.nestedComments 0 rest).map .ok).getD
        (.error .openComment))
    | '\x7b' :: '#' :: rest => some (((skipBraces? rest).map .ok).getD (.error .openComment))
    | _ => none

def hasProperDigits (kind : TokenKind) (s : List Char) : Bool :=
  match kind with
  | .bits => s.all fun c => c = '0' || c = '1'
  | .hex => s.all isHexDigit
  | _ => true

/-- The characters that take the meaning from a closing quote of a text of some kind, and the
sequences in it. -/
def quoting (rules : LexicalRules) (kind : TokenKind) (closing : List Char) : Quoting :=
  match kind with
  | .bytes => ⟨closing, rules.byteEscapes, commonSequences⟩
  | .rawText => ⟨closing, rules.textEscapes, []⟩
  | .quotedName => ⟨closing, closing ++ rules.nameEscapes, rules.sequences⟩
  | _ => ⟨closing, rules.textEscapes, rules.sequences⟩

def quotedLexeme (rules : LexicalRules) (kind : TokenKind) (closing rest : List Char) :
    Except Failure (Lexeme × List Char) :=
  match quoted? rules (quoting rules kind closing) rest with
  | some (text, after) =>
    if hasProperDigits kind text then .ok (.token kind (String.ofList text), after)
    else .error .badDigits
  | none => .error .openQuote

def plainText? (rules : LexicalRules) (kind : TokenKind) (s : List Char) :
    Option (Except Failure (Lexeme × List Char)) :=
  match s with
  | c :: rest =>
    if !rules.textQuotes.contains c then none
    else if rules.tripleQuotes && [c, c, c].isPrefixOf s then
      some (quotedLexeme rules kind [c, c, c] (s.drop 3))
    else some (quotedLexeme rules kind [c] rest)
  | [] => none

/-- The marks in front of a text: those of the dialect, and the one for the national character
set. -/
def marks (rules : LexicalRules) : List (String × TokenKind) :=
  ("N", .nationalText) :: rules.textMarks

/-- A text with a mark in front of it. Only bytes and raw texts may be in other quotes than single
ones, and texts in the national character set. -/
def markedText? (rules : LexicalRules) (s : List Char) :
    Option (Except Failure (Lexeme × List Char)) :=
  (marks rules).findSome? fun (mark, kind) =>
    if mark.toList.isPrefixOf ((s.take mark.length).map Char.toUpper) then
      let rest := s.drop mark.length
      let plain := rest.head? = some '\'' || [.nationalText, .bytes, .rawText].contains kind
      if plain then plainText? rules kind rest else none
    else none

def closingOf (c : Char) : Char :=
  ([('[', ']'), ('(', ')'), ('\x7b', '\x7d'), ('<', '>')].lookup c).getD c

def bracketText? (s : List Char) : Option (Except Failure (Lexeme × List Char)) :=
  match s with
  | q :: '\'' :: bracket :: rest =>
    if q = 'q' || q = 'Q' then
      match upTo? [closingOf bracket, '\''] rest with
      | some (text, after) => some (.ok (.token .rawText (String.ofList text), after))
      | none => some (.error .openQuote)
    else none
  | _ => none

/-- A text between two tags in dollar signs. A tag that never ends, is a number or holds white
space is none; then the dollar sign is a sign by itself. -/
def taggedText? (s : List Char) : Option (Except Failure (Lexeme × List Char)) :=
  match s with
  | '$' :: rest =>
    match upTo? ['$'] rest with
    | none => none
    | some (tag, body) =>
      let number := !tag.isEmpty && tag.all Text.isDigit
      if number || tag.any Text.isBlank || (!tag.isEmpty && body.isEmpty) then none
      else match upTo? ('$' :: tag ++ ['$']) body with
        | some (text, after) => some (.ok (.token .rawText (String.ofList text), after))
        | none => some (.error .openQuote)
  | _ => none

def dollarText? (s : List Char) : Option (Except Failure (Lexeme × List Char)) :=
  match s with
  | '$' :: '$' :: rest =>
    match upTo? ['$', '$'] rest with
    | some (text, after) => some (.ok (.token .rawText (String.ofList text), after))
    | none => some (.error .openQuote)
  | _ => none

def text? (rules : LexicalRules) (s : List Char) : Option (Except Failure (Lexeme × List Char)) :=
  (plainText? rules .text s).or <| (markedText? rules s).or <|
    (if rules.bracketTexts then bracketText? s else none).or <|
    (if rules.dollarTags then taggedText? s else none).or <|
    if rules.dollarPairs then dollarText? s else none

/-- What a script that is not empty starts with, and the rest of it. `point` tells whether a number
may have a decimal point. -/
def next (dialect : Dialect) (point : Bool) (c : Char) (rest : List Char) :
    Except Failure (Lexeme × List Char) :=
  let rules := LexicalRules.of dialect
  let s := c :: rest
  if Text.isBlank c then .ok (.gap (c = '\n' || c = '\r'), rest)
  else if Text.isDigit c then .ok (number rules point c rest)
  else match rules.nameQuotes.lookup c with
    | some closing => quotedLexeme rules .quotedName [closing] rest
    | none => match comment? rules s with
      | some after => after.map fun after => (.comment, after)
      | none => match text? rules s with
        | some result => result
        | none => match operator? dialect s with
          | some (operator, after) => .ok (.token .symbol operator, after)
          | none => match phrase? dialect s with
            | some (phrase, after) => .ok (.token .keyword phrase, after)
            | none =>
              if c = '"' || c = '\x60' then .ok (.token .quotedName (String.singleton c), rest)
              else if Keyword.isSymbol c && !rules.wordStarts.contains c then
                .ok (.token .symbol (String.singleton c), rest)
              else
                let (more, after) := spanWord rules rest
                .ok (wordLexeme dialect (c :: more), after)

/-! ### Whole scripts -/

/-- The tokens so far, the last one first. -/
structure State where
  tokens : List Token := []
  /-- Whether a comment waits for the token that it belongs to. -/
  pending : Bool := false
  /-- Whether no line has ended since the last token. -/
  sameLine : Bool := false

namespace State

def markLast (tokens : List Token) : List Token :=
  tokens.modifyHead fun t => { t with commented := true }

def push (st : State) : Lexeme → State
  | .gap breaksLine => { st with sameLine := st.sameLine && !breaksLine }
  | .comment =>
    if st.sameLine then { st with tokens := markLast st.tokens } else { st with pending := true }
  | .token kind text =>
    let kind := match st.tokens with
      | t :: _ => if t.is "@" && kind = .keyword then .word else kind
      | [] => kind
    let token : Token := ⟨kind, text, if kind.isText then "" else Text.upper text, st.pending⟩
    ⟨token :: st.tokens, false, true⟩

def finish (st : State) : List Token :=
  (if st.pending then markLast st.tokens else st.tokens).reverse

end State

def startsParameter (dialect : Dialect) (t : Token) : Bool :=
  t.is "@" || (t.is "$" && [.postgres, .duckdb, .snowflake].contains dialect)

def run (dialect : Dialect) : Nat → List Char → State → Except Failure State
  | _, [], st => .ok st
  | 0, _ :: _, st => .ok st
  | n + 1, c :: rest, st =>
    let point := !(st.tokens.head?.any (startsParameter dialect))
    match next dialect point c rest with
    | .error e => .error e
    | .ok (lexeme, rest) => run dialect n rest (st.push lexeme)

end Lexer

/-- The tokens of a script. Each takes at least one character, so that there are no more of them
than characters. -/
def tokenize (dialect : Dialect) (script : String) : Except Failure (List Token) :=
  let s := script.toList
  (Lexer.run dialect s.length s {}).map (·.finish)

end EntityMap.Sql
