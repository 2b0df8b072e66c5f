/-!
Tokens of SQL. A keyword that consists of several words is one token.
-/

namespace EntityMap.Sql

inductive TokenKind where
  | word
  /-- A word, or several, with a meaning in the dialect. -/
  | keyword
  | quotedName
  | text
  | nationalText
  | rawText
  | unicodeText
  | bytes
  | bits
  | hex
  | number
  | symbol
  deriving DecidableEq, Inhabited, Repr

structure Token where
  kind : TokenKind
  /-- What is written; for a name or text in quotes, what the quotes enclose. -/
  text : String
  /-- What keywords are compared with: the upper case of the text, nothing for a text in quotes. -/
  key : String
  commented : Bool
  deriving DecidableEq, Inhabited, Repr

namespace TokenKind

def isText (kind : TokenKind) : Bool := [text, nationalText, rawText, unicodeText].contains kind

end TokenKind

namespace Token

def is (key : String) (t : Token) : Bool :=
  (t.kind = .keyword || t.kind = .symbol) && t.key == key

/-- Whether this reads as the given word, whatever sort of token it is; a text in quotes never
does. -/
def readsAs (key : String) (t : Token) : Bool :=
  !t.kind.isText && t.key == key

end Token

inductive Failure where
  | openQuote
  | openComment
  | badDigits
  | expected (what : String)
  /-- A statement is over, but something follows it. -/
  | trailing
  | tooDeep
  deriving DecidableEq, Repr

end EntityMap.Sql
