import EntityMap.Sql.Token
import EntityMap.Dialect

/-!
How a dialect quotes names and texts, escapes characters in them, and writes numbers and comments.
-/

namespace EntityMap.Sql

structure LexicalRules where
  nameQuotes : List (Char × Char)
  nameEscapes : List Char := []
  textQuotes : List Char := ['\'']
  tripleQuotes : Bool := false
  textEscapes : List Char := ['\'']
  sequences : List (Char × Char) := []
  /-- The characters in front of which a backslash is kept, if it vanishes in front of others. -/
  keptEscapes : Option (List Char) := none
  textMarks : List (String × TokenKind) := []
  byteEscapes : List Char := ['\'']
  dollarTags : Bool := false
  dollarPairs : Bool := false
  bracketTexts : Bool := false
  hexNumbers : Bool := false
  /-- Whether such a number is a whole number, and not a string of bytes. -/
  wholeHexNumbers : Bool := false
  bitNumbers : Bool := false
  digitGroups : Bool := false
  lineComments : List String := ["--"]
  /-- Whether two dashes start a comment only in front of white space. -/
  blankAfterDashes : Bool := false
  nestedComments : Bool := false
  digitNames : Bool := false
  wordSymbols : List Char := []
  wordStarts : List Char := []

def commonSequences : List (Char × Char) := [
  ('a', '\x07'), ('b', '\x08'), ('f', '\x0c'), ('n', '\n'), ('r', '\r'), ('t', '\t'), ('v', '\x0b'),
  ('\\', '\\')]

namespace LexicalRules

def of : Dialect → LexicalRules
  | .mysql => {
    nameQuotes := [('\x60', '\x60')]
    textQuotes := ['\'', '"']
    textEscapes := ['\'', '"', '\\']
    sequences := commonSequences ++ [('0', '\x00'), ('Z', '\x1a')]
    keptEscapes := some ['0', 'b', 'n', 'r', 't', 'Z', '%', '_']
    textMarks := [("B", .bits), ("X", .hex)]
    hexNumbers := true
    bitNumbers := true
    lineComments := ["--", "#"]
    blankAfterDashes := true
    digitNames := true
    wordSymbols := ['@', '$']
    wordStarts := ['$'] }
  | .postgres => {
    nameQuotes := [('"', '"')]
    textMarks := [("B", .bits), ("X", .hex), ("E", .bytes), ("U&", .unicodeText)]
    byteEscapes := ['\'', '\\']
    dollarTags := true
    hexNumbers := true
    bitNumbers := true
    nestedComments := true
    wordSymbols := ['$'] }
  | .sqlite => {
    nameQuotes := [('"', '"'), ('[', ']'), ('\x60', '\x60')]
    textMarks := [("X", .hex)]
    hexNumbers := true
    wholeHexNumbers := true }
  | .oracle => {
    nameQuotes := [('"', '"')]
    textMarks := [("U", .unicodeText)]
    bracketTexts := true
    wordSymbols := ['@', '$', '#'] }
  | .tsql => {
    nameQuotes := [('[', ']'), ('"', '"')]
    hexNumbers := true
    nestedComments := true
    wordSymbols := ['@', '$', '#'] }
  | .bigquery => {
    nameQuotes := [('\x60', '\x60')]
    nameEscapes := ['\\']
    textQuotes := ['\'', '"']
    tripleQuotes := true
    textEscapes := ['\\']
    sequences := commonSequences
    textMarks := [("B", .bytes), ("R", .rawText)]
    byteEscapes := ['\\']
    hexNumbers := true
    lineComments := ["--", "#"] }
  | .snowflake => {
    nameQuotes := [('"', '"')]
    textEscapes := ['\\', '\'']
    sequences := commonSequences
    textMarks := [("X", .hex)]
    dollarPairs := true
    hexNumbers := true
    lineComments := ["--", "//"]
    wordSymbols := ['$'] }
  | .duckdb => {
    nameQuotes := [('"', '"')]
    textMarks := [("E", .bytes), ("X", .hex)]
    byteEscapes := ['\'', '\\']
    dollarTags := true
    hexNumbers := true
    digitGroups := true
    nestedComments := true }

end LexicalRules

end EntityMap.Sql
