import EntityMap.Dialect

/-!
Formats of dates and times. A format is a text with elements in it; a dialect may have several
elements with one meaning, of which one is preferred.
-/

namespace EntityMap.Sql.TimeFormat

/-! ### Elements -/

/-- The elements of a dialect with their meanings, which are those of the C library. Of several
elements with one meaning the last one is preferred. -/
def elements : Dialect → List (String × String)
  | .mysql => [
    ("%M", "%B"), ("%c", "%-m"), ("%e", "%-d"), ("%h", "%I"), ("%i", "%M"), ("%s", "%S"),
    ("%u", "%W"), ("%k", "%-H"), ("%l", "%-I"), ("%T", "%H:%M:%S"), ("%W", "%A")]
  | .postgres => [
    ("d", "%u"), ("D", "%u"), ("dd", "%d"), ("DD", "%d"), ("ddd", "%j"), ("DDD", "%j"),
    ("FMDD", "%-d"), ("FMDDD", "%-j"), ("FMHH12", "%-I"), ("FMHH24", "%-H"), ("FMMI", "%-M"),
    ("FMMM", "%-m"), ("FMSS", "%-S"), ("HH12", "%I"), ("HH24", "%H"), ("mi", "%M"), ("MI", "%M"),
    ("mm", "%m"), ("MM", "%m"), ("OF", "%z"), ("ss", "%S"), ("SS", "%S"), ("TMDay", "%A"),
    ("TMDy", "%a"), ("TMMon", "%b"), ("TMMonth", "%B"), ("TZ", "%Z"), ("US", "%f"), ("ww", "%U"),
    ("WW", "%U"), ("yy", "%y"), ("YY", "%y"), ("yyyy", "%Y"), ("YYYY", "%Y")]
  | .oracle => [
    ("D", "%u"), ("DAY", "%A"), ("DD", "%d"), ("DDD", "%j"), ("DY", "%a"), ("HH", "%I"),
    ("HH12", "%I"), ("HH24", "%H"), ("IW", "%V"), ("MI", "%M"), ("MM", "%m"), ("MON", "%b"),
    ("MONTH", "%B"), ("SS", "%S"), ("WW", "%W"), ("YY", "%y"), ("YYYY", "%Y"), ("FF6", "%f")]
  | .tsql => [
    ("year", "%Y"), ("dayofyear", "%j"), ("day", "%d"), ("dy", "%d"), ("y", "%Y"), ("week", "%W"),
    ("ww", "%W"), ("wk", "%W"), ("isowk", "%V"), ("isoww", "%V"), ("iso_week", "%V"),
    ("hour", "%h"), ("hh", "%I"), ("minute", "%M"), ("mi", "%M"), ("n", "%M"), ("second", "%S"),
    ("ss", "%S"), ("s", "%-S"), ("millisecond", "%f"), ("ms", "%f"), ("weekday", "%w"),
    ("dw", "%w"), ("month", "%m"), ("mm", "%M"), ("m", "%-M"), ("Y", "%Y"), ("YYYY", "%Y"),
    ("YY", "%y"), ("MMMM", "%B"), ("MMM", "%b"), ("MM", "%m"), ("M", "%-m"), ("dddd", "%A"),
    ("dd", "%d"), ("d", "%-d"), ("HH", "%H"), ("H", "%-H"), ("h", "%-I"), ("ffffff", "%f"),
    ("yyyy", "%Y"), ("yy", "%y")]
  | .snowflake => [
    ("YYYY", "%Y"), ("yyyy", "%Y"), ("YY", "%y"), ("yy", "%y"), ("MMMM", "%B"), ("mmmm", "%B"),
    ("MON", "%b"), ("mon", "%b"), ("MM", "%m"), ("mm", "%m"), ("DD", "%d"), ("dd", "%-d"),
    ("DY", "%a"), ("dy", "%w"), ("HH24", "%H"), ("hh24", "%H"), ("HH12", "%I"), ("hh12", "%I"),
    ("MI", "%M"), ("mi", "%M"), ("SS", "%S"), ("ss", "%S"), ("FF6", "%f"), ("ff6", "%f"),
    ("AM", "%p"), ("am", "%p"), ("PM", "%p"), ("pm", "%p")]
  | .bigquery => [
    ("%x", "%m/%d/%y"), ("%D", "%m/%d/%y"), ("%E6S", "%S.%f"), ("%e", "%-d"), ("%F", "%Y-%m-%d"),
    ("%T", "%H:%M:%S"), ("%H:%M:%E6S", "%H:%M:%S.%f")]
  | _ => []

/-- The meanings of single letters that stand for a whole format in Transact-SQL. -/
def letters : List (String × String) := [
  ("y", "%B %Y"), ("d", "%m/%d/%Y"), ("H", "%-H"), ("h", "%-I"), ("s", "%Y-%m-%d %H:%M:%S"),
  ("D", "%A,%B,%Y"), ("f", "%A,%B,%Y %-I:%M %p"), ("F", "%A,%B,%Y %-I:%M:%S %p"),
  ("g", "%m/%d/%Y %-I:%M %p"), ("G", "%m/%d/%Y %-I:%M:%S %p"), ("m", "%B %-d"), ("M", "%B %-d"),
  ("O", "%Y-%m-%dT%H:%M:%S"), ("u", "%Y-%M-%D %H:%M:%S%z"), ("U", "%A, %B %D, %Y %H:%M:%S%z"),
  ("T", "%-I:%M:%S %p"), ("t", "%-I:%M"), ("Y", "%a %Y")]

/-- The meanings of the parts of a time that are written by their names in Transact-SQL. -/
def namedParts : List (String × String) := [
  ("weekday", "%A"), ("dw", "%A"), ("w", "%A"), ("month", "%B"), ("mm", "%B"), ("m", "%B")]

/-! ### Replacing -/

/-- The longest key of a table that a text starts with: its length, and what it stands for. -/
def longest? (table : List (String × String)) (s : List Char) : Option (Nat × String) :=
  table.foldl (fun found (key, value) =>
    let better := found.all fun (n, _) => n < key.length
    if key.toList.isPrefixOf s && better then some (key.length, value) else found) none

/-- Replaces the keys of a table in a text, the longest first. `skip` characters have been taken
by the last key. -/
def replaceFrom (table : List (String × String)) : (skip : Nat) → List Char → List Char
  | _, [] => []
  | skip + 1, _ :: rest => replaceFrom table skip rest
  | 0, c :: rest =>
    match longest? table (c :: rest) with
    | some (n, value) => value.toList ++ replaceFrom table (n - 1) rest
    | none => c :: replaceFrom table 0 rest

def replace (table : List (String × String)) (s : String) : String :=
  String.ofList (replaceFrom table 0 s.toList)

def write (dialect : Dialect) (meaning : String) : String :=
  replace ((elements dialect).reverse.map fun (element, meaning) => (meaning, element)) meaning

def preferred (dialect : Dialect) (s : String) : String :=
  write dialect (replace (elements dialect) s)

end EntityMap.Sql.TimeFormat
