/-!
Scripts in files: UTF-8, perhaps with a byte order mark, with any of the usual line ends.
-/

namespace EntityMap.ScriptFile

def withoutMark (text : String) : String :=
  match text.toList with
  | '\uFEFF' :: rest => String.ofList rest
  | _ => text

/-- The text of a file that holds valid UTF-8, without one byte order mark at its start. -/
def decode? (bytes : ByteArray) : Option String := (String.fromUTF8? bytes).map withoutMark

/-- Line ends as line feeds: a carriage return stands for one, alone or before a line feed. -/
def unifyLineEnds : List Char → List Char
  | [] => []
  | '\r' :: '\n' :: rest => '\n' :: unifyLineEnds rest
  | c :: rest => (if c = '\r' then '\n' else c) :: unifyLineEnds rest

def read? (bytes : ByteArray) : Option String :=
  (decode? bytes).map fun text => String.ofList (unifyLineEnds text.toList)

end EntityMap.ScriptFile
