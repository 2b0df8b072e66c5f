import EntityMap.Build
import EntityMap.Script
import EntityMap.ScriptFile
import EntityMap.Sql.Interpretation
import EntityMap.Sql.Script

/-!
Schemas from scripts, given as text or as a file.
-/

namespace EntityMap

abbrev SqlGrammar (ε : Type) := Script.Grammar ε Sql.Command

def Script.Parsed.interpret (parsed : Script.Parsed Sql.Command) : List Statement :=
  Sql.statements parsed.dialect parsed.statements

namespace Schema

def ofScript {ε : Type} (grammar : SqlGrammar ε) (configured : List String)
    (script : Option String) (names : Option (List (Option String))) :
    Except Script.ParseError Schema :=
  (Script.parse grammar configured script names).map fun parsed => build parsed.interpret

inductive FileError where
  | missing (path : String)
  | encoding
  | parse (cause : Script.ParseError)
  deriving DecidableEq, Repr

def FileError.message? : FileError → Option String
  | missing path => some ("SQL file not found: " ++ path)
  | encoding => none
  | parse cause => some cause.message

/-- The schema of the script in a file, given what the file holds if it is there. -/
def ofFile {ε : Type} (grammar : SqlGrammar ε) (configured : List String) (path : String)
    (content : Option ByteArray) (names : Option (List (Option String))) :
    Except FileError Schema :=
  match content with
  | none => .error (.missing path)
  | some bytes => match ScriptFile.read? bytes with
    | none => .error .encoding
    | some script => (ofScript grammar configured (some script) names).mapError .parse

end Schema

end EntityMap
