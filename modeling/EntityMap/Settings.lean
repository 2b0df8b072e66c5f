import EntityMap.Text.Case
import EntityMap.Text.Digit

/-!
Settings of the service. Each is read from a text that may be missing, and has a value of its own
where the text is missing or makes no sense.
-/

namespace EntityMap

structure SettingTexts where
  dialects : Option String
  logLevel : Option String
  origins : Option String
  maxBytes : Option String
  deriving Inhabited

abbrev LogLevel := Int

def LogLevel.names : List (String × LogLevel) := [
  ("CRITICAL", 50), ("FATAL", 50), ("ERROR", 40), ("WARN", 30), ("WARNING", 30), ("INFO", 20),
  ("DEBUG", 10), ("NOTSET", 0)]

structure Settings where
  dialects : List String
  logLevel : LogLevel
  origins : List String
  maxBytes : Int
  deriving DecidableEq, Inhabited, Repr

namespace Settings

/-- The items of a list with commas between them, without white space and without empty items. -/
def items (s : String) : List String :=
  ((Text.splitAt ',' s.toList).map Text.trim).filterMap fun item =>
    if item.isEmpty then none else some (String.ofList item)

def defaultLogLevel : LogLevel := 20

/-- The greatest size without a setting: five mebibytes. -/
def defaultMaxBytes : Int := 5 * 1024 * 1024

def logLevelOfName (name : String) : LogLevel :=
  (LogLevel.names.lookup (Text.upper name)).getD defaultLogLevel

def ofTexts (t : SettingTexts) : Settings where
  dialects := items (t.dialects.getD "mysql,postgres,tsql")
  logLevel := logLevelOfName (t.logLevel.getD "INFO")
  origins := items (t.origins.getD "http://localhost:3000,http://localhost:5173")
  maxBytes := (t.maxBytes.bind Text.readInt?).getD defaultMaxBytes

end Settings

end EntityMap
