import EntityMap.Settings

/-!
The channels of the log. All lie below one root; a channel keeps the level that it was opened with.
-/

namespace EntityMap

/-- A channel of the log. Its messages go to its own output only, from its level on. -/
structure Channel where
  name : String
  level : LogLevel
  deriving DecidableEq, Inhabited, Repr

structure Journal where
  root : String
  channels : List Channel
  deriving DecidableEq, Inhabited, Repr

namespace Journal

/-- The full name of a channel: below the root, unless it is already. -/
def fullName (root name : String) : String :=
  if name == root || (root ++ ".").isPrefixOf name then name else root ++ "." ++ name

/-- Opens a channel at a level, or finds the open one of this name, which is not changed. -/
def channel (j : Journal) (name : String) (level : LogLevel) : Channel × Journal :=
  let name := fullName j.root name
  match j.channels.find? (·.name == name) with
  | some c => (c, j)
  | none => (⟨name, level⟩, { j with channels := j.channels ++ [⟨name, level⟩] })

end Journal

end EntityMap
