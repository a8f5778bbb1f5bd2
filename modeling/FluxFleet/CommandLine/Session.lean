import FluxFleet.CommandLine.Invocation
import FluxFleet.FileSystem.Tree

/-!
# Sessions: what a running command reads and leaves

A command reads and changes files, prints, and logs. All of that stays when it fails.

Without a level only warnings and more serious messages are logged, as they are; with one, messages
from that level on are logged with their level and their origin.
-/

namespace FluxFleet.CommandLine

/-- The surroundings of a running command. -/
structure Console where
  level : Option Level := none
  files : FileSystem
  /-- what was printed -/
  output : String := ""
  /-- what was logged -/
  errors : String := ""
deriving Repr

/-- A running command. -/
abbrev Session := ExceptT Error (StateM Console)

namespace Session

/-- Print a text. -/
def print (text : String) : Session Unit :=
  modify fun c => { c with output := c.output ++ text }

/-- The line of a message in the log, if it is logged. -/
def logLine (threshold : Option Level) (level : Level) (origin message : String) : String :=
  match threshold with
  | none => if Level.warning.rank ≤ level.rank then message ++ "\n" else ""
  | some t => if t.rank ≤ level.rank then s!"{level.name}:{origin}:{message}\n" else ""

/-- Log a message. -/
def log (level : Level) (origin message : String) : Session Unit :=
  modify fun c => { c with errors := c.errors ++ logLine c.level level origin message }

/-- A path that an option is to give. -/
def path : Option Path → Session Path
  | some p => return p
  | none => throw (.wrongArgument "expected str, bytes or os.PathLike object, not list")

end Session

end FluxFleet.CommandLine
