import ChipEight.Event
import ChipEight.Files

/-!
Logs of programs: which events are shown, the text of a log, and what a program leaves behind.
-/

namespace ChipEight

/-- The level that a name stands for, in either case; `off` shows nothing. -/
def Level.limit? (name : String) : Option (Option Level) :=
  match String.ofList (name.toList.map Char.toLower) with
  | "off" => some none
  | "error" => some (some .error)
  | "warn" => some (some .warn)
  | "info" => some (some .info)
  | "debug" => some (some .debug)
  | "trace" => some (some .trace)
  | _ => none

/-- The least grave level shown: the one asked for, else the usual one. An empty wish shows errors and
a name that is no level shows nothing. -/
def logLimit (usual : Level) : Option String → Option Level
  | none => some usual
  | some "" => some .error
  | some name => (Level.limit? name).getD none

/-- The text of the shown events, a line each. -/
def logText (limit : Option Level) (events : List Event) : String :=
  String.join ((events.filter (·.shownAt limit)).map fun e => e.logLine ++ "\n")

/-- What a program leaves behind: its exit status and what it wrote. -/
structure ProgramReport where
  status : UInt8 := 0
  output : String := ""
  errors : String := ""
  /-- The place and content of the log file, if one was made. -/
  logFile : Option (Place × String) := none
  deriving DecidableEq

/-- The report of a program that failed with a message. -/
def ProgramReport.failure (message : String) : ProgramReport := { status := 1, errors := message }

end ChipEight
