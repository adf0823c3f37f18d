import ChipEight.Host.Options
import ChipEight.Host.Script
import ChipEight.Logging

/-!
The terminal host as a program: it opens its log, reads the image, and runs a session.
-/

namespace ChipEight.Host

/-- A terminal with its user. -/
structure Console where
  /-- Whether it has the keyboard protocol that reports released keys. -/
  enhanced : Bool
  script : List Act
  deriving DecidableEq

/-- The exit status behind an ending. -/
def Ending.status : Ending → UInt8
  | .quit => 0
  | .halted _ => 1

/-- The registers as a list of hexadecimal bytes. -/
def registerText (m : Machine) : String :=
  "[" ++ ", ".intercalate (m.registers.toList.map fun v => Text.hex 2 v.toNat) ++ "]"

/-- What is said behind an ending. -/
def Session.lastWords (s : Session) : Ending → String
  | .quit => ""
  | .halted .outOfRange => "error: arithmetic out of range\n"
  | .halted (.fault fault) =>
    "error: " ++ fault.message ++ "\nhalted at " ++ Text.hexLiteral 3 fault.pc.toNat
      ++ ", registers " ++ registerText s.clock.interpreter.machine ++ "\n"

/-- The least grave level that a run logs. Without a log file the log shares the terminal with the
display, so only errors are shown unless more is asked for. -/
def Options.limit (o : Options) (wish : Option String) : Option Level :=
  logLimit (if o.logFile.isSome then .warn else .error) wish

/-- The report of a session that ended after writing `output`. The log goes to its file, if there is
one, and else stands before the last words. -/
def sessionReport (logPlace : Option Place) (output log lastWords : String) (ending : Ending) :
    ProgramReport :=
  match logPlace with
  | some place => ⟨ending.status, output, lastWords, some (place, log)⟩
  | none => ⟨ending.status, output, log ++ lastWords, none⟩

/-- The turns after which a scripted user gives up. -/
def patience : Nat := 100000

/-- Runs an image on a console from time zero, logging down to `limit`, to a place if there is one. -/
def runSession (o : Options) (limit : Option Level) (logPlace : Option Place) (rom : Rom)
    (entropy : StreamKey) (console : Console) : ProgramReport :=
  let scene := Scene.start limit (Session.enter (.new o.config entropy) rom console.enhanced 0)
  let (scene, ending) := scene.play patience console.script
  let output := String.join (Terminal.Screen.leave console.enhanced :: scene.written).reverse
  let log := logText limit scene.logged.reverse
  sessionReport logPlace output log (scene.session.lastWords ending) ending

/-- What is said where there is no terminal. -/
def noTerminal : String := "error: No such device or address (os error 6)\n"

/-- What is said when the log file cannot be made. -/
def logFailure (e : FileError) : String := "error opening log file: " ++ e.message ++ "\n"

/-- What is said when there is no image. -/
def romFailure (e : RomError) : String := "error reading Chip-8 ROM: " ++ e.message ++ "\n"

/-- Makes the log file, if one is asked for, and tells its place. -/
def openLog (files : Files) : Option String → Except FileError (Option Place × Files)
  | none => .ok (none, files)
  | some path => do
    let (place, files) ← files.create path
    return (some place, files)

/-- A whole run among some files. The log file is made before the image is read. `wish` is the level
that the environment asks for. -/
def run (files : Files) (console : Option Console) (wish : Option String) (entropy : StreamKey)
    (arguments : List String) : Except UsageError ProgramReport := do
  let o ← Options.parse arguments
  match openLog files o.logFile with
  | .error e => return .failure (logFailure e)
  | .ok (logPlace, files) =>
    let failure message := { ProgramReport.failure message with
      logFile := logPlace.map fun place => (place, "") }
    match Rom.ofFile (files.read o.rom), console with
    | .error e, _ => return failure (romFailure e)
    | .ok _, none => return failure noTerminal
    | .ok rom, some console => return runSession o (o.limit wish) logPlace rom entropy console

end ChipEight.Host
