import ChipEight.Disassembler
import ChipEight.Host.Program

/-!
The command line. Under the name `dis8` the program lists an image; under any other name it runs one
on the terminal, which should be in raw mode so that keys arrive one by one.
-/

namespace ChipEight.Main

/-- Where lines of the log go. -/
abbrev LogSink := IO.FS.Stream

/-- The environment variable that names the least grave level to log. -/
def logVariable : String := "RUST_LOG"

/-- The cause of a failed file operation. -/
def fileError : IO.Error → FileError
  | .noFileOrDirectory _ _ _ => .notFound
  | .inappropriateType _ code _ => if code = 20 then .notDirectory else .isDirectory
  | .invalidArgument _ 36 _ => .nameTooLong
  | e => .other (toString e)

/-- The bytes of a file. -/
def readFile (path : String) : IO (Except FileError (List UInt8)) := do
  try return .ok (← IO.FS.readBinFile path).toList
  catch e => return .error (fileError e)

/-- Answers a command line that is not accepted. -/
def refuse : UsageError → IO UInt32
  | .help => do
    IO.println "usage: chip8vm ROM | dis8 --rom BINARY"
    return 0
  | .version => do
    IO.println "0.1.0"
    return 0
  | _ => do
    IO.eprintln "error: the command line is not accepted, try --help"
    return 2

/-- Runs the disassembler. -/
def disassemble (arguments : List String) : IO UInt32 := do
  match Disassembler.Options.parse arguments with
  | .error e => refuse e
  | .ok o =>
    let limit := logLimit .warn (← IO.getEnv logVariable)
    let report := Disassembler.report o limit (← readFile o.rom)
    IO.eprint report.errors
    IO.print report.output
    return report.status.toUInt32

/-- Collects what is typed. -/
partial def listen (input : IO.FS.Stream) (typed : IO.Ref ByteArray) : IO Unit := do
  let bytes ← input.read 64
  if bytes.isEmpty then return
  typed.modify (· ++ bytes)
  listen input typed

/-- What was typed since the last call. -/
def takeTyped (typed : IO.Ref ByteArray) : IO (List UInt8) := do
  let bytes ← typed.modifyGet fun bytes => (bytes, .empty)
  return bytes.toList

/-- Shows a reaction. -/
def present (log : LogSink) (limit : Option Level) (r : Host.Reaction) : IO Unit := do
  IO.print r.output
  (← IO.getStdout).flush
  log.putStr (logText limit r.events)
  log.flush

/-- Runs a session up to its end; `waiting` are bytes that begin an input. -/
partial def serve (log : LogSink) (limit : Option Level) (typed : IO.Ref ByteArray)
    (s : Host.Session) (inputs : List Terminal.Input) (waiting : List UInt8) :
    IO (Host.Session × Host.Ending) := do
  let now ← IO.monoNanosNow
  let (fresh, waiting) := Terminal.Keyboard.inputs waiting (← takeTyped typed)
  let (r, inputs) := match inputs ++ fresh with
    | input :: rest => (s.step now input, rest)
    | [] => (s.pass now, [])
  present log limit r
  match r.ending with
  | some ending => return (r.session, ending)
  | none =>
    if inputs.isEmpty then IO.sleep 1
    serve log limit typed r.session inputs waiting

/-- Runs an image on the terminal. -/
def runOnTerminal (log : LogSink) (o : Host.Options) (limit : Option Level) (rom : Rom) :
    IO UInt32 := do
  let entropy := StreamKey.ofBytes (← IO.getRandomBytes 32).toList
  let typed ← IO.mkRef ByteArray.empty
  let _ ← IO.asTask (listen (← IO.getStdin) typed) .dedicated
  let r := Host.Session.enter (.new o.config entropy) rom false (← IO.monoNanosNow)
  present log limit r
  let (s, ending) ← serve log limit typed r.session [] []
  IO.print (Terminal.Screen.leave false)
  (← IO.getStdout).flush
  IO.eprint (s.lastWords ending)
  return ending.status.toUInt32

/-- The place of the log: a new file, or the standard error stream. -/
def openLog : Option String → IO (Except FileError LogSink)
  | none => return .ok (← IO.getStderr)
  | some path => do
    try return .ok (.ofHandle (← IO.FS.Handle.mk path .write))
    catch e => return .error (fileError e)

/-- Runs the terminal host. -/
def host (arguments : List String) : IO UInt32 := do
  match Host.Options.parse arguments with
  | .error e => refuse e
  | .ok o =>
    match ← openLog o.logFile with
    | .error e => do
      IO.eprint (Host.logFailure e)
      return 1
    | .ok log =>
      match Rom.ofFile (← readFile o.rom) with
      | .error e => do
        IO.eprint (Host.romFailure e)
        return 1
      | .ok rom => do
        if ← (← IO.getStdout).isTty then
          runOnTerminal log o (o.limit (← IO.getEnv logVariable)) rom
        else
          IO.eprint Host.noTerminal
          return 1

end ChipEight.Main

/-- Chooses the program by the name it is called by. -/
def main (arguments : List String) : IO UInt32 := do
  if (← IO.appPath).fileName = some "dis8" then ChipEight.Main.disassemble arguments
  else ChipEight.Main.host arguments
