import ChipEight.CommandLine.Value
import ChipEight.Config

/-!
The command line of the terminal host.
-/

namespace ChipEight.Host

/-- The settings of a run. -/
structure Options where
  rom : String
  config : Config
  logFile : Option String
  deriving DecidableEq

/-- Options while they are read. -/
structure Draft where
  rom : Option String := none
  config : Config := {}
  logFile : Option String := none

/-- How to wait for a key is one of two words. -/
def awaitKeyValue : String → Except UsageError AwaitKey
  | "block" => .ok .block
  | "poll" => .ok .poll
  | _ => .error .notAllowed

/-- An option that changes the configuration. -/
def configOption {β : Type} (name : String) (value : String → Except UsageError β)
    (assign : β → Config → Config) : CommandLine.Parameter Draft :=
  ⟨name, fun text draft => do return { draft with config := assign (← value text) draft.config }⟩

/-- The options and the operand of the command line. -/
def grammar : CommandLine.Grammar Draft where
  options := [
    configOption "tick-hz" CommandLine.number32 fun n c => { c with tickHz := n },
    configOption "cycles-per-tick" CommandLine.number32 fun n c => { c with cyclesPerTick := n },
    configOption "await-key" awaitKeyValue fun a c => { c with awaitKey := a },
    configOption "seed" CommandLine.number64 fun n c => { c with seed := some n },
    ⟨"log-file", fun value draft => do
      return { draft with logFile := some (← CommandLine.path value) }⟩]
  operands := [
    ⟨"rom", fun value draft => do return { draft with rom := some (← CommandLine.path value) }⟩]

/-- Reads a command line without the program's name. -/
def Options.parse (arguments : List String) : Except UsageError Options := do
  let draft ← CommandLine.parse grammar {} arguments
  match draft.rom with
  | some rom => return ⟨rom, draft.config, draft.logFile⟩
  | none => throw .missingArgument

end ChipEight.Host
