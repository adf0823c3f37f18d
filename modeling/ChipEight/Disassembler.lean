import ChipEight.Address
import ChipEight.CommandLine.Value
import ChipEight.Listing
import ChipEight.Logging
import ChipEight.Rom

/-!
The disassembler as a program: its command line, and what a run prints.
-/

namespace ChipEight.Disassembler

/-- The settings of a run. -/
structure Options where
  rom : String
  origin : UInt16
  deriving DecidableEq

/-- Options while they are read. -/
structure Draft where
  rom : Option String := none
  origin : UInt16 := loadAddress

/-- An origin is the text of a memory address. -/
def originValue (value : String) : Except UsageError UInt16 :=
  match Address.parse value with
  | .ok origin => .ok origin
  | .error _ => .error .malformedValue

/-- The options of the command line. -/
def grammar : CommandLine.Grammar Draft where
  options := [
    ⟨"rom", fun value draft => do return { draft with rom := some (← CommandLine.path value) }⟩,
    ⟨"origin", fun value draft => do return { draft with origin := ← originValue value }⟩]
  operands := []

/-- Reads a command line without the program's name. -/
def Options.parse (arguments : List String) : Except UsageError Options := do
  let draft ← CommandLine.parse grammar {} arguments
  match draft.rom with
  | some rom => return ⟨rom, draft.origin⟩
  | none => throw .missingArgument

/-- The events of a run: an unusual origin is mentioned. -/
def Options.events (o : Options) : List Event :=
  if o.origin = loadAddress then [] else [.listingFrom o.origin]

/-- Lists the content of the image file, logging down to `limit`. -/
def report (o : Options) (limit : Option Level) (content : Except FileError (List UInt8)) :
    ProgramReport :=
  match Rom.ofFile content with
  | .error e => .failure ("error reading Chip-8 ROM: " ++ e.message ++ "\n")
  | .ok rom => { output := Listing.text rom.code o.origin, errors := logText limit o.events }

/-- A whole run among some files. `wish` is the level that the environment asks for. -/
def run (files : Files) (wish : Option String) (arguments : List String) :
    Except UsageError ProgramReport := do
  let o ← Options.parse arguments
  return report o (logLimit .warn wish) (files.read o.rom)

end ChipEight.Disassembler
