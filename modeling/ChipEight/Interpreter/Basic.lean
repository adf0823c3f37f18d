import ChipEight.Config
import ChipEight.Display
import ChipEight.Generator.Basic
import ChipEight.Keypad
import ChipEight.Machine.Arithmetic

/-!
The interpreter: a machine with its display, keypad and random numbers. What a host may do to it
between instructions is here; running instructions is in the modules beside this one.
-/

namespace ChipEight

/-- The generator that a configuration starts with. Without a seed its key is `entropy`, which comes
from outside and can be any. -/
def Config.generator (config : Config) (entropy : StreamKey) : Generator :=
  match config.seed with
  | some seed => .ofSeed seed
  | none => ⟨entropy, 0⟩

/-- The state of an interpreter. -/
structure Interpreter where
  machine : Machine
  display : Display
  keypad : Keypad
  generator : Generator
  awaitKey : AwaitKey
  /-- The addresses of native calls that were reported since the last reset. -/
  reported : List UInt16
  deriving DecidableEq

namespace Interpreter

/-- An interpreter without a program. -/
def new (config : Config) (entropy : StreamKey) : Interpreter where
  machine := .initial
  display := .blank
  keypad := .released
  generator := config.generator entropy
  awaitKey := config.awaitKey
  reported := []

/-- Puts all back to the start except the random numbers. -/
def reset (s : Interpreter) : Outcome Interpreter Unit :=
  s.machine.reset.inside fun machine =>
    { s with machine := machine, display := s.display.clear, keypad := .released, reported := [] }

/-- Copies a program to the load address and goes there. -/
def load (s : Interpreter) (program : List UInt8) : Outcome Interpreter (Except LoadError Unit) :=
  (s.machine.load program).inside fun machine => { s with machine := machine }

/-- Goes back to the load address. -/
def rewind (s : Interpreter) : Interpreter :=
  { s with machine := { s.machine with pc := loadAddress } }

/-- Moves a key. -/
def setKey (s : Interpreter) (key : Nat) (pressed : Bool) : Except KeyError Interpreter :=
  (s.keypad.set key pressed).map fun keypad => { s with keypad := keypad }

/-- Counts both timers down once. -/
def tickTimers (s : Interpreter) : Interpreter := { s with machine := s.machine.tickTimers }

/-- Whether the display changed since this was last asked. -/
def takeDirty (s : Interpreter) : Outcome Interpreter Bool :=
  ⟨{ s with display := s.display.takeDirty.2 }, [], s.display.takeDirty.1⟩

end Interpreter

end ChipEight
