import ChipEight.Event
import ChipEight.Terminal.Key

/-!
What the keys of a terminal mean: some control the run, and the left-hand side of the keyboard is
the keypad.
-/

namespace ChipEight.Host

open Terminal

/-- The characters of the keypad's keys, in the order of the keys. -/
def keyMap : List (Char × Fin 16) := "x123qweasdzc4rfv".toList.zip (List.finRange 16)

/-- The keypad key of a character, in either case of an ASCII letter. -/
def mapKey? (c : Char) : Option (Fin 16) :=
  (keyMap.find? fun (mapped, _) => mapped = c.toLower).map (·.2)

/-- What a key event asks for. -/
inductive Command where
  | quit
  | pause
  | restart
  | key (key : Fin 16) (pressed : Bool)
  | none
  deriving DecidableEq

/-- The command of a character. -/
def charCommand (c : Char) (pressed : Bool) : Command :=
  match mapKey? c with
  | some key => .key key pressed
  | Option.none => .none

/-- The command of a key event. Escape and control-C quit, pressed or not. -/
def command (e : KeyEvent) : Command :=
  let pressed := e.action ≠ .release
  match e.code with
  | .escape => .quit
  | .char c =>
    if c = 'c' ∧ e.modifiers.control then .quit
    else if c = ' ' ∧ pressed then .pause
    else charCommand c pressed
  | .function number => if number = 5 ∧ pressed then .restart else .none
  | .other => .none

/-- The events of a key event: a character without a meaning is logged. -/
def commandEvents (e : KeyEvent) : List Event :=
  match e.code, command e with
  | .char c, .none => [.keyUnmapped c]
  | _, _ => []

end ChipEight.Host
