/-!
What a terminal reports: keys that go down, repeat or come up, and a change of its size.
-/

namespace ChipEight.Terminal

/-- A key, as far as it matters which one it is. -/
inductive KeyCode where
  | char (c : Char)
  | escape
  | function (number : Nat)
  | other
  deriving DecidableEq

/-- What a key does. -/
inductive KeyAction where
  | press
  | again
  | release
  deriving DecidableEq

/-- The modifier keys that are down. -/
structure Modifiers where
  shift : Bool := false
  alt : Bool := false
  control : Bool := false
  deriving DecidableEq

/-- A key event. -/
structure KeyEvent where
  code : KeyCode
  action : KeyAction := .press
  modifiers : Modifiers := {}
  deriving DecidableEq

/-- What a terminal reports. -/
inductive Input where
  | key (event : KeyEvent)
  | resized
  | other
  deriving DecidableEq

end ChipEight.Terminal
