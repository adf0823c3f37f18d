import ChipEight.Fault

/-!
The keypad: sixteen keys, each up or down on its own.
-/

namespace ChipEight

/-- Which keys are down. -/
structure Keypad where
  keys : Vector Bool 16
  deriving DecidableEq

namespace Keypad

/-- All keys up. -/
def released : Keypad := ⟨Vector.replicate 16 false⟩

/-- Moves a key, if the keypad has it. -/
def set (k : Keypad) (key : Nat) (pressed : Bool) : Except KeyError Keypad :=
  if h : key < 16 then .ok ⟨k.keys.set key pressed⟩ else .error ⟨key⟩

/-- Whether the key of the low four bits of `key` is down. -/
def isPressed (k : Keypad) (key : UInt8) : Bool := k.keys.get (lowDigit key.toNat)

/-- The keys that are down, in rising order. -/
def pressed (k : Keypad) : List UInt8 :=
  ((List.range 16).map UInt8.ofNat).filter k.isPressed

/-- The lowest key that is down. -/
def firstPressed (k : Keypad) : Option UInt8 := k.pressed.head?

end Keypad

end ChipEight
