import ChipEight.Keypad
import ChipEight.Outcome

/-!
Keys on terminals that never report a release. A key counts as held for a while after it was last
pressed; where releases are reported, nothing expires. Times are in nanoseconds.
-/

namespace ChipEight.Host

/-- How long a key counts as held. -/
def holdTime : Nat := 150000000

/-- When each key went down, for keys that did not come up, and whether that expires. -/
structure KeyHold where
  pressedAt : Vector (Option Nat) 16
  expires : Bool
  deriving DecidableEq

/-- Moves a key of the keypad; a key that it does not have is logged. -/
def moveKey (keypad : Keypad) (key : Nat) (pressed : Bool) : Outcome Keypad Unit :=
  match keypad.set key pressed with
  | .ok keypad => ⟨keypad, [], ()⟩
  | .error e => ⟨keypad, [.keyRefused e], ()⟩

namespace KeyHold

/-- No key held. -/
def new (expires : Bool) : KeyHold := ⟨Vector.replicate 16 none, expires⟩

/-- A key goes down. -/
def press (h : KeyHold) (keypad : Keypad) (key : Fin 16) (now : Nat) : KeyHold × Keypad :=
  ({ h with pressedAt := h.pressedAt.setIfInBounds key (some now) }, (moveKey keypad key true).state)

/-- A key comes up. -/
def release (h : KeyHold) (keypad : Keypad) (key : Fin 16) : KeyHold × Keypad :=
  ({ h with pressedAt := h.pressedAt.setIfInBounds key none }, (moveKey keypad key false).state)

/-- Whether the hold on a key has run out; a time before the press counts as none since it. -/
def isOver (h : KeyHold) (now : Nat) (key : Fin 16) : Bool :=
  match h.pressedAt.get key with
  | some pressed => holdTime ≤ now - pressed
  | none => false

/-- Lets the keys come up whose hold has run out. -/
def expire (h : KeyHold) (keypad : Keypad) (now : Nat) : KeyHold × Keypad :=
  if h.expires then
    ({ h with pressedAt := Vector.ofFn fun key => if h.isOver now key then none else h.pressedAt.get key },
      ⟨Vector.ofFn fun key => keypad.keys.get key && !h.isOver now key⟩)
  else (h, keypad)

end KeyHold

end ChipEight.Host
