/-!
The instruction set. An instruction is one of 35 families with its operands: registers `x` and
`y`, a row count `n`, a byte `nn`, an address `nnn`. The word of each is in its comment, with
lower-case letters for the operand digits.
-/

namespace ChipEight

/-- The last hexadecimal digit of a number, which tells a register or a key. -/
def lowDigit (number : Nat) : Fin 16 := ⟨number % 16, Nat.mod_lt number (by decide)⟩

/-- A 16-bit instruction word. -/
abbrev Word := UInt16

namespace Word

/-- The second hexadecimal digit, a register number. -/
def x (w : Word) : Nat := w.toNat / 0x100 % 0x10

/-- The third hexadecimal digit, a register number. -/
def y (w : Word) : Nat := w.toNat / 0x10 % 0x10

/-- The last hexadecimal digit. -/
def n (w : Word) : UInt8 := UInt8.ofNat (w.toNat % 0x10)

/-- The low byte. -/
def nn (w : Word) : UInt8 := UInt8.ofNat (w.toNat % 0x100)

/-- The low twelve bits, an address. -/
def nnn (w : Word) : UInt16 := UInt16.ofNat (w.toNat % 0x1000)

theorem x_lt (w : Word) : w.x < 16 := by unfold x; omega

theorem y_lt (w : Word) : w.y < 16 := by unfold y; omega

end Word

/-- The kinds of instruction, named for what they do. -/
inductive Family where
  | native | clear | ret | jump | call
  | skipIfByte | skipUnlessByte | skipIfSame | skipUnlessSame
  | setByte | addByte
  | copy | or | and | xor | add | subtract | shiftRight | subtractFrom | shiftLeft
  | setIndex | jumpOffset | random | draw
  | skipIfKey | skipUnlessKey
  | getDelay | awaitKey | setDelay | setSound
  | addIndex | glyph | decimal | store | load
  deriving DecidableEq

/-- An instruction with its operands. -/
inductive Instruction where
  /-- `0nnn`: a native routine, which is not run -/
  | native (nnn : UInt16)
  /-- `00E0`: clears the screen -/
  | clear
  /-- `00EE`: returns to behind the last call -/
  | ret
  /-- `1nnn`: goes to `nnn` -/
  | jump (nnn : UInt16)
  /-- `2nnn`: calls the subroutine at `nnn` -/
  | call (nnn : UInt16)
  /-- `3xnn`: skips if `Vx` is `nn` -/
  | skipIfByte (x : Nat) (nn : UInt8)
  /-- `4xnn`: skips unless `Vx` is `nn` -/
  | skipUnlessByte (x : Nat) (nn : UInt8)
  /-- `5xy0`: skips if `Vx` is `Vy` -/
  | skipIfSame (x y : Nat)
  /-- `6xnn`: `Vx` becomes `nn` -/
  | setByte (x : Nat) (nn : UInt8)
  /-- `7xnn`: adds `nn` to `Vx`, leaving the flag -/
  | addByte (x : Nat) (nn : UInt8)
  /-- `8xy0`: `Vx` becomes `Vy` -/
  | copy (x y : Nat)
  /-- `8xy1`: `Vx` becomes `Vx` or `Vy`, bit by bit -/
  | or (x y : Nat)
  /-- `8xy2`: `Vx` becomes `Vx` and `Vy`, bit by bit -/
  | and (x y : Nat)
  /-- `8xy3`: `Vx` becomes the bits in which `Vx` and `Vy` differ -/
  | xor (x y : Nat)
  /-- `8xy4`: adds `Vy` to `Vx` with carry -/
  | add (x y : Nat)
  /-- `8xy5`: takes `Vy` from `Vx` -/
  | subtract (x y : Nat)
  /-- `8xy6`: halves `Vx`; `y` is ignored -/
  | shiftRight (x : Nat)
  /-- `8xy7`: `Vx` becomes `Vy` less `Vx` -/
  | subtractFrom (x y : Nat)
  /-- `8xyE`: doubles `Vx`; `y` is ignored -/
  | shiftLeft (x : Nat)
  /-- `9xy0`: skips unless `Vx` is `Vy` -/
  | skipUnlessSame (x y : Nat)
  /-- `Annn`: the index becomes `nnn` -/
  | setIndex (nnn : UInt16)
  /-- `Bnnn`: goes to `nnn` plus `V0` -/
  | jumpOffset (nnn : UInt16)
  /-- `Cxnn`: `Vx` becomes a random number below `nn` -/
  | random (x : Nat) (nn : UInt8)
  /-- `Dxyn`: draws the `n` rows at the index at column `Vx`, row `Vy` -/
  | draw (x y : Nat) (n : UInt8)
  /-- `Ex9E`: skips if the key of `Vx` is down -/
  | skipIfKey (x : Nat)
  /-- `ExA1`: skips unless the key of `Vx` is down -/
  | skipUnlessKey (x : Nat)
  /-- `Fx07`: `Vx` becomes the delay timer -/
  | getDelay (x : Nat)
  /-- `Fx0A`: waits for a key and puts it into `Vx` -/
  | awaitKey (x : Nat)
  /-- `Fx15`: sets the delay timer to `Vx` -/
  | setDelay (x : Nat)
  /-- `Fx18`: sets the sound timer to `Vx` -/
  | setSound (x : Nat)
  /-- `Fx1E`: adds `Vx` to the index -/
  | addIndex (x : Nat)
  /-- `Fx29`: points the index at the glyph of `Vx` -/
  | glyph (x : Nat)
  /-- `Fx33`: writes the decimal digits of `Vx` at the index -/
  | decimal (x : Nat)
  /-- `Fx55`: writes `V0` to `Vx` to memory at the index -/
  | store (x : Nat)
  /-- `Fx65`: reads `V0` to `Vx` from memory at the index -/
  | load (x : Nat)
  deriving DecidableEq

end ChipEight
