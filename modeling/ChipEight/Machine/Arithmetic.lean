import ChipEight.Machine.Basic

/-!
Register arithmetic and the moves between registers and memory. Sums and differences write the
flag last, so it wins if `x` is the flag register; shifts write it first and then shift what
`Vx` holds by then.
-/

namespace ChipEight.Machine

/-- Adds `Vy` to `Vx`; the flag tells a carry. -/
def add (m : Machine) (x y : Nat) : Machine :=
  (m.setReg x (m.reg x + m.reg y)).setFlag (255 < (m.reg x).toNat + (m.reg y).toNat)

/-- Takes `Vy` from `Vx`; the flag tells that nothing was borrowed. -/
def subtract (m : Machine) (x y : Nat) : Machine :=
  (m.setReg x (m.reg x - m.reg y)).setFlag (m.reg y ≤ m.reg x)

/-- Puts `Vy` less `Vx` into `Vx`; the flag tells that nothing was borrowed. -/
def subtractFrom (m : Machine) (x y : Nat) : Machine :=
  (m.setReg x (m.reg y - m.reg x)).setFlag (m.reg x ≤ m.reg y)

/-- Moves the low bit of `Vx` into the flag and then halves `Vx`. -/
def shiftRight (m : Machine) (x : Nat) : Machine :=
  let flagged := m.setFlag (m.reg x &&& 1 = 1)
  flagged.setReg x (flagged.reg x >>> 1)

/-- Moves the high bit of `Vx` into the flag and then doubles `Vx`. -/
def shiftLeft (m : Machine) (x : Nat) : Machine :=
  let flagged := m.setFlag (128 ≤ m.reg x)
  flagged.setReg x (flagged.reg x <<< 1)

/-- Writes the three decimal digits of `byte` at the index. -/
def writeDecimal (m : Machine) (byte : UInt8) : Machine :=
  ((m.write m.index (byte / 100)).write (m.index + 1) (byte / 10 % 10)).write (m.index + 2)
    (byte % 10)

/-- Writes register `r` to memory, `r` above the index. -/
def storeReg (m : Machine) (r : Nat) : Machine := m.write (m.index + UInt16.ofNat r) (m.reg r)

/-- Reads register `r` from memory, `r` above the index. -/
def loadReg (m : Machine) (r : Nat) : Machine := m.setReg r (m.read (m.index + UInt16.ofNat r))

/-- Writes `V0` to `Vx` to memory. -/
def storeRegs (m : Machine) (x : Nat) : Machine := (List.range (x + 1)).foldl storeReg m

/-- Reads `V0` to `Vx` from memory. -/
def loadRegs (m : Machine) (x : Nat) : Machine := (List.range (x + 1)).foldl loadReg m

end ChipEight.Machine
