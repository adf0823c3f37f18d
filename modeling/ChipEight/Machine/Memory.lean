/-!
Memory: 4096 bytes. A computed address is taken modulo the size; a word can only be fetched
where both of its bytes lie inside.
-/

namespace ChipEight

/-- The bytes of memory. -/
abbrev Memory := Vector UInt8 4096

namespace Memory

/-- Memory full of zeros. -/
def zero : Memory := Vector.replicate 4096 0

/-- The cell that an address selects. -/
def cell (address : UInt16) : Fin 4096 := Fin.ofNat 4096 address.toNat

/-- The byte at `address`. -/
def read (m : Memory) (address : UInt16) : UInt8 := m[cell address]

/-- Puts `byte` at `address`. -/
def write (m : Memory) (address : UInt16) (byte : UInt8) : Memory := m.set (cell address) byte

/-- Puts `bytes` at `address` and the addresses after it. -/
def writeAll (m : Memory) (address : UInt16) : List UInt8 → Memory
  | [] => m
  | byte :: rest => (m.write address byte).writeAll (address + 1) rest

/-- The `count` bytes from `address` on. -/
def readAll (m : Memory) (address : UInt16) (count : Nat) : List UInt8 :=
  (List.range count).map fun k => m.read (address + UInt16.ofNat k)

/-- The big-endian word at `address`, unless it would pass the end. -/
def wordAt? (m : Memory) (address : UInt16) : Option UInt16 :=
  if h : address.toNat + 1 < 4096 then
    some (UInt16.ofNat (m[address.toNat].toNat * 0x100 + m[address.toNat + 1].toNat))
  else none

/-- The cell that is `k` behind an address. -/
theorem val_cell_add (a : UInt16) (k : Nat) :
    (cell (a + UInt16.ofNat k)).val = (a.toNat + k) % 4096 := by
  rw [cell, Fin.val_ofNat, UInt16.toNat_add, UInt16.toNat_ofNat']
  omega

/-- The byte that is `k` behind an address. -/
theorem read_add (m : Memory) (a : UInt16) (k : Nat) :
    m.read (a + UInt16.ofNat k) = m.read (UInt16.ofNat ((a.toNat + k) % 4096)) := by
  have hcell : cell (a + UInt16.ofNat k) = cell (UInt16.ofNat ((a.toNat + k) % 4096)) := by
    rw [Fin.ext_iff, val_cell_add, cell, Fin.val_ofNat, UInt16.toNat_ofNat']
    omega
  exact congrArg m.get hcell

/-- No word begins at the last cell or outside memory. -/
theorem wordAt?_eq_none_iff (m : Memory) (a : UInt16) : m.wordAt? a = none ↔ 4095 ≤ a.toNat := by
  simp [wordAt?]

end Memory

end ChipEight
