/-!
The display: 64 columns and 32 rows of cells that are zero or one, and a flag that tells whether
anything was changed since the flag was last taken. Drawing flips cells.
-/

namespace ChipEight

/-- A place on the display: a column and a row. -/
structure Cell where
  x : Fin 64
  y : Fin 32
  deriving DecidableEq

namespace Cell

/-- The cell at a column and a row that lie on the display. -/
def at? (x y : Nat) : Option Cell :=
  if h : x < 64 ∧ y < 32 then some ⟨⟨x, h.1⟩, ⟨y, h.2⟩⟩ else none

/-- The cell at a column and a row that wrap around the edges. -/
def wrapped (x y : Nat) : Cell := ⟨Fin.ofNat 64 x, Fin.ofNat 32 y⟩

/-- The position of a cell when the rows stand behind one another. -/
def offset (c : Cell) : Fin 2048 := ⟨c.y.val * 64 + c.x.val, by omega⟩

end Cell

/-- The cells, row behind row, and whether they were touched. -/
structure Display where
  cells : Vector UInt8 2048
  dirty : Bool
  binary : ∀ i : Fin 2048, cells[i] = 0 ∨ cells[i] = 1
  deriving DecidableEq

namespace Display

/-- A blank display that nobody touched. -/
def blank : Display := ⟨Vector.replicate 2048 0, false, by simp⟩

/-- What a cell holds. -/
def cell (d : Display) (c : Cell) : UInt8 := d.cells[c.offset]

theorem cell_zero_or_one (d : Display) (c : Cell) : d.cell c = 0 ∨ d.cell c = 1 :=
  d.binary c.offset

/-- Whether a cell is set. -/
def isSet (d : Display) (c : Cell) : Bool := d.cell c = 1

/-- What a cell holds tells whether it is set, and nothing else. -/
theorem cell_eq (d : Display) (c : Cell) : d.cell c = if d.isSet c then 1 else 0 := by
  rcases d.cell_zero_or_one c with h | h <;> simp [isSet, h]

/-- A cell holds the same on two displays if it is set on both or on neither. -/
theorem cell_eq_iff_isSet_eq {d e : Display} (c : Cell) :
    d.cell c = e.cell c ↔ d.isSet c = e.isSet c := by
  rw [d.cell_eq, e.cell_eq]
  cases d.isSet c <;> cases e.isSet c <;> simp

/-- Flips a cell. -/
def toggle (d : Display) (c : Cell) : Display where
  cells := d.cells.set c.offset (d.cell c ^^^ 1)
  dirty := true
  binary i := by
    simp only [Fin.getElem_fin, Vector.getElem_set]
    split
    · rcases d.cell_zero_or_one c with h | h
      · exact .inr (by rw [h]; rfl)
      · exact .inl (by rw [h]; rfl)
    · exact d.binary i

/-- Clears every cell. -/
def clear (_ : Display) : Display := ⟨Vector.replicate 2048 0, true, by simp⟩

/-- The flag of changes, and the display with the flag lowered. -/
def takeDirty (d : Display) : Bool × Display := (d.dirty, { d with dirty := false })

/-- The cells of row `y` from the left. -/
def row (d : Display) (y : Fin 32) : List Bool :=
  (List.finRange 64).map fun x => d.isSet ⟨x, y⟩

/-- The rows from the top. -/
def rows (d : Display) : List (List Bool) := (List.finRange 32).map d.row

/-- Flips cells one after the other, and tells whether any of them was set before its flip. -/
def flip (d : Display) (cells : List Cell) : Display × Bool :=
  cells.foldl (fun (d, erased) c => (d.toggle c, erased || d.isSet c)) (d, false)

@[simp] theorem isSet_clear (d : Display) (c : Cell) : d.clear.isSet c = false := by
  simp [isSet, cell, clear]

/-- A flip changes its cell and no other. -/
theorem isSet_toggle (d : Display) (c e : Cell) :
    (d.toggle c).isSet e = if e = c then !d.isSet c else d.isSet e := by
  have : c.offset.val = e.offset.val ↔ e = c := by
    obtain ⟨⟨x, hx⟩, ⟨y, hy⟩⟩ := c
    obtain ⟨⟨x', hx'⟩, ⟨y', hy'⟩⟩ := e
    simp only [Cell.offset, Cell.mk.injEq, Fin.mk.injEq]
    omega
  simp only [isSet, cell, toggle, Fin.getElem_fin, Vector.getElem_set, this]
  split
  · rcases d.binary c.offset with h | h <;> simp only [Fin.getElem_fin] at h <;> simp [h]
  · rfl

/-- A flipped cell is zero if it was set before. -/
theorem toggle_cell_eq_zero_iff (d : Display) (c : Cell) :
    (d.toggle c).cell c = 0 ↔ d.isSet c = true := by
  simp only [isSet, cell, toggle, Fin.getElem_fin, Vector.getElem_set_self]
  rcases d.binary c.offset with h | h <;> simp only [Fin.getElem_fin] at h <;> simp [h]

end Display

namespace Sprite

/-- The columns that a row of a sprite sets; the highest bit is the leftmost column. -/
def columns (row : UInt8) : List Nat := (List.range 8).filter fun c => row.toNat.testBit (7 - c)

/-- The cells of a sprite at column `x`, row `y`, in the order in which they are drawn. -/
def cells (x y : Nat) (rows : List UInt8) : List Cell :=
  rows.zipIdx.flatMap fun (row, r) => (columns row).map fun c => Cell.wrapped (x + c) (y + r)

end Sprite

end ChipEight
