import ChipEight.Display
import ChipEight.Machine.Memory
import Mathlib.Algebra.Ring.Parity
import Mathlib.Data.List.Nodup

/-!
Sprites on the display. A cell that is flipped twice is as before, so behind some flips a cell is
turned over if it was flipped an odd number of times. No cell stands twice in a sprite that is not
higher than the display; so a sprite turns each of its cells over, and it erases those that were set
before the first flip.
-/

namespace ChipEight

namespace Display

variable (d : Display) (c e : Cell) (cells : List Cell)

/-- What was erased before some flips is remembered behind them. -/
theorem foldl_flip (erased : Bool) :
    cells.foldl (fun (d, erased) c => (d.toggle c, erased || d.isSet c)) (d, erased) =
      ((d.flip cells).1, erased || (d.flip cells).2) := by
  induction cells generalizing d erased with
  | nil => simp [flip]
  | cons c cells ih =>
    have hflip : d.flip (c :: cells) = cells.foldl
        (fun (d, erased) c => (d.toggle c, erased || d.isSet c)) (d.toggle c, d.isSet c) := rfl
    rw [List.foldl_cons, ih, hflip, ih, Bool.or_assoc]

theorem flip_cons :
    d.flip (c :: cells) =
      (((d.toggle c).flip cells).1, d.isSet c || ((d.toggle c).flip cells).2) := by
  rw [flip, List.foldl_cons, foldl_flip, Bool.false_or]

/-- A cell is turned over as often as it is flipped. -/
theorem isSet_flip : (d.flip cells).1.isSet c = (d.isSet c ^^ decide (Odd (cells.count c))) := by
  induction cells generalizing d with
  | nil => simp [flip]
  | cons e cells ih =>
    rw [flip_cons, ih, isSet_toggle, List.count_cons]
    by_cases h : c = e
    · subst h
      rw [if_pos rfl, if_pos (beq_self_eq_true c), Bool.not_xor]
      by_cases hodd : Odd (cells.count c) <;> simp [Nat.odd_add_one, hodd]
    · have hne : ¬ e = c := fun heq => h heq.symm
      simp [h, hne]

/-- Flips that are all of different cells turn each of these over. -/
theorem isSet_flip_of_nodup (h : cells.Nodup) :
    (d.flip cells).1.isSet c = (d.isSet c ^^ decide (c ∈ cells)) := by
  rw [isSet_flip, h.count]
  by_cases hc : c ∈ cells <;> simp [hc]

/-- Flips that are all of different cells find each of these as it was at first. -/
theorem erased_flip_of_nodup (h : cells.Nodup) :
    (d.flip cells).2 = true ↔ ∃ c ∈ cells, d.isSet c = true := by
  induction cells generalizing d with
  | nil => simp [flip]
  | cons c cells ih =>
    rw [List.nodup_cons] at h
    rw [flip_cons, Bool.or_eq_true, ih _ h.2, List.exists_mem_cons_iff]
    refine or_congr_right (exists_congr fun e => and_congr_right fun he => ?_)
    rw [isSet_toggle, if_neg (ne_of_mem_of_not_mem he h.1)]

/-- Flips of different cells erase something exactly if a cell was set before and is not behind. -/
theorem erased_flip_iff (h : cells.Nodup) :
    (d.flip cells).2 = true ↔ ∃ c, d.isSet c = true ∧ (d.flip cells).1.isSet c = false := by
  rw [erased_flip_of_nodup d cells h]
  refine exists_congr fun c => ?_
  rw [isSet_flip_of_nodup d c cells h]
  cases d.isSet c <;> simp

theorem dirty_flip : (d.flip cells).1.dirty = (d.dirty || !cells.isEmpty) := by
  induction cells generalizing d with
  | nil => simp [flip]
  | cons c cells ih => simp [flip_cons, ih, toggle]

end Display

namespace Sprite

variable (memory : Memory) (index : UInt16) (x y count : Nat)

/-- The cells of a sprite in memory, row by row. -/
theorem cells_readAll :
    cells x y (memory.readAll index count) =
      (List.range count).flatMap fun r =>
        (columns (memory.read (index + UInt16.ofNat r))).map fun c =>
          Cell.wrapped (x + c) (y + r) := by
  have hzip : (List.range count).zipIdx = (List.range count).map fun r => (r, r) := by
    apply List.ext_getElem <;> simp
  rw [cells, Memory.readAll, List.zipIdx_map, hzip, List.map_map, List.flatMap_map]
  rfl

/-- Whether a sprite in memory sets column `k` of its row `r`. -/
def hasBit (memory : Memory) (index : UInt16) (r k : Nat) : Bool :=
  (memory.read (UInt16.ofNat ((index.toNat + r) % 4096))).toNat.testBit (7 - k)

/-- Whether a cell belongs to a sprite of `count` rows in memory, drawn at `x` and `y`. -/
def Covers (memory : Memory) (index : UInt16) (x y count : Nat) (c : Cell) : Prop :=
  ∃ r < count, ∃ k < 8,
    c.x.val = (x + k) % 64 ∧ c.y.val = (y + r) % 32 ∧ hasBit memory index r k = true

instance (memory : Memory) (index : UInt16) (x y count : Nat) (c : Cell) :
    Decidable (Covers memory index x y count c) :=
  inferInstanceAs (Decidable (∃ r < count, ∃ k < 8,
    c.x.val = (x + k) % 64 ∧ c.y.val = (y + r) % 32 ∧ hasBit memory index r k = true))

theorem mem_columns_iff (r k : Nat) :
    k ∈ columns (memory.read (index + UInt16.ofNat r)) ↔
      k < 8 ∧ hasBit memory index r k = true := by
  rw [columns, List.mem_filter, List.mem_range, hasBit, Memory.read_add]

theorem mem_cells_iff (c : Cell) :
    c ∈ cells x y (memory.readAll index count) ↔ Covers memory index x y count c := by
  have hcell : ∀ k r, Cell.wrapped (x + k) (y + r) = c ↔
      c.x.val = (x + k) % 64 ∧ c.y.val = (y + r) % 32 := by
    intro k r
    obtain ⟨cx, cy⟩ := c
    simp [Cell.wrapped, Fin.ext_iff, eq_comm]
  simp only [cells_readAll, List.mem_flatMap, List.mem_range, List.mem_map, mem_columns_iff, hcell,
    Covers]
  grind

/-- No cell stands twice in a sprite that is not higher than the display. -/
theorem nodup_cells (hcount : count ≤ 32) :
    (cells x y (memory.readAll index count)).Nodup := by
  rw [cells_readAll, List.nodup_flatMap]
  constructor
  · -- a row has eight columns, too few to come round to the same cell
    intro r _
    refine List.Nodup.map_on ?_ (List.nodup_range.filter _)
    intro k hk j hj heq
    have hlt := (List.mem_range.mp (List.mem_of_mem_filter hk))
    have hlt' := (List.mem_range.mp (List.mem_of_mem_filter hj))
    simp [Cell.wrapped, Fin.ext_iff] at heq
    omega
  · -- rows that are less than the height apart are different rows of the display
    refine List.pairwise_lt_range.imp_of_mem fun {r q} hr hq hlt => ?_
    rw [List.mem_range] at hr hq
    intro c hc hc'
    obtain ⟨k, -, rfl⟩ := List.mem_map.mp hc
    obtain ⟨j, -, heq⟩ := List.mem_map.mp hc'
    simp [Cell.wrapped, Fin.ext_iff] at heq
    omega

end Sprite

end ChipEight
