import ChipEight.Proofs.Cycle
import ChipEight.Proofs.Sprite

/-!
What drawing leaves on the display. The cells that the sprite covers are turned over, wherever the
edges and the end of memory are; what was set and is not any more counts as erased, and the flag
register tells whether anything was. The coordinates are read before the flag is written, so the
flag register can be one of them.
-/

namespace ChipEight

namespace Display

/-- A cell that was set is not any more. -/
def Erased (before behind : Display) : Prop :=
  ∃ c, before.isSet c = true ∧ behind.isSet c = false

end Display

namespace Sprite

variable (memory : Memory) (index : UInt16) (x y : Nat) {count : Nat} (d : Display)

/-- A display with a sprite of memory drawn on it, and whether that erased a cell. -/
def drawn (memory : Memory) (index : UInt16) (x y count : Nat) (d : Display) : Display × Bool :=
  d.flip (cells x y (memory.readAll index count))

/-- A sprite turns the cells over that it covers. -/
theorem isSet_drawn (hcount : count ≤ 32) (c : Cell) :
    (drawn memory index x y count d).1.isSet c =
      (d.isSet c ^^ decide (Covers memory index x y count c)) := by
  rw [drawn, Display.isSet_flip_of_nodup d c _ (nodup_cells memory index x y count hcount)]
  simp only [mem_cells_iff]

theorem cell_drawn (hcount : count ≤ 32) (c : Cell) :
    (drawn memory index x y count d).1.cell c =
      d.cell c ^^^ (if Covers memory index x y count c then 1 else 0) := by
  rw [Display.cell_eq, isSet_drawn memory index x y d hcount, Display.cell_eq]
  by_cases h : Covers memory index x y count c <;> cases d.isSet c <;> simp [h]

/-- No cell is hit twice, so what is erased is seen by the display before and behind. -/
theorem erased_drawn (hcount : count ≤ 32) :
    (drawn memory index x y count d).2 = true ↔ d.Erased (drawn memory index x y count d).1 :=
  d.erased_flip_iff _ (nodup_cells memory index x y count hcount)

/-- A sprite has cells if a bit of it is set. -/
theorem exists_mem_cells_iff :
    (∃ c, c ∈ cells x y (memory.readAll index count)) ↔
      ∃ r < count, ∃ k < 8, hasBit memory index r k = true := by
  simp only [mem_cells_iff, Covers]
  constructor
  · rintro ⟨c, r, hr, k, hk, -, -, hbit⟩
    exact ⟨r, hr, k, hk, hbit⟩
  · rintro ⟨r, hr, k, hk, hbit⟩
    exact ⟨Cell.wrapped (x + k) (y + r), r, hr, k, hk, rfl, rfl, hbit⟩

theorem dirty_drawn :
    (drawn memory index x y count d).1.dirty = true ↔
      d.dirty = true ∨ ∃ r < count, ∃ k < 8, hasBit memory index r k = true := by
  rw [drawn, Display.dirty_flip, Bool.or_eq_true, Bool.not_eq_true',
    List.isEmpty_eq_false_iff_exists_mem, exists_mem_cells_iff]

end Sprite

namespace Interpreter

variable {s : Interpreter} {w : Word}

/-- The display behind a word that draws, and whether it erases a cell. -/
def drawing (s : Interpreter) (w : Word) : Display × Bool :=
  Sprite.drawn s.machine.memory s.machine.index (s.machine.reg w.x).toNat (s.machine.reg w.y).toNat
    w.n.toNat s.display

theorem cycle_of_draw (hw : s.word? = some w) (hd : w &&& 0xF000 = 0xD000) :
    s.cycle =
      ⟨{ s with
          machine := { s.machine.setFlag (s.drawing w).2 with pc := s.machine.pc + 2 }
          display := (s.drawing w).1 },
        [.executing s.machine.pc w (.draw w.x w.y w.n)], .ok ()⟩ := by
  have hdecode : decode w = some (.draw w.x w.y w.n) :=
    decode_of_mask .draw (by decide) (by decide) hd
  rw [cycle_of_effect hw hdecode rfl]
  rfl

/-- Drawing turns over the cells that the sprite covers, raises the display's flag if there is a bit
to draw, tells in the flag register whether a cell was erased, and goes on. Nothing else changes.
The coordinates are those that the registers hold before. -/
theorem draw_turns_covered_cells (s : Interpreter) (w : Word) (hw : s.word? = some w)
    (hd : w &&& 0xF000 = 0xD000) :
    let m := s.machine
    let x := (m.reg w.x).toNat
    let y := (m.reg w.y).toNat
    let t := s.cycle.state
    s.cycle.result = .ok () ∧
    (∀ c, t.display.cell c =
      s.display.cell c ^^^ (if Sprite.Covers m.memory m.index x y w.n.toNat c then 1 else 0)) ∧
    (s.display.Erased t.display → t.machine.reg flagRegister = 1) ∧
    (¬ s.display.Erased t.display → t.machine.reg flagRegister = 0) ∧
    (∀ r < 16, r ≠ flagRegister → t.machine.reg r = m.reg r) ∧
    (t.display.dirty = true ↔ s.display.dirty = true ∨
      ∃ r < w.n.toNat, ∃ k < 8, Sprite.hasBit m.memory m.index r k = true) ∧
    t = { s with
      machine := { m with registers := t.machine.registers, pc := m.pc + 2 }
      display := t.display } := by
  intro m x y t
  have hcount : w.n.toNat ≤ 32 := by
    have hn := w.n_lt
    omega
  have hcycle := cycle_of_draw hw hd
  have hdisplay : t.display = (s.drawing w).1 := by
    simp only [t, hcycle]
  have hreg : ∀ r, t.machine.reg r = (m.setFlag (s.drawing w).2).reg r := by
    intro r
    simp only [t, hcycle]
    rfl
  have herased : (s.drawing w).2 = true ↔ s.display.Erased t.display := by
    rw [hdisplay]
    exact Sprite.erased_drawn m.memory m.index x y s.display hcount
  refine ⟨?_, fun c => ?_, fun h => ?_, fun h => ?_, fun r hr hne => ?_, ?_, ?_⟩
  · rw [hcycle]
  · rw [hdisplay]
    exact Sprite.cell_drawn m.memory m.index x y s.display hcount c
  · rw [hreg, herased.mpr h]
    simp [Machine.setFlag, Machine.reg_setReg]
  · rw [← herased, Bool.not_eq_true] at h
    rw [hreg, h]
    simp [Machine.setFlag, Machine.reg_setReg]
  · rw [flagRegister] at hne
    rw [hreg, Machine.setFlag, Machine.reg_setReg, Nat.mod_eq_of_lt hr, flagRegister, if_neg hne]
  · rw [hdisplay]
    exact Sprite.dirty_drawn m.memory m.index x y s.display
  · simp only [t, hcycle]
    rfl

/-- One register is both coordinates and the flag of a sprite that begins in the last byte of memory
and in the last cell of the display, which is set. -/
def cornerSprite : Interpreter :=
  let blank := Interpreter.new {} .zeros
  { blank with
    machine := { blank.machine with
      memory := (Memory.zero.writeAll 0x200 [0xDF, 0xF2]).writeAll 0xFFF [0x81, 0x40]
      registers := Vector.replicate 16 63
      index := 0xFFFF }
    display := blank.display.toggle (.wrapped 63 31) }

theorem cornerSprite_turns_covered_cells :
    cornerSprite.word? = some 0xDFF2 ∧
      cornerSprite.cycle.state.display.cell ⟨63, 31⟩ = 0 ∧
      cornerSprite.cycle.state.display.cell ⟨6, 31⟩ = 1 ∧
      cornerSprite.cycle.state.display.cell ⟨0, 0⟩ = 1 ∧
      cornerSprite.cycle.state.machine.reg 15 = 1 := by
  have hw : cornerSprite.word? = some 0xDFF2 := by decide +kernel
  obtain ⟨-, hcell, hflag, -⟩ := draw_turns_covered_cells cornerSprite 0xDFF2 hw (by decide)
  have hcorner : cornerSprite.cycle.state.display.cell ⟨63, 31⟩ = 0 := by
    rw [hcell]
    decide +kernel
  have hset : cornerSprite.display.isSet ⟨63, 31⟩ = true := by decide +kernel
  refine ⟨hw, hcorner, ?_, ?_, hflag ⟨⟨63, 31⟩, hset, ?_⟩⟩
  · rw [hcell]
    decide +kernel
  · rw [hcell]
    decide +kernel
  · rw [Display.isSet, hcorner]
    rfl

end Interpreter

end ChipEight
