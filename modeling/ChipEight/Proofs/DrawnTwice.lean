import ChipEight.Proofs.Drawing

/-!
A sprite drawn twice. The second drawing turns the same cells over as the first, so it leaves the
display as it was before both, and what it erases is what the first one set. In between the flag
register has changed, which is why neither coordinate may stand in it.
-/

namespace ChipEight

namespace Sprite

variable (memory : Memory) (index : UInt16) (x y : Nat) {count : Nat} (d : Display)

theorem isSet_drawn_drawn (hcount : count ≤ 32) (c : Cell) :
    (drawn memory index x y count (drawn memory index x y count d).1).1.isSet c = d.isSet c := by
  rw [isSet_drawn memory index x y _ hcount, isSet_drawn memory index x y d hcount, Bool.xor_assoc,
    Bool.xor_self, Bool.xor_false]

/-- The second drawing erases a cell if the first one set it. -/
theorem erased_drawn_drawn (hcount : count ≤ 32) :
    (drawn memory index x y count (drawn memory index x y count d).1).2 = true ↔
      ∃ c, d.isSet c = false ∧ (drawn memory index x y count d).1.isSet c = true := by
  rw [erased_drawn memory index x y _ hcount]
  refine exists_congr fun c => ?_
  rw [isSet_drawn_drawn memory index x y d hcount, and_comm]

end Sprite

namespace Interpreter

variable {s : Interpreter} {w : Word}

/-- Drawing leaves memory, so a word that stood somewhere before stands there still. -/
theorem word?_goTo_of_draw (hw : s.word? = some w) (hd : w &&& 0xF000 = 0xD000) (pc : UInt16) :
    (s.cycle.state.goTo pc).word? = s.machine.memory.wordAt? pc := by
  rw [cycle_of_draw hw hd]
  rfl

/-- If no coordinate stands in the flag register, the second drawing is of the same sprite at the
same place. -/
theorem drawing_goTo_of_draw (hw : s.word? = some w) (hd : w &&& 0xF000 = 0xD000)
    (hx : w.x ≠ flagRegister) (hy : w.y ≠ flagRegister) (pc : UInt16) :
    (s.cycle.state.goTo pc).drawing w =
      Sprite.drawn s.machine.memory s.machine.index (s.machine.reg w.x).toNat
        (s.machine.reg w.y).toNat w.n.toNat (s.drawing w).1 := by
  rw [← s.machine.reg_setFlag_of_ne (s.drawing w).2 w.x_lt hx,
    ← s.machine.reg_setFlag_of_ne (s.drawing w).2 w.y_lt hy, cycle_of_draw hw hd]
  rfl

/-- Where a word that draws is executed a second time, be it in the next place, in the same one or
in another, every cell of the display is as it was before the first time, and the flag register
tells whether the first time set a cell. -/
theorem draw_twice_restores (s : Interpreter) (w : Word) (hw : s.word? = some w)
    (hd : w &&& 0xF000 = 0xD000) (hx : w.x ≠ flagRegister) (hy : w.y ≠ flagRegister) (pc : UInt16)
    (hpc : s.machine.memory.wordAt? pc = some w) :
    let once := s.cycle.state
    let twice := (once.goTo pc).cycle.state
    s.cycle.result = .ok () ∧ once = once.goTo (s.machine.pc + 2) ∧
      (once.goTo pc).cycle.result = .ok () ∧
      (∀ c, twice.display.cell c = s.display.cell c) ∧
      (twice.machine.reg flagRegister = 1 ↔
        ∃ c, s.display.isSet c = false ∧ once.display.isSet c = true) := by
  intro once twice
  have hcount : w.n.toNat ≤ 32 := by
    have hn := w.n_lt
    omega
  have hfirst := cycle_of_draw hw hd
  have hsecond := cycle_of_draw ((word?_goTo_of_draw hw hd pc).trans hpc) hd
  have hdrawing := drawing_goTo_of_draw hw hd hx hy pc
  have honce : once.display = (s.drawing w).1 := by
    simp only [once, hfirst]
  have hdisplay : twice.display = ((once.goTo pc).drawing w).1 := by
    simp only [twice, once, hsecond]
  have hflag : twice.machine.reg flagRegister = 1 ↔ ((once.goTo pc).drawing w).2 = true := by
    have hset : twice.machine.reg flagRegister =
        if ((once.goTo pc).drawing w).2 then 1 else 0 := by
      simp only [twice, once, hsecond]
      exact Machine.reg_setFlag ..
    rw [hset]
    cases ((once.goTo pc).drawing w).2 <;> decide
  refine ⟨?_, ?_, ?_, fun c => ?_, ?_⟩
  · rw [hfirst]
  · simp only [once, hfirst]
    rfl
  · simp only [once, hsecond]
  · rw [hdisplay, hdrawing, Display.cell_eq, Display.cell_eq,
      ← Sprite.isSet_drawn_drawn s.machine.memory s.machine.index (s.machine.reg w.x).toNat
        (s.machine.reg w.y).toNat s.display hcount c]
    rfl
  · rw [hflag, hdrawing, honce]
    exact Sprite.erased_drawn_drawn s.machine.memory s.machine.index (s.machine.reg w.x).toNat
      (s.machine.reg w.y).toNat s.display hcount

/-- `D012` stands twice in a row, and its sprite takes cells around the corner of the display of
which one is set. -/
def drawnOverCorner : Interpreter :=
  let blank := Interpreter.new {} .zeros
  { blank with
    machine := { blank.machine with
      memory := (Memory.zero.writeAll 0x200 [0xD0, 0x12, 0xD0, 0x12]).writeAll 0xFFF [0x81, 0x40]
      registers := Vector.replicate 16 63
      index := 0xFFFF }
    display := blank.display.toggle (.wrapped 63 31) }

theorem drawnOverCorner_twice_restores :
    drawnOverCorner.word? = some 0xD012 ∧ drawnOverCorner.cycle.state.word? = some 0xD012 ∧
      drawnOverCorner.cycle.state.cycle.state.display.cell ⟨63, 31⟩ = 1 ∧
      drawnOverCorner.cycle.state.cycle.state.machine.reg 15 = 1 := by
  have hw : drawnOverCorner.word? = some 0xD012 := by decide +kernel
  have hnext : drawnOverCorner.cycle.state.word? = some 0xD012 := by decide +kernel
  obtain ⟨-, hbehind, -, hcell, hflag⟩ := draw_twice_restores drawnOverCorner 0xD012 hw (by decide)
    (by decide) (by decide) 0x202 (by decide +kernel)
  have hpc : drawnOverCorner.machine.pc + 2 = 0x202 := by decide +kernel
  rw [hpc] at hbehind
  rw [← hbehind] at hcell hflag
  refine ⟨hw, hnext, ?_, hflag.mpr ⟨⟨6, 31⟩, ?_, ?_⟩⟩
  · rw [hcell]
    decide +kernel
  · decide +kernel
  · decide +kernel

end Interpreter

end ChipEight
