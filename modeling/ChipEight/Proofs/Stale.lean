import ChipEight.Proofs.Footprint

/-!
What is left in memory from earlier does not show. Where two interpreters differ at some cells only
and the one reads none of them, both run alike: what is written is the same in both, so no difference
spreads. Loading a program leaves what memory held around it, which is the case of interest.
-/

namespace ChipEight.Interpreter

variable {A : Set (Fin 4096)} {s t : Interpreter} {m : Memory} {word : Word} {n : Nat}

@[simp] theorem display_withMemory (s : Interpreter) (m : Memory) :
    (s.withMemory m).display = s.display := rfl

/-- Two interpreters differ at most in what memory holds at the cells in `A`. -/
structure AgreeOff (A : Set (Fin 4096)) (s t : Interpreter) : Prop where
  rest_eq : t = s.withMemory t.machine.memory
  memory_agree : Memory.AgreeOff A t.machine.memory s.machine.memory

theorem AgreeOff.exists_memory (h : s.AgreeOff A t) :
    ∃ m, t = s.withMemory m ∧ Memory.AgreeOff A m s.machine.memory :=
  ⟨t.machine.memory, h.rest_eq, h.memory_agree⟩

/-- An interpreter into whose memory some bytes were written differs there alone. -/
theorem agreeOff_writeAll (s : Interpreter) (address : UInt16) (bytes : List UInt8) :
    s.AgreeOff {a | a ∈ Memory.span address bytes.length}
      (s.withMemory (s.machine.memory.writeAll address bytes)) :=
  ⟨rfl, fun _ ha => Memory.get_writeAll_of_notMem ha⟩

/-! ### A cycle -/

/-- The word is the same in any memory that holds its two bytes. -/
theorem word?_withMemory (hw : s.word? = some word)
    (h : ∀ a ∈ s.reads, m.get a = s.machine.memory.get a) :
    (s.withMemory m).word? = some word := by
  have hpc := pc_le_of_word hw
  have hfirst : m.read s.machine.pc = s.machine.memory.read s.machine.pc :=
    h _ (by simp [reads, hw])
  have hsecond : m.read (s.machine.pc + 1) = s.machine.memory.read (s.machine.pc + 1) :=
    h _ (by simp [reads, hw])
  rw [word?, Memory.wordAt?_eq_some hpc, ← hfirst, ← hsecond] at hw
  exact (Memory.wordAt?_eq_some hpc).trans hw

/-- A cycle that reads nothing in `A` ends alike in both, and they still differ in `A` alone. -/
theorem AgreeOff.cycle (h : s.AgreeOff A t) (hreads : ∀ a ∈ s.reads, a ∉ A) :
    t.cycle.result = s.cycle.result ∧ t.cycle.events = s.cycle.events ∧
      s.cycle.state.AgreeOff A t.cycle.state := by
  obtain ⟨m, rfl, hm⟩ := h.exists_memory
  have hread : ∀ a ∈ s.reads, m.get a = s.machine.memory.get a := fun a ha => hm a (hreads a ha)
  cases hw : s.word? with
  | none =>
    have hw' : (s.withMemory m).word? = none := by
      rw [word?_eq_none_iff] at hw ⊢
      exact hw
    rw [cycle_of_no_word hw, cycle_of_no_word hw']
    exact ⟨rfl, rfl, h⟩
  | some word =>
    have hw' := word?_withMemory hw hread
    cases hd : decode word with
    | none =>
      rw [cycle_of_no_instruction hw hd, cycle_of_no_instruction hw' hd]
      exact ⟨rfl, rfl, h⟩
    | some i =>
      have hoperands : ∀ a ∈ s.operandCells i, m.get a = s.machine.memory.get a := by
        intro a ha
        refine hread a ?_
        simp [reads, hw, hd, ha]
      have hp' := s.perform_withMemory m word hoperands
      cases hp : s.perform word i with
      | error halt =>
        rw [hp] at hp'
        rw [cycle_of_halt hw hd hp, cycle_of_halt hw' hd hp']
        exact ⟨rfl, rfl, h⟩
      | ok e =>
        rw [hp] at hp'
        rw [cycle_of_effect hw hd hp, cycle_of_effect hw' hd hp']
        refine ⟨rfl, rfl, rfl, fun a ha => ?_⟩
        -- both memories get the same bytes
        have hwritten := hm.writeAll s.machine.index (s.stored i) a fun hmem => ha hmem.1
        exact hwritten.trans (congrArg (fun m : Memory => m.get a) (memory_of_perform hp).symm)

/-! ### Cycles in a row -/

/-- The first `n` cycles tell the same in both, and behind them both differ in `A` alone. -/
structure AlikeOff (A : Set (Fin 4096)) (n : Nat) (s t : Interpreter) : Prop where
  result_eq : ∀ j < n, (t.cycled j).cycle.result = (s.cycled j).cycle.result
  events_eq : ∀ j < n, (t.cycled j).cycle.events = (s.cycled j).cycle.events
  agreeOff : (s.cycled n).AgreeOff A (t.cycled n)

theorem AgreeOff.alikeOff (h : s.AgreeOff A t)
    (hreads : ∀ j < n, ∀ a ∈ (s.cycled j).reads, a ∉ A) : AlikeOff A n s t := by
  induction n generalizing s t with
  | zero => exact ⟨fun j hj => absurd hj j.not_lt_zero, fun j hj => absurd hj j.not_lt_zero, h⟩
  | succ n ih =>
    rw [Nat.forall_lt_succ_left] at hreads
    obtain ⟨hresult, hevents, hstate⟩ := h.cycle hreads.1
    obtain ⟨hresults, hall, hagree⟩ := ih hstate hreads.2
    exact ⟨Nat.forall_lt_succ_left.mpr ⟨hresult, hresults⟩,
      Nat.forall_lt_succ_left.mpr ⟨hevents, hall⟩, hagree⟩

/-- Loading a program makes both alike where it stands. -/
theorem AgreeOff.load (h : s.AgreeOff A t) {program : List UInt8}
    (hfit : program.length ≤ programCapacity) :
    (s.load program).state.AgreeOff {a ∈ A | ¬ InProgram program a} (t.load program).state := by
  obtain ⟨m, rfl, hm⟩ := h.exists_memory
  have hload : ∀ u : Interpreter, (u.load program).state =
      { u with machine := { u.machine with
        memory := u.machine.memory.writeAll loadAddress program
        pc := loadAddress } } := by
    intro u
    rw [Interpreter.load, Machine.load, if_pos hfit]
    rfl
  rw [hload, hload]
  refine ⟨rfl, fun a ha => hm.writeAll loadAddress program a fun hmem => ha ⟨hmem.1, ?_⟩⟩
  exact (Memory.mem_span_load_iff hfit a).not.mp hmem.2

/-- What memory holds at cells that are not read does not matter. Cycles that read none of the cells
at which two interpreters differ tell the same in both, whatever they write and wherever they fault.
So it is with what is left around a program from earlier ones. -/
theorem unread_memory_does_not_matter (A : Set (Fin 4096)) (s t : Interpreter)
    (h : s.AgreeOff A t) :
    (∀ n, (∀ j < n, ∀ a ∈ (s.cycled j).reads, a ∉ A) → AlikeOff A n s t) ∧
      ∀ (program : List UInt8) (n : Nat), program.length ≤ programCapacity →
        let around := {a ∈ A | ¬ InProgram program a}
        (∀ j < n, ∀ a ∈ ((s.load program).state.cycled j).reads, a ∉ around) →
          AlikeOff around n (s.load program).state (t.load program).state := by
  refine ⟨fun n hreads => h.alikeOff hreads, ?_⟩
  intro program n hfit around hreads
  exact (h.load hfit).alikeOff hreads

/-- Stores a register at `0x300`, draws a glyph of the font and spins: `A300`, `F055`, `A000`, `D005`,
`1208`. -/
def storeAndDraw : List UInt8 := [0xA3, 0x00, 0xF0, 0x55, 0xA0, 0x00, 0xD0, 0x05, 0x12, 0x08]

/-- An interpreter in whose memory two bytes are left at `0x300`. -/
def leftover : Interpreter :=
  (Interpreter.new {} .zeros).withMemory
    ((Interpreter.new {} .zeros).machine.memory.writeAll 0x300 [0xAA, 0xBB])

theorem storeAndDraw_ignores_leftover :
    (Interpreter.new {} .zeros).AgreeOff {a | a ∈ Memory.span 0x300 2} leftover ∧
      ((leftover.load storeAndDraw).state.cycled 6).display =
        (((Interpreter.new {} .zeros).load storeAndDraw).state.cycled 6).display := by
  have h : (Interpreter.new {} .zeros).AgreeOff {a | a ∈ Memory.span 0x300 2} leftover :=
    agreeOff_writeAll _ 0x300 [0xAA, 0xBB]
  have hreads : ((List.range 6).all fun j =>
      (((Interpreter.new {} .zeros).load storeAndDraw).state.cycled j).reads.all
        (· ∉ Memory.span 0x300 2)) = true := by
    decide +kernel
  simp only [List.all_eq_true, List.mem_range, decide_eq_true_eq] at hreads
  have halike := (unread_memory_does_not_matter _ _ _ h).2 storeAndDraw 6 (by decide)
    fun j hj a ha hmem => hreads j hj a ha hmem.1
  refine ⟨h, ?_⟩
  rw [halike.agreeOff.rest_eq, display_withMemory]

end ChipEight.Interpreter
