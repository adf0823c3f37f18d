import ChipEight.Interpreter.Cycle
import ChipEight.Proofs.Effects

/-!
The ways of a cycle. There is an equation for each way a cycle can end, and one relation, `Way`, of
all results and states that a cycle can have: it halts, calls, returns, or passes a plain
instruction. What cycles keep is shown by cases on the way.
-/

namespace ChipEight

/-- The state behind an effect of the instruction at `pc`. -/
def Effect.arrive (e : Effect) (pc : UInt16) : Interpreter :=
  { e.state with machine := { e.state.machine with pc := e.flow.destination pc } }

namespace Interpreter

variable {s : Interpreter} {word : Word} {i : Instruction}

/-- The same interpreter with the program counter at `pc`. -/
def goTo (s : Interpreter) (pc : UInt16) : Interpreter :=
  { s with machine := { s.machine with pc := pc } }

/-- The word at the program counter. -/
def word? (s : Interpreter) : Option Word := s.machine.memory.wordAt? s.machine.pc

theorem word?_eq_none_iff : s.word? = none ↔ 0xFFF ≤ s.machine.pc := by
  rw [word?, Memory.wordAt?_eq_none_iff, UInt16.le_iff_toNat_le]
  rfl

theorem pc_le_of_word (h : s.word? = some word) : s.machine.pc ≤ 0xFFE := by
  have hne : ¬ s.word? = none := by simp [h]
  rw [word?_eq_none_iff, UInt16.le_iff_toNat_le] at hne
  rw [UInt16.le_iff_toNat_le]
  simp only [UInt16.reduceToNat] at hne ⊢
  omega

/-! ### One equation for each way -/

theorem cycle_of_no_word (h : s.word? = none) :
    s.cycle = ⟨s, [], .error (.fault (.fetch s.machine.pc))⟩ := by
  have hf : s.instruction = .error (.fetch s.machine.pc) := by
    rw [word?] at h
    rw [instruction, fetch, h]
    rfl
  rw [cycle, hf]

theorem cycle_of_no_instruction (hw : s.word? = some word) (hd : decode word = none) :
    s.cycle = ⟨s, [], .error (.fault (.unknownInstruction s.machine.pc word))⟩ := by
  have hf : s.instruction = .error (.unknownInstruction s.machine.pc word) := by
    rw [word?] at hw
    rw [instruction, fetch, hw]
    simp only [bind, Except.bind, hd]
    rfl
  rw [cycle, hf]

theorem instruction_eq_ok (hw : s.word? = some word) (hd : decode word = some i) :
    s.instruction = .ok (word, i) := by
  rw [word?] at hw
  rw [instruction, fetch, hw]
  simp only [bind, Except.bind, hd]
  rfl

theorem cycle_of_halt {halt : Halt} (hw : s.word? = some word) (hd : decode word = some i)
    (hp : s.perform word i = .error halt) :
    s.cycle = ⟨s, [.executing s.machine.pc word i], .error halt⟩ := by
  have ha : s.advance word i = .error halt := by
    rw [advance, execute_of_decode hd, hp]
    rfl
  rw [cycle, instruction_eq_ok hw hd]
  simp only [ha]

theorem cycle_of_effect {e : Effect} (hw : s.word? = some word) (hd : decode word = some i)
    (hp : s.perform word i = .ok e) :
    s.cycle =
      ⟨e.arrive s.machine.pc, .executing s.machine.pc word i :: e.events, .ok ()⟩ := by
  have ha : s.advance word i = .ok (e.arrive s.machine.pc, e.events) := by
    rw [advance, execute_of_decode hd, hp]
    simp only [bind, Except.bind, Flow.target_eq_ok (pc_le_of_word hw)]
    rfl
  rw [cycle, instruction_eq_ok hw hd]
  simp only [ha]

/-- A cycle that does not halt executes an instruction. -/
theorem effect_of_ok (h : s.cycle.result = .ok ()) :
    ∃ word i e, s.word? = some word ∧ decode word = some i ∧ s.perform word i = .ok e ∧
      s.cycle.state = e.arrive s.machine.pc := by
  cases hw : s.word? with
  | none =>
    rw [cycle_of_no_word hw] at h
    cases h
  | some word =>
    cases hd : decode word with
    | none =>
      rw [cycle_of_no_instruction hw hd] at h
      cases h
    | some i =>
      cases hp : s.perform word i with
      | error halt =>
        rw [cycle_of_halt hw hd hp] at h
        cases h
      | ok e => exact ⟨word, i, e, rfl, hd, hp, by rw [cycle_of_effect hw hd hp]⟩

/-! ### All ways together -/

/-- The reasons for which a cycle halts. -/
inductive Stops (s : Interpreter) : Halt → Prop where
  | fetch (hw : s.word? = none) : s.Stops (.fault (.fetch s.machine.pc))
  | unknownInstruction {word : Word} (hw : s.word? = some word) (hd : decode word = none) :
      s.Stops (.fault (.unknownInstruction s.machine.pc word))
  | stackOverflow {word : Word} {nnn : UInt16} (hw : s.word? = some word)
      (hd : decode word = some (.call nnn))
      (hpush : s.machine.stack.push? s.machine.pc = none) :
      s.Stops (.fault (.stackOverflow s.machine.pc word))
  | stackUnderflow {word : Word} (hw : s.word? = some word) (hd : decode word = some .ret)
      (hpop : s.machine.stack.pop? = none) :
      s.Stops (.fault (.stackUnderflow s.machine.pc word))
  /-- The address behind a call does not fit. Cycles push no such address, but a host can. -/
  | outOfRange {word : Word} {caller : UInt16} {stack : CallStack} (hw : s.word? = some word)
      (hd : decode word = some .ret) (hpop : s.machine.stack.pop? = some (caller, stack))
      (hc : ¬ caller ≤ 0xFFFD) : s.Stops .outOfRange

/-- The results that a cycle can have from `s`, each with the state behind it. -/
inductive Way (s : Interpreter) : Except Halt Unit → Interpreter → Prop where
  /-- The cycle halts. -/
  | halted {halt : Halt} (hs : s.Stops halt) : s.Way (.error halt) s
  /-- A call pushes its own address and goes to its target. -/
  | called {nnn : UInt16} {stack : CallStack} (hpc : s.machine.pc ≤ 0xFFE) (hn : nnn ≤ 0xFFF)
      (hpush : s.machine.stack.push? s.machine.pc = some stack) :
      s.Way (.ok ()) { s with machine := { s.machine with stack := stack, pc := nnn } }
  /-- A return goes behind the call whose address it pops. -/
  | returned {caller : UInt16} {stack : CallStack} (hw : s.word? = some 0x00EE)
      (hpop : s.machine.stack.pop? = some (caller, stack)) (hc : caller ≤ 0xFFFD) :
      s.Way (.ok ()) { s with machine := { s.machine with stack := stack, pc := caller + 2 } }
  /-- Any other instruction has a plain effect. -/
  | passed {e : Effect} (hpc : s.machine.pc ≤ 0xFFE) (he : s.Plain e) :
      s.Way (.ok ()) (e.arrive s.machine.pc)

theorem way_of_ret (hw : s.word? = some word) (hd : decode word = some .ret) :
    s.Way s.cycle.result s.cycle.state := by
  cases hpop : s.machine.stack.pop? with
  | none =>
    rw [cycle_of_halt hw hd (s.returnFrom_of_empty word hpop)]
    exact .halted (.stackUnderflow hw hd hpop)
  | some popped =>
    obtain ⟨caller, stack⟩ := popped
    by_cases hc : caller ≤ 0xFFFD
    · rw [cycle_of_effect hw hd (s.returnFrom_of_pop word hpop hc)]
      rw [decode_eq_ret_iff] at hd
      exact .returned (hd ▸ hw) hpop hc
    · rw [cycle_of_halt hw hd (s.returnFrom_of_high word hpop hc)]
      exact .halted (.outOfRange hw hd hpop hc)

theorem way_of_call {nnn : UInt16} (hw : s.word? = some word)
    (hd : decode word = some (.call nnn)) : s.Way s.cycle.result s.cycle.state := by
  cases hpush : s.machine.stack.push? s.machine.pc with
  | none =>
    rw [cycle_of_halt hw hd (s.call_of_full word nnn hpush)]
    exact .halted (.stackOverflow hw hd hpush)
  | some stack =>
    rw [cycle_of_effect hw hd (s.call_of_push word nnn hpush)]
    have hn : nnn ≤ 0xFFF := addresses_le_of_decode hd nnn (List.mem_singleton.mpr rfl)
    exact .called (pc_le_of_word hw) hn hpush

/-- A cycle goes one of the ways. -/
theorem cycle_way (s : Interpreter) : s.Way s.cycle.result s.cycle.state := by
  cases hw : s.word? with
  | none =>
    rw [cycle_of_no_word hw]
    exact .halted (.fetch hw)
  | some word =>
    cases hd : decode word with
    | none =>
      rw [cycle_of_no_instruction hw hd]
      exact .halted (.unknownInstruction hw hd)
    | some i =>
      by_cases hret : i = .ret
      · exact way_of_ret hw (hret ▸ hd)
      by_cases hcall : ∃ nnn, i = .call nnn
      · obtain ⟨nnn, rfl⟩ := hcall
        exact way_of_call hw hd
      obtain ⟨e, he, hplain⟩ := perform_plain (s := s) word (addresses_le_of_decode hd) hret
        fun nnn h => hcall ⟨nnn, h⟩
      rw [cycle_of_effect hw hd he]
      exact .passed (pc_le_of_word hw) hplain

/-- Every reason to halt is effective, and leaves the state. -/
theorem cycle_of_stops {halt : Halt} (h : s.Stops halt) :
    s.cycle.result = .error halt ∧ s.cycle.state = s := by
  cases h with
  | fetch hw =>
    rw [cycle_of_no_word hw]
    exact ⟨rfl, rfl⟩
  | unknownInstruction hw hd =>
    rw [cycle_of_no_instruction hw hd]
    exact ⟨rfl, rfl⟩
  | stackOverflow hw hd hpush =>
    rw [cycle_of_halt hw hd (s.call_of_full _ _ hpush)]
    exact ⟨rfl, rfl⟩
  | stackUnderflow hw hd hpop =>
    rw [cycle_of_halt hw hd (s.returnFrom_of_empty _ hpop)]
    exact ⟨rfl, rfl⟩
  | outOfRange hw hd hpop hc =>
    rw [cycle_of_halt hw hd (s.returnFrom_of_high _ hpop hc)]
    exact ⟨rfl, rfl⟩

/-- A cycle halts for its reasons and for no other. -/
theorem result_eq_error_iff {halt : Halt} : s.cycle.result = .error halt ↔ s.Stops halt := by
  constructor
  · intro hresult
    have hway := s.cycle_way
    rw [hresult] at hway
    generalize s.cycle.state = t at hway
    cases hway with
    | halted hs => exact hs
  · intro hs
    exact (cycle_of_stops hs).1

end Interpreter

end ChipEight
