import ChipEight.Proofs.InPlace.Cycle

/-!
When a cycle faults, and what it leaves. A fault is read off program counter, word and depth alone,
and neither the cycle nor its version in place changes anything before it.
-/

namespace ChipEight.Interpreter

variable {s : Interpreter} {f : Fault}

/-- The fault of the instruction at the program counter. -/
inductive Fails (s : Interpreter) : Fault → Prop where
  /-- No word begins at the last byte of memory or behind it. -/
  | fetch (hpc : 0xFFF ≤ s.machine.pc) : s.Fails (.fetch s.machine.pc)
  /-- No pattern fits the word. -/
  | unknownInstruction {word : Word} (hw : s.word? = some word)
      (hn : ∀ p ∈ patterns, p.fits word = false) :
      s.Fails (.unknownInstruction s.machine.pc word)
  /-- A call with a full stack. -/
  | stackOverflow {word : Word} (hw : s.word? = some word) (hcall : word &&& 0xF000 = 0x2000)
      (hfull : s.machine.stack.depth = 16) : s.Fails (.stackOverflow s.machine.pc word)
  /-- A return with an empty stack. -/
  | stackUnderflow (hw : s.word? = some 0x00EE) (hempty : s.machine.stack.depth = 0) :
      s.Fails (.stackUnderflow s.machine.pc 0x00EE)

theorem fails_of_stops (h : s.Stops (.fault f)) : s.Fails f := by
  cases h with
  | fetch hw => exact .fetch (word?_eq_none_iff.mp hw)
  | unknownInstruction hw hd => exact .unknownInstruction hw ((decode_eq_none_iff _).mp hd)
  | stackOverflow hw hd hpush =>
    have hcall := ((decode_eq_call_iff _ _).mp hd).1
    exact .stackOverflow hw hcall ((CallStack.push?_eq_none_iff _ _).mp hpush)
  | stackUnderflow hw hd hpop =>
    obtain rfl := (decode_eq_ret_iff _).mp hd
    exact .stackUnderflow hw ((CallStack.pop?_eq_none_iff _).mp hpop)

theorem stops_of_fails (h : s.Fails f) : s.Stops (.fault f) := by
  cases h with
  | fetch hpc => exact .fetch (word?_eq_none_iff.mpr hpc)
  | unknownInstruction hw hn => exact .unknownInstruction hw ((decode_eq_none_iff _).mpr hn)
  | stackOverflow hw hcall hfull =>
    have hd := (decode_eq_call_iff _ _).mpr ⟨hcall, rfl⟩
    exact .stackOverflow hw hd ((CallStack.push?_eq_none_iff _ _).mpr hfull)
  | stackUnderflow hw hempty =>
    have hd := (decode_eq_ret_iff _).mpr rfl
    exact .stackUnderflow hw hd ((CallStack.pop?_eq_none_iff _).mpr hempty)

/-- A fault names the program counter. -/
theorem Fails.pc_eq (h : s.Fails f) : f.pc = s.machine.pc := by cases h <;> rfl

/-- A fault names the word at the program counter, if there is one. -/
theorem Fails.word_eq (h : s.Fails f) : f.word? = s.word? := by
  cases h with
  | fetch hpc => exact (word?_eq_none_iff.mpr hpc).symm
  | unknownInstruction hw hn => exact hw.symm
  | stackOverflow hw hcall hfull => exact hw.symm
  | stackUnderflow hw hempty => exact hw.symm

/-- A cycle faults exactly where it has to, and a fault changes nothing. -/
theorem cycle_faults_exactly (s : Interpreter) (f : Fault) :
    (s.cycle.result = .error (.fault f) ↔ s.Fails f) ∧
      (s.Fails f → s.cycle.state = s ∧ InPlace.cycle.run s = .error (.fault f) s ∧
        f.pc = s.machine.pc ∧ f.word? = s.word?) := by
  constructor
  · rw [result_eq_error_iff]
    exact ⟨fails_of_stops, stops_of_fails⟩
  · intro h
    have hs := stops_of_fails h
    exact ⟨(cycle_of_stops hs).2, InPlace.run_cycle_of_fault hs, h.pc_eq, h.word_eq⟩

/-- The program `2200` at `200`, which calls itself, when it has filled the stack. -/
def seventeenthCall : Interpreter :=
  let loaded := ((Interpreter.new {} .zeros).load [0x22, 0x00]).state
  { loaded with
    machine := { loaded.machine with stack := .full 0x200 } }

theorem seventeenthCall_faults_exactly :
    seventeenthCall.Fails (.stackOverflow 0x200 0x2200) ∧
      seventeenthCall.cycle.result = .error (.fault (.stackOverflow 0x200 0x2200)) ∧
      seventeenthCall.cycle.state = seventeenthCall ∧
      InPlace.cycle.run seventeenthCall =
        .error (.fault (.stackOverflow 0x200 0x2200)) seventeenthCall := by
  have hword : seventeenthCall.word? = some 0x2200 := by decide +kernel
  have hfails : seventeenthCall.Fails (.stackOverflow 0x200 0x2200) :=
    .stackOverflow hword (by decide) rfl
  obtain ⟨hiff, hstays⟩ := cycle_faults_exactly seventeenthCall (.stackOverflow 0x200 0x2200)
  obtain ⟨hstate, hrun, -, -⟩ := hstays hfails
  exact ⟨hfails, hiff.mpr hfails, hstate, hrun⟩

end ChipEight.Interpreter
