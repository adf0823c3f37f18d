import ChipEight.Proofs.Cycle
import ChipEight.Proofs.InPlace.Execute

/-!
A cycle in place ends as the cycle of the interpreter does, out of range too. The two differ in one
thing: out of range, the cycle in place leaves what it changed.
-/

namespace ChipEight.InPlace

variable {s : Interpreter} {word : Word} {i : Instruction}

theorem run_fetch_of_word (h : s.word? = some word) :
    (fetch s.machine.pc).run s = .ok word s := by
  rw [Interpreter.word?] at h
  rw [run_fetch, h]

/-- Where a word can be fetched, no flow goes out of range. -/
theorem run_target {pc : UInt16} (h : pc ≤ 0xFFE) (f : Flow) :
    (target pc f).run s = .ok (f.destination pc) s := by
  cases f with
  | next => exact run_sum (sum_fits h (by decide))
  | skip => exact run_sum (sum_fits h (by decide))
  | jump address => rfl
  | stay => rfl

/-- A decoded instruction ends in place as its effect says. -/
theorem decoded_ends (hd : decode word = some i) :
    Ends s (execute s.machine.pc word i) (s.perform word i) :=
  execute_ends (registers_lt_of_decode hd) (addresses_le_of_decode hd)

/-! ### One equation for each way -/

theorem run_cycle_of_no_word (h : s.word? = none) :
    cycle.run s = .error (.fault (.fetch s.machine.pc)) s := by
  have hf : (fetch s.machine.pc).run s = .error (.fault (.fetch s.machine.pc)) s := by
    rw [Interpreter.word?] at h
    rw [run_fetch, h]
  rw [cycle, EStateM.run_bind, run_look]
  exact run_bind_of_error hf

/-- A cycle with a word goes on with what it decodes to. -/
theorem run_cycle_of_word (hw : s.word? = some word) :
    cycle.run s =
      (match decode word with
      | none => throw (.fault (.unknownInstruction s.machine.pc word))
      | some i => do
        let flow ← execute s.machine.pc word i
        let address ← target s.machine.pc flow
        update fun m => { m with pc := address } : Routine Unit).run s := by
  rw [cycle, EStateM.run_bind, run_look]
  exact run_bind_of_ok (run_fetch_of_word hw)

theorem run_cycle_of_no_instruction (hw : s.word? = some word) (hd : decode word = none) :
    cycle.run s = .error (.fault (.unknownInstruction s.machine.pc word)) s := by
  rw [run_cycle_of_word hw, hd]
  rfl

theorem run_cycle_of_halt {halt : Halt} {t : Interpreter} (hw : s.word? = some word)
    (hd : decode word = some i) (h : (execute s.machine.pc word i).run s = .error halt t) :
    cycle.run s = .error halt t := by
  rw [run_cycle_of_word hw, hd]
  exact run_bind_of_error h

theorem run_cycle_of_effect {e : Effect} (hw : s.word? = some word) (hd : decode word = some i)
    (hp : s.perform word i = .ok e) : cycle.run s = .ok () (e.arrive s.machine.pc) := by
  have hrun : (execute s.machine.pc word i).run s = .ok e.flow e.state := by
    have hends := decoded_ends (s := s) hd
    rwa [hp] at hends
  rw [run_cycle_of_word hw, hd]
  dsimp only
  rw [run_bind_of_ok hrun, run_bind_of_ok (run_target (Interpreter.pc_le_of_word hw) e.flow)]
  rfl

/-! ### All ways together -/

/-- A cycle in place that does not halt arrives where the cycle does. -/
theorem run_cycle_of_ok (h : s.cycle.result = .ok ()) : cycle.run s = .ok () s.cycle.state := by
  obtain ⟨word, i, e, hw, hd, hp, hstate⟩ := Interpreter.effect_of_ok h
  rw [hstate]
  exact run_cycle_of_effect hw hd hp

/-- A fault leaves the state in place too. -/
theorem run_cycle_of_fault {f : Fault} (h : s.Stops (.fault f)) :
    cycle.run s = .error (.fault f) s := by
  cases h with
  | fetch hw => exact run_cycle_of_no_word hw
  | unknownInstruction hw hd => exact run_cycle_of_no_instruction hw hd
  | @stackOverflow word nnn hw hd hpush =>
    have hends := decoded_ends (s := s) hd
    rw [show s.perform word (.call nnn) = _ from s.call_of_full word nnn hpush] at hends
    exact run_cycle_of_halt hw hd hends
  | @stackUnderflow word hw hd hpop =>
    have hends := decoded_ends (s := s) hd
    rw [show s.perform word .ret = _ from s.returnFrom_of_empty word hpop] at hends
    exact run_cycle_of_halt hw hd hends

theorem run_cycle_of_outOfRange (h : s.Stops .outOfRange) :
    ∃ t, cycle.run s = .error .outOfRange t := by
  cases h with
  | @outOfRange word caller stack hw hd hpop hc =>
    have hends := decoded_ends (s := s) hd
    rw [show s.perform word .ret = _ from s.returnFrom_of_high word hpop hc] at hends
    obtain ⟨t, ht⟩ := hends
    exact ⟨t, run_cycle_of_halt hw hd ht⟩

end ChipEight.InPlace
