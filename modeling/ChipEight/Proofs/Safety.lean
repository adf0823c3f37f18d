import ChipEight.Proofs.Bounds
import ChipEight.Proofs.InPlace.Cycle

/-!
Nothing goes out of range. The cycle in place checks every number and every sum, and the only check
that can fail is that of a return behind an address near the end of the 16-bit numbers. Such an
address comes from a host alone, since calls push no address beyond memory: no history of operations
leads out of the bounds.
-/

namespace ChipEight.Interpreter

variable {s : Interpreter}

/-- The cycle in place goes out of range for one reason only. -/
theorem run_cycle_outOfRange_iff :
    (∃ t, InPlace.cycle.run s = .error .outOfRange t) ↔ s.Stops .outOfRange := by
  constructor
  · rintro ⟨t, ht⟩
    cases hr : s.cycle.result with
    | ok =>
      rw [InPlace.run_cycle_of_ok hr] at ht
      cases ht
    | error halt =>
      have hs := result_eq_error_iff.mp hr
      cases halt with
      | fault f =>
        rw [InPlace.run_cycle_of_fault hs] at ht
        cases ht
      | outOfRange => exact hs
  · exact InPlace.run_cycle_of_outOfRange

theorem not_outOfRange (h : ∀ a ∈ s.machine.stack.toList, a ≤ 0xFFFD) : ¬ s.Stops .outOfRange := by
  intro hs
  cases hs with
  | @outOfRange word caller stack hw hd hpop hc =>
    have hlist := (CallStack.toList_pop? hpop).1
    exact hc (h caller (by simp [hlist]))

/-- The bounds of all states that a history can reach exclude going out of range. -/
theorem Bounded.not_outOfRange (h : s.Bounded) : ¬ s.Stops .outOfRange :=
  Interpreter.not_outOfRange fun a ha => UInt16.le_trans (h.caller_le a ha) (by decide)

/-- No history of operations leads out of the bounds, whatever faulted on the way, and from nowhere
in it does a cycle go out of range. -/
theorem bounded_after_history (config : Config) (entropy : StreamKey)
    (history : List Clock.Operation) :
    let s := ((Clock.new config entropy).after history).interpreter
    s.Bounded ∧ ∀ t, InPlace.cycle.run s ≠ .error .outOfRange t := by
  intro s
  have hbounded : s.Bounded :=
    Clock.kept_after bounded_invariant (bounded_of_initial rfl) history
  refine ⟨hbounded, fun t ht => ?_⟩
  exact hbounded.not_outOfRange (run_cycle_outOfRange_iff.mp ⟨t, ht⟩)

/-- If the address behind each call fits, a cycle in place passes all checks: it arrives where the
cycle does, or it faults as the cycle does. -/
theorem cycle_stays_in_range (s : Interpreter) (h : ∀ a ∈ s.machine.stack.toList, a ≤ 0xFFFD) :
    (InPlace.cycle.run s = .ok () s.cycle.state ∧ s.cycle.result = .ok ()) ∨
      ∃ f, InPlace.cycle.run s = .error (.fault f) s ∧ s.cycle.result = .error (.fault f) ∧
        s.cycle.state = s := by
  cases hr : s.cycle.result with
  | ok =>
    left
    exact ⟨InPlace.run_cycle_of_ok hr, rfl⟩
  | error halt =>
    have hs := result_eq_error_iff.mp hr
    cases halt with
    | fault f =>
      right
      exact ⟨f, InPlace.run_cycle_of_fault hs, rfl, (cycle_of_stops hs).2⟩
    | outOfRange => exact absurd hs (not_outOfRange h)

/-- `00EE` in the last two bytes of memory, the stack full of the highest address behind which a
return fits. No program gets there. -/
def highReturn : Interpreter :=
  let blank := Interpreter.new {} .zeros
  { blank with
    machine := { blank.machine with
      memory := Memory.zero.writeAll 0xFFE [0x00, 0xEE]
      stack := .full 0xFFFD
      pc := 0xFFE } }

theorem highReturn_stays_in_range :
    (∀ a ∈ highReturn.machine.stack.toList, a ≤ 0xFFFD) ∧
      InPlace.cycle.run highReturn = .ok () highReturn.cycle.state ∧
      highReturn.cycle.state.machine.pc = 0xFFFF := by
  have hcallers : ∀ a ∈ highReturn.machine.stack.toList, a ≤ 0xFFFD := by
    intro a ha
    rw [show highReturn.machine.stack.toList = List.replicate 16 0xFFFD from rfl] at ha
    rw [List.eq_of_mem_replicate ha]
    exact UInt16.le_refl _
  have hword : highReturn.word? = some 0x00EE := by decide +kernel
  have hreturn : highReturn.returnFrom 0x00EE =
      .ok ⟨{ highReturn with machine := { highReturn.machine with
        stack := ⟨Vector.replicate 16 0xFFFD, 15, by decide⟩ } }, .jump 0xFFFF, []⟩ :=
    highReturn.returnFrom_of_pop 0x00EE rfl (by decide)
  have hcycle := cycle_of_effect hword ((decode_eq_ret_iff _).mpr rfl) hreturn
  rcases cycle_stays_in_range highReturn hcallers with ⟨hrun, _⟩ | ⟨f, _, hfault, _⟩
  · refine ⟨hcallers, hrun, ?_⟩
    rw [hcycle]
    rfl
  · rw [hcycle] at hfault
    cases hfault

end ChipEight.Interpreter
