import ChipEight.Proofs.HostSide
import Mathlib.Logic.Function.Iterate

/-!
Cycles in a row. A cycle that halts leaves the state, so a batch ends where as many single cycles
end, whether or not it halts; it succeeds exactly if all of them do, and tells of the same
executions.
-/

namespace ChipEight.Interpreter

variable {s : Interpreter} {n : Nat}

/-- The state behind `n` cycles in a row, whatever halted on the way. -/
def cycled (s : Interpreter) (n : Nat) : Interpreter := (fun s => s.cycle.state)^[n] s

@[simp] theorem cycled_zero (s : Interpreter) : s.cycled 0 = s := rfl

theorem cycled_succ (s : Interpreter) (n : Nat) : s.cycled (n + 1) = s.cycle.state.cycled n := rfl

theorem cycled_add (s : Interpreter) (m n : Nat) : s.cycled (m + n) = (s.cycled m).cycled n := by
  rw [cycled, Nat.add_comm, Function.iterate_add_apply]
  rfl

/-- What holds in front of each of `m + n` cycles holds in front of the first `m` and of the `n`
behind them. -/
theorem forall_cycled_add {p : Interpreter → Prop} {m : Nat} :
    (∀ j < m + n, p (s.cycled j)) ↔
      (∀ j < m, p (s.cycled j)) ∧ ∀ j < n, p ((s.cycled m).cycled j) := by
  constructor
  · intro hall
    refine ⟨fun j hj => hall j (Nat.lt_add_right n hj), fun j hj => ?_⟩
    rw [← cycled_add]
    exact hall (m + j) (Nat.add_lt_add_left hj m)
  · rintro ⟨hfirst, hrest⟩ j hj
    by_cases hjm : j < m
    · exact hfirst j hjm
    · have hlate := hrest (j - m) (by omega)
      rwa [← cycled_add, Nat.add_sub_cancel' (Nat.le_of_not_lt hjm)] at hlate

theorem cycle_state_of_halt {halt : Halt} (h : s.cycle.result = .error halt) : s.cycle.state = s :=
  (cycle_of_stops (result_eq_error_iff.mp h)).2

/-- An interpreter that halts stays where it is. -/
theorem cycled_of_halt {halt : Halt} (h : s.cycle.result = .error halt) (n : Nat) :
    s.cycled n = s :=
  Function.iterate_fixed (cycle_state_of_halt h) n

/-- A batch ends where its cycles end. -/
theorem runCycles_state (s : Interpreter) (n : Nat) : (s.runCycles n).state = s.cycled n := by
  induction n generalizing s with
  | zero => rfl
  | succ n ih =>
    rw [runCycles_succ]
    cases hr : s.cycle.result with
    | ok => exact ih s.cycle.state
    | error halt => exact (cycle_state_of_halt hr).trans (cycled_of_halt hr (n + 1)).symm

/-- A batch succeeds exactly if all of its cycles do. -/
theorem runCycles_result_eq_ok_iff :
    (s.runCycles n).result = .ok () ↔ ∀ j < n, (s.cycled j).cycle.result = .ok () := by
  induction n generalizing s with
  | zero => simp [runCycles_zero]
  | succ n ih =>
    rw [runCycles_succ, Nat.forall_lt_succ_left]
    cases hr : s.cycle.result with
    | ok => simpa [hr, Outcome.after, cycled_succ] using ih
    | error halt => simp [hr]

/-- A batch tells of the executions of its cycles and of no others. -/
theorem mem_executed_runCycles_iff {i : Instruction} :
    i ∈ executed (s.runCycles n).events ↔
      ∃ j < n, i ∈ executed (s.cycled j).cycle.events := by
  induction n generalizing s with
  | zero => simp [runCycles_zero]
  | succ n ih =>
    rw [runCycles_succ]
    cases hr : s.cycle.result with
    | ok =>
      rw [Nat.exists_lt_succ_left]
      simp only [Outcome.after, executed_append, List.mem_append, ih, cycled_succ, cycled_zero]
    | error halt =>
      -- the cycles behind the halt would try the same instruction again
      simp only [cycled_of_halt hr]
      constructor
      · intro hi
        exact ⟨0, Nat.succ_pos n, hi⟩
      · rintro ⟨-, -, hi⟩
        exact hi

/-- A batch that succeeds tells of as many executions as it has cycles. -/
theorem length_executed_runCycles (h : (s.runCycles n).result = .ok ()) :
    (executed (s.runCycles n).events).length = n := by
  induction n generalizing s with
  | zero => rfl
  | succ n ih =>
    rw [runCycles_succ] at h ⊢
    cases hr : s.cycle.result with
    | error halt =>
      rw [hr] at h
      cases h
    | ok =>
      rw [hr] at h
      simp only [Outcome.after, executed_append, List.length_append, length_executed_of_ok hr,
        ih h]
      exact Nat.add_comm 1 n

end ChipEight.Interpreter
