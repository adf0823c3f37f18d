import ChipEight.Proofs.Operation
import Mathlib.Logic.Function.Iterate

/-!
Ticks in a row. A tick asks whether the clock runs, never when the next tick is due, so it commutes
with moving the deadline. What it does to the interpreter is a function of the interpreter and of
the size of a batch alone.
-/

namespace ChipEight

@[simp] theorem Outcome.after_after {σ ρ : Type} (first second : List Event) (o : Outcome σ ρ) :
    (o.after second).after first = o.after (first ++ second) := by
  rw [after, after, after, List.append_assoc]

/-- Counts the timers down, runs a batch of cycles and, unless it halted, takes the display's
flag. -/
def Interpreter.tick (s : Interpreter) (count : Nat) : Interpreter :=
  let batch := s.tickTimers.runCycles count
  match batch.result with
  | .ok () => batch.state.takeDirty.state
  | .error _ => batch.state

namespace Clock

variable {c : Clock}

/-- The clock after `n` ticks in a row, whatever halted on the way. -/
def ticked (c : Clock) (n : Nat) : Clock := (fun c => c.tick.state)^[n] c

/-- What each of `n` ticks in a row reports. -/
def results (c : Clock) (n : Nat) : List (Except Halt TickReport) :=
  (List.range n).map fun j => (c.ticked j).tick.result

/-- The events of `n` ticks in a row. -/
def tickEvents (c : Clock) (n : Nat) : List Event :=
  (List.range n).flatMap fun j => (c.ticked j).tick.events

/-- Moves the scheduled tick to another time; a stopped clock stays stopped. -/
def reschedule (c : Clock) (time : Nat) : Clock :=
  { c with deadline := c.deadline.map fun _ => time }

theorem reschedule_self {time : Nat} (h : c.deadline = some time) : c.reschedule time = c := by
  rw [reschedule, h, Option.map_some, ← h]

@[simp] theorem reschedule_reschedule (c : Clock) (earlier later : Nat) :
    (c.reschedule earlier).reschedule later = c.reschedule later := by
  rw [reschedule, reschedule, reschedule, Option.map_map]
  rfl

theorem reschedule_of_stopped (h : c.deadline = none) (time : Nat) : c.reschedule time = c := by
  rw [reschedule, h, Option.map_none, ← h]

/-! ### One tick -/

theorem tick_interpreter (c : Clock) :
    c.tick.state.interpreter = c.interpreter.tick c.cyclesPerTick := by
  rw [tick, Interpreter.tick]
  cases (c.interpreter.tickTimers.runCycles c.cyclesPerTick).result with
  | ok => rfl
  | error halt => exact halted_interpreter _ halt

theorem stop_settings (c : Clock) :
    c.stop.state.cyclesPerTick = c.cyclesPerTick ∧ c.stop.state.period = c.period := by
  rw [stop]
  split <;> exact ⟨rfl, rfl⟩

theorem tick_settings (c : Clock) :
    c.tick.state.cyclesPerTick = c.cyclesPerTick ∧ c.tick.state.period = c.period := by
  rw [tick]
  dsimp only
  split
  · exact ⟨rfl, rfl⟩
  · rename_i halt _
    cases halt with
    | fault f => exact stop_settings _
    | outOfRange => exact ⟨rfl, rfl⟩

@[simp] theorem tick_cyclesPerTick (c : Clock) : c.tick.state.cyclesPerTick = c.cyclesPerTick :=
  (tick_settings c).1

@[simp] theorem tick_period (c : Clock) : c.tick.state.period = c.period := (tick_settings c).2

theorem stop_deadline (c : Clock) : c.stop.state.deadline = none := by
  rw [stop]
  split
  · rfl
  · assumption

/-- A tick that reports leaves the deadline. -/
theorem tick_deadline_of_ok {r : TickReport} (h : c.tick.result = .ok r) :
    c.tick.state.deadline = c.deadline := by
  rw [tick] at h ⊢
  cases hb : (c.interpreter.tickTimers.runCycles c.cyclesPerTick).result with
  | ok => rfl
  | error halt =>
    simp only [hb] at h
    cases h

/-- A tick that faults leaves the clock stopped. -/
theorem tick_deadline_of_fault {f : Fault} (h : c.tick.result = .error (.fault f)) :
    c.tick.state.deadline = none := by
  rw [tick] at h ⊢
  cases hb : (c.interpreter.tickTimers.runCycles c.cyclesPerTick).result with
  | ok =>
    simp only [hb] at h
    cases h
  | error halt =>
    simp only [hb] at h
    obtain rfl : halt = .fault f := by injection h
    exact stop_deadline _

/-- A tick asks whether the clock runs and not when its next tick is due. -/
theorem tick_reschedule (c : Clock) (time : Nat) :
    (c.reschedule time).tick = c.tick.inside fun c => c.reschedule time := by
  obtain ⟨s, count, period, deadline⟩ := c
  rw [tick, tick]
  simp only [reschedule]
  cases (s.tickTimers.runCycles count).result with
  | ok => rfl
  | error halt =>
    -- the fault stops a running clock, and moving its deadline does not change whether it runs
    cases halt with
    | fault f => cases deadline <;> rfl
    | outOfRange => rfl

/-! ### Ticks in a row -/

@[simp] theorem ticked_zero (c : Clock) : c.ticked 0 = c := rfl

theorem ticked_succ (c : Clock) (n : Nat) : c.ticked (n + 1) = (c.ticked n).tick.state :=
  Function.iterate_succ_apply' ..

theorem results_succ (c : Clock) (n : Nat) :
    c.results (n + 1) = c.results n ++ [(c.ticked n).tick.result] := by
  rw [results, List.range_succ, List.map_append]
  rfl

@[simp] theorem length_results (c : Clock) (n : Nat) : (c.results n).length = n := by
  simp [results]

theorem tickEvents_succ (c : Clock) (n : Nat) :
    c.tickEvents (n + 1) = c.tickEvents n ++ (c.ticked n).tick.events := by
  rw [tickEvents, List.range_succ, List.flatMap_append, List.flatMap_singleton]
  rfl

@[simp] theorem ticked_cyclesPerTick (c : Clock) (n : Nat) :
    (c.ticked n).cyclesPerTick = c.cyclesPerTick := by
  induction n with
  | zero => rfl
  | succ n ih => rw [ticked_succ, tick_cyclesPerTick, ih]

@[simp] theorem ticked_period (c : Clock) (n : Nat) : (c.ticked n).period = c.period := by
  induction n with
  | zero => rfl
  | succ n ih => rw [ticked_succ, tick_period, ih]

theorem ticked_interpreter (c : Clock) (n : Nat) :
    (c.ticked n).interpreter = (fun s => s.tick c.cyclesPerTick)^[n] c.interpreter := by
  induction n with
  | zero => rfl
  | succ n ih =>
    rw [ticked_succ, tick_interpreter, ticked_cyclesPerTick, ih, Function.iterate_succ_apply']

/-- The reports of the ticks before the last are reports of ticks as well. -/
theorem results_eq_map_succ {n : Nat} {reports : List TickReport}
    (h : c.results (n + 1) = reports.map .ok) :
    ∃ before r, reports = before ++ [r] ∧ c.results n = before.map .ok ∧
      (c.ticked n).tick.result = .ok r := by
  rw [results_succ] at h
  obtain ⟨before, last, hsplit, hbefore, hlast⟩ := List.append_eq_map_iff.mp h
  obtain ⟨r, hr, hresult⟩ := List.map_eq_singleton_iff.mp hlast
  exact ⟨before, r, by rw [hsplit, hr], hbefore.symm, hresult.symm⟩

/-- Ticks that report leave the deadline. -/
theorem ticked_deadline {n : Nat} {reports : List TickReport}
    (h : c.results n = reports.map .ok) : (c.ticked n).deadline = c.deadline := by
  induction n generalizing reports with
  | zero => rfl
  | succ n ih =>
    obtain ⟨before, r, -, hbefore, hr⟩ := results_eq_map_succ h
    rw [ticked_succ, tick_deadline_of_ok hr, ih hbefore]

/-- Behind ticks that report, a running clock can be rescheduled. -/
theorem ticked_reschedule {n first : Nat} {reports : List TickReport}
    (hd : c.deadline = some first) (h : c.results n = reports.map .ok) (time : Nat) :
    (c.ticked n).reschedule time = { c.ticked n with deadline := some time } := by
  rw [reschedule, ticked_deadline h, hd, Option.map_some]

/-- All of some ticks report, or there is a first one that halts. -/
theorem results_cases (c : Clock) (n : Nat) :
    (∃ reports : List TickReport, c.results n = reports.map .ok) ∨
      ∃ j < n, ∃ (reports : List TickReport) (halt : Halt),
        c.results j = reports.map .ok ∧ (c.ticked j).tick.result = .error halt := by
  induction n with
  | zero => exact .inl ⟨[], rfl⟩
  | succ n ih =>
    rcases ih with ⟨reports, hgood⟩ | ⟨j, hj, hrest⟩
    · cases hr : (c.ticked n).tick.result with
      | ok r =>
        left
        exact ⟨reports ++ [r], by rw [results_succ, hgood, hr, List.map_append]; rfl⟩
      | error halt =>
        right
        exact ⟨n, Nat.lt_succ_self n, reports, halt, hgood, hr⟩
    · right
      exact ⟨j, Nat.lt_succ_of_lt hj, hrest⟩

end Clock

end ChipEight
