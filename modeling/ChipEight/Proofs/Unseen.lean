import ChipEight.Proofs.Agreement
import ChipEight.Proofs.Beats

/-!
Timers and keys reach a program through the instructions that ask for them and in no other way. A
run that executes none of these is to the program as many bare cycles, whatever the host does in
between and however the cycles are batched; so it cannot tell two such runs apart.
-/

namespace ChipEight

namespace Interpreter

variable {s t : Interpreter} {n count : Nat}

/-- The outcomes of the cycles among some steps. -/
def cycles (s : Interpreter) : List Step → List (Outcome Interpreter (Except Halt Unit))
  | [] => []
  | .cycle :: steps => s.cycle :: cycles s.cycle.state steps
  | x :: steps => cycles (s.step x) steps

theorem cycles_of_ne {x : Step} (hx : x ≠ .cycle) (s : Interpreter) (steps : List Step) :
    s.cycles (x :: steps) = (s.step x).cycles steps := by
  cases x with
  | cycle => exact absurd rfl hx
  | countDown | takeDirty | key number pressed => rfl

theorem agree_tickTimers (s : Interpreter) : s.tickTimers.Agree s :=
  ⟨rfl, rfl, rfl, rfl, rfl, rfl, rfl⟩

theorem agree_takeDirty (s : Interpreter) : s.takeDirty.state.Agree s :=
  ⟨rfl, rfl, rfl, rfl, rfl, rfl, rfl⟩

theorem agree_setKey (s : Interpreter) (number : Nat) (pressed : Bool) :
    (s.turn (.setKey number pressed)).Agree s := by
  obtain ⟨keypad, delay, sound, hturn⟩ :=
    s.turn_eq_of_ne_cycle (t := .setKey number pressed) (by simp)
  rw [hturn]
  exact ⟨rfl, rfl, rfl, rfl, rfl, rfl, rfl⟩

/-- A step that is no cycle shows the program nothing. -/
theorem agree_step (s : Interpreter) {x : Step} (hx : x ≠ .cycle) : (s.step x).Agree s := by
  cases x with
  | cycle => exact absurd rfl hx
  | countDown => exact agree_tickTimers s
  | takeDirty => exact agree_takeDirty s
  | key number pressed => exact agree_setKey s number pressed

/-! ### Bare cycles -/

/-- None of `n` bare cycles asks for anything. -/
def AsksNothingFor (s : Interpreter) (n : Nat) : Prop :=
  ∀ j < n, AsksNothing (s.cycled j).cycle.events

theorem asksNothingFor_succ :
    s.AsksNothingFor (n + 1) ↔ AsksNothing s.cycle.events ∧ s.cycle.state.AsksNothingFor n :=
  Nat.forall_lt_succ_left

/-- A batch asks for something if one of its cycles would. -/
theorem asksNothing_runCycles_iff : AsksNothing (s.runCycles n).events ↔ s.AsksNothingFor n := by
  constructor
  · intro hasks j hj i hi
    exact hasks i (mem_executed_runCycles_iff.mpr ⟨j, hj, hi⟩)
  · intro hasks i hi
    obtain ⟨j, hj, hi⟩ := mem_executed_runCycles_iff.mp hi
    exact hasks j hj i hi

theorem Agree.asksNothing_iff (h : s.Agree t) :
    AsksNothing s.cycle.events ↔ AsksNothing t.cycle.events := by
  rw [AsksNothing, AsksNothing, h.executed_eq]

/-- Bare cycles keep the agreement, and end alike. -/
theorem Agree.cycled (h : s.Agree t) (hasks : s.AsksNothingFor n) :
    (s.cycled n).Agree (t.cycled n) ∧ t.AsksNothingFor n ∧
      ∀ j < n, (s.cycled j).cycle.result = (t.cycled j).cycle.result := by
  induction n generalizing s t with
  | zero => exact ⟨h, by simp [AsksNothingFor], by simp⟩
  | succ n ih =>
    obtain ⟨hfirst, hrest⟩ := asksNothingFor_succ.mp hasks
    obtain ⟨hresult, hnext⟩ := h.cycle hfirst
    obtain ⟨hend, hasks', hresults⟩ := ih hnext hrest
    exact ⟨hend, asksNothingFor_succ.mpr ⟨h.asksNothing_iff.mp hfirst, hasks'⟩,
      Nat.forall_lt_succ_left.mpr ⟨hresult, hresults⟩⟩

theorem Agree.asksNothingFor_iff (h : s.Agree t) : s.AsksNothingFor n ↔ t.AsksNothingFor n :=
  ⟨fun hasks => (h.cycled hasks).2.1, fun hasks => (h.symm.cycled hasks).2.1⟩

/-! ### Steps -/

/-- Some steps ask for something if as many bare cycles do. -/
theorem Agree.asksNothing_cycles_iff (h : s.Agree t) (steps : List Step) :
    AsksNothing ((s.cycles steps).flatMap Outcome.events) ↔
      t.AsksNothingFor (steps.count .cycle) := by
  induction steps generalizing s t with
  | nil => simp [cycles, AsksNothing, AsksNothingFor]
  | cons x steps ih =>
    by_cases hx : x = .cycle
    · subst hx
      rw [cycles, List.flatMap_cons, asksNothing_append, List.count_cons_self,
        asksNothingFor_succ, h.asksNothing_iff]
      -- behind a cycle that asks, the two need not agree any more
      refine and_congr_right fun hasks => ?_
      exact ih (h.cycle (h.asksNothing_iff.mpr hasks)).2
    · rw [cycles_of_ne hx, List.count_cons_of_ne hx]
      exact ih ((s.agree_step hx).trans h)

/-- To a program that asks for nothing some steps are as many bare cycles. -/
theorem Agree.steps (h : s.Agree t) (steps : List Step)
    (hasks : t.AsksNothingFor (steps.count .cycle)) :
    (steps.foldl Interpreter.step s).Agree (t.cycled (steps.count .cycle)) ∧
      (s.cycles steps).map Outcome.result =
        (List.range (steps.count .cycle)).map fun j => (t.cycled j).cycle.result := by
  induction steps generalizing s t with
  | nil => exact ⟨h, rfl⟩
  | cons x steps ih =>
    by_cases hx : x = .cycle
    · subst hx
      rw [List.count_cons_self] at hasks ⊢
      obtain ⟨hfirst, hrest⟩ := asksNothingFor_succ.mp hasks
      obtain ⟨hresult, hnext⟩ := h.cycle (h.asksNothing_iff.mpr hfirst)
      obtain ⟨hend, hresults⟩ := ih hnext hrest
      refine ⟨hend, ?_⟩
      rw [cycles, List.map_cons, hresult, hresults, List.range_succ_eq_map, List.map_cons,
        List.map_map]
      rfl
    · rw [List.count_cons_of_ne hx] at hasks ⊢
      rw [cycles_of_ne hx]
      exact ih ((s.agree_step hx).trans h) hasks

/-! ### Ticks -/

theorem Agree.tick (h : s.Agree t) (hasks : t.AsksNothingFor count) :
    (s.tick count).Agree (t.cycled count) := by
  have hcounted : s.tickTimers.Agree t := s.agree_tickTimers.trans h
  obtain ⟨hbatch, -⟩ := hcounted.cycled (hcounted.asksNothingFor_iff.mpr hasks)
  -- a batch that halts stands still, as the bare cycles do
  rw [← runCycles_state] at hbatch
  rw [Interpreter.tick]
  split
  · exact (agree_takeDirty _).trans hbatch
  · exact hbatch

theorem Agree.asksNothing_batches_iff (h : s.Agree t) (count : Nat) (beats : List Beat) :
    AsksNothing ((s.batches count beats).flatMap Outcome.events) ↔
      t.AsksNothingFor (beats.count .tick * count) := by
  induction beats generalizing s t with
  | nil => simp [batches, AsksNothing, AsksNothingFor]
  | cons b beats ih =>
    cases b with
    | key number pressed =>
      rw [batches, count_tick_key]
      exact ih ((s.agree_setKey number pressed).trans h)
    | tick =>
      have hcounted : s.tickTimers.Agree t := s.agree_tickTimers.trans h
      rw [batches, List.flatMap_cons, asksNothing_append, asksNothing_runCycles_iff,
        hcounted.asksNothingFor_iff, List.count_cons_self, Nat.succ_mul, Nat.add_comm,
        AsksNothingFor, AsksNothingFor,
        forall_cycled_add (p := fun u => AsksNothing u.cycle.events)]
      exact and_congr_right fun hasks => ih (h.tick hasks)

/-- To a program that asks for nothing ticks are as many bare cycles as their batches have, even
where a batch halts. -/
theorem Agree.beats (h : s.Agree t) (count : Nat) (beats : List Beat)
    (hasks : t.AsksNothingFor (beats.count .tick * count)) :
    (beats.foldl (beat count) s).Agree (t.cycled (beats.count .tick * count)) ∧
      ((∀ o ∈ s.batches count beats, o.result = .ok ()) ↔
        ∀ j < beats.count .tick * count, (t.cycled j).cycle.result = .ok ()) := by
  induction beats generalizing s t with
  | nil =>
    rw [List.count_nil, Nat.zero_mul]
    exact ⟨h, by simp [batches]⟩
  | cons b beats ih =>
    cases b with
    | key number pressed =>
      rw [count_tick_key] at hasks ⊢
      exact ih ((s.agree_setKey number pressed).trans h) hasks
    | tick =>
      have hcounted : s.tickTimers.Agree t := s.agree_tickTimers.trans h
      rw [List.count_cons_self, Nat.succ_mul, Nat.add_comm] at hasks ⊢
      obtain ⟨hfirst, hrest⟩ :=
        (forall_cycled_add (p := fun u => AsksNothing u.cycle.events)).mp hasks
      obtain ⟨hend, hsucceed⟩ := ih (h.tick hfirst) hrest
      obtain ⟨-, -, hresults⟩ := hcounted.cycled (hcounted.asksNothingFor_iff.mpr hfirst)
      refine ⟨by rw [cycled_add]; exact hend, ?_⟩
      rw [batches, List.forall_mem_cons, hsucceed, runCycles_result_eq_ok_iff,
        forall_cycled_add (p := fun u => u.cycle.result = .ok ())]
      refine and_congr_left' (forall₂_congr fun j hj => ?_)
      rw [hresults j hj]

/-- Where two interpreters agree, a run that executes no instruction which asks for the timer or
for a key goes as any other run with as many cycles goes, whatever timers and keys do. So a program
cannot tell how its cycles are grouped into ticks. -/
theorem unasked_host_is_unseen (h : s.Agree t) :
    (∀ steps others : List Step, steps.count .cycle = others.count .cycle →
      AsksNothing ((s.cycles steps).flatMap Outcome.events) →
        (s.cycles steps).map Outcome.result = (t.cycles others).map Outcome.result ∧
          (steps.foldl step s).Agree (others.foldl step t)) ∧
    ∀ (c d : Clock) (calls others : List Clock.Call), c.interpreter = s → d.interpreter = t →
      (c.beats calls).count .tick * c.cyclesPerTick =
          (d.beats others).count .tick * d.cyclesPerTick →
        AsksNothing ((c.outcomes (calls.map Clock.Call.operation)).flatMap Outcome.events) →
          ((∀ o ∈ c.outcomes (calls.map Clock.Call.operation), o.result.halt? = none) ↔
            ∀ o ∈ d.outcomes (others.map Clock.Call.operation), o.result.halt? = none) ∧
          (c.after (calls.map Clock.Call.operation)).interpreter.Agree
            (d.after (others.map Clock.Call.operation)).interpreter := by
  constructor
  · intro steps others hcount hasks
    -- both runs are compared with the bare cycles of the second interpreter
    have hbare := (h.asksNothing_cycles_iff steps).mp hasks
    obtain ⟨hend, hresults⟩ := h.steps steps hbare
    rw [hcount] at hend hresults hbare
    obtain ⟨hend', hresults'⟩ := (Agree.refl t).steps others hbare
    exact ⟨hresults.trans hresults'.symm, hend.trans hend'.symm⟩
  · rintro c d calls others rfl rfl hcount hasks
    obtain ⟨hhalts, hexecuted⟩ := c.outcomes_batches calls
    obtain ⟨hhalts', -⟩ := d.outcomes_batches others
    rw [AsksNothing, hexecuted] at hasks
    have hbare := (h.asksNothing_batches_iff _ _).mp hasks
    obtain ⟨hend, hsucceed⟩ := h.beats _ _ hbare
    rw [hcount] at hend hsucceed hbare
    obtain ⟨hend', hsucceed'⟩ := (Agree.refl d.interpreter).beats _ _ hbare
    rw [c.after_calls_interpreter, d.after_calls_interpreter, hhalts, hhalts', hsucceed, hsucceed']
    exact ⟨Iff.rfl, hend.trans hend'.symm⟩

/-- Another interpreter with the same program, but with timers that run and keys that are down. -/
def otherHost (s : Interpreter) : Interpreter :=
  { s with
    machine := s.machine.withTimers 7 9
    keypad := ⟨Vector.replicate 16 true⟩
    awaitKey := .poll }

end Interpreter

namespace Clock

/-- A clock with batches of two cycles, whose program beeps and draws. -/
def byTwo : Clock := everyTen beepAndDraw

/-- A clock with the same program in batches of three cycles, beside another host. -/
def byThree : Clock :=
  { byTwo with interpreter := byTwo.interpreter.otherHost, cyclesPerTick := 3 }

theorem byTwo_host_is_unseen :
    (byTwo.interpreter.cycles [.cycle, .countDown, .cycle, .key 5 true, .cycle]).map
          Outcome.result =
        (byThree.interpreter.cycles [.cycle, .cycle, .key 6 true, .cycle]).map Outcome.result ∧
      (byTwo.after (steadyCalls.map Call.operation)).interpreter.Agree
        (byThree.after ([.tick, .tick].map Call.operation)).interpreter := by
  have hagree : byTwo.interpreter.Agree byThree.interpreter := ⟨rfl, rfl, rfl, rfl, rfl, rfl, rfl⟩
  have hasks : AsksNothing ((byTwo.interpreter.cycles
      [.cycle, .countDown, .cycle, .key 5 true, .cycle]).flatMap Outcome.events) := by
    decide +kernel
  have hcount : (byTwo.beats steadyCalls).count .tick * byTwo.cyclesPerTick =
      (byThree.beats [.tick, .tick]).count .tick * byThree.cyclesPerTick := by
    decide +kernel
  have hcalls : AsksNothing
      ((byTwo.outcomes (steadyCalls.map Call.operation)).flatMap Outcome.events) := by
    decide +kernel
  obtain ⟨hsteps, hclocks⟩ := Interpreter.unasked_host_is_unseen hagree
  constructor
  · exact (hsteps [.cycle, .countDown, .cycle, .key 5 true, .cycle]
      [.cycle, .cycle, .key 6 true, .cycle] rfl hasks).1
  · exact (hclocks byTwo byThree steadyCalls [.tick, .tick] rfl rfl hcount hcalls).2

end Clock

end ChipEight
