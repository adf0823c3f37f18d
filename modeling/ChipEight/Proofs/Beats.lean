import ChipEight.Proofs.Batch
import ChipEight.Proofs.Settings
import ChipEight.Proofs.Schedule

/-!
Time decides how many ticks run and nothing else. Of all that a host asks of a clock with a program
in it only the ticks that run and the keys that move reach the interpreter: the *beats*. The
interpreter behind a series of calls is a fold over its beats, and a beat knows no time.
-/

namespace ChipEight

/-- What a host asks of a clock while a program runs. -/
inductive Clock.Call where
  | poll (now : Nat)
  | tick
  | stop
  | resume (now : Nat)
  | setKey (key : Nat) (pressed : Bool)
  deriving DecidableEq

/-- What reaches the interpreter of a clock: a tick, or a key that moves. -/
inductive Beat where
  | tick
  | key (key : Nat) (pressed : Bool)
  deriving DecidableEq

/-- A call as one of all operations. -/
def Clock.Call.operation : Call → Operation
  | .poll now => .poll now
  | .tick => .tick
  | .stop => .stop
  | .resume now => .resume now
  | .setKey key pressed => .setKey key pressed

/-- A change of an interpreter from outside, as small as they come. -/
inductive Interpreter.Step where
  | countDown
  | cycle
  | takeDirty
  | key (key : Nat) (pressed : Bool)
  deriving DecidableEq

/-- The state behind a step. -/
def Interpreter.step (s : Interpreter) : Step → Interpreter
  | .countDown => s.tickTimers
  | .cycle => s.cycle.state
  | .takeDirty => s.takeDirty.state
  | .key key pressed => s.turn (.setKey key pressed)

/-- The steps of a beat in which nothing halts, where a batch has `count` cycles. -/
def Beat.steps (count : Nat) : Beat → List Interpreter.Step
  | .tick => .countDown :: (List.replicate count .cycle ++ [.takeDirty])
  | .key number pressed => [.key number pressed]

/-- A beat, where a tick runs a batch of `count` cycles. -/
def Interpreter.beat (count : Nat) (s : Interpreter) : Beat → Interpreter
  | .tick => s.tick count
  | .key key pressed => s.turn (.setKey key pressed)

/-- The outcomes of the batches of some beats. -/
def Interpreter.batches (count : Nat) (s : Interpreter) :
    List Beat → List (Outcome Interpreter (Except Halt Unit))
  | [] => []
  | .tick :: beats => s.tickTimers.runCycles count :: batches count (s.tick count) beats
  | .key key pressed :: beats => batches count (s.turn (.setKey key pressed)) beats

namespace Clock

variable {c : Clock} {first now : Nat}

/-- The beats of a call. -/
def Call.beats (c : Clock) : Call → List Beat
  | .poll now => List.replicate (c.ticksRun now) .tick
  | .tick => [.tick]
  | .stop | .resume _ => []
  | .setKey key pressed => [.key key pressed]

/-- The beats of a series of calls. -/
def beats (c : Clock) : List Call → List Beat
  | [] => []
  | call :: calls => call.beats c ++ (c.apply call.operation).state.beats calls

/-- The steps of a series of calls in which nothing halts. -/
def steps (c : Clock) (calls : List Call) : List Interpreter.Step :=
  (c.beats calls).flatMap (Beat.steps c.cyclesPerTick)

/-! ### Beats make up the whole state -/

theorem foldl_tick_beats (count k : Nat) (s : Interpreter) :
    (List.replicate k Beat.tick).foldl (Interpreter.beat count) s =
      (fun s => s.tick count)^[k] s := by
  induction k generalizing s with
  | zero => rfl
  | succ k ih =>
    rw [List.replicate_succ, List.foldl_cons, ih]
    rfl

/-- A call does to the interpreter what its beats do. -/
theorem apply_call_interpreter (c : Clock) (call : Call) :
    (c.apply call.operation).state.interpreter =
      (call.beats c).foldl (Interpreter.beat c.cyclesPerTick) c.interpreter := by
  cases call with
  | poll now =>
    obtain ⟨deadline, hstate⟩ := c.poll_state now
    have hpoll : (c.poll now).state.interpreter = (c.ticked (c.ticksRun now)).interpreter := by
      rw [hstate]
    rw [Call.beats, foldl_tick_beats, ← ticked_interpreter, ← hpoll]
    rfl
  | tick => exact c.tick_interpreter
  | stop => exact c.stop_interpreter
  | resume now =>
    rw [Call.operation, apply, resume]
    split <;> rfl
  | setKey key pressed =>
    rw [Call.operation, apply, setKey]
    simp only [Call.beats, List.foldl_cons, List.foldl_nil, Interpreter.beat, Interpreter.turn]
    cases c.interpreter.setKey key pressed <;> rfl

theorem after_cons (c : Clock) (op : Operation) (history : List Operation) :
    c.after (op :: history) = (c.apply op).state.after history := rfl

theorem after_calls_interpreter (c : Clock) (calls : List Call) :
    (c.after (calls.map Call.operation)).interpreter =
      (c.beats calls).foldl (Interpreter.beat c.cyclesPerTick) c.interpreter := by
  induction calls generalizing c with
  | nil => rfl
  | cons call calls ih =>
    rw [List.map_cons, after_cons, ih, beats, List.foldl_append, apply_call_interpreter,
      (c.apply_settings call.operation).1]

end Clock

/-! ### Beats tell of every execution and of every halt -/

namespace Interpreter

variable {s : Interpreter} {count : Nat}

theorem batches_append (s : Interpreter) (count : Nat) (first second : List Beat) :
    s.batches count (first ++ second) =
      s.batches count first ++ (first.foldl (beat count) s).batches count second := by
  induction first generalizing s with
  | nil => rfl
  | cons b first ih =>
    cases b with
    | tick => exact congrArg (List.cons _) (ih (s.tick count))
    | key number pressed => exact ih _

@[simp] theorem count_tick_key (number : Nat) (pressed : Bool) (beats : List Beat) :
    (Beat.key number pressed :: beats).count .tick = beats.count .tick := by
  have hne : Beat.key number pressed ≠ .tick := by simp
  exact List.count_cons_of_ne hne

/-- Batches that succeed tell of as many executions as they have cycles. -/
theorem length_executed_batches {beats : List Beat}
    (h : ∀ o ∈ s.batches count beats, o.result = .ok ()) :
    (executed ((s.batches count beats).flatMap Outcome.events)).length =
      beats.count .tick * count := by
  induction beats generalizing s with
  | nil => simp [batches]
  | cons b beats ih =>
    cases b with
    | key number pressed =>
      rw [batches] at h ⊢
      rw [ih h, count_tick_key]
    | tick =>
      rw [batches, List.forall_mem_cons] at h
      obtain ⟨hbatch, hrest⟩ := h
      rw [batches, List.flatMap_cons, executed_append, List.length_append,
        length_executed_runCycles hbatch, ih hrest, List.count_cons_self, Nat.succ_mul,
        Nat.add_comm]

end Interpreter

namespace Clock

/-- The batch of the next tick. -/
def batch (c : Clock) : Outcome Interpreter (Except Halt Unit) :=
  c.interpreter.tickTimers.runCycles c.cyclesPerTick

theorem batches_ticks (c : Clock) (n : Nat) :
    c.interpreter.batches c.cyclesPerTick (List.replicate n .tick) =
      (List.range n).map fun j => (c.ticked j).batch := by
  induction n with
  | zero => rfl
  | succ n ih =>
    rw [List.replicate_succ', Interpreter.batches_append, ih, foldl_tick_beats,
      ← ticked_interpreter, List.range_succ, List.map_append, ← ticked_cyclesPerTick c n]
    rfl

theorem executed_stop (c : Clock) : executed c.stop.events = [] := by
  rw [stop]
  split <;> rfl

theorem executed_halted (c : Clock) (halt : Halt) : executed (c.halted halt).events = [] := by
  cases halt with
  | outOfRange => rfl
  | fault f => exact c.executed_stop

/-- A tick halts if its batch does, and tells of the executions of its batch. -/
theorem tick_batch (c : Clock) :
    (c.tick.result.isOk = true ↔ c.batch.result = .ok ()) ∧
      executed c.tick.events = executed c.batch.events := by
  rw [tick, ← batch]
  cases hb : c.batch.result with
  | ok => simp [Except.isOk, Except.toBool]
  | error halt => simp [Except.isOk, Except.toBool, executed_halted]

theorem executed_tickEvents (c : Clock) (n : Nat) :
    executed (c.tickEvents n) =
      executed (((List.range n).map fun j => (c.ticked j).batch).flatMap Outcome.events) := by
  induction n with
  | zero => rfl
  | succ n ih =>
    rw [tickEvents_succ, executed_append, ih, (tick_batch _).2, List.range_succ, List.map_append,
      List.flatMap_append, executed_append]
    simp

/-- A poll halts if one of its ticks does, and tells of their executions. -/
theorem poll_ticks (c : Clock) (now : Nat) :
    ((c.poll now).result.isOk = true ↔
        ∀ j < c.ticksRun now, (c.ticked j).tick.result.isOk = true) ∧
      executed (c.poll now).events = executed (c.tickEvents (c.ticksRun now)) := by
  cases hd : c.deadline with
  | none =>
    rw [poll_of_stopped hd, ticksRun, hd]
    exact ⟨by simp [Except.isOk, Except.toBool], rfl⟩
  | some first =>
    rcases c.results_cases (ticksAllowed first c.period now) with
      ⟨reports, hgood⟩ | ⟨n, hn, reports, halt, hgood, hhalt⟩
    · rw [poll_of_reports hd hgood, ticksRun_of_reports hd hgood]
      refine ⟨iff_of_true rfl (isOk_of_reports hgood), ?_⟩
      dsimp only
      rw [executed_append]
      split <;> exact List.append_nil _
    · rw [poll_of_halt hd hn hgood hhalt, ticksRun_of_halt hd hn hgood hhalt]
      refine ⟨?_, rfl⟩
      constructor
      · intro hok
        cases hok
      · intro hall
        have hlast := hall n (Nat.lt_succ_self n)
        rw [hhalt] at hlast
        cases hlast

/-- A call halts if one of its batches does, and tells of their executions. -/
theorem apply_call_batches (c : Clock) (call : Call) :
    ((c.apply call.operation).result.halt? = none ↔
        ∀ o ∈ c.interpreter.batches c.cyclesPerTick (call.beats c), o.result = .ok ()) ∧
      executed (c.apply call.operation).events =
        executed ((c.interpreter.batches c.cyclesPerTick (call.beats c)).flatMap
          Outcome.events) := by
  cases call with
  | poll now =>
    obtain ⟨hhalt, hevents⟩ := c.poll_ticks now
    rw [Call.beats, batches_ticks]
    refine ⟨?_, hevents.trans (c.executed_tickEvents _)⟩
    rw [Call.operation, apply, Outcome.answering, Answer.halt?_polled, hhalt, List.forall_mem_map]
    simp only [List.mem_range, (tick_batch _).1]
  | tick =>
    obtain ⟨hhalt, hevents⟩ := c.tick_batch
    rw [Call.operation, apply, Outcome.answering, Answer.halt?_ticked, hhalt]
    simp only [Call.beats, Interpreter.batches, List.forall_mem_singleton, List.flatMap_singleton]
    exact ⟨Iff.rfl, hevents⟩
  | stop =>
    rw [Call.operation, apply, stop, Call.beats, Interpreter.batches]
    split <;> simp [Outcome.answering, Answer.halt?, executed, Event.executed?]
  | resume now =>
    rw [Call.operation, apply, resume, Call.beats, Interpreter.batches]
    split <;> simp [Outcome.answering, Answer.halt?, executed, Event.executed?]
  | setKey key pressed =>
    rw [Call.operation, apply, Call.beats, Interpreter.batches, Interpreter.batches]
    cases c.setKey key pressed <;> simp [keyOutcome, Answer.halt?]

/-- What holds of single calls holds of a series. -/
theorem outcomes_batches (c : Clock) (calls : List Call) :
    ((∀ o ∈ c.outcomes (calls.map Call.operation), o.result.halt? = none) ↔
        ∀ o ∈ c.interpreter.batches c.cyclesPerTick (c.beats calls), o.result = .ok ()) ∧
      executed ((c.outcomes (calls.map Call.operation)).flatMap Outcome.events) =
        executed ((c.interpreter.batches c.cyclesPerTick (c.beats calls)).flatMap
          Outcome.events) := by
  induction calls generalizing c with
  | nil => simp [outcomes, beats, Interpreter.batches]
  | cons call calls ih =>
    obtain ⟨hhalt, hevents⟩ := c.apply_call_batches call
    obtain ⟨hhalts, hrest⟩ := ih (c.apply call.operation).state
    rw [(c.apply_settings call.operation).1, apply_call_interpreter] at hhalts hrest
    rw [List.map_cons, outcomes, beats, Interpreter.batches_append, List.flatMap_cons,
      List.flatMap_append, executed_append, executed_append, hevents, hrest, List.forall_mem_cons,
      List.forall_mem_append, hhalt, hhalts]
    exact ⟨Iff.rfl, rfl⟩

end Clock

/-! ### Beats as steps -/

theorem foldl_cycle_steps (n : Nat) (s : Interpreter) :
    (List.replicate n Interpreter.Step.cycle).foldl Interpreter.step s = s.cycled n := by
  induction n generalizing s with
  | zero => rfl
  | succ n ih =>
    rw [List.replicate_succ, List.foldl_cons, ih]
    rfl

/-- A tick that does not halt is the sequence of its steps. -/
theorem foldl_tick_steps {count : Nat} {s : Interpreter}
    (h : (s.tickTimers.runCycles count).result = .ok ()) :
    (Beat.tick.steps count).foldl Interpreter.step s = s.tick count := by
  rw [Beat.steps, List.foldl_cons, List.foldl_append, foldl_cycle_steps, Interpreter.tick,
    Interpreter.step, ← Interpreter.runCycles_state]
  simp only [h]
  rfl

theorem foldl_steps {count : Nat} {s : Interpreter} {beats : List Beat}
    (h : ∀ o ∈ s.batches count beats, o.result = .ok ()) :
    (beats.flatMap (Beat.steps count)).foldl Interpreter.step s =
      beats.foldl (Interpreter.beat count) s := by
  induction beats generalizing s with
  | nil => rfl
  | cons beat beats ih =>
    rw [List.flatMap_cons, List.foldl_append, List.foldl_cons]
    cases beat with
    | key number pressed => exact ih h
    | tick =>
      rw [Interpreter.batches, List.forall_mem_cons] at h
      obtain ⟨hbatch, hrest⟩ := h
      rw [foldl_tick_steps hbatch]
      exact ih hrest

/-- Among the steps of some beats are as many cycles as the batches of their ticks have, and one
count down for each tick. -/
theorem count_steps (count : Nat) (beats : List Beat) :
    (beats.flatMap (Beat.steps count)).count .cycle = beats.count .tick * count ∧
      (beats.flatMap (Beat.steps count)).count .countDown = beats.count .tick := by
  induction beats with
  | nil => simp
  | cons beat beats ih =>
    rw [List.flatMap_cons, List.count_append, List.count_append, ih.1, ih.2]
    cases beat with
    | key number pressed => simp [Beat.steps]
    | tick =>
      rw [List.count_cons_self]
      constructor
      · simp [Beat.steps, Nat.succ_mul, Nat.add_comm]
      · simp [Beat.steps, List.count_replicate, Nat.add_comm]

namespace Clock

variable {c : Clock} {now : Nat}

/-- Behind any series of calls the interpreter is where its beats lead: times decide only how many
ticks there are. Where nothing halts, every tick counts the timers down once and runs its batch to
the end. -/
theorem time_only_decides_ticks (c : Clock) (calls : List Call) :
    (c.after (calls.map Call.operation)).interpreter =
        (c.beats calls).foldl (Interpreter.beat c.cyclesPerTick) c.interpreter ∧
      (∀ (d : Clock) (others : List Call), d.interpreter = c.interpreter →
        d.cyclesPerTick = c.cyclesPerTick → d.beats others = c.beats calls →
          (d.after (others.map Call.operation)).interpreter =
            (c.after (calls.map Call.operation)).interpreter) ∧
      ((∀ o ∈ c.outcomes (calls.map Call.operation), o.result.halt? = none) →
        (c.after (calls.map Call.operation)).interpreter =
            (c.steps calls).foldl Interpreter.step c.interpreter ∧
          (c.steps calls).count .countDown = (c.beats calls).count .tick ∧
          (c.steps calls).count .cycle = (c.beats calls).count .tick * c.cyclesPerTick ∧
          (executed ((c.outcomes (calls.map Call.operation)).flatMap Outcome.events)).length =
            (c.beats calls).count .tick * c.cyclesPerTick) := by
  refine ⟨c.after_calls_interpreter calls, ?_, ?_⟩
  · intro d others hsame hcount hbeats
    rw [after_calls_interpreter, after_calls_interpreter, hsame, hcount, hbeats]
  · intro hquiet
    obtain ⟨hhalts, hexecuted⟩ := c.outcomes_batches calls
    have hsucceed := hhalts.mp hquiet
    obtain ⟨hcycles, hcountDowns⟩ := count_steps c.cyclesPerTick (c.beats calls)
    refine ⟨?_, hcountDowns, hcycles, ?_⟩
    · rw [steps, foldl_steps hsucceed, after_calls_interpreter]
    · rw [hexecuted, Interpreter.length_executed_batches hsucceed]

/-- Three ticks with a key between the first two, interrupted by a pause. -/
def pausedCalls : List Call :=
  [.poll 5, .setKey 3 true, .stop, .poll 30, .resume 40, .poll 55]

/-- The same ticks and key without a pause. -/
def steadyCalls : List Call := [.tick, .setKey 3 true, .poll 15]

theorem pausedCalls_only_decide_ticks :
    ((everyTen beepAndDraw).after (pausedCalls.map Call.operation)).interpreter =
        ((everyTen beepAndDraw).after (steadyCalls.map Call.operation)).interpreter ∧
      (executed (((everyTen beepAndDraw).outcomes (pausedCalls.map Call.operation)).flatMap
        Outcome.events)).length = 6 := by
  have hbeats : (everyTen beepAndDraw).beats pausedCalls =
      (everyTen beepAndDraw).beats steadyCalls := by
    decide +kernel
  have hquiet : ∀ o ∈ (everyTen beepAndDraw).outcomes (pausedCalls.map Call.operation),
      o.result.halt? = none := by
    decide +kernel
  have hticks : ((everyTen beepAndDraw).beats pausedCalls).count .tick = 3 := by
    decide +kernel
  obtain ⟨-, hsame, -⟩ := time_only_decides_ticks (everyTen beepAndDraw) steadyCalls
  obtain ⟨-, -, hall⟩ := time_only_decides_ticks (everyTen beepAndDraw) pausedCalls
  obtain ⟨-, -, -, hexecuted⟩ := hall hquiet
  refine ⟨hsame (everyTen beepAndDraw) pausedCalls rfl rfl hbeats, ?_⟩
  rw [hexecuted, hticks]
  rfl

end Clock

end ChipEight
