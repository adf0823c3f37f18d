import ChipEight.Proofs.Components
import ChipEight.Proofs.Poll

/-!
What batches, ticks and polls tell. A cycle tells of its execution and, at most, of a native call. A
relation between a state, the events that are emitted and the state behind them holds of every batch
if it holds of a cycle; it holds of every tick and of every poll if it holds of the parts that these
are put together from.
-/

namespace ChipEight

namespace Interpreter

variable {s : Interpreter} {word : Word} {i : Instruction} {e : Effect}

/-- The warnings that executing an instruction gives. -/
def warnings (s : Interpreter) : Instruction → List Event
  | .native nnn => if s.machine.pc ∈ s.reported then [] else [.nativeCall s.machine.pc nnn]
  | _ => []

theorem events_awaitKeyIn (x : Nat) : (s.awaitKeyIn x).events = [] := by
  rw [awaitKeyIn]
  split <;> rfl

/-- Executing an instruction gives its warnings and no other events. -/
theorem events_of_perform (h : s.perform word i = .ok e) : e.events = s.warnings i := by
  cases i with
  | native nnn =>
    cases h
    rw [callNative, warnings]
    split <;> rfl
  | ret =>
    obtain ⟨stack, target, rfl⟩ := exists_of_returnFrom h
    rfl
  | call nnn =>
    obtain ⟨stack, target, rfl⟩ := exists_of_call h
    rfl
  | awaitKey x =>
    cases h
    exact events_awaitKeyIn x
  | jumpOffset nnn =>
    obtain ⟨target, rfl⟩ := exists_of_jumpOffset h
    rfl
  | addIndex x =>
    cases (s.addIndex_eq x).symm.trans h
    rfl
  | random x nn =>
    obtain ⟨value, generator, heq⟩ := s.random_eq x nn
    cases heq.symm.trans h
    rfl
  | _ =>
    cases h
    rfl

/-- An instruction that halts gives no warning. -/
theorem warnings_of_halt {halt : Halt} (h : s.perform word i = .error halt) :
    s.warnings i = [] := by
  cases i with
  | native nnn => cases h
  | _ => rfl

theorem cycle_events (hw : s.word? = some word) (hd : decode word = some i) :
    s.cycle.events = .executing s.machine.pc word i :: s.warnings i := by
  cases hp : s.perform word i with
  | ok e => rw [cycle_of_effect hw hd hp, events_of_perform hp]
  | error halt => rw [cycle_of_halt hw hd hp, warnings_of_halt hp]

/-- A relation between an interpreter, the events it emits and the interpreter behind them that can
be followed from cycle to cycle. -/
structure Chronicle (R : Interpreter → List Event → Interpreter → Prop) : Prop where
  refl : ∀ s, R s [] s
  trans : ∀ {s t u : Interpreter} {first second : List Event},
    R s first t → R t second u → R s (first ++ second) u
  cycle : ∀ s, R s s.cycle.events s.cycle.state

theorem Chronicle.runCycles {R : Interpreter → List Event → Interpreter → Prop} (hR : Chronicle R)
    (s : Interpreter) (count : Nat) : R s (s.runCycles count).events (s.runCycles count).state := by
  induction count generalizing s with
  | zero => exact hR.refl s
  | succ count ih =>
    rw [runCycles_succ]
    cases s.cycle.result with
    | ok => exact hR.trans (hR.cycle s) (ih s.cycle.state)
    | error halt => exact hR.cycle s

end Interpreter

namespace Clock

/-- A relation between a clock, the events it emits and the clock behind them that can be followed
through the parts of a tick and of a poll. -/
structure Chronicle (R : Clock → List Event → Clock → Prop) : Prop where
  refl : ∀ c, R c [] c
  trans : ∀ {c d e : Clock} {first second : List Event},
    R c first d → R d second e → R c (first ++ second) e
  tickTimers : ∀ c, R c [] { c with interpreter := c.interpreter.tickTimers }
  runCycles : ∀ c count, R c (c.interpreter.runCycles count).events
    { c with interpreter := (c.interpreter.runCycles count).state }
  takeDirty : ∀ c, R c [] { c with interpreter := c.interpreter.takeDirty.state }
  faulted : ∀ c fault, R c [.faulted fault] c
  stop : ∀ c, R c c.stop.events c.stop.state
  reschedule : ∀ c time, R c [] (c.reschedule time)
  behind : ∀ c, R c [.clockBehind c.period] c

namespace Chronicle

variable {R : Clock → List Event → Clock → Prop}

theorem halted (hR : Chronicle R) (c : Clock) (halt : Halt) :
    R c (c.halted halt).events (c.halted halt).state := by
  cases halt with
  | fault fault => exact hR.trans (hR.faulted c fault) (hR.stop c)
  | outOfRange => exact hR.refl c

theorem tick (hR : Chronicle R) (c : Clock) : R c c.tick.events c.tick.state := by
  have hbatch := hR.trans (hR.tickTimers c)
    (hR.runCycles { c with interpreter := c.interpreter.tickTimers } c.cyclesPerTick)
  rw [List.nil_append] at hbatch
  rw [Clock.tick]
  generalize c.interpreter.tickTimers.runCycles c.cyclesPerTick = batch at hbatch ⊢
  dsimp only
  split
  · have htaken := hR.trans hbatch (hR.takeDirty { c with interpreter := batch.state })
    rwa [List.append_nil] at htaken
  · exact hR.trans hbatch (hR.halted { c with interpreter := batch.state } _)

/-- A tick that runs in a poll has its deadline moved on. -/
theorem tick_reschedule (hR : Chronicle R) (c : Clock) (time : Nat) :
    R c c.tick.events (c.tick.state.reschedule time) := by
  have h := hR.trans (hR.tick c) (hR.reschedule c.tick.state time)
  rwa [List.append_nil] at h

theorem pollFrom (hR : Chronicle R) (now left : Nat) (report : Option TickReport) (c : Clock) :
    R c (Clock.pollFrom now left report c).events (Clock.pollFrom now left report c).state := by
  induction left generalizing c report with
  | zero =>
    cases hd : c.deadline with
    | none =>
      rw [Clock.pollFrom, hd]
      exact hR.refl c
    | some due =>
      by_cases hearly : now < due
      · rw [pollFrom_of_early hd hearly]
        exact hR.refl c
      · have hmoved := hR.trans (hR.behind c) (hR.reschedule c (now + c.period))
        rw [Clock.reschedule, hd] at hmoved
        rw [pollFrom_of_spent hd (Nat.le_of_not_lt hearly)]
        exact hmoved
  | succ left ih =>
    cases hd : c.deadline with
    | none =>
      rw [Clock.pollFrom, hd]
      exact hR.refl c
    | some due =>
      by_cases hearly : now < due
      · rw [pollFrom_of_early hd hearly]
        exact hR.refl c
      · have hticked := hR.tick_reschedule c (due + c.period)
        rw [pollFrom_of_due hd (Nat.le_of_not_lt hearly)]
        cases c.tick.result with
        | error halt => exact hticked
        | ok r => exact hR.trans hticked (ih _ _)

theorem poll (hR : Chronicle R) (c : Clock) (now : Nat) :
    R c (c.poll now).events (c.poll now).state :=
  hR.pollFrom now catchUpLimit none c

end Chronicle

end Clock

end ChipEight
