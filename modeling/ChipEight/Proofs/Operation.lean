import ChipEight.Clock

/-!
Everything a host can ask of a clock and of the interpreter in it, as data, and what every sequence
of such operations keeps. A property of interpreters that cycles, ticks and the host's few direct
changes keep holds after any history; ticks and polls are taken apart here once and for all.
-/

namespace ChipEight

/-- What a host can ask of an interpreter. -/
inductive Interpreter.Operation where
  | load (program : List UInt8)
  | reset
  | rewind
  | setKey (key : Nat) (pressed : Bool)
  | cycle
  | runCycles (count : Nat)
  deriving DecidableEq

/-- What a host can ask of a clock, or of the interpreter in it. -/
inductive Clock.Operation where
  | inside (operation : Interpreter.Operation)
  | load (program : List UInt8)
  | reload (program : List UInt8)
  | reset
  | start (now : Nat)
  | resume (now : Nat)
  | stop
  | setKey (key : Nat) (pressed : Bool)
  | tick
  | poll (now : Nat)
  deriving DecidableEq

/-- What an operation answers. -/
inductive Answer where
  | done
  | loaded (result : Except LoadError Unit)
  | moved (result : Except KeyError Unit)
  | ran (result : Except Halt Unit)
  | ticked (result : Except Halt TickReport)
  | polled (result : Except Halt (Option TickReport))
  deriving DecidableEq

/-- The halt that an answer tells of. -/
def Answer.halt? : Answer → Option Halt
  | .ran (.error halt) | .ticked (.error halt) | .polled (.error halt) => some halt
  | _ => none

theorem Answer.halt?_ticked (result : Except Halt TickReport) :
    (Answer.ticked result).halt? = none ↔ result.isOk = true := by
  cases result <;> simp [halt?, Except.isOk, Except.toBool]

theorem Answer.halt?_polled (result : Except Halt (Option TickReport)) :
    (Answer.polled result).halt? = none ↔ result.isOk = true := by
  cases result <;> simp [halt?, Except.isOk, Except.toBool]

/-- The same outcome with its result as an answer. -/
def Outcome.answering {σ ρ : Type} (o : Outcome σ ρ) (answer : ρ → Answer) : Outcome σ Answer :=
  ⟨o.state, o.events, answer o.result⟩

/-- The outcome of moving a key: a key that the keypad does not have leaves the state. -/
def keyOutcome {σ : Type} (old : σ) : Except KeyError σ → Outcome σ Answer
  | .ok new => ⟨new, [], .moved (.ok ())⟩
  | .error e => ⟨old, [], .moved (.error e)⟩

namespace Interpreter

/-- Does what the host asks. -/
def apply (s : Interpreter) : Operation → Outcome Interpreter Answer
  | .load program => (s.load program).answering .loaded
  | .reset => s.reset.answering fun _ => .done
  | .rewind => ⟨s.rewind, [], .done⟩
  | .setKey key pressed => keyOutcome s (s.setKey key pressed)
  | .cycle => s.cycle.answering .ran
  | .runCycles count => (s.runCycles count).answering .ran

/-- A key that moves changes the keypad and nothing else. -/
theorem exists_keypad_of_setKey {s t : Interpreter} {key : Nat} {pressed : Bool}
    (h : s.setKey key pressed = .ok t) : ∃ keypad, t = { s with keypad := keypad } := by
  rw [setKey] at h
  cases hk : s.keypad.set key pressed with
  | error e =>
    rw [hk] at h
    cases h
  | ok keypad =>
    rw [hk] at h
    cases h
    exact ⟨keypad, rfl⟩

/-- A property that a tick keeps: cycles, counting down and taking the display's flag. -/
structure KeptByTicks (P : Interpreter → Prop) : Prop where
  cycle : ∀ {s : Interpreter}, P s → P s.cycle.state
  tickTimers : ∀ {s : Interpreter}, P s → P s.tickTimers
  takeDirty : ∀ {s : Interpreter}, P s → P s.takeDirty.state

/-- A property that every operation keeps. -/
structure Invariant (P : Interpreter → Prop) : Prop extends KeptByTicks P where
  load : ∀ {s : Interpreter} (program : List UInt8), P s → P (s.load program).state
  reset : ∀ {s : Interpreter}, P s → P s.reset.state
  rewind : ∀ {s : Interpreter}, P s → P s.rewind
  setKey : ∀ {s t : Interpreter} {key : Nat} {pressed : Bool},
    s.setKey key pressed = .ok t → P s → P t

variable {P : Interpreter → Prop} {s : Interpreter}

theorem KeptByTicks.runCycles (hP : KeptByTicks P) (h : P s) (count : Nat) :
    P (s.runCycles count).state := by
  induction count generalizing s with
  | zero => exact h
  | succ count ih =>
    rw [runCycles_succ]
    have hnext := hP.cycle h
    cases s.cycle.result with
    | ok => exact ih hnext
    | error halt => exact hnext

theorem Invariant.apply (hP : Invariant P) (h : P s) (op : Operation) : P (s.apply op).state := by
  cases op with
  | load program => exact hP.load program h
  | reset => exact hP.reset h
  | rewind => exact hP.rewind h
  | cycle => exact hP.cycle h
  | runCycles count => exact hP.runCycles h count
  | setKey key pressed =>
    rw [Interpreter.apply]
    cases hk : s.setKey key pressed with
    | ok t => exact hP.setKey hk h
    | error e => exact h

end Interpreter

namespace Clock

open Interpreter (KeptByTicks Invariant)

/-- Does what the host asks. -/
def apply (c : Clock) : Operation → Outcome Clock Answer
  | .inside operation =>
    (c.interpreter.apply operation).inside fun s => { c with interpreter := s }
  | .load program => (c.load program).answering .loaded
  | .reload program => (c.reload program).answering .loaded
  | .reset => c.reset.answering fun _ => .done
  | .start now => (c.start now).answering fun _ => .done
  | .resume now => (c.resume now).answering fun _ => .done
  | .stop => c.stop.answering fun _ => .done
  | .setKey key pressed => keyOutcome c (c.setKey key pressed)
  | .tick => c.tick.answering .ticked
  | .poll now => (c.poll now).answering .polled

/-- The clock after a history of operations. -/
def after (c : Clock) (history : List Operation) : Clock :=
  history.foldl (fun c op => (c.apply op).state) c

/-- The outcome of every operation of a history. -/
def outcomes (c : Clock) : List Operation → List (Outcome Clock Answer)
  | [] => []
  | op :: history => c.apply op :: (c.apply op).state.outcomes history

variable {P : Interpreter → Prop} {c : Clock}

@[simp] theorem stop_interpreter (c : Clock) : c.stop.state.interpreter = c.interpreter := by
  rw [stop]
  split <;> rfl

@[simp] theorem halted_interpreter (c : Clock) (halt : Halt) :
    (c.halted halt).state.interpreter = c.interpreter := by
  cases halt with
  | fault fault => exact c.stop_interpreter
  | outOfRange => rfl

theorem kept_by_tick (hP : KeptByTicks P) (h : P c.interpreter) :
    P c.tick.state.interpreter := by
  have hbatch := hP.runCycles (hP.tickTimers h) c.cyclesPerTick
  rw [tick]
  dsimp only
  split
  · exact hP.takeDirty hbatch
  · rw [halted_interpreter]
    exact hbatch

theorem kept_by_pollFrom (hP : KeptByTicks P) (now left : Nat) (report : Option TickReport)
    (h : P c.interpreter) : P (pollFrom now left report c).state.interpreter := by
  induction left generalizing c report with
  | zero =>
    rw [pollFrom]
    split
    · exact h
    · split <;> exact h
  | succ left ih =>
    rw [pollFrom]
    split
    · exact h
    · rename_i due hdue
      split
      · exact h
      · have hticked := kept_by_tick (c := { c with deadline := some (due + c.period) }) hP h
        dsimp only
        split
        · exact hticked
        · exact ih _ hticked

theorem kept_by_reset (hP : Invariant P) (h : P c.interpreter) :
    P c.reset.state.interpreter := hP.reset h

theorem kept_by_apply (hP : Invariant P) (h : P c.interpreter) (op : Operation) :
    P (c.apply op).state.interpreter := by
  cases op with
  | inside operation => exact hP.apply h operation
  | load program => exact hP.load program h
  | reload program => exact hP.load program (kept_by_reset hP h)
  | reset => exact kept_by_reset hP h
  | tick => exact kept_by_tick hP.toKeptByTicks h
  | poll now => exact kept_by_pollFrom hP.toKeptByTicks now catchUpLimit none h
  | start now =>
    rw [apply, start]
    split
    · exact h
    · exact hP.rewind h
  | resume now =>
    rw [apply, resume]
    split <;> exact h
  | stop =>
    rw [apply, Outcome.answering, stop_interpreter]
    exact h
  | setKey key pressed =>
    rw [apply, setKey]
    cases hk : c.interpreter.setKey key pressed with
    | ok t => exact hP.setKey hk h
    | error e => exact h

/-- What every operation keeps holds after every history. -/
theorem kept_after (hP : Invariant P) (h : P c.interpreter) (history : List Operation) :
    P (c.after history).interpreter := by
  induction history generalizing c with
  | nil => exact h
  | cons op history ih => exact ih (kept_by_apply hP h op)

end Clock

end ChipEight
