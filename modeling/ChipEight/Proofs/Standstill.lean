import ChipEight.Proofs.Beats
import ChipEight.Proofs.Deadline
import ChipEight.Proofs.Reload

/-!
A fault is final. Whether an instruction faults depends on memory, program counter and call stack
alone, and a fault changes none of them. So a program that faulted stands still: until the host
writes to it, resets it or rewinds it, every attempt to go on ends in the same fault, and only keys,
timers and the deadline of the clock move.
-/

namespace ChipEight

/-- An operation that neither writes to a program nor resets nor rewinds it. -/
def Clock.Operation.goesOn : Operation → Bool
  | .inside .cycle | .inside (.runCycles _) | .inside (.setKey _ _) => true
  | .resume _ | .stop | .setKey _ _ | .tick | .poll _ => true
  | .inside _ | .load _ | .reload _ | .reset | .start _ => false

/-- How many ticks an operation runs. -/
def Clock.Operation.ticks (c : Clock) : Operation → Nat
  | .tick => 1
  | .poll now => c.ticksRun now
  | _ => 0

/-- Whether an operation executes an instruction, where a batch has at least one. -/
def Clock.Operation.executes (c : Clock) : Operation → Bool
  | .inside .cycle => true
  | .inside (.runCycles count) => count ≠ 0
  | .tick => true
  | .poll now => c.ticksRun now ≠ 0
  | _ => false

/-- How many ticks a history runs. -/
def Clock.ticksIn (c : Clock) : List Operation → Nat
  | [] => 0
  | op :: history => op.ticks c + ticksIn (c.apply op).state history

namespace Interpreter

variable {s : Interpreter} {halt : Halt}

/-- The interpreter after `ticks` ticks in which no instruction was executed, with its keys moved. -/
def rested (s : Interpreter) (keypad : Keypad) (ticks : Nat) : Interpreter :=
  { s with
    keypad := keypad
    machine := { s.machine with
      delayTimer := Machine.countDown^[ticks] s.machine.delayTimer
      soundTimer := Machine.countDown^[ticks] s.machine.soundTimer } }

theorem rested_rested (s : Interpreter) (keypad keypad' : Keypad) (m n : Nat) :
    (s.rested keypad m).rested keypad' n = s.rested keypad' (m + n) := by
  simp only [rested, Nat.add_comm m n, Function.iterate_add_apply]

theorem tickTimers_eq_rested (s : Interpreter) : s.tickTimers = s.rested s.keypad 1 := rfl

/-- Keys and timers do not matter to a reason to halt. -/
theorem Stops.rested (h : s.Stops halt) (keypad : Keypad) (ticks : Nat) :
    (s.rested keypad ticks).Stops halt := by
  cases h with
  | fetch hw => exact .fetch (s := s.rested keypad ticks) hw
  | unknownInstruction hw hd => exact .unknownInstruction (s := s.rested keypad ticks) hw hd
  | stackOverflow hw hd hpush => exact .stackOverflow (s := s.rested keypad ticks) hw hd hpush
  | stackUnderflow hw hd hpop => exact .stackUnderflow (s := s.rested keypad ticks) hw hd hpop
  | outOfRange hw hd hpop hc => exact .outOfRange (s := s.rested keypad ticks) hw hd hpop hc

/-- A batch that is not empty halts at once. -/
theorem runCycles_of_stops (h : s.Stops halt) {count : Nat} (hcount : count ≠ 0) :
    (s.runCycles count).result = .error halt ∧ (s.runCycles count).state = s := by
  obtain ⟨n, rfl⟩ := Nat.exists_eq_succ_of_ne_zero hcount
  obtain ⟨hresult, hstate⟩ := cycle_of_stops h
  rw [runCycles_succ, hresult]
  exact ⟨rfl, hstate⟩

end Interpreter

namespace Clock

open Interpreter (Stops)

variable {c : Clock} {f : Fault}

/-- The clock after `ticks` ticks in which no instruction was executed, with its keys and its deadline
moved. -/
def rested (c : Clock) (keypad : Keypad) (ticks : Nat) (deadline : Option Nat) : Clock :=
  { c with interpreter := c.interpreter.rested keypad ticks, deadline := deadline }

theorem rested_rested (c : Clock) (keypad keypad' : Keypad) (m n : Nat)
    (deadline deadline' : Option Nat) :
    (c.rested keypad m deadline).rested keypad' n deadline' =
      c.rested keypad' (m + n) deadline' := by
  simp only [rested, Interpreter.rested_rested]

/-! ### Operations that execute nothing -/

/-- An outcome behind which a key and the deadline may have moved, and that tells of no halt. -/
def Quiet (c : Clock) (o : Outcome Clock Answer) : Prop :=
  (∃ keypad deadline, o.state = c.rested keypad 0 deadline) ∧ o.result.halt? = none

theorem quiet_of_unchanged (c : Clock) (events : List Event) {answer : Answer}
    (h : answer.halt? = none) : c.Quiet ⟨c, events, answer⟩ :=
  ⟨⟨c.interpreter.keypad, c.deadline, rfl⟩, h⟩

theorem quiet_stop (c : Clock) : c.Quiet (c.apply .stop) := by
  refine ⟨⟨c.interpreter.keypad, none, ?_⟩, rfl⟩
  exact c.stop_state

theorem quiet_resume (c : Clock) (now : Nat) : c.Quiet (c.apply (.resume now)) := by
  rw [apply, resume]
  split
  · exact c.quiet_of_unchanged [] rfl
  · exact ⟨⟨c.interpreter.keypad, some now, rfl⟩, rfl⟩

theorem quiet_setKey (c : Clock) (key : Nat) (pressed : Bool) :
    c.Quiet (c.apply (.setKey key pressed)) := by
  rw [apply, setKey]
  cases hk : c.interpreter.setKey key pressed with
  | ok t =>
    obtain ⟨keypad, rfl⟩ := Interpreter.exists_keypad_of_setKey hk
    exact ⟨⟨keypad, c.deadline, rfl⟩, rfl⟩
  | error e => exact c.quiet_of_unchanged [] rfl

theorem apply_inside_setKey (c : Clock) (key : Nat) (pressed : Bool) :
    c.apply (.inside (.setKey key pressed)) = c.apply (.setKey key pressed) := by
  rw [apply, apply, Interpreter.apply, setKey]
  cases c.interpreter.setKey key pressed <;> rfl

/-! ### Operations at a fault -/

/-- A clock whose program stands at a fault, with batches of at least one cycle. -/
structure Stuck (c : Clock) (f : Fault) : Prop where
  stops : c.interpreter.Stops (.fault f)
  count_ne_zero : c.cyclesPerTick ≠ 0

theorem Stuck.rested (h : c.Stuck f) (keypad : Keypad) (ticks : Nat) (deadline : Option Nat) :
    (c.rested keypad ticks deadline).Stuck f :=
  ⟨h.stops.rested keypad ticks, h.count_ne_zero⟩

/-- A tick counts the timers down, faults and leaves the clock stopped. -/
theorem Stuck.tick (h : c.Stuck f) :
    c.tick.result = .error (.fault f) ∧
      c.tick.state = c.rested c.interpreter.keypad 1 none := by
  obtain ⟨hresult, hstate⟩ :=
    Interpreter.runCycles_of_stops (h.stops.rested c.interpreter.keypad 1) h.count_ne_zero
  have htick : c.tick.result = .error (.fault f) := by
    rw [Clock.tick, Interpreter.tickTimers_eq_rested]
    simp only [hresult]
  refine ⟨htick, ?_⟩
  obtain ⟨hcount, hperiod⟩ := tick_settings c
  have hstopped := tick_deadline_of_fault htick
  have hinterpreter : c.tick.state.interpreter =
      c.interpreter.rested c.interpreter.keypad 1 := by
    rw [tick_interpreter, Interpreter.tick, Interpreter.tickTimers_eq_rested]
    simp only [hresult, hstate]
  rw [Clock.rested, ← hinterpreter, ← hcount, ← hperiod, ← hstopped]

/-- A poll finds nothing due, or its first tick faults and is the only one. -/
theorem Stuck.poll (h : c.Stuck f) (now : Nat) :
    (c.ticksRun now = 0 ∧ c.poll now = ⟨c, [], .ok none⟩) ∨
      (c.ticksRun now = 1 ∧ (c.poll now).result = .error (.fault f) ∧
        (c.poll now).state = c.rested c.interpreter.keypad 1 none) := by
  have hbefore : c.results 0 = ([] : List TickReport).map .ok := rfl
  cases hd : c.deadline with
  | none =>
    left
    exact ⟨by rw [ticksRun, hd], poll_of_stopped hd now⟩
  | some first =>
    by_cases hdue : first ≤ now
    · right
      have hallowed : 0 < ticksAllowed first c.period now :=
        (lt_ticksAllowed_iff 0).mpr ⟨by decide, by rwa [Nat.zero_mul, Nat.add_zero]⟩
      obtain ⟨hresult, hstate⟩ := h.tick
      have hstopped : (c.ticked 1).deadline = none := tick_deadline_of_fault hresult
      rw [poll_of_halt hd hallowed hbefore hresult, ticksRun_of_halt hd hallowed hbefore hresult,
        reschedule_of_stopped hstopped]
      exact ⟨rfl, rfl, hstate⟩
    · left
      have hnone : ticksAllowed first c.period now = 0 := by
        by_contra hsome
        have hfirst := ((lt_ticksAllowed_iff 0).mp (Nat.pos_of_ne_zero hsome)).2
        omega
      refine ⟨?_, poll_of_early hd (Nat.lt_of_not_le hdue)⟩
      rw [← hnone] at hbefore ⊢
      exact ticksRun_of_reports hd hbefore

/-- What becomes of an operation at a fault: a key and the deadline may move, the timers count down in
each of its ticks, it tells the fault if it executes an instruction, and a tick leaves the clock
stopped. -/
structure Stands (c : Clock) (f : Fault) (op : Operation) : Prop where
  state_eq : ∃ keypad deadline, (c.apply op).state = c.rested keypad (op.ticks c) deadline
  halt_eq : (c.apply op).result.halt? = if op.executes c then some (.fault f) else none
  stopped : op.ticks c ≠ 0 → (c.apply op).state.deadline = none

theorem Quiet.stands {op : Operation} (h : c.Quiet (c.apply op)) (hticks : op.ticks c = 0)
    (hnone : op.executes c = false) : c.Stands f op where
  state_eq := by
    rw [hticks]
    exact h.1
  halt_eq := by
    rw [hnone]
    exact h.2
  stopped hsome := absurd hticks hsome

theorem Stuck.stands_inside (h : c.Stuck f) {operation : Interpreter.Operation}
    (hgo : (Operation.inside operation).goesOn = true) : c.Stands f (.inside operation) := by
  cases operation with
  | load | reset | rewind => cases hgo
  | setKey key pressed =>
    have hquiet := c.quiet_setKey key pressed
    rw [← apply_inside_setKey] at hquiet
    exact hquiet.stands rfl rfl
  | cycle =>
    obtain ⟨hresult, hstate⟩ := Interpreter.cycle_of_stops h.stops
    refine ⟨⟨c.interpreter.keypad, c.deadline, ?_⟩, ?_, fun hsome => absurd rfl hsome⟩
    · exact congrArg (fun s => { c with interpreter := s }) hstate
    · exact congrArg (fun r => (Answer.ran r).halt?) hresult
  | runCycles count =>
    by_cases hcount : count = 0
    · subst hcount
      exact Quiet.stands (c.quiet_of_unchanged [] rfl) rfl rfl
    · obtain ⟨hresult, hstate⟩ := Interpreter.runCycles_of_stops h.stops hcount
      refine ⟨⟨c.interpreter.keypad, c.deadline, ?_⟩, ?_, fun hsome => absurd rfl hsome⟩
      · exact congrArg (fun s => { c with interpreter := s }) hstate
      · rw [Operation.executes, if_pos (decide_eq_true hcount)]
        exact congrArg (fun r => (Answer.ran r).halt?) hresult

/-- Every operation that goes on with a program at a fault leaves it there. -/
theorem Stuck.stands (h : c.Stuck f) {op : Operation} (hgo : op.goesOn = true) :
    c.Stands f op := by
  cases op with
  | load | reload | reset | start => cases hgo
  | inside operation => exact h.stands_inside hgo
  | stop => exact c.quiet_stop.stands rfl rfl
  | resume now => exact (c.quiet_resume now).stands rfl rfl
  | setKey key pressed => exact (c.quiet_setKey key pressed).stands rfl rfl
  | tick =>
    obtain ⟨hresult, hstate⟩ := h.tick
    refine ⟨⟨_, _, hstate⟩, ?_, fun _ => congrArg Clock.deadline hstate⟩
    exact congrArg (fun r => (Answer.ticked r).halt?) hresult
  | poll now =>
    rcases h.poll now with ⟨hticks, hpoll⟩ | ⟨hticks, hresult, hstate⟩
    · have hquiet : c.Quiet (c.apply (.poll now)) := by
        rw [apply, hpoll]
        exact c.quiet_of_unchanged [] rfl
      exact hquiet.stands hticks (by rw [Operation.executes, hticks]; rfl)
    · refine ⟨⟨c.interpreter.keypad, none, ?_⟩, ?_, fun _ => congrArg Clock.deadline hstate⟩
      · rw [Operation.ticks, hticks]
        exact hstate
      · rw [Operation.executes, hticks]
        exact congrArg (fun r => (Answer.polled r).halt?) hresult

/-- A history of operations that go on leaves a program at its fault. -/
theorem Stuck.after (h : c.Stuck f) {history : List Operation}
    (hgo : ∀ op ∈ history, op.goesOn = true) :
    ∃ keypad deadline, c.after history = c.rested keypad (c.ticksIn history) deadline := by
  induction history generalizing c with
  | nil => exact ⟨c.interpreter.keypad, c.deadline, rfl⟩
  | cons op history ih =>
    rw [List.forall_mem_cons] at hgo
    obtain ⟨keypad, deadline, hstate⟩ := (h.stands hgo.1).state_eq
    have hstuck := h.rested keypad (op.ticks c) deadline
    rw [← hstate] at hstuck
    obtain ⟨keypad', deadline', hafter⟩ := ih hstuck hgo.2
    refine ⟨keypad', deadline', ?_⟩
    rw [after_cons, hafter, hstate, rested_rested, ticksIn, ← hstate]

/-- A fault is final. Behind any history of operations that neither write to the program nor reset
nor rewind it, everything is as it was at the fault, but for keys, for the timers, which counted down
once for each tick, and for the deadline; and an operation that executes an instruction tells the
same fault again, with the clock stopped if it is a tick or a poll. -/
theorem fault_is_final (c : Clock) (f : Fault) (history : List Operation)
    (hfault : c.interpreter.cycle.result = .error (.fault f)) (hcount : 1 ≤ c.cyclesPerTick)
    (hgo : ∀ op ∈ history, op.goesOn = true) :
    (∃ keypad deadline, c.after history =
      { c with
        interpreter := { c.interpreter with
          keypad := keypad
          machine := { c.interpreter.machine with
            delayTimer := Machine.countDown^[c.ticksIn history] c.interpreter.machine.delayTimer
            soundTimer := Machine.countDown^[c.ticksIn history] c.interpreter.machine.soundTimer } }
        deadline := deadline }) ∧
      ∀ op : Operation, op.goesOn = true →
        ((c.after history).apply op).result.halt? =
            (if op.executes (c.after history) then some (.fault f) else none) ∧
          (op.ticks (c.after history) ≠ 0 →
            ((c.after history).apply op).state.deadline = none) := by
  have hstuck : c.Stuck f :=
    ⟨Interpreter.result_eq_error_iff.mp hfault, Nat.one_le_iff_ne_zero.mp hcount⟩
  obtain ⟨keypad, deadline, hafter⟩ := hstuck.after hgo
  refine ⟨⟨keypad, deadline, hafter⟩, fun op hop => ?_⟩
  have hstands := (hstuck.rested keypad (c.ticksIn history) deadline).stands hop
  rw [← hafter] at hstands
  exact ⟨hstands.halt_eq, hstands.stopped⟩

/-- A clock whose program returns from no call: `00EE`. Its delay timer runs. -/
def stranded : Clock :=
  let c := everyTen [0x00, 0xEE]
  { c with interpreter := { c.interpreter with
      machine := { c.interpreter.machine with delayTimer := 5 } } }

/-- A poll for which three ticks are due, a key, a pause, and a tick and a poll behind it. -/
def lateAttempts : List Operation :=
  [.poll 25, .setKey 3 true, .stop, .tick, .resume 40, .inside .cycle, .poll 90]

theorem stranded_fault_is_final :
    stranded.interpreter.cycle.result = .error (.fault (.stackUnderflow 0x200 0x00EE)) ∧
      1 ≤ stranded.cyclesPerTick ∧ (∀ op ∈ lateAttempts, op.goesOn = true) ∧
      (stranded.after lateAttempts).interpreter.machine.delayTimer = 2 ∧
      (stranded.after lateAttempts).interpreter.machine.pc = 0x200 ∧
      ((stranded.after lateAttempts).apply (.inside (.runCycles 7))).result.halt? =
        some (.fault (.stackUnderflow 0x200 0x00EE)) := by
  have hfault : stranded.interpreter.cycle.result =
      .error (.fault (.stackUnderflow 0x200 0x00EE)) := by
    decide +kernel
  have hgo : ∀ op ∈ lateAttempts, op.goesOn = true := by decide
  have hticks : stranded.ticksIn lateAttempts = 3 := by decide +kernel
  obtain ⟨⟨keypad, deadline, hafter⟩, hlater⟩ :=
    fault_is_final stranded _ lateAttempts hfault (by decide) hgo
  rw [hticks] at hafter
  refine ⟨hfault, by decide, hgo, ?_, ?_, (hlater (.inside (.runCycles 7)) rfl).1⟩
  · rw [hafter]
    rfl
  · rw [hafter]
    rfl

end Clock

end ChipEight
