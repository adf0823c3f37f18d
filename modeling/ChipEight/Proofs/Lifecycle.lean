import ChipEight.Proofs.Chronicle
import ChipEight.Proofs.Deadline
import ChipEight.Proofs.LogLines
import ChipEight.Proofs.Reload

/-!
When a clock runs. Starting and resuming switch it on; stopping, resetting, reloading and a fault
switch it off; the last of them decides. The log tells of every switch that changes something, so
its starts and stops alternate.
-/

namespace ChipEight

/-! ### Switches -/

/-- Whether an answer tells that a tick faulted. -/
def Answer.isFault (answer : Answer) : Bool := answer.halt?.any fun halt => halt ≠ .outOfRange

/-- How an operation with this answer switches a clock: on, off, or not at all. -/
def Clock.Operation.switch? (answer : Answer) : Clock.Operation → Option Bool
  | .start _ | .resume _ => some true
  | .stop | .reset | .reload _ => some false
  | .tick | .poll _ => if answer.isFault then some false else none
  | .inside _ | .load _ | .setKey _ _ => none

/-- How an event tells that a clock was switched. -/
def Event.switch? : Event → Option Bool
  | .clockStarted _ _ | .clockResumed _ => some true
  | .clockStopped _ => some false
  | _ => none

/-- How a line of a log tells that a clock was switched. -/
def lineSwitch? (line : String) : Option Bool :=
  if "[DEBUG chip8vm::clock] clock started".toList.isPrefixOf line.toList then some true
  else if "[DEBUG chip8vm::clock] clock resumed".toList.isPrefixOf line.toList then some true
  else if "[DEBUG chip8vm::clock] clock stopped".toList.isPrefixOf line.toList then some false
  else none

theorem lineSwitch?_logLine (e : Event) : lineSwitch? e.logLine = e.switch? := by
  rw [lineSwitch?, e.toList_logLine]
  -- lines of other components and levels differ before the wording, those of the clock in it
  cases e with
  | clockStarted cycles period =>
    have htext : (Event.clockStarted cycles period).text =
        "clock started, " ++ toString cycles ++ " cycles every " ++ Text.span period := rfl
    simp [htext, Event.switch?, Event.level, Event.source, Level.name, List.rightpad]
  | clockResumed pc =>
    have htext : (Event.clockResumed pc).text =
        "clock resumed at " ++ Text.hexLiteral 3 pc.toNat := rfl
    simp [htext, Event.switch?, Event.level, Event.source, Level.name, List.rightpad]
  | clockStopped pc =>
    have htext : (Event.clockStopped pc).text =
        "clock stopped at " ++ Text.hexLiteral 3 pc.toNat := rfl
    simp [htext, Event.switch?, Event.level, Event.source, Level.name, List.rightpad]
  | clockBehind period =>
    have htext : (Event.clockBehind period).text =
        "clock fell behind, skipping to " ++ Text.span period ++ " from now" := rfl
    simp [htext, Event.switch?, Event.level, Event.source, Level.name, List.rightpad]
  | _ => simp [Event.switch?, Event.level, Event.source, Level.name, List.rightpad]

/-- A log that shows the switches tells of all of them. -/
theorem lineSwitch?_logText (events : List Event) :
    (Text.lines (logText (some .debug) events)).filterMap lineSwitch? =
      events.filterMap Event.switch? := by
  rw [lines_logText, List.filterMap_map, List.filterMap_filter]
  refine List.filterMap_congr fun e _ => ?_
  rw [Function.comp_apply, lineSwitch?_logLine]
  cases e <;> rfl

/-! ### Alternation -/

/-- Switches that alternate lead from one state of a clock to another. -/
structure Toggles (before : Bool) (switches : List Bool) (after : Bool) : Prop where
  alternate : (before :: switches).IsChain (· ≠ ·)
  last_eq : switches.getLast?.getD before = after

namespace Toggles

variable {before between after : Bool} {first second : List Bool}

theorem nil (running : Bool) : Toggles running [] running :=
  ⟨List.isChain_singleton _, rfl⟩

theorem single (h : before ≠ after) : Toggles before [after] after :=
  ⟨List.isChain_pair.mpr h, rfl⟩

theorem append (h : Toggles before first between) (k : Toggles between second after) :
    Toggles before (first ++ second) after := by
  obtain ⟨hhead, htail⟩ := List.isChain_cons.mp k.alternate
  constructor
  · rw [← List.cons_append, List.isChain_append]
    refine ⟨h.alternate, htail, fun x hx y hy => ?_⟩
    rw [List.getLast?_cons, h.last_eq, Option.mem_some_iff] at hx
    exact hx ▸ hhead y hy
  · rw [List.getLast?_append, Option.getD_or, h.last_eq, k.last_eq]

end Toggles

namespace Interpreter

/-- Cycles tell of no switch. -/
theorem silent_chronicle : Chronicle fun _ events _ => events.filterMap Event.switch? = [] where
  refl _ := rfl
  trans := by
    intro _ _ _ first second h k
    rw [List.filterMap_append, h, k, List.append_nil]
  cycle s := by
    cases hw : s.word? with
    | none => rw [cycle_of_no_word hw, List.filterMap_nil]
    | some word =>
      cases hd : decode word with
      | none => rw [cycle_of_no_instruction hw hd, List.filterMap_nil]
      | some i =>
        rw [cycle_events hw hd, List.filterMap_cons_none rfl]
        cases i with
        | native nnn =>
          rw [warnings]
          split <;> rfl
        | _ => rfl

theorem silent_load (s : Interpreter) (program : List UInt8) :
    (s.load program).events.filterMap Event.switch? = [] := by
  rw [load, Machine.load]
  split <;> rfl

theorem silent_apply (s : Interpreter) (op : Operation) :
    (s.apply op).events.filterMap Event.switch? = [] := by
  cases op with
  | cycle => exact silent_chronicle.cycle s
  | runCycles count => exact silent_chronicle.runCycles s count
  | load program => exact s.silent_load program
  | reset | rewind => rfl
  | setKey key pressed =>
    rw [apply]
    cases s.setKey key pressed <;> rfl

end Interpreter

namespace Clock

variable {c : Clock} {now : Nat}

/-- The events account for how the clock was switched between two states. -/
def Switched (c : Clock) (events : List Event) (d : Clock) : Prop :=
  Toggles c.isRunning (events.filterMap Event.switch?) d.isRunning

theorem switched_of_silent {events : List Event} {d : Clock}
    (hsilent : events.filterMap Event.switch? = []) (hsame : d.isRunning = c.isRunning) :
    Switched c events d := by
  rw [Switched, hsilent, hsame]
  exact .nil _

theorem Switched.after {d e : Clock} {first second : List Event} (h : Switched c first d)
    (k : Switched d second e) : Switched c (first ++ second) e := by
  rw [Switched, List.filterMap_append]
  exact h.append k

theorem switched_stop (c : Clock) : Switched c c.stop.events c.stop.state := by
  cases hd : c.deadline with
  | none =>
    rw [stop, hd]
    exact switched_of_silent rfl rfl
  | some due =>
    rw [stop, hd, Switched, isRunning, hd, Option.isSome_some]
    exact .single (by decide)

theorem switched_start (c : Clock) (now : Nat) :
    Switched c (c.start now).events (c.start now).state := by
  cases hd : c.deadline with
  | none =>
    rw [start, hd, Switched, isRunning, hd]
    exact .single (by decide)
  | some due =>
    rw [start, hd]
    exact switched_of_silent rfl rfl

theorem switched_resume (c : Clock) (now : Nat) :
    Switched c (c.resume now).events (c.resume now).state := by
  cases hd : c.deadline with
  | none =>
    rw [resume, hd, Switched, isRunning, hd]
    exact .single (by decide)
  | some due =>
    rw [resume, hd]
    exact switched_of_silent rfl rfl

/-- Batches are silent, and the fault of a tick stops the clock. -/
theorem switched_chronicle : Chronicle Switched where
  refl _ := switched_of_silent rfl rfl
  trans := Switched.after
  tickTimers _ := switched_of_silent rfl rfl
  runCycles c count :=
    switched_of_silent (Interpreter.silent_chronicle.runCycles c.interpreter count) rfl
  takeDirty _ := switched_of_silent rfl rfl
  faulted _ _ := switched_of_silent rfl rfl
  stop := switched_stop
  reschedule _ _ := switched_of_silent rfl Option.isSome_map
  behind _ := switched_of_silent rfl rfl

theorem switched_reset (c : Clock) : Switched c c.reset.events c.reset.state := by
  have hreset : Switched c.stop.state [.machineReset] c.reset.state := switched_of_silent rfl rfl
  exact c.switched_stop.after hreset

theorem switched_apply (c : Clock) (op : Operation) :
    Switched c (c.apply op).events (c.apply op).state := by
  cases op with
  | inside operation => exact switched_of_silent (c.interpreter.silent_apply operation) rfl
  | load program => exact switched_of_silent (c.interpreter.silent_load program) rfl
  | reset => exact c.switched_reset
  | reload program =>
    have hsilent := c.reset.state.interpreter.silent_load program
    exact c.switched_reset.after (switched_of_silent hsilent rfl)
  | start now => exact c.switched_start now
  | resume now => exact c.switched_resume now
  | stop => exact c.switched_stop
  | tick => exact switched_chronicle.tick c
  | poll now => exact switched_chronicle.poll c now
  | setKey key pressed =>
    rw [apply, setKey]
    cases c.interpreter.setKey key pressed <;> exact switched_of_silent rfl rfl

/-- What a history tells of switches alternates. -/
theorem switched_after (c : Clock) (history : List Operation) :
    Switched c ((c.outcomes history).flatMap Outcome.events) (c.after history) := by
  induction history generalizing c with
  | nil => exact switched_of_silent rfl rfl
  | cons op history ih => exact (c.switched_apply op).after (ih _)

/-! ### The last switch -/

theorem tick_deadline_of_outOfRange (h : c.tick.result = .error .outOfRange) :
    c.tick.state.deadline = c.deadline := by
  rw [tick] at h ⊢
  cases hb : (c.interpreter.tickTimers.runCycles c.cyclesPerTick).result with
  | ok =>
    simp only [hb] at h
    cases h
  | error halt =>
    simp only [hb] at h
    obtain rfl : halt = .outOfRange := by injection h
    rfl

theorem isRunning_tick (c : Clock) :
    c.tick.state.isRunning = (Operation.tick.switch? (.ticked c.tick.result)).getD c.isRunning := by
  rw [isRunning, isRunning]
  cases hr : c.tick.result with
  | ok r => rw [tick_deadline_of_ok hr]; rfl
  | error halt =>
    cases halt with
    | fault f => rw [tick_deadline_of_fault hr]; rfl
    | outOfRange => rw [tick_deadline_of_outOfRange hr]; rfl

theorem isRunning_poll (c : Clock) (now : Nat) :
    (c.poll now).state.isRunning =
      ((Operation.poll now).switch? (.polled (c.poll now).result)).getD c.isRunning := by
  cases hd : c.deadline with
  | none =>
    rw [poll_of_stopped hd]
    rfl
  | some first =>
    rcases c.results_cases (ticksAllowed first c.period now) with
      ⟨reports, hgood⟩ | ⟨n, hn, reports, halt, hgood, hhalt⟩
    · rw [poll_of_reports hd hgood, isRunning, isRunning, hd]
      rfl
    · have hbefore : (c.ticked n).isRunning = c.isRunning :=
        congrArg Option.isSome (ticked_deadline hgood)
      -- the next deadline is stored before the tick runs, so the fault has to take it back
      have hlast := (c.ticked n).isRunning_tick
      rw [hhalt, hbefore, ← ticked_succ] at hlast
      rw [poll_of_halt hd hn hgood hhalt]
      exact Option.isSome_map.trans hlast

theorem isRunning_apply (c : Clock) (op : Operation) :
    (c.apply op).state.isRunning = (op.switch? (c.apply op).result).getD c.isRunning := by
  cases op with
  | inside | load => rfl
  | start now =>
    rw [apply, start]
    split
    · rename_i hd
      exact congrArg Option.isSome hd
    · rfl
  | resume now =>
    rw [apply, resume]
    split
    · rename_i hd
      exact congrArg Option.isSome hd
    · rfl
  | stop | reset | reload => exact congrArg Option.isSome c.stop_deadline
  | tick => exact c.isRunning_tick
  | poll now => exact c.isRunning_poll now
  | setKey key pressed =>
    rw [apply, setKey]
    cases c.interpreter.setKey key pressed <;> rfl

/-- How the operations of a history switch the clock. -/
def switches (c : Clock) (history : List Operation) : List Bool :=
  (history.zip (c.outcomes history)).filterMap fun done => done.1.switch? done.2.result

theorem switches_cons (c : Clock) (op : Operation) (history : List Operation) :
    c.switches (op :: history) =
      (op.switch? (c.apply op).result).toList ++ (c.apply op).state.switches history := by
  rw [switches, outcomes, List.zip_cons_cons, List.filterMap_cons]
  dsimp only
  cases op.switch? (c.apply op).result <;> rfl

/-- The last switch of a history decides whether the clock runs. -/
theorem isRunning_after (c : Clock) (history : List Operation) :
    (c.after history).isRunning = (c.switches history).getLast?.getD c.isRunning := by
  induction history generalizing c with
  | nil => rfl
  | cons op history ih =>
    calc (c.after (op :: history)).isRunning
        = ((c.apply op).state.switches history).getLast?.getD (c.apply op).state.isRunning :=
          ih (c.apply op).state
      _ = (c.switches (op :: history)).getLast?.getD c.isRunning := by
          rw [switches_cons, List.getLast?_append, Option.getD_or, isRunning_apply]
          cases op.switch? (c.apply op).result <;> rfl

/-! ### A clock that stands still -/

theorem outcomes_polls_of_stopped (hd : c.deadline = none) (times : List Nat) :
    c.outcomes (times.map .poll) = times.map fun _ => ⟨c, [], .polled (.ok none)⟩ := by
  induction times with
  | nil => rfl
  | cons now times ih =>
    have hpoll : c.apply (.poll now) = ⟨c, [], .polled (.ok none)⟩ := by
      rw [apply, poll_of_stopped hd]
      rfl
    rw [List.map_cons, outcomes, hpoll, ih, List.map_cons]

/-- Over any history of a clock, it runs exactly if the last switch was to on. Starting and resuming
a clock that runs, and stopping one that is stopped, change nothing and tell nothing; polls of a
stopped clock find nothing to do, and starting it moves its program counter and its deadline,
resuming and stopping only the deadline. In the log starts and stops alternate, a start first. -/
theorem last_switch_decides (config : Config) (entropy : StreamKey) (history : List Operation) :
    let fresh := new config entropy
    let c := fresh.after history
    let log := Text.lines (logText (some .debug) ((fresh.outcomes history).flatMap Outcome.events))
    (c.isRunning = true ↔ (fresh.switches history).getLast? = some true) ∧
      (c.isRunning = true → ∀ now,
        c.apply (.start now) = ⟨c, [], .done⟩ ∧ c.apply (.resume now) = ⟨c, [], .done⟩) ∧
      (c.isRunning = false →
        c.apply .stop = ⟨c, [], .done⟩ ∧
        (∀ times : List Nat,
          c.outcomes (times.map .poll) = times.map fun _ => ⟨c, [], .polled (.ok none)⟩) ∧
        ∀ now,
          (c.apply (.start now)).state =
            { c with
              interpreter := { c.interpreter with
                machine := { c.interpreter.machine with pc := 0x200 } }
              deadline := some now } ∧
          (c.apply (.resume now)).state = { c with deadline := some now }) ∧
      (c.apply .stop).state = { c with deadline := none } ∧
      (false :: log.filterMap lineSwitch?).IsChain (· ≠ ·) := by
  intro fresh c log
  refine ⟨?_, ?_, ?_, c.stop_state, ?_⟩
  · rw [fresh.isRunning_after history]
    cases (fresh.switches history).getLast? with
    | none => exact iff_of_false Bool.false_ne_true fun h => by cases h
    | some running => simp
  · intro hrunning now
    obtain ⟨due, hd⟩ := Option.isSome_iff_exists.mp hrunning
    rw [apply, apply, start, resume, hd]
    exact ⟨rfl, rfl⟩
  · intro hstopped
    have hd : c.deadline = none :=
      Option.isNone_iff_eq_none.mp (Option.isSome_eq_false_iff.mp hstopped)
    refine ⟨?_, outcomes_polls_of_stopped hd, fun now => ?_⟩
    · rw [apply, stop, hd]
      rfl
    · rw [apply, apply, start, resume, hd]
      exact ⟨rfl, rfl⟩
  · rw [lineSwitch?_logText]
    exact (fresh.switched_after history).alternate

/-- A clock that is started and stopped, is resumed, and faults in a poll: `00EE`. -/
def emptyReturn : List Operation := [.load [0x00, 0xEE], .start 0, .stop, .resume 7, .poll 7]

/-- Before its poll the clock runs, behind it the clock is stopped. -/
theorem emptyReturn_last_switch_decides :
    (new {} .zeros).switches emptyReturn = [true, false, true, false] ∧
      ((new {} .zeros).after emptyReturn).isRunning = false ∧
      ((new {} .zeros).after emptyReturn).outcomes [.poll 9, .poll 8] =
        [⟨(new {} .zeros).after emptyReturn, [], .polled (.ok none)⟩,
          ⟨(new {} .zeros).after emptyReturn, [], .polled (.ok none)⟩] ∧
      (new {} .zeros).switches emptyReturn.dropLast = [true, false, true] ∧
      ((new {} .zeros).after emptyReturn.dropLast).isRunning = true ∧
      ((new {} .zeros).after emptyReturn.dropLast).apply (.start 9) =
        ⟨(new {} .zeros).after emptyReturn.dropLast, [], .done⟩ := by
  have hall : (new {} .zeros).switches emptyReturn = [true, false, true, false] := by decide +kernel
  have hmost : (new {} .zeros).switches emptyReturn.dropLast = [true, false, true] := by
    decide +kernel
  obtain ⟨hdecides, -, hstopped, -⟩ := last_switch_decides {} .zeros emptyReturn
  obtain ⟨hdecides', hrunning, -⟩ := last_switch_decides {} .zeros emptyReturn.dropLast
  have hoff : ((new {} .zeros).after emptyReturn).isRunning = false := by
    rw [Bool.eq_false_iff, ne_eq, hdecides, hall]
    decide
  have hon : ((new {} .zeros).after emptyReturn.dropLast).isRunning = true := by
    rw [hdecides', hmost]
    rfl
  exact ⟨hall, hoff, (hstopped hoff).2.1 [9, 8], hmost, hon, (hrunning hon 9).1⟩

end Clock

end ChipEight
