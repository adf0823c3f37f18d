import ChipEight.Interpreter.Cycle

/-!
The clock: runs an interpreter at a fixed rate. A tick counts the timers down once and then runs a
batch of cycles. Times are nanoseconds after a fixed instant; the clock never waits itself, its
host polls it. A poll runs the ticks that are due, at most four of them.
-/

namespace ChipEight

/-- An interpreter, the size of a batch, the time between ticks, and when the next is due. -/
structure Clock where
  interpreter : Interpreter
  cyclesPerTick : Nat
  period : Nat
  deadline : Option Nat
  deriving DecidableEq

/-- What a host has to do after a tick: sound its tone, draw the display again. -/
structure TickReport where
  tone : Bool
  redraw : Bool
  deriving DecidableEq

/-- The most ticks that one poll runs. -/
def catchUpLimit : Nat := 4

namespace Clock

/-- A stopped clock over a new interpreter. -/
def new (config : Config) (entropy : StreamKey) : Clock where
  interpreter := .new config entropy
  cyclesPerTick := config.cyclesPerTick.toNat
  period := config.tickPeriod
  deadline := none

/-- Whether a tick is scheduled. -/
def isRunning (c : Clock) : Bool := c.deadline.isSome

/-- Cancels the scheduled tick. -/
def stop (c : Clock) : Outcome Clock Unit :=
  match c.deadline with
  | some _ => ⟨{ c with deadline := none }, [.clockStopped c.interpreter.machine.pc], ()⟩
  | none => ⟨c, [], ()⟩

/-- Goes to the load address and schedules a tick now; a running clock goes on. -/
def start (c : Clock) (now : Nat) : Outcome Clock Unit :=
  match c.deadline with
  | some _ => ⟨c, [], ()⟩
  | none =>
    ⟨{ c with interpreter := c.interpreter.rewind, deadline := some now },
      [.clockStarted c.cyclesPerTick c.period], ()⟩

/-- Schedules a tick now; a running clock goes on. -/
def resume (c : Clock) (now : Nat) : Outcome Clock Unit :=
  match c.deadline with
  | some _ => ⟨c, [], ()⟩
  | none => ⟨{ c with deadline := some now }, [.clockResumed c.interpreter.machine.pc], ()⟩

/-- Stops and resets the interpreter. -/
def reset (c : Clock) : Outcome Clock Unit :=
  let stopped := c.stop
  (c.interpreter.reset.inside fun s => { stopped.state with interpreter := s }).after
    stopped.events

/-- Copies a program to the load address and leaves all else. -/
def load (c : Clock) (program : List UInt8) : Outcome Clock (Except LoadError Unit) :=
  (c.interpreter.load program).inside fun s => { c with interpreter := s }

/-- Stops, resets the interpreter and loads a program. -/
def reload (c : Clock) (program : List UInt8) : Outcome Clock (Except LoadError Unit) :=
  (c.reset.state.load program).after c.reset.events

/-- Moves a key. -/
def setKey (c : Clock) (key : Nat) (pressed : Bool) : Except KeyError Clock :=
  (c.interpreter.setKey key pressed).map fun s => { c with interpreter := s }

/-- The events and the state of a clock whose batch halted: a fault is logged and stops it. -/
def halted (c : Clock) : Halt → Outcome Clock Unit
  | .fault fault => c.stop.after [.faulted fault]
  | .outOfRange => ⟨c, [], ()⟩

/-- Counts the timers down, runs a batch and takes the display's flag. -/
def tick (c : Clock) : Outcome Clock (Except Halt TickReport) :=
  let counted := c.interpreter.tickTimers
  let batch := counted.runCycles c.cyclesPerTick
  match batch.result with
  | .ok () =>
    let taken := batch.state.takeDirty
    ⟨{ c with interpreter := taken.state }, batch.events,
      .ok ⟨counted.machine.soundTimer ≠ 0, taken.result⟩⟩
  | .error halt =>
    let stopped := { c with interpreter := batch.state }.halted halt
    ⟨stopped.state, batch.events ++ stopped.events, .error halt⟩

/-- A report behind earlier ones: the tone is the last tick's, and a change stays a change. -/
def TickReport.following (r : TickReport) : Option TickReport → TickReport
  | none => r
  | some earlier => ⟨r.tone, r.redraw || earlier.redraw⟩

/-- Runs the due ticks, at most `left` more of them, behind those that gave `report`. -/
def pollFrom (now : Nat) :
    (left : Nat) → Option TickReport → Clock → Outcome Clock (Except Halt (Option TickReport))
  | left, report, c =>
    match c.deadline with
    | none => ⟨c, [], .ok report⟩
    | some due =>
      if now < due then ⟨c, [], .ok report⟩
      else
        match left with
        | 0 => ⟨{ c with deadline := some (now + c.period) }, [.clockBehind c.period], .ok report⟩
        | left + 1 =>
          let ticked := { c with deadline := some (due + c.period) }.tick
          match ticked.result with
          | .error halt => ⟨ticked.state, ticked.events, .error halt⟩
          | .ok r => (pollFrom now left (some (TickReport.following r report)) ticked.state).after
              ticked.events

/-- Runs the ticks that are due. If more are due than one poll runs, the rest is dropped and the
next tick is a period from now. -/
def poll (c : Clock) (now : Nat) : Outcome Clock (Except Halt (Option TickReport)) :=
  pollFrom now catchUpLimit none c

end Clock

end ChipEight
