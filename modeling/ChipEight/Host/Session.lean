import ChipEight.Clock
import ChipEight.Host.Command
import ChipEight.Host.KeyHold
import ChipEight.Rom
import ChipEight.Terminal.Screen

/-!
A session: a program that runs on a terminal until the user quits or it halts. The session reacts
to what the terminal reports and to the passing of time; a reaction says what is written and
whether the session is over.
-/

namespace ChipEight.Host

open Terminal

/-- A clock with its program, the held keys, and whether the tone was on after the last tick. -/
structure Session where
  clock : Clock
  rom : Rom
  hold : KeyHold
  toneOn : Bool
  deriving DecidableEq

/-- How a session ends. -/
inductive Ending where
  | quit
  | halted (halt : Halt)
  deriving DecidableEq

/-- What a session does at once: text for the terminal, events, and perhaps its end. -/
structure Reaction where
  session : Session
  output : String := ""
  events : List Event := []
  ending : Option Ending := none
  deriving DecidableEq

namespace Session

/-- The frame of the display. -/
def frame (s : Session) : String := Screen.frame s.clock.interpreter.display

/-- The status line. -/
def status (s : Session) : String := Screen.status s.clock.isRunning

/-- Gives the clock a keypad. -/
def withKeypad (c : Clock) (keypad : Keypad) : Clock :=
  { c with interpreter := { c.interpreter with keypad := keypad } }

/-- Continues with other held keys and keypad. -/
def withKeys (s : Session) (keys : KeyHold × Keypad) : Session :=
  { s with hold := keys.1, clock := withKeypad s.clock keys.2 }

/-- The keypad. -/
def keypad (s : Session) : Keypad := s.clock.interpreter.keypad

/-- Loads the program into a clean machine and starts it. -/
def restart (s : Session) (now : Nat) : Reaction :=
  let reloaded := s.clock.reload s.rom.code
  let started := reloaded.state.start now
  { session := { s with clock := started.state }, events := reloaded.events ++ started.events }

/-- Takes over a terminal. On an `enhanced` one, which reports released keys, no key expires. -/
def enter (clock : Clock) (rom : Rom) (enhanced : Bool) (now : Nat) : Reaction :=
  let r := restart ⟨clock, rom, .new (!enhanced), false⟩ now
  { r with output := Screen.enter enhanced ++ r.session.frame ++ r.session.status }

/-- Pauses a running program, and continues one that is paused. -/
def togglePause (s : Session) (now : Nat) : Reaction :=
  let o := if s.clock.isRunning then s.clock.stop else s.clock.resume now
  let s := { s with clock := o.state }
  { session := s, output := s.status, events := o.events }

/-- Does what a command asks for. -/
def obey (s : Session) (now : Nat) : Command → Reaction
  | .quit => { session := s, ending := some .quit }
  | .pause => s.togglePause now
  | .restart =>
    let r := s.restart now
    { r with output := r.session.frame ++ r.session.status }
  | .key key true => { session := s.withKeys (s.hold.press s.keypad key now) }
  | .key key false => { session := s.withKeys (s.hold.release s.keypad key) }
  | .none => { session := s }

/-- Reacts to what the terminal reports. -/
def react (s : Session) (now : Nat) : Input → Reaction
  | .key event =>
    let r := s.obey now (command event)
    { r with events := commandEvents event ++ r.events }
  | .resized => { session := s, output := s.frame ++ s.status }
  | .other => { session := s }

/-- What a tick report makes a session write: a changed frame, and the bell when a tone begins. -/
def reportOutput (s : Session) (r : TickReport) : String :=
  (if r.redraw then s.frame else "") ++ (if r.tone && !s.toneOn then Screen.bell else "")

/-- Lets time pass up to `now`: holds run out and due ticks run. -/
def pass (s : Session) (now : Nat) : Reaction :=
  let s := s.withKeys (s.hold.expire s.keypad now)
  let polled := s.clock.poll now
  let s := { s with clock := polled.state }
  match polled.result with
  | .error halt => { session := s, events := polled.events, ending := some (.halted halt) }
  | .ok none => { session := s, events := polled.events }
  | .ok (some r) =>
    { session := { s with toneOn := r.tone }, output := s.reportOutput r, events := polled.events }

/-- Reacts to an input and then lets time pass, unless the input ends the session. -/
def step (s : Session) (now : Nat) (input : Input) : Reaction :=
  let first := s.react now input
  match first.ending with
  | some _ => first
  | none =>
    let second := first.session.pass now
    { second with
      output := first.output ++ second.output
      events := first.events ++ second.events }

end Session

end ChipEight.Host
