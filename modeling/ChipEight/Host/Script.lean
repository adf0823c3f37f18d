import ChipEight.Host.Session
import ChipEight.Terminal.Keyboard

/-!
A scripted user: waits until the terminal shows some text, types, or changes the terminal's size.
The user is quick: neither what it does nor how the session reacts takes time. Time passes, from one
tick to the next, only while the user waits or has nothing left to do.
-/

namespace ChipEight.Host

open Terminal

/-- What a scripted user does. -/
inductive Act where
  /-- Waits for a text behind the one that was last waited for. -/
  | wait (text : String)
  | type (text : String)
  | resize (columns rows : Nat)
  deriving DecidableEq

/-- What stands behind the first occurrence of `text`. -/
def behind? (text : List Char) : List Char → Option (List Char)
  | [] => if text.isEmpty then some [] else none
  | c :: rest =>
    if text.isPrefixOf (c :: rest) then some ((c :: rest).drop text.length)
    else behind? text rest

/-- A session with its user. -/
structure Scene where
  session : Session
  now : Nat
  /-- The least grave level that is logged. -/
  limit : Option Level
  /-- What was written, the latest piece first. -/
  written : List String := []
  /-- What was written and may still hold a text that is waited for. -/
  unread : List Char := []
  /-- What was logged, the latest event first. -/
  logged : List Event := []
  /-- Typed bytes that begin an input. -/
  typed : List UInt8 := []
  /-- Inputs that the session did not take yet. -/
  inputs : List Input := []
  /-- The size that the terminal was given. -/
  size : Option (Nat × Nat) := none
  deriving DecidableEq

/-- The least time that waiting takes. -/
def shortestWait : Nat := 100000

/-- How long a session waits for input when no tick is due. -/
def idleWait : Nat := 50000000

namespace Scene

/-- Adds a reaction to the scene. -/
def add (s : Scene) (r : Reaction) : Scene :=
  { s with
    session := r.session
    written := r.output :: s.written
    unread := s.unread ++ r.output.toList
    logged := (r.events.filter (·.shownAt s.limit)).reverse ++ s.logged }

/-- The scene behind the first reaction of a session. -/
def start (limit : Option Level) (r : Reaction) : Scene :=
  add { session := r.session, now := 0, limit := limit } r

/-- The time of the next tick, or of giving up waiting for input. -/
def nextTime (s : Scene) : Nat :=
  match s.session.clock.deadline with
  | some due => max due (s.now + shortestWait)
  | none => s.now + idleWait

/-- Waits for the next tick. -/
def idle (s : Scene) : Scene × Option Ending :=
  let r := s.session.pass s.nextTime
  ({ s.add r with now := s.nextTime }, r.ending)

/-- The user's next move, if it can be made now: the scene and what is left of the script. A terminal
that keeps its size reports nothing. -/
def move? (s : Scene) : List Act → Option (Scene × List Act)
  | [] => none
  | .type text :: rest =>
    let (inputs, typed) := Keyboard.inputs s.typed text.toUTF8.toList
    some ({ s with typed := typed, inputs := s.inputs ++ inputs }, rest)
  | .resize columns rows :: rest =>
    if s.size = some (columns, rows) then some (s, rest)
    else some ({ s with size := some (columns, rows), inputs := s.inputs ++ [.resized] }, rest)
  | .wait text :: rest =>
    (behind? text.toList s.unread).map fun unread => ({ s with unread := unread }, rest)

/-- Forgets what was written in vain: of a text that is waited for and did not appear, only the
beginning can have been written. -/
def forget (s : Scene) : List Act → Scene
  | .wait text :: _ => { s with unread := s.unread.drop (s.unread.length + 1 - text.length) }
  | _ => s

/-- Takes turns, at most `patience`; a user without patience quits. A turn hands an input over, or
makes a move, or lets the next tick come when no move can be made. -/
def takeTurns : (patience : Nat) → Scene → List Act → Scene × Ending
  | 0, s, _ => (s, .quit)
  | patience + 1, s, script =>
    match s.inputs with
    | input :: inputs =>
      let r := s.session.step s.now input
      let s := { s with inputs := inputs }.add r
      match r.ending with
      | some ending => (s, ending)
      | none => takeTurns patience s script
    | [] =>
      match s.move? script with
      | some (s, script) => takeTurns patience s script
      | none =>
        let (s, ending) := (s.forget script).idle
        match ending with
        | some ending => (s, ending)
        | none => takeTurns patience s script

/-- Plays a script. The first tick is due when the session starts, so it comes before any move. -/
def play (patience : Nat) (s : Scene) (script : List Act) : Scene × Ending :=
  match s.idle with
  | (s, some ending) => (s, ending)
  | (s, none) => s.takeTurns patience script

end Scene

end ChipEight.Host
