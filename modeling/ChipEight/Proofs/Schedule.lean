import ChipEight.Proofs.Cycle

/-!
What can happen to an interpreter while a program runs and the host keeps its hands off machine and
display: cycles, and between them changes of keys and timers. A run is any list of such turns. A
turn that is no cycle changes keypad and timers only.
-/

namespace ChipEight

/-- A cycle, or a change of keys or timers between cycles. -/
inductive Turn where
  | cycle
  | setKey (key : Nat) (pressed : Bool)
  | countDown
  | setTimers (delay sound : UInt8)
  deriving DecidableEq

namespace Interpreter

/-- The state behind a turn. A key that the keypad does not have moves nothing. -/
def turn (s : Interpreter) : Turn → Interpreter
  | .cycle => s.cycle.state
  | .setKey key pressed =>
    match s.setKey key pressed with
    | .ok t => t
    | .error _ => s
  | .countDown => s.tickTimers
  | .setTimers delay sound =>
    { s with machine := { s.machine with delayTimer := delay, soundTimer := sound } }

/-- The state behind a list of turns. -/
def run (s : Interpreter) (turns : List Turn) : Interpreter := turns.foldl turn s

@[simp] theorem run_nil (s : Interpreter) : s.run [] = s := rfl

@[simp] theorem run_cons (s : Interpreter) (t : Turn) (turns : List Turn) :
    s.run (t :: turns) = (s.turn t).run turns := rfl

theorem run_concat (s : Interpreter) (turns : List Turn) (t : Turn) :
    s.run (turns ++ [t]) = (s.run turns).turn t := by
  rw [run, List.foldl_append]
  rfl

/-- A turn that is no cycle changes keypad and timers only. -/
theorem turn_eq_of_ne_cycle (s : Interpreter) {t : Turn} (h : t ≠ .cycle) :
    ∃ keypad delay sound, s.turn t =
      { s with
        keypad := keypad
        machine := { s.machine with delayTimer := delay, soundTimer := sound } } := by
  cases t with
  | cycle => exact absurd rfl h
  | countDown => exact ⟨s.keypad, _, _, rfl⟩
  | setTimers delay sound => exact ⟨s.keypad, delay, sound, rfl⟩
  | setKey key pressed =>
    rw [turn, setKey]
    cases s.keypad.set key pressed with
    | ok keypad => exact ⟨keypad, _, _, rfl⟩
    | error e => exact ⟨s.keypad, _, _, rfl⟩

end Interpreter

end ChipEight
