import ChipEight.Proofs.HostSide
import ChipEight.Proofs.Poll

/-!
What nothing changes that a host does, not even writing to the machine or the display behind the
back of the clock: the size of a batch, the time between ticks and the way of waiting for a key are
as the configuration had them.
-/

namespace ChipEight

/-- What a host can do to a clock: ask something of it, or write to the machine or to the display
in it. -/
inductive Clock.Move where
  | ask (operation : Operation)
  | writeMachine (machine : Machine)
  | writeDisplay (display : Display)
  deriving DecidableEq

theorem Interpreter.awaitKey_invariant (way : AwaitKey) :
    Interpreter.Invariant fun s => s.awaitKey = way where
  cycle := by
    intro s h
    rw [s.cycle_leaves_host.2, h]
  tickTimers h := h
  takeDirty h := h
  load := by
    intro s program h
    rw [load, Machine.load]
    split <;> exact h
  reset h := h
  rewind h := h
  setKey := by
    intro s t key pressed ht h
    obtain ⟨keypad, rfl⟩ := exists_keypad_of_setKey ht
    exact h

namespace Clock

theorem poll_settings (c : Clock) (now : Nat) :
    (c.poll now).state.cyclesPerTick = c.cyclesPerTick ∧
      (c.poll now).state.period = c.period := by
  obtain ⟨deadline, hstate⟩ := c.poll_state now
  rw [hstate]
  exact ⟨ticked_cyclesPerTick c _, ticked_period c _⟩

theorem apply_settings (c : Clock) (op : Operation) :
    (c.apply op).state.cyclesPerTick = c.cyclesPerTick ∧
      (c.apply op).state.period = c.period := by
  cases op with
  | inside operation => exact ⟨rfl, rfl⟩
  | load program => exact ⟨rfl, rfl⟩
  | reload program => exact stop_settings c
  | reset => exact stop_settings c
  | start now =>
    rw [apply, start]
    split <;> exact ⟨rfl, rfl⟩
  | resume now =>
    rw [apply, resume]
    split <;> exact ⟨rfl, rfl⟩
  | stop => exact stop_settings c
  | setKey key pressed =>
    rw [apply, setKey]
    cases c.interpreter.setKey key pressed <;> exact ⟨rfl, rfl⟩
  | tick => exact tick_settings c
  | poll now => exact poll_settings c now

/-- The clock behind a move. -/
def move (c : Clock) : Move → Clock
  | .ask operation => (c.apply operation).state
  | .writeMachine machine => { c with interpreter := { c.interpreter with machine := machine } }
  | .writeDisplay display => { c with interpreter := { c.interpreter with display := display } }

/-- The clock behind a history of moves. -/
def moved (c : Clock) (history : List Move) : Clock := history.foldl move c

/-- The events of a move. -/
def Move.events (c : Clock) : Move → List Event
  | .ask operation => (c.apply operation).events
  | .writeMachine _ | .writeDisplay _ => []

/-- The events of a history of moves. -/
def story (c : Clock) : List Move → List Event
  | [] => []
  | m :: history => m.events c ++ (c.move m).story history

/-- A clock has the settings of a configuration. -/
structure HasSettings (config : Config) (c : Clock) : Prop where
  cyclesPerTick_eq : c.cyclesPerTick = config.cyclesPerTick.toNat
  period_eq : c.period = config.tickPeriod
  awaitKey_eq : c.interpreter.awaitKey = config.awaitKey

variable {config : Config} {c : Clock}

theorem hasSettings_new (config : Config) (entropy : StreamKey) :
    HasSettings config (new config entropy) :=
  ⟨rfl, rfl, rfl⟩

theorem hasSettings_move (h : HasSettings config c) (m : Move) : HasSettings config (c.move m) := by
  cases m with
  | ask op =>
    obtain ⟨hcount, hperiod⟩ := c.apply_settings op
    have hway := kept_by_apply (Interpreter.awaitKey_invariant config.awaitKey) h.awaitKey_eq op
    exact ⟨hcount.trans h.cyclesPerTick_eq, hperiod.trans h.period_eq, hway⟩
  | writeMachine machine => exact ⟨h.cyclesPerTick_eq, h.period_eq, h.awaitKey_eq⟩
  | writeDisplay display => exact ⟨h.cyclesPerTick_eq, h.period_eq, h.awaitKey_eq⟩

theorem hasSettings_moved (h : HasSettings config c) (history : List Move) :
    HasSettings config (c.moved history) := by
  induction history generalizing c with
  | nil => exact h
  | cons m history ih => exact ih (hasSettings_move h m)

end Clock

end ChipEight
