import ChipEight.Proofs.Beats
import ChipEight.Proofs.ControlFlow
import ChipEight.Proofs.Timers

/-!
Waiting for a key. An interpreter that blocks at `Fx0A` with all keys up has cycles without any
effect, so ticks count the timers down, lower the display's flag and do nothing else. Whatever keys
move in between, cycles that find all keys up could as well be left out; and the first one that
finds a key down takes the lowest of those that are down and goes on.
-/

namespace ChipEight

namespace Keypad

variable {k : Keypad} {key : Fin 16}

/-- `key` is down, and no key below it is. -/
def IsLowest (k : Keypad) (key : Fin 16) : Prop :=
  k.keys.get key = true ∧ ∀ lower < key, k.keys.get lower = false

instance (k : Keypad) (key : Fin 16) : Decidable (k.IsLowest key) :=
  inferInstanceAs (Decidable (k.keys.get key = true ∧ ∀ lower < key, k.keys.get lower = false))

theorem firstPressed_eq_find? (k : Keypad) :
    k.firstPressed =
      ((List.range 16).find? fun key => k.isPressed (UInt8.ofNat key)).map UInt8.ofNat := by
  rw [firstPressed, pressed, List.head?_filter, List.find?_map]
  rfl

/-- The first key is the lowest of those that are down. -/
theorem firstPressed_eq_some_iff {byte : UInt8} :
    k.firstPressed = some byte ↔ ∃ key, k.IsLowest key ∧ UInt8.ofNat key.val = byte := by
  rw [firstPressed_eq_find?, Option.map_eq_some_iff]
  simp only [List.find?_range_eq_some, List.mem_range, Bool.not_eq_true']
  constructor
  · rintro ⟨key, ⟨hdown, hlt, hlower⟩, hbyte⟩
    refine ⟨⟨key, hlt⟩, ⟨?_, fun lower hl => ?_⟩, hbyte⟩
    · rwa [← k.isPressed_ofNat ⟨key, hlt⟩]
    · rw [← k.isPressed_ofNat lower]
      exact hlower lower hl
  · rintro ⟨key, ⟨hdown, hlower⟩, hbyte⟩
    refine ⟨key, ⟨(k.isPressed_ofNat key).trans hdown, key.isLt, fun lower hl => ?_⟩, hbyte⟩
    exact (k.isPressed_ofNat ⟨lower, hl.trans key.isLt⟩).trans (hlower _ hl)

theorem IsLowest.firstPressed (h : k.IsLowest key) :
    k.firstPressed = some (UInt8.ofNat key.val) := firstPressed_eq_some_iff.mpr ⟨key, h, rfl⟩

/-- If any key is down, one of them is the lowest. -/
theorem exists_isLowest (h : ∃ key, k.keys.get key = true) : ∃ key, k.IsLowest key := by
  obtain ⟨byte, hbyte⟩ := Option.isSome_iff_exists.mp (k.isSome_firstPressed_iff.mpr h)
  obtain ⟨key, hkey, -⟩ := firstPressed_eq_some_iff.mp hbyte
  exact ⟨key, hkey⟩

theorem firstPressed_eq_none (h : ∀ key, k.keys.get key = false) : k.firstPressed = none := by
  rw [← Option.not_isSome_iff_eq_none, k.isSome_firstPressed_iff]
  rintro ⟨key, hdown⟩
  rw [h key] at hdown
  cases hdown

end Keypad

namespace Interpreter

variable {s : Interpreter} {w : Word} {key : Fin 16} {steps : List Step}

/-- The next word waits for a key, and blocks as long as none is down. -/
structure AtWait (s : Interpreter) (w : Word) : Prop where
  word : s.word? = some w
  awaits : w &&& 0xF0FF = 0xF00A
  blocks : s.awaitKey = .block

/-! ### Cycles -/

theorem AtWait.decode (h : s.AtWait w) : decode w = some (.awaitKey w.x) :=
  decode_of_mask .awaitKey (by decide) (by decide) h.awaits

/-- A cycle that finds all keys up does nothing. -/
theorem AtWait.cycle_of_up (h : s.AtWait w) (hup : ∀ key, s.keypad.keys.get key = false) :
    s.cycle = ⟨s, [.executing s.machine.pc w (.awaitKey w.x)], .ok ()⟩ := by
  have hstay : s.awaitKeyIn w.x = ⟨s, .stay, []⟩ := by
    rw [awaitKeyIn, Keypad.firstPressed_eq_none hup, h.blocks]
  rw [cycle_of_effect h.word h.decode (congrArg Except.ok hstay)]
  rfl

/-- A cycle that finds keys down takes the lowest of them and goes on. -/
theorem AtWait.cycle_of_down (h : s.AtWait w) (hkey : s.keypad.IsLowest key) :
    s.cycle =
      ⟨{ s with machine := s.machine.setReg w.x (UInt8.ofNat key.val) }.goTo (s.machine.pc + 2),
        [.executing s.machine.pc w (.awaitKey w.x)], .ok ()⟩ := by
  have hgo : s.awaitKeyIn w.x =
      ⟨{ s with machine := s.machine.setReg w.x (UInt8.ofNat key.val) }, .next, []⟩ := by
    rw [awaitKeyIn, hkey.firstPressed, h.blocks]
  rw [cycle_of_effect h.word h.decode (congrArg Except.ok hgo)]
  rfl

theorem AtWait.runCycles_of_up (h : s.AtWait w) (hup : ∀ key, s.keypad.keys.get key = false)
    (n : Nat) : (s.runCycles n).result = .ok () ∧ (s.runCycles n).state = s := by
  induction n with
  | zero => exact ⟨rfl, rfl⟩
  | succ n ih =>
    rw [runCycles_succ, h.cycle_of_up hup]
    exact ih

/-! ### Steps in between -/

/-- None of the cycles among some steps finds a key down. -/
def InVain (s : Interpreter) : List Step → Prop
  | [] => True
  | step :: steps =>
    (step = .cycle → ∀ key, s.keypad.keys.get key = false) ∧ (s.step step).InVain steps

instance decidableInVain (s : Interpreter) : (steps : List Step) → Decidable (s.InVain steps)
  | [] => inferInstanceAs (Decidable True)
  | step :: steps =>
    have := decidableInVain (s.step step) steps
    inferInstanceAs (Decidable ((step = .cycle → ∀ key, s.keypad.keys.get key = false) ∧
      (s.step step).InVain steps))

theorem inVain_append (s : Interpreter) (first second : List Step) :
    s.InVain (first ++ second) ↔ s.InVain first ∧ (first.foldl step s).InVain second := by
  induction first generalizing s with
  | nil => simp [InVain]
  | cons step first ih =>
    rw [List.cons_append, InVain, ih, InVain, and_assoc]
    rfl

/-- No step leads away from a wait, unless it is a cycle that finds a key down. -/
theorem AtWait.step (h : s.AtWait w) {step : Step}
    (hup : step = .cycle → ∀ key, s.keypad.keys.get key = false) : (s.step step).AtWait w := by
  cases step with
  | countDown => exact ⟨h.word, h.awaits, h.blocks⟩
  | takeDirty => exact ⟨h.word, h.awaits, h.blocks⟩
  | cycle =>
    rw [Interpreter.step, h.cycle_of_up (hup rfl)]
    exact h
  | key number pressed =>
    obtain ⟨keypad, delay, sound, hturn⟩ :=
      s.turn_eq_of_ne_cycle (t := .setKey number pressed) (by simp)
    rw [Interpreter.step, hturn]
    exact ⟨h.word, h.awaits, h.blocks⟩

/-- Cycles in vain could as well be left out, and the wait is as before. -/
theorem AtWait.foldl_step (h : s.AtWait w) (hvain : s.InVain steps) :
    (steps.foldl Interpreter.step s).AtWait w ∧
      steps.foldl Interpreter.step s =
        (steps.filter (· ≠ .cycle)).foldl Interpreter.step s := by
  induction steps generalizing s with
  | nil => exact ⟨h, rfl⟩
  | cons step steps ih =>
    obtain ⟨hup, hrest⟩ := hvain
    obtain ⟨hwait, hsame⟩ := ih (h.step hup) hrest
    refine ⟨hwait, hsame.trans ?_⟩
    by_cases hcycle : step = .cycle
    · subst hcycle
      rw [Interpreter.step, h.cycle_of_up (hup rfl)]
      rfl
    · rw [List.filter_cons_of_pos (by simpa using hcycle), List.foldl_cons]

/-- Ticks whose cycles are in vain do not halt. -/
theorem AtWait.result_of_mem_batches {count : Nat} {beats : List Beat} (h : s.AtWait w)
    (hvain : s.InVain (beats.flatMap (Beat.steps count))) :
    ∀ o ∈ s.batches count beats, o.result = .ok () := by
  induction beats generalizing s with
  | nil => exact fun o ho => absurd ho List.not_mem_nil
  | cons beat beats ih =>
    rw [List.flatMap_cons, inVain_append] at hvain
    obtain ⟨hbeat, hrest⟩ := hvain
    have hwait := (h.foldl_step hbeat).1
    cases beat with
    | key number pressed => exact ih hwait hrest
    | tick =>
      have hbatch : (s.tickTimers.runCycles count).result = .ok () := by
        cases count with
        | zero => rfl
        | succ count =>
          -- the first cycle of the batch finds the keys as they were before the tick
          have hup : ∀ key, s.tickTimers.keypad.keys.get key = false := hbeat.2.1 rfl
          have hcounted : s.tickTimers.AtWait w := ⟨h.word, h.awaits, h.blocks⟩
          exact (hcounted.runCycles_of_up hup _).1
      rw [foldl_tick_steps hbatch] at hwait hrest
      exact List.forall_mem_cons.mpr ⟨hbatch, ih hwait hrest⟩

/-! ### Ticks -/

/-- The interpreter behind `k` ticks in which it does nothing: each counts both timers down, and the
first of them lowers the flag of the display. -/
def idled (s : Interpreter) (k : Nat) : Interpreter :=
  { s with
    machine := { s.machine with
      delayTimer := UInt8.ofNat (s.machine.delayTimer.toNat - k)
      soundTimer := UInt8.ofNat (s.machine.soundTimer.toNat - k) }
    display := { s.display with dirty := s.display.dirty && k == 0 } }

theorem idled_zero (s : Interpreter) : s.idled 0 = s := by
  simp [idled]

theorem countDown_ofNat (value : UInt8) (k : Nat) :
    Machine.countDown (UInt8.ofNat (value.toNat - k)) = UInt8.ofNat (value.toNat - (k + 1)) := by
  have hfits : ∀ k, value.toNat - k < UInt8.size := fun k =>
    Nat.lt_of_le_of_lt (Nat.sub_le _ k) value.toNat_lt
  rw [← UInt8.toNat_inj, Machine.toNat_countDown, UInt8.toNat_ofNat_of_lt' (hfits k),
    UInt8.toNat_ofNat_of_lt' (hfits (k + 1)), Nat.sub_sub]

theorem idled_succ (s : Interpreter) (k : Nat) :
    (s.idled k).tickTimers.takeDirty.state = s.idled (k + 1) := by
  simp [idled, tickTimers, Machine.tickTimers, takeDirty, Display.takeDirty, countDown_ofNat]

end Interpreter

namespace Clock

open Interpreter (AtWait)

variable {c : Clock} {w : Word}

/-- A tick that finds all keys up does no more than every tick does apart from its batch. -/
theorem tick_of_up (h : c.interpreter.AtWait w)
    (hup : ∀ key, c.interpreter.keypad.keys.get key = false) :
    (∃ r, c.tick.result = .ok r) ∧
      c.tick.state = { c with interpreter := c.interpreter.tickTimers.takeDirty.state } := by
  have hcounted : c.interpreter.tickTimers.AtWait w := ⟨h.word, h.awaits, h.blocks⟩
  obtain ⟨hresult, hstate⟩ := hcounted.runCycles_of_up hup c.cyclesPerTick
  rw [tick]
  simp only [hresult, hstate]
  exact ⟨⟨_, rfl⟩, trivial⟩

theorem ticked_of_up (h : c.interpreter.AtWait w)
    (hup : ∀ key, c.interpreter.keypad.keys.get key = false) (k : Nat) :
    (∃ r, (c.ticked k).tick.result = .ok r) ∧
      c.ticked k = { c with interpreter := c.interpreter.idled k } := by
  have htick : ∀ k, let idle : Clock := { c with interpreter := c.interpreter.idled k }
      (∃ r, idle.tick.result = .ok r) ∧
        idle.tick.state =
          { c with interpreter := (c.interpreter.idled k).tickTimers.takeDirty.state } :=
    fun k => tick_of_up (w := w) ⟨h.word, h.awaits, h.blocks⟩ hup
  have hticked : c.ticked k = { c with interpreter := c.interpreter.idled k } := by
    induction k with
    | zero => rw [ticked_zero, Interpreter.idled_zero]
    | succ k ih => rw [ticked_succ, ih, (htick k).2, Interpreter.idled_succ]
  rw [hticked]
  exact ⟨(htick k).1, rfl⟩

/-- Calls whose cycles are in vain do not halt, and leave the interpreter where their steps do. -/
theorem after_calls_of_inVain (h : c.interpreter.AtWait w) {calls : List Call}
    (hvain : c.interpreter.InVain (c.steps calls)) :
    (∀ o ∈ c.outcomes (calls.map Call.operation), o.result.halt? = none) ∧
      (c.after (calls.map Call.operation)).interpreter =
        (c.steps calls).foldl Interpreter.step c.interpreter := by
  have hbatches := h.result_of_mem_batches hvain
  refine ⟨(c.outcomes_batches calls).1.mpr hbatches, ?_⟩
  rw [after_calls_interpreter, steps, foldl_steps hbatches]

end Clock

namespace Interpreter

/-- A blocking wait with all keys up is stable. Cycles succeed and leave the whole state; ticks
succeed and change no more than both timers, each counted down once by each tick, and the flag of
the display, which the first tick lowers. Calls of a host whose cycles find all keys up do not halt,
and are the steps that they are made of. Behind any such steps, with keys and timers moving in
between, the state is as if there had been no cycles; and if a key is down there, the next cycle
puts the lowest of those that are down into the register of the word, goes on to the next word and
changes nothing else. -/
theorem wait_is_stable (s : Interpreter) (w : Word) (hw : s.word? = some w) (hwait : s.Waits w) :
    (∀ n, (s.runCycles n).result = .ok () ∧ (s.runCycles n).state = s) ∧
    (∀ c : Clock, c.interpreter = s → ∀ k, (∃ r, (c.ticked k).tick.result = .ok r) ∧
      c.ticked k = { c with interpreter := s.idled k }) ∧
    (∀ (c : Clock) (calls : List Clock.Call), c.interpreter = s → s.InVain (c.steps calls) →
      (∀ o ∈ c.outcomes (calls.map Clock.Call.operation), o.result.halt? = none) ∧
      (c.after (calls.map Clock.Call.operation)).interpreter =
        (c.steps calls).foldl Interpreter.step s) ∧
    ∀ steps, s.InVain steps →
      let t := steps.foldl Interpreter.step s
      t = (steps.filter (· ≠ .cycle)).foldl Interpreter.step s ∧
      ((∃ key, t.keypad.keys.get key = true) → ∃ key, t.keypad.IsLowest key ∧
        t.cycle.result = .ok () ∧
        t.cycle.state =
          { t with machine := t.machine.setReg w.x (UInt8.ofNat key.val) }.goTo
            (t.machine.pc + 2)) := by
  have h : s.AtWait w := ⟨hw, hwait.awaits, hwait.blocks⟩
  refine ⟨h.runCycles_of_up hwait.allUp, ?_, ?_, fun steps hvain => ?_⟩
  · rintro c rfl k
    exact Clock.ticked_of_up h hwait.allUp k
  · rintro c calls rfl hvain
    exact Clock.after_calls_of_inVain h hvain
  · obtain ⟨hbehind, hsame⟩ := h.foldl_step hvain
    refine ⟨hsame, fun hdown => ?_⟩
    obtain ⟨key, hkey⟩ := Keypad.exists_isLowest hdown
    rw [hbehind.cycle_of_down hkey]
    exact ⟨key, hkey, rfl, rfl⟩

/-- A program that waits for a key, with a count in the delay timer and the display changed. -/
def awaitingKey : Interpreter :=
  let loaded := ((Interpreter.new {} .zeros).load [0xF5, 0x0A]).state
  { loaded with
    machine := { loaded.machine with delayTimer := 3 }
    display := loaded.display.clear }

/-- A clock over it. -/
def awaitingClock : Clock :=
  ⟨awaitingKey, 4, 10, none⟩

/-- Two keys go down and one of them comes up, with cycles in vain before that and a tick begun. -/
def keysMoved : List Step :=
  [.cycle, .cycle, .key 1 true, .key 12 true, .key 3 true, .key 1 false, .countDown]

theorem awaitingKey_is_stable :
    (awaitingKey.runCycles 1000000).state = awaitingKey ∧
      (awaitingClock.ticked 2).interpreter.machine.delayTimer = 1 ∧
      (awaitingClock.ticked 2).interpreter.display.dirty = false ∧
      let next := (keysMoved.foldl Interpreter.step awaitingKey).cycle.state.machine
      next.reg 5 = 3 ∧ next.pc = 0x202 ∧ next.delayTimer = 2 := by
  have hword : awaitingKey.word? = some 0xF50A := by decide +kernel
  have hup : ∀ key, awaitingKey.keypad.keys.get key = false := by decide +kernel
  have hvain : awaitingKey.InVain keysMoved := by decide +kernel
  have hlowest : ∀ key, (keysMoved.foldl Interpreter.step awaitingKey).keypad.IsLowest key →
      key = 3 := by decide +kernel
  obtain ⟨hcycles, hticks, -, hsteps⟩ :=
    wait_is_stable awaitingKey 0xF50A hword ⟨by decide, rfl, hup⟩
  obtain ⟨-, hpress⟩ := hsteps keysMoved hvain
  obtain ⟨key, hkey, -, hstate⟩ := hpress ⟨12, by decide +kernel⟩
  obtain rfl := hlowest key hkey
  have hticked := (hticks awaitingClock rfl 2).2
  refine ⟨(hcycles _).2, ?_, ?_, ?_⟩
  · rw [hticked]
    decide +kernel
  · rw [hticked]
    decide +kernel
  · rw [hstate]
    decide +kernel

end Interpreter

end ChipEight
