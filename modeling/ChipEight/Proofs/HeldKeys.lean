import ChipEight.Host.Session
import ChipEight.Proofs.HostSide
import ChipEight.Proofs.Operation
import Mathlib.Data.List.Induction

/-!
No key gets stuck. A key of the keypad is down exactly while its last key event is a press or a
repetition, no restart came since, and its hold did not run out. The times of the last presses are
kept beside the keypad and can be stale behind a restart; what matters is that they are right for
the keys that are down.
-/

namespace ChipEight.Host

open Terminal

/-! ### Key events -/

/-- The character of a key event stands for key `k`, in either case of an ASCII letter. -/
def Means (e : KeyEvent) (k : Fin 16) : Prop := ∃ c, e.code = .char c ∧ (c.toLower, k) ∈ keyMap

/-- The key event asks for a restart. -/
def Restarts (e : KeyEvent) : Prop := e.code = .function 5 ∧ e.action ≠ .release

/-- A character stands for one key at most. -/
theorem keyMap_injective : ∀ p ∈ keyMap, ∀ q ∈ keyMap, p.1 = q.1 → p = q := by
  decide +kernel

theorem space_notMem_keyMap : ∀ k, (' ', k) ∉ keyMap := by
  decide +kernel

theorem mapKey?_eq_some_iff (c : Char) (k : Fin 16) :
    mapKey? c = some k ↔ (c.toLower, k) ∈ keyMap := by
  rw [mapKey?, Option.map_eq_some_iff]
  constructor
  · rintro ⟨⟨mapped, key⟩, hfind, rfl⟩
    have hmapped := List.find?_some hfind
    rw [← of_decide_eq_true hmapped]
    exact List.mem_of_find?_eq_some hfind
  · intro hmem
    have hsome : (keyMap.find? fun p => p.1 = c.toLower).isSome = true := by
      rw [List.find?_isSome]
      exact ⟨_, hmem, decide_eq_true rfl⟩
    obtain ⟨p, hfind⟩ := Option.isSome_iff_exists.mp hsome
    have hmapped := List.find?_some hfind
    have hp := keyMap_injective p (List.mem_of_find?_eq_some hfind) _ hmem
      (of_decide_eq_true hmapped)
    exact ⟨p, hfind, congrArg Prod.snd hp⟩

/-- An event moves the key that its character stands for, unless it quits. -/
theorem command_eq_key_iff {e : KeyEvent} (hquit : command e ≠ .quit) (k : Fin 16)
    (pressed : Bool) :
    command e = .key k pressed ↔ Means e k ∧ pressed = decide (e.action ≠ .release) := by
  obtain ⟨code, action, modifiers⟩ := e
  cases code with
  | escape => exact absurd rfl hquit
  | other => simp [command, Means]
  | function number =>
    simp only [command, Means]
    split <;> simp
  | char c =>
    have hmeans : Means ⟨.char c, action, modifiers⟩ k ↔ mapKey? c = some k := by
      simp [Means, mapKey?_eq_some_iff]
    have hspace : mapKey? ' ' ≠ some k := by
      rw [ne_eq, mapKey?_eq_some_iff]
      exact space_notMem_keyMap k
    rw [hmeans]
    simp only [command] at hquit ⊢
    split at hquit
    · exact absurd rfl hquit
    · rename_i hcontrol
      rw [if_neg hcontrol]
      split
      · rename_i hpause
        rw [hpause.1]
        simp [hspace]
      · rw [charCommand]
        cases mapKey? c with
        | none => simp
        | some key => simp [eq_comm]

theorem command_eq_restart_iff (e : KeyEvent) : command e = .restart ↔ Restarts e := by
  obtain ⟨code, action, modifiers⟩ := e
  cases code with
  | escape | other => simp [command, Restarts]
  | function number => simp [command, Restarts]
  | char c =>
    have hother : ∀ pressed, charCommand c pressed ≠ .restart := by
      intro pressed
      rw [charCommand]
      split <;> simp
    simp only [command, Restarts]
    split
    · simp
    · split
      · simp
      · simp [hother]

/-! ### The keypad of a session -/

theorem get_moveKey (keypad : Keypad) (key k : Fin 16) (pressed : Bool) :
    (moveKey keypad key pressed).state.keys.get k =
      if k = key then pressed else keypad.keys.get k := by
  rw [moveKey, Keypad.set, dif_pos key.isLt]
  show (keypad.keys.set key.val pressed)[k.val] = if k = key then pressed else keypad.keys[k.val]
  rw [Vector.getElem_set]
  simp only [Fin.ext_iff, eq_comm]

theorem get_setIfInBounds (times : Vector (Option Nat) 16) (key k : Fin 16) (time : Option Nat) :
    (times.setIfInBounds key time).get k = if k = key then time else times.get k := by
  show (times.setIfInBounds key.val time)[k.val] = if k = key then time else times[k.val]
  rw [Vector.getElem_setIfInBounds]
  simp only [Fin.ext_iff, eq_comm]

theorem get_expire_keys (hold : KeyHold) (keypad : Keypad) (now : Nat) (k : Fin 16) :
    (hold.expire keypad now).2.keys.get k =
      (keypad.keys.get k && !(hold.expires && hold.isOver now k)) := by
  rw [KeyHold.expire]
  split
  · rename_i hexpires
    rw [hexpires, Bool.true_and]
    exact Vector.getElem_ofFn k.isLt
  · rename_i hexpires
    rw [Bool.not_eq_true] at hexpires
    rw [hexpires, Bool.false_and, Bool.not_false, Bool.and_true]

/-- A press that is not over is still known. -/
theorem get_expire_pressedAt {hold : KeyHold} {now : Nat} {k : Fin 16}
    (hover : (hold.expires && hold.isOver now k) = false) (keypad : Keypad) :
    (hold.expire keypad now).1.pressedAt.get k = hold.pressedAt.get k := by
  rw [KeyHold.expire]
  split
  · rename_i hexpires
    rw [hexpires, Bool.true_and] at hover
    refine (Vector.getElem_ofFn k.isLt).trans ?_
    rw [hover]
    rfl
  · rfl

theorem expire_expires (hold : KeyHold) (keypad : Keypad) (now : Nat) :
    (hold.expire keypad now).1.expires = hold.expires := by
  rw [KeyHold.expire]
  split <;> rfl

theorem isOver_eq_true_iff {hold : KeyHold} {k : Fin 16} {time : Nat}
    (h : hold.pressedAt.get k = some time) (now : Nat) :
    hold.isOver now k = true ↔ time + holdTime ≤ now := by
  have hsome : 0 < holdTime := by decide
  rw [KeyHold.isOver, h]
  simp only [decide_eq_true_iff]
  omega

/-! ### Steps of a session -/

/-- What happens to a session: a key event, a look at the holds, or a poll of the clock. -/
inductive KeyStep where
  | event (e : KeyEvent) (now : Nat)
  | expire (now : Nat)
  | poll (now : Nat)
  deriving DecidableEq

/-- The session behind a step. -/
def Session.keyStep (s : Session) : KeyStep → Session
  | .event e now => (s.react now (.key e)).session
  | .expire now => s.withKeys (s.hold.expire s.keypad now)
  | .poll now => { s with clock := (s.clock.poll now).state }

/-- The session behind some steps. -/
def Session.keySteps (s : Session) (steps : List KeyStep) : Session := steps.foldl keyStep s

/-- Whether a step asks for the end of the session. -/
def KeyStep.quits : KeyStep → Bool
  | .event e _ => command e = .quit
  | _ => false

/-- A step presses key `k`, or repeats it, at `time`. -/
def KeyStep.Presses (k : Fin 16) (time : Nat) : KeyStep → Prop
  | .event e now => Means e k ∧ e.action ≠ .release ∧ now = time
  | _ => False

/-- A step leaves key `k`, last pressed at `time`, as it is: no event of the key, no restart, and,
where holds expire, no look at them when its hold has run out. -/
def KeyStep.Spares (expires : Bool) (k : Fin 16) (time : Nat) : KeyStep → Prop
  | .event e _ => ¬ Means e k ∧ ¬ Restarts e
  | .expire now => expires = true → now < time + holdTime
  | .poll _ => True

/-- Key `k` was last pressed at `time`, and what happened since spared it. -/
def HeldSince (expires : Bool) (k : Fin 16) (steps : List KeyStep) (time : Nat) : Prop :=
  ∃ before press behind, steps = before ++ press :: behind ∧ press.Presses k time ∧
    ∀ step ∈ behind, step.Spares expires k time

theorem heldSince_nil {expires : Bool} {k : Fin 16} {time : Nat} :
    ¬ HeldSince expires k [] time := by
  rintro ⟨before, press, behind, hsplit, -⟩
  exact List.append_ne_nil_of_right_ne_nil before (List.cons_ne_nil press behind) hsplit.symm

/-- A key is held behind one more step if that presses it, or if it was held and is spared. -/
theorem heldSince_concat {expires : Bool} {k : Fin 16} {time : Nat} {steps : List KeyStep}
    {step : KeyStep} :
    HeldSince expires k (steps ++ [step]) time ↔
      step.Presses k time ∨ HeldSince expires k steps time ∧ step.Spares expires k time := by
  constructor
  · rintro ⟨before, press, behind, hsplit, hpress, hspares⟩
    rcases List.eq_nil_or_concat behind with rfl | ⟨behind, last, rfl⟩
    · obtain ⟨-, hlast⟩ := List.append_inj' hsplit rfl
      cases hlast
      exact .inl hpress
    · rw [List.concat_eq_append, ← List.cons_append, ← List.append_assoc] at hsplit
      obtain ⟨rfl, hlast⟩ := List.append_inj' hsplit rfl
      cases hlast
      rw [List.concat_eq_append, List.forall_mem_append, List.forall_mem_singleton] at hspares
      exact .inr ⟨⟨before, press, behind, rfl, hpress, hspares.1⟩, hspares.2⟩
  · rintro (hpress | ⟨⟨before, press, behind, rfl, hpress, hspares⟩, hlast⟩)
    · exact ⟨steps, step, [], rfl, hpress, List.forall_mem_nil _⟩
    · refine ⟨before, press, behind ++ [step], by simp, hpress, ?_⟩
      rw [List.forall_mem_append, List.forall_mem_singleton]
      exact ⟨hspares, hlast⟩

/-! ### Commands that leave the keys -/

namespace Session

theorem keypad_togglePause (s : Session) (now : Nat) :
    (s.togglePause now).session.keypad = s.keypad := by
  rw [togglePause]
  split
  · exact congrArg Interpreter.keypad s.clock.stop_interpreter
  · show (s.clock.resume now).state.interpreter.keypad = s.keypad
    rw [Clock.resume]
    split <;> rfl

theorem keypad_restart (s : Session) (now : Nat) :
    (s.restart now).session.keypad = .released := by
  show ((s.clock.reload s.rom.code).state.start now).state.interpreter.keypad = .released
  rw [Clock.start]
  split <;> rfl

/-- Running the program moves no key. -/
theorem keypad_poll (s : Session) (now : Nat) :
    (s.clock.poll now).state.interpreter.keypad = s.keypad := by
  have hkept : Interpreter.KeptByTicks fun t => t.keypad = s.keypad := by
    constructor
    · intro t h
      rw [t.cycle_leaves_host.1, h]
    · intro t h
      exact h
    · intro t h
      exact h
  exact Clock.kept_by_pollFrom hkept now catchUpLimit none rfl

end Session

/-! ### What a session knows of the held keys -/

/-- A session knows of key `k` what its past says: the key is down if and only if it is held, and
then the time of its last press is known. -/
structure Tracks (expires : Bool) (k : Fin 16) (steps : List KeyStep) (s : Session) : Prop where
  expires_eq : s.hold.expires = expires
  down_iff : s.keypad.keys.get k = true ↔ ∃ time, HeldSince expires k steps time
  pressedAt_eq : ∀ time, HeldSince expires k steps time → s.hold.pressedAt.get k = some time

namespace Tracks

variable {expires : Bool} {k : Fin 16} {steps : List KeyStep} {step : KeyStep} {s t : Session}
  {time : Nat}

theorem pressed (hexpires : t.hold.expires = expires) (hpress : step.Presses k time)
    (hspare : ∀ earlier, ¬ step.Spares expires k earlier) (hdown : t.keypad.keys.get k = true)
    (hat : t.hold.pressedAt.get k = some time) : Tracks expires k (steps ++ [step]) t := by
  refine ⟨hexpires, iff_of_true hdown ⟨time, heldSince_concat.mpr (.inl hpress)⟩, ?_⟩
  intro later hheld
  rcases heldSince_concat.mp hheld with hagain | ⟨-, hspared⟩
  · cases step with
    | event e now => rw [hat, ← hpress.2.2, ← hagain.2.2]
    | expire | poll => exact hpress.elim
  · exact absurd hspared (hspare later)

theorem released (hexpires : t.hold.expires = expires) (hpress : ∀ time, ¬ step.Presses k time)
    (hspare : ∀ time, HeldSince expires k steps time → ¬ step.Spares expires k time)
    (hup : t.keypad.keys.get k = false) : Tracks expires k (steps ++ [step]) t := by
  have hnot : ∀ time, ¬ HeldSince expires k (steps ++ [step]) time := by
    intro time hheld
    rcases heldSince_concat.mp hheld with hagain | ⟨hbefore, hspared⟩
    · exact hpress time hagain
    · exact hspare time hbefore hspared
  refine ⟨hexpires, iff_of_false (by simp [hup]) ?_, fun time hheld => absurd hheld (hnot time)⟩
  rintro ⟨time, hheld⟩
  exact hnot time hheld

theorem kept (h : Tracks expires k steps s) (hexpires : t.hold.expires = s.hold.expires)
    (hpress : ∀ time, ¬ step.Presses k time)
    (hspare : ∀ time, HeldSince expires k steps time → step.Spares expires k time)
    (hkeys : t.keypad.keys.get k = s.keypad.keys.get k)
    (hat : t.hold.pressedAt.get k = s.hold.pressedAt.get k) :
    Tracks expires k (steps ++ [step]) t := by
  have hsame : ∀ time, HeldSince expires k (steps ++ [step]) time ↔
      HeldSince expires k steps time := by
    intro time
    rw [heldSince_concat]
    constructor
    · rintro (hagain | ⟨hbefore, -⟩)
      · exact absurd hagain (hpress time)
      · exact hbefore
    · intro hbefore
      exact .inr ⟨hbefore, hspare time hbefore⟩
  refine ⟨hexpires.trans h.expires_eq, ?_, fun time hheld => ?_⟩
  · rw [hkeys, h.down_iff]
    exact exists_congr fun time => (hsame time).symm
  · rw [hat]
    exact h.pressedAt_eq time ((hsame time).mp hheld)

/-- A key event of the key itself. -/
theorem event_of_means (h : Tracks expires k steps s) {e : KeyEvent} {now : Nat}
    (hquit : command e ≠ .quit) (hmeans : Means e k) :
    Tracks expires k (steps ++ [.event e now]) (s.keyStep (.event e now)) := by
  have hspare : ∀ time, ¬ (KeyStep.event e now).Spares expires k time := fun _ hs => hs.1 hmeans
  have hcommand := (command_eq_key_iff hquit k _).mpr ⟨hmeans, rfl⟩
  rw [Session.keyStep, Session.react, hcommand]
  by_cases hpressed : e.action ≠ .release
  · rw [decide_eq_true hpressed]
    refine pressed h.expires_eq ⟨hmeans, hpressed, rfl⟩ hspare ?_ ?_
    · exact (get_moveKey s.keypad k k true).trans (if_pos rfl)
    · exact (get_setIfInBounds s.hold.pressedAt k k (some now)).trans (if_pos rfl)
  · rw [decide_eq_false hpressed]
    refine released h.expires_eq (fun _ hp => hpressed hp.2.1) (fun time _ => hspare time) ?_
    exact (get_moveKey s.keypad k k false).trans (if_pos rfl)

/-- A key event of another key, or of none. -/
theorem event_of_other (h : Tracks expires k steps s) {e : KeyEvent} {now : Nat}
    (hquit : command e ≠ .quit) (hmeans : ¬ Means e k) :
    Tracks expires k (steps ++ [.event e now]) (s.keyStep (.event e now)) := by
  have hpress : ∀ time, ¬ (KeyStep.event e now).Presses k time := fun _ hp => hmeans hp.1
  rw [Session.keyStep, Session.react]
  by_cases hrestarts : Restarts e
  · rw [(command_eq_restart_iff e).mpr hrestarts]
    -- the time of the last press stays behind, but the key is up and no longer held
    refine released h.expires_eq hpress (fun _ _ hs => hs.2 hrestarts) ?_
    show (s.restart now).session.keypad.keys.get k = false
    rw [s.keypad_restart]
    exact Vector.getElem_replicate k.isLt
  · have hspare : ∀ time, HeldSince expires k steps time →
        (KeyStep.event e now).Spares expires k time := fun _ _ => ⟨hmeans, hrestarts⟩
    cases hcommand : command e with
    | quit => exact absurd hcommand hquit
    | restart => exact absurd ((command_eq_restart_iff e).mp hcommand) hrestarts
    | none => exact h.kept rfl hpress hspare rfl rfl
    | pause =>
      have hkeypad := s.keypad_togglePause now
      exact h.kept rfl hpress hspare (congrArg (fun keypad => keypad.keys.get k) hkeypad) rfl
    | key key moved =>
      have hne : k ≠ key := by
        rintro rfl
        exact hmeans ((command_eq_key_iff hquit k moved).mp hcommand).1
      cases moved with
      | true =>
        refine h.kept rfl hpress hspare ?_ ?_
        · exact (get_moveKey s.keypad key k true).trans (if_neg hne)
        · exact (get_setIfInBounds s.hold.pressedAt key k (some now)).trans (if_neg hne)
      | false =>
        refine h.kept rfl hpress hspare ?_ ?_
        · exact (get_moveKey s.keypad key k false).trans (if_neg hne)
        · exact (get_setIfInBounds s.hold.pressedAt key k none).trans (if_neg hne)

/-- A look at the holds lets the key come up exactly if its hold has run out. -/
theorem expire (h : Tracks expires k steps s) (now : Nat) :
    Tracks expires k (steps ++ [.expire now]) (s.keyStep (.expire now)) := by
  have hpress : ∀ time, ¬ (KeyStep.expire now).Presses k time := fun _ hp => hp
  have hexpires : (s.keyStep (.expire now)).hold.expires = s.hold.expires :=
    expire_expires s.hold s.keypad now
  have hkeys : (s.keyStep (.expire now)).keypad.keys.get k =
      (s.keypad.keys.get k && !(s.hold.expires && s.hold.isOver now k)) :=
    get_expire_keys s.hold s.keypad now k
  cases hover : s.hold.expires && s.hold.isOver now k with
  | false =>
    refine h.kept hexpires hpress ?_ ?_ (get_expire_pressedAt hover s.keypad)
    · intro time hheld hexp
      rw [h.expires_eq, hexp, Bool.true_and] at hover
      rw [← Nat.not_le, ← isOver_eq_true_iff (h.pressedAt_eq time hheld) now, hover]
      exact Bool.false_ne_true
    · rw [hkeys, hover, Bool.not_false, Bool.and_true]
  | true =>
    refine released (hexpires.trans h.expires_eq) hpress ?_ ?_
    · intro time hheld hspared
      rw [Bool.and_eq_true, h.expires_eq,
        isOver_eq_true_iff (h.pressedAt_eq time hheld) now] at hover
      exact absurd (hspared hover.1) (Nat.not_lt.mpr hover.2)
    · rw [hkeys, hover, Bool.not_true, Bool.and_false]

theorem keyStep (h : Tracks expires k steps s) (hquit : step.quits = false) :
    Tracks expires k (steps ++ [step]) (s.keyStep step) := by
  cases step with
  | event e now =>
    by_cases hmeans : Means e k
    · exact h.event_of_means (of_decide_eq_false hquit) hmeans
    · exact h.event_of_other (of_decide_eq_false hquit) hmeans
  | expire now => exact h.expire now
  | poll now =>
    have hkeypad := s.keypad_poll now
    exact h.kept rfl (fun _ hp => hp) (fun _ _ => trivial)
      (congrArg (fun keypad => keypad.keys.get k) hkeypad) rfl

theorem keySteps (hhold : s.hold = .new expires) (hkeypad : s.keypad = .released)
    (hquit : ∀ step ∈ steps, step.quits = false) : Tracks expires k steps (s.keySteps steps) := by
  -- from the end, because what a step does to a key depends on when it was last pressed
  induction steps using List.reverseRecOn with
  | nil =>
    refine ⟨congrArg KeyHold.expires hhold, ?_, fun time hheld => absurd hheld heldSince_nil⟩
    have hup : s.keypad.keys.get k = false := by
      rw [hkeypad]
      exact Vector.getElem_replicate k.isLt
    refine iff_of_false (by simp [Session.keySteps, hup]) ?_
    rintro ⟨time, hheld⟩
    exact heldSince_nil hheld
  | append_singleton steps step ih =>
    rw [List.forall_mem_append, List.forall_mem_singleton] at hquit
    rw [Session.keySteps, List.foldl_append]
    exact (ih hquit.1).keyStep hquit.2

end Tracks

/-- No key is stuck. From a session in which no key is held on, as long as no event asks for the
end, a key of the keypad is down if and only if the last event of its characters is a press or a
repetition, no restart came since, and, where holds expire, nobody looked at the holds a hold time
later or later still. -/
theorem key_down_iff_held {expires : Bool} {s : Session} (hhold : s.hold = .new expires)
    (hkeypad : s.keypad = .released) {steps : List KeyStep}
    (hquit : ∀ step ∈ steps, step.quits = false) (k : Fin 16) :
    (s.keySteps steps).keypad.keys.get k = true ↔
      ∃ before e time behind, steps = before ++ .event e time :: behind ∧
        Means e k ∧ e.action ≠ .release ∧
        (∀ e' time', .event e' time' ∈ behind → ¬ Means e' k ∧ ¬ Restarts e') ∧
        (expires = true → ∀ now, .expire now ∈ behind → now < time + holdTime) := by
  rw [(Tracks.keySteps hhold hkeypad hquit).down_iff]
  constructor
  · rintro ⟨time, before, press, behind, rfl, hpress, hspares⟩
    cases press with
    | expire | poll => exact hpress.elim
    | event e now =>
      obtain ⟨hmeans, haction, rfl⟩ := hpress
      exact ⟨before, e, now, behind, rfl, hmeans, haction,
        fun e' time' hmem => hspares _ hmem, fun hexp now' hmem => hspares _ hmem hexp⟩
  · rintro ⟨before, e, time, behind, rfl, hmeans, haction, hevents, hlooks⟩
    refine ⟨time, before, .event e time, behind, rfl, ⟨hmeans, haction, rfl⟩, ?_⟩
    intro step hmem
    cases step with
    | event e' time' => exact hevents e' time' hmem
    | expire now => exact fun hexp => hlooks hexp now hmem
    | poll now => trivial

/-- A session that has just taken over a terminal that reports no released keys. -/
def entered : Session := (Session.enter (.new {} .zeros) ⟨[0x12, 0x00]⟩ false 0).session

/-- A key is pressed, the program restarts, and the key repeats, by a clock that was set back. -/
def restartedPress : List KeyStep :=
  [.event { code := .char 'Q' } 100, .event { code := .function 5 } 200,
    .event { code := .char 'q', action := .again } 10, .poll 300, .expire (holdTime + 9)]

/-- The hold counts from the repetition and not from the press before it, so it has a nanosecond
left. -/
theorem restartedPress_key_down :
    entered.hold = .new true ∧ entered.keypad = .released ∧
      (∀ step ∈ restartedPress, step.quits = false) ∧
      (entered.keySteps restartedPress).keypad.keys.get 4 = true := by
  have hhold : entered.hold = .new true := rfl
  have hkeypad : entered.keypad = .released := by decide +kernel
  have hquit : ∀ step ∈ restartedPress, step.quits = false := by decide +kernel
  refine ⟨hhold, hkeypad, hquit, (key_down_iff_held hhold hkeypad hquit 4).mpr ?_⟩
  refine ⟨restartedPress.take 2, _, 10, restartedPress.drop 3, rfl, ⟨'q', rfl, by decide +kernel⟩,
    by decide, ?_, ?_⟩
  · simp [restartedPress]
  · intro _ now hmem
    obtain rfl : now = holdTime + 9 := by simpa [restartedPress] using hmem
    omega

end ChipEight.Host
