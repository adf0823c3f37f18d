import ChipEight.Proofs.RandomNumbers

/-!
The two timers. Each is set by one kind of instruction and by no other, so a batch leaves in a timer
what was last put there, or what it found. A tick counts a timer down before the batch, once however
large the batch is; and it looks at the sound timer in between, so the tone is decided by what the
timer was before the tick.
-/

namespace ChipEight

/-- The timers of a machine. -/
inductive Timer where | delay | sound
  deriving DecidableEq

namespace Timer

/-- The instruction that sets a timer to a register. -/
def setFrom : Timer → Nat → Instruction
  | .delay => .setDelay
  | .sound => .setSound

/-- The register from which an instruction sets a timer. -/
def source? : Timer → Instruction → Option Nat
  | .delay, .setDelay x => some x
  | .sound, .setSound x => some x
  | _, _ => none

/-- A timer as a component of the machine. -/
def component : Timer → Component
  | .delay => .delayTimer
  | .sound => .soundTimer

variable {timer : Timer} {i : Instruction}

theorem eq_setFrom_of_source {x : Nat} (h : timer.source? i = some x) : i = timer.setFrom x := by
  cases timer with
  | delay =>
    cases i with
    | setDelay y => exact congrArg Instruction.setDelay (Option.some.inj h)
    | _ => cases h
  | sound =>
    cases i with
    | setSound y => exact congrArg Instruction.setSound (Option.some.inj h)
    | _ => cases h

/-- An instruction that does not set a timer leaves it. -/
theorem component_notMem_targets (h : timer.source? i = none) (index : UInt16) :
    timer.component ∉ i.targets index := by
  cases i with
  | setDelay x =>
    cases timer with
    | delay => cases h
    | sound => simp [component, Instruction.targets]
  | setSound x =>
    cases timer with
    | delay => simp [component, Instruction.targets]
    | sound => cases h
  | random x nn =>
    rw [Instruction.targets]
    split <;> cases timer <;> simp [component, Component.numbered]
  | _ =>
    cases timer <;>
      simp [component, Instruction.targets, Component.window, Component.numbered, Component.flag]

end Timer

/-- What a timer of a machine shows. -/
def Machine.timer (m : Machine) : Timer → UInt8
  | .delay => m.delayTimer
  | .sound => m.soundTimer

theorem Machine.toNat_countDown (value : UInt8) : (countDown value).toNat = value.toNat - 1 := by
  rw [countDown]
  split
  · rename_i hzero
    rw [hzero]
    rfl
  · rename_i hpos
    have hne : value.toNat ≠ 0 := fun h => hpos (UInt8.toNat_inj.mp h)
    have hle : 1 ≤ value := UInt8.le_iff_toNat_le.mpr (Nat.one_le_iff_ne_zero.mpr hne)
    exact UInt8.toNat_sub_of_le _ _ hle

namespace Interpreter

variable {s : Interpreter} {timer : Timer}

/-- The value to which the next cycle sets a timer, if it does. -/
def timerSet? (timer : Timer) (s : Interpreter) : Option UInt8 :=
  (s.current?.bind timer.source?).map s.machine.reg

/-- A cycle leaves in a timer what it sets it to, or what it finds there. -/
theorem timer_cycle (s : Interpreter) (timer : Timer) :
    s.cycle.state.machine.timer timer = (s.timerSet? timer).getD (s.machine.timer timer) := by
  cases hw : s.word? with
  | none =>
    rw [cycle_of_no_word hw, timerSet?, current?, hw]
    rfl
  | some word =>
    cases hd : decode word with
    | none =>
      rw [cycle_of_no_instruction hw hd, timerSet?, current?, hw, Option.bind_some, hd]
      rfl
    | some i =>
      rw [timerSet?, current?_eq_some hw hd, Option.bind_some]
      cases hsource : timer.source? i with
      | none =>
        have hsame := same_cycle hw hd (Timer.component_notMem_targets hsource _)
        cases timer <;> exact hsame
      | some x =>
        obtain rfl := Timer.eq_setFrom_of_source hsource
        cases timer <;> rw [cycle_of_effect hw hd rfl] <;> rfl

/-- A batch leaves in a timer what it last sets it to, or what it finds there. -/
theorem timer_runCycles (s : Interpreter) (count : Nat) (timer : Timer) :
    (s.runCycles count).state.machine.timer timer =
      ((s.fronts count).filterMap (timerSet? timer)).getLast?.getD (s.machine.timer timer) := by
  induction count generalizing s with
  | zero => rfl
  | succ count ih =>
    have hcycle := s.timer_cycle timer
    rw [runCycles_succ, fronts]
    cases s.cycle.result with
    | ok =>
      refine (ih s.cycle.state).trans ?_
      rw [hcycle]
      cases hset : s.timerSet? timer with
      | none => rw [List.filterMap_cons_none hset, Option.getD_none]
      | some value =>
        rw [List.filterMap_cons_some hset, List.getLast?_cons, Option.getD_some, Option.getD_some]
    | error halt =>
      refine hcycle.trans ?_
      cases hset : s.timerSet? timer with
      | none => rw [List.filterMap_cons_none hset]; rfl
      | some value => rw [List.filterMap_cons_some hset]; rfl

/-- Where no instruction that sets a timer is executed, it is not set. -/
theorem filterMap_timerSet?_eq_nil {fronts : List Interpreter}
    (h : ∀ x, timer.setFrom x ∉ fronts.filterMap current?) :
    fronts.filterMap (timerSet? timer) = [] := by
  rw [List.filterMap_eq_nil_iff]
  intro s hs
  cases hset : s.timerSet? timer with
  | none => rfl
  | some value =>
    obtain ⟨x, hx, -⟩ := Option.map_eq_some_iff.mp hset
    obtain ⟨i, hi, hsource⟩ := Option.bind_eq_some_iff.mp hx
    refine absurd (List.mem_filterMap.mpr ⟨s, hs, ?_⟩) (h x)
    rw [hi, Timer.eq_setFrom_of_source hsource]

theorem machine_tick (s : Interpreter) (count : Nat) :
    (s.tick count).machine = (s.tickTimers.runCycles count).state.machine := by
  rw [tick]
  cases (s.tickTimers.runCycles count).result <;> rfl

end Interpreter

namespace Clock

variable {c : Clock} {timer : Timer} {k : Nat}

/-- The values to which a tick sets a timer, in order. -/
def timerValues (c : Clock) (timer : Timer) : List UInt8 :=
  c.tickFronts.filterMap (Interpreter.timerSet? timer)

/-- A tick leaves in a timer what it last sets it to, or one less than before. -/
theorem timer_tick (c : Clock) (timer : Timer) :
    c.tick.state.interpreter.machine.timer timer =
      (c.timerValues timer).getLast?.getD
        (Machine.countDown (c.interpreter.machine.timer timer)) := by
  rw [tick_interpreter, Interpreter.machine_tick, Interpreter.timer_runCycles]
  cases timer <;> rfl

/-- The tone is decided between the count and the batch. -/
theorem tone_of_tick {r : TickReport} (h : c.tick.result = .ok r) :
    r.tone = true ↔ 2 ≤ (c.interpreter.machine.timer .sound).toNat := by
  have hcount := Machine.toNat_countDown c.interpreter.machine.soundTimer
  have htone : r.tone = decide (Machine.countDown c.interpreter.machine.soundTimer ≠ 0) := by
    rw [tick] at h
    cases hb : (c.interpreter.tickTimers.runCycles c.cyclesPerTick).result with
    | ok =>
      simp only [hb] at h
      cases h
      rfl
    | error halt =>
      simp only [hb] at h
      cases h
  rw [htone, decide_eq_true_iff, ne_eq, ← UInt8.toNat_inj, hcount]
  show ¬ c.interpreter.machine.soundTimer.toNat - 1 = 0 ↔ 2 ≤ c.interpreter.machine.soundTimer.toNat
  omega

theorem toNat_timer_tick_of_notMem (h : ∀ x, timer.setFrom x ∉ executed c.tick.events) :
    (c.tick.state.interpreter.machine.timer timer).toNat =
      (c.interpreter.machine.timer timer).toNat - 1 := by
  rw [c.recorded_tick.executed_eq] at h
  rw [timer_tick, timerValues, Interpreter.filterMap_timerSet?_eq_nil h, List.getLast?_nil,
    Option.getD_none, Machine.toNat_countDown]

/-- Ticks that do not set a timer count it down, each by one. -/
theorem toNat_timer_ticked (h : ∀ x, timer.setFrom x ∉ executed (c.tickEvents k)) :
    ((c.ticked k).interpreter.machine.timer timer).toNat =
      (c.interpreter.machine.timer timer).toNat - k := by
  induction k with
  | zero => rfl
  | succ k ih =>
    simp only [tickEvents_succ, executed_append, List.mem_append, not_or] at h
    rw [ticked_succ, toNat_timer_tick_of_notMem fun x => (h x).2, ih fun x => (h x).1,
      Nat.sub_sub]

/-- Ticks that do not set the sound timer sound as many tones as it has counts, less one. -/
theorem tones_of_results {reports : List TickReport}
    (h : ∀ x, Timer.sound.setFrom x ∉ executed (c.tickEvents k))
    (hgood : c.results k = reports.map .ok) :
    reports.map TickReport.tone =
      (List.range k).map fun j => decide (j + 1 < (c.interpreter.machine.timer .sound).toNat) := by
  induction k generalizing reports with
  | zero =>
    obtain rfl : reports = [] := List.map_eq_nil_iff.mp hgood.symm
    rfl
  | succ k ih =>
    simp only [tickEvents_succ, executed_append, List.mem_append, not_or] at h
    obtain ⟨before, r, rfl, hbefore, hr⟩ := results_eq_map_succ hgood
    have htone : r.tone = decide (k + 1 < (c.interpreter.machine.timer .sound).toNat) := by
      rw [Bool.eq_iff_iff, tone_of_tick hr, toNat_timer_ticked fun x => (h x).1,
        decide_eq_true_iff]
      omega
    rw [List.map_append, ih (fun x => (h x).1) hbefore, List.range_succ, List.map_append,
      List.map_singleton, htone]
    rfl

/-- A tick, whether or not it halts, leaves in either timer the value to which its batch last sets
it, or else one less than before and never less than zero; the values on record are those of the
instructions that the events tell of. A tick that reports sounds the tone if the sound timer was two
or more before it. So the timers count one down for each tick that does not set them, and of such
ticks in a row that report, the one behind `j` others sounds the tone if the sound timer was above
`j + 1` before all of them. -/
theorem timers_keep_cadence (c : Clock) :
    let m := c.interpreter.machine
    (∀ timer, (c.tick.state.interpreter.machine.timer timer).toNat =
      ((c.timerValues timer).getLast?.map UInt8.toNat).getD ((m.timer timer).toNat - 1)) ∧
    executed c.tick.events = c.tickFronts.filterMap Interpreter.current? ∧
    (∀ r, c.tick.result = .ok r → (r.tone = true ↔ 2 ≤ (m.timer .sound).toNat)) ∧
    (∀ timer k, (∀ x, timer.setFrom x ∉ executed (c.tickEvents k)) →
      ((c.ticked k).interpreter.machine.timer timer).toNat = (m.timer timer).toNat - k) ∧
    ∀ k (reports : List TickReport), (∀ x, .setSound x ∉ executed (c.tickEvents k)) →
      c.results k = reports.map .ok →
        reports.map TickReport.tone =
          (List.range k).map fun j => decide (j + 1 < (m.timer .sound).toNat) := by
  intro m
  refine ⟨fun timer => ?_, c.recorded_tick.executed_eq, fun r => tone_of_tick,
    fun timer k => toNat_timer_ticked, fun k reports => tones_of_results⟩
  rw [timer_tick]
  cases (c.timerValues timer).getLast? with
  | none => exact Machine.toNat_countDown _
  | some value => rfl

/-- A clock that jumps on the spot, with two counts in the delay timer and three in the sound
timer. -/
def soundingSpin : Clock :=
  let c := ((new { seed := some 0 } .zeros).load [0x12, 0x00]).state
  let machine := { c.interpreter.machine with delayTimer := 2, soundTimer := 3 }
  { c with interpreter := { c.interpreter with machine := machine } }

theorem soundingSpin_keeps_cadence :
    executed (soundingSpin.tickEvents 3) = List.replicate 12 (.jump 0x200) ∧
      ((soundingSpin.ticked 3).interpreter.machine.timer .delay).toNat = 0 ∧
      soundingSpin.results 3 = [⟨true, false⟩, ⟨true, false⟩, ⟨false, false⟩].map .ok ∧
      (List.range 3).map (fun j => decide (j + 1 < (3 : UInt8).toNat)) = [true, true, false] := by
  have hjumps : executed (soundingSpin.tickEvents 3) = List.replicate 12 (.jump 0x200) := by
    decide +kernel
  have hgood : soundingSpin.results 3 =
      [⟨true, false⟩, ⟨true, false⟩, ⟨false, false⟩].map .ok := by
    decide +kernel
  obtain ⟨-, -, -, hcounts, htones⟩ := timers_keep_cadence soundingSpin
  refine ⟨hjumps, hcounts .delay 3 ?_, hgood, (htones 3 _ ?_ hgood).symm⟩
  · rw [hjumps]
    simp [Timer.setFrom]
  · rw [hjumps]
    simp

end Clock

end ChipEight
