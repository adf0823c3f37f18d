import ChipEight.Proofs.Poll

/-!
The deadline that a poll leaves. It moves on by a period with every tick that runs, and to a period
from now if ticks are dropped, so it never moves back and is later than the poll. The exception are
rates so high that no nanosecond is left of the period: with these a poll leaves the deadline at its
own time.
-/

namespace ChipEight

variable {first period now : Nat}

theorem ticksDue_le_four_iff : ticksDue first period now ≤ 4 ↔ now < first + 4 * period := by
  rw [← Nat.not_le, ← lt_ticksDue_iff 4, not_lt]
  rfl

/-- When the next tick is due after a poll, if one was due at `first` before it. -/
noncomputable def nextDue (first period now : Nat) : Nat :=
  if now < first + 4 * period then first + ticksAllowed first period now * period
  else now + period

theorem nextDue_eq :
    nextDue first period now =
      if ticksDue first period now ≤ 4 then first + (ticksDue first period now).toNat * period
      else now + period := by
  by_cases hfew : ticksDue first period now ≤ 4
  · rw [nextDue, if_pos (ticksDue_le_four_iff.mp hfew), if_pos hfew,
      ticksDue_eq_ticksAllowed hfew, ENat.toNat_natCast]
  · rw [nextDue, if_neg (mt ticksDue_le_four_iff.mpr hfew), if_neg hfew]

/-- Every tick that runs moves the deadline on by a period. -/
theorem ticksAllowed_le_nextDue (first period now : Nat) :
    first + ticksAllowed first period now * period ≤ nextDue first period now := by
  have hfour : ticksAllowed first period now ≤ 4 := ticksAllowed_le
  have := Nat.mul_le_mul_right period hfour
  rw [nextDue]
  split <;> omega

/-- No poll moves the deadline back. -/
theorem le_nextDue (first period now : Nat) : first ≤ nextDue first period now :=
  (Nat.le_add_right first _).trans (ticksAllowed_le_nextDue first period now)

/-- Where no tick is dropped, the next one is the first that is not due. -/
theorem nextDue_of_few (h : now < first + 4 * period) :
    nextDue first period now = first + ticksAllowed first period now * period ∧
      now < nextDue first period now := by
  have hfew := ticksDue_le_four_iff.mpr h
  have hnext : nextDue first period now = first + ticksAllowed first period now * period := if_pos h
  refine ⟨hnext, ?_⟩
  rw [hnext, ← Nat.not_le, ← lt_ticksDue_iff, ticksDue_eq_ticksAllowed hfew]
  exact lt_irrefl _

/-- No poll leaves a deadline that has passed already. -/
theorem now_le_nextDue : now ≤ nextDue first period now := by
  by_cases hfew : now < first + 4 * period
  · exact (nextDue_of_few hfew).2.le
  · rw [nextDue, if_neg hfew]
    exact Nat.le_add_right now period

/-- A poll leaves a later deadline than its own time if a period is any time at all. -/
theorem lt_nextDue_iff : now < nextDue first period now ↔ 0 < period ∨ now < first := by
  by_cases hfew : now < first + 4 * period
  · exact iff_of_true (nextDue_of_few hfew).2 (by omega)
  · rw [nextDue, if_neg hfew]
    omega

theorem Config.tickPeriod_pos_iff (config : Config) :
    0 < config.tickPeriod ↔ config.tickHz.toNat ≤ nanosPerSecond := by
  have hsecond : 1 ≤ nanosPerSecond := by decide
  rw [tickPeriod, Nat.div_pos_iff]
  omega

namespace Clock

variable {c : Clock} {report : Option TickReport}

/-- A poll that does not halt runs all ticks that are allowed. -/
theorem results_of_poll (hd : c.deadline = some first) (hok : (c.poll now).result = .ok report) :
    ∃ reports : List TickReport,
      c.results (ticksAllowed first c.period now) = reports.map .ok := by
  rcases c.results_cases (ticksAllowed first c.period now) with
    hgood | ⟨n, hn, reports, halt, hgood, hhalt⟩
  · exact hgood
  · rw [poll_of_halt hd hn hgood hhalt] at hok
    cases hok

theorem deadline_of_poll (hd : c.deadline = some first) (hok : (c.poll now).result = .ok report) :
    (c.poll now).state.deadline = some (nextDue first c.period now) := by
  obtain ⟨reports, hgood⟩ := results_of_poll hd hok
  rw [poll_of_reports hd hgood, nextDue_eq]

theorem poll_of_early (hd : c.deadline = some first) (hearly : now < first) :
    c.poll now = ⟨c, [], .ok none⟩ := by
  rw [poll, pollFrom_of_early hd hearly]

/-- A poll of a running clock that does not halt leaves a later deadline than its own time exactly
if the rate leaves a period, or if nothing was due; then a second poll at the same time finds
nothing to do. Otherwise the deadline is at the poll's own time. -/
theorem next_deadline_later_iff (config : Config) (c : Clock)
    (hperiod : c.period = config.tickPeriod) (first : Nat) (hrunning : c.deadline = some first)
    (now : Nat) (report : Option TickReport) (hok : (c.poll now).result = .ok report) :
    ∃ next, (c.poll now).state.deadline = some next ∧
      (now < next ↔ config.tickHz.toNat ≤ nanosPerSecond ∨ now < first) ∧
      (now < next → (c.poll now).state.poll now = ⟨(c.poll now).state, [], .ok none⟩) ∧
      (¬ now < next → next = now) := by
  have hnext := deadline_of_poll hrunning hok
  refine ⟨_, hnext, ?_, poll_of_early hnext, ?_⟩
  · rw [lt_nextDue_iff, hperiod, config.tickPeriod_pos_iff]
  · intro hnot
    exact le_antisymm (not_lt.mp hnot) now_le_nextDue

theorem everyTen_next_deadline_later :
    (everyTen beepAndDraw).period = ({ tickHz := 100000000 } : Config).tickPeriod ∧
      (everyTen beepAndDraw).deadline = some 5 ∧
      ((everyTen beepAndDraw).poll 105).result = .ok (some ⟨false, true⟩) ∧
      ∃ next, ((everyTen beepAndDraw).poll 105).state.deadline = some next ∧ 105 < next ∧
        (((everyTen beepAndDraw).poll 105).state.poll 105).result = .ok none := by
  have hperiod : (everyTen beepAndDraw).period =
      ({ tickHz := 100000000 } : Config).tickPeriod := by
    decide
  have hok : ((everyTen beepAndDraw).poll 105).result = .ok (some ⟨false, true⟩) := by
    decide +kernel
  obtain ⟨next, hnext, hlater, hidle, -⟩ :=
    next_deadline_later_iff { tickHz := 100000000 } (everyTen beepAndDraw) hperiod 5 rfl 105 _ hok
  have hlt : 105 < next := hlater.mpr (.inl (by decide))
  exact ⟨hperiod, rfl, hok, next, hnext, hlt, by rw [hidle hlt]⟩

/-- A rate whose period has no nanosecond left. -/
def tooFast : Config := { tickHz := 2000000000, cyclesPerTick := 1, seed := some 0 }

/-- A clock of that rate that was started at once, with a program that spins: `1200`. -/
def restless : Clock := (((new tooFast .zeros).load [0x12, 0x00]).state.start 0).state

/-- A poll leaves the deadline where it is, so that the same poll runs ticks again. -/
theorem restless_polls_twice :
    restless.period = tooFast.tickPeriod ∧
      (restless.poll 0).result = .ok (some ⟨false, false⟩) ∧
      (restless.poll 0).state.deadline = some 0 ∧
      ((restless.poll 0).state.poll 0).result = .ok (some ⟨false, false⟩) := by
  refine ⟨?_, ?_, ?_, ?_⟩ <;> decide +kernel

end Clock

end ChipEight
