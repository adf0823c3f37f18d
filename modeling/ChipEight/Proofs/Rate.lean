import ChipEight.Proofs.Deadline
import ChipEight.Proofs.Settings

/-!
The rate of a clock that is only polled. The loop of a poll is run again with a record of when its
ticks were due; over many polls the entries of the record lie a period apart or more, start with the
first deadline, and none of them is later than the poll that it is from. So their number is bounded
by the time of the latest poll, and it is that bound where no poll drops a tick.
-/

namespace ChipEight

variable {first period now : Nat}

/-- How many ticks are due by some time at the latest, if the first is due at `first`. -/
def ticksUpTo (first period latest : Nat) : Nat :=
  if latest < first then 0 else (latest - first) / period + 1

theorem lt_ticksUpTo_iff (hperiod : 0 < period) (j : Nat) :
    j < ticksUpTo first period now ↔ first + j * period ≤ now := by
  rw [ticksUpTo]
  split
  · have := Nat.le_add_right first (j * period)
    omega
  · rw [Nat.lt_succ_iff, Nat.le_div_iff_mul_le hperiod]
    omega

/-! ### Times one period apart -/

/-- Ticks with one period between them. -/
def series (first period n : Nat) : List Nat := (List.range n).map fun j => first + j * period

@[simp] theorem series_zero : series first period 0 = [] := rfl

@[simp] theorem length_series (n : Nat) : (series first period n).length = n := by
  rw [series, List.length_map, List.length_range]

theorem due_succ (first period j : Nat) :
    first + (j + 1) * period = first + period + j * period := by
  rw [Nat.succ_mul]
  omega

theorem series_succ (n : Nat) :
    series first period (n + 1) = first :: series (first + period) period n := by
  rw [series, List.range_succ_eq_map, List.map_cons, List.map_map, Nat.zero_mul, Nat.add_zero]
  exact congrArg _ (List.map_congr_left fun j _ => due_succ first period j)

theorem mem_series {due n : Nat} :
    due ∈ series first period n ↔ ∃ j < n, first + j * period = due := by
  simp only [series, List.mem_map, List.mem_range]

theorem pairwise_series (n : Nat) :
    (series first period n).Pairwise fun earlier later => earlier + period ≤ later := by
  refine List.pairwise_map.mpr (List.pairwise_lt_range.imp fun hlt => ?_)
  have := Nat.mul_le_mul_right period (Nat.succ_le_of_lt hlt)
  rw [Nat.succ_mul] at this
  omega

namespace Clock

variable {c : Clock} {report : Option TickReport} {left : Nat}

/-! ### The record of a poll -/

/-- The loop of a poll with a record: when the ticks that it runs were due. -/
def recordFrom (now : Nat) :
    (left : Nat) → Option TickReport → Clock →
      List Nat × Outcome Clock (Except Halt (Option TickReport))
  | left, report, c =>
    match c.deadline with
    | none => ([], ⟨c, [], .ok report⟩)
    | some due =>
      if now < due then ([], ⟨c, [], .ok report⟩)
      else
        match left with
        | 0 =>
          ([], ⟨{ c with deadline := some (now + c.period) }, [.clockBehind c.period], .ok report⟩)
        | left + 1 =>
          let ticked := { c with deadline := some (due + c.period) }.tick
          match ticked.result with
          | .error halt => ([due], ⟨ticked.state, ticked.events, .error halt⟩)
          | .ok r =>
            let rest := recordFrom now left (some (TickReport.following r report)) ticked.state
            (due :: rest.1, rest.2.after ticked.events)

/-- But for the record it is the loop of a poll. -/
theorem recordFrom_snd (now left : Nat) (report : Option TickReport) (c : Clock) :
    (recordFrom now left report c).2 = pollFrom now left report c := by
  induction left generalizing report c with
  | zero =>
    rw [recordFrom, pollFrom]
    cases c.deadline with
    | none => rfl
    | some due => by_cases hearly : now < due <;> simp only [hearly, if_true, if_false]
  | succ left ih =>
    rw [recordFrom, pollFrom]
    cases c.deadline with
    | none => rfl
    | some due =>
      by_cases hearly : now < due
      · simp only [if_pos hearly]
      · simp only [if_neg hearly]
        cases { c with deadline := some (due + c.period) }.tick.result with
        | error halt => rfl
        | ok r => simp only [ih]

theorem recordFrom_of_early (hd : c.deadline = some first) (hearly : now < first) :
    (recordFrom now left report c).1 = [] := by
  cases left <;> rw [recordFrom, hd] <;> simp only [if_pos hearly]

theorem recordFrom_of_due (hd : c.deadline = some first) (hdue : first ≤ now) {r : TickReport}
    (hr : c.tick.result = .ok r) :
    (recordFrom now (left + 1) report c).1 =
      first :: (recordFrom now left (some (TickReport.following r report))
        (c.tick.state.reschedule (first + c.period))).1 := by
  have hmoved : { c with deadline := some (first + c.period) } =
      c.reschedule (first + c.period) := by
    rw [reschedule, hd]
    rfl
  rw [recordFrom, hd]
  simp only [if_neg (Nat.not_lt.mpr hdue), hmoved, tick_reschedule, Outcome.inside, hr]

/-- A loop that does not halt runs the ticks that are due, with one period between them. -/
theorem recordFrom_of_ok {final : Option TickReport} (hd : c.deadline = some first)
    (hok : (pollFrom now left report c).result = .ok final) :
    (recordFrom now left report c).1 =
      series first c.period (Nat.count (fun j => first + j * c.period ≤ now) left) := by
  induction left generalizing c first report with
  | zero =>
    rw [recordFrom, hd, Nat.count_zero]
    by_cases hearly : now < first <;> simp [hearly]
  | succ left ih =>
    by_cases hdue : first ≤ now
    · rw [pollFrom_of_due hd hdue] at hok
      cases hr : c.tick.result with
      | error halt =>
        rw [hr] at hok
        cases hok
      | ok r =>
        rw [hr] at hok
        have hmoved : (c.tick.state.reschedule (first + c.period)).deadline =
            some (first + c.period) := by
          rw [reschedule, tick_deadline_of_ok hr, hd]
          rfl
        have hperiod : (c.tick.state.reschedule (first + c.period)).period = c.period :=
          tick_period c
        have hcount : Nat.count (fun j => first + j * c.period ≤ now) (left + 1) =
            Nat.count (fun j => first + c.period + j * c.period ≤ now) left + 1 := by
          rw [Nat.count_succ', if_pos (by rwa [Nat.zero_mul])]
          simp only [due_succ]
        rw [recordFrom_of_due hd hdue hr, ih hmoved hok, hperiod, hcount, series_succ]
    · have hnone : Nat.count (fun j => first + j * c.period ≤ now) (left + 1) = 0 :=
        count_eq_of_lt_iff (Nat.zero_le _) fun j _ => by
          have := Nat.le_add_right first (j * c.period)
          omega
      rw [hnone, recordFrom_of_early hd (Nat.lt_of_not_le hdue)]
      rfl

/-! ### The ticks of many polls -/

/-- A poll: the clock before it and its time. -/
structure Poll where
  clock : Clock
  now : Nat

namespace Poll

def outcome (p : Poll) : Outcome Clock (Except Halt (Option TickReport)) := p.clock.poll p.now

/-- When the ticks that it runs were due. -/
def dueTimes (p : Poll) : List Nat := (recordFrom p.now catchUpLimit none p.clock).1

/-- No more ticks are due than one poll runs. -/
def KeepsUp (p : Poll) : Prop :=
  ∀ first, p.clock.deadline = some first → ticksDue first p.clock.period p.now ≤ catchUpLimit

theorem exists_report {p : Poll} (h : p.outcome.result.isOk = true) :
    ∃ report, (p.clock.poll p.now).result = .ok report := by
  rw [outcome] at h
  cases hr : (p.clock.poll p.now).result with
  | ok report => exact ⟨report, rfl⟩
  | error halt =>
    rw [hr] at h
    cases h

theorem keepsUp_iff (p : Poll) :
    p.KeepsUp ↔ ∀ first ∈ p.clock.deadline, p.now < first + 4 * p.clock.period :=
  forall_congr' fun _ => imp_congr_right fun _ => ticksDue_le_four_iff

end Poll

/-- Polls at some times, one behind the other. -/
def polls (c : Clock) : List Nat → List Poll
  | [] => []
  | now :: times => ⟨c, now⟩ :: (c.poll now).state.polls times

/-- When the ticks that run in some polls were due. -/
def dueTimes (c : Clock) (times : List Nat) : List Nat := (c.polls times).flatMap Poll.dueTimes

theorem poll_dueTimes (hd : c.deadline = some first) (hok : (c.poll now).result = .ok report) :
    (Poll.mk c now).dueTimes = series first c.period (ticksAllowed first c.period now) := by
  have hcount : Nat.count (fun j => first + j * c.period ≤ now) catchUpLimit =
      ticksAllowed first c.period now := by
    refine count_eq_of_lt_iff ticksAllowed_le fun j hj => ?_
    rw [lt_ticksAllowed_iff]
    exact (and_iff_right hj).symm
  rw [Poll.dueTimes, recordFrom_of_ok hd hok, hcount]

/-- The record has an entry for every tick. -/
theorem length_dueTimes (hd : c.deadline = some first) (hok : (c.poll now).result = .ok report) :
    (Poll.mk c now).dueTimes.length = c.ticksRun now := by
  obtain ⟨reports, hgood⟩ := results_of_poll hd hok
  rw [poll_dueTimes hd hok, length_series, ticksRun_of_reports hd hgood]

theorem le_of_mem_poll_dueTimes (hd : c.deadline = some first)
    (hok : (c.poll now).result = .ok report) {due : Nat} (hmem : due ∈ (Poll.mk c now).dueTimes) :
    due ≤ now := by
  rw [poll_dueTimes hd hok, mem_series] at hmem
  obtain ⟨j, hj, rfl⟩ := hmem
  exact ((lt_ticksAllowed_iff j).mp hj).2

variable {times : List Nat}

/-- The polls behind the first one of a running clock start from its deadline. -/
theorem dueTimes_cons (hd : c.deadline = some first)
    (hok : ∀ p ∈ c.polls (now :: times), p.outcome.result.isOk = true) :
    c.dueTimes (now :: times) = series first c.period (ticksAllowed first c.period now) ++
        (c.poll now).state.dueTimes times ∧
      (c.poll now).state.deadline = some (nextDue first c.period now) ∧
      (c.poll now).state.period = c.period ∧
      ∀ p ∈ (c.poll now).state.polls times, p.outcome.result.isOk = true := by
  rw [polls, List.forall_mem_cons] at hok
  obtain ⟨report, hr⟩ := Poll.exists_report hok.1
  refine ⟨?_, deadline_of_poll hd hr, (poll_settings c now).2, hok.2⟩
  rw [dueTimes, polls, List.flatMap_cons, poll_dueTimes hd hr, dueTimes]

/-- The ticks that run are due in time for one of the polls. -/
theorem exists_poll_of_lt (hd : c.deadline = some first)
    (hok : ∀ p ∈ c.polls times, p.outcome.result.isOk = true) (j : Nat)
    (hj : j < (c.dueTimes times).length) : ∃ now ∈ times, first + j * c.period ≤ now := by
  induction times generalizing c first j with
  | nil => exact absurd hj (Nat.not_lt_zero j)
  | cons now times ih =>
    obtain ⟨hdues, hnext, hperiod, hrest⟩ := dueTimes_cons hd hok
    rw [hdues, List.length_append, length_series] at hj
    by_cases hhere : j < ticksAllowed first c.period now
    · exact ⟨now, List.mem_cons_self, ((lt_ticksAllowed_iff j).mp hhere).2⟩
    · -- a later poll ran it; the deadline it counts from is a period on for every tick run here
      obtain ⟨i, rfl⟩ := Nat.exists_eq_add_of_le (Nat.le_of_not_lt hhere)
      obtain ⟨later, hmem, hle⟩ := ih hnext hrest i (by omega)
      have hmoved := ticksAllowed_le_nextDue first c.period now
      refine ⟨later, List.mem_cons_of_mem now hmem, ?_⟩
      rw [hperiod] at hle
      rw [Nat.add_mul]
      omega

/-- Polls that keep up run all ticks that are due in time for one of them. -/
theorem lt_of_poll (hd : c.deadline = some first)
    (hok : ∀ p ∈ c.polls times, p.outcome.result.isOk = true)
    (hkeep : ∀ p ∈ c.polls times, p.KeepsUp) (j : Nat) (latest : Nat) (hmem : latest ∈ times)
    (hdue : first + j * c.period ≤ latest) : j < (c.dueTimes times).length := by
  induction times generalizing c first j with
  | nil => exact absurd hmem List.not_mem_nil
  | cons now times ih =>
    obtain ⟨hdues, hnext, hperiod, hrest⟩ := dueTimes_cons hd hok
    rw [polls, List.forall_mem_cons] at hkeep
    obtain ⟨hmoved, hlater⟩ := nextDue_of_few ((Poll.keepsUp_iff _).mp hkeep.1 first hd)
    rw [hdues, List.length_append, length_series]
    by_cases hhere : j < ticksAllowed first c.period now
    · exact Nat.lt_add_right _ hhere
    · -- this poll dropped none, so it was too early for the tick, and a later one was not
      obtain ⟨i, rfl⟩ := Nat.exists_eq_add_of_le (Nat.le_of_not_lt hhere)
      rw [Nat.add_mul, ← Nat.add_assoc, ← hmoved] at hdue
      have hlate : now < latest := hlater.trans_le ((Nat.le_add_right _ _).trans hdue)
      have hbehind : latest ∈ times := (List.mem_cons.mp hmem).resolve_left hlate.ne'
      have := ih hnext hrest hkeep.2 i hbehind (by rwa [hperiod])
      omega

theorem le_of_mem_dueTimes (hd : c.deadline = some first)
    (hok : ∀ p ∈ c.polls times, p.outcome.result.isOk = true) {due : Nat}
    (hmem : due ∈ c.dueTimes times) : first ≤ due := by
  induction times generalizing c first with
  | nil => exact absurd hmem List.not_mem_nil
  | cons now times ih =>
    obtain ⟨hdues, hnext, -, hrest⟩ := dueTimes_cons hd hok
    rw [hdues, List.mem_append, mem_series] at hmem
    obtain ⟨j, -, rfl⟩ | hbehind := hmem
    · exact Nat.le_add_right first _
    · exact (le_nextDue first c.period now).trans (ih hnext hrest hbehind)

theorem pairwise_dueTimes (hd : c.deadline = some first)
    (hok : ∀ p ∈ c.polls times, p.outcome.result.isOk = true) :
    (c.dueTimes times).Pairwise fun earlier later => earlier + c.period ≤ later := by
  induction times generalizing c first with
  | nil => exact List.Pairwise.nil
  | cons now times ih =>
    obtain ⟨hdues, hnext, hperiod, hrest⟩ := dueTimes_cons hd hok
    have hbehind := ih hnext hrest
    rw [hperiod] at hbehind
    rw [hdues]
    refine List.pairwise_append.mpr ⟨pairwise_series _, hbehind, ?_⟩
    intro earlier hearlier later hlater
    obtain ⟨j, hj, rfl⟩ := mem_series.mp hearlier
    have hstep := Nat.mul_le_mul_right c.period (Nat.succ_le_of_lt hj)
    have hmoved := ticksAllowed_le_nextDue first c.period now
    have := le_of_mem_dueTimes hnext hrest hlater
    rw [Nat.succ_mul] at hstep
    omega

theorem running_of_mem_polls (hd : c.deadline = some first)
    (hok : ∀ p ∈ c.polls times, p.outcome.result.isOk = true) {p : Poll}
    (hmem : p ∈ c.polls times) : ∃ due, p.clock.deadline = some due := by
  induction times generalizing c first with
  | nil => exact absurd hmem List.not_mem_nil
  | cons now times ih =>
    obtain ⟨-, hnext, -, hrest⟩ := dueTimes_cons hd hok
    obtain rfl | hbehind := List.mem_cons.mp hmem
    · exact ⟨first, hd⟩
    · exact ih hnext hrest hbehind

theorem start_of_stopped (hstopped : c.deadline = none) (start : Nat) :
    (c.start start).state.deadline = some start ∧ (c.start start).state.period = c.period := by
  rw [Clock.start, hstopped]
  exact ⟨rfl, rfl⟩

/-- A clock that is started and then only polled keeps its rate: up to the latest poll no more
ticks run than the period allows, and all of these if no poll drops any. No tick runs before it is
due, ticks are due a period apart or more, and no poll moves the deadline back. -/
theorem polls_keep_rate (config : Config) (hrate : config.tickHz.toNat ≤ nanosPerSecond)
    (c : Clock) (hperiod : c.period = config.tickPeriod) (hstopped : c.deadline = none)
    (start : Nat) (times : List Nat)
    (hok : ∀ p ∈ (c.start start).state.polls times, p.outcome.result.isOk = true) :
    0 < config.tickPeriod ∧
      (∀ latest ∈ times, (∀ now ∈ times, now ≤ latest) →
        ((c.start start).state.dueTimes times).length ≤
            ticksUpTo start config.tickPeriod latest ∧
          ((∀ p ∈ (c.start start).state.polls times, p.KeepsUp) →
            ((c.start start).state.dueTimes times).length =
              ticksUpTo start config.tickPeriod latest)) ∧
      (∀ p ∈ (c.start start).state.polls times,
        (recordFrom p.now catchUpLimit none p.clock).2 = p.outcome ∧
          p.dueTimes.length = p.clock.ticksRun p.now ∧
          (∀ due ∈ p.dueTimes, due ≤ p.now) ∧
          ∃ before after, p.clock.deadline = some before ∧
            p.outcome.state.deadline = some after ∧ before ≤ after) ∧
      ((c.start start).state.dueTimes times).Pairwise fun earlier later =>
        earlier + config.tickPeriod ≤ later := by
  obtain ⟨hd, hsame⟩ := start_of_stopped hstopped start
  rw [hperiod] at hsame
  have hpos : 0 < config.tickPeriod := config.tickPeriod_pos_iff.mpr hrate
  refine ⟨hpos, ?_, ?_, hsame ▸ pairwise_dueTimes hd hok⟩
  · intro latest hmem hlatest
    have hbound : ((c.start start).state.dueTimes times).length ≤
        ticksUpTo start config.tickPeriod latest := by
      by_contra hmore
      obtain ⟨now, hnow, hdue⟩ := exists_poll_of_lt hd hok _ (Nat.lt_of_not_le hmore)
      rw [hsame] at hdue
      exact lt_irrefl _ ((lt_ticksUpTo_iff hpos _).mpr (hdue.trans (hlatest now hnow)))
    refine ⟨hbound, fun hkeep => le_antisymm hbound ?_⟩
    by_contra hless
    have hdue := (lt_ticksUpTo_iff hpos _).mp (Nat.lt_of_not_le hless)
    rw [← hsame] at hdue
    exact lt_irrefl _ (lt_of_poll hd hok hkeep _ latest hmem hdue)
  · intro p hp
    obtain ⟨before, hbefore⟩ := running_of_mem_polls hd hok hp
    obtain ⟨report, hr⟩ := Poll.exists_report (hok p hp)
    exact ⟨recordFrom_snd p.now catchUpLimit none p.clock, length_dueTimes hbefore hr,
      fun due => le_of_mem_poll_dueTimes hbefore hr, before, _, hbefore,
      deadline_of_poll hbefore hr, le_nextDue before p.clock.period p.now⟩

/-- A clock that has not been started, with a period of ten nanoseconds. -/
def atRest : Clock := { everyTen beepAndDraw with deadline := none }

theorem atRest_keeps_rate :
    (∀ p ∈ (atRest.start 5).state.polls [4, 25, 10, 60], p.outcome.result.isOk = true) ∧
      (∀ p ∈ (atRest.start 5).state.polls [4, 25, 10, 60], p.KeepsUp) ∧
      ((atRest.start 5).state.dueTimes [4, 25, 10, 60]).length = 6 := by
  have hok : ∀ p ∈ (atRest.start 5).state.polls [4, 25, 10, 60], p.outcome.result.isOk = true := by
    decide +kernel
  have hkeep : ∀ p ∈ (atRest.start 5).state.polls [4, 25, 10, 60], p.KeepsUp := by
    simp only [Poll.keepsUp_iff]
    decide +kernel
  obtain ⟨-, htotal, -, -⟩ := polls_keep_rate { tickHz := 100000000 } (by decide) atRest
    (by decide) rfl 5 [4, 25, 10, 60] hok
  exact ⟨hok, hkeep, (htotal 60 (by decide) (by decide)).2 hkeep⟩

end Clock

end ChipEight
