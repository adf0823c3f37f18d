import ChipEight.Proofs.Ticks
import Mathlib.Data.ENat.Lattice
import Mathlib.Data.Nat.Count
import Mathlib.Data.Set.Card

/-!
What a poll runs. The ticks due by some time are counted without the loop that runs them; the loop
runs that many, or four if there are more, or fewer if one of them halts. The invariant of the loop:
behind `n` ticks that reported, the clock is the one behind `n` ticks in a row with its deadline `n`
periods later.
-/

namespace ChipEight

/-- How many ticks are due by `now` if the first is due at `first` and every other one a period
after the one before it. Without a period all are due at once, and there is no end of them. -/
noncomputable def ticksDue (first period now : Nat) : ℕ∞ :=
  {j : ℕ | first + j * period ≤ now}.encard

variable {first period now : Nat}

/-- The due ticks are the first ones. -/
theorem lt_ticksDue_iff (j : ℕ) :
    (j : ℕ∞) < ticksDue first period now ↔ first + j * period ≤ now := by
  constructor
  · intro hlt
    by_contra hlate
    have hsub : {i : ℕ | first + i * period ≤ now} ⊆ (Finset.range j : Set ℕ) := by
      intro i hi
      rw [Finset.mem_coe, Finset.mem_range]
      by_contra hji
      have := Nat.mul_le_mul_right period (Nat.le_of_not_lt hji)
      rw [Set.mem_ofPred_eq] at hi
      omega
    have hle := Set.encard_le_encard hsub
    rw [Set.encard_coe_eq_coe_finsetCard, Finset.card_range] at hle
    exact absurd hlt (not_lt.mpr hle)
  · intro hdue
    have hsub : (Finset.range (j + 1) : Set ℕ) ⊆ {i : ℕ | first + i * period ≤ now} := by
      intro i hi
      rw [Finset.mem_coe, Finset.mem_range] at hi
      have := Nat.mul_le_mul_right period (Nat.le_of_lt_succ hi)
      rw [Set.mem_ofPred_eq]
      omega
    have hle := Set.encard_le_encard hsub
    rw [Set.encard_coe_eq_coe_finsetCard, Finset.card_range] at hle
    exact lt_of_lt_of_le (by exact_mod_cast Nat.lt_succ_self j) hle

/-- How many ticks a poll runs unless one of them halts: those that are due, but four at most. -/
noncomputable def ticksAllowed (first period now : Nat) : ℕ :=
  (min (ticksDue first period now) 4).toNat

theorem coe_ticksAllowed :
    (ticksAllowed first period now : ℕ∞) = min (ticksDue first period now) 4 :=
  ENat.natCast_toNat (ne_top_of_le_ne_top (ENat.natCast_ne_top 4) (min_le_right _ _))

theorem ticksAllowed_le : ticksAllowed first period now ≤ 4 := by
  rw [← ENat.natCast_le_natCast, coe_ticksAllowed]
  exact min_le_right _ _

theorem ticksDue_eq_ticksAllowed (h : ticksDue first period now ≤ 4) :
    ticksDue first period now = ticksAllowed first period now := by
  rw [coe_ticksAllowed, min_eq_left h]

theorem ticksAllowed_of_more (h : ¬ ticksDue first period now ≤ 4) :
    ticksAllowed first period now = 4 := by
  rw [ticksAllowed, min_eq_right (not_le.mp h).le]
  rfl

theorem lt_ticksAllowed_iff (j : ℕ) :
    j < ticksAllowed first period now ↔ j < 4 ∧ first + j * period ≤ now := by
  rw [← ENat.natCast_lt_natCast, coe_ticksAllowed, lt_min_iff, lt_ticksDue_iff, and_comm]
  norm_cast

/-- What a host is told after several ticks: the tone of the last one, and whether any of them
changed the display. -/
def TickReport.summary (reports : List TickReport) : Option TickReport :=
  reports.getLast?.map fun last => ⟨last.tone, reports.any TickReport.redraw⟩

theorem TickReport.summary_eq_none_iff (reports : List TickReport) :
    summary reports = none ↔ reports = [] := by
  simp [summary]

namespace Clock

variable {c : Clock} {first now : Nat}

/-- Reports put behind one another are summed up. -/
theorem foldl_following (reports : List TickReport) :
    reports.foldl (fun earlier r => some (TickReport.following r earlier)) none =
      TickReport.summary reports := by
  induction reports using List.reverseRecOn with
  | nil => rfl
  | append_singleton reports r ih =>
    rw [List.foldl_append, ih]
    cases hlast : reports.getLast? with
    | none =>
      obtain rfl := List.getLast?_eq_none_iff.mp hlast
      simp [TickReport.summary, TickReport.following]
    | some last => simp [TickReport.summary, TickReport.following, hlast, Bool.or_comm]

/-! ### The ways of the loop -/

theorem pollFrom_of_early (hd : c.deadline = some first) (hearly : now < first) (left : Nat)
    (report : Option TickReport) : pollFrom now left report c = ⟨c, [], .ok report⟩ := by
  cases left <;> rw [pollFrom, hd] <;> simp only [if_pos hearly]

theorem pollFrom_of_spent (hd : c.deadline = some first) (hdue : first ≤ now)
    (report : Option TickReport) :
    pollFrom now 0 report c =
      ⟨{ c with deadline := some (now + c.period) }, [.clockBehind c.period], .ok report⟩ := by
  rw [pollFrom, hd]
  simp only [if_neg (Nat.not_lt.mpr hdue)]

/-- With ticks left, a due tick runs with the deadline moved on by a period. -/
theorem pollFrom_of_due (hd : c.deadline = some first) (hdue : first ≤ now) (left : Nat)
    (report : Option TickReport) :
    pollFrom now (left + 1) report c =
      match c.tick.result with
      | .ok r => (pollFrom now left (some (TickReport.following r report))
          (c.tick.state.reschedule (first + c.period))).after c.tick.events
      | .error halt =>
        ⟨c.tick.state.reschedule (first + c.period), c.tick.events, .error halt⟩ := by
  have hmoved : { c with deadline := some (first + c.period) } =
      c.reschedule (first + c.period) := by
    rw [reschedule, hd]
    rfl
  rw [pollFrom, hd]
  simp only [if_neg (Nat.not_lt.mpr hdue), hmoved, tick_reschedule, Outcome.inside]
  cases c.tick.result <;> rfl

/-- Ticks that are due and report pass the loop on to the clock behind them. -/
theorem pollFrom_of_reports (hd : c.deadline = some first) {n : Nat} {reports : List TickReport}
    (hgood : c.results n = reports.map .ok) (hdue : ∀ j < n, first + j * c.period ≤ now)
    (left : Nat) (report : Option TickReport) :
    pollFrom now (n + left) report c =
      (pollFrom now left
        (reports.foldl (fun earlier r => some (TickReport.following r earlier)) report)
        ((c.ticked n).reschedule (first + n * c.period))).after (c.tickEvents n) := by
  induction n generalizing reports left with
  | zero =>
    obtain rfl : reports = [] := List.map_eq_nil_iff.mp hgood.symm
    rw [Nat.zero_mul, Nat.add_zero, ticked_zero, reschedule_self hd, Nat.zero_add]
    rfl
  | succ n ih =>
    obtain ⟨before, r, rfl, hbefore, hr⟩ := results_eq_map_succ hgood
    have hmoved : ((c.ticked n).reschedule (first + n * c.period)).deadline =
        some (first + n * c.period) := by rw [ticked_reschedule hd hbefore]
    rw [show n + 1 + left = n + (left + 1) by omega,
      ih hbefore (fun j hj => hdue j (Nat.lt_succ_of_lt hj)),
      pollFrom_of_due hmoved (hdue n (Nat.lt_succ_self n)), tick_reschedule]
    simp only [Outcome.inside, hr, reschedule_reschedule, Outcome.after_after]
    rw [List.foldl_append, ← ticked_succ, ← tickEvents_succ, Nat.succ_mul, ← Nat.add_assoc,
      show ((c.ticked n).reschedule (first + n * c.period)).period = c.period from
        ticked_period c n]
    rfl

/-! ### The ways of a poll -/

theorem poll_of_stopped (hd : c.deadline = none) (now : Nat) : c.poll now = ⟨c, [], .ok none⟩ := by
  rw [poll, catchUpLimit, pollFrom, hd]

/-- A poll that starts with some due ticks that report. -/
theorem poll_of_first_reports (hd : c.deadline = some first) {n : Nat} (hn : n ≤ 4)
    {reports : List TickReport} (hgood : c.results n = reports.map .ok)
    (hdue : ∀ j < n, first + j * c.period ≤ now) :
    c.poll now =
      (pollFrom now (4 - n) (TickReport.summary reports)
        ((c.ticked n).reschedule (first + n * c.period))).after (c.tickEvents n) := by
  rw [poll, catchUpLimit, ← foldl_following, ← pollFrom_of_reports hd hgood hdue,
    Nat.add_sub_cancel' hn]

/-- A poll runs the due ticks if they report and are no more than four. -/
theorem poll_of_all_due (hd : c.deadline = some first) {n : Nat} (hn : n ≤ 4)
    {reports : List TickReport} (hgood : c.results n = reports.map .ok)
    (hdue : ∀ j < n, first + j * c.period ≤ now) (hearly : now < first + n * c.period) :
    c.poll now =
      ⟨{ c.ticked n with deadline := some (first + n * c.period) }, c.tickEvents n,
        .ok (TickReport.summary reports)⟩ := by
  rw [poll_of_first_reports hd hn hgood hdue, ticked_reschedule hd hgood,
    pollFrom_of_early rfl hearly]
  simp [Outcome.after]

/-- A poll drops the ticks due behind the fourth. -/
theorem poll_of_more_due (hd : c.deadline = some first) {reports : List TickReport}
    (hgood : c.results 4 = reports.map .ok) (hdue : first + 4 * c.period ≤ now) :
    c.poll now =
      ⟨{ c.ticked 4 with deadline := some (now + c.period) },
        c.tickEvents 4 ++ [.clockBehind c.period], .ok (TickReport.summary reports)⟩ := by
  have hfirst : ∀ j < 4, first + j * c.period ≤ now := by
    intro j hj
    have := Nat.mul_le_mul_right c.period (Nat.le_of_lt hj)
    omega
  rw [poll_of_first_reports hd (Nat.le_refl 4) hgood hfirst, ticked_reschedule hd hgood,
    Nat.sub_self, pollFrom_of_spent rfl hdue]
  simp [Outcome.after]

/-- If no tick halts, a poll runs those that are allowed. -/
theorem poll_of_reports (hd : c.deadline = some first) {reports : List TickReport}
    (hgood : c.results (ticksAllowed first c.period now) = reports.map .ok) :
    c.poll now =
      ⟨{ c.ticked (ticksAllowed first c.period now) with
          deadline := some (if ticksDue first c.period now ≤ 4
            then first + (ticksDue first c.period now).toNat * c.period
            else now + c.period) },
        c.tickEvents (ticksAllowed first c.period now) ++
          (if ticksDue first c.period now ≤ 4 then [] else [.clockBehind c.period]),
        .ok (TickReport.summary reports)⟩ := by
  by_cases hfew : ticksDue first c.period now ≤ 4
  · have hcount := ticksDue_eq_ticksAllowed hfew
    have hdue : ∀ j < ticksAllowed first c.period now, first + j * c.period ≤ now :=
      fun j hj => ((lt_ticksAllowed_iff j).mp hj).2
    have hearly : now < first + ticksAllowed first c.period now * c.period := by
      rw [← Nat.not_le, ← lt_ticksDue_iff, hcount]
      exact lt_irrefl _
    rw [if_pos hfew, if_pos hfew, List.append_nil,
      poll_of_all_due hd ticksAllowed_le hgood hdue hearly, hcount, ENat.toNat_natCast]
  · have hdue : first + 4 * c.period ≤ now := (lt_ticksDue_iff 4).mp (not_le.mp hfew)
    rw [ticksAllowed_of_more hfew] at hgood ⊢
    rw [if_neg hfew, if_neg hfew, poll_of_more_due hd hgood hdue]

/-- A poll ends with the first allowed tick that halts. -/
theorem poll_of_halt (hd : c.deadline = some first) {n : Nat}
    (hn : n < ticksAllowed first c.period now) {reports : List TickReport} {halt : Halt}
    (hgood : c.results n = reports.map .ok) (hhalt : (c.ticked n).tick.result = .error halt) :
    c.poll now =
      ⟨(c.ticked (n + 1)).reschedule (first + (n + 1) * c.period), c.tickEvents (n + 1),
        .error halt⟩ := by
  have hdue : ∀ j ≤ n, first + j * c.period ≤ now :=
    fun j hj => ((lt_ticksAllowed_iff j).mp (lt_of_le_of_lt hj hn)).2
  have hfour : n < 4 := lt_of_lt_of_le hn ticksAllowed_le
  have hmoved : ((c.ticked n).reschedule (first + n * c.period)).deadline =
      some (first + n * c.period) := by rw [ticked_reschedule hd hgood]
  rw [poll_of_first_reports hd hfour.le hgood fun j hj => hdue j hj.le,
    show 4 - n = 3 - n + 1 by omega, pollFrom_of_due hmoved (hdue n (Nat.le_refl n)),
    tick_reschedule]
  simp only [Outcome.inside, hhalt, reschedule_reschedule]
  rw [← ticked_succ, Nat.succ_mul, ← Nat.add_assoc, tickEvents_succ,
    show ((c.ticked n).reschedule (first + n * c.period)).period = c.period from
      ticked_period c n]
  rfl

/-- Where a poll reports, all ticks that it ran did. -/
theorem reports_of_poll {report : Option TickReport} (h : (c.poll now).result = .ok report) :
    ∃ (n : Nat) (reports : List TickReport), c.results n = reports.map .ok ∧
      report = TickReport.summary reports ∧
        (c.poll now).state.interpreter = (c.ticked n).interpreter := by
  cases hd : c.deadline with
  | none =>
    rw [poll_of_stopped hd] at h ⊢
    cases h
    exact ⟨0, [], rfl, rfl, rfl⟩
  | some first =>
    rcases c.results_cases (ticksAllowed first c.period now) with
      ⟨reports, hgood⟩ | ⟨n, hn, reports, halt, hgood, hhalt⟩
    · rw [poll_of_reports hd hgood] at h ⊢
      cases h
      exact ⟨_, reports, hgood, rfl, rfl⟩
    · rw [poll_of_halt hd hn hgood hhalt] at h
      cases h

/-- Where a poll halts, all ticks that it ran but the last reported. -/
theorem reports_of_halted_poll {halt : Halt} (h : (c.poll now).result = .error halt) :
    ∃ (n : Nat) (reports : List TickReport), c.results n = reports.map .ok ∧
      (c.ticked n).tick.result = .error halt ∧
        (c.poll now).state.interpreter = (c.ticked n).tick.state.interpreter := by
  cases hd : c.deadline with
  | none =>
    rw [poll_of_stopped hd] at h
    cases h
  | some first =>
    rcases c.results_cases (ticksAllowed first c.period now) with
      ⟨reports, hgood⟩ | ⟨n, hn, reports, other, hgood, hhalt⟩
    · rw [poll_of_reports hd hgood] at h
      cases h
    · rw [poll_of_halt hd hn hgood hhalt] at h ⊢
      cases h
      exact ⟨n, reports, hgood, hhalt, by rw [← ticked_succ]; rfl⟩

/-! ### How many ticks a poll runs -/

/-- How many ticks a poll runs: of the first four those that are due, up to the first that halts. -/
def ticksRun (c : Clock) (now : Nat) : Nat :=
  match c.deadline with
  | none => 0
  | some first =>
    Nat.count (fun j => first + j * c.period ≤ now ∧
      ∀ i < j, (c.ticked i).tick.result.isOk = true) 4

theorem count_eq_of_lt_iff {p : Nat → Prop} [DecidablePred p] {n bound : Nat} (hn : n ≤ bound)
    (hp : ∀ j < bound, p j ↔ j < n) : Nat.count p bound = n := by
  rw [Nat.count_eq_card_filter_range]
  have hfilter : (Finset.range bound).filter p = Finset.range n := by
    ext j
    rw [Finset.mem_filter, Finset.mem_range, Finset.mem_range]
    constructor
    · rintro ⟨hj, hpj⟩
      exact (hp j hj).mp hpj
    · intro hj
      exact ⟨lt_of_lt_of_le hj hn, (hp j (lt_of_lt_of_le hj hn)).mpr hj⟩
  rw [hfilter, Finset.card_range]

/-- The ticks before one that reports report as well. -/
theorem isOk_of_reports {n : Nat} {reports : List TickReport}
    (h : c.results n = reports.map .ok) : ∀ i < n, (c.ticked i).tick.result.isOk = true := by
  intro i hi
  have hmem : (c.ticked i).tick.result ∈ c.results n :=
    List.mem_map.mpr ⟨i, List.mem_range.mpr hi, rfl⟩
  rw [h, List.mem_map] at hmem
  obtain ⟨r, -, hr⟩ := hmem
  rw [← hr]
  rfl

theorem ticksRun_of_reports (hd : c.deadline = some first) {reports : List TickReport}
    (hgood : c.results (ticksAllowed first c.period now) = reports.map .ok) :
    c.ticksRun now = ticksAllowed first c.period now := by
  rw [ticksRun, hd]
  refine count_eq_of_lt_iff ticksAllowed_le fun j hj => ?_
  rw [lt_ticksAllowed_iff]
  constructor
  · rintro ⟨hdue, -⟩
    exact ⟨hj, hdue⟩
  · rintro ⟨-, hdue⟩
    have hallowed := (lt_ticksAllowed_iff j).mpr ⟨hj, hdue⟩
    exact ⟨hdue, fun i hi => isOk_of_reports hgood i (hi.trans hallowed)⟩

theorem ticksRun_of_halt (hd : c.deadline = some first) {n : Nat}
    (hn : n < ticksAllowed first c.period now) {reports : List TickReport} {halt : Halt}
    (hgood : c.results n = reports.map .ok) (hhalt : (c.ticked n).tick.result = .error halt) :
    c.ticksRun now = n + 1 := by
  rw [ticksRun, hd]
  refine count_eq_of_lt_iff (lt_of_lt_of_le hn ticksAllowed_le) fun j hj => ?_
  constructor
  · rintro ⟨-, hok⟩
    by_contra hlate
    have := hok n (by omega)
    rw [hhalt] at this
    cases this
  · intro hle
    have hallowed : j < ticksAllowed first c.period now := by omega
    exact ⟨((lt_ticksAllowed_iff j).mp hallowed).2,
      fun i hi => isOk_of_reports hgood i (by omega)⟩

/-- A poll leaves all but the deadline as the ticks that it runs leave it. -/
theorem poll_state (c : Clock) (now : Nat) :
    ∃ deadline, (c.poll now).state = { c.ticked (c.ticksRun now) with deadline := deadline } := by
  cases hd : c.deadline with
  | none =>
    rw [poll_of_stopped hd, ticksRun, hd]
    exact ⟨c.deadline, rfl⟩
  | some first =>
    rcases c.results_cases (ticksAllowed first c.period now) with
      ⟨reports, hgood⟩ | ⟨n, hn, reports, halt, hgood, hhalt⟩
    · rw [poll_of_reports hd hgood, ticksRun_of_reports hd hgood]
      exact ⟨_, rfl⟩
    · rw [poll_of_halt hd hn hgood hhalt, ticksRun_of_halt hd hn hgood hhalt]
      exact ⟨_, rfl⟩

/-- A poll runs exactly the ticks that are due, four at most, up to the first that faults; a clock
that is stopped has none. -/
theorem poll_runs_due_ticks (c : Clock) (now : Nat) :
    (c.deadline = none → c.poll now = ⟨c, [], .ok none⟩) ∧
    ∀ first, c.deadline = some first →
      (∀ reports : List TickReport,
        c.results (ticksAllowed first c.period now) = reports.map .ok →
          c.poll now =
            ⟨{ c.ticked (ticksAllowed first c.period now) with
                deadline := some (if ticksDue first c.period now ≤ 4
                  then first + (ticksDue first c.period now).toNat * c.period
                  else now + c.period) },
              c.tickEvents (ticksAllowed first c.period now) ++
                (if ticksDue first c.period now ≤ 4 then [] else [.clockBehind c.period]),
              .ok (TickReport.summary reports)⟩ ∧
            (TickReport.summary reports = none ↔ ticksAllowed first c.period now = 0)) ∧
      ∀ n < ticksAllowed first c.period now, ∀ (reports : List TickReport) (fault : Fault),
        c.results n = reports.map .ok →
          (c.ticked n).tick.result = .error (.fault fault) →
            c.poll now = ⟨c.ticked (n + 1), c.tickEvents (n + 1), .error (.fault fault)⟩ ∧
              (c.ticked (n + 1)).deadline = none := by
  refine ⟨fun hd => poll_of_stopped hd now, fun first hd => ⟨?_, ?_⟩⟩
  · intro reports hgood
    refine ⟨poll_of_reports hd hgood, ?_⟩
    have hlength := congrArg List.length hgood
    rw [length_results, List.length_map] at hlength
    rw [TickReport.summary_eq_none_iff, ← List.length_eq_zero_iff, hlength]
  · intro n hn reports fault hgood hfault
    have hstopped : (c.ticked (n + 1)).deadline = none := by
      rw [ticked_succ, tick_deadline_of_fault hfault]
    rw [poll_of_halt hd hn hgood hfault, reschedule_of_stopped hstopped]
    exact ⟨rfl, hstopped⟩

/-- A running clock with a program: batches of two cycles, every ten nanoseconds from the fifth
on. -/
def everyTen (program : List UInt8) : Clock :=
  { ((Clock.new { cyclesPerTick := 2, seed := some 0 } .zeros).load program).state with
    period := 10
    deadline := some 5 }

/-- Sounds the tone for two ticks, draws a glyph and spins: `6003`, `F018`, `D005`, `1206`. -/
def beepAndDraw : List UInt8 := [0x60, 0x03, 0xF0, 0x18, 0xD0, 0x05, 0x12, 0x06]

/-- Eleven ticks are due, of which four run; and a fault in the second of three ends the poll. -/
theorem everyTen_runs_due_ticks :
    (everyTen beepAndDraw).poll 105 =
        ⟨{ (everyTen beepAndDraw).ticked 4 with deadline := some 115 },
          (everyTen beepAndDraw).tickEvents 4 ++ [.clockBehind 10],
          .ok (some { tone := false, redraw := true })⟩ ∧
      (everyTen [0x60, 0x01, 0x60, 0x02, 0xFF, 0xFF]).poll 25 =
        ⟨(everyTen [0x60, 0x01, 0x60, 0x02, 0xFF, 0xFF]).ticked 2,
          (everyTen [0x60, 0x01, 0x60, 0x02, 0xFF, 0xFF]).tickEvents 2,
          .error (.fault (.unknownInstruction 0x204 0xFFFF))⟩ := by
  have hperiod : ∀ program, (everyTen program).period = 10 := fun _ => rfl
  constructor
  · have hgood : (everyTen beepAndDraw).results 4 =
        [⟨false, false⟩, ⟨true, true⟩, ⟨true, false⟩, ⟨false, false⟩].map Except.ok := by
      decide +kernel
    have hmore : ¬ ticksDue 5 10 105 ≤ 4 := not_le.mpr ((lt_ticksDue_iff 4).mpr (by decide))
    obtain ⟨hreports, -⟩ := (poll_runs_due_ticks (everyTen beepAndDraw) 105).2 5 rfl
    rw [hperiod, ticksAllowed_of_more hmore, if_neg hmore, if_neg hmore] at hreports
    exact (hreports _ hgood).1
  · have hgood : (everyTen [0x60, 0x01, 0x60, 0x02, 0xFF, 0xFF]).results 1 =
        [⟨false, false⟩].map Except.ok := by
      decide +kernel
    have hfault : ((everyTen [0x60, 0x01, 0x60, 0x02, 0xFF, 0xFF]).ticked 1).tick.result =
        .error (.fault (.unknownInstruction 0x204 0xFFFF)) := by
      decide +kernel
    obtain ⟨-, hfaults⟩ :=
      (poll_runs_due_ticks (everyTen [0x60, 0x01, 0x60, 0x02, 0xFF, 0xFF]) 25).2 5 rfl
    rw [hperiod] at hfaults
    exact (hfaults 1 ((lt_ticksAllowed_iff 1).mpr (by decide)) _ _ hgood hfault).1

end Clock

end ChipEight
