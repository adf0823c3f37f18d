import ChipEight.Proofs.Flag

/-!
A host that shows the display. It draws whatever is there each time that a report asks for it, and
never else. Between two reports its picture may be out of date, but then the flag of the display is
up, and the next report asks for the display to be drawn.
-/

namespace ChipEight

/-! ### Operations -/

/-- The report that an answer holds. -/
def Answer.report? : Answer → Option TickReport
  | .ticked (.ok report) => some report
  | .polled (.ok report) => report
  | _ => none

/-- An answer is not that of a poll that halted. -/
def Answer.NoHaltedPoll (answer : Answer) : Prop := ∀ halt, answer ≠ .polled (.error halt)

theorem Answer.noHaltedPoll_of_quiet {answer : Answer} (h : answer.halt? = none) :
    answer.NoHaltedPoll := by
  rintro halt rfl
  cases h

namespace Clock

variable {c : Clock} {op : Operation} {shown : Vector UInt8 2048}

theorem flagged_reset (c : Clock) : c.display.Flagged c.reset.state.display := .inr rfl

/-- An operation without a report leaves the display or flags it, unless it is a poll that halts. -/
theorem flagged_apply (hnone : (c.apply op).result.report? = none)
    (hpoll : (c.apply op).result.NoHaltedPoll) :
    c.display.Flagged (c.apply op).state.display := by
  cases op with
  | inside operation => exact c.interpreter.flagged_apply operation
  | load program => exact .refl _
  | reload program => exact c.flagged_reset
  | reset => exact c.flagged_reset
  | start now =>
    rw [apply, start]
    split <;> exact .refl _
  | resume now =>
    rw [apply, resume]
    split <;> exact .refl _
  | stop => exact .inl (congrArg Interpreter.display c.stop_interpreter)
  | setKey key pressed =>
    rw [apply, setKey]
    cases hk : c.interpreter.setKey key pressed with
    | ok t =>
      obtain ⟨keypad, rfl⟩ := Interpreter.exists_keypad_of_setKey hk
      exact .refl _
    | error e => exact .refl _
  | tick =>
    rw [apply, Outcome.answering] at hnone ⊢
    cases hr : c.tick.result with
    | ok report =>
      rw [hr] at hnone
      cases hnone
    | error halt =>
      rw [display_tick_of_halt hr]
      exact c.flagged_batch
  | poll now =>
    rw [apply, Outcome.answering] at hnone hpoll ⊢
    cases hr : (c.poll now).result with
    | ok report =>
      rw [hr] at hnone
      obtain rfl : report = none := hnone
      rw [display_of_empty_poll hr]
      exact .refl _
    | error halt => exact absurd (congrArg Answer.polled hr) (hpoll halt)

/-- A report that asks for nothing leaves what is shown up to date. -/
theorem shown_eq_of_report {r : TickReport} (h : (c.apply op).result.report? = some r)
    (hc : c.display.Current shown) (hr : r.redraw = false) :
    shown = (c.apply op).state.display.cells := by
  cases op with
  | tick =>
    rw [apply, Outcome.answering] at h ⊢
    cases ht : c.tick.result with
    | ok report =>
      rw [ht] at h
      cases h
      exact shown_eq_of_tick ht hc hr
    | error halt =>
      rw [ht] at h
      cases h
  | poll now =>
    rw [apply, Outcome.answering] at h ⊢
    cases hp : (c.poll now).result with
    | ok report =>
      rw [hp] at h
      obtain rfl : report = some r := h
      exact shown_eq_of_poll hp hc hr
    | error halt =>
      rw [hp] at h
      cases h
  | setKey key pressed =>
    rw [apply] at h
    cases hk : c.setKey key pressed <;> rw [hk] at h <;> cases h
  | inside operation =>
    cases operation with
    | setKey key pressed =>
      rw [apply, Interpreter.apply] at h
      cases hk : c.interpreter.setKey key pressed <;> rw [hk] at h <;> cases h
    | load program | reset | rewind | cycle | runCycles count => cases h
  | load program | reload program | reset | start now | resume now | stop => cases h

end Clock

/-! ### A host that shows the display -/

/-- A clock, and what its host shows of the display. -/
structure Watched where
  clock : Clock
  shown : Vector UInt8 2048

namespace Watched

open Clock (Operation)

/-- A host that shows what is there. -/
def watch (c : Clock) : Watched := ⟨c, c.display.cells⟩

/-- An operation. The host shows the cells behind it if there is a report that asks for it. -/
def step (w : Watched) (op : Operation) : Watched :=
  let o := w.clock.apply op
  { clock := o.state
    shown := if o.result.report?.any TickReport.redraw then o.state.display.cells else w.shown }

/-- A history of operations. -/
def after (w : Watched) (history : List Operation) : Watched := history.foldl step w

/-- What is shown is what is there, or the display is flagged. -/
def Current (w : Watched) : Prop := w.clock.display.Current w.shown

variable {w : Watched} {op : Operation}

theorem shown_step_of_report {r : TickReport} (h : (w.clock.apply op).result.report? = some r)
    (hc : w.Current) : (w.step op).shown = (w.step op).clock.display.cells := by
  simp only [step, h, Option.any_some]
  cases hr : r.redraw with
  | true => rfl
  | false => exact Clock.shown_eq_of_report h hc hr

theorem current_step (hc : w.Current) (hpoll : (w.clock.apply op).result.NoHaltedPoll) :
    (w.step op).Current := by
  cases h : (w.clock.apply op).result.report? with
  | some r =>
    rw [Current, shown_step_of_report h hc]
    exact Display.current_cells _
  | none =>
    have hflagged := Clock.flagged_apply h hpoll
    simp only [Current, step, h]
    exact hflagged.current hc

theorem clock_after (w : Watched) (history : List Operation) :
    (w.after history).clock = w.clock.after history := by
  induction history generalizing w with
  | nil => rfl
  | cons op history ih => exact ih (w.step op)

theorem after_concat (w : Watched) (history : List Operation) (op : Operation) :
    w.after (history ++ [op]) = (w.after history).step op :=
  List.foldl_append

theorem current_after (hc : w.Current) {history : List Operation}
    (hpolls : ∀ o ∈ w.clock.outcomes history, o.result.NoHaltedPoll) :
    (w.after history).Current := by
  induction history generalizing w with
  | nil => exact hc
  | cons op history ih =>
    rw [Clock.outcomes, List.forall_mem_cons] at hpolls
    exact ih (current_step hc hpolls.1) hpolls.2

/-- A host that draws the display whenever a report asks for it misses no change while no poll
faults: behind every operation it shows the cells or the display is flagged, and behind every report
it shows the cells. -/
theorem no_change_is_missed (c : Clock) (history : List Operation)
    (hpolls : ∀ o ∈ c.outcomes history, ∀ halt, o.result ≠ .polled (.error halt)) :
    ((watch c).after history).clock = c.after history ∧
      (((watch c).after history).shown ≠ (c.after history).display.cells →
        (c.after history).display.dirty = true) ∧
      ∀ (op : Operation) (r : TickReport),
        ((c.after history).apply op).result.report? = some r →
          ((watch c).after (history ++ [op])).shown =
            (c.after (history ++ [op])).display.cells := by
  have hclock := (watch c).clock_after history
  have hcurrent : ((watch c).after history).Current :=
    current_after (w := watch c) c.display.current_cells hpolls
  refine ⟨hclock, ?_, ?_⟩
  · intro hne
    rw [Current, hclock] at hcurrent
    exact hcurrent hne
  · intro op r hr
    have hreport : (((watch c).after history).clock.apply op).result.report? = some r := by
      rw [hclock]
      exact hr
    have hend : ((watch c).after (history ++ [op])).clock = c.after (history ++ [op]) :=
      (watch c).clock_after _
    rw [after_concat] at hend ⊢
    rw [shown_step_of_report hreport hcurrent, hend]

/-- A glyph is drawn and shown, and the display is cleared while the clock stands. -/
def glyphThenReset : List Operation := [.poll 25, .setKey 3 true, .stop, .reset]

theorem glyphThenReset_is_not_missed :
    (∀ o ∈ (Clock.everyTen Clock.beepAndDraw).outcomes glyphThenReset, ∀ halt,
        o.result ≠ .polled (.error halt)) ∧
      ((watch (Clock.everyTen Clock.beepAndDraw)).after glyphThenReset).shown ≠
        ((Clock.everyTen Clock.beepAndDraw).after glyphThenReset).display.cells ∧
      ((Clock.everyTen Clock.beepAndDraw).after glyphThenReset).display.dirty = true ∧
      ((watch (Clock.everyTen Clock.beepAndDraw)).after (glyphThenReset ++ [.tick])).shown =
        ((Clock.everyTen Clock.beepAndDraw).after (glyphThenReset ++ [.tick])).display.cells := by
  have hquiet : ∀ o ∈ (Clock.everyTen Clock.beepAndDraw).outcomes glyphThenReset,
      o.result.halt? = none := by
    decide +kernel
  have hpolls : ∀ o ∈ (Clock.everyTen Clock.beepAndDraw).outcomes glyphThenReset, ∀ halt,
      o.result ≠ .polled (.error halt) :=
    fun o ho => Answer.noHaltedPoll_of_quiet (hquiet o ho)
  have hreport : (((Clock.everyTen Clock.beepAndDraw).after glyphThenReset).apply
      .tick).result.report? = some ⟨false, true⟩ := by
    decide +kernel
  obtain ⟨-, hflag, hreports⟩ := no_change_is_missed _ glyphThenReset hpolls
  have hstale : ((watch (Clock.everyTen Clock.beepAndDraw)).after glyphThenReset).shown ≠
      ((Clock.everyTen Clock.beepAndDraw).after glyphThenReset).display.cells := by
    refine Display.cells_ne (.wrapped 3 3) ?_
    decide +kernel
  exact ⟨hpolls, hstale, hflag hstale, hreports .tick _ hreport⟩

end Watched

end ChipEight
