import ChipEight.Proofs.Beats

/-!
The flag of the display. No instruction changes a cell and leaves the flag down; only a tick that
reports lowers it, and its report says so. A poll passes on what all of its ticks report, unless one
of them faults: then the reports of the ticks before are dropped, and with them their flags.
-/

namespace ChipEight

namespace Display

/-- A display behind another one is the same, or it is flagged. -/
def Flagged (old new : Display) : Prop := new = old ∨ new.dirty = true

/-- What is shown of a display is what its cells hold, unless it is flagged. -/
def Current (d : Display) (shown : Vector UInt8 2048) : Prop := shown ≠ d.cells → d.dirty = true

variable {d e f : Display} {shown : Vector UInt8 2048}

theorem Flagged.refl (d : Display) : d.Flagged d := .inl rfl

theorem Flagged.trans (h : d.Flagged e) (k : e.Flagged f) : d.Flagged f := by
  rcases k with rfl | hdirty
  · exact h
  · exact .inr hdirty

theorem Flagged.current (h : d.Flagged e) (hc : d.Current shown) : e.Current shown := by
  rcases h with rfl | hdirty
  · exact hc
  · exact fun _ => hdirty

theorem current_cells (d : Display) : d.Current d.cells := fun h => absurd rfl h

/-- On a display that is not flagged, what is shown is what is there. -/
theorem Current.shown_eq (h : d.Current shown) (hclean : d.dirty = false) : shown = d.cells := by
  by_contra hne
  rw [h hne] at hclean
  cases hclean

/-- Cells differ as a whole if one of them differs. -/
theorem cells_ne {cells : Vector UInt8 2048} (c : Cell)
    (h : shown.get c.offset ≠ cells.get c.offset) : shown ≠ cells := by
  rintro rfl
  exact h rfl

theorem flagged_flip (d : Display) (cells : List Cell) : d.Flagged (d.flip cells).1 := by
  rw [flip]
  generalize false = erased
  induction cells generalizing d erased with
  | nil => exact .refl d
  | cons c cells ih => exact Flagged.trans (.inr rfl) (ih (d.toggle c) _)

end Display

/-! ### Cycles -/

namespace Interpreter

variable {s : Interpreter} {word : Word} {i : Instruction} {e : Effect}

/-- The display behind an instruction: two of them change it. -/
def drawnBy (s : Interpreter) : Instruction → Display
  | .clear => s.display.clear
  | .draw x y n =>
    (s.display.flip (Sprite.cells (s.machine.reg x).toNat (s.machine.reg y).toNat
      (s.machine.memory.readAll s.machine.index n.toNat))).1
  | _ => s.display

/-- A return changes the machine alone. -/
theorem state_of_returnFrom (h : s.returnFrom word = .ok e) :
    ∃ machine, e.state = { s with machine := machine } := by
  obtain ⟨stack, target, rfl⟩ := exists_of_returnFrom h
  exact ⟨_, rfl⟩

/-- A call changes the machine alone. -/
theorem state_of_call {nnn : UInt16} (h : s.call word nnn = .ok e) :
    ∃ machine, e.state = { s with machine := machine } := by
  obtain ⟨stack, target, rfl⟩ := exists_of_call h
  exact ⟨_, rfl⟩

/-- A jump changes nothing but where it goes. -/
theorem state_of_jumpOffset {nnn : UInt16} (h : s.jumpOffset nnn = .ok e) : e.state = s := by
  obtain ⟨target, rfl⟩ := exists_of_jumpOffset h
  rfl

/-- The display that an effect leaves is the one that its instruction draws. -/
theorem display_of_perform (h : s.perform word i = .ok e) : e.state.display = s.drawnBy i := by
  cases i with
  | native nnn =>
    cases h
    rw [callNative]
    split <;> rfl
  | awaitKey x =>
    cases h
    rw [awaitKeyIn]
    split <;> rfl
  | ret =>
    obtain ⟨machine, hstate⟩ := state_of_returnFrom h
    rw [hstate]
    rfl
  | call nnn =>
    obtain ⟨machine, hstate⟩ := state_of_call h
    rw [hstate]
    rfl
  | jumpOffset nnn => exact congrArg Interpreter.display (state_of_jumpOffset h)
  | addIndex x =>
    cases (s.addIndex_eq x).symm.trans h
    rfl
  | random x nn =>
    obtain ⟨value, generator, heq⟩ := s.random_eq x nn
    cases heq.symm.trans h
    rfl
  | _ =>
    cases h
    rfl

theorem flagged_drawnBy (s : Interpreter) (i : Instruction) : s.display.Flagged (s.drawnBy i) := by
  cases i with
  | clear => exact .inr rfl
  | draw x y n => exact s.display.flagged_flip _
  | _ => exact .refl _

theorem flagged_cycle (s : Interpreter) : s.display.Flagged s.cycle.state.display := by
  cases hr : s.cycle.result with
  | ok =>
    obtain ⟨word, i, e, -, -, hp, hstate⟩ := effect_of_ok hr
    rw [hstate, Effect.arrive, display_of_perform hp]
    exact s.flagged_drawnBy i
  | error halt =>
    rw [cycle_state_of_halt hr]
    exact .refl _

theorem flagged_runCycles (s : Interpreter) (n : Nat) :
    s.display.Flagged (s.runCycles n).state.display := by
  rw [runCycles_state]
  induction n generalizing s with
  | zero => exact .refl _
  | succ n ih => exact s.flagged_cycle.trans (ih s.cycle.state)

/-- What a host asks of an interpreter leaves its display or flags it. -/
theorem flagged_apply (s : Interpreter) (op : Operation) :
    s.display.Flagged (s.apply op).state.display := by
  cases op with
  | load program => exact .refl _
  | reset => exact .inr rfl
  | rewind => exact .refl _
  | cycle => exact s.flagged_cycle
  | runCycles count => exact s.flagged_runCycles count
  | setKey key pressed =>
    rw [apply]
    cases hk : s.setKey key pressed with
    | ok t =>
      obtain ⟨keypad, rfl⟩ := exists_keypad_of_setKey hk
      exact .refl _
    | error e => exact .refl _

end Interpreter

/-! ### Ticks -/

namespace Clock

variable {c : Clock} {now : Nat} {shown : Vector UInt8 2048}

/-- The display of the interpreter in a clock. -/
def display (c : Clock) : Display := c.interpreter.display

/-- A tick that reports hands the flag over to its report. -/
theorem display_tick_of_ok {r : TickReport} (h : c.tick.result = .ok r) :
    c.tick.state.display = { c.batch.state.display with dirty := false } ∧
      r.redraw = c.batch.state.display.dirty := by
  rw [tick, ← batch] at h ⊢
  cases hb : c.batch.result with
  | ok =>
    simp only [hb] at h ⊢
    cases h
    exact ⟨rfl, rfl⟩
  | error halt =>
    simp only [hb] at h
    cases h

/-- A tick that halts keeps the flag. -/
theorem display_tick_of_halt {halt : Halt} (h : c.tick.result = .error halt) :
    c.tick.state.display = c.batch.state.display := by
  rw [tick, ← batch] at h ⊢
  cases hb : c.batch.result with
  | ok =>
    simp only [hb] at h
    cases h
  | error other => exact congrArg Interpreter.display (halted_interpreter _ other)

theorem flagged_batch (c : Clock) : c.display.Flagged c.batch.state.display :=
  c.interpreter.tickTimers.flagged_runCycles c.cyclesPerTick

/-- A report that asks for nothing leaves what is shown up to date. -/
theorem shown_eq_of_tick {r : TickReport} (h : c.tick.result = .ok r)
    (hc : c.display.Current shown) (hr : r.redraw = false) : shown = c.tick.state.display.cells := by
  obtain ⟨hdisplay, hredraw⟩ := display_tick_of_ok h
  rw [hdisplay]
  exact (c.flagged_batch.current hc).shown_eq (hredraw.symm.trans hr)

theorem current_ticked {n : Nat} {reports : List TickReport}
    (hgood : c.results n = reports.map .ok) (hc : c.display.Current shown)
    (hquiet : ∀ r ∈ reports, r.redraw = false) : (c.ticked n).display.Current shown := by
  induction n generalizing reports with
  | zero => exact hc
  | succ n ih =>
    obtain ⟨before, r, rfl, hbefore, hr⟩ := results_eq_map_succ hgood
    rw [List.forall_mem_append, List.forall_mem_singleton] at hquiet
    rw [ticked_succ, shown_eq_of_tick hr (ih hbefore hquiet.1) hquiet.2]
    exact Display.current_cells _

/-- Behind a tick that reports the flag is down. -/
theorem dirty_ticked {n : Nat} {reports : List TickReport} (hgood : c.results n = reports.map .ok)
    (hne : reports ≠ []) : (c.ticked n).display.dirty = false := by
  cases n with
  | zero => exact absurd (List.map_eq_nil_iff.mp hgood.symm) hne
  | succ n =>
    obtain ⟨before, r, -, -, hr⟩ := results_eq_map_succ hgood
    rw [ticked_succ, (display_tick_of_ok hr).1]

/-! ### Polls -/

/-- A poll that reports leaves the display as its report tells. -/
theorem shown_eq_of_poll {r : TickReport} (h : (c.poll now).result = .ok (some r))
    (hc : c.display.Current shown) (hr : r.redraw = false) :
    shown = (c.poll now).state.display.cells := by
  obtain ⟨n, reports, hgood, hsummary, hstate⟩ := reports_of_poll h
  have hne : reports ≠ [] := by
    rintro rfl
    cases hsummary
  have hquiet : ∀ report ∈ reports, report.redraw = false := by
    obtain ⟨last, -, hlast⟩ := Option.map_eq_some_iff.mp hsummary.symm
    rw [← hlast] at hr
    simpa using hr
  rw [display, hstate]
  exact (current_ticked hgood hc hquiet).shown_eq (dirty_ticked hgood hne)

/-- A poll that has nothing to report leaves the display. -/
theorem display_of_empty_poll (h : (c.poll now).result = .ok none) :
    (c.poll now).state.display = c.display := by
  obtain ⟨n, reports, hgood, hsummary, hstate⟩ := reports_of_poll h
  obtain rfl := (TickReport.summary_eq_none_iff reports).mp hsummary.symm
  obtain rfl : n = 0 := by simpa using congrArg List.length hgood
  exact congrArg Interpreter.display hstate

/-- A poll that faults drops the reports of the ticks before the fault. So what these ticks drew is
flagged only if the tick that faulted drew as well; what that one drew is always flagged. -/
theorem fault_drops_earlier_reports {fault : Fault}
    (h : (c.poll now).result = .error (.fault fault)) :
    ∃ (n : Nat) (reports : List TickReport), c.results n = reports.map .ok ∧
      (c.ticked n).tick.result = .error (.fault fault) ∧
      ((c.poll now).state.display.cells ≠ c.display.cells →
        (c.poll now).state.display.dirty = true ∨ ∃ r ∈ reports, r.redraw = true) ∧
      (0 < n → ((c.poll now).state.display.dirty = true ↔
        (c.poll now).state.display ≠ (c.ticked n).display)) := by
  obtain ⟨n, reports, hgood, hhalt, hstate⟩ := reports_of_halted_poll h
  have hdisplay : (c.poll now).state.display = (c.ticked n).batch.state.display := by
    rw [display, hstate]
    exact display_tick_of_halt hhalt
  have hflagged := (c.ticked n).flagged_batch
  rw [← hdisplay] at hflagged
  refine ⟨n, reports, hgood, hhalt, ?_, ?_⟩
  · intro hchanged
    by_cases hquiet : ∀ r ∈ reports, r.redraw = false
    · have hcurrent := current_ticked hgood c.display.current_cells hquiet
      exact .inl (hflagged.current hcurrent hchanged.symm)
    · right
      simpa using hquiet
  · intro hn
    have hclean : (c.ticked n).display.dirty = false := by
      refine dirty_ticked hgood ?_
      rintro rfl
      rw [← length_results c n, hgood] at hn
      exact absurd hn (Nat.lt_irrefl 0)
    constructor
    · intro hdirty hsame
      rw [hsame, hclean] at hdirty
      cases hdirty
    · exact hflagged.resolve_left

/-- Draws a glyph in one tick and returns from no call in the next: `D005`, `6000`, `00EE`. -/
def drawAndReturn : List UInt8 := [0xD0, 0x05, 0x60, 0x00, 0x00, 0xEE]

/-- The glyph is on the display behind the fault, and the flag is down. -/
theorem poll_drawAndReturn :
    ((everyTen drawAndReturn).poll 15).result =
        .error (.fault (.stackUnderflow 0x204 0x00EE)) ∧
      ((everyTen drawAndReturn).poll 15).state.display.cells ≠
        (everyTen drawAndReturn).display.cells ∧
      ((everyTen drawAndReturn).poll 15).state.display.dirty = false := by
  refine ⟨by decide +kernel, Display.cells_ne (.wrapped 0 0) ?_, by decide +kernel⟩
  decide +kernel

theorem drawAndReturn_drops_report :
    ((everyTen drawAndReturn).poll 15).result =
        .error (.fault (.stackUnderflow 0x204 0x00EE)) ∧
      ∃ (n : Nat) (reports : List TickReport),
        (everyTen drawAndReturn).results n = reports.map .ok ∧ ∃ r ∈ reports, r.redraw = true := by
  obtain ⟨hfault, hchanged, hclean⟩ := poll_drawAndReturn
  obtain ⟨n, reports, hgood, -, hlost, -⟩ := fault_drops_earlier_reports hfault
  refine ⟨hfault, n, reports, hgood, ?_⟩
  exact (hlost hchanged).resolve_left (by rw [hclean]; exact Bool.false_ne_true)

/-- Not every change that a poll made before it faulted is flagged. -/
theorem unflagged_change_behind_fault :
    ¬ ∀ (c : Clock) (now : Nat) (fault : Fault),
      (c.poll now).result = .error (.fault fault) →
        (c.poll now).state.display.cells ≠ c.display.cells →
          (c.poll now).state.display.dirty = true := by
  intro hall
  obtain ⟨hfault, hchanged, hclean⟩ := poll_drawAndReturn
  have hdirty := hall (everyTen drawAndReturn) 15 _ hfault hchanged
  rw [hclean] at hdirty
  cases hdirty

end Clock

end ChipEight
