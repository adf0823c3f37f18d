import ChipEight.Proofs.Sprite
import Mathlib.Data.List.DropRight

/-!
The display behind a history of flips, clearings and takings of its flag. A cell is set if it was
flipped an odd number of times since the last clearing, and the flag is up if a cell was flipped or
all were cleared since it was last taken. So nothing of the order of the flips between two clearings
is left in the cells.
-/

namespace ChipEight

namespace Display

/-! ### Histories -/

/-- What can be asked of a display. -/
inductive Operation where
  | toggle (c : Cell)
  | clear
  | takeDirty
  deriving DecidableEq

/-- What is answered: whether a flipped cell is zero behind its flip, or how the flag was found. -/
inductive Answer where
  | toggled (erased : Bool)
  | cleared
  | taken (dirty : Bool)
  deriving DecidableEq

/-- Does what is asked. -/
def apply (d : Display) : Operation → Display × Answer
  | .toggle c => (d.toggle c, .toggled ((d.toggle c).cell c = 0))
  | .clear => (d.clear, .cleared)
  | .takeDirty => (d.takeDirty.2, .taken d.takeDirty.1)

/-- The display behind a history. -/
def after (d : Display) (history : List Operation) : Display :=
  history.foldl (fun d op => (d.apply op).1) d

/-- The answers to a history. -/
def answers (d : Display) : List Operation → List Answer
  | [] => []
  | op :: history => (d.apply op).2 :: (d.apply op).1.answers history

variable {d e : Display} {history stretch reordered : List Operation} {op : Operation}

theorem after_append (d : Display) (before behind : List Operation) :
    d.after (before ++ behind) = (d.after before).after behind :=
  List.foldl_append

theorem answers_append (d : Display) (before behind : List Operation) :
    d.answers (before ++ behind) = d.answers before ++ (d.after before).answers behind := by
  induction before generalizing d with
  | nil => rfl
  | cons op before ih => exact congrArg ((d.apply op).2 :: ·) (ih (d.apply op).1)

theorem length_answers (d : Display) (history : List Operation) :
    (d.answers history).length = history.length := by
  induction history generalizing d with
  | nil => rfl
  | cons op history ih => exact congrArg (· + 1) (ih (d.apply op).1)

/-- An operation is answered by the display that it finds. -/
theorem getElem?_answers (d : Display) (before : List Operation) (op : Operation)
    (behind : List Operation) :
    (d.answers (before ++ op :: behind))[before.length]? = some ((d.after before).apply op).2 := by
  have hle : (d.answers before).length ≤ before.length := (d.length_answers before).le
  rw [answers_append, List.getElem?_append_right hle, length_answers, Nat.sub_self]
  rfl

/-- A flip leaves zero where it found a cell that was set. -/
theorem answer_toggle (d : Display) (c : Cell) :
    (d.apply (.toggle c)).2 = .toggled (d.isSet c) := by
  simp only [apply, toggle_cell_eq_zero_iff, Bool.decide_eq_true]

/-! ### What was done since the last clearing and since the flag was last taken -/

/-- What was done behind the last `op`, and all of it if there is none. -/
def since (op : Operation) (history : List Operation) : List Operation :=
  history.rtakeWhile (· != op)

theorem since_concat_self (op : Operation) (history : List Operation) :
    since op (history ++ [op]) = [] :=
  List.rtakeWhile_concat_neg _ _ _ (by simp)

theorem since_append (h : op ∉ stretch) (history : List Operation) :
    since op (history ++ stretch) = since op history ++ stretch := by
  have hne : ∀ other ∈ stretch.reverse, (other != op) = true := by
    intro other hmem
    rw [List.mem_reverse] at hmem
    exact bne_iff_ne.mpr (ne_of_mem_of_not_mem hmem h)
  rw [since, List.rtakeWhile, List.reverse_append, List.takeWhile_append_of_pos hne,
    List.reverse_append, List.reverse_reverse]
  rfl

/-- How often a cell was flipped since the last clearing. -/
def flips (history : List Operation) (c : Cell) : Nat := (since .clear history).count (.toggle c)

/-- A cell was flipped or all were cleared since the flag was last taken. -/
def Touched (history : List Operation) : Prop :=
  ∃ op ∈ since .takeDirty history, op = .clear ∨ ∃ c, op = .toggle c

theorem flips_clear (history : List Operation) (c : Cell) : flips (history ++ [.clear]) c = 0 := by
  rw [flips, since_concat_self, List.count_nil]

theorem flips_append (h : .clear ∉ stretch) (history : List Operation) (c : Cell) :
    flips (history ++ stretch) c = flips history c + stretch.count (.toggle c) := by
  rw [flips, since_append h, List.count_append, flips]

theorem flips_toggle (history : List Operation) (c e : Cell) :
    flips (history ++ [.toggle c]) e = flips history e + if e = c then 1 else 0 := by
  rw [flips_append (by simp), List.count_singleton]
  simp only [beq_iff_eq, Operation.toggle.injEq, @eq_comm _ c e]

theorem flips_takeDirty (history : List Operation) (c : Cell) :
    flips (history ++ [.takeDirty]) c = flips history c := by
  rw [flips_append (by simp), List.count_singleton]
  rfl

theorem touched_concat (hne : op ≠ .takeDirty) (history : List Operation) :
    Touched (history ++ [op]) := by
  have hmem : op ∈ since .takeDirty (history ++ [op]) := by
    rw [since_append (by simpa using hne.symm)]
    exact List.mem_concat_self
  refine ⟨op, hmem, ?_⟩
  cases op with
  | toggle c => exact .inr ⟨c, rfl⟩
  | clear => exact .inl rfl
  | takeDirty => exact absurd rfl hne

theorem not_touched_takeDirty (history : List Operation) :
    ¬ Touched (history ++ [.takeDirty]) := by
  rintro ⟨op, hmem, -⟩
  rw [since_concat_self] at hmem
  exact List.not_mem_nil hmem

/-! ### What the cells and the flag tell -/

/-- A display shows the parity of the flips of a history, and whether it touched the cells. -/
structure Tells (d : Display) (history : List Operation) : Prop where
  isSet_iff : ∀ c, d.isSet c = true ↔ Odd (flips history c)
  dirty_iff : d.dirty = true ↔ Touched history

theorem isSet_blank (c : Cell) : blank.isSet c = false := by
  simp [isSet, cell, blank]

theorem tells_blank : blank.Tells [] where
  isSet_iff c := by simp [isSet_blank, flips, since]
  dirty_iff := by simp [blank, Touched, since]

theorem Tells.toggle (h : d.Tells history) (c : Cell) :
    (d.toggle c).Tells (history ++ [.toggle c]) where
  isSet_iff e := by
    rw [isSet_toggle, flips_toggle]
    by_cases heq : e = c
    · rw [if_pos heq, if_pos heq, Bool.not_eq_true', Nat.odd_add_one, heq, ← h.isSet_iff c,
        Bool.not_eq_true]
    · rw [if_neg heq, if_neg heq, Nat.add_zero]
      exact h.isSet_iff e
  dirty_iff := iff_of_true rfl (touched_concat (by simp) history)

theorem tells_clear (d : Display) (history : List Operation) :
    d.clear.Tells (history ++ [.clear]) where
  isSet_iff c := by simp [flips_clear]
  dirty_iff := iff_of_true rfl (touched_concat (by simp) history)

theorem Tells.takeDirty (h : d.Tells history) :
    d.takeDirty.2.Tells (history ++ [.takeDirty]) where
  isSet_iff c := by
    rw [flips_takeDirty]
    exact h.isSet_iff c
  dirty_iff := iff_of_false Bool.false_ne_true (not_touched_takeDirty history)

/-- One operation keeps what a display tells. -/
theorem Tells.apply (h : d.Tells history) (op : Operation) :
    (d.apply op).1.Tells (history ++ [op]) := by
  cases op with
  | toggle c => exact h.toggle c
  | clear => exact tells_clear d history
  | takeDirty => exact h.takeDirty

/-- Behind a whole history a display tells of all of it. -/
theorem tells_after (history : List Operation) : (blank.after history).Tells history := by
  -- from the end, since the last operation is the one that the display in hand undergoes
  induction history using List.reverseRecOn with
  | nil => exact tells_blank
  | append_singleton history op ih =>
    rw [after_append]
    exact ih.apply op

/-! ### The order of the flips -/

/-- Every place among the cells is that of a column and a row. -/
theorem exists_offset {i : Nat} (hi : i < 2048) : ∃ c : Cell, c.offset.val = i := by
  refine ⟨⟨⟨i % 64, by omega⟩, ⟨i / 64, by omega⟩⟩, ?_⟩
  simp only [Cell.offset]
  omega

/-- Displays on which the same cells are set hold the same. -/
theorem cells_eq_of_isSet_eq (h : ∀ c, d.isSet c = e.isSet c) : d.cells = e.cells := by
  refine Vector.ext fun i hi => ?_
  obtain ⟨c, rfl⟩ := exists_offset hi
  have hcell : d.cell c = e.cell c := (cell_eq_iff_isSet_eq c).mpr (h c)
  exact hcell

/-- What an operation does to the cells does not depend on the flag. -/
theorem cells_apply_congr (h : d.cells = e.cells) (op : Operation) :
    (d.apply op).1.cells = (e.apply op).1.cells := by
  cases op with
  | toggle c => simp only [apply, toggle, cell, h]
  | clear => rfl
  | takeDirty => exact h

theorem cells_after_congr (h : d.cells = e.cells) (history : List Operation) :
    (d.after history).cells = (e.after history).cells := by
  induction history generalizing d e with
  | nil => exact h
  | cons op history ih => exact ih (cells_apply_congr h op)

theorem cells_after_reordered (h : .clear ∉ stretch) (hperm : reordered.Perm stretch)
    (before : List Operation) :
    (blank.after (before ++ reordered)).cells = (blank.after (before ++ stretch)).cells := by
  refine cells_eq_of_isSet_eq fun c => ?_
  have hflips : flips (before ++ reordered) c = flips (before ++ stretch) c := by
    rw [flips_append (mt hperm.mem_iff.mp h), flips_append h, hperm.count_eq]
  rw [Bool.eq_iff_iff, (tells_after _).isSet_iff, (tells_after _).isSet_iff, hflips]

/-- From the start, a cell is set exactly if it was flipped an odd number of times since the last
clearing, and each flip answers whether its cell was set just before. The flag is up exactly if a
flip or a clearing came behind the last taking of it. The cells do not tell in which order the flips
between two clearings came. -/
theorem cells_show_parity (history : List Operation) :
    (∀ c, (blank.after history).isSet c = true ↔ Odd (flips history c)) ∧
      (∀ before c behind, history = before ++ .toggle c :: behind →
        (blank.answers history)[before.length]? = some (.toggled ((blank.after before).isSet c))) ∧
      ((blank.after history).dirty = true ↔ Touched history) ∧
      ∀ before stretch reordered behind, history = before ++ stretch ++ behind →
        .clear ∉ stretch → reordered.Perm stretch →
          (blank.after (before ++ reordered ++ behind)).cells = (blank.after history).cells := by
  have htells := tells_after history
  refine ⟨htells.isSet_iff, ?_, htells.dirty_iff, ?_⟩
  · rintro before c behind rfl
    rw [getElem?_answers, answer_toggle]
  · rintro before stretch reordered behind rfl hclear hperm
    rw [after_append, after_append _ (before ++ stretch)]
    exact cells_after_congr (cells_after_reordered hclear hperm before) behind

/-- Flips of two corners, one of them before the display is cleared and twice behind that, with the
flag taken at the end. -/
def cornerFlips : List Operation :=
  [.toggle (.wrapped 0 0), .clear] ++
    [.toggle (.wrapped 0 0), .toggle (.wrapped 63 31), .toggle (.wrapped 0 0)] ++ [.takeDirty]

theorem cornerFlips_show_parity :
    (blank.after cornerFlips).isSet (.wrapped 63 31) = true ∧
      (blank.after cornerFlips).isSet (.wrapped 0 0) = false ∧
      (blank.answers cornerFlips)[4]? = some (.toggled true) ∧
      (blank.after cornerFlips).dirty = false ∧
      (blank.after ([.toggle (.wrapped 0 0), .clear] ++
        [.toggle (.wrapped 0 0), .toggle (.wrapped 0 0), .toggle (.wrapped 63 31)] ++
          [.takeDirty])).cells = (blank.after cornerFlips).cells := by
  obtain ⟨hset, hanswer, hflag, hcells⟩ := cells_show_parity cornerFlips
  have hfound : (blank.after (cornerFlips.take 4)).isSet (.wrapped 0 0) = true :=
    ((cells_show_parity (cornerFlips.take 4)).1 (.wrapped 0 0)).mpr (by decide)
  refine ⟨(hset _).mpr (by decide), ?_, ?_, ?_, ?_⟩
  · rw [← Bool.not_eq_true, hset]
    decide
  · rw [← hfound]
    exact hanswer (cornerFlips.take 4) (.wrapped 0 0) [.takeDirty] rfl
  · rw [← Bool.not_eq_true, hflag]
    exact not_touched_takeDirty _
  · exact hcells _ _ _ _ rfl (by decide) (by decide)

end Display

end ChipEight
