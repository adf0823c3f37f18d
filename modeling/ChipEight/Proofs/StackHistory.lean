import ChipEight.Machine.CallStack

/-!
The call stack as a list. A list that takes addresses at its end while it has fewer than sixteen,
and gives them back from there, answers every history of pushes, pops and clearings as the stack
does, and holds what the stack shows. What pops leave behind in the slots above the depth is never
seen again.
-/

namespace ChipEight.CallStack

/-- What can be asked of a call stack. -/
inductive Operation where
  | push (address : UInt16)
  | pop
  | clear
  deriving DecidableEq

/-- What is answered: whether there was room, or what was taken off. -/
inductive Answer where
  | pushed (stored : Bool)
  | popped (address : Option UInt16)
  | cleared
  deriving DecidableEq

/-- Does what is asked; a push without room and a pop of nothing leave the stack. -/
def apply (s : CallStack) : Operation → CallStack × Answer
  | .push address =>
    match s.push? address with
    | some t => (t, .pushed true)
    | none => (s, .pushed false)
  | .pop =>
    match s.pop? with
    | some (address, t) => (t, .popped (some address))
    | none => (s, .popped none)
  | .clear => (.empty, .cleared)

/-- The same of a list with room for sixteen addresses, the newest at its end. -/
def applyList (l : List UInt16) : Operation → List UInt16 × Answer
  | .push address => if l.length < 16 then (l ++ [address], .pushed true) else (l, .pushed false)
  | .pop => (l.dropLast, .popped l.getLast?)
  | .clear => ([], .cleared)

/-- The answers to a history, each with the depth and the addresses behind it. -/
def shown (s : CallStack) : List Operation → List (Answer × Nat × List UInt16)
  | [] => []
  | op :: history =>
    let (t, answer) := s.apply op
    (answer, t.depth, t.toList) :: t.shown history

/-- The answers of a list to a history, each with the length and the content behind it. -/
def shownOfList (l : List UInt16) : List Operation → List (Answer × Nat × List UInt16)
  | [] => []
  | op :: history =>
    let (k, answer) := applyList l op
    (answer, k.length, k) :: shownOfList k history

theorem apply_push (s : CallStack) (address : UInt16) :
    ((s.apply (.push address)).1.toList, (s.apply (.push address)).2) =
      applyList s.toList (.push address) := by
  rw [apply, applyList, length_toList]
  cases hpush : s.push? address with
  | none =>
    have hfull := (s.push?_eq_none_iff address).mp hpush
    rw [if_neg (by omega)]
  | some t =>
    have hroom : s.depth < 16 := by
      refine Nat.lt_of_le_of_ne s.depth_le fun hfull => ?_
      rw [(s.push?_eq_none_iff address).mpr hfull] at hpush
      cases hpush
    rw [if_pos hroom, (toList_push? hpush).1]

theorem apply_pop (s : CallStack) :
    ((s.apply .pop).1.toList, (s.apply .pop).2) = applyList s.toList .pop := by
  rw [apply, applyList]
  cases hpop : s.pop? with
  | none =>
    have hempty : s.toList = [] := by
      rw [← List.length_eq_zero_iff, length_toList]
      exact s.pop?_eq_none_iff.mp hpop
    simp [hempty]
  | some popped =>
    obtain ⟨address, t⟩ := popped
    simp [(toList_pop? hpop).1]

/-- One operation does to the addresses on a stack what it does to a list, with the same answer. -/
theorem apply_refines (s : CallStack) (op : Operation) :
    ((s.apply op).1.toList, (s.apply op).2) = applyList s.toList op := by
  cases op with
  | push address => exact s.apply_push address
  | pop => exact s.apply_pop
  | clear => simp [apply, applyList]

/-- A whole history is answered as by the list of the addresses on the stack. -/
theorem shown_eq (s : CallStack) (history : List Operation) :
    s.shown history = shownOfList s.toList history := by
  induction history generalizing s with
  | nil => rfl
  | cons op history ih =>
    rw [shown, shownOfList, ← apply_refines]
    simp only [ih, length_toList]

/-- From the start, and from any stack whatever its slots above the depth hold, every history of
operations has the answers of a list with room for sixteen addresses; and the depth and the
addresses behind each operation are the length and the content of that list. -/
theorem answers_as_list (history : List Operation) :
    empty.depth = 0 ∧ empty.toList = [] ∧ empty.shown history = shownOfList [] history ∧
      ∀ s : CallStack, s.shown history = shownOfList s.toList history := by
  refine ⟨rfl, toList_empty, ?_, fun s => s.shown_eq history⟩
  rw [shown_eq, toList_empty]

/-- The slot of a popped address is taken again, and neither of its addresses comes back. -/
example :
    empty.shown [.push 0x200, .push 0x300, .pop, .push 0x400, .pop, .pop, .pop] =
      [(.pushed true, 1, [0x200]), (.pushed true, 2, [0x200, 0x300]),
        (.popped (some 0x300), 1, [0x200]), (.pushed true, 2, [0x200, 0x400]),
        (.popped (some 0x400), 1, [0x200]), (.popped (some 0x200), 0, []),
        (.popped none, 0, [])] := by
  decide

end ChipEight.CallStack
