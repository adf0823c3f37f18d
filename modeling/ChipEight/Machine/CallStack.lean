/-!
The call stack: at most sixteen return addresses. They stand in fixed slots with a depth; a slot
at or above the depth keeps what it last held and is not part of the stack.
-/

namespace ChipEight

/-- Return addresses in the slots below `depth`. -/
structure CallStack where
  slots : Vector UInt16 16
  depth : Nat
  depth_le : depth ≤ 16
  deriving DecidableEq

namespace CallStack

/-- The stack without addresses, all slots zero. -/
def empty : CallStack := ⟨Vector.replicate 16 0, 0, Nat.zero_le 16⟩

/-- A stack that holds one address sixteen times. -/
def full (address : UInt16) : CallStack := ⟨Vector.replicate 16 address, 16, Nat.le_refl 16⟩

/-- Adds an address, if a slot is free. -/
def push? (s : CallStack) (address : UInt16) : Option CallStack :=
  if h : s.depth < 16 then some ⟨s.slots.set s.depth address, s.depth + 1, h⟩ else none

/-- Takes the address added last, if there is one. -/
def pop? : CallStack → Option (UInt16 × CallStack)
  | ⟨_, 0, _⟩ => none
  | ⟨slots, depth + 1, h⟩ => some (slots[depth], ⟨slots, depth, Nat.le_of_succ_le h⟩)

/-- The addresses on the stack, the oldest first. -/
def toList (s : CallStack) : List UInt16 := s.slots.toList.take s.depth

@[simp] theorem toList_empty : empty.toList = [] := by simp [toList, empty]

@[simp] theorem length_toList (s : CallStack) : s.toList.length = s.depth := by
  simp [toList, s.depth_le]

/-- A push fails on a full stack only. -/
theorem push?_eq_none_iff (s : CallStack) (a : UInt16) : s.push? a = none ↔ s.depth = 16 := by
  have hle := s.depth_le
  simp only [push?, dite_eq_right_iff, reduceCtorEq, imp_false]
  omega

/-- A pop fails on an empty stack only. -/
theorem pop?_eq_none_iff (s : CallStack) : s.pop? = none ↔ s.depth = 0 := by
  obtain ⟨slots, depth, h⟩ := s
  cases depth <;> simp [pop?]

theorem pop?_eq_some (s : CallStack) (h : s.depth ≠ 0) (hlt : s.depth - 1 < 16) :
    s.pop? = some (s.slots[s.depth - 1],
      ⟨s.slots, s.depth - 1, Nat.le_trans (Nat.sub_le _ 1) s.depth_le⟩) := by
  obtain ⟨slots, depth, hle⟩ := s
  cases depth with
  | zero => exact absurd rfl h
  | succ depth => rfl

/-- A push appends. -/
theorem toList_push? {s t : CallStack} {a : UInt16} (h : s.push? a = some t) :
    t.toList = s.toList ++ [a] ∧ t.depth = s.depth + 1 := by
  simp only [push?, Option.dite_none_right_eq_some, Option.some.injEq] at h
  obtain ⟨hd, rfl⟩ := h
  refine ⟨?_, rfl⟩
  simp only [toList, Vector.toList_set]
  rw [List.take_add_one, List.take_set_of_le (Nat.le_refl _)]
  simp [hd]

/-- A pop takes the last address off. -/
theorem toList_pop? {s t : CallStack} {a : UInt16} (h : s.pop? = some (a, t)) :
    s.toList = t.toList ++ [a] ∧ s.depth = t.depth + 1 := by
  obtain ⟨slots, depth, hle⟩ := s
  cases depth with
  | zero => simp [pop?] at h
  | succ n =>
    simp only [pop?, Option.some.injEq, Prod.mk.injEq] at h
    obtain ⟨rfl, rfl⟩ := h
    have : n < 16 := hle
    simp only [toList, and_true]
    rw [List.take_add_one]
    simp [this]

end CallStack

end ChipEight
