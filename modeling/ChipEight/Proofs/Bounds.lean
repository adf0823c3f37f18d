import ChipEight.Proofs.Cycle
import ChipEight.Proofs.Operation

/-!
Where the numbers of an interpreter stay. The bounds hold each other up: an address is pushed where
a word was fetched, so a return from it lands near the end of memory at most; the program counter
passes the end only by the width of a skip; and the index comes from twelve bits.
-/

namespace ChipEight.Interpreter

/-- The bounds of program counter, index, call stack and display. -/
structure Bounded (s : Interpreter) : Prop where
  pc_le : s.machine.pc ≤ 0x1002
  index_le : s.machine.index ≤ 0xFFF
  depth_le : s.machine.stack.depth ≤ 16
  caller_le : ∀ a ∈ s.machine.stack.toList, a ≤ 0xFFE
  cell_binary : ∀ i : Fin 2048, s.display.cells[i] = 0 ∨ s.display.cells[i] = 1

variable {s : Interpreter}

/-- The bounds that do not hold by the type of the state. -/
theorem Bounded.of_le (hpc : s.machine.pc ≤ 0x1002) (hindex : s.machine.index ≤ 0xFFF)
    (hcaller : ∀ a ∈ s.machine.stack.toList, a ≤ 0xFFE) : s.Bounded :=
  ⟨hpc, hindex, s.machine.stack.depth_le, hcaller, s.display.binary⟩

theorem add_le_of_le {a b bound limit : UInt16} (h : a ≤ bound)
    (hsum : bound.toNat + b.toNat ≤ limit.toNat) : a + b ≤ limit := by
  rw [UInt16.le_iff_toNat_le] at h ⊢
  have hlimit := limit.toNat_lt
  rw [UInt16.toNat_add, Nat.mod_eq_of_lt (by omega)]
  omega

theorem destination_le {pc : UInt16} {f : Flow} (hpc : pc ≤ 0xFFE)
    (hjump : ∀ a, f = .jump a → a ≤ 0xFFF) : f.destination pc ≤ 0x1002 := by
  cases f with
  | next => exact add_le_of_le hpc (by decide)
  | skip => exact add_le_of_le hpc (by decide)
  | jump a => exact UInt16.le_trans (hjump a rfl) (by decide)
  | stay => exact UInt16.le_trans hpc (by decide)

theorem bounded_of_way {result : Except Halt Unit} {t : Interpreter} (h : s.Bounded)
    (hway : s.Way result t) : t.Bounded := by
  cases hway with
  | halted hs => exact h
  | called hpc hn hpush =>
    refine .of_le (UInt16.le_trans hn (by decide)) h.index_le fun a ha => ?_
    rw [(CallStack.toList_push? hpush).1, List.mem_append, List.mem_singleton] at ha
    rcases ha with ha | rfl
    · exact h.caller_le a ha
    · exact hpc
  | @returned caller stack hw hpop hc =>
    have hlist := (CallStack.toList_pop? hpop).1
    have hcaller : caller ≤ 0xFFE := h.caller_le caller (by simp [hlist])
    refine .of_le (add_le_of_le hcaller (by decide)) h.index_le fun a ha => ?_
    exact h.caller_le a (by simp [hlist, ha])
  | @passed e hpc he =>
    refine .of_le (destination_le hpc he.jump_le) ?_ ?_
    · rcases he.index_le with hsame | hle
      · exact hsame ▸ h.index_le
      · exact hle
    · rw [Effect.arrive, he.stack_eq]
      exact h.caller_le

theorem bounded_load (program : List UInt8) (h : s.Bounded) : (s.load program).state.Bounded := by
  rw [load, Machine.load]
  split
  · exact .of_le (show loadAddress ≤ 0x1002 by decide) h.index_le h.caller_le
  · exact h

theorem bounded_setKey {t : Interpreter} {key : Nat} {pressed : Bool}
    (ht : s.setKey key pressed = .ok t) (h : s.Bounded) : t.Bounded := by
  obtain ⟨keypad, rfl⟩ := exists_keypad_of_setKey ht
  exact .of_le h.pc_le h.index_le h.caller_le

/-- The bounds of a machine at the start. -/
theorem bounded_of_initial (h : s.machine = .initial) : s.Bounded := by
  refine .of_le ?_ ?_ fun a ha => ?_
  · rw [h]
    decide
  · rw [h]
    decide
  · rw [h, show Machine.initial.stack = .empty from rfl, CallStack.toList_empty] at ha
    cases ha

theorem bounded_invariant : Invariant Bounded where
  cycle h := bounded_of_way h (cycle_way _)
  tickTimers h := .of_le h.pc_le h.index_le h.caller_le
  takeDirty h := .of_le h.pc_le h.index_le h.caller_le
  load := bounded_load
  reset _ := bounded_of_initial rfl
  rewind h := .of_le (show loadAddress ≤ 0x1002 by decide) h.index_le h.caller_le
  setKey := bounded_setKey

end ChipEight.Interpreter
