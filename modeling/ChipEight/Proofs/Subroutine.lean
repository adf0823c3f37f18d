import ChipEight.Proofs.Schedule

/-!
Subroutines return where they were called. From a call on, the addresses that were on the stack
before it and the address of the call stay at the bottom of the stack. The only turn that can take
the address of the call away is a return, and it goes behind the call. The invariant is that those
addresses are a prefix of the stack; a turn keeps it or is that return.
-/

namespace ChipEight.Interpreter

variable {s : Interpreter}

/-- The turn `t` from `s` returns to the call at `caller`, onto a stack that holds `below`. -/
structure Returns (s : Interpreter) (t : Turn) (below : List UInt16) (caller : UInt16) :
    Prop where
  is_cycle : t = .cycle
  result_ok : s.cycle.result = .ok ()
  word_eq : s.word? = some 0x00EE
  pc_eq : (s.turn t).machine.pc = caller + 2
  stack_eq : (s.turn t).machine.stack.toList = below

/-- A cycle keeps the addresses at the bottom of the stack, or it returns to the last of them. -/
theorem cycle_keeps_prefix {below : List UInt16} {caller : UInt16}
    (h : below ++ [caller] <+: s.machine.stack.toList) :
    below ++ [caller] <+: s.cycle.state.machine.stack.toList ∨
      s.Returns .cycle below caller := by
  have hway := s.cycle_way
  generalize hr : s.cycle.result = result at hway
  generalize ht : s.cycle.state = t at hway
  cases hway with
  | halted hs => exact .inl h
  | called hpc hn hpush =>
    left
    rw [(CallStack.toList_push? hpush).1]
    exact h.trans (List.prefix_append _ _)
  | returned hw hpop hc =>
    -- the prefix is the whole stack and ends with the popped address, or it is left by the pop
    rw [(CallStack.toList_pop? hpop).1, List.prefix_concat_iff] at h
    rcases h with h | h
    · right
      obtain ⟨hbelow, hcaller⟩ := List.append_inj' h rfl
      rw [List.cons.injEq] at hcaller
      have hturn : s.turn .cycle = _ := ht
      exact ⟨rfl, hr, hw, by rw [hturn, hcaller.1], by rw [hturn, hbelow]⟩
    · exact .inl h
  | passed hpc he =>
    left
    rw [Effect.arrive, he.stack_eq]
    exact h

theorem turn_keeps_prefix {below : List UInt16} {caller : UInt16} (t : Turn)
    (h : below ++ [caller] <+: s.machine.stack.toList) :
    below ++ [caller] <+: (s.turn t).machine.stack.toList ∨ s.Returns t below caller := by
  by_cases ht : t = .cycle
  · subst ht
    exact cycle_keeps_prefix h
  · obtain ⟨keypad, delay, sound, hturn⟩ := s.turn_eq_of_ne_cycle ht
    left
    rw [hturn]
    exact h

/-- While the depth does not come back, the addresses stay at the bottom of the stack. -/
theorem run_keeps_prefix {below : List UInt16} {caller : UInt16} {turns : List Turn}
    (h : below ++ [caller] <+: s.machine.stack.toList)
    (hdeep : ∀ first, first <+: turns → (s.run first).machine.stack.depth ≠ below.length) :
    below ++ [caller] <+: (s.run turns).machine.stack.toList := by
  induction turns generalizing s with
  | nil => exact h
  | cons t turns ih =>
    rcases turn_keeps_prefix t h with hkept | hreturned
    · exact ih hkept fun first hf => hdeep (t :: first) (List.cons_prefix_cons.mpr ⟨rfl, hf⟩)
    · refine absurd ?_ (hdeep [t] (List.cons_prefix_cons.mpr ⟨rfl, List.nil_prefix⟩))
      rw [run_cons, run_nil, ← CallStack.length_toList, hreturned.stack_eq]

/-- A call with a free slot goes to its target with its own address on the stack. -/
theorem cycle_of_call {word : Word} (hw : s.word? = some word) (hcall : word &&& 0xF000 = 0x2000)
    (hfree : s.machine.stack.depth < 16) :
    s.cycle.state.machine.stack.toList = s.machine.stack.toList ++ [s.machine.pc] := by
  have hd : decode word = some (.call word.nnn) := (decode_eq_call_iff word _).mpr ⟨hcall, rfl⟩
  cases hpush : s.machine.stack.push? s.machine.pc with
  | none =>
    rw [CallStack.push?_eq_none_iff] at hpush
    omega
  | some stack =>
    rw [cycle_of_effect hw hd (s.call_of_push word word.nnn hpush)]
    exact (CallStack.toList_push? hpush).1

/-- Until a call has returned, the stack begins with what it held at the call and the address of
the call; and the first turn that brings the depth back is a return behind the call, onto the stack
as it was. -/
theorem call_keeps_stack_until_return (s : Interpreter) (word : Word) (turns : List Turn)
    (hw : s.word? = some word) (hcall : word &&& 0xF000 = 0x2000)
    (hfree : s.machine.stack.depth < 16)
    (hdeep : ∀ first, first <+: turns →
      (s.cycle.state.run first).machine.stack.depth ≠ s.machine.stack.depth) :
    (s.cycle.state.run turns).machine.stack.toList.take (s.machine.stack.depth + 1) =
        s.machine.stack.toList ++ [s.machine.pc] ∧
      ∀ t, (s.cycle.state.run (turns ++ [t])).machine.stack.depth = s.machine.stack.depth →
        (s.cycle.state.run turns).Returns t s.machine.stack.toList s.machine.pc := by
  have hstart : s.machine.stack.toList ++ [s.machine.pc] <+:
      s.cycle.state.machine.stack.toList :=
    ⟨[], by rw [List.append_nil, cycle_of_call hw hcall hfree]⟩
  have hkept := run_keeps_prefix hstart (by rwa [CallStack.length_toList])
  constructor
  · rw [List.prefix_iff_eq_take] at hkept
    rw [hkept]
    simp
  · intro t hback
    rw [run_concat] at hback
    rcases turn_keeps_prefix t hkept with hstill | hreturned
    · have hlen := hstill.length_le
      rw [CallStack.length_toList, hback, List.length_append, CallStack.length_toList,
        List.length_singleton] at hlen
      omega
    · exact hreturned

/-- A subroutine that calls another one: `2204` at `200`, `2208` at `204`. -/
def nestedCalls : Interpreter :=
  ((Interpreter.new {} .zeros).load
    [0x22, 0x04, 0x12, 0x02, 0x22, 0x08, 0x00, 0xEE, 0x00, 0xEE]).state

/-- The inner call and its return, with a key and the timers moving between them. -/
def innerTurns : List Turn := [.setKey 3 true, .cycle, .countDown, .setTimers 7 9, .cycle]

theorem nestedCalls_keeps_stack_until_return :
    nestedCalls.word? = some 0x2204 ∧
      (∀ first, first <+: innerTurns →
        (nestedCalls.cycle.state.run first).machine.stack.depth ≠ 0) ∧
      (nestedCalls.cycle.state.run innerTurns).machine.stack.toList.take 1 = [0x200] ∧
      (nestedCalls.cycle.state.run innerTurns).Returns .cycle [] 0x200 := by
  have hword : nestedCalls.word? = some 0x2204 := by decide +kernel
  have hback : (nestedCalls.cycle.state.run (innerTurns ++ [.cycle])).machine.stack.depth = 0 := by
    decide +kernel
  have hdepths : ∀ n ≤ innerTurns.length,
      (nestedCalls.cycle.state.run (innerTurns.take n)).machine.stack.depth ≠ 0 := by
    decide +kernel
  have hdeep : ∀ first, first <+: innerTurns →
      (nestedCalls.cycle.state.run first).machine.stack.depth ≠ 0 := by
    intro first hf
    rw [List.prefix_iff_eq_take.mp hf]
    exact hdepths _ hf.length_le
  obtain ⟨hkept, hreturns⟩ := call_keeps_stack_until_return nestedCalls 0x2204 innerTurns hword
    (by decide) (by decide) hdeep
  exact ⟨hword, hdeep, hkept, hreturns .cycle hback⟩

end ChipEight.Interpreter
