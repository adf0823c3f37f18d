import ChipEight.Interpreter.Execute
import ChipEight.Proofs.Decoding

/-!
What instructions do to the call stack, to the index and to the flow of control. Calls and returns
have an equation for each way they go. All others are *plain*: they never halt, leave the call
stack, keep the index inside memory and jump nowhere but into memory.
-/

namespace ChipEight

theorem addressSum_eq_ok {a b : UInt16} (h : a.toNat + b.toNat < 0x10000) :
    addressSum a b = .ok (a + b) := if_pos h

/-! ### Sums that fit in sixteen bits -/

theorem sum_fits {a b bound : UInt16} (h : a ≤ bound) (hsum : bound.toNat + b.toNat < 0x10000) :
    a.toNat + b.toNat < 0x10000 := by
  rw [UInt16.le_iff_toNat_le] at h
  omega

theorem sum_two_fits_iff {a : UInt16} :
    a.toNat + (2 : UInt16).toNat < 0x10000 ↔ a ≤ 0xFFFD := by
  rw [UInt16.le_iff_toNat_le]
  simp only [UInt16.reduceToNat]
  omega

/-- An address in memory and a byte have a sum. -/
theorem sum_byte_fits {a : UInt16} (h : a ≤ 0xFFF) (v : UInt8) :
    a.toNat + v.toUInt16.toNat < 0x10000 := by
  have hv := v.toNat_lt
  rw [UInt16.le_iff_toNat_le] at h
  rw [UInt8.toNat_toUInt16]
  simp only [UInt16.reduceToNat] at h
  omega

theorem toNat_and_mask (a : UInt16) : (a &&& 0xFFF).toNat = a.toNat % 4096 := by
  rw [UInt16.toNat_and]
  exact Nat.and_two_pow_sub_one_eq_mod a.toNat 12

theorem and_mask_le (a : UInt16) : a &&& 0xFFF ≤ 0xFFF := by
  rw [UInt16.le_iff_toNat_le, UInt16.toNat_and]
  exact Nat.and_le_right

/-- The address to which a flow leads from `pc`, in sixteen bits. -/
def Flow.destination (pc : UInt16) : Flow → UInt16
  | .next => pc + 2
  | .skip => pc + 4
  | .jump address => address
  | .stay => pc

/-- Where a word can be fetched, no flow goes out of range. -/
theorem Flow.target_eq_ok {pc : UInt16} (h : pc ≤ 0xFFE) (f : Flow) :
    f.target pc = .ok (f.destination pc) := by
  cases f with
  | next => exact addressSum_eq_ok (sum_fits h (by decide))
  | skip => exact addressSum_eq_ok (sum_fits h (by decide))
  | jump address => rfl
  | stay => rfl

namespace Machine

/-- Loading changes registers and nothing else. -/
theorem loadRegs_eq (m : Machine) (x : Nat) :
    ∃ registers, m.loadRegs x = { m with registers := registers } := by
  rw [loadRegs]
  induction List.range (x + 1) generalizing m with
  | nil => exact ⟨m.registers, rfl⟩
  | cons r rest ih =>
    obtain ⟨registers, h⟩ := ih (m.loadReg r)
    exact ⟨registers, by rw [List.foldl_cons, h]; rfl⟩

/-- Storing changes memory and nothing else. -/
theorem storeRegs_eq (m : Machine) (x : Nat) :
    ∃ memory, m.storeRegs x = { m with memory := memory } := by
  rw [storeRegs]
  induction List.range (x + 1) generalizing m with
  | nil => exact ⟨m.memory, rfl⟩
  | cons r rest ih =>
    obtain ⟨memory, h⟩ := ih (m.storeReg r)
    exact ⟨memory, by rw [List.foldl_cons, h]; rfl⟩

end Machine

namespace Interpreter

variable (s : Interpreter) (word : Word)

/-! ### Calls and returns -/

theorem returnFrom_of_empty (h : s.machine.stack.pop? = none) :
    s.returnFrom word = .error (.fault (.stackUnderflow s.machine.pc word)) := by
  rw [returnFrom, h]

theorem returnFrom_of_pop {caller : UInt16} {stack : CallStack}
    (h : s.machine.stack.pop? = some (caller, stack)) (hc : caller ≤ 0xFFFD) :
    s.returnFrom word =
      .ok ⟨{ s with machine := { s.machine with stack := stack } }, .jump (caller + 2), []⟩ := by
  rw [returnFrom, h]
  simp only [addressSum_eq_ok (sum_two_fits_iff.mpr hc)]
  rfl

/-- A return behind an address too high for its successor goes out of range. -/
theorem returnFrom_of_high {caller : UInt16} {stack : CallStack}
    (h : s.machine.stack.pop? = some (caller, stack)) (hc : ¬ caller ≤ 0xFFFD) :
    s.returnFrom word = .error .outOfRange := by
  rw [← sum_two_fits_iff] at hc
  rw [returnFrom, h]
  simp only [addressSum, if_neg hc]
  rfl

theorem call_of_full (nnn : UInt16) (h : s.machine.stack.push? s.machine.pc = none) :
    s.call word nnn = .error (.fault (.stackOverflow s.machine.pc word)) := by
  rw [call, h]

theorem call_of_push (nnn : UInt16) {stack : CallStack}
    (h : s.machine.stack.push? s.machine.pc = some stack) :
    s.call word nnn =
      .ok ⟨{ s with machine := { s.machine with stack := stack } }, .jump nnn, []⟩ := by
  rw [call, h]

variable {s word} {e : Effect}

/-- A return that does not halt changes the call stack and jumps. -/
theorem exists_of_returnFrom (h : s.returnFrom word = .ok e) :
    ∃ stack target,
      e = ⟨{ s with machine := { s.machine with stack := stack } }, .jump target, []⟩ := by
  cases hpop : s.machine.stack.pop? with
  | none =>
    rw [s.returnFrom_of_empty word hpop] at h
    cases h
  | some popped =>
    obtain ⟨caller, stack⟩ := popped
    by_cases hc : caller ≤ 0xFFFD
    · rw [s.returnFrom_of_pop word hpop hc] at h
      cases h
      exact ⟨stack, caller + 2, rfl⟩
    · rw [s.returnFrom_of_high word hpop hc] at h
      cases h

/-- A call that does not halt changes the call stack and jumps. -/
theorem exists_of_call {nnn : UInt16} (h : s.call word nnn = .ok e) :
    ∃ stack target,
      e = ⟨{ s with machine := { s.machine with stack := stack } }, .jump target, []⟩ := by
  cases hpush : s.machine.stack.push? s.machine.pc with
  | none =>
    rw [s.call_of_full word nnn hpush] at h
    cases h
  | some stack =>
    rw [s.call_of_push word nnn hpush] at h
    cases h
    exact ⟨stack, nnn, rfl⟩

/-- A jump that does not halt changes nothing but where it goes. -/
theorem exists_of_jumpOffset {nnn : UInt16} (h : s.jumpOffset nnn = .ok e) :
    ∃ target, e = ⟨s, .jump target, []⟩ := by
  rw [jumpOffset] at h
  cases hsum : addressSum nnn (s.machine.reg 0).toUInt16 with
  | error halt =>
    rw [hsum] at h
    cases h
  | ok address =>
    rw [hsum] at h
    cases h
    exact ⟨address &&& 0xFFF, rfl⟩

variable (s word)

/-! ### Sums and draws that stay in range -/

theorem jumpOffset_eq {nnn : UInt16} (h : nnn ≤ 0xFFF) :
    s.jumpOffset nnn =
      .ok ⟨s, .jump ((nnn + (s.machine.reg 0).toUInt16) &&& 0xFFF), []⟩ := by
  rw [jumpOffset, addressSum_eq_ok (sum_byte_fits h _)]
  rfl

theorem addIndex_eq (x : Nat) :
    s.addIndex x =
      let cleared := s.machine.setFlag false
      let sum := (s.machine.index &&& 0xFFF) + (cleared.reg x).toUInt16
      s.proceed
        { (if 0xFFF < sum then cleared.setFlag true else cleared) with index := sum &&& 0xFFF } := by
  rw [addIndex, addressSum_eq_ok (sum_byte_fits (and_mask_le _) _)]
  rfl

theorem random_eq (x : Nat) (nn : UInt8) :
    ∃ value generator, s.random x nn =
      .ok ⟨{ s with machine := s.machine.setReg x value, generator := generator }, .next, []⟩ := by
  rw [random]
  by_cases h : nn = 0
  · rw [if_pos h]
    exact ⟨0, s.generator, rfl⟩
  · rw [if_neg h, Generator.below?, if_neg h]
    exact ⟨_, _, rfl⟩

/-! ### Plain instructions -/

/-- What an effect leaves of the state before it if the instruction neither calls nor returns. -/
structure Plain (e : Effect) : Prop where
  stack_eq : e.state.machine.stack = s.machine.stack
  index_le : e.state.machine.index = s.machine.index ∨ e.state.machine.index ≤ 0xFFF
  jump_le : ∀ a, e.flow = .jump a → a ≤ 0xFFF

variable {s}

theorem plain_proceed {m : Machine} (hs : m.stack = s.machine.stack)
    (hi : m.index = s.machine.index ∨ m.index ≤ 0xFFF) :
    ∃ e, s.proceed m = .ok e ∧ s.Plain e :=
  ⟨_, rfl, hs, hi, fun _ h => by cases h⟩

theorem plain_skipIf (condition : Bool) : ∃ e, s.skipIf condition = .ok e ∧ s.Plain e :=
  ⟨_, rfl, rfl, .inl rfl, fun _ h => by cases condition <;> cases h⟩

theorem plain_callNative (nnn : UInt16) : s.Plain (s.callNative nnn) := by
  rw [callNative]
  split <;> exact ⟨rfl, .inl rfl, fun _ h => by cases h⟩

theorem plain_awaitKeyIn (x : Nat) : s.Plain (s.awaitKeyIn x) := by
  rw [awaitKeyIn]
  split <;> exact ⟨rfl, .inl rfl, fun _ h => by cases h⟩

theorem glyphAddress_le (digit : UInt8) : Font.glyphAddress digit ≤ 0xFFF := by
  have h : (digit &&& 0x0F).toNat ≤ 15 := by
    rw [UInt8.toNat_and]
    exact Nat.and_le_right
  rw [UInt16.le_iff_toNat_le, Font.glyphAddress, Font.address, Font.glyphRows]
  simp only [UInt16.toNat_add, UInt16.toNat_mul, UInt8.toNat_toUInt16, UInt16.reduceToNat]
  rw [Nat.zero_add, Nat.mod_mod, Nat.mod_eq_of_lt (by omega)]
  omega

/-- An instruction that neither calls nor returns has an effect, and that effect is plain. -/
theorem perform_plain {i : Instruction} (ha : ∀ a ∈ i.addresses, a ≤ 0xFFF) (hret : i ≠ .ret)
    (hcall : ∀ nnn, i ≠ .call nnn) : ∃ e, s.perform word i = .ok e ∧ s.Plain e := by
  cases i with
  | ret => exact absurd rfl hret
  | call nnn => exact absurd rfl (hcall nnn)
  | native nnn => exact ⟨_, rfl, plain_callNative nnn⟩
  | awaitKey x => exact ⟨_, rfl, plain_awaitKeyIn x⟩
  | jump nnn =>
    have hn : nnn ≤ 0xFFF := ha nnn (List.mem_singleton.mpr rfl)
    exact ⟨_, rfl, rfl, .inl rfl, fun a h => by cases h; exact hn⟩
  | jumpOffset nnn =>
    have hn : nnn ≤ 0xFFF := ha nnn (List.mem_singleton.mpr rfl)
    exact ⟨_, jumpOffset_eq s hn, rfl, .inl rfl, fun a h => by cases h; exact and_mask_le _⟩
  | setIndex nnn =>
    have hn : nnn ≤ 0xFFF := ha nnn (List.mem_singleton.mpr rfl)
    exact plain_proceed rfl (.inr hn)
  | glyph x => exact plain_proceed rfl (.inr (glyphAddress_le _))
  | addIndex x =>
    show ∃ e, s.addIndex x = .ok e ∧ s.Plain e
    rw [addIndex_eq]
    refine plain_proceed ?_ (.inr (and_mask_le _))
    dsimp only
    split <;> rfl
  | random x nn =>
    obtain ⟨value, generator, h⟩ := random_eq s x nn
    exact ⟨_, h, rfl, .inl rfl, fun _ h => by cases h⟩
  | store x =>
    obtain ⟨memory, h⟩ := s.machine.storeRegs_eq x
    show ∃ e, s.proceed (s.machine.storeRegs x) = .ok e ∧ s.Plain e
    rw [h]
    exact plain_proceed rfl (.inl rfl)
  | load x =>
    obtain ⟨registers, h⟩ := s.machine.loadRegs_eq x
    show ∃ e, s.proceed (s.machine.loadRegs x) = .ok e ∧ s.Plain e
    rw [h]
    exact plain_proceed rfl (.inl rfl)
  | clear => exact ⟨_, rfl, rfl, .inl rfl, fun _ h => by cases h⟩
  | draw x y n => exact ⟨_, rfl, rfl, .inl rfl, fun _ h => by cases h⟩
  | skipIfByte | skipUnlessByte | skipIfSame | skipUnlessSame | skipIfKey | skipUnlessKey =>
    exact plain_skipIf _
  | _ => exact plain_proceed rfl (.inl rfl)

end Interpreter

end ChipEight
