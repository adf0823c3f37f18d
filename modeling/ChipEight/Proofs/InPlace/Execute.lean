import ChipEight.Proofs.Effects
import ChipEight.Proofs.InPlace.Lemmas
import ChipEight.Proofs.Sprite

/-!
Instructions in place. Executed in place an instruction ends as its effect says, so that no sum and
no access of an instruction goes out of range but for a return whose sum does not fit.
-/

namespace ChipEight.InPlace

/-- Ends with the flow and the state of an effect, with its fault in the state before, or out of
range. -/
def Ends (s : Interpreter) (r : Routine Flow) : Except Halt Effect → Prop
  | .ok e => r.run s = .ok e.flow e.state
  | .error (.fault f) => r.run s = .error (.fault f) s
  | .error .outOfRange => ∃ t, r.run s = .error .outOfRange t

variable {s : Interpreter} {word : Word} {x y : Nat}

/-! ### Calls and returns -/

theorem ends_ret : Ends s (execute s.machine.pc word .ret) (s.returnFrom word) := by
  cases hpop : s.machine.stack.pop? with
  | none =>
    rw [s.returnFrom_of_empty word hpop, Ends, execute, EStateM.run_bind, run_pop, hpop]
    rfl
  | some popped =>
    obtain ⟨caller, stack⟩ := popped
    by_cases hc : caller ≤ 0xFFFD
    · rw [s.returnFrom_of_pop word hpop hc, Ends, execute, EStateM.run_bind, run_pop, hpop]
      exact run_bind_of_ok (run_sum (sum_two_fits_iff.mpr hc))
    · rw [s.returnFrom_of_high word hpop hc, Ends, execute, EStateM.run_bind, run_pop, hpop]
      rw [← sum_two_fits_iff] at hc
      exact ⟨_, run_bind_of_error (run_sum_of_large hc)⟩

theorem ends_call (nnn : UInt16) :
    Ends s (execute s.machine.pc word (.call nnn)) (s.call word nnn) := by
  cases hpush : s.machine.stack.push? s.machine.pc with
  | none =>
    rw [s.call_of_full word nnn hpush, Ends, execute, EStateM.run_bind, run_push, hpush]
    rfl
  | some stack =>
    rw [s.call_of_push word nnn hpush, Ends, execute, EStateM.run_bind, run_push, hpush]
    rfl

theorem ends_native (nnn : UInt16) :
    Ends s (execute s.machine.pc word (.native nnn)) (.ok (s.callNative nnn)) := by
  rw [Ends, execute, EStateM.run_bind, EStateM.run_modify, Interpreter.callNative]
  by_cases h : s.machine.pc ∈ s.reported
  · simp only [if_pos h]
    rfl
  · simp only [if_neg h]
    rfl

/-! ### Arithmetic -/

theorem toNat_sum_bytes (a b : UInt8) :
    (a.toUInt16 + b.toUInt16).toNat = a.toNat + b.toNat := by
  have ha := a.toNat_lt
  have hb := b.toNat_lt
  rw [UInt16.toNat_add, UInt8.toNat_toUInt16, UInt8.toNat_toUInt16, Nat.mod_eq_of_lt (by omega)]

/-- The low byte of a sum of bytes is their sum as a byte. -/
theorem low_byte_sum (a b : UInt8) : ((a.toUInt16 + b.toUInt16) &&& 0xFF).toUInt8 = a + b := by
  have hlow : (a.toNat + b.toNat) &&& 255 = (a.toNat + b.toNat) % 256 :=
    Nat.and_two_pow_sub_one_eq_mod _ 8
  apply UInt8.toNat_inj.mp
  rw [UInt16.toNat_toUInt8, UInt16.toNat_and, toNat_sum_bytes, UInt8.toNat_add]
  simp only [UInt16.reduceToNat, hlow, Nat.mod_mod, Nat.reducePow]

theorem ends_add (hx : x < 16) (hy : y < 16) :
    Ends s (execute s.machine.pc word (.add x y)) (s.proceed (s.machine.add x y)) := by
  have hle := toNat_sum_bytes (s.machine.reg x) (s.machine.reg y)
  have hvx := (s.machine.reg x).toNat_lt
  have hvy := (s.machine.reg y).toNat_lt
  have hsum : (s.machine.reg x).toUInt16.toNat + (s.machine.reg y).toUInt16.toNat < 0x10000 := by
    rw [UInt8.toNat_toUInt16, UInt8.toNat_toUInt16]
    omega
  have hflag : 0xFF < (s.machine.reg x).toUInt16 + (s.machine.reg y).toUInt16 ↔
      255 < (s.machine.reg x).toNat + (s.machine.reg y).toNat := by
    rw [UInt16.lt_iff_toNat_lt, hle]
    rfl
  rw [Interpreter.proceed, Ends]
  simp only [execute, EStateM.run_bind, EStateM.run_pure, run_reg hx, run_reg hy, run_sum hsum,
    run_setReg hx, run_setFlag, low_byte_sum, hflag]
  rfl

/-- The low bit of a byte is a flag. -/
theorem low_bit_eq (v : UInt8) : v &&& 1 = if decide (v &&& 1 = 1) then 1 else 0 := by
  have h : (v &&& 1).toNat < 2 := Nat.and_lt_two_pow v.toNat (by decide : 1 < 2 ^ 1)
  rcases Nat.lt_or_ge (v &&& 1).toNat 1 with h0 | h1
  · have hz : v &&& 1 = 0 := UInt8.toNat_inj.mp (Nat.lt_one_iff.mp h0)
    rw [hz]
    rfl
  · have ho : v &&& 1 = 1 := UInt8.toNat_inj.mp (Nat.le_antisymm (Nat.le_of_lt_succ h) h1)
    rw [ho]
    rfl

/-- The high bit of a byte is a flag. -/
theorem high_bit_eq (v : UInt8) : (v &&& 0x80) >>> 7 = if decide (128 ≤ v) then 1 else 0 := by
  have h : ∀ n : Fin 256, (UInt8.ofNat n &&& 0x80) >>> 7 =
      if decide (128 ≤ UInt8.ofNat n) then 1 else 0 := by decide +kernel
  have hv := h ⟨v.toNat, v.toNat_lt⟩
  rw [UInt8.ofNat_toNat] at hv
  exact hv

theorem ends_shiftRight (hx : x < 16) :
    Ends s (execute s.machine.pc word (.shiftRight x)) (s.proceed (s.machine.shiftRight x)) := by
  rw [Interpreter.proceed, Ends]
  simp only [execute, EStateM.run_bind, EStateM.run_pure, run_reg hx,
    run_setReg (show flagRegister < 16 by decide), run_setReg hx]
  rw [Machine.shiftRight, Machine.setFlag, ← low_bit_eq]

theorem ends_shiftLeft (hx : x < 16) :
    Ends s (execute s.machine.pc word (.shiftLeft x)) (s.proceed (s.machine.shiftLeft x)) := by
  rw [Interpreter.proceed, Ends]
  simp only [execute, EStateM.run_bind, EStateM.run_pure, run_reg hx,
    run_setReg (show flagRegister < 16 by decide), run_setReg hx]
  rw [Machine.shiftLeft, Machine.setFlag, ← high_bit_eq]

theorem ends_random (hx : x < 16) (nn : UInt8) :
    Ends s (execute s.machine.pc word (.random x nn)) (s.random x nn) := by
  rw [Interpreter.random]
  by_cases h : nn = 0
  · rw [if_pos h, Interpreter.proceed, Ends]
    simp only [execute, if_pos h, EStateM.run_bind, EStateM.run_pure, run_setReg hx]
  · rw [if_neg h]
    cases hb : s.generator.below? nn with
    | none =>
      rw [Generator.below?, if_neg h] at hb
      cases hb
    | some drawn =>
      simp only [Interpreter.proceed, Ends, execute, if_neg h, EStateM.run_bind, EStateM.run_pure,
        run_below hb, run_setReg hx]

/-! ### Sums of addresses -/

theorem ends_jumpOffset {nnn : UInt16} (h : nnn ≤ 0xFFF) :
    Ends s (execute s.machine.pc word (.jumpOffset nnn)) (s.jumpOffset nnn) := by
  rw [Interpreter.jumpOffset_eq s h, Ends]
  simp only [execute, EStateM.run_bind, EStateM.run_pure, run_reg (show 0 < 16 by decide),
    run_sum (sum_byte_fits h _)]

theorem ends_addIndex (hx : x < 16) :
    Ends s (execute s.machine.pc word (.addIndex x)) (s.addIndex x) := by
  have hindex : (s.machine.setFlag false).index = s.machine.index := rfl
  rw [Interpreter.addIndex_eq, Interpreter.proceed, Ends]
  simp only [execute, EStateM.run_bind, run_setFlag, run_look, run_reg hx, hindex,
    run_sum (sum_byte_fits (and_mask_le _) _)]
  -- in place the flag is set before the index, in the effect both change at once
  split
  · rfl
  · rfl

theorem ends_glyph (hx : x < 16) :
    Ends s (execute s.machine.pc word (.glyph x))
      (s.proceed { s.machine with index := Font.glyphAddress (s.machine.reg x) }) := by
  have hdigit : (s.machine.reg x &&& 0x0F).toUInt16.toNat ≤ 15 := by
    rw [UInt8.toNat_toUInt16, UInt8.toNat_and]
    exact Nat.and_le_right
  have hproduct :
      (s.machine.reg x &&& 0x0F).toUInt16.toNat * Font.glyphRows.toNat < 0x10000 := by
    simp only [Font.glyphRows, UInt16.reduceToNat]
    omega
  have hsum : Font.address.toNat +
      ((s.machine.reg x &&& 0x0F).toUInt16 * Font.glyphRows).toNat < 0x10000 := by
    rw [show Font.address.toNat = 0 from rfl, Nat.zero_add]
    exact UInt16.toNat_lt _
  rw [Interpreter.proceed, Ends]
  simp only [execute, EStateM.run_bind, EStateM.run_pure, run_reg hx, run_product hproduct,
    run_sum hsum, run_update]
  rfl

/-! ### Loops -/

theorem ends_awaitKey (hx : x < 16) :
    Ends s (execute s.machine.pc word (.awaitKey x)) (.ok (s.awaitKeyIn x)) := by
  rw [Ends, execute, await, EStateM.run_bind, run_firstPressed, Interpreter.awaitKeyIn,
    Keypad.firstPressed, Keypad.pressed]
  simp only [EStateM.run_bind, EStateM.run_get]
  split <;> simp only [EStateM.run_bind, EStateM.run_pure, run_setReg hx, *]

theorem ends_draw (hx : x < 16) (hy : y < 16) (n : UInt8) :
    Ends s (execute s.machine.pc word (.draw x y n)) (s.draw x y n) := by
  simp only [Interpreter.draw, Interpreter.proceed, Ends, execute, EStateM.run_bind,
    EStateM.run_pure, run_reg hx, run_reg hy, run_drawRows, run_setFlag,
    Sprite.cells_readAll]
  rfl

theorem lt_of_mem_range_succ {r : Nat} (hx : x < 16) (hr : r ∈ List.range (x + 1)) : r < 16 := by
  rw [List.mem_range] at hr
  omega

theorem ends_store (hx : x < 16) :
    Ends s (execute s.machine.pc word (.store x)) (s.proceed (s.machine.storeRegs x)) := by
  rw [Interpreter.proceed, Ends, execute]
  exact run_bind_of_ok (run_forM fun r hr s => run_storeReg (lt_of_mem_range_succ hx hr))

theorem ends_load (hx : x < 16) :
    Ends s (execute s.machine.pc word (.load x)) (s.proceed (s.machine.loadRegs x)) := by
  rw [Interpreter.proceed, Ends, execute]
  exact run_bind_of_ok (run_forM fun r hr s => run_loadReg (lt_of_mem_range_succ hx hr))

/-! ### All instructions -/

/-- An instruction whose operands name registers and addresses ends in place as its effect says. -/
theorem execute_ends {i : Instruction} (hr : ∀ r ∈ i.registers, r < 16)
    (ha : ∀ a ∈ i.addresses, a ≤ 0xFFF) :
    Ends s (execute s.machine.pc word i) (s.perform word i) := by
  cases i with
  | ret => exact ends_ret
  | call nnn => exact ends_call nnn
  | jump nnn | clear | setIndex nnn => exact rfl
  | native nnn => exact ends_native nnn
  | jumpOffset nnn => exact ends_jumpOffset (ha nnn (.head _))
  | random x nn => exact ends_random (hr x (.head _)) nn
  | shiftRight x => exact ends_shiftRight (hr x (.head _))
  | shiftLeft x => exact ends_shiftLeft (hr x (.head _))
  | addIndex x => exact ends_addIndex (hr x (.head _))
  | glyph x => exact ends_glyph (hr x (.head _))
  | awaitKey x => exact ends_awaitKey (hr x (.head _))
  | store x => exact ends_store (hr x (.head _))
  | load x => exact ends_load (hr x (.head _))
  | add x y => exact ends_add (hr x (.head _)) (hr y (.tail _ (.head _)))
  | draw x y n => exact ends_draw (hr x (.head _)) (hr y (.tail _ (.head _))) n
  | setByte x nn | addByte x nn | getDelay x | setDelay x | setSound x =>
    have hx : x < 16 := hr x (.head _)
    show (execute s.machine.pc word _).run s = .ok .next _
    simp only [execute, EStateM.run_bind, EStateM.run_pure, run_update, run_look, run_reg hx,
      run_setReg hx]
  | decimal x =>
    have hx : x < 16 := hr x (.head _)
    show (execute s.machine.pc word _).run s = .ok .next _
    simp only [execute, EStateM.run_bind, EStateM.run_pure, run_look, run_reg hx, run_write]
    rfl
  | copy x y | or x y | and x y | xor x y =>
    have hx : x < 16 := hr x (.head _)
    have hy : y < 16 := hr y (.tail _ (.head _))
    show (execute s.machine.pc word _).run s = .ok .next _
    simp only [execute, combine, EStateM.run_bind, EStateM.run_pure, run_reg hx, run_reg hy,
      run_setReg hx]
  | subtract x y | subtractFrom x y =>
    have hx : x < 16 := hr x (.head _)
    have hy : y < 16 := hr y (.tail _ (.head _))
    show (execute s.machine.pc word _).run s = .ok .next _
    simp only [execute, EStateM.run_bind, EStateM.run_pure, run_reg hx, run_reg hy, run_setReg hx,
      run_setFlag]
    rfl
  | skipIfByte x nn | skipUnlessByte x nn | skipIfKey x | skipUnlessKey x =>
    have hx : x < 16 := hr x (.head _)
    show (execute s.machine.pc word _).run s = .ok (skipIf _) s
    simp only [execute, EStateM.run_bind, EStateM.run_pure, run_reg hx, run_isPressed]
  | skipIfSame x y | skipUnlessSame x y =>
    have hx : x < 16 := hr x (.head _)
    have hy : y < 16 := hr y (.tail _ (.head _))
    show (execute s.machine.pc word _).run s = .ok (skipIf _) s
    simp only [execute, EStateM.run_bind, EStateM.run_pure, run_reg hx, run_reg hy]

end ChipEight.InPlace
