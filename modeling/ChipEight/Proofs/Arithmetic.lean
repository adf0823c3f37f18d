import ChipEight.Proofs.Cycle
import Mathlib.Logic.Function.Basic

/-!
What arithmetic leaves in the registers, as numbers. Sums and differences put the flag over the
result where both go to one register; shifts put the result over the flag, and shift what the flag
was by then; an addition to the index reads a register that the flag was taken out of. Each
instruction is followed through its writes, and only then are bytes read as numbers.
-/

namespace ChipEight

open Function (update update_apply)

/-- The number of a flag that is written to a register. -/
theorem toNat_flag (flag : Bool) : (if flag then (1 : UInt8) else 0).toNat = flag.toNat := by
  cases flag <;> rfl

/-- The number of a flag that tells whether something holds. -/
theorem toNat_decide (p : Prop) [Decidable p] : (decide p).toNat = if p then 1 else 0 := by
  by_cases h : p <;> simp [h]

namespace Machine

variable (m : Machine) {x r : Nat}

/-- What a register holds, as a number. -/
def value (m : Machine) (r : Nat) : Nat := (m.reg r).toNat

theorem value_setReg (hx : x < 16) (hr : r < 16) (byte : UInt8) :
    (m.setReg x byte).value r = update m.value x byte.toNat r := by
  rw [value, reg_setReg, Nat.mod_eq_of_lt hr, Nat.mod_eq_of_lt hx, update_apply]
  split <;> rfl

theorem value_setFlag (hr : r < 16) (flag : Bool) :
    (m.setFlag flag).value r = update m.value 15 flag.toNat r := by
  rw [setFlag, value_setReg m (show flagRegister < 16 by decide) hr, toNat_flag]
  rfl

/-- The flag that is written last counts. -/
theorem setFlag_setFlag (first second : Bool) :
    (m.setFlag first).setFlag second = m.setFlag second := by
  simp [setFlag, setReg]

end Machine

namespace Interpreter

variable {s : Interpreter} {w : Word} {i : Instruction} {x : Nat}

/-- The next cycle succeeds and leaves these numbers in the registers and in the index. -/
structure Leaves (s : Interpreter) (registers : Nat → Nat) (index : Nat) : Prop where
  succeeds : s.cycle.result = .ok ()
  registers_eq : ∀ r < 16, s.cycle.state.machine.value r = registers r
  index_eq : s.cycle.state.machine.index.toNat = index

theorem leaves_of_proceed {m : Machine} (hw : s.word? = some w) (hd : decode w = some i)
    (hp : s.perform w i = s.proceed m) : s.Leaves m.value m.index.toNat := by
  have hcycle := cycle_of_effect hw hd hp
  refine ⟨?_, fun r _ => ?_, ?_⟩
  · rw [hcycle]
  · rw [hcycle]
    rfl
  · rw [hcycle]
    rfl

theorem Leaves.congr {first second : Nat → Nat} {index : Nat} (h : s.Leaves first index)
    (heq : ∀ r < 16, first r = second r) : s.Leaves second index :=
  ⟨h.succeeds, fun r hr => (h.registers_eq r hr).trans (heq r hr), h.index_eq⟩

/-- An instruction that writes one register. -/
theorem leaves_setReg {byte : UInt8} (hw : s.word? = some w) (hd : decode w = some i) (hx : x < 16)
    (hp : s.perform w i = s.proceed (s.machine.setReg x byte)) :
    s.Leaves (update s.machine.value x byte.toNat) s.machine.index.toNat :=
  (leaves_of_proceed hw hd hp).congr fun _ hr => s.machine.value_setReg hx hr byte

/-- An instruction that writes a register and then the flag. -/
theorem leaves_setReg_setFlag {byte : UInt8} {flag : Bool} (hw : s.word? = some w)
    (hd : decode w = some i) (hx : x < 16)
    (hp : s.perform w i = s.proceed ((s.machine.setReg x byte).setFlag flag)) :
    s.Leaves (update (update s.machine.value x byte.toNat) 15 flag.toNat)
      s.machine.index.toNat := by
  refine (leaves_of_proceed hw hd hp).congr fun r hr => ?_
  rw [Machine.value_setFlag _ hr, update_apply, update_apply, Machine.value_setReg _ hx hr]

/-- An instruction that writes the flag and then turns what a register holds by that time into
something else. -/
theorem leaves_setFlag_setReg (turn : UInt8 → UInt8) {flag : Bool} (hw : s.word? = some w)
    (hd : decode w = some i) (hx : x < 16)
    (hp : s.perform w i = s.proceed
      ((s.machine.setFlag flag).setReg x (turn ((s.machine.setFlag flag).reg x)))) :
    s.Leaves
      (if x = 15 then update s.machine.value 15 (turn (if flag then 1 else 0)).toNat
        else update (update s.machine.value 15 flag.toNat) x (turn (s.machine.reg x)).toNat)
      s.machine.index.toNat := by
  have hreg : (s.machine.setFlag flag).reg x =
      if x = 15 then (if flag then 1 else 0) else s.machine.reg x := by
    rw [Machine.setFlag, Machine.reg_setReg, Nat.mod_eq_of_lt hx]
    rfl
  refine (leaves_of_proceed hw hd hp).congr fun r hr => ?_
  rw [Machine.value_setReg _ hx hr, update_apply, Machine.value_setFlag _ hr, hreg]
  by_cases h : x = 15
  · -- the flag is overwritten by what it turns into
    by_cases hflag : r = 15 <;> simp [h, hflag]
  · simp [h, update_apply]

/-! ### Bytes as numbers -/

theorem toNat_low_bit (v : UInt8) : (decide (v &&& 1 = 1)).toNat = v.toNat % 2 := by
  have hlow : (v &&& 1).toNat = v.toNat % 2 := Nat.and_one_is_mod v.toNat
  have hiff : v &&& 1 = 1 ↔ v.toNat % 2 = 1 := by
    rw [← UInt8.toNat_inj, hlow]
    rfl
  rcases Nat.mod_two_eq_zero_or_one v.toNat with h | h <;> simp [hiff, h]

theorem toNat_high_bit (v : UInt8) : (decide (128 ≤ v)).toNat = v.toNat / 128 := by
  have hv := v.toNat_lt
  have hiff : 128 ≤ v ↔ 128 ≤ v.toNat := UInt8.le_iff_toNat_le
  rcases Nat.lt_or_ge v.toNat 128 with h | h
  · simp [hiff, Nat.not_le.mpr h, Nat.div_eq_of_lt h]
  · simp only [hiff, h, decide_true, Bool.toNat_true]
    omega

theorem toNat_half (v : UInt8) : (v >>> 1).toNat = v.toNat / 2 := by
  simp [Nat.shiftRight_eq_div_pow]

theorem toNat_double (v : UInt8) : (v <<< 1).toNat = 2 * v.toNat % 256 := by
  simp [Nat.shiftLeft_eq, Nat.mul_comm]

/-- A difference of bytes as a number. -/
theorem toNat_difference (a b : UInt8) : (a - b).toNat = (256 + a.toNat - b.toNat) % 256 := by
  have hb := b.toNat_lt
  rw [UInt8.toNat_sub]
  congr 1
  omega

/-! ### Arithmetic, one instruction after the other -/

theorem leaves_addByte (hw : s.word? = some w) (h : w &&& 0xF000 = 0x7000) :
    s.Leaves (update s.machine.value w.x ((s.machine.value w.x + w.nn.toNat) % 256))
      s.machine.index.toNat := by
  have hd : decode w = some (.addByte w.x w.nn) := decode_of_mask .addByte (by decide) (by decide) h
  have hleaves := leaves_setReg hw hd w.x_lt rfl
  rwa [UInt8.toNat_add] at hleaves

theorem leaves_or (hw : s.word? = some w) (h : w &&& 0xF00F = 0x8001) :
    s.Leaves (update s.machine.value w.x (s.machine.value w.x ||| s.machine.value w.y))
      s.machine.index.toNat := by
  have hd : decode w = some (.or w.x w.y) := decode_of_mask .or (by decide) (by decide) h
  have hleaves := leaves_setReg hw hd w.x_lt rfl
  rwa [UInt8.toNat_or] at hleaves

theorem leaves_and (hw : s.word? = some w) (h : w &&& 0xF00F = 0x8002) :
    s.Leaves (update s.machine.value w.x (s.machine.value w.x &&& s.machine.value w.y))
      s.machine.index.toNat := by
  have hd : decode w = some (.and w.x w.y) := decode_of_mask .and (by decide) (by decide) h
  have hleaves := leaves_setReg hw hd w.x_lt rfl
  rwa [UInt8.toNat_and] at hleaves

theorem leaves_xor (hw : s.word? = some w) (h : w &&& 0xF00F = 0x8003) :
    s.Leaves (update s.machine.value w.x (s.machine.value w.x ^^^ s.machine.value w.y))
      s.machine.index.toNat := by
  have hd : decode w = some (.xor w.x w.y) := decode_of_mask .xor (by decide) (by decide) h
  have hleaves := leaves_setReg hw hd w.x_lt rfl
  rwa [UInt8.toNat_xor] at hleaves

theorem leaves_add (hw : s.word? = some w) (h : w &&& 0xF00F = 0x8004) :
    s.Leaves
      (update (update s.machine.value w.x ((s.machine.value w.x + s.machine.value w.y) % 256)) 15
        (if 255 < s.machine.value w.x + s.machine.value w.y then 1 else 0))
      s.machine.index.toNat := by
  have hd : decode w = some (.add w.x w.y) := decode_of_mask .add (by decide) (by decide) h
  have hleaves := leaves_setReg_setFlag hw hd w.x_lt rfl
  rwa [UInt8.toNat_add, toNat_decide] at hleaves

theorem leaves_subtract (hw : s.word? = some w) (h : w &&& 0xF00F = 0x8005) :
    s.Leaves
      (update (update s.machine.value w.x
        ((256 + s.machine.value w.x - s.machine.value w.y) % 256)) 15
        (if s.machine.value w.y ≤ s.machine.value w.x then 1 else 0))
      s.machine.index.toNat := by
  have hd : decode w = some (.subtract w.x w.y) :=
    decode_of_mask .subtract (by decide) (by decide) h
  have hleaves := leaves_setReg_setFlag hw hd w.x_lt rfl
  simp only [toNat_difference, toNat_decide, UInt8.le_iff_toNat_le] at hleaves
  exact hleaves

theorem leaves_subtractFrom (hw : s.word? = some w) (h : w &&& 0xF00F = 0x8007) :
    s.Leaves
      (update (update s.machine.value w.x
        ((256 + s.machine.value w.y - s.machine.value w.x) % 256)) 15
        (if s.machine.value w.x ≤ s.machine.value w.y then 1 else 0))
      s.machine.index.toNat := by
  have hd : decode w = some (.subtractFrom w.x w.y) :=
    decode_of_mask .subtractFrom (by decide) (by decide) h
  have hleaves := leaves_setReg_setFlag hw hd w.x_lt rfl
  simp only [toNat_difference, toNat_decide, UInt8.le_iff_toNat_le] at hleaves
  exact hleaves

theorem leaves_shiftRight (hw : s.word? = some w) (h : w &&& 0xF00F = 0x8006) :
    s.Leaves
      (if w.x = 15 then update s.machine.value 15 0
        else update (update s.machine.value 15 (s.machine.value w.x % 2)) w.x
          (s.machine.value w.x / 2))
      s.machine.index.toNat := by
  have hd : decode w = some (.shiftRight w.x) :=
    decode_of_mask .shiftRight (by decide) (by decide) h
  have hleaves := leaves_setFlag_setReg (· >>> 1) hw hd w.x_lt rfl
  have hlow := Nat.mod_lt (s.machine.reg w.x).toNat (show 0 < 2 by decide)
  rwa [toNat_half, toNat_half, toNat_flag, toNat_low_bit, Nat.div_eq_of_lt hlow] at hleaves

theorem leaves_shiftLeft (hw : s.word? = some w) (h : w &&& 0xF00F = 0x800E) :
    s.Leaves
      (if w.x = 15 then update s.machine.value 15 (2 * (s.machine.value w.x / 128))
        else update (update s.machine.value 15 (s.machine.value w.x / 128)) w.x
          (2 * s.machine.value w.x % 256))
      s.machine.index.toNat := by
  have hd : decode w = some (.shiftLeft w.x) := decode_of_mask .shiftLeft (by decide) (by decide) h
  have hleaves := leaves_setFlag_setReg (· <<< 1) hw hd w.x_lt rfl
  have hhigh : 2 * ((s.machine.reg w.x).toNat / 128) < 256 := by
    have hv := (s.machine.reg w.x).toNat_lt
    omega
  rwa [toNat_double, toNat_double, toNat_flag, toNat_high_bit, Nat.mod_eq_of_lt hhigh] at hleaves

/-- The index takes in a register that the flag was taken out of. -/
theorem leaves_addIndex (hw : s.word? = some w) (h : w &&& 0xF0FF = 0xF01E) :
    let low := s.machine.index.toNat % 4096
    let added := if w.x = 15 then 0 else s.machine.value w.x
    s.Leaves (update s.machine.value 15 (if 4095 < low + added then 1 else 0))
      ((low + added) % 4096) := by
  intro low added
  have hd : decode w = some (.addIndex w.x) := decode_of_mask .addIndex (by decide) (by decide) h
  have hadded : (s.machine.setFlag false).value w.x = added :=
    (s.machine.value_setFlag w.x_lt false).trans (update_apply ..)
  have hlow : (s.machine.index &&& 0xFFF).toNat = low := toNat_and_mask _
  have hsum : ((s.machine.index &&& 0xFFF) +
      ((s.machine.setFlag false).reg w.x).toUInt16).toNat = low + added := by
    have hfits := sum_byte_fits (and_mask_le s.machine.index) ((s.machine.setFlag false).reg w.x)
    rw [UInt16.toNat_add, Nat.mod_eq_of_lt hfits, hlow, UInt8.toNat_toUInt16]
    exact congrArg (low + ·) hadded
  have hleaves := leaves_of_proceed hw hd (s.addIndex_eq w.x)
  rw [toNat_and_mask, hsum] at hleaves
  refine hleaves.congr fun r hr => ?_
  simp only [UInt16.lt_iff_toNat_lt, hsum, UInt16.reduceToNat, Machine.setFlag_setFlag]
  split
  · exact s.machine.value_setFlag hr true
  · exact s.machine.value_setFlag hr false

/-- Arithmetic is as the numbers in the registers say, whichever of them are one register. The bytes
in the registers are read before the instruction; a register that is named last in an update is
written last. -/
theorem arithmetic_leaves (s : Interpreter) (w : Word) (hw : s.word? = some w) :
    let v := s.machine.value
    let a := v w.x
    let b := v w.y
    let index := s.machine.index.toNat
    (w &&& 0xF000 = 0x7000 → s.Leaves (update v w.x ((a + w.nn.toNat) % 256)) index) ∧
    (w &&& 0xF00F = 0x8001 → s.Leaves (update v w.x (a ||| b)) index) ∧
    (w &&& 0xF00F = 0x8002 → s.Leaves (update v w.x (a &&& b)) index) ∧
    (w &&& 0xF00F = 0x8003 → s.Leaves (update v w.x (a ^^^ b)) index) ∧
    (w &&& 0xF00F = 0x8004 →
      s.Leaves (update (update v w.x ((a + b) % 256)) 15 (if 255 < a + b then 1 else 0)) index) ∧
    (w &&& 0xF00F = 0x8005 →
      s.Leaves (update (update v w.x ((256 + a - b) % 256)) 15 (if b ≤ a then 1 else 0)) index) ∧
    (w &&& 0xF00F = 0x8007 →
      s.Leaves (update (update v w.x ((256 + b - a) % 256)) 15 (if a ≤ b then 1 else 0)) index) ∧
    (w &&& 0xF00F = 0x8006 →
      s.Leaves
        (if w.x = 15 then update v 15 0 else update (update v 15 (a % 2)) w.x (a / 2)) index) ∧
    (w &&& 0xF00F = 0x800E →
      s.Leaves
        (if w.x = 15 then update v 15 (2 * (a / 128))
          else update (update v 15 (a / 128)) w.x (2 * a % 256)) index) ∧
    (w &&& 0xF0FF = 0xF01E →
      if w.x = 15 then s.Leaves (update v 15 0) (index % 4096)
      else s.Leaves (update v 15 (if 4095 < index % 4096 + a then 1 else 0))
        ((index % 4096 + a) % 4096)) := by
  intro v a b index
  refine ⟨leaves_addByte hw, leaves_or hw, leaves_and hw, leaves_xor hw, leaves_add hw,
    leaves_subtract hw, leaves_subtractFrom hw, leaves_shiftRight hw, leaves_shiftLeft hw, ?_⟩
  intro h
  have hleaves := leaves_addIndex hw h
  have hlow : ¬ 4095 < s.machine.index.toNat % 4096 := by
    have hlt := Nat.mod_lt s.machine.index.toNat (show 0 < 4096 by decide)
    omega
  by_cases hx : w.x = 15
  · simp only [hx, if_true, Nat.add_zero, Nat.mod_mod, if_neg hlow] at hleaves ⊢
    exact hleaves
  · simp only [hx, if_false] at hleaves ⊢
    exact hleaves

/-- The index is at the end of the address space and the flag register holds all bits, before an
addition of that register to the index. -/
def highIndex : Interpreter :=
  let blank := Interpreter.new {} .zeros
  { blank with
    machine := { blank.machine with
      memory := Memory.zero.writeAll 0x200 [0xFF, 0x1E]
      registers := Vector.replicate 16 0xFF
      index := 0xFFFF } }

theorem highIndex_arithmetic :
    highIndex.word? = some 0xFF1E ∧
      highIndex.Leaves (update highIndex.machine.value 15 0) 4095 := by
  have hw : highIndex.word? = some 0xFF1E := by decide +kernel
  obtain ⟨-, -, -, -, -, -, -, -, -, hindex⟩ := arithmetic_leaves highIndex 0xFF1E hw
  have hx : (0xFF1E : Word).x = 15 := by decide
  have hleaves := hindex (by decide)
  rw [if_pos hx] at hleaves
  exact ⟨hw, hleaves⟩

end Interpreter

end ChipEight
