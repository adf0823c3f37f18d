import ChipEight.Machine.Basic

/-!
Memory as a list of bytes. A program that fits is written as one stretch, and the bytes before and
behind it stay.
-/

namespace ChipEight.Memory

theorem toList_write (m : Memory) (address : UInt16) (byte : UInt8) :
    (m.write address byte).toList = m.toList.set (cell address).val byte := by
  rw [write, Vector.toList_set]

/-- Bytes that do not pass the end of memory stand in it one behind the other. -/
theorem toList_writeAll (m : Memory) (address : UInt16) (bytes : List UInt8)
    (hfit : address.toNat + bytes.length ≤ 4096) :
    (m.writeAll address bytes).toList =
      m.toList.take address.toNat ++ bytes ++ m.toList.drop (address.toNat + bytes.length) := by
  induction bytes generalizing m address with
  | nil => simp [writeAll]
  | cons byte rest ih =>
    rw [List.length_cons] at hfit
    have hnext : (address + 1).toNat = address.toNat + 1 := by
      rw [UInt16.toNat_add]
      simp only [UInt16.reduceToNat]
      omega
    have hcell : (cell address).val = address.toNat := by
      rw [cell, Fin.val_ofNat, Nat.mod_eq_of_lt (by omega)]
    have hlength : m.toList.length = 4096 := Vector.length_toList
    rw [writeAll, ih _ _ (by omega), toList_write, hcell, hnext, List.take_add_one,
      List.take_set_of_le (Nat.le_refl _), List.drop_set_of_lt (by omega),
      List.getElem?_set_self (by omega)]
    simp [Nat.add_assoc, Nat.add_comm 1]

/-- The bytes of memory with the font and a program in it. -/
def image (program : List UInt8) : List UInt8 :=
  Font.bytes ++ List.replicate (0x200 - Font.bytes.length) 0 ++ program ++
    List.replicate (programCapacity - program.length) 0

theorem length_font : Font.bytes.length = 80 := rfl

/-- At the start memory holds the font and zeros behind it. -/
theorem toList_initial :
    Machine.initial.memory.toList = Font.bytes ++ List.replicate (4096 - Font.bytes.length) 0 := by
  rw [Machine.initial, toList_writeAll _ _ _ (by decide), zero, Vector.toList_replicate,
    show Font.address.toNat = 0 from rfl, List.take_zero, List.nil_append, List.drop_replicate,
    Nat.zero_add]

/-- A program that fits is loaded between the font and the end of memory, with zeros around. -/
theorem toList_loaded {program : List UInt8} (hfit : program.length ≤ programCapacity) :
    (Machine.initial.memory.writeAll loadAddress program).toList = image program := by
  have hstart : loadAddress.toNat = 0x200 := rfl
  have hcapacity : programCapacity = 4096 - 0x200 := rfl
  have hbelow : (Font.bytes ++ List.replicate (4096 - Font.bytes.length) (0 : UInt8)).take 0x200 =
      Font.bytes ++ List.replicate (0x200 - Font.bytes.length) 0 := by
    rw [List.take_append, List.take_of_length_le (by decide), List.take_replicate]
    rfl
  have habove : (Font.bytes ++ List.replicate (4096 - Font.bytes.length) (0 : UInt8)).drop
      (0x200 + program.length) = List.replicate (programCapacity - program.length) 0 := by
    rw [List.drop_append, List.drop_eq_nil_of_le (by rw [length_font]; omega), List.nil_append,
      List.drop_replicate, length_font]
    congr 1
    omega
  rw [toList_writeAll _ _ _ (by omega), toList_initial, hstart, hbelow, habove, image]

end ChipEight.Memory
