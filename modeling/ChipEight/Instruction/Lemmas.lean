import ChipEight.Instruction.Decode
import ChipEight.Instruction.Mnemonic

/-!
The registers of a decoded word. They come from single hexadecimal digits, so each of them is one
of the sixteen.
-/

namespace ChipEight

theorem registers_lt_of_decode {w : Word} {i : Instruction} (h : decode w = some i) :
    ∀ x ∈ i.registers, x < 16 := by
  simp only [decode, Option.map_eq_some_iff] at h
  obtain ⟨f, -, rfl⟩ := h
  have hx := w.x_lt
  have hy := w.y_lt
  cases f <;>
    simp [Family.instruction, Instruction.registers, Instruction.operands, Operand.register?, hx, hy]

end ChipEight
