import ChipEight.Instruction.Basic
import ChipEight.Text.Hex

/-!
The assembly text of an instruction: a stem of up to four letters, padded to five columns if
operands follow, and the operands with commas between them.
-/

namespace ChipEight

/-- An operand as the text shows it. -/
inductive Operand where
  | register (number : Nat)
  | byte (value : UInt8)
  | address (value : UInt16)
  | count (value : UInt8)
  | index
  | atIndex
  | delayTimer
  | soundTimer
  | key
  | glyph
  | decimal
  deriving DecidableEq

/-- The text of an operand. -/
def Operand.text : Operand → String
  | .register number => "V" ++ Text.hex 0 number
  | .byte value => Text.hexLiteral 2 value.toNat
  | .address value => Text.hexLiteral 3 value.toNat
  | .count value => toString value.toNat
  | .index => "I"
  | .atIndex => "[I]"
  | .delayTimer => "DT"
  | .soundTimer => "ST"
  | .key => "K"
  | .glyph => "F"
  | .decimal => "B"

/-- The number of a register operand. -/
def Operand.register? : Operand → Option Nat
  | .register number => some number
  | _ => none

namespace Instruction

/-- The stem of an instruction's text. -/
def stem : Instruction → String
  | .native _ => "SYS"
  | .clear => "CLS"
  | .ret => "RET"
  | .jump _ | .jumpOffset _ => "JP"
  | .call _ => "CALL"
  | .skipIfByte _ _ | .skipIfSame _ _ => "SE"
  | .skipUnlessByte _ _ | .skipUnlessSame _ _ => "SNE"
  | .setByte _ _ | .copy _ _ | .setIndex _ | .getDelay _ | .awaitKey _ | .setDelay _ | .setSound _
  | .glyph _ | .decimal _ | .store _ | .load _ => "LD"
  | .addByte _ _ | .add _ _ | .addIndex _ => "ADD"
  | .or _ _ => "OR"
  | .and _ _ => "AND"
  | .xor _ _ => "XOR"
  | .subtract _ _ => "SUB"
  | .shiftRight _ => "SHR"
  | .subtractFrom _ _ => "SUBN"
  | .shiftLeft _ => "SHL"
  | .random _ _ => "RND"
  | .draw _ _ _ => "DRW"
  | .skipIfKey _ => "SKP"
  | .skipUnlessKey _ => "SKNP"

/-- The operands of an instruction in the order of its text. -/
def operands : Instruction → List Operand
  | .clear | .ret => []
  | .native nnn | .jump nnn | .call nnn => [.address nnn]
  | .skipIfByte x nn | .skipUnlessByte x nn | .setByte x nn | .addByte x nn | .random x nn =>
    [.register x, .byte nn]
  | .skipIfSame x y | .skipUnlessSame x y | .copy x y | .or x y | .and x y | .xor x y | .add x y
  | .subtract x y | .subtractFrom x y => [.register x, .register y]
  | .shiftRight x | .shiftLeft x | .skipIfKey x | .skipUnlessKey x => [.register x]
  | .setIndex nnn => [.index, .address nnn]
  | .jumpOffset nnn => [.register 0, .address nnn]
  | .draw x y n => [.register x, .register y, .count n]
  | .getDelay x => [.register x, .delayTimer]
  | .awaitKey x => [.register x, .key]
  | .setDelay x => [.delayTimer, .register x]
  | .setSound x => [.soundTimer, .register x]
  | .addIndex x => [.index, .register x]
  | .glyph x => [.glyph, .register x]
  | .decimal x => [.decimal, .register x]
  | .store x => [.atIndex, .register x]
  | .load x => [.register x, .atIndex]

/-- The registers that an instruction names. -/
def registers (i : Instruction) : List Nat := i.operands.filterMap Operand.register?

/-- A stem and operands in columns; a stem without operands stands alone. -/
def layout (stem : String) : List Operand → String
  | [] => stem
  | first :: rest =>
    String.ofList (stem.toList.rightpad 5 ' ')
      ++ ", ".intercalate ((first :: rest).map Operand.text)

/-- The assembly text of an instruction. -/
def mnemonic (i : Instruction) : String := layout i.stem i.operands

end Instruction

end ChipEight
