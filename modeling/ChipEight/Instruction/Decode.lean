import ChipEight.Instruction.Basic

/-!
Reading instruction words. A list of patterns says which bits of a word name its family; the
first pattern that fits decides, so the two exact patterns `00E0` and `00EE` stand before `0nnn`.
-/

namespace ChipEight

/-- A word has the family if its bits under `mask` are `value`. -/
structure Pattern where
  mask : Word
  value : Word
  family : Family
  deriving DecidableEq

/-- Whether `w` has the bits that the pattern asks for. -/
def Pattern.fits (p : Pattern) (w : Word) : Bool := w &&& p.mask == p.value

/-- The patterns in the order in which they are tried. -/
def patterns : List Pattern := [
  ⟨0xFFFF, 0x00E0, .clear⟩, ⟨0xFFFF, 0x00EE, .ret⟩, ⟨0xF000, 0x0000, .native⟩,
  ⟨0xF000, 0x1000, .jump⟩, ⟨0xF000, 0x2000, .call⟩,
  ⟨0xF000, 0x3000, .skipIfByte⟩, ⟨0xF000, 0x4000, .skipUnlessByte⟩, ⟨0xF00F, 0x5000, .skipIfSame⟩,
  ⟨0xF000, 0x6000, .setByte⟩, ⟨0xF000, 0x7000, .addByte⟩,
  ⟨0xF00F, 0x8000, .copy⟩, ⟨0xF00F, 0x8001, .or⟩, ⟨0xF00F, 0x8002, .and⟩, ⟨0xF00F, 0x8003, .xor⟩,
  ⟨0xF00F, 0x8004, .add⟩, ⟨0xF00F, 0x8005, .subtract⟩, ⟨0xF00F, 0x8006, .shiftRight⟩,
  ⟨0xF00F, 0x8007, .subtractFrom⟩, ⟨0xF00F, 0x800E, .shiftLeft⟩, ⟨0xF00F, 0x9000, .skipUnlessSame⟩,
  ⟨0xF000, 0xA000, .setIndex⟩, ⟨0xF000, 0xB000, .jumpOffset⟩, ⟨0xF000, 0xC000, .random⟩,
  ⟨0xF000, 0xD000, .draw⟩, ⟨0xF0FF, 0xE09E, .skipIfKey⟩, ⟨0xF0FF, 0xE0A1, .skipUnlessKey⟩,
  ⟨0xF0FF, 0xF007, .getDelay⟩, ⟨0xF0FF, 0xF00A, .awaitKey⟩, ⟨0xF0FF, 0xF015, .setDelay⟩,
  ⟨0xF0FF, 0xF018, .setSound⟩, ⟨0xF0FF, 0xF01E, .addIndex⟩, ⟨0xF0FF, 0xF029, .glyph⟩,
  ⟨0xF0FF, 0xF033, .decimal⟩, ⟨0xF0FF, 0xF055, .store⟩, ⟨0xF0FF, 0xF065, .load⟩]

/-- The family of the first pattern in `table` that fits. -/
def firstFamily? (table : List Pattern) (w : Word) : Option Family :=
  (table.find? (·.fits w)).map (·.family)

/-- The family of a word, if it has one. -/
def family? (w : Word) : Option Family := firstFamily? patterns w

/-- The instruction of the family with the operands that stand in `w`. -/
def Family.instruction (w : Word) : Family → Instruction
  | .native => .native w.nnn
  | .clear => .clear
  | .ret => .ret
  | .jump => .jump w.nnn
  | .call => .call w.nnn
  | .skipIfByte => .skipIfByte w.x w.nn
  | .skipUnlessByte => .skipUnlessByte w.x w.nn
  | .skipIfSame => .skipIfSame w.x w.y
  | .skipUnlessSame => .skipUnlessSame w.x w.y
  | .setByte => .setByte w.x w.nn
  | .addByte => .addByte w.x w.nn
  | .copy => .copy w.x w.y
  | .or => .or w.x w.y
  | .and => .and w.x w.y
  | .xor => .xor w.x w.y
  | .add => .add w.x w.y
  | .subtract => .subtract w.x w.y
  | .shiftRight => .shiftRight w.x
  | .subtractFrom => .subtractFrom w.x w.y
  | .shiftLeft => .shiftLeft w.x
  | .setIndex => .setIndex w.nnn
  | .jumpOffset => .jumpOffset w.nnn
  | .random => .random w.x w.nn
  | .draw => .draw w.x w.y w.n
  | .skipIfKey => .skipIfKey w.x
  | .skipUnlessKey => .skipUnlessKey w.x
  | .getDelay => .getDelay w.x
  | .awaitKey => .awaitKey w.x
  | .setDelay => .setDelay w.x
  | .setSound => .setSound w.x
  | .addIndex => .addIndex w.x
  | .glyph => .glyph w.x
  | .decimal => .decimal w.x
  | .store => .store w.x
  | .load => .load w.x

/-- The instruction that a word stands for, if any pattern fits it. -/
def decode (w : Word) : Option Instruction := (family? w).map (·.instruction w)

end ChipEight
