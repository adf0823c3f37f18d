/-!
The built-in font: sixteen glyphs of five rows, one for each hexadecimal digit, from address zero.
A glyph is four cells wide and stands in the high half of its bytes.
-/

namespace ChipEight.Font

/-- The address of the first glyph. -/
def address : UInt16 := 0

/-- The rows of a glyph. -/
def glyphRows : UInt16 := 5

/-- The glyphs of `0` to `F`. -/
def bytes : List UInt8 := [
  0xF0, 0x90, 0x90, 0x90, 0xF0,
  0x20, 0x60, 0x20, 0x20, 0x70,
  0xF0, 0x10, 0xF0, 0x80, 0xF0,
  0xF0, 0x10, 0xF0, 0x10, 0xF0,
  0x90, 0x90, 0xF0, 0x10, 0x10,
  0xF0, 0x80, 0xF0, 0x10, 0xF0,
  0xF0, 0x80, 0xF0, 0x90, 0xF0,
  0xF0, 0x10, 0x20, 0x40, 0x40,
  0xF0, 0x90, 0xF0, 0x90, 0xF0,
  0xF0, 0x90, 0xF0, 0x10, 0xF0,
  0xF0, 0x90, 0xF0, 0x90, 0x90,
  0xE0, 0x90, 0xE0, 0x90, 0xE0,
  0xF0, 0x80, 0x80, 0x80, 0xF0,
  0xE0, 0x90, 0x90, 0x90, 0xE0,
  0xF0, 0x80, 0xF0, 0x80, 0xF0,
  0xF0, 0x80, 0xF0, 0x80, 0x80]

/-- The address of the glyph for the low four bits of `digit`. -/
def glyphAddress (digit : UInt8) : UInt16 := address + (digit &&& 0x0F).toUInt16 * glyphRows

end ChipEight.Font
