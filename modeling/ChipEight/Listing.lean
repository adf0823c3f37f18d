import ChipEight.Instruction.Decode
import ChipEight.Instruction.Mnemonic

/-!
Disassembly listings. Bytes are taken in pairs from the left; a pair that decodes is an
instruction, another pair is a data word, and a single byte at the end is a data byte. Addresses
count on without wrapping.
-/

namespace ChipEight

/-- A line of a listing, with the address of its first byte. -/
inductive ListingLine where
  | instruction (address : Nat) (word : Word) (decoded : Instruction)
  | dataWord (address : Nat) (word : Word)
  | dataByte (address : Nat) (byte : UInt8)
  deriving DecidableEq

/-- The text of a line: address, raw bytes, and what they stand for. -/
def ListingLine.text : ListingLine → String
  | .instruction address word decoded =>
    Text.hex 3 address ++ ": " ++ Text.hex 4 word.toNat ++ "  " ++ decoded.mnemonic
  | .dataWord address word =>
    Text.hex 3 address ++ ": " ++ Text.hex 4 word.toNat ++ "  DW   " ++ Text.hexLiteral 4 word.toNat
  | .dataByte address byte =>
    Text.hex 3 address ++ ": " ++ Text.hex 2 byte.toNat ++ "    DB   "
      ++ Text.hexLiteral 2 byte.toNat

/-- The big-endian word of two bytes. -/
def Word.ofBytes (high low : UInt8) : Word := UInt16.ofNat (high.toNat * 0x100 + low.toNat)

namespace Listing

/-- The line of the word at `address`. -/
def wordLine (address : Nat) (word : Word) : ListingLine :=
  match decode word with
  | some decoded => .instruction address word decoded
  | none => .dataWord address word

/-- The lines of `code`, the first at `address`. -/
def lines (address : Nat) : List UInt8 → List ListingLine
  | [] => []
  | [byte] => [.dataByte address byte]
  | high :: low :: rest => wordLine address (Word.ofBytes high low) :: lines (address + 2) rest

/-- The listing of `code`, whose first byte is at `origin`; every line ends with a newline. -/
def text (code : List UInt8) (origin : UInt16) : String :=
  String.join ((lines origin.toNat code).map fun line => line.text ++ "\n")

end Listing

end ChipEight
