import ChipEight.Text.Hex
import ChipEight.Text.Number
import ChipEight.Text.Quoted

/-!
The text of a memory address: decimal, or hexadecimal after `0x` or `0X`, at most `0xFFF`.
-/

namespace ChipEight

/-- Why a text is no memory address. -/
inductive AddressError where
  | malformed (text : String) (cause : Text.NumberError)
  | pastMemory (value : Nat)
  deriving DecidableEq

/-- The wording of an address error. -/
def AddressError.message : AddressError → String
  | .malformed text cause => Text.quoted text ++ " is not an address: " ++ cause.message
  | .pastMemory value => Text.hexLiteral 0 value ++ " is past the end of memory"

namespace Address

/-- Reads the digits of an address: a 16-bit number, hexadecimal if a marker stands before it. -/
def readNumber : List Char → Except Text.NumberError Nat
  | '0' :: 'x' :: digits => Text.readUnsigned 16 0x10000 digits
  | '0' :: 'X' :: digits => Text.readUnsigned 16 0x10000 digits
  | digits => Text.readUnsigned 10 0x10000 digits

/-- Reads a memory address. -/
def parse (text : String) : Except AddressError UInt16 :=
  match readNumber text.toList with
  | .error cause => .error (.malformed text cause)
  | .ok value => if value ≤ 0xFFF then .ok (UInt16.ofNat value) else .error (.pastMemory value)

end Address

end ChipEight
