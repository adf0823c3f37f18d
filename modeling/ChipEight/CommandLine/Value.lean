import ChipEight.CommandLine.Basic
import ChipEight.Text.Number

/-!
Values on command lines: how the text of an option becomes a setting.
-/

namespace ChipEight.CommandLine

/-- A path is any text but the empty one. -/
def path (value : String) : Except UsageError String :=
  if value.isEmpty then .error .missingValue else .ok value

/-- An unsigned number of 64 bits. -/
def number64 (value : String) : Except UsageError UInt64 :=
  match Text.readUnsigned 10 0x10000000000000000 value.toList with
  | .ok n => .ok (UInt64.ofNat n)
  | .error _ => .error .malformedValue

/-- Reads an unsigned number below `limit` that may have a sign; behind a minus only zero fits. -/
def readSigned (limit : Nat) : List Char → Except Text.NumberError Nat
  | '-' :: digit :: digits => Text.readDigits 10 1 0 (digit :: digits)
  | text => Text.readUnsigned 10 limit text

/-- An unsigned number of 32 bits, with or without a sign. -/
def number32 (value : String) : Except UsageError UInt32 :=
  match readSigned 0x100000000 value.toList with
  | .ok n => .ok (UInt32.ofNat n)
  | .error _ => .error .malformedValue

end ChipEight.CommandLine
