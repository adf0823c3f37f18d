/-!
Reading unsigned numbers. A text is an optional `+` and then one or more digits of the radix;
leading zeros are free, and the value must stay below a limit. Digits are judged from the left,
so an excess found early hides a bad digit behind it.
-/

namespace ChipEight.Text

/-- Why a text is no number. -/
inductive NumberError where
  | empty
  | invalidDigit
  | tooLarge
  deriving DecidableEq

/-- The wording of a number error. -/
def NumberError.message : NumberError → String
  | .empty => "cannot parse integer from empty string"
  | .invalidDigit => "invalid digit found in string"
  | .tooLarge => "number too large to fit in target type"

/-- The value of an ASCII letter or digit read as a digit, in either case. -/
def charValue? (c : Char) : Option Nat :=
  if '0' ≤ c ∧ c ≤ '9' then some (c.toNat - '0'.toNat)
  else if 'a' ≤ c ∧ c ≤ 'z' then some (c.toNat - 'a'.toNat + 10)
  else if 'A' ≤ c ∧ c ≤ 'Z' then some (c.toNat - 'A'.toNat + 10)
  else none

/-- The value of `c` as a digit of `radix`. -/
def digitValue? (radix : Nat) (c : Char) : Option Nat :=
  (charValue? c).filter (· < radix)

/-- Reads digits onto `value`, which stays below `limit`. -/
def readDigits (radix limit : Nat) : Nat → List Char → Except NumberError Nat
  | value, [] => .ok value
  | value, c :: rest =>
    match digitValue? radix c with
    | none => .error .invalidDigit
    | some digit =>
      if value * radix + digit < limit then readDigits radix limit (value * radix + digit) rest
      else .error .tooLarge

/-- Reads an unsigned number below `limit`. -/
def readUnsigned (radix limit : Nat) : List Char → Except NumberError Nat
  | [] => .error .empty
  | ['+'] => .error .invalidDigit
  | '+' :: digits => readDigits radix limit 0 digits
  | digits => readDigits radix limit 0 digits

end ChipEight.Text
