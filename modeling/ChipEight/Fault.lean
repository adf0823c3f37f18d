import ChipEight.Instruction.Basic
import ChipEight.Text.Hex

/-!
What can go wrong, and how it is worded. A fault belongs to the running program; the other errors
belong to whoever hands over a program or a key.
-/

namespace ChipEight

/-- A condition that stops a program, with the address of the failing instruction. -/
inductive Fault where
  | fetch (pc : UInt16)
  | unknownInstruction (pc : UInt16) (word : Word)
  | stackOverflow (pc : UInt16) (word : Word)
  | stackUnderflow (pc : UInt16) (word : Word)
  deriving DecidableEq

namespace Fault

/-- The address of the failing instruction. -/
def pc : Fault → UInt16
  | .fetch pc | .unknownInstruction pc _ | .stackOverflow pc _ | .stackUnderflow pc _ => pc

/-- The failing word, if one could be fetched. -/
def word? : Fault → Option Word
  | .fetch _ => none
  | .unknownInstruction _ word | .stackOverflow _ word | .stackUnderflow _ word => some word

/-- The wording of a fault. -/
def message : Fault → String
  | .fetch pc => "program counter " ++ Text.hexLiteral 3 pc.toNat ++ " is outside addressable memory"
  | .unknownInstruction pc word =>
    "unknown instruction " ++ Text.hexLiteral 4 word.toNat ++ " at " ++ Text.hexLiteral 3 pc.toNat
  | .stackOverflow pc word =>
    "call stack overflow at " ++ Text.hexLiteral 3 pc.toNat ++ " ("
      ++ Text.hexLiteral 4 word.toNat ++ ")"
  | .stackUnderflow pc word =>
    "return with an empty call stack at " ++ Text.hexLiteral 3 pc.toNat ++ " ("
      ++ Text.hexLiteral 4 word.toNat ++ ")"

end Fault

/-- A program has `size` bytes where `capacity` fit above the load address. -/
structure LoadError where
  size : Nat
  capacity : Nat
  deriving DecidableEq

/-- The wording of a load error. -/
def LoadError.message (e : LoadError) : String :=
  "program is " ++ toString e.size ++ " bytes but only " ++ toString e.capacity
    ++ " bytes fit above 0x200"

/-- The keypad has no key of this number. -/
structure KeyError where
  key : Nat
  deriving DecidableEq

/-- The wording of a key error. -/
def KeyError.message (e : KeyError) : String :=
  "no key " ++ Text.hexLiteral 0 e.key ++ " on the keypad, keys are 0x0..=0xF"

end ChipEight
