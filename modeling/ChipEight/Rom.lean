import ChipEight.Files
import ChipEight.Machine.Basic

/-!
Program images: what a file must hold to be a program.
-/

namespace ChipEight

/-- Why there is no program image. -/
inductive RomError where
  /-- The file could not be read, for this reason. -/
  | unreadable (reason : String)
  | empty
  | tooLarge (size capacity : Nat)
  deriving DecidableEq

/-- The wording of an image error. -/
def RomError.message : RomError → String
  | .unreadable reason => "error reading ROM: " ++ reason
  | .empty => "ROM is empty"
  | .tooLarge size capacity =>
    "ROM size incorrect. Max size is " ++ toString capacity ++ " bytes but " ++ toString size
      ++ " bytes were provided"

/-- A program image: at least one byte, and no more than fit into memory. -/
structure Rom where
  code : List UInt8
  deriving DecidableEq

/-- The image of some bytes. -/
def Rom.ofBytes (code : List UInt8) : Except RomError Rom :=
  if code.isEmpty then .error .empty
  else if programCapacity < code.length then .error (.tooLarge code.length programCapacity)
  else .ok ⟨code⟩

/-- The image that a file holds. -/
def Rom.ofFile (content : Except FileError (List UInt8)) : Except RomError Rom :=
  match content with
  | .ok code => Rom.ofBytes code
  | .error e => .error (.unreadable e.message)

end ChipEight
