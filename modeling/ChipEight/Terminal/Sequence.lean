import ChipEight.Terminal.Key
import ChipEight.Text.Number

/-!
Control sequences: what stands behind `ESC [`. A sequence of a key ends with a letter or `~` behind
numbers in fields, `;` between fields and `:` within them. Keys with a character come as its code
point before `u`. Pasted text stands between two sequences and is taken as a whole.
-/

namespace ChipEight.Terminal

/-- What bytes amount to, as far as they are typed. -/
inductive Reading where
  /-- They begin something that needs more bytes. -/
  | unfinished
  /-- Nothing begins like this. -/
  | unknown
  | input (input : Input)
  deriving DecidableEq

namespace Sequence

/-- The text of some bytes, if they are one. -/
def text? (bytes : List UInt8) : Option String := String.fromUTF8? ⟨bytes.toArray⟩

/-- The key of a character. -/
def charCode (c : Char) : KeyCode :=
  if c = '\x1b' then .escape else if c = '\r' ∨ c = '\t' ∨ c = '\x7f' then .other else .char c

/-- A decimal number below `limit`. -/
def number? (limit : Nat) (text : String) : Option Nat :=
  (Text.readUnsigned 10 limit text.toList).toOption

/-- The modifiers of a number, one more than their bits. -/
def modifiersOf (number : Nat) : Modifiers :=
  let bits := number - 1
  ⟨bits.testBit 0, bits.testBit 1, bits.testBit 2⟩

/-- The action of a number. -/
def actionOf : Option Nat → KeyAction
  | some 2 => .again
  | some 3 => .release
  | _ => .press

/-- Modifiers and action of a field such as `1:3`. Without good modifiers the field counts for
nothing; an action that is missing or bad is a press. -/
def modifierField (field : Option String) : Modifiers × KeyAction :=
  match ((field.getD "").splitOn ":").map (number? 0x100) with
  | some modifiers :: rest => (modifiersOf modifiers, actionOf rest.head?.join)
  | _ => ({}, .press)

/-- The input of a key with the modifiers and the action in the second field. -/
def keyWith (code : KeyCode) (fields : List String) : Reading :=
  let (modifiers, action) := modifierField fields[1]?
  .input (.key ⟨code, action, modifiers⟩)

/-- The key of a letter that ends a sequence. -/
def letteredCode? : Char → Option KeyCode
  | 'A' | 'B' | 'C' | 'D' | 'F' | 'H' => some .other
  | 'P' => some (.function 1)
  | 'Q' => some (.function 2)
  | 'S' => some (.function 4)
  | _ => none

/-- The key of a number before `~`. -/
def numberedCode? (n : Nat) : Option KeyCode :=
  if 1 ≤ n ∧ n ≤ 8 then some .other
  else if 11 ≤ n ∧ n ≤ 15 then some (.function (n - 10))
  else if 17 ≤ n ∧ n ≤ 21 then some (.function (n - 11))
  else if 23 ≤ n ∧ n ≤ 26 then some (.function (n - 12))
  else if 28 ≤ n ∧ n ≤ 29 then some (.function (n - 15))
  else if 31 ≤ n ∧ n ≤ 34 then some (.function (n - 17))
  else none

/-- The characters of a number pad in the order of their private code points. -/
def padChars : List Char := "0123456789./*-+\r=,".toList

/-- The key of a private code point: number pad, function and modifier keys, and keys of no
interest. -/
def privateCode? (n : Nat) : Option KeyCode :=
  if 57376 ≤ n ∧ n ≤ 57398 then some (.function (n - 57363))
  else if 57399 ≤ n ∧ n ≤ 57416 then padChars[n - 57399]?.map charCode
  else if 57358 ≤ n ∧ n ≤ 57363 ∨ 57417 ≤ n ∧ n ≤ 57454 then some .other
  else none

/-- The character of a code point. -/
def char? (n : Nat) : Option Char := if n.isValidChar then some (Char.ofNat n) else none

/-- A modifier key is down itself. -/
def withModifierKey (n : Nat) (m : Modifiers) : Modifiers where
  shift := m.shift || n == 57441 || n == 57447
  alt := m.alt || n == 57443 || n == 57449
  control := m.control || n == 57442 || n == 57448

/-- The input of a code point. Another one behind it is what the key gives with the shift key. -/
def encodedKey (fields : List String) : Reading :=
  let (given, action) := modifierField fields[1]?
  match ((fields.head?.getD "").splitOn ":").map (number? 0x100000000) with
  | some n :: rest =>
    let modifiers := withModifierKey n given
    match privateCode? n <|> (char? n).map charCode with
    | none => .unknown
    | some code =>
      match if modifiers.shift then rest.head?.join.bind char? else none with
      | some shifted => .input (.key ⟨.char shifted, action, { modifiers with shift := false }⟩)
      | none => .input (.key ⟨code, action, modifiers⟩)
  | _ => .unknown

/-- The input of a number before `~`. -/
def numberedKey (fields : List String) : Reading :=
  match (fields.head?.bind (number? 0x100)).bind numberedCode? with
  | some code => keyWith code fields
  | none => .unknown

/-- The input of fields and the character that ends them. Reports of the mouse and the cursor are
of no interest. -/
def ofFields (fields : List String) : Char → Reading
  | 'u' => encodedKey fields
  | '~' => numberedKey fields
  | 'M' | 'R' => .input .other
  | last =>
    match letteredCode? last with
    | some code => keyWith code fields
    | none => .unknown

/-- What opens pasted text, behind `ESC [`. -/
def pasteStart : List UInt8 := "200~".toUTF8.toList

/-- What closes pasted text. -/
def pasteEnd : List UInt8 := "\x1b[201~".toUTF8.toList

/-- Whether a byte ends a sequence with fields. -/
def isLast (byte : UInt8) : Bool := 0x40 ≤ byte && byte ≤ 0x7E

/-- A sequence that begins with a number. -/
def parameterized (bytes : List UInt8) : Reading :=
  match bytes.getLast? with
  | none => .unfinished
  | some last =>
    if !isLast last then .unfinished
    else if pasteStart.isPrefixOf bytes then
      if pasteEnd.isSuffixOf bytes then .input .other else .unfinished
    else
      match text? bytes.dropLast with
      | some text => ofFields (text.splitOn ";") (Char.ofUInt8 last)
      | none => .unknown

/-- A sequence that begins with `?`: an answer of the terminal about itself. -/
def terminalAnswer (rest : List UInt8) : Reading :=
  match rest.getLast?.map Char.ofUInt8 with
  | some 'u' => if 2 ≤ rest.length then .input .other else .unfinished
  | some 'c' => .input .other
  | _ => .unfinished

/-- A sequence that begins with `<`: a report of the mouse. -/
def mouseReport (rest : List UInt8) : Reading :=
  match rest.getLast?.map Char.ofUInt8 with
  | some 'm' | some 'M' => .input .other
  | _ => .unfinished

/-- A sequence that begins with another `[`: one of the first five function keys. -/
def bracketed : List UInt8 → Reading
  | [] => .unfinished
  | byte :: _ =>
    if 0x41 ≤ byte ∧ byte ≤ 0x45 then
      .input (.key ⟨.function (byte.toNat - 0x40), .press, {}⟩)
    else .unknown

/-- What the bytes behind `ESC [` amount to. -/
def read : List UInt8 → Reading
  | [] => .unfinished
  | first :: rest =>
    if 0x30 ≤ first ∧ first ≤ 0x39 then parameterized (first :: rest)
    else
      match Char.ofUInt8 first with
      | '[' => bracketed rest
      | '?' => terminalAnswer rest
      | '<' => mouseReport rest
      | 'M' => if 3 ≤ rest.length then .input .other else .unfinished
      | 'I' | 'O' => .input .other
      | 'Z' => .input (.key ⟨.other, .press, { shift := true }⟩)
      | c =>
        match letteredCode? c with
        | some code => .input (.key ⟨code, .press, {}⟩)
        | none => .unknown

end Sequence

end ChipEight.Terminal
