import ChipEight.Terminal.Sequence

/-!
What typed bytes stand for. Bytes are taken one by one: each is added to those that wait, and as
soon as they amount to an input, or to nothing that could become one, none waits any more. An escape
character is the escape key unless more bytes came with it.
-/

namespace ChipEight.Terminal.Keyboard

/-- How many bytes a character has that begins with `first`. -/
def charLength? (first : UInt8) : Option Nat :=
  if first < 0x80 then some 1
  else if first < 0xC0 then none
  else if first < 0xE0 then some 2
  else if first < 0xF0 then some 3
  else if first < 0xF8 then some 4
  else none

/-- Whether a byte continues a character. -/
def isContinuation (byte : UInt8) : Bool := byte &&& 0xC0 == 0x80

/-- A character in UTF-8. It tells by itself whether it is a capital. -/
def readChar (bytes : List UInt8) : Reading :=
  match (Sequence.text? bytes).bind (·.toList.head?) with
  | some c => .input (.key ⟨.char c, .press, {}⟩)
  | none =>
    match bytes.head?.bind charLength? with
    | some length =>
      if bytes.length < length && bytes.tail.all isContinuation then .unfinished else .unknown
    | none => .unknown

/-- The input of a key with the control key. -/
def withControl (code : UInt8) : Reading :=
  .input (.key ⟨.char (Char.ofUInt8 code), .press, { control := true }⟩)

/-- What bytes without an escape character amount to: control characters are letters, digits or the
space with the control key. -/
def readPlain : List UInt8 → Reading
  | [] => .unfinished
  | first :: rest =>
    if first = 0x0D ∨ first = 0x09 ∨ first = 0x7F then .input (.key ⟨.other, .press, {}⟩)
    else if first = 0x00 then withControl 0x20
    else if first ≤ 0x1A then withControl (first + 0x60)
    else if 0x1C ≤ first ∧ first ≤ 0x1F then withControl (first + 0x18)
    else readChar (first :: rest)

/-- The same with the alternate key. -/
def withAlt : Reading → Reading
  | .input (.key e) => .input (.key { e with modifiers := { e.modifiers with alt := true } })
  | r => r

/-- The escape key. -/
def escapeKey : Reading := .input (.key ⟨.escape, .press, {}⟩)

/-- What a function key sends behind `ESC O`. -/
def readFunction : List UInt8 → Reading
  | [] => .unfinished
  | byte :: _ =>
    if byte = 0x52 then .input (.key ⟨.function 3, .press, {}⟩)
    else
      match Sequence.letteredCode? (Char.ofUInt8 byte) with
      | some code => .input (.key ⟨code, .press, {}⟩)
      | none => .unknown

/-- What bytes amount to behind an escape character. -/
def readEscaped (more : Bool) : List UInt8 → Reading
  | [] => if more then .unfinished else escapeKey
  | first :: rest =>
    match Char.ofUInt8 first with
    | '\x1b' => escapeKey
    | 'O' => readFunction rest
    | '[' => Sequence.read rest
    | _ => withAlt (readPlain (first :: rest))

/-- What bytes amount to. `more` tells whether others came with them. -/
def read (more : Bool) : List UInt8 → Reading
  | [] => .unfinished
  | first :: rest =>
    if first = 0x1B then readEscaped more rest else readPlain (first :: rest)

/-- Takes a byte behind those that wait: the input that is complete now, and what waits now. -/
def feed (more : Bool) (waiting : List UInt8) (byte : UInt8) : Option Input × List UInt8 :=
  match read more (waiting ++ [byte]) with
  | .unfinished => (none, waiting ++ [byte])
  | .unknown => (none, [])
  | .input input => (some input, [])

/-- Takes bytes that came together. `full` tells whether there may be more behind them. -/
def feedAll (full : Bool) (waiting : List UInt8) : List UInt8 → List Input × List UInt8
  | [] => ([], waiting)
  | byte :: rest =>
    let (input, waiting) := feed (!rest.isEmpty || full) waiting byte
    let (inputs, waiting) := feedAll full waiting rest
    (input.toList ++ inputs, waiting)

/-- The most bytes that are taken over at once; after so many, more are expected. -/
def chunkSize : Nat := 1024

/-- The inputs of bytes that are typed behind those that wait, and what waits then. -/
def inputs (waiting bytes : List UInt8) : List Input × List UInt8 :=
  feedAll (bytes.length % chunkSize = 0) waiting bytes

end ChipEight.Terminal.Keyboard
