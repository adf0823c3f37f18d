import ChipEight.Display

/-!
What a host writes to a terminal. Two rows of cells share a line of text: half blocks show the
upper and the lower cell of a column.
-/

namespace ChipEight.Terminal.Screen

/-- A control sequence. -/
def control (body : String) : String := "\x1b[" ++ body

/-- Moves to a line and a column, counted from one. -/
def moveTo (line column : Nat) : String :=
  control (toString line ++ ";" ++ toString column ++ "H")

/-- Moves to the start of the next line. -/
def nextLine : String := control "1E"

/-- The character of an upper and a lower cell. -/
def block : (upper lower : Bool) → Char
  | true, true => '\u2588'
  | true, false => '\u2580'
  | false, true => '\u2584'
  | false, false => ' '

/-- The characters of a line: rows `2 * line` and `2 * line + 1`. -/
def lineChars (d : Display) (line : Fin 16) : List Char :=
  (List.finRange 64).map fun x =>
    block (d.isSet ⟨x, ⟨2 * line, by omega⟩⟩) (d.isSet ⟨x, ⟨2 * line + 1, by omega⟩⟩)

/-- The text of a frame. -/
def frame (d : Display) : String :=
  moveTo 1 1 ++ String.join ((List.finRange 16).map fun line =>
    String.ofList (lineChars d line) ++ nextLine)

/-- The text of the status line below the frame. -/
def status (running : Bool) : String :=
  moveTo 18 1 ++ "[" ++ (if running then "running" else "paused ")
    ++ "] space: pause  f5: restart  esc: quit"

/-- Sounds the bell. -/
def bell : String := "\x07"

/-- Takes the screen over, asks for the keyboard protocol and, if the terminal has it, turns on
reports of released keys. -/
def enter (enhanced : Bool) : String :=
  control "?1049h" ++ control "?25l" ++ control "2J" ++ control "?u" ++ control "c"
    ++ (if enhanced then control ">2u" else "")

/-- Gives the screen back. -/
def leave (enhanced : Bool) : String :=
  (if enhanced then control "<1u" else "") ++ control "?25h" ++ control "?1049l"

end ChipEight.Terminal.Screen
