import ChipEight.Terminal.Screen

/-!
Drawn frames are read back. The text of a frame goes to the first place of the screen and then has
sixteen lines of 64 characters, each with a move to the next line behind it. A character shows an
upper and a lower cell, and none of the four begins a control sequence; so the lines are found in
the text and the cells in the lines, and a text is drawn for the cells of one display only.
-/

namespace ChipEight

namespace Terminal.Screen

/-- The upper and the lower cell that a character shows. -/
def cells? : Char → Option (Bool × Bool)
  | '\u2588' => some (true, true)
  | '\u2580' => some (true, false)
  | '\u2584' => some (false, true)
  | ' ' => some (false, false)
  | _ => none

/-- The two rows of cells that a line shows. -/
def readLine? (line : List Char) : Option (List (List Bool)) :=
  (line.mapM cells?).map fun cells => [cells.map Prod.fst, cells.map Prod.snd]

/-- The lines of a text in which a move to the next line is behind each of them; `line` is what was
read of the first. -/
def readLines? (line : List Char) : List Char → Option (List (List Char))
  | [] => if line.isEmpty then some [] else none
  | '\x1b' :: '[' :: '1' :: 'E' :: rest => (readLines? [] rest).map (line :: ·)
  | c :: rest => readLines? (line ++ [c]) rest

/-- What is behind a move to the first place of the screen. -/
def behindHome? : List Char → Option (List Char)
  | '\x1b' :: '[' :: '1' :: ';' :: '1' :: 'H' :: rest => some rest
  | _ => none

/-- The rows of cells that a text shows, if it is that of a frame. -/
def read? (text : String) : Option (List (List Bool)) := do
  let lines ← readLines? [] (← behindHome? text.toList)
  return (← lines.mapM readLine?).flatten

theorem upperRow_lt (line : Fin 16) : 2 * line.val < 32 := by omega

theorem lowerRow_lt (line : Fin 16) : 2 * line.val + 1 < 32 := by omega

/-- The row of the upper cells of a line. -/
def upperRow (line : Fin 16) : Fin 32 := ⟨2 * line, upperRow_lt line⟩

/-- The row of the lower cells of a line. -/
def lowerRow (line : Fin 16) : Fin 32 := ⟨2 * line + 1, lowerRow_lt line⟩

/-! ### Characters -/

theorem cells?_block (upper lower : Bool) : cells? (block upper lower) = some (upper, lower) := by
  cases upper <;> cases lower <;> rfl

theorem block_ne_escape (upper lower : Bool) : block upper lower ≠ '\x1b' := by
  cases upper <;> cases lower <;> decide

/-! ### Lines -/

theorem lineChars_eq (d : Display) (line : Fin 16) :
    lineChars d line = (List.finRange 64).map fun x =>
      block (d.isSet ⟨x, upperRow line⟩) (d.isSet ⟨x, lowerRow line⟩) := rfl

theorem escape_notMem_lineChars (d : Display) (line : Fin 16) : '\x1b' ∉ lineChars d line := by
  rw [lineChars_eq, List.mem_map]
  rintro ⟨x, -, h⟩
  exact block_ne_escape _ _ h

theorem readLine?_lineChars (d : Display) (line : Fin 16) :
    readLine? (lineChars d line) = some [d.row (upperRow line), d.row (lowerRow line)] := by
  have hcells : (lineChars d line).mapM cells? = some ((List.finRange 64).map fun x =>
      (d.isSet ⟨x, upperRow line⟩, d.isSet ⟨x, lowerRow line⟩)) := by
    rw [lineChars_eq, List.mapM_map]
    simp only [Function.comp_def, cells?_block]
    exact List.mapM_pure
  rw [readLine?, hcells, Option.map_some, List.map_map, List.map_map]
  rfl

/-- A character that begins no control sequence belongs to its line. -/
theorem readLines?_cons {c : Char} (h : c ≠ '\x1b') (front rest : List Char) :
    readLines? front (c :: rest) = readLines? (front ++ [c]) rest := by
  rw [readLines?]
  exact fun _ hc _ => h hc

/-- A line is read up to the move behind it. -/
theorem readLines?_append {line : List Char} (h : '\x1b' ∉ line) (front rest : List Char) :
    readLines? front (line ++ (nextLine.toList ++ rest)) =
      (readLines? [] rest).map ((front ++ line) :: ·) := by
  induction line generalizing front with
  | nil =>
    rw [List.append_nil]
    rfl
  | cons c line ih =>
    rw [List.mem_cons, not_or] at h
    rw [List.cons_append, readLines?_cons (Ne.symm h.1), ih h.2, List.append_assoc,
      List.singleton_append]

/-- Lines in which no control sequence begins are found again. -/
theorem readLines?_flatMap {lines : List (List Char)} (h : ∀ line ∈ lines, '\x1b' ∉ line) :
    readLines? [] (lines.flatMap (· ++ nextLine.toList)) = some lines := by
  induction lines with
  | nil => rfl
  | cons line lines ih =>
    rw [List.forall_mem_cons] at h
    rw [List.flatMap_cons, List.append_assoc, readLines?_append h.1, ih h.2]
    rfl

/-! ### Frames -/

/-- The lines of a frame. -/
def frameLines (d : Display) : List (List Char) := (List.finRange 16).map (lineChars d)

theorem moveTo_home : moveTo 1 1 = "\x1b[1;1H" := by decide

theorem toList_frame (d : Display) :
    (frame d).toList =
      "\x1b[1;1H".toList ++ (frameLines d).flatMap (· ++ nextLine.toList) := by
  rw [frame, moveTo_home, String.toList_append, String.toList_join, List.flatMap_map, frameLines,
    List.flatMap_map]
  simp only [String.toList_append, String.toList_ofList]

theorem readLines?_frameLines (d : Display) :
    readLines? [] ((frameLines d).flatMap (· ++ nextLine.toList)) = some (frameLines d) := by
  refine readLines?_flatMap fun line hline => ?_
  obtain ⟨l, -, rfl⟩ := List.mem_map.mp hline
  exact escape_notMem_lineChars d l

/-- The rows of a display are read back from its frame. -/
theorem read?_frame (d : Display) : read? (frame d) = some d.rows := by
  have hhome : ∀ rest, behindHome? ("\x1b[1;1H".toList ++ rest) = some rest := fun _ => rfl
  have hrows : (frameLines d).mapM readLine? =
      some ((List.finRange 16).map fun l => [d.row (upperRow l), d.row (lowerRow l)]) := by
    rw [frameLines, List.mapM_map]
    simp only [Function.comp_def, readLine?_lineChars]
    exact List.mapM_pure
  simp only [read?, toList_frame, hhome, Option.bind_eq_bind, Option.bind_some,
    readLines?_frameLines, hrows]
  rfl

end Terminal.Screen

namespace Display

theorem isSet_eq_of_rows {d e : Display} (h : d.rows = e.rows) (c : Cell) :
    d.isSet c = e.isSet c := by
  have hrow : d.row c.y = e.row c.y := List.map_inj_left.mp h c.y (List.mem_finRange c.y)
  exact List.map_inj_left.mp hrow c.x (List.mem_finRange c.x)

end Display

namespace Terminal.Screen

/-- What is drawn depends on the cells that are set and on nothing else. -/
theorem frame_congr {d e : Display} (h : ∀ c, d.isSet c = e.isSet c) : frame d = frame e := by
  have hlines : lineChars d = lineChars e := by
    funext line
    simp only [lineChars_eq, h]
  rw [frame, frame, hlines]

/-- The text of a frame is one move to the first place of the screen and then sixteen lines of 64
characters, each with a move to the next line behind it. The character in a column of a line is full
block, upper half, lower half or space according to whether the cells of that column in the two rows
of the line are set. So the rows are read back from the text, and two displays are drawn with the
same text exactly if they hold the same in each cell. -/
theorem frame_reads_back (d : Display) :
    (∃ lines : List (List Char),
      (frame d).toList = "\x1b[1;1H".toList ++ lines.flatMap (· ++ "\x1b[1E".toList) ∧
      lines.length = 16 ∧
      ∀ l : Fin 16, ∃ chars, lines[l.val]? = some chars ∧ chars.length = 64 ∧
        ∀ x : Fin 64, ∃ c, chars[x.val]? = some c ∧
          cells? c = some (d.isSet ⟨x, upperRow l⟩, d.isSet ⟨x, lowerRow l⟩)) ∧
    read? (frame d) = some d.rows ∧
    ∀ e : Display, frame d = frame e ↔ ∀ c, d.cell c = e.cell c := by
  refine ⟨⟨frameLines d, toList_frame d, by simp [frameLines], fun l => ?_⟩, read?_frame d,
    fun e => ?_⟩
  · refine ⟨lineChars d l, by simp [frameLines], by simp [lineChars_eq], fun x => ?_⟩
    exact ⟨_, by simp [lineChars_eq], cells?_block _ _⟩
  · simp only [Display.cell_eq_iff_isSet_eq]
    constructor
    · intro h c
      have hrows := congrArg read? h
      rw [read?_frame, read?_frame] at hrows
      exact Display.isSet_eq_of_rows (Option.some.inj hrows) c
    · exact frame_congr

end Terminal.Screen

end ChipEight
