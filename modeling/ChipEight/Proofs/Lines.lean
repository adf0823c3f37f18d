import ChipEight.Listing

/-!
Listings as lines. No text in a line holds a newline, so a listing is taken apart where its lines end;
and the line of two bytes in the middle of the code is found at half of their place. What stands for
an instruction never begins as a data word does.
-/

namespace ChipEight

namespace Text

/-- The lines of a text in which a newline ends each of them. -/
def lines (text : String) : List String :=
  (text.toList.splitOn '\n').dropLast.map String.ofList

/-- A text that stays on one line. -/
def Inline (text : String) : Prop := '\n' ∉ text.toList

theorem Inline.append {first second : String} (h : Inline first) (k : Inline second) :
    Inline (first ++ second) := by
  rw [Inline, String.toList_append, List.mem_append, not_or]
  exact ⟨h, k⟩

theorem Inline.intercalate {separator : String} (h : Inline separator) {texts : List String}
    (k : ∀ text ∈ texts, Inline text) : Inline (separator.intercalate texts) := by
  induction texts with
  | nil => exact List.not_mem_nil
  | cons text texts ih =>
    rw [List.forall_mem_cons] at k
    cases texts with
    | nil =>
      rw [String.intercalate_singleton]
      exact k.1
    | cons next rest =>
      rw [String.intercalate_cons_cons]
      exact (k.1.append h).append (ih k.2)

/-- Texts that stay on one line, a newline behind each, are the lines of what they make up. -/
theorem lines_join {texts : List String} (h : ∀ text ∈ texts, Inline text) :
    lines (String.join (texts.map (· ++ "\n"))) = texts := by
  have hsplit : (String.join (texts.map (· ++ "\n"))).toList.splitOn '\n' =
      texts.map String.toList ++ [[]] := by
    induction texts with
    | nil => rfl
    | cons text texts ih =>
      rw [List.forall_mem_cons] at h
      rw [List.map_cons, String.join_cons, String.toList_append, String.toList_append,
        show "\n".toList = ['\n'] from rfl, List.append_assoc, List.singleton_append,
        List.splitOn_append_cons_self_of_not_mem h.1, ih h.2]
      rfl
  have hback : String.ofList ∘ String.toList = id := funext fun _ => String.ofList_toList
  rw [lines, hsplit, List.dropLast_concat, List.map_map, hback, List.map_id]

/-- The characters of a text differ from one that does not stand in it. -/
theorem forall_ne_of_notMem {c : Char} {text : List Char} (h : c ∉ text) :
    ∀ d ∈ text, decide (d ≠ c) = true := by
  intro d hd
  exact decide_eq_true fun heq => h (heq ▸ hd)

/-! ### Digits -/

theorem exists_digit_of_mem {c : Char} {n : Nat} (h : c ∈ Nat.toDigits 16 n) :
    ∃ d < 16, c = Nat.digitChar d := by
  induction n using Nat.strongRecOn with
  | ind n ih =>
    rw [Nat.toDigits_eq_if (by decide)] at h
    split at h
    · exact ⟨n, ‹_›, List.mem_singleton.mp h⟩
    · rcases List.mem_append.mp h with hhigh | hlast
      · exact ih (n / 16) (by omega) hhigh
      · exact ⟨n % 16, Nat.mod_lt n (by decide), List.mem_singleton.mp hlast⟩

theorem exists_digit_of_mem_paddedHex {c : Char} {width n : Nat} (h : c ∈ paddedHex width n) :
    ∃ d < 16, c = (Nat.digitChar d).toUpper := by
  rw [paddedHex, List.leftpad, List.mem_append] at h
  rcases h with hzero | hdigit
  · exact ⟨0, by decide, List.eq_of_mem_replicate hzero⟩
  · obtain ⟨lower, hlower, rfl⟩ := List.mem_map.mp hdigit
    obtain ⟨d, hd, rfl⟩ := exists_digit_of_mem hlower
    exact ⟨d, hd, rfl⟩

/-- What is no digit does not stand among digits. -/
theorem notMem_paddedHex {c : Char} (h : ∀ d < 16, c ≠ (Nat.digitChar d).toUpper) (width n : Nat) :
    c ∉ paddedHex width n := by
  intro hc
  obtain ⟨d, hd, heq⟩ := exists_digit_of_mem_paddedHex hc
  exact h d hd heq

theorem inline_hex (width n : Nat) : Inline (hex width n) := by
  rw [Inline, hex, String.toList_ofList]
  exact notMem_paddedHex (by decide) width n

theorem inline_hexLiteral (width n : Nat) : Inline (hexLiteral width n) := by
  have hmarker : Inline "0x" := by simp [Inline]
  exact hmarker.append (inline_hex width n)

theorem inline_toString (n : Nat) : Inline (toString n) := by
  intro h
  have hdigit := Nat.isDigit_of_mem_toDigits (by decide) (by decide) (Nat.toList_repr ▸ h)
  cases hdigit

end Text

open Text (Inline)

/-! ### Instructions -/

theorem Operand.inline_text (o : Operand) : Inline o.text := by
  cases o with
  | register number =>
    have hletter : Inline "V" := by simp [Inline]
    exact hletter.append (Text.inline_hex 0 number)
  | byte | address => exact Text.inline_hexLiteral _ _
  | count value => exact Text.inline_toString value.toNat
  | _ => simp [Inline, text]

namespace Instruction

theorem inline_stem (i : Instruction) : Inline i.stem := by
  rw [Inline]
  cases i <;> simp [stem]

theorem two_le_length_stem (i : Instruction) : 2 ≤ i.stem.toList.length := by
  cases i <;> simp [stem]

/-- The only stem that begins with the letter of a data mark goes on with another one. -/
theorem second_letter_of_stem {i : Instruction} {c : Char} (h : ['D', c] <+: i.stem.toList) :
    c = 'R' := by
  cases i <;> simp_all [stem]

theorem inline_mnemonic (i : Instruction) : Inline i.mnemonic := by
  rw [mnemonic]
  cases i.operands with
  | nil => exact i.inline_stem
  | cons first rest =>
    have hcomma : Inline ", " := by simp [Inline]
    refine .append ?_ (hcomma.intercalate fun text htext => ?_)
    · rw [Inline, String.toList_ofList, List.rightpad, List.mem_append, not_or]
      refine ⟨i.inline_stem, fun h => ?_⟩
      cases List.eq_of_mem_replicate h
    · obtain ⟨o, -, rfl⟩ := List.mem_map.mp htext
      exact o.inline_text

/-- The text of an instruction begins with its stem. -/
theorem stem_prefix_mnemonic (i : Instruction) : i.stem.toList <+: i.mnemonic.toList := by
  rw [mnemonic]
  cases i.operands with
  | nil => exact List.prefix_rfl
  | cons first rest =>
    rw [layout, String.toList_append, String.toList_ofList, List.rightpad, List.append_assoc]
    exact List.prefix_append _ _

theorem second_letter_of_mnemonic {i : Instruction} {c : Char}
    (h : ['D', c] <+: i.mnemonic.toList) : c = 'R' :=
  second_letter_of_stem <|
    List.prefix_of_prefix_length_le h i.stem_prefix_mnemonic i.two_le_length_stem

/-- No instruction is written as a data word is. -/
theorem mnemonic_ne_data (i : Instruction) : ¬ "DW".toList <+: i.mnemonic.toList := fun h =>
  absurd (second_letter_of_mnemonic h) (by decide)

/-- No instruction is written as a data byte is. -/
theorem mnemonic_ne_byte (i : Instruction) : ¬ "DB".toList <+: i.mnemonic.toList := fun h =>
  absurd (second_letter_of_mnemonic h) (by decide)

end Instruction

/-! ### Lines of a listing -/

theorem ListingLine.inline_text (line : ListingLine) : Inline line.text := by
  have hcolon : Inline ": " := by simp [Inline]
  cases line with
  | instruction address word decoded =>
    have hgap : Inline "  " := by simp [Inline]
    exact ((((Text.inline_hex _ _).append hcolon).append (Text.inline_hex _ _)).append hgap).append
      decoded.inline_mnemonic
  | dataWord address word =>
    have hgap : Inline "  DW   " := by simp [Inline]
    exact ((((Text.inline_hex _ _).append hcolon).append (Text.inline_hex _ _)).append hgap).append
      (Text.inline_hexLiteral _ _)
  | dataByte address byte =>
    have hgap : Inline "    DB   " := by simp [Inline]
    exact ((((Text.inline_hex _ _).append hcolon).append (Text.inline_hex _ _)).append hgap).append
      (Text.inline_hexLiteral _ _)

/-- The text of a data word, taken apart where that of an instruction would begin. -/
theorem ListingLine.text_dataWord (address : Nat) (word : Word) :
    (ListingLine.dataWord address word).text =
      Text.hex 3 address ++ ": " ++ Text.hex 4 word.toNat ++ "  " ++
        ("DW   " ++ Text.hexLiteral 4 word.toNat) := by
  have hgap : "  DW   " = "  " ++ "DW   " := rfl
  rw [ListingLine.text, hgap, ← String.append_assoc, ← String.append_assoc]

namespace Listing

/-- Behind its address and its word, a line shows an instruction or marks a data word. -/
theorem exists_shown (address : Nat) (word : Word) :
    ∃ shown, (wordLine address word).text =
        Text.hex 3 address ++ ": " ++ Text.hex 4 word.toNat ++ "  " ++ shown ∧
      ("DW".toList <+: shown.toList ↔ decode word = none) ∧
      ∀ i, decode word = some i → shown = i.mnemonic := by
  rw [wordLine]
  cases hd : decode word with
  | none =>
    have hmark : "DW".toList <+: ("DW   " ++ Text.hexLiteral 4 word.toNat).toList := by
      rw [String.toList_append]
      exact ⟨_, rfl⟩
    exact ⟨_, ListingLine.text_dataWord address word, iff_of_true hmark rfl, nofun⟩
  | some i =>
    refine ⟨i.mnemonic, rfl, iff_of_false i.mnemonic_ne_data nofun, fun j hj => ?_⟩
    cases hj
    rfl

/-- The lines of the text of a listing are the texts of its lines. -/
theorem lines_text (code : List UInt8) (origin : UInt16) :
    Text.lines (text code origin) = (lines origin.toNat code).map ListingLine.text := by
  have hinline : ∀ shown ∈ (lines origin.toNat code).map ListingLine.text, Inline shown := by
    intro shown hshown
    obtain ⟨line, -, rfl⟩ := List.mem_map.mp hshown
    exact line.inline_text
  have hjoin := Text.lines_join hinline
  rwa [List.map_map] at hjoin

/-- Two bytes at an even place have the line at half of it. -/
theorem getElem?_lines {code : List UInt8} {k : Nat} {high low : UInt8}
    (hhigh : code[2 * k]? = some high) (hlow : code[2 * k + 1]? = some low) (address : Nat) :
    (lines address code)[k]? = some (wordLine (address + 2 * k) (Word.ofBytes high low)) := by
  induction k generalizing code address with
  | zero =>
    match code with
    | first :: second :: rest =>
      cases hhigh
      cases hlow
      rfl
  | succ k ih =>
    match code with
    | first :: second :: rest =>
      rw [lines, List.getElem?_cons_succ, ih hhigh hlow, Nat.mul_succ, Nat.add_right_comm,
        Nat.add_assoc address]

end Listing

end ChipEight
