import ChipEight.Proofs.Columns
import ChipEight.Proofs.Opcodes
import Mathlib.Data.List.Nodup
import Mathlib.Data.List.TakeWhile

/-!
The text of an instruction is read back. Its stem ends at the first space, and its operands stand
behind five columns with commas between them. An operand is told by its characters, and the
instructions that share their operands differ in their stems; so no two instructions have the same
text. No stem begins as the marks of data do, which tells code from data in a listing.
-/

namespace ChipEight

/-! ### Operands -/

namespace Operand

/-- The characters of the text of an operand. -/
def chars : Operand → List Char
  | .register number => 'V' :: Text.paddedHex 0 number
  | .byte value => '0' :: 'x' :: Text.paddedHex 2 value.toNat
  | .address value => '0' :: 'x' :: Text.paddedHex 3 value.toNat
  | .count value => Nat.toDigits 10 value.toNat
  | .index => ['I']
  | .atIndex => ['[', 'I', ']']
  | .delayTimer => ['D', 'T']
  | .soundTimer => ['S', 'T']
  | .key => ['K']
  | .glyph => ['F']
  | .decimal => ['B']

theorem toList_text (o : Operand) : o.text.toList = o.chars := by
  cases o <;> simp [text, chars, Text.hexLiteral, Text.hex]

theorem chars_ne_nil (o : Operand) : o.chars ≠ [] := by
  cases o with
  | count value => exact Nat.toDigits_ne_nil
  | _ => simp [chars]

/-- Spaces and commas stand between operands only. -/
theorem notMem_chars (o : Operand) : ' ' ∉ o.chars ∧ ',' ∉ o.chars := by
  have hspace := Text.notMem_paddedHex (c := ' ') (by decide)
  have hcomma := Text.notMem_paddedHex (c := ',') (by decide)
  cases o with
  | count value =>
    constructor <;> intro h <;> cases Nat.isDigit_of_mem_toDigits (by decide) (by decide) h
  | _ => simp [chars, hspace, hcomma]

/-- A count is written in decimal digits, and no other operand is. -/
theorem forall_isDigit_chars_iff (o : Operand) :
    (∀ c ∈ o.chars, c.isDigit = true) ↔ ∃ value, o = .count value := by
  cases o with
  | count value =>
    refine iff_of_true (fun c hc => ?_) ⟨value, rfl⟩
    exact Nat.isDigit_of_mem_toDigits (by decide) (by decide) hc
  | _ => simp [chars]

/-- The number of a byte is shorter than that of an address. -/
theorem paddedHex_byte_ne_address (a : UInt8) (b : UInt16) :
    Text.paddedHex 2 a.toNat ≠ Text.paddedHex 3 b.toNat := by
  intro h
  have hlength := congrArg List.length h
  have hlong : 3 ≤ (Text.paddedHex 3 b.toNat).length := by
    rw [Text.paddedHex, List.length_leftpad]
    exact Nat.le_max_left ..
  rw [ListingLine.length_byte] at hlength
  omega

/-- No two operands look the same. -/
theorem chars_injective : Function.Injective chars := by
  intro o p h
  by_cases ho : ∀ c ∈ o.chars, c.isDigit = true
  · obtain ⟨m, rfl⟩ := o.forall_isDigit_chars_iff.mp ho
    obtain ⟨n, rfl⟩ := p.forall_isDigit_chars_iff.mp (h ▸ ho)
    rw [UInt8.toNat_inj.mp (Text.toDigits_injective h)]
  · -- the first character tells the others apart, but for the two kinds of number behind `0x`
    have hp : ¬ ∀ c ∈ p.chars, c.isDigit = true := h ▸ ho
    rw [forall_isDigit_chars_iff] at ho hp
    have hne := paddedHex_byte_ne_address
    have hne' := fun b a => (hne a b).symm
    cases o <;> cases p <;>
      simp_all [chars, (Text.paddedHex_injective _).eq_iff, UInt8.toNat_inj, UInt16.toNat_inj]

end Operand

namespace Instruction

/-! ### Stem and operands in a text -/

variable {stem : String}

theorem stem_fits (i : Instruction) : i.stem.toList.length < 5 ∧ ' ' ∉ i.stem.toList := by
  cases i <;> simp [Instruction.stem]

theorem takeWhile_layout (hlength : stem.toList.length < 5) (hspace : ' ' ∉ stem.toList)
    (operands : List Operand) :
    (layout stem operands).toList.takeWhile (· ≠ ' ') = stem.toList := by
  have hstem := Text.forall_ne_of_notMem hspace
  cases operands with
  | nil => exact List.takeWhile_eq_self_iff.mpr hstem
  | cons first rest =>
    obtain ⟨count, hcount⟩ : ∃ count, 5 - stem.toList.length = count + 1 :=
      ⟨4 - stem.toList.length, by omega⟩
    rw [layout, String.toList_append, String.toList_ofList, List.rightpad, hcount,
      List.replicate_succ, List.append_assoc, List.takeWhile_append_of_pos hstem]
    simp

theorem drop_layout (hlength : stem.toList.length < 5) (operands : List Operand) :
    (layout stem operands).toList.drop 5 =
      [',', ' '].intercalate (operands.map Operand.chars) := by
  cases operands with
  | nil => simp [layout, Nat.le_of_lt hlength]
  | cons first rest =>
    have hpadded : (stem.toList.rightpad 5 ' ').length = 5 := by
      rw [List.length_rightpad]
      omega
    have hchars : String.toList ∘ Operand.text = Operand.chars := funext Operand.toList_text
    rw [layout, String.toList_append, String.toList_ofList, List.drop_left' hpadded,
      String.toList_intercalate, List.map_map, hchars]
    rfl

/-- Without the spaces, commas alone stand between pieces that have none. -/
theorem filter_intercalate {pieces : List (List Char)} (h : ∀ piece ∈ pieces, ' ' ∉ piece) :
    ([',', ' '].intercalate pieces).filter (· ≠ ' ') = [','].intercalate pieces := by
  induction pieces with
  | nil => rfl
  | cons piece rest ih =>
    rw [List.forall_mem_cons] at h
    have hpiece : piece.filter (· ≠ ' ') = piece :=
      List.filter_eq_self.mpr (Text.forall_ne_of_notMem h.1)
    cases rest with
    | nil => simpa using hpiece
    | cons next rest =>
      rw [List.intercalate_cons_cons, List.intercalate_cons_cons, List.filter_append,
        List.filter_append, hpiece, ih h.2]
      rfl

/-- The pieces between commas behind five columns, without spaces. -/
def operandTexts (text : List Char) : List (List Char) :=
  (((text.drop 5).filter (· ≠ ' ')).splitOn ',').filter (· ≠ [])

theorem operandTexts_layout (hlength : stem.toList.length < 5) (operands : List Operand) :
    operandTexts (layout stem operands).toList = operands.map Operand.chars := by
  have hspaces : ∀ piece ∈ operands.map Operand.chars, ' ' ∉ piece := by
    simp [Operand.notMem_chars]
  have hcommas : ∀ piece ∈ operands.map Operand.chars, ',' ∉ piece := by
    simp [Operand.notMem_chars]
  rw [operandTexts, drop_layout hlength, filter_intercalate hspaces]
  cases operands with
  | nil => rfl
  | cons first rest =>
    rw [List.splitOn_intercalate _ hcommas (by simp)]
    simp [Operand.chars_ne_nil]

/-! ### Instructions with the same operands -/

/-- The instructions that have given operands. -/
def withOperands : List Operand → List Instruction
  | [] => [.clear, .ret]
  | [.address nnn] => [.native nnn, .jump nnn, .call nnn]
  | [.register x] => [.shiftRight x, .shiftLeft x, .skipIfKey x, .skipUnlessKey x]
  | [.register x, .byte nn] =>
    [.skipIfByte x nn, .skipUnlessByte x nn, .setByte x nn, .addByte x nn, .random x nn]
  | [.register x, .register y] =>
    [.skipIfSame x y, .skipUnlessSame x y, .copy x y, .or x y, .and x y, .xor x y, .add x y,
      .subtract x y, .subtractFrom x y]
  | [.register x, .register y, .count n] => [.draw x y n]
  | [.register _, .address nnn] => [.jumpOffset nnn]
  | [.register x, .delayTimer] => [.getDelay x]
  | [.register x, .key] => [.awaitKey x]
  | [.register x, .atIndex] => [.load x]
  | [.index, .address nnn] => [.setIndex nnn]
  | [.index, .register x] => [.addIndex x]
  | [.delayTimer, .register x] => [.setDelay x]
  | [.soundTimer, .register x] => [.setSound x]
  | [.glyph, .register x] => [.glyph x]
  | [.decimal, .register x] => [.decimal x]
  | [.atIndex, .register x] => [.store x]
  | _ => []

theorem mem_withOperands (i : Instruction) : i ∈ withOperands i.operands := by
  cases i <;> simp [operands, withOperands]

theorem nodup_stems (operands : List Operand) :
    ((withOperands operands).map Instruction.stem).Nodup := by
  unfold withOperands
  split <;> simp [Instruction.stem]

variable {i j : Instruction}

theorem eq_of_stem_of_operands (hstem : i.stem = j.stem) (hoperands : i.operands = j.operands) :
    i = j := by
  have hi := i.mem_withOperands
  rw [hoperands] at hi
  exact List.inj_on_of_nodup_map (nodup_stems j.operands) hi j.mem_withOperands hstem

/-- An instruction is told by its text. -/
theorem mnemonic_injective : Function.Injective mnemonic := by
  intro i j h
  obtain ⟨hi, hispace⟩ := i.stem_fits
  obtain ⟨hj, hjspace⟩ := j.stem_fits
  have htext : (layout i.stem i.operands).toList = (layout j.stem j.operands).toList :=
    congrArg String.toList h
  have hstem : i.stem.toList = j.stem.toList := by
    rw [← takeWhile_layout hi hispace i.operands, htext, takeWhile_layout hj hjspace]
  have hoperands : i.operands.map Operand.chars = j.operands.map Operand.chars := by
    rw [← operandTexts_layout hi, htext, operandTexts_layout hj]
  exact eq_of_stem_of_operands (String.toList_inj.mp hstem)
    (List.map_injective_iff.mpr Operand.chars_injective hoperands)

end Instruction

/-! ### Words with the same text -/

namespace Word

/-- Two words of one shift. They differ at most in the digit of `y`, which shifts ignore. -/
def SameShift (v w : Word) : Prop :=
  ∃ x last, (last = 6 ∨ last = 0xE) ∧ v.digits = [8, x, v.y, last] ∧ w.digits = [8, x, w.y, last]

variable {v w : Word} {i : Instruction}

theorem digits_of_decode (h : decode w = some i) : w.digits = i.digits w.y := by
  rw [← Instruction.digits_word, ← Instruction.eq_word_of_decode h]

/-- Words with one instruction are the same, but for what a shift ignores. -/
theorem eq_or_sameShift_of_decode (hv : decode v = some i) (hw : decode w = some i) :
    v = w ∨ v.SameShift w := by
  have hvdigits := digits_of_decode hv
  have hwdigits := digits_of_decode hw
  by_cases hshift : ∀ x, i ≠ .shiftRight x ∧ i ≠ .shiftLeft x
  · left
    refine digits_injective ?_
    rw [hvdigits, hwdigits, Instruction.digits_of_not_shift _ hshift,
      Instruction.digits_of_not_shift w.y hshift]
  · right
    have hmod : ∀ (u : Word) x last, [8, x, u.y % 16, last] = [8, x, u.y, last] := by
      intro u x last
      rw [Nat.mod_eq_of_lt u.y_lt]
    simp only [not_forall, not_and_or, ne_eq, not_not] at hshift
    obtain ⟨x, rfl | rfl⟩ := hshift
    · exact ⟨x % 16, 6, .inl rfl, hvdigits.trans (hmod v _ 6), hwdigits.trans (hmod w _ 6)⟩
    · exact ⟨x % 16, 0xE, .inr rfl, hvdigits.trans (hmod v _ 0xE), hwdigits.trans (hmod w _ 0xE)⟩

end Word

/-! ### Code and data in a listing -/

namespace Listing

/-- A line with the mark of a data word or of a data byte. -/
def MarksData (line : String) : Prop :=
  "DW".toList <+: textColumn line ∨ "DB".toList <+: textColumn line

/-- Exactly the lines without an instruction are marked. -/
theorem marksData_text_iff (line : ListingLine) :
    MarksData line.text ↔ ∀ address word i, line ≠ .instruction address word i := by
  rw [MarksData, textColumn_text]
  cases line with
  | instruction address word i =>
    refine iff_of_false (fun h => ?_) fun h => h address word i rfl
    rcases h with h | h
    · exact i.mnemonic_ne_data h
    · exact i.mnemonic_ne_byte h
  | dataWord address word => exact iff_of_true (.inl ⟨_, rfl⟩) nofun
  | dataByte address byte => exact iff_of_true (.inr ⟨_, rfl⟩) nofun

/-- A line without a mark shows the instruction of the two bytes at its place. -/
theorem not_marksData_iff {code : List UInt8} {origin : UInt16} {k : Nat} {line : String}
    (h : (Text.lines (text code origin))[k]? = some line) :
    ¬ MarksData line ↔
      ∃ high low i, code[2 * k]? = some high ∧ code[2 * k + 1]? = some low ∧
        decode (Word.ofBytes high low) = some i ∧ textColumn line = i.mnemonic.toList := by
  rw [lines_text, List.getElem?_map, Option.map_eq_some_iff] at h
  obtain ⟨entry, hentry, rfl⟩ := h
  rw [marksData_text_iff, textColumn_text]
  rcases line_of_getElem? hentry with ⟨high, low, hhigh, hlow, rfl⟩ | ⟨byte, hlength, rfl⟩
  · rw [hhigh, hlow, wordLine]
    cases hd : decode (Word.ofBytes high low) with
    | none => simp [hd]
    | some i => simp [hd, ListingLine.shown]
  · have hend : code[2 * k + 1]? = none := List.getElem?_eq_none (by omega)
    simp [hend]

end Listing

/-- The texts of instructions are unambiguous. No two instructions have the same text, and none
begins with a mark of data. So two words with the same text have the same instruction, and differ at
most in what a shift ignores; and in a listing exactly the lines of instructions are without a
mark. -/
theorem Instruction.mnemonic_unambiguous :
    Function.Injective Instruction.mnemonic ∧
    (∀ i : Instruction, ¬ "DW".toList <+: i.mnemonic.toList ∧ ¬ "DB".toList <+: i.mnemonic.toList) ∧
    (∀ v w i j, decode v = some i → decode w = some j → i.mnemonic = j.mnemonic →
      i = j ∧ (v = w ∨ v.SameShift w)) ∧
    ∀ code origin k line, (Text.lines (Listing.text code origin))[k]? = some line →
      (¬ Listing.MarksData line ↔
        ∃ high low i, code[2 * k]? = some high ∧ code[2 * k + 1]? = some low ∧
          decode (Word.ofBytes high low) = some i ∧
          Listing.textColumn line = i.mnemonic.toList) := by
  refine ⟨mnemonic_injective, fun i => ⟨i.mnemonic_ne_data, i.mnemonic_ne_byte⟩, ?_,
    fun code origin k line => Listing.not_marksData_iff⟩
  intro v w i j hv hw h
  obtain rfl := mnemonic_injective h
  exact ⟨rfl, Word.eq_or_sameShift_of_decode hv hw⟩

/-- Two words of one shift, and one of them in front of a data word. -/
theorem Instruction.shiftRight_unambiguous :
    let shift := (ListingLine.instruction 0x200 0x8016 (.shiftRight 0)).text
    let data := (ListingLine.dataWord 0x202 0xFFFF).text
    Word.SameShift 0x8016 0x80F6 ∧
      Text.lines (Listing.text [0x80, 0x16, 0xFF, 0xFF] 0x200) = [shift, data] ∧
      ¬ Listing.MarksData shift ∧ Listing.MarksData data := by
  intro shift data
  obtain ⟨-, -, hwords, hlisted⟩ := mnemonic_unambiguous
  have hshift : decode 0x8016 = some (.shiftRight 0) := by decide
  have hlines : Text.lines (Listing.text [0x80, 0x16, 0xFF, 0xFF] 0x200) = [shift, data] := by
    rw [Listing.lines_text]
    have hcode : Listing.lines 0x200 [0x80, 0x16, 0xFF, 0xFF] =
        [.instruction 0x200 0x8016 (.shiftRight 0), .dataWord 0x202 0xFFFF] := by decide
    exact congrArg (List.map ListingLine.text) hcode
  have hfirst := hlisted [0x80, 0x16, 0xFF, 0xFF] 0x200 0 shift (congrArg (·[0]?) hlines)
  have hsecond := hlisted [0x80, 0x16, 0xFF, 0xFF] 0x200 1 data (congrArg (·[1]?) hlines)
  obtain ⟨-, hsame⟩ := hwords 0x8016 0x80F6 (.shiftRight 0) _ hshift (by decide) rfl
  refine ⟨hsame.resolve_left (by decide), hlines, hfirst.mpr ?_, ?_⟩
  · exact ⟨0x80, 0x16, .shiftRight 0, rfl, rfl, hshift, Listing.textColumn_text _⟩
  · by_contra hmark
    obtain ⟨high, low, i, hhigh, hlow, hd, -⟩ := hsecond.mp hmark
    cases hhigh
    cases hlow
    have hnone : decode (Word.ofBytes 0xFF 0xFF) = none := by decide
    rw [hnone] at hd
    cases hd

end ChipEight
