import ChipEight.Proofs.Lines
import ChipEight.Proofs.Numerals

/-!
The columns of a listing. A line is an address with a colon behind it, the digits of its bytes in six
columns, and what they stand for; each of these is read back from the text of the line. The bytes of
all lines are those of the code, so no two codes have the same listing, and a code of two parts is
listed part by part.
-/

namespace ChipEight

namespace ListingLine

/-- The address of the first byte of a line. -/
def address : ListingLine → Nat
  | .instruction address _ _ | .dataWord address _ | .dataByte address _ => address

/-- The digits of the bytes of a line. -/
def raw : ListingLine → List Char
  | .instruction _ word _ | .dataWord _ word => Text.paddedHex 4 word.toNat
  | .dataByte _ byte => Text.paddedHex 2 byte.toNat

/-- What the bytes of a line stand for. -/
def shown : ListingLine → List Char
  | .instruction _ _ decoded => decoded.mnemonic.toList
  | .dataWord _ word => ['D', 'W', ' ', ' ', ' '] ++ (Text.hexLiteral 4 word.toNat).toList
  | .dataByte _ byte => ['D', 'B', ' ', ' ', ' '] ++ (Text.hexLiteral 2 byte.toNat).toList

theorem length_word (word : Word) : (Text.paddedHex 4 word.toNat).length = 4 :=
  Text.length_paddedHex (by decide) word.toNat_lt

theorem length_byte (byte : UInt8) : (Text.paddedHex 2 byte.toNat).length = 2 :=
  Text.length_paddedHex (by decide) byte.toNat_lt

/-- A line is its three columns. -/
theorem toList_text (line : ListingLine) :
    line.text.toList =
      Text.paddedHex 3 line.address ++ ':' :: ' ' :: (line.raw.rightpad 6 ' ' ++ line.shown) := by
  cases line with
  | instruction address word decoded =>
    simp [text, ListingLine.address, raw, shown, Text.hex, List.rightpad, length_word]
  | dataWord address word =>
    simp [text, ListingLine.address, raw, shown, Text.hex, List.rightpad, length_word]
  | dataByte address byte =>
    simp [text, ListingLine.address, raw, shown, Text.hex, List.rightpad, length_byte]

end ListingLine

namespace Listing

/-! ### Reading columns -/

/-- What stands behind the address of a line. -/
def behindAddress (line : String) : List Char := (line.toList.dropWhile (· ≠ ':')).drop 2

/-- The digits of the bytes of a line: they end at the first space. -/
def rawColumn (line : String) : List Char := (behindAddress line).takeWhile (· ≠ ' ')

/-- What the bytes of a line stand for: it begins behind six columns. -/
def textColumn (line : String) : List Char := (behindAddress line).drop 6

theorem behindAddress_text (line : ListingLine) :
    behindAddress line.text = line.raw.rightpad 6 ' ' ++ line.shown := by
  have hcolon := Text.forall_ne_of_notMem (Text.colon_notMem_paddedHex 3 line.address)
  rw [behindAddress, line.toList_text, List.dropWhile_append_of_pos hcolon]
  rfl

theorem length_raw (line : ListingLine) : line.raw.length = 4 ∨ line.raw.length = 2 := by
  cases line with
  | instruction | dataWord => exact .inl (ListingLine.length_word _)
  | dataByte => exact .inr (ListingLine.length_byte _)

theorem space_notMem_raw (line : ListingLine) : ' ' ∉ line.raw := by
  cases line <;> exact Text.notMem_paddedHex (by decide) _ _

theorem rawColumn_text (line : ListingLine) : rawColumn line.text = line.raw := by
  have hdigits := Text.forall_ne_of_notMem (space_notMem_raw line)
  have hspace : ∃ count, 6 - line.raw.length = count + 1 := by
    rcases length_raw line with h | h
    · exact ⟨1, by omega⟩
    · exact ⟨3, by omega⟩
  obtain ⟨count, hcount⟩ := hspace
  rw [rawColumn, behindAddress_text, List.rightpad, hcount, List.replicate_succ, List.append_assoc,
    List.takeWhile_append_of_pos hdigits]
  simp

theorem textColumn_text (line : ListingLine) : textColumn line.text = line.shown := by
  have hlength : (line.raw.rightpad 6 ' ').length = 6 := by
    rcases length_raw line with h | h <;> simp [List.rightpad, h]
  rw [textColumn, behindAddress_text, List.drop_left' hlength]

/-! ### The lines of a code -/

variable {address : Nat} {code : List UInt8}

theorem length_lines (address : Nat) (code : List UInt8) :
    (lines address code).length = (code.length + 1) / 2 := by
  fun_induction lines address code with
  | case1 | case2 => simp
  | case3 address high low rest ih =>
    simp only [List.length_cons, ih]
    omega

theorem address_wordLine (address : Nat) (word : Word) : (wordLine address word).address = address := by
  rw [wordLine]
  split <;> rfl

/-- A line is that of the two bytes at twice its place, or of the single byte there at the end. -/
theorem line_of_getElem? {k : Nat} {line : ListingLine}
    (h : (lines address code)[k]? = some line) :
    (∃ high low, code[2 * k]? = some high ∧ code[2 * k + 1]? = some low ∧
      line = wordLine (address + 2 * k) (Word.ofBytes high low)) ∨
    ∃ byte, code.length = 2 * k + 1 ∧ line = .dataByte (address + 2 * k) byte := by
  fun_induction lines address code generalizing k with
  | case1 => simp at h
  | case2 address byte =>
    obtain ⟨rfl, rfl⟩ : k = 0 ∧ .dataByte address byte = line := by
      cases k <;> simp_all
    exact .inr ⟨byte, rfl, rfl⟩
  | case3 address high low rest ih =>
    cases k with
    | zero =>
      cases h
      exact .inl ⟨high, low, rfl, rfl, rfl⟩
    | succ k =>
      have hnext : address + 2 * (k + 1) = address + 2 + 2 * k := by omega
      rw [hnext]
      rcases ih h with ⟨first, second, hfirst, hsecond, rfl⟩ | ⟨byte, hlength, rfl⟩
      · exact .inl ⟨first, second, hfirst, hsecond, rfl⟩
      · refine .inr ⟨byte, ?_, rfl⟩
        simp only [List.length_cons, hlength]
        omega

theorem address_of_getElem? {k : Nat} {line : ListingLine}
    (h : (lines address code)[k]? = some line) : line.address = address + 2 * k := by
  rcases line_of_getElem? h with ⟨high, low, -, -, rfl⟩ | ⟨byte, -, rfl⟩
  · exact address_wordLine _ _
  · rfl

theorem wordLine_ne_dataByte (address : Nat) (word : Word) (a : Nat) (byte : UInt8) :
    wordLine address word ≠ .dataByte a byte := by
  rw [wordLine]
  split <;> simp

/-- A single byte is left over exactly at the end of an odd number of bytes. -/
theorem dataByte_iff {k : Nat} {line : ListingLine} (h : (lines address code)[k]? = some line) :
    (∃ a byte, line = .dataByte a byte) ↔ code.length = 2 * k + 1 := by
  rcases line_of_getElem? h with ⟨high, low, -, hlow, rfl⟩ | ⟨byte, hlength, rfl⟩
  · refine iff_of_false (by simp [wordLine_ne_dataByte]) fun hlength => ?_
    rw [List.getElem?_eq_none (by omega)] at hlow
    cases hlow
  · exact iff_of_true ⟨_, _, rfl⟩ hlength

theorem raw_wordLine (address : Nat) (high low : UInt8) :
    (wordLine address (Word.ofBytes high low)).raw =
      Text.paddedHex 2 high.toNat ++ Text.paddedHex 2 low.toNat := by
  have hraw : (wordLine address (Word.ofBytes high low)).raw =
      Text.paddedHex 4 (Word.ofBytes high low).toNat := by
    rw [wordLine]
    split <;> rfl
  have hvalue : (Word.ofBytes high low).toNat = high.toNat * 0x100 + low.toNat := by
    have hhigh := high.toNat_lt
    have hlow := low.toNat_lt
    rw [Word.ofBytes, UInt16.toNat_ofNat', Nat.mod_eq_of_lt (by omega)]
  rw [hraw, hvalue, Text.paddedHex_two_bytes _ low.toNat_lt]

/-- The digits of bytes, the high one of each in front of the low one. -/
def hexBytes (code : List UInt8) : List Char :=
  code.flatMap fun byte =>
    [(Nat.digitChar (byte.toNat / 16)).toUpper, (Nat.digitChar (byte.toNat % 16)).toUpper]

theorem hexBytes_cons (byte : UInt8) (rest : List UInt8) :
    hexBytes (byte :: rest) = Text.paddedHex 2 byte.toNat ++ hexBytes rest := by
  rw [Text.paddedHex_byte byte.toNat_lt]
  rfl

/-- The digits of all lines are those of the code. -/
theorem flatMap_raw (address : Nat) (code : List UInt8) :
    (lines address code).flatMap ListingLine.raw = hexBytes code := by
  fun_induction lines address code with
  | case1 => rfl
  | case2 address byte => simp [ListingLine.raw, hexBytes, Text.paddedHex_byte byte.toNat_lt]
  | case3 address high low rest ih => simp [ih, raw_wordLine, hexBytes_cons]

/-- Bytes are told by their digits. -/
theorem hexBytes_injective : Function.Injective hexBytes := by
  intro code other h
  induction code generalizing other with
  | nil =>
    cases other with
    | nil => rfl
    | cons byte rest => cases h
  | cons byte rest ih =>
    cases other with
    | nil => cases h
    | cons first others =>
      rw [hexBytes_cons, hexBytes_cons] at h
      obtain ⟨hbyte, hrest⟩ := List.append_inj h (by simp [ListingLine.length_byte])
      rw [UInt8.toNat_inj.mp (Text.paddedHex_injective 2 hbyte), ih hrest]

/-- An even number of bytes is listed apart from what stands behind it. -/
theorem lines_append (heven : code.length % 2 = 0) (rest : List UInt8) :
    lines address (code ++ rest) = lines address code ++ lines (address + code.length) rest := by
  fun_induction lines address code with
  | case1 => rfl
  | case2 => simp at heven
  | case3 address high low code ih =>
    simp only [List.length_cons] at heven
    rw [List.cons_append, List.cons_append, lines, ih (by omega), List.length_cons, List.length_cons]
    simp [Nat.add_assoc, Nat.add_comm 2]

/-! ### The text of a code -/

/-- A line with a single byte: it has two digits and the mark of a byte. -/
def MarksByte (line : String) : Prop :=
  (rawColumn line).length = 2 ∧ "DB".toList <+: textColumn line

theorem marksByte_text_iff (line : ListingLine) :
    MarksByte line.text ↔ ∃ address byte, line = .dataByte address byte := by
  rw [MarksByte, rawColumn_text, textColumn_text]
  cases line with
  | instruction | dataWord => simp [ListingLine.raw, ListingLine.length_word]
  | dataByte address byte =>
    exact iff_of_true ⟨ListingLine.length_byte byte, _, rfl⟩ ⟨address, byte, rfl⟩

/-- The last line has a single byte exactly behind an even number of others. -/
theorem exists_marksByte_iff (code : List UInt8) (origin : UInt16) :
    (∃ line, (Text.lines (text code origin)).getLast? = some line ∧ MarksByte line) ↔
      code.length % 2 = 1 := by
  have hlength := length_lines origin.toNat code
  rw [lines_text, List.getLast?_map, List.getLast?_eq_getElem?]
  constructor
  · rintro ⟨line, hline, hmarks⟩
    obtain ⟨entry, hentry, rfl⟩ := Option.map_eq_some_iff.mp hline
    have hend := (dataByte_iff hentry).mp ((marksByte_text_iff entry).mp hmarks)
    omega
  · intro hodd
    have hlast : (lines origin.toNat code).length - 1 < (lines origin.toNat code).length := by omega
    have hentry := List.getElem?_eq_getElem hlast
    refine ⟨_, congrArg (Option.map ListingLine.text) hentry, (marksByte_text_iff _).mpr ?_⟩
    exact (dataByte_iff hentry).mpr (by omega)

theorem text_append (heven : code.length % 2 = 0) (rest : List UInt8) {origin : UInt16}
    (hfit : origin.toNat + code.length ≤ 0xFFFF) :
    text (code ++ rest) origin =
      text code origin ++ text rest (origin + UInt16.ofNat code.length) := by
  have horigin : (origin + UInt16.ofNat code.length).toNat = origin.toNat + code.length := by
    rw [UInt16.toNat_add, UInt16.toNat_ofNat']
    omega
  rw [text, lines_append heven, ← horigin, List.map_append, String.join_append]
  rfl

/-- A listing loses nothing. It has a line for every two bytes; the address at the beginning of a line
is counted on from the origin without a bound; the digits in the lines are those of the code; and a
single byte stands in the last line exactly if the number of bytes is odd. So no other code has the
same listing from the same origin, and a code is listed part by part where an even number of bytes
stands in front. -/
theorem listing_loses_nothing (code : List UInt8) (origin : UInt16) :
    let shown := Text.lines (text code origin)
    shown.length = (code.length + 1) / 2 ∧
    (∀ k line, shown[k]? = some line →
      Text.paddedHex 3 (origin.toNat + 2 * k) ++ [':', ' '] <+: line.toList) ∧
    shown.flatMap rawColumn = hexBytes code ∧
    ((∃ line, shown.getLast? = some line ∧ MarksByte line) ↔ code.length % 2 = 1) ∧
    (∀ other, text other origin = text code origin → other = code) ∧
    ∀ rest, code.length % 2 = 0 → origin.toNat + code.length ≤ 0xFFFF →
      text (code ++ rest) origin =
        text code origin ++ text rest (origin + UInt16.ofNat code.length) := by
  have hraw : ∀ bytes, (Text.lines (text bytes origin)).flatMap rawColumn = hexBytes bytes := by
    intro bytes
    rw [lines_text, List.flatMap_map, ← flatMap_raw origin.toNat]
    simp only [rawColumn_text]
  refine ⟨?_, fun k line h => ?_, hraw code, exists_marksByte_iff code origin, fun other h => ?_,
    fun rest heven hfit => text_append heven rest hfit⟩
  · rw [lines_text, List.length_map, length_lines]
  · rw [lines_text, List.getElem?_map, Option.map_eq_some_iff] at h
    obtain ⟨entry, hentry, rfl⟩ := h
    rw [entry.toList_text, address_of_getElem? hentry]
    exact ⟨entry.raw.rightpad 6 ' ' ++ entry.shown, by simp⟩
  · exact hexBytes_injective ((hraw other).symm.trans (h ▸ hraw code))

/-- `00E0` at the last address of a word, and a byte behind it that is past the end of memory. -/
theorem clearAtEnd_listing :
    let clearing := (ListingLine.instruction 0xFFE 0x00E0 .clear).text
    (Text.lines (text [0x00, 0xE0] 0xFFE))[0]? = some clearing ∧
      Text.paddedHex 3 0xFFE ++ [':', ' '] <+: clearing.toList ∧
      (Text.lines (text [0x00, 0xE0] 0xFFE)).flatMap rawColumn = ['0', '0', 'E', '0'] ∧
      text [0x00, 0xE1] 0xFFE ≠ text [0x00, 0xE0] 0xFFE ∧
      text ([0x00, 0xE0] ++ [0x12]) 0xFFE = text [0x00, 0xE0] 0xFFE ++ text [0x12] 0x1000 := by
  intro clearing
  obtain ⟨-, haddress, hraw, -, hother, happend⟩ := listing_loses_nothing [0x00, 0xE0] 0xFFE
  have hline : (Text.lines (text [0x00, 0xE0] 0xFFE))[0]? = some clearing := by
    rw [lines_text]
    decide +kernel
  refine ⟨hline, haddress 0 _ hline, hraw.trans (by decide), fun h => ?_,
    happend [0x12] (by decide) (by decide)⟩
  have hsame := hother [0x00, 0xE1] h
  simp at hsame

end Listing

end ChipEight
