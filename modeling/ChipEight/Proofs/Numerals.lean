import ChipEight.Text.Hex
import ChipEight.Text.Number
import ChipEight.Proofs.Lines

/-!
Written numbers are read back. Hexadecimal text with any number of leading zeros is a text of its
number and of no other. At a width that has room the digits of a word are those of its two bytes. A
colon ends a number.
-/

namespace ChipEight.Text

variable {radix limit value width n : Nat}

/-- Digits are read onto the value of the digits in front of them. -/
theorem readDigits_append (first second : List Char) :
    readDigits radix limit value (first ++ second) =
      (readDigits radix limit value first).bind fun v => readDigits radix limit v second := by
  induction first generalizing value with
  | nil => rfl
  | cons c first ih =>
    rw [List.cons_append, readDigits, readDigits]
    cases digitValue? radix c with
    | none => rfl
    | some digit =>
      dsimp only
      split
      · exact ih
      · rfl

/-- The digit of a value below sixteen has that value in either case. -/
theorem charValue?_digitChar : ∀ d < 16,
    charValue? (Nat.digitChar d) = some d ∧ charValue? (Nat.digitChar d).toUpper = some d := by
  decide

theorem readDigits_digit (value : Nat) {d : Nat} (hd : d < 16) (h : value * 16 + d < limit) :
    readDigits 16 limit value [(Nat.digitChar d).toUpper] = .ok (value * 16 + d) := by
  have hvalue : digitValue? 16 (Nat.digitChar d).toUpper = some d := by
    rw [digitValue?, (charValue?_digitChar d hd).2, Option.filter_some, if_pos (decide_eq_true hd)]
  rw [readDigits, hvalue]
  simp only [if_pos h]
  rfl

theorem readDigits_hexDigits (h : n < limit) : readDigits 16 limit 0 (hexDigits n) = .ok n := by
  induction n using Nat.strongRecOn with
  | ind n ih =>
    rw [hexDigits, Nat.toDigits_eq_if (by decide)]
    split
    · rename_i hdigit
      have hread := readDigits_digit 0 hdigit (by omega : 0 * 16 + n < limit)
      rwa [Nat.zero_mul, Nat.zero_add] at hread
    · have hhigh := ih (n / 16) (by omega) (by omega)
      rw [hexDigits] at hhigh
      rw [List.map_append, readDigits_append, hhigh, List.map_singleton]
      have hlast := readDigits_digit (n / 16) (Nat.mod_lt n (by decide))
        (by omega : n / 16 * 16 + n % 16 < limit)
      rw [Nat.div_add_mod'] at hlast
      exact hlast

/-- Leading zeros add nothing. -/
theorem readDigits_zeros (h : 0 < limit) (count : Nat) (digits : List Char) :
    readDigits 16 limit 0 (List.replicate count '0' ++ digits) = readDigits 16 limit 0 digits := by
  have hzero : digitValue? 16 '0' = some 0 := by decide
  induction count with
  | zero => rfl
  | succ count ih =>
    rw [List.replicate_succ, List.cons_append, readDigits, hzero]
    simp only [Nat.zero_mul, Nat.add_zero, if_pos h]
    exact ih

theorem readDigits_paddedHex (width : Nat) (h : n < limit) :
    readDigits 16 limit 0 (paddedHex width n) = .ok n := by
  rw [paddedHex, List.leftpad, readDigits_zeros (Nat.zero_lt_of_lt h), readDigits_hexDigits h]

theorem paddedHex_injective (width : Nat) : Function.Injective (paddedHex width) := by
  intro m n heq
  have hm := readDigits_paddedHex width (show m < m + n + 1 by omega)
  have hn := readDigits_paddedHex width (show n < m + n + 1 by omega)
  rw [heq, hn] at hm
  cases hm
  rfl

theorem toDigits_injective : Function.Injective (Nat.toDigits 10) := by
  intro m n h
  have hread := congrArg (fun digits => Nat.ofDigitChars 10 digits 0) h
  simpa using hread

/-! ### Digits at fixed widths -/

theorem paddedHex_one (h : n < 16) : paddedHex 1 n = [(Nat.digitChar n).toUpper] := by
  simp [paddedHex, hexDigits, List.leftpad, Nat.toDigits_of_lt_base h]

/-- The last digit stands behind those of a sixteenth, if there is room for one more. -/
theorem paddedHex_succ (hwidth : 0 < width) (n : Nat) :
    paddedHex (width + 1) n = paddedHex width (n / 16) ++ [(Nat.digitChar (n % 16)).toUpper] := by
  rcases Nat.lt_or_ge n 16 with hn | hn
  · -- the sixteenth is written as a zero, which counts among the zeros in front
    obtain ⟨zeros, rfl⟩ := Nat.exists_eq_succ_of_ne_zero (Nat.ne_of_gt hwidth)
    simp [paddedHex, hexDigits, List.leftpad, Nat.div_eq_of_lt hn, Nat.mod_eq_of_lt hn,
      Nat.toDigits_of_lt_base hn, List.replicate_succ']
  · have hdigits : hexDigits n = hexDigits (n / 16) ++ [(Nat.digitChar (n % 16)).toUpper] := by
      rw [hexDigits, Nat.toDigits_eq_if (by decide), if_neg (Nat.not_lt.mpr hn)]
      simp [hexDigits]
    rw [paddedHex, paddedHex, hdigits, List.leftpad, List.leftpad]
    simp

/-- A number that fits takes exactly the width. -/
theorem length_paddedHex (hwidth : 0 < width) (h : n < Nat.pow 16 width) :
    (paddedHex width n).length = width := by
  induction width generalizing n with
  | zero => cases hwidth
  | succ width ih =>
    rcases Nat.eq_zero_or_pos width with rfl | hpos
    · rw [paddedHex_one h]
      rfl
    · have hsixteenth : n / 16 < Nat.pow 16 width := by
        have hpow : Nat.pow 16 (width + 1) = Nat.pow 16 width * 16 := rfl
        omega
      rw [paddedHex_succ hpos, List.length_append, ih hpos hsixteenth]
      rfl

/-- The two digits of a byte. -/
theorem paddedHex_byte (h : n < 0x100) :
    paddedHex 2 n = [(Nat.digitChar (n / 16)).toUpper, (Nat.digitChar (n % 16)).toUpper] := by
  rw [paddedHex_succ Nat.one_pos, paddedHex_one (by omega)]
  rfl

/-- The digits of a word are those of its two bytes. -/
theorem paddedHex_two_bytes (high : Nat) {low : Nat} (h : low < 0x100) :
    paddedHex 4 (high * 0x100 + low) = paddedHex 2 high ++ paddedHex 2 low := by
  have hhigh : (high * 0x100 + low) / 16 / 16 = high := by omega
  have hthird : (high * 0x100 + low) / 16 % 16 = low / 16 := by omega
  have hfourth : (high * 0x100 + low) % 16 = low % 16 := by omega
  rw [paddedHex_succ (by decide), paddedHex_succ (by decide), hhigh, hthird, hfourth,
    paddedHex_byte h, List.append_assoc]
  rfl

/-! ### Where a number ends -/

theorem colon_notMem_paddedHex (width n : Nat) : ':' ∉ paddedHex width n :=
  notMem_paddedHex (by decide) width n

/-- A text that begins with a number and a colon begins with no other number and a colon. -/
theorem eq_of_paddedHex_prefix {width m : Nat} {first second : List Char}
    (h : paddedHex width m ++ ':' :: first <+: paddedHex width n ++ ':' :: second) : m = n := by
  have hdigits : ∀ (k : Nat) (rest : List Char),
      (paddedHex width k ++ ':' :: rest).takeWhile (· ≠ ':') = paddedHex width k := by
    intro k rest
    have hall := forall_ne_of_notMem (colon_notMem_paddedHex width k)
    rw [List.takeWhile_append_of_pos hall, List.takeWhile_cons_of_neg (by decide), List.append_nil]
  obtain ⟨rest, hrest⟩ := h
  rw [List.append_assoc, List.cons_append] at hrest
  have htake := congrArg (List.takeWhile (· ≠ ':')) hrest
  rw [hdigits, hdigits] at htake
  exact paddedHex_injective width htake

end ChipEight.Text
