import ChipEight.Address
import ChipEight.Proofs.Numerals
import Mathlib.Data.List.Induction

/-!
The grammar of addresses. A number is one or more digits of a radix, perhaps behind one plus sign;
an address is a hexadecimal number behind `0x` or `0X`, or a decimal number. What is read as an
address is exactly what the grammar has, with the number that it denotes there. A number past the
end of memory has an error of its own, as long as it fits in sixteen bits; every other text has
another.
-/

namespace ChipEight

namespace Text

/-- `c` is the digit `d` of a radix of at most sixteen; letters count in either case. -/
def IsDigit (radix : Nat) (c : Char) (d : Nat) : Prop :=
  d < radix ∧ (c = Nat.digitChar d ∨ c = (Nat.digitChar d).toUpper)

/-- The digits of a text denote a number. There is at least one, and zeros in front are free. -/
inductive Digits (radix : Nat) : List Char → Nat → Prop where
  | one {c : Char} {d : Nat} (h : IsDigit radix c d) : Digits radix [c] d
  | more {text : List Char} {n : Nat} {c : Char} {d : Nat} (front : Digits radix text n)
      (h : IsDigit radix c d) : Digits radix (text ++ [c]) (n * radix + d)

/-- A number: its digits, or a plus sign and its digits. -/
inductive Numeral (radix : Nat) : List Char → Nat → Prop where
  | bare {text : List Char} {n : Nat} (h : Digits radix text n) : Numeral radix text n
  | plus {text : List Char} {n : Nat} (h : Digits radix text n) : Numeral radix ('+' :: text) n

variable {radix limit d n : Nat} {c : Char} {text : List Char}

/-! ### Digits -/

/-- A character with a value below sixteen is the digit of that value. -/
theorem eq_digitChar_of_charValue? (h : charValue? c = some d) (hd : d < 16) :
    c = Nat.digitChar d ∨ c = (Nat.digitChar d).toUpper := by
  have hdigit : ∀ d < 10, Char.ofNat (48 + d) = Nat.digitChar d := by decide
  have hlower : ∀ d < 16, 10 ≤ d → Char.ofNat (87 + d) = Nat.digitChar d := by decide
  have hupper : ∀ d < 16, 10 ≤ d → Char.ofNat (55 + d) = (Nat.digitChar d).toUpper := by decide
  have hcode : ∀ code, c.toNat = code → c = Char.ofNat code := by
    rintro code rfl
    exact c.ofNat_toNat.symm
  rw [charValue?] at h
  split at h
  · rename_i hrange
    have hlow : 48 ≤ c.toNat := hrange.1
    have hhigh : c.toNat ≤ 57 := hrange.2
    have hvalue : c.toNat - 48 = d := Option.some.inj h
    exact .inl ((hcode (48 + d) (by omega)).trans (hdigit d (by omega)))
  split at h
  · rename_i hrange
    have hlow : 97 ≤ c.toNat := hrange.1
    have hvalue : c.toNat - 97 + 10 = d := Option.some.inj h
    exact .inl ((hcode (87 + d) (by omega)).trans (hlower d hd (by omega)))
  split at h
  · rename_i hrange
    have hlow : 65 ≤ c.toNat := hrange.1
    have hvalue : c.toNat - 65 + 10 = d := Option.some.inj h
    exact .inr ((hcode (55 + d) (by omega)).trans (hupper d hd (by omega)))
  · cases h

theorem digitValue?_eq_some_iff (hr : radix ≤ 16) :
    digitValue? radix c = some d ↔ IsDigit radix c d := by
  rw [digitValue?, Option.filter_eq_some_iff, decide_eq_true_iff, IsDigit]
  constructor
  · rintro ⟨hvalue, hd⟩
    exact ⟨hd, eq_digitChar_of_charValue? hvalue (Nat.lt_of_lt_of_le hd hr)⟩
  · rintro ⟨hd, rfl | rfl⟩
    · exact ⟨(charValue?_digitChar d (Nat.lt_of_lt_of_le hd hr)).1, hd⟩
    · exact ⟨(charValue?_digitChar d (Nat.lt_of_lt_of_le hd hr)).2, hd⟩

/-- The last digit is read onto the number in front of it. -/
theorem readDigits_singleton_eq_ok_iff (hr : radix ≤ 16) {value : Nat} :
    readDigits radix limit value [c] = .ok n ↔
      ∃ d, IsDigit radix c d ∧ n = value * radix + d ∧ n < limit := by
  rw [readDigits]
  cases hd : digitValue? radix c with
  | none =>
    simp only [reduceCtorEq, false_iff, not_exists, not_and]
    intro d hdigit
    rw [(digitValue?_eq_some_iff hr).mpr hdigit] at hd
    cases hd
  | some d =>
    have hdigit := (digitValue?_eq_some_iff hr).mp hd
    have hunique : ∀ e, IsDigit radix c e → e = d := by
      intro e he
      rw [(digitValue?_eq_some_iff hr).mpr he] at hd
      exact Option.some.inj hd
    dsimp only
    constructor
    · intro h
      split at h
      · cases h
        exact ⟨d, hdigit, rfl, ‹_›⟩
      · cases h
    · rintro ⟨e, he, rfl, hlt⟩
      obtain rfl := hunique e he
      rw [if_pos hlt]
      rfl

/-- Digits are read as the number that they denote, if that is below the limit. -/
theorem readDigits_eq_ok_iff (hpos : 0 < radix) (hr : radix ≤ 16) (hne : text ≠ []) :
    readDigits radix limit 0 text = .ok n ↔ Digits radix text n ∧ n < limit := by
  constructor
  · intro h
    induction text using List.reverseRecOn generalizing n with
    | nil => exact absurd rfl hne
    | append_singleton front c ih =>
      rw [readDigits_append] at h
      cases hfront : readDigits radix limit 0 front with
      | error e =>
        rw [hfront] at h
        cases h
      | ok value =>
        rw [hfront] at h
        obtain ⟨d, hd, rfl, hlt⟩ := (readDigits_singleton_eq_ok_iff hr).mp h
        refine ⟨?_, hlt⟩
        by_cases hempty : front = []
        · subst hempty
          cases hfront
          rw [Nat.zero_mul, Nat.zero_add]
          exact .one hd
        · exact .more (ih hempty hfront).1 hd
  · rintro ⟨h, hlt⟩
    induction h with
    | one hd => exact (readDigits_singleton_eq_ok_iff hr).mpr ⟨_, hd, by omega, hlt⟩
    | more front hd ih =>
      rename_i text n c d
      have hle : n ≤ n * radix := Nat.le_mul_of_pos_right n hpos
      have hread := ih (by cases front <;> simp) (by omega)
      rw [readDigits_append, hread]
      exact (readDigits_singleton_eq_ok_iff hr).mpr ⟨d, hd, rfl, hlt⟩

/-! ### Numbers -/

theorem Digits.ne_nil (h : Digits radix text n) : text ≠ [] := by
  cases h <;> simp

/-- What is no digit does not stand among digits. -/
theorem Digits.notMem (h : Digits radix text n)
    (hc : ∀ d < radix, c ≠ Nat.digitChar d ∧ c ≠ (Nat.digitChar d).toUpper) : c ∉ text := by
  have hdigit : ∀ {e d}, IsDigit radix e d → c ≠ e := by
    rintro e d ⟨hd, rfl | rfl⟩
    · exact (hc d hd).1
    · exact (hc d hd).2
  induction h with
  | one hd =>
    rw [List.mem_singleton]
    exact hdigit hd
  | more front hd ih =>
    rw [List.mem_append, List.mem_singleton, not_or]
    exact ⟨ih, hdigit hd⟩

theorem Digits.plus_notMem (hr : radix ≤ 16) (h : Digits radix text n) : '+' ∉ text := by
  have hsign : ∀ d < 16, '+' ≠ Nat.digitChar d ∧ '+' ≠ (Nat.digitChar d).toUpper := by decide
  exact h.notMem fun d hd => hsign d (Nat.lt_of_lt_of_le hd hr)

theorem numeral_plus_iff (hr : radix ≤ 16) :
    Numeral radix ('+' :: text) n ↔ Digits radix text n := by
  constructor
  · intro h
    cases h with
    | bare h => exact absurd List.mem_cons_self (h.plus_notMem hr)
    | plus h => exact h
  · exact .plus

theorem numeral_iff_of_bare (hbare : ∀ rest, text ≠ '+' :: rest) :
    Numeral radix text n ↔ Digits radix text n := by
  constructor
  · intro h
    cases h with
    | bare h => exact h
    | plus h => exact absurd rfl (hbare _)
  · exact .bare

/-- A number is read as what it denotes, if that is below the limit, and nothing else is read. -/
theorem readUnsigned_eq_ok_iff (hpos : 0 < radix) (hr : radix ≤ 16) :
    readUnsigned radix limit text = .ok n ↔ Numeral radix text n ∧ n < limit := by
  have hempty : ¬ Digits radix [] n := fun h => h.ne_nil rfl
  unfold readUnsigned
  split
  · rw [numeral_iff_of_bare (by simp)]
    simp [hempty]
  · rw [numeral_plus_iff hr]
    simp [hempty]
  · rename_i digits hsome
    rw [numeral_plus_iff hr]
    exact readDigits_eq_ok_iff hpos hr fun h => hsome (by rw [h])
  · rename_i hne hlone hbare
    rw [numeral_iff_of_bare hbare]
    exact readDigits_eq_ok_iff hpos hr hne

end Text

namespace Address

open Text (Numeral readUnsigned_eq_ok_iff)

variable {text : List Char} {n : Nat}

/-- A hexadecimal number behind its marker, or a decimal number. -/
inductive Denotes : List Char → Nat → Prop where
  | hexadecimal {marker : Char} {text : List Char} {n : Nat} (hm : marker = 'x' ∨ marker = 'X')
      (h : Numeral 16 text n) : Denotes ('0' :: marker :: text) n
  | decimal {text : List Char} {n : Nat} (h : Numeral 10 text n) : Denotes text n

/-- No decimal number begins with a marker. -/
theorem not_numeral_of_marker {marker : Char} (hm : marker = 'x' ∨ marker = 'X') :
    ¬ Numeral 10 ('0' :: marker :: text) n := by
  have hdigit : ∀ d < 10, marker ≠ Nat.digitChar d ∧ marker ≠ (Nat.digitChar d).toUpper := by
    rcases hm with rfl | rfl <;> decide
  intro h
  cases h with
  | bare h => exact h.notMem hdigit (List.mem_cons_of_mem _ List.mem_cons_self)

theorem denotes_marker_iff {marker : Char} (hm : marker = 'x' ∨ marker = 'X') :
    Denotes ('0' :: marker :: text) n ↔ Numeral 16 text n := by
  constructor
  · intro h
    cases h with
    | hexadecimal _ h => exact h
    | decimal h => exact absurd h (not_numeral_of_marker hm)
  · exact .hexadecimal hm

/-- What the grammar has is read as the number that it denotes, if that fits in sixteen bits. -/
theorem readNumber_eq_ok_iff : readNumber text = .ok n ↔ Denotes text n ∧ n < 0x10000 := by
  unfold readNumber
  split
  · rw [denotes_marker_iff (.inl rfl)]
    exact readUnsigned_eq_ok_iff (by decide) (by decide)
  · rw [denotes_marker_iff (.inr rfl)]
    exact readUnsigned_eq_ok_iff (by decide) (by decide)
  · rename_i hlower hupper
    have hdecimal : Denotes text n ↔ Numeral 10 text n := by
      constructor
      · intro h
        cases h with
        | hexadecimal hm _ =>
          rcases hm with rfl | rfl
          · exact absurd rfl (hlower _)
          · exact absurd rfl (hupper _)
        | decimal h => exact h
      · exact .decimal
    rw [hdecimal]
    exact readUnsigned_eq_ok_iff (by decide) (by decide)

/-- A text is malformed if it denotes no number of sixteen bits. -/
theorem readNumber_eq_error_iff :
    (∃ cause, readNumber text = .error cause) ↔ ¬ ∃ n < 0x10000, Denotes text n := by
  cases h : readNumber text with
  | ok n =>
    have hn := readNumber_eq_ok_iff.mp h
    simp only [reduceCtorEq, exists_false, false_iff, not_not]
    exact ⟨n, hn.2, hn.1⟩
  | error cause =>
    simp only [Except.error.injEq, exists_eq', true_iff]
    rintro ⟨n, hlt, hn⟩
    rw [readNumber_eq_ok_iff.mpr ⟨hn, hlt⟩] at h
    cases h

/-! ### The wordings -/

/-- The two errors of an address differ in their first character. -/
theorem message_pastMemory_ne (value : Nat) (text : String) (cause : Text.NumberError) :
    (AddressError.pastMemory value).message ≠ (AddressError.malformed text cause).message := by
  intro h
  have hfirst := congrArg (fun message => message.toList.head?) h
  simp [AddressError.message, Text.hexLiteral, Text.quoted, Text.quotedBy] at hfirst

theorem message_pastMemory_injective {m n : Nat}
    (h : (AddressError.pastMemory m).message = (AddressError.pastMemory n).message) : m = n := by
  have hchars := congrArg String.toList h
  simp only [AddressError.message, Text.hexLiteral, Text.hex, String.toList_append,
    String.toList_ofList, List.append_cancel_right_eq, List.append_cancel_left_eq] at hchars
  exact Text.paddedHex_injective 0 hchars

theorem mapError_eq_error_iff {ε ε' α : Type} {f : ε → ε'} {result : Except ε α} {e' : ε'} :
    result.mapError f = .error e' ↔ ∃ e, result = .error e ∧ f e = e' := by
  cases result <;> simp [Except.mapError]

variable {text : String}

theorem parse_eq_ok_iff {n : UInt16} :
    parse text = .ok n ↔ readNumber text.toList = .ok n.toNat ∧ n ≤ 0xFFF := by
  rw [parse]
  cases h : readNumber text.toList with
  | error cause => simp
  | ok value =>
    have hfits := (readNumber_eq_ok_iff.mp h).2
    have hvalue : UInt16.ofNat value = n ↔ value = n.toNat := by
      rw [← UInt16.toNat_inj, UInt16.toNat_ofNat_of_lt' hfits]
    rw [UInt16.le_iff_toNat_le, Except.ok.injEq]
    dsimp only [UInt16.reduceToNat]
    split
    · rw [Except.ok.injEq, hvalue]
      omega
    · simp only [reduceCtorEq, false_iff]
      omega

theorem parse_eq_pastMemory_iff {n : Nat} :
    parse text = .error (.pastMemory n) ↔ readNumber text.toList = .ok n ∧ 0xFFF < n := by
  rw [parse]
  cases readNumber text.toList with
  | error cause => simp
  | ok value =>
    dsimp only
    split <;> simp <;> omega

theorem parse_eq_malformed_iff {other : String} {cause : Text.NumberError} :
    parse text = .error (.malformed other cause) ↔
      readNumber text.toList = .error cause ∧ other = text := by
  rw [parse]
  cases readNumber text.toList with
  | error cause => simp [and_comm, eq_comm]
  | ok value =>
    dsimp only
    split <;> simp

/-- The report of a number past the end of memory tells which number it was. -/
theorem reports_pastMemory_iff {n : Nat} :
    (parse text).mapError AddressError.message = .error (AddressError.pastMemory n).message ↔
      parse text = .error (.pastMemory n) := by
  rw [mapError_eq_error_iff]
  constructor
  · rintro ⟨e, h, hmessage⟩
    cases e with
    | malformed other cause => exact absurd hmessage.symm (message_pastMemory_ne n other cause)
    | pastMemory m => rw [h, message_pastMemory_injective hmessage]
  · intro h
    exact ⟨_, h, rfl⟩

theorem reports_malformed_iff :
    (∃ cause, (parse text).mapError AddressError.message =
        .error (AddressError.malformed text cause).message) ↔
      ∃ cause, parse text = .error (.malformed text cause) := by
  constructor
  · rintro ⟨cause, hreport⟩
    obtain ⟨e, h, hmessage⟩ := mapError_eq_error_iff.mp hreport
    cases e with
    | malformed other cause' =>
      obtain rfl := (parse_eq_malformed_iff.mp h).2
      exact ⟨cause', h⟩
    | pastMemory n => exact absurd hmessage (message_pastMemory_ne n text cause)
  · rintro ⟨cause, h⟩
    exact ⟨cause, by rw [h]; rfl⟩

/-- A text is read as an address exactly if the grammar has it with a number up to `0xFFF`, and as
that number. It is reported as past the end of memory exactly if it denotes a larger number of
sixteen bits, and with that number; and it is reported as no address in all other cases. -/
theorem parse_follows_grammar (text : String) :
    (∀ n, parse text = .ok n ↔ Denotes text.toList n.toNat ∧ n ≤ 0xFFF) ∧
    (∀ n, (parse text).mapError AddressError.message =
        .error (Text.hexLiteral 0 n ++ " is past the end of memory") ↔
      Denotes text.toList n ∧ 0x1000 ≤ n ∧ n ≤ 0xFFFF) ∧
    ((∃ cause : Text.NumberError, (parse text).mapError AddressError.message =
        .error (Text.quoted text ++ " is not an address: " ++ cause.message)) ↔
      ¬ ∃ n ≤ 0xFFFF, Denotes text.toList n) := by
  refine ⟨fun n => ?_, fun n => ?_, ?_⟩
  · have hfits : n.toNat < 0x10000 := n.toNat_lt
    rw [parse_eq_ok_iff, readNumber_eq_ok_iff, and_iff_left hfits]
  · refine reports_pastMemory_iff.trans ?_
    rw [parse_eq_pastMemory_iff, readNumber_eq_ok_iff, and_assoc]
    exact and_congr_right fun _ => by omega
  · refine reports_malformed_iff.trans ?_
    simp only [parse_eq_malformed_iff, and_true, readNumber_eq_error_iff, Nat.lt_succ_iff]

/-- A sign may stand behind a marker, and a second marker is no digit. -/
example :
    parse "0X+00fF" = .ok 0xFF ∧
      parse "0x0x1" = .error (.malformed "0x0x1" .invalidDigit) ∧
      parse "4096" = .error (.pastMemory 0x1000) := by
  decide

end Address

end ChipEight
