import ChipEight.Instruction.Lemmas

/-!
Which words decode to what. Two patterns that fit one word ask for the same bits where they ask for
the same places, and in the table that happens only between `0nnn` and the two exact patterns before
it. So a family other than `native` is found exactly if its pattern fits.
-/

namespace ChipEight

theorem Pattern.fits_iff (p : Pattern) (w : Word) : p.fits w = true ↔ w &&& p.mask = p.value := by
  simp [fits]

/-- Whether some word could fit both patterns. -/
def Pattern.Compatible (p q : Pattern) : Prop := p.value &&& q.mask = q.value &&& p.mask

instance (p q : Pattern) : Decidable (p.Compatible q) :=
  inferInstanceAs (Decidable (p.value &&& q.mask = q.value &&& p.mask))

theorem Pattern.compatible_of_fits {p q : Pattern} {w : Word} (hp : p.fits w = true)
    (hq : q.fits w = true) : p.Compatible q := by
  rw [fits_iff] at hp hq
  rw [Compatible, ← hp, ← hq, UInt16.and_assoc, UInt16.and_assoc, UInt16.and_comm p.mask]

/-- No pattern of the table is compatible with an earlier one, but for `0nnn`. -/
theorem patterns_pairwise :
    patterns.Pairwise fun q p => p.family = .native ∨ ¬ q.Compatible p := by
  decide +kernel

/-- Every family has one pattern. -/
theorem patterns_injective :
    ∀ p ∈ patterns, ∀ q ∈ patterns, p.family = q.family → p = q := by
  decide +kernel

/-- A family other than `native` is found exactly if its pattern fits. -/
theorem family?_eq_some_iff {p : Pattern} {w : Word} (hp : p ∈ patterns) (hn : p.family ≠ .native) :
    family? w = some p.family ↔ p.fits w = true := by
  rw [family?, firstFamily?, Option.map_eq_some_iff]
  constructor
  · rintro ⟨q, hq, hqp⟩
    obtain rfl := patterns_injective q (List.mem_of_find?_eq_some hq) p hp hqp
    have hfit := List.find?_some hq
    exact hfit
  · intro hf
    refine ⟨p, ?_, rfl⟩
    obtain ⟨before, behind, hsplit, -⟩ := List.eq_append_cons_of_mem hp
    rw [List.find?_eq_some_iff_append]
    refine ⟨hf, before, behind, hsplit, fun q hq => ?_⟩
    have hpair := patterns_pairwise
    rw [hsplit, List.pairwise_append] at hpair
    have hqp := hpair.2.2 q hq p (List.mem_cons_self ..)
    rw [Bool.not_eq_true', Bool.eq_false_iff]
    intro hfit
    exact hqp.elim hn fun h => h (Pattern.compatible_of_fits hfit hf)

/-- A word has no family exactly if it fits no pattern. -/
theorem decode_eq_none_iff (w : Word) : decode w = none ↔ ∀ p ∈ patterns, p.fits w = false := by
  simp [decode, family?, firstFamily?]

theorem decode_eq_some_iff (w : Word) (i : Instruction) :
    decode w = some i ↔ ∃ f, family? w = some f ∧ f.instruction w = i := by
  rw [decode, Option.map_eq_some_iff]

/-- The words of a family other than `native` are those with its bits under its mask. -/
theorem family?_eq_some_iff_mask {mask value : Word} (f : Family) (hp : ⟨mask, value, f⟩ ∈ patterns)
    (hn : f ≠ .native) (w : Word) : family? w = some f ↔ w &&& mask = value := by
  rw [← Pattern.fits_iff ⟨mask, value, f⟩ w]
  exact family?_eq_some_iff hp hn

theorem mask_of_family {mask value w : Word} {f : Family} (hf : family? w = some f)
    (hp : ⟨mask, value, f⟩ ∈ patterns) (hn : f ≠ .native) : w &&& mask = value :=
  (family?_eq_some_iff_mask f hp hn w).mp hf

/-- A word with the bits of a family other than `native` is an instruction of that family. -/
theorem decode_of_mask {mask value : Word} (f : Family) (hp : ⟨mask, value, f⟩ ∈ patterns)
    (hn : f ≠ .native) {w : Word} (h : w &&& mask = value) :
    decode w = some (f.instruction w) :=
  (decode_eq_some_iff w _).mpr ⟨f, (family?_eq_some_iff_mask f hp hn w).mpr h, rfl⟩

/-- Only `00EE` returns. -/
theorem decode_eq_ret_iff (w : Word) : decode w = some .ret ↔ w = 0x00EE := by
  have hbits : family? w = some .ret ↔ w &&& 0xFFFF = 0x00EE :=
    family?_eq_some_iff_mask .ret (by decide) (by decide) w
  rw [show (0xFFFF : UInt16) = -1 from rfl, UInt16.and_neg_one] at hbits
  rw [← hbits, decode_eq_some_iff]
  constructor
  · rintro ⟨f, hf, hi⟩
    cases f <;> simp only [Family.instruction, reduceCtorEq] at hi
    exact hf
  · intro hf
    exact ⟨.ret, hf, rfl⟩

/-- The words that call are those whose highest digit is two. -/
theorem decode_eq_call_iff (w : Word) (nnn : UInt16) :
    decode w = some (.call nnn) ↔ w &&& 0xF000 = 0x2000 ∧ nnn = w.nnn := by
  rw [← family?_eq_some_iff_mask .call (by decide) (by decide), decode_eq_some_iff]
  constructor
  · rintro ⟨f, hf, hi⟩
    cases f <;> simp only [Family.instruction, reduceCtorEq, Instruction.call.injEq] at hi
    exact ⟨hf, hi.symm⟩
  · rintro ⟨hf, rfl⟩
    exact ⟨.call, hf, rfl⟩

/-- The words of native calls: the highest digit is zero, and they are neither `00E0` nor `00EE`. -/
def Word.callsNative (w : Word) : Bool := w &&& 0xF000 = 0 && w ≠ 0x00E0 && w ≠ 0x00EE

theorem Word.callsNative_iff (w : Word) :
    w.callsNative = true ↔ w &&& 0xF000 = 0 ∧ w ≠ 0x00E0 ∧ w ≠ 0x00EE := by
  simp [callsNative, and_assoc]

/-- The two exact patterns before `0nnn` are the only ones that it gives way to. -/
theorem family?_eq_native_iff (w : Word) : family? w = some .native ↔ w.callsNative = true := by
  rw [Word.callsNative_iff]
  constructor
  · intro h
    obtain ⟨p, hp, hfamily⟩ := Option.map_eq_some_iff.mp h
    obtain rfl := patterns_injective p (List.mem_of_find?_eq_some hp) ⟨0xF000, 0x0000, .native⟩
      (by decide) hfamily
    have hfit := List.find?_some hp
    have hfits := (Pattern.fits_iff _ w).mp hfit
    refine ⟨hfits, ?_, ?_⟩
    · rintro rfl
      revert h
      decide
    · rintro rfl
      revert h
      decide
  · rintro ⟨hfits, hclear, hret⟩
    have hmask : w &&& 0xFFFF = w := UInt16.and_neg_one
    have hfirst : (⟨0xFFFF, 0x00E0, .clear⟩ : Pattern).fits w = false := by
      simpa [Pattern.fits, hmask] using hclear
    have hsecond : (⟨0xFFFF, 0x00EE, .ret⟩ : Pattern).fits w = false := by
      simpa [Pattern.fits, hmask] using hret
    have hthird : (⟨0xF000, 0x0000, .native⟩ : Pattern).fits w = true :=
      (Pattern.fits_iff _ w).mpr hfits
    rw [family?, firstFamily?, patterns, List.find?_cons, hfirst, List.find?_cons, hsecond,
      List.find?_cons, hthird]
    rfl

theorem decode_eq_native_iff (w : Word) (nnn : UInt16) :
    decode w = some (.native nnn) ↔ w.callsNative = true ∧ nnn = w.nnn := by
  rw [← family?_eq_native_iff, decode_eq_some_iff]
  constructor
  · rintro ⟨f, hf, hi⟩
    cases f <;> simp only [Family.instruction, reduceCtorEq, Instruction.native.injEq] at hi
    exact ⟨hf, hi.symm⟩
  · rintro ⟨hf, rfl⟩
    exact ⟨.native, hf, rfl⟩

/-- The address of an operand that is one. -/
def Operand.address? : Operand → Option UInt16
  | .address value => some value
  | _ => none

/-- The addresses that an instruction names. -/
def Instruction.addresses (i : Instruction) : List UInt16 := i.operands.filterMap Operand.address?

/-- The number of rows of an operand that is one. -/
def Operand.count? : Operand → Option UInt8
  | .count value => some value
  | _ => none

/-- The row counts that an instruction names. -/
def Instruction.counts (i : Instruction) : List UInt8 := i.operands.filterMap Operand.count?

theorem Word.n_lt (w : Word) : w.n.toNat < 16 := by
  rw [n, UInt8.toNat_ofNat']
  omega

theorem Word.nnn_le (w : Word) : w.nnn ≤ 0xFFF := by
  rw [UInt16.le_iff_toNat_le, nnn, UInt16.toNat_ofNat']
  have := Nat.mod_lt w.toNat (show 0 < 0x1000 by decide)
  simp only [UInt16.reduceToNat]
  omega

/-- The addresses of a decoded word lie in memory. -/
theorem addresses_le_of_decode {w : Word} {i : Instruction} (h : decode w = some i) :
    ∀ a ∈ i.addresses, a ≤ 0xFFF := by
  rw [decode_eq_some_iff] at h
  obtain ⟨f, -, rfl⟩ := h
  have hw := w.nnn_le
  cases f <;>
    simp [Family.instruction, Instruction.addresses, Instruction.operands, Operand.address?, hw]

/-- A decoded word draws fewer than sixteen rows. -/
theorem counts_lt_of_decode {w : Word} {i : Instruction} (h : decode w = some i) :
    ∀ n ∈ i.counts, n.toNat < 16 := by
  rw [decode_eq_some_iff] at h
  obtain ⟨f, -, rfl⟩ := h
  have hw := w.n_lt
  cases f <;>
    simp [Family.instruction, Instruction.counts, Instruction.operands, Operand.count?, hw]

end ChipEight
