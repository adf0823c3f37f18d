import ChipEight.Proofs.Decoding
import Mathlib.Data.List.Basic

/-!
The order of the table. Of the patterns that fit a word the first in the table decides, so a pattern
decides exactly if it stands in front of all others that fit. Two patterns of the table fit one word
only if one of them is `0nnn` and the other `00E0` or `00EE`; so the order of all others is free.
-/

namespace ChipEight

namespace Pattern

/-- The pattern of `00E0`. -/
def clear : Pattern := ⟨0xFFFF, 0x00E0, .clear⟩

/-- The pattern of `00EE`. -/
def ret : Pattern := ⟨0xFFFF, 0x00EE, .ret⟩

/-- The pattern of `0nnn`. -/
def native : Pattern := ⟨0xF000, 0x0000, .native⟩

/-- Whether `p` stands in front of `q` in a table. -/
def InFront (table : List Pattern) (p q : Pattern) : Prop := table.idxOf p < table.idxOf q

instance (table : List Pattern) (p q : Pattern) : Decidable (InFront table p q) :=
  inferInstanceAs (Decidable (table.idxOf p < table.idxOf q))

variable {table : List Pattern} {p q : Pattern} {w : Word}

theorem fits_of_find? (h : table.find? (·.fits w) = some p) : p.fits w = true := by
  have hfit := List.find?_some h
  exact hfit

/-- A pattern decides if no pattern before its first place fits. -/
theorem find?_split_eq_some_iff {before behind : List Pattern} (hp : p ∉ before)
    (hfit : p.fits w = true) :
    (before ++ p :: behind).find? (·.fits w) = some p ↔ ∀ q ∈ before, ¬ q.fits w = true := by
  rw [List.find?_append, List.find?_cons, hfit, ← List.find?_eq_none]
  cases hfound : before.find? (·.fits w) with
  | none => simp
  | some q => simp [ne_of_mem_of_not_mem (List.mem_of_find?_eq_some hfound) hp]

/-- Of the patterns that fit, the one in front of all others decides. -/
theorem find?_eq_some_iff_inFront (hp : p ∈ table) (hfit : p.fits w = true) :
    table.find? (·.fits w) = some p ↔
      ∀ q ∈ table, q.fits w = true → q ≠ p → InFront table p q := by
  obtain ⟨before, behind, rfl, hbefore⟩ := List.eq_append_cons_of_mem hp
  have hplace : (before ++ p :: behind).idxOf p = before.length := by
    rw [List.idxOf_append_of_notMem hbefore, List.idxOf_cons_self, Nat.add_zero]
  rw [find?_split_eq_some_iff hbefore hfit]
  constructor
  · intro h q hq hqfit hne
    have hnot : q ∉ before := fun hmem => h q hmem hqfit
    rw [InFront, hplace, List.idxOf_append_of_notMem hnot, List.idxOf_cons_ne _ hne.symm]
    omega
  · intro h q hmem hqfit
    have hfront := h q (List.mem_append_left _ hmem) hqfit (ne_of_mem_of_not_mem hmem hbefore)
    rw [InFront, hplace, List.idxOf_append_of_mem hmem] at hfront
    exact absurd (List.idxOf_lt_length_of_mem hmem) (Nat.lt_asymm hfront)

/-- Two patterns that a word could fit are `0nnn` and one of the two that stand in front of it. -/
theorem native_of_compatible : ∀ p ∈ patterns, ∀ q ∈ patterns, q ≠ p → p.Compatible q →
    (q = native ∧ (p = clear ∨ p = ret)) ∨ (p = native ∧ (q = clear ∨ q = ret)) := by
  decide +kernel

end Pattern

open Pattern

variable {table : List Pattern} {p : Pattern} {w : Word}

/-- The pattern that decides in a table decides in any other in which `0nnn` does not stand in front
of it. -/
theorem find?_eq_some_of_perm (h : table.Perm patterns) (hclear : InFront table clear native)
    (hret : InFront table ret native) (hfound : patterns.find? (·.fits w) = some p) :
    table.find? (·.fits w) = some p := by
  have hp := List.mem_of_find?_eq_some hfound
  have hfit := fits_of_find? hfound
  rw [find?_eq_some_iff_inFront (h.mem_iff.mpr hp) hfit]
  intro q hq hqfit hne
  have hmem := h.mem_iff.mp hq
  obtain ⟨rfl, rfl | rfl⟩ | ⟨rfl, hexact⟩ :=
    native_of_compatible p hp q hmem hne (compatible_of_fits hfit hqfit)
  · exact hclear
  · exact hret
  · -- `0nnn` does not decide in the table itself where an exact pattern fits.
    have hfront := (find?_eq_some_iff_inFront hp hfit).mp hfound q hmem hqfit hne
    obtain rfl | rfl := hexact <;> exact absurd hfront (by decide)

/-- If a table finds the family of an exact pattern in its word, that pattern is in front. -/
theorem inFront_of_firstFamily? (h : table.Perm patterns) (hp : p ∈ patterns) (hne : native ≠ p)
    (hnative : native.fits w = true) (hfound : firstFamily? table w = some p.family) :
    InFront table p native := by
  obtain ⟨q, hq, hfamily⟩ := Option.map_eq_some_iff.mp hfound
  have hmem := List.mem_of_find?_eq_some hq
  obtain rfl := patterns_injective q (h.mem_iff.mp hmem) p hp hfamily
  exact (find?_eq_some_iff_inFront hmem (fits_of_find? hq)).mp hq native
    (h.mem_iff.mpr (by decide)) hnative hne

/-- A table of the same patterns in another order finds for every word what the table finds, exactly
if the two exact patterns stand in front of `0nnn` there too. -/
theorem order_matters_only_for_native (h : table.Perm patterns) :
    (∀ w, firstFamily? table w = family? w) ↔
      InFront table clear native ∧ InFront table ret native := by
  constructor
  · intro hsame
    exact ⟨inFront_of_firstFamily? h (by decide) (by decide) (by decide) (hsame 0x00E0),
      inFront_of_firstFamily? h (by decide) (by decide) (by decide) (hsame 0x00EE)⟩
  · rintro ⟨hclear, hret⟩ w
    rw [family?, firstFamily?, firstFamily?]
    congr 1
    cases hfound : patterns.find? (·.fits w) with
    | none =>
      rw [List.find?_eq_none] at hfound ⊢
      exact fun q hq => hfound q (h.mem_iff.mp hq)
    | some p => exact find?_eq_some_of_perm h hclear hret hfound

/-- The table backwards, but for `0nnn`, which stands at the end. -/
def backwards : List Pattern := patterns.reverse.erase native ++ [native]

theorem backwards_finds_families :
    (∀ w, firstFamily? backwards w = family? w) ∧
      ¬ ∀ w, firstFamily? patterns.reverse w = family? w := by
  constructor
  · exact (order_matters_only_for_native (by decide +kernel)).mpr (by decide +kernel)
  · intro hsame
    have hfront := (order_matters_only_for_native patterns.reverse_perm).mp hsame
    exact absurd hfront (by decide +kernel)

end ChipEight
