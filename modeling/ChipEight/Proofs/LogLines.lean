import ChipEight.Logging
import ChipEight.Proofs.Lines

/-!
Logs as lines. No event is worded over more than one line, so a log is taken apart into the lines of
the events it shows.
-/

namespace ChipEight

namespace Text

theorem inline_ofList {text : List Char} (h : '\n' ∉ text) : Inline (String.ofList text) := by
  rwa [Inline, String.toList_ofList]

theorem newline_notMem_decimals (places remainder : Nat) : '\n' ∉ decimals places remainder := by
  intro h
  rw [decimals, List.mem_reverse] at h
  have hpadded := List.mem_reverse.mp ((List.dropWhile_sublist _).mem h)
  rw [List.leftpad, List.mem_append] at hpadded
  rcases hpadded with hzero | hdigit
  · cases List.eq_of_mem_replicate hzero
  · cases Nat.isDigit_of_mem_toDigits (by decide) (by decide) hdigit

theorem Inline.inUnits {unit : String} (h : Inline unit) (places nanos : Nat) :
    Inline (inUnits places nanos unit) := by
  have hpoint : Inline "." := by simp [Inline]
  rw [Text.inUnits]
  split
  · exact (inline_toString _).append h
  · have hdecimals := inline_ofList (newline_notMem_decimals places (nanos % Nat.pow 10 places))
    exact (((inline_toString _).append hpoint).append hdecimals).append h

theorem inline_span (nanos : Nat) : Inline (span nanos) := by
  rw [span]
  split
  · exact Inline.inUnits (by simp [Inline]) 9 nanos
  · split
    · exact Inline.inUnits (by simp [Inline]) 6 nanos
    · split
      · exact Inline.inUnits (by simp [Inline]) 3 nanos
      · exact Inline.inUnits (by simp [Inline]) 0 nanos

theorem newline_notMem_codeEscape (c : Char) : '\n' ∉ codeEscape c := by
  have hdigit : ∀ d < 16, '\n' ≠ Nat.digitChar d := by decide
  intro h
  simp only [codeEscape, List.mem_append, List.mem_cons, List.not_mem_nil, or_false] at h
  rcases h with (hopen | hcode) | hclose
  · revert hopen
    decide
  · obtain ⟨d, hd, heq⟩ := exists_digit_of_mem hcode
    exact hdigit d hd heq
  · cases hclose

/-- The newline has a letter of its own. -/
theorem newline_notMem_escaped (delimiter c : Char) : '\n' ∉ escaped delimiter c := by
  by_cases hnewline : c = '\n'
  · simp [escaped, hnewline]
  · have hother : '\n' ≠ c := Ne.symm hnewline
    have hcode := newline_notMem_codeEscape c
    rw [escaped]
    repeat' split
    all_goals simp_all

theorem inline_quotedChar (c : Char) : Inline (quotedChar c) := by
  refine inline_ofList ?_
  rw [List.flatMap_singleton, List.mem_append, List.mem_cons, List.mem_singleton]
  rintro ((hopen | h) | hclose)
  · cases hopen
  · exact newline_notMem_escaped _ c h
  · cases hclose

end Text

open Text (Inline)

instance (text : String) : Decidable (Inline text) :=
  inferInstanceAs (Decidable ('\n' ∉ text.toList))

theorem Fault.inline_message (f : Fault) : Inline f.message := by
  have haddress := Text.inline_hexLiteral 3
  have hword := Text.inline_hexLiteral 4
  cases f with
  | fetch => exact (Inline.append (by decide) (haddress _)).append (by decide)
  | unknownInstruction =>
    exact ((Inline.append (by decide) (hword _)).append (by decide)).append (haddress _)
  | stackOverflow | stackUnderflow =>
    exact (((Inline.append (by decide) (haddress _)).append (by decide)).append (hword _)).append
      (by decide)

theorem KeyError.inline_message (e : KeyError) : Inline e.message :=
  (Inline.append (by decide) (Text.inline_hexLiteral 0 e.key)).append (by decide)

namespace Event

theorem inline_text (e : Event) : Inline e.text := by
  have haddress := Text.inline_hexLiteral 3
  cases e with
  | machineReset => exact (by decide : Inline "machine reset")
  | programLoaded size =>
    exact (Inline.append (by decide) (Text.inline_toString size)).append (by decide)
  | executing pc word i =>
    have hword := Text.inline_hex 4 word.toNat
    exact ((((haddress _).append (by decide)).append hword).append (by decide)).append
      i.inline_mnemonic
  | nativeCall =>
    exact (((haddress _).append (by decide)).append (haddress _)).append (by decide)
  | clockStarted cycles period =>
    have hcycles := Text.inline_toString cycles
    exact ((Inline.append (by decide) hcycles).append (by decide)).append (Text.inline_span period)
  | clockResumed | clockStopped | listingFrom => exact Inline.append (by decide) (haddress _)
  | clockBehind period =>
    exact (Inline.append (by decide) (Text.inline_span period)).append (by decide)
  | faulted fault => exact fault.inline_message
  | keyRefused error => exact error.inline_message
  | keyUnmapped c => exact Inline.append (by decide) (Text.inline_quotedChar c)

theorem inline_logLine (e : Event) : Inline e.logLine := by
  have hlevel : Inline (String.ofList (e.level.name.toList.rightpad 5 ' ')) := by
    cases e.level <;> decide
  have hsource : Inline e.source := by
    cases e <;> simp [Inline, source]
  exact ((((Inline.append (by decide) hlevel).append (by decide)).append hsource).append
    (by decide)).append e.inline_text

theorem toList_logLine (e : Event) :
    e.logLine.toList =
      '[' :: (e.level.name.toList.rightpad 5 ' ' ++
        ' ' :: (e.source.toList ++ ']' :: ' ' :: e.text.toList)) := by
  simp [logLine]

end Event

/-- The lines of a log are those of the events it shows. -/
theorem lines_logText (limit : Option Level) (events : List Event) :
    Text.lines (logText limit events) = (events.filter (·.shownAt limit)).map Event.logLine := by
  have hinline : ∀ line ∈ (events.filter (·.shownAt limit)).map Event.logLine, Inline line := by
    intro line hline
    obtain ⟨e, -, rfl⟩ := List.mem_map.mp hline
    exact e.inline_logLine
  rw [← Text.lines_join hinline, logText, List.map_map]
  rfl

end ChipEight
