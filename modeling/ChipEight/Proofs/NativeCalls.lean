import ChipEight.Proofs.Chronicle
import ChipEight.Proofs.LogLines
import ChipEight.Proofs.Numerals
import ChipEight.Proofs.Settings

/-!
Native calls are warned of once for each address. From one reset to the next the addresses of such
calls are remembered: an address is remembered if and only if there was a call at it, and the
warnings that name it are one if it became remembered and none if it did not. A line of the log
names its address beyond doubt, because a written number is read back.
-/

namespace ChipEight

/-! ### Calls and warnings -/

theorem isNative_iff {w : Word} {i : Instruction} (hd : decode w = some i) :
    (∃ nnn, i = .native nnn) ↔ w.callsNative = true := by
  constructor
  · rintro ⟨nnn, rfl⟩
    exact ((decode_eq_native_iff w nnn).mp hd).1
  · intro hnative
    have hcall := (decode_eq_native_iff w w.nnn).mpr ⟨hnative, rfl⟩
    exact ⟨w.nnn, Option.some.inj (hd.symm.trans hcall)⟩

/-- Whether an event tells that a native call was executed at `a`. -/
def Event.callsNativeAt (a : UInt16) : Event → Bool
  | .executing pc word _ => pc = a && word.callsNative
  | _ => false

/-- Whether an event warns of a native call at `a`. -/
def Event.warnsAt (a : UInt16) : Event → Bool
  | .nativeCall pc _ => pc = a
  | _ => false

/-- Whether a line of a log warns of a native call at `a`. -/
def lineWarnsAt (a : UInt16) (line : String) : Bool :=
  ("[WARN  chip8vm::chip8] " ++ Text.hexLiteral 3 a.toNat
    ++ ": native routine call").toList.isPrefixOf line.toList

theorem lineWarnsAt_nativeCall_iff (a pc target : UInt16) :
    lineWarnsAt a (Event.nativeCall pc target).logLine = true ↔ pc = a := by
  have hstart : ("[WARN  chip8vm::chip8] " ++ Text.hexLiteral 3 a.toNat
      ++ ": native routine call").toList =
        "[WARN  chip8vm::chip8] 0x".toList ++
          (Text.paddedHex 3 a.toNat ++ ':' :: " native routine call".toList) := by
    simp [Text.hexLiteral, Text.hex]
  have hline : (Event.nativeCall pc target).logLine.toList =
      "[WARN  chip8vm::chip8] 0x".toList ++
        (Text.paddedHex 3 pc.toNat ++ ':' :: (" native routine call".toList ++
          (" " ++ Text.hexLiteral 3 target.toNat ++ " is not supported, ignoring").toList)) := by
    have htext : (Event.nativeCall pc target).text =
        Text.hexLiteral 3 pc.toNat ++ ": native routine call " ++ Text.hexLiteral 3 target.toNat
          ++ " is not supported, ignoring" := rfl
    simp [Event.toList_logLine, htext, Event.level, Event.source, Level.name, List.rightpad,
      Text.hexLiteral, Text.hex]
  rw [lineWarnsAt, List.isPrefixOf_iff_prefix, hstart, hline, List.prefix_append_right_inj]
  constructor
  · intro h
    exact (UInt16.toNat_inj.mp (Text.eq_of_paddedHex_prefix h)).symm
  · rintro rfl
    rw [List.prefix_append_right_inj, List.cons_prefix_cons]
    exact ⟨rfl, List.prefix_append _ _⟩

theorem lineWarnsAt_logLine (a : UInt16) (e : Event) : lineWarnsAt a e.logLine = e.warnsAt a := by
  cases e with
  | nativeCall pc target =>
    rw [Bool.eq_iff_iff, lineWarnsAt_nativeCall_iff, Event.warnsAt, decide_eq_true_iff]
  | _ =>
    simp [lineWarnsAt, Event.toList_logLine, Event.warnsAt, Event.level, Event.source, Level.name,
      List.rightpad, List.isPrefixOf_cons_cons]

/-- A log that shows warnings tells of all of them. -/
theorem countP_lineWarnsAt_logText {level : Level} (hlevel : Level.warn.rank ≤ level.rank)
    (a : UInt16) (events : List Event) :
    (Text.lines (logText (some level) events)).countP (lineWarnsAt a) =
      events.countP (Event.warnsAt a) := by
  rw [lines_logText, List.countP_map, List.countP_filter]
  refine List.countP_congr fun e _ => ?_
  rw [Function.comp_apply, lineWarnsAt_logLine]
  cases e with
  | nativeCall pc target => simp [Event.shownAt, Event.level, hlevel]
  | _ => simp [Event.warnsAt]

/-! ### What is remembered -/

namespace Interpreter

variable (s : Interpreter) (i : Instruction) (a : UInt16)

/-- A native call warns at its own address, unless that was reported. -/
theorem countP_warnsAt_warnings {word : Word} (hd : decode word = some i) :
    (s.warnings i).countP (Event.warnsAt a) =
      if word.callsNative = true ∧ a = s.machine.pc ∧ a ∉ s.reported then 1 else 0 := by
  have hnative := isNative_iff hd
  cases i with
  | native nnn =>
    have hcall : word.callsNative = true := hnative.mp ⟨nnn, rfl⟩
    rw [warnings]
    split <;> grind [Event.warnsAt]
  | _ => simp [warnings, ← hnative]

theorem any_callsNativeAt_warnings :
    (s.warnings i).any (Event.callsNativeAt a) = false := by
  cases i with
  | native nnn =>
    rw [warnings]
    split <;> rfl
  | _ => rfl

/-- A cycle tells of a native call at `a` if the word at the program counter is one, and it is at
`a`. -/
theorem any_callsNativeAt_cycle :
    s.cycle.events.any (Event.callsNativeAt a) = true ↔
      a = s.machine.pc ∧ ∃ word, s.word? = some word ∧ word.callsNative = true := by
  cases hw : s.word? with
  | none =>
    rw [cycle_of_no_word hw]
    simp
  | some word =>
    cases hd : decode word with
    | none =>
      have hnot : ¬ word.callsNative = true := by
        intro hnative
        have hcall := (decode_eq_native_iff word word.nnn).mpr ⟨hnative, rfl⟩
        rw [hd] at hcall
        cases hcall
      rw [cycle_of_no_instruction hw hd]
      simpa using fun _ => hnot
    | some i =>
      rw [cycle_events hw hd, List.any_cons, any_callsNativeAt_warnings, Event.callsNativeAt,
        Bool.or_false, Bool.and_eq_true, decide_eq_true_iff]
      simp only [Option.some.injEq, exists_eq_left', eq_comm]

end Interpreter

/-- Between two interpreters some events were emitted, and what is remembered of calls at `a`
accounts for them. -/
structure Remembers (a : UInt16) (s : Interpreter) (events : List Event) (t : Interpreter) :
    Prop where
  count_eq : events.countP (Event.warnsAt a) + (if a ∈ s.reported then 1 else 0) =
    if a ∈ t.reported then 1 else 0
  mem_iff : a ∈ t.reported ↔ a ∈ s.reported ∨ events.any (Event.callsNativeAt a) = true

namespace Remembers

variable {a : UInt16} {s t u : Interpreter} {first second events : List Event}

/-- Events that tell of no calls leave nothing to remember. -/
theorem of_other (hwarns : events.countP (Event.warnsAt a) = 0)
    (hcalls : events.any (Event.callsNativeAt a) = false) (hsame : t.reported = s.reported) :
    Remembers a s events t := by
  constructor
  · rw [hwarns, hsame, Nat.zero_add]
  · rw [hcalls, hsame]
    simp

theorem append (h : Remembers a s first t) (k : Remembers a t second u) :
    Remembers a s (first ++ second) u := by
  constructor
  · rw [List.countP_append, ← k.count_eq, ← h.count_eq]
    omega
  · rw [k.mem_iff, h.mem_iff, List.any_append, Bool.or_eq_true, or_assoc]

theorem cycle (a : UInt16) (s : Interpreter) : Remembers a s s.cycle.events s.cycle.state := by
  have hcalls := s.any_callsNativeAt_cycle a
  cases hw : s.word? with
  | none =>
    rw [Interpreter.cycle_of_no_word hw]
    exact of_other rfl rfl rfl
  | some word =>
    cases hd : decode word with
    | none =>
      rw [Interpreter.cycle_of_no_instruction hw hd]
      exact of_other rfl rfl rfl
    | some i =>
      have hmem := Interpreter.mem_reported_cycle hw hd a
      rw [isNative_iff hd] at hmem
      constructor
      · rw [Interpreter.cycle_events hw hd, List.countP_cons_of_neg (by simp [Event.warnsAt]),
          s.countP_warnsAt_warnings i a hd]
        -- there is a warning exactly where the address becomes remembered
        grind
      · rw [hcalls, hmem, hw]
        simp

theorem chronicle (a : UInt16) : Interpreter.Chronicle (Remembers a) where
  refl _ := of_other rfl rfl rfl
  trans := append
  cycle := cycle a

theorem load (a : UInt16) (s : Interpreter) (program : List UInt8) :
    Remembers a s (s.load program).events (s.load program).state := by
  rw [Interpreter.load, Machine.load]
  split <;> exact of_other rfl rfl rfl

/-- Every operation but the reset accounts for its warnings. -/
theorem apply (a : UInt16) (s : Interpreter) {op : Interpreter.Operation} (hop : op ≠ .reset) :
    Remembers a s (s.apply op).events (s.apply op).state := by
  cases op with
  | load program => exact load a s program
  | reset => exact absurd rfl hop
  | rewind => exact of_other rfl rfl rfl
  | cycle => exact cycle a s
  | runCycles count => exact (chronicle a).runCycles s count
  | setKey key pressed =>
    rw [Interpreter.apply]
    cases hk : s.setKey key pressed with
    | error e => exact of_other rfl rfl rfl
    | ok t =>
      obtain ⟨keypad, rfl⟩ := Interpreter.exists_keypad_of_setKey hk
      exact of_other rfl rfl rfl

end Remembers

/-! ### Stretches without a reset -/

namespace Clock

open Remembers (of_other)

variable {c : Clock} {a : UInt16}

theorem remembers_stop (c : Clock) (a : UInt16) :
    Remembers a c.interpreter c.stop.events c.stop.state.interpreter := by
  rw [stop]
  split <;> exact of_other rfl rfl rfl

theorem remembers_chronicle (a : UInt16) :
    Chronicle fun c events d => Remembers a c.interpreter events d.interpreter where
  refl _ := of_other rfl rfl rfl
  trans := Remembers.append
  tickTimers _ := of_other rfl rfl rfl
  runCycles c count := (Remembers.chronicle a).runCycles c.interpreter count
  takeDirty _ := of_other rfl rfl rfl
  faulted _ _ := of_other rfl rfl rfl
  stop c := c.remembers_stop a
  reschedule _ _ := of_other rfl rfl rfl
  behind _ := of_other rfl rfl rfl

/-- Whether a move resets the interpreter. -/
def Move.resets : Move → Bool
  | .ask (.inside .reset) | .ask .reset | .ask (.reload _) => true
  | _ => false

theorem remembers_apply (c : Clock) {op : Operation} (hop : (Move.ask op).resets = false)
    (a : UInt16) :
    Remembers a c.interpreter (c.apply op).events (c.apply op).state.interpreter := by
  cases op with
  | inside operation =>
    refine Remembers.apply a c.interpreter ?_
    rintro rfl
    cases hop
  | load program => exact Remembers.load a c.interpreter program
  | reset => cases hop
  | reload program => cases hop
  | start now =>
    rw [apply, start]
    split <;> exact of_other rfl rfl rfl
  | resume now =>
    rw [apply, resume]
    split <;> exact of_other rfl rfl rfl
  | stop => exact c.remembers_stop a
  | tick => exact (remembers_chronicle a).tick c
  | poll now => exact (remembers_chronicle a).poll c now
  | setKey key pressed =>
    rw [apply, setKey]
    cases hk : c.interpreter.setKey key pressed with
    | error e => exact of_other rfl rfl rfl
    | ok t =>
      obtain ⟨keypad, rfl⟩ := Interpreter.exists_keypad_of_setKey hk
      exact of_other rfl rfl rfl

theorem remembers_move (c : Clock) {m : Move} (hm : m.resets = false) (a : UInt16) :
    Remembers a c.interpreter (m.events c) (c.move m).interpreter := by
  cases m with
  | ask operation => exact c.remembers_apply hm a
  | writeMachine machine => exact of_other rfl rfl rfl
  | writeDisplay display => exact of_other rfl rfl rfl

theorem remembers_story (c : Clock) {stretch : List Move}
    (hstretch : ∀ m ∈ stretch, m.resets = false) (a : UInt16) :
    Remembers a c.interpreter (c.story stretch) (c.moved stretch).interpreter := by
  induction stretch generalizing c with
  | nil => exact of_other rfl rfl rfl
  | cons m stretch ih =>
    rw [List.forall_mem_cons] at hstretch
    exact (c.remembers_move hstretch.1 a).append (ih (c.move m) hstretch.2)

/-- A clock behind a reset of its interpreter, or a new one. -/
inductive Renewed : Clock → Prop where
  | created (config : Config) (entropy : StreamKey) : Renewed (new config entropy)
  | reset (c : Clock) : Renewed c.reset.state
  | reloaded (c : Clock) (program : List UInt8) : Renewed (c.reload program).state
  | resetInside (c : Clock) : Renewed (c.apply (.inside .reset)).state

theorem Renewed.reported_eq (h : c.Renewed) : c.interpreter.reported = [] := by
  cases h <;> rfl

end Clock

/-- A native call goes on to the next instruction, remembers its address, and does nothing else. -/
theorem Interpreter.cycle_of_native {s : Interpreter} {word : Word} (hw : s.word? = some word)
    (hnative : word.callsNative = true) :
    s.cycle =
      ⟨{ s with
          machine := { s.machine with pc := s.machine.pc + 2 }
          reported := if s.machine.pc ∈ s.reported then s.reported
            else s.machine.pc :: s.reported },
        .executing s.machine.pc word (.native word.nnn) ::
          if s.machine.pc ∈ s.reported then [] else [.nativeCall s.machine.pc word.nnn],
        .ok ()⟩ := by
  have hd := (decode_eq_native_iff word word.nnn).mpr ⟨hnative, rfl⟩
  rw [cycle_of_effect hw hd rfl, callNative]
  split <;> rfl

/-- From one reset to the next, whatever else happens, the lines of a log that warn of a native call
at an address are one if there was such a call and none if there was not. A cycle makes one if the
word at the program counter is that of a native call; then it moves the program counter on,
remembers the address and changes nothing else. -/
theorem Clock.native_calls_warn_once {c : Clock} (hc : c.Renewed) {stretch : List Move}
    (hstretch : ∀ m ∈ stretch, m.resets = false) {level : Level}
    (hlevel : Level.warn.rank ≤ level.rank) (a : UInt16) :
    (Text.lines (logText (some level) (c.story stretch))).countP (lineWarnsAt a) =
        (if (c.story stretch).any (Event.callsNativeAt a) then 1 else 0) ∧
      ∀ s : Interpreter,
        (s.cycle.events.any (Event.callsNativeAt a) = true ↔
          a = s.machine.pc ∧ ∃ word, s.word? = some word ∧ word.callsNative = true) ∧
        (∀ word, s.word? = some word → word.callsNative = true →
          s.cycle.result = .ok () ∧
          s.cycle.state =
            { s with
              machine := { s.machine with pc := s.machine.pc + 2 }
              reported := if s.machine.pc ∈ s.reported then s.reported
                else s.machine.pc :: s.reported }) := by
  constructor
  · have hremembers := c.remembers_story hstretch a
    have hcount := hremembers.count_eq
    have hmem := hremembers.mem_iff
    rw [hc.reported_eq] at hcount hmem
    rw [countP_lineWarnsAt_logText hlevel]
    simpa [hmem] using hcount
  · intro s
    refine ⟨s.any_callsNativeAt_cycle a, fun word hw hnative => ?_⟩
    rw [Interpreter.cycle_of_native hw hnative]
    exact ⟨rfl, rfl⟩

/-- Calls a native routine at the load address in one program, twice, and in the next, which a tick
runs: `0123`, `1200`, and `0234`. -/
def repeatedCalls : List Clock.Move :=
  [.ask (.load [0x01, 0x23, 0x12, 0x00]), .ask (.inside (.runCycles 4)), .ask (.load [0x02, 0x34]),
    .writeDisplay .blank, .ask (.start 0), .ask (.poll 0)]

/-- There are three calls at one address, of which the log tells once, and none behind it. -/
theorem repeatedCalls_warn_once :
    (∀ m ∈ repeatedCalls, m.resets = false) ∧
      (((Clock.new {} .zeros).story repeatedCalls).countP (Event.callsNativeAt 0x200) ≥ 3) ∧
      (Text.lines (logText (some .warn) ((Clock.new {} .zeros).story repeatedCalls))).countP
        (lineWarnsAt 0x200) = 1 ∧
      (Text.lines (logText (some .warn) ((Clock.new {} .zeros).story repeatedCalls))).countP
        (lineWarnsAt 0x202) = 0 := by
  have hstretch : ∀ m ∈ repeatedCalls, m.resets = false := by decide
  have hcalled :
      ((Clock.new {} .zeros).story repeatedCalls).any (Event.callsNativeAt 0x200) = true := by
    decide +kernel
  have hbehind :
      ((Clock.new {} .zeros).story repeatedCalls).any (Event.callsNativeAt 0x202) = false := by
    decide +kernel
  obtain ⟨hone, -⟩ := Clock.native_calls_warn_once (.created {} .zeros) hstretch
    (Nat.le_refl Level.warn.rank) 0x200
  obtain ⟨hnone, -⟩ := Clock.native_calls_warn_once (.created {} .zeros) hstretch
    (Nat.le_refl Level.warn.rank) 0x202
  rw [hcalled, if_pos rfl] at hone
  rw [hbehind, if_neg Bool.false_ne_true] at hnone
  exact ⟨hstretch, by decide +kernel, hone, hnone⟩

end ChipEight
