import ChipEight.Proofs.Footprint
import ChipEight.Proofs.Lines
import ChipEight.Proofs.Reload
import ChipEight.Proofs.Schedule

/-!
A program runs as it is listed. As long as nothing is written over a program, its bytes are in memory
as they are in the listing; so a cycle at the address of a line meets the word of that line, and what
the line shows for it is what the cycle makes of it.
-/

namespace ChipEight

namespace Memory

variable {m : Memory} {program : List UInt8}

/-- The bytes of a program are in the cells that it is loaded to. -/
def Holds (m : Memory) (program : List UInt8) : Prop :=
  ∀ a, InProgram program a → program[a.val - 0x200]? = some (m.get a)

theorem getElem?_toList (m : Memory) (a : Fin 4096) : m.toList[a.val]? = some (m.get a) := by
  rw [Vector.getElem?_toList, Vector.getElem?_eq_getElem a.isLt]
  rfl

/-- Memory holds a program once it is loaded. -/
theorem holds_loaded (hfit : program.length ≤ programCapacity) :
    (Machine.initial.memory.writeAll loadAddress program).Holds program := by
  rintro a ⟨hlow, hhigh⟩
  have hbelow : (Font.bytes ++ List.replicate (0x200 - Font.bytes.length) (0 : UInt8)).length =
      0x200 := by
    rw [List.length_append, List.length_replicate, length_font]
  rw [← getElem?_toList, toList_loaded hfit, image, List.append_assoc,
    List.getElem?_append_right (by rw [hbelow]; exact hlow), hbelow,
    List.getElem?_append_left (by omega)]

theorem Holds.of_get {n : Memory} (h : m.Holds program)
    (hsame : ∀ a, InProgram program a → n.get a = m.get a) : n.Holds program := by
  intro a ha
  rw [hsame a ha]
  exact h a ha

end Memory

namespace Interpreter

variable {s : Interpreter} {word : Word} {i : Instruction} {program : List UInt8}

/-- No cycle among some turns writes over a program. -/
def Spares (program : List UInt8) (s : Interpreter) : List Turn → Prop
  | [] => True
  | t :: turns =>
    (t = .cycle → ∀ a ∈ s.writes, ¬ InProgram program a) ∧ (s.turn t).Spares program turns

theorem holds_turn (h : s.machine.memory.Holds program) {t : Turn}
    (hspares : t = .cycle → ∀ a ∈ s.writes, ¬ InProgram program a) :
    (s.turn t).machine.memory.Holds program := by
  by_cases ht : t = .cycle
  · subst ht
    exact h.of_get fun a ha => get_cycle_of_notMem fun hmem => hspares rfl a hmem ha
  · obtain ⟨keypad, delay, sound, hturn⟩ := s.turn_eq_of_ne_cycle ht
    rw [hturn]
    exact h

/-- A program that is not written over stays in memory. -/
theorem holds_run {turns : List Turn} (h : s.machine.memory.Holds program)
    (hspares : s.Spares program turns) : (s.run turns).machine.memory.Holds program := by
  induction turns generalizing s with
  | nil => exact h
  | cons t turns ih => exact ih (holds_turn h hspares.1) hspares.2

/-- The word at an even place of a program that is in memory. -/
theorem word?_of_holds (h : s.machine.memory.Holds program)
    (hfit : program.length ≤ programCapacity) {k : Nat} (hpc : s.machine.pc.toNat = 0x200 + 2 * k)
    (hend : 2 * k + 1 < program.length) :
    ∃ high low, program[2 * k]? = some high ∧ program[2 * k + 1]? = some low ∧
      s.word? = some (Word.ofBytes high low) := by
  rw [programCapacity] at hfit
  have hfirst : (Memory.cell s.machine.pc).val = 0x200 + 2 * k := by
    rw [Memory.cell, Fin.val_ofNat, hpc]
    omega
  have hsecond : (Memory.cell (s.machine.pc + 1)).val = 0x200 + (2 * k + 1) := by
    rw [Memory.cell, Fin.val_ofNat, UInt16.toNat_add, hpc]
    simp only [UInt16.reduceToNat]
    omega
  have hhigh := h (Memory.cell s.machine.pc) ⟨by omega, by omega⟩
  have hlow := h (Memory.cell (s.machine.pc + 1)) ⟨by omega, by omega⟩
  rw [hfirst, Nat.add_sub_cancel_left] at hhigh
  rw [hsecond, Nat.add_sub_cancel_left] at hlow
  refine ⟨_, _, hhigh, hlow, ?_⟩
  have hle : s.machine.pc ≤ 0xFFE := by
    rw [UInt16.le_iff_toNat_le, hpc]
    simp only [UInt16.reduceToNat]
    omega
  exact Memory.wordAt?_eq_some hle

/-- A cycle begins by telling which instruction it executes. -/
theorem head_events (hw : s.word? = some word) (hd : decode word = some i) :
    s.cycle.events.head? = some (.executing s.machine.pc word i) := by
  cases hp : s.perform word i with
  | error halt => rw [cycle_of_halt hw hd hp, List.head?_cons]
  | ok e => rw [cycle_of_effect hw hd hp, List.head?_cons]

/-- A cycle faults for an unknown instruction exactly if its word does not decode. -/
theorem unknownInstruction_iff (hw : s.word? = some word) :
    s.cycle.result = .error (.fault (.unknownInstruction s.machine.pc word)) ↔
      decode word = none := by
  constructor
  · intro hresult
    have hstops := result_eq_error_iff.mp hresult
    cases hstops with
    | unknownInstruction _ hd => exact hd
  · intro hd
    rw [cycle_of_no_instruction hw hd]

end Interpreter

namespace Clock

/-- A program that is not written over runs as it is listed. Wherever a run without writes of the host
stands at an even place of the program, the next cycle meets the word in the line for that place; the
line shows a data word exactly if the cycle faults because the word is unknown, and else it shows the
instruction that the cycle logs. -/
theorem program_runs_as_listed (c : Clock) (program : List UInt8) (rom : Rom)
    (hrom : Rom.ofBytes program = .ok rom) (turns : List Turn)
    (hspares : (c.reload program).state.interpreter.Spares program turns) :
    let s := (c.reload program).state.interpreter.run turns
    let pc := s.machine.pc
    0x200 ≤ pc.toNat → (pc.toNat - 0x200) % 2 = 0 → pc.toNat + 1 < 0x200 + program.length →
      ∃ word shown, s.word? = some word ∧
        (Text.lines (Listing.text program 0x200))[(pc.toNat - 0x200) / 2]? =
          some (Text.hex 3 pc.toNat ++ ": " ++ Text.hex 4 word.toNat ++ "  " ++ shown) ∧
        ("DW".toList <+: shown.toList ↔
          s.cycle.result = .error (.fault (.unknownInstruction pc word))) ∧
        (¬ "DW".toList <+: shown.toList →
          ∃ i, decode word = some i ∧ shown = i.mnemonic ∧
            s.cycle.events.head? = some (.executing pc word i) ∧
            (Event.executing pc word i).level = .trace) := by
  intro s pc hstart heven hend
  have hfit := Rom.length_le_of_ofBytes hrom
  have hloaded : (c.reload program).state.interpreter.machine.memory.Holds program := by
    rw [(reload_eq hfit c).2]
    exact Memory.holds_loaded hfit
  have hholds : s.machine.memory.Holds program := Interpreter.holds_run hloaded hspares
  have hpc : pc.toNat = 0x200 + 2 * ((pc.toNat - 0x200) / 2) := by omega
  obtain ⟨high, low, hhigh, hlow, hw⟩ := Interpreter.word?_of_holds hholds hfit hpc (by omega)
  have hline := Listing.getElem?_lines hhigh hlow 0x200
  rw [← hpc] at hline
  rw [Listing.lines_text, List.getElem?_map, show (0x200 : UInt16).toNat = 0x200 from rfl, hline,
    Option.map_some]
  obtain ⟨shown, htext, hdata, hinstruction⟩ :=
    Listing.exists_shown pc.toNat (Word.ofBytes high low)
  refine ⟨_, shown, hw, congrArg some htext, ?_, fun hno => ?_⟩
  · rw [hdata, Interpreter.unknownInstruction_iff hw]
  · obtain ⟨i, hd⟩ := Option.ne_none_iff_exists'.mp (hdata.not.mp hno)
    exact ⟨i, hd, hinstruction i hd, Interpreter.head_events hw hd, rfl⟩

/-- Writes the digits of a number to `0x300` and runs into data: `6305`, `A300`, `F333`, `FFFF`. -/
def digitsThenData : List UInt8 := [0x63, 0x05, 0xA3, 0x00, 0xF3, 0x33, 0xFF, 0xFF]

/-- Three cycles, with a key and a tick between them. -/
def threeCycles : List Turn := [.cycle, .cycle, .setKey 3 true, .countDown, .cycle]

/-- The interpreter that is about to run them. -/
def digitsLoaded : Interpreter := ((new {} .zeros).reload digitsThenData).state.interpreter

theorem spares_digitsThenData : digitsLoaded.Spares digitsThenData threeCycles := by
  have hfirst : digitsLoaded.writes = [] := by decide +kernel
  have hsecond : (digitsLoaded.run [.cycle]).writes = [] := by decide +kernel
  have hthird : (digitsLoaded.run (threeCycles.take 4)).writes = [0x300, 0x301, 0x302] := by
    decide +kernel
  have hbehind : ∀ a ∈ [0x300, 0x301, 0x302], ¬ InProgram digitsThenData a := by
    simp [InProgram, digitsThenData]
  exact ⟨fun _ a ha => absurd (hfirst ▸ ha) List.not_mem_nil,
    fun _ a ha => absurd (hsecond ▸ ha) List.not_mem_nil, nofun, nofun,
    fun _ a ha => hbehind a (hthird ▸ ha), trivial⟩

theorem digitsThenData_runs_as_listed :
    Rom.ofBytes digitsThenData = .ok ⟨digitsThenData⟩ ∧
      digitsLoaded.Spares digitsThenData threeCycles ∧
      (digitsLoaded.run threeCycles).machine.pc = 0x206 ∧
      ∃ word shown, (digitsLoaded.run threeCycles).word? = some word ∧
        (Text.lines (Listing.text digitsThenData 0x200))[3]? =
          some (Text.hex 3 0x206 ++ ": " ++ Text.hex 4 word.toNat ++ "  " ++ shown) ∧
        ("DW".toList <+: shown.toList ↔ (digitsLoaded.run threeCycles).cycle.result =
          .error (.fault (.unknownInstruction 0x206 word))) := by
  have hpc :
      (((new {} .zeros).reload digitsThenData).state.interpreter.run threeCycles).machine.pc =
        0x206 := by
    decide +kernel
  have hlisted := program_runs_as_listed (new {} .zeros) digitsThenData _ rfl threeCycles
    spares_digitsThenData
  simp only [hpc] at hlisted
  obtain ⟨word, shown, hw, hline, hdata, -⟩ := hlisted (by decide) (by decide) (by decide)
  refine ⟨rfl, spares_digitsThenData, ?_⟩
  rw [digitsLoaded]
  exact ⟨hpc, word, shown, hw, hline, hdata⟩

end Clock

end ChipEight
