import ChipEight.Proofs.Image
import ChipEight.Proofs.Settings
import ChipEight.Rom

/-!
Reloading leaves nothing of the past but the random numbers. Every part of the clock is either put
back to what it is in a new clock, or a setting that no move changes.
-/

namespace ChipEight

/-- An image is made of bytes that fit into memory. -/
theorem Rom.length_le_of_ofBytes {program : List UInt8} {rom : Rom}
    (h : Rom.ofBytes program = .ok rom) : program.length ≤ programCapacity := by
  rw [ofBytes] at h
  split at h
  · cases h
  · split at h
    · cases h
    · rename_i hfits
      exact Nat.le_of_not_lt hfits

namespace Clock

variable {c : Clock} {program : List UInt8}

theorem stop_state (c : Clock) : c.stop.state = { c with deadline := none } := by
  obtain ⟨s, count, period, deadline⟩ := c
  cases deadline <;> rfl

theorem reset_state (c : Clock) :
    c.reset.state = { c with interpreter := c.interpreter.reset.state, deadline := none } := by
  show { c.stop.state with interpreter := c.interpreter.reset.state } = _
  rw [stop_state]

/-- The interpreter that holds a program and has not run, but for its random numbers and for the
flag of its display. -/
def blankWith (program : List UInt8) (generator : Generator) (way : AwaitKey) (dirty : Bool) :
    Interpreter where
  machine := { Machine.initial with
    memory := Machine.initial.memory.writeAll loadAddress program }
  display := { Display.blank with dirty := dirty }
  keypad := .released
  generator := generator
  awaitKey := way
  reported := []

theorem load_new (hfit : program.length ≤ programCapacity) (config : Config) (entropy : StreamKey) :
    ((new config entropy).load program).state =
      { new config entropy with
        interpreter := blankWith program (new config entropy).interpreter.generator
          config.awaitKey false } := by
  rw [load, Interpreter.load, Machine.load, if_pos hfit]
  rfl

/-- Whatever the clock was before, only its random numbers and its settings are left. -/
theorem reload_eq (hfit : program.length ≤ programCapacity) (c : Clock) :
    (c.reload program).result = .ok () ∧
      (c.reload program).state =
        { c with
          interpreter := blankWith program c.interpreter.generator c.interpreter.awaitKey true
          deadline := none } := by
  rw [reload, reset_state, load, Interpreter.load, Machine.load, if_pos hfit]
  exact ⟨rfl, rfl⟩

/-- Reloading an image erases the history of the clock: it is the new clock with the program, but
for the random numbers and for the flag that asks for the blank display to be drawn. So two clocks
with the same random numbers answer alike from then on. -/
theorem reload_erases_history (config : Config) (entropy other : StreamKey)
    (past : List Move) (program : List UInt8) (rom : Rom) (hrom : Rom.ofBytes program = .ok rom) :
    let c := (new config entropy).moved past
    let fresh := ((new config other).load program).state
    (c.reload program).result = .ok () ∧
      (c.reload program).state =
        { fresh with
          interpreter := { fresh.interpreter with
            generator := c.interpreter.generator
            display := { fresh.interpreter.display with dirty := true } } } ∧
      (c.reload program).state.isRunning = false ∧
      (c.reload program).state.interpreter.machine.pc = 0x200 ∧
      (c.reload program).state.interpreter.machine.memory.toList =
        Font.bytes ++ List.replicate (0x200 - 80) 0 ++ program ++
          List.replicate (4096 - 0x200 - program.length) 0 ∧
      ∀ (entropy' : StreamKey) (past' : List Move),
        ((new config entropy').moved past').interpreter.generator = c.interpreter.generator →
          ∀ later : List Operation,
            (((new config entropy').moved past').reload program).state.outcomes later =
              (c.reload program).state.outcomes later := by
  intro c fresh
  have hfit := Rom.length_le_of_ofBytes hrom
  -- every clock with the settings of the configuration is reloaded to the same one
  have hreload : ∀ d : Clock, HasSettings config d →
      (d.reload program).state =
        { new config other with
          interpreter := blankWith program d.interpreter.generator config.awaitKey true } := by
    intro d hd
    obtain ⟨hcount, hperiod, hway⟩ := hd
    rw [(reload_eq hfit d).2, hcount, hperiod, hway]
    rfl
  have hsettings : HasSettings config c := hasSettings_moved (hasSettings_new config entropy) past
  have hfresh : fresh = _ := load_new hfit config other
  refine ⟨(reload_eq hfit c).1, ?_, ?_, ?_, ?_, ?_⟩
  · rw [hreload c hsettings, hfresh]
    rfl
  · rw [hreload c hsettings]
    rfl
  · rw [hreload c hsettings]
    rfl
  · rw [hreload c hsettings]
    exact Memory.toList_loaded hfit
  · intro entropy' past' hgenerator later
    rw [hreload c hsettings, hreload _ (hasSettings_moved (hasSettings_new config entropy') past'),
      hgenerator]

/-- A past that leaves traces everywhere: a full stack and a fault, a key that is down, a cell that
is set, a scheduled tick. -/
def busyPast : List Move :=
  [.ask (.load [0x22, 0x00]), .ask (.setKey 5 true), .ask (.start 0),
    .ask (.inside (.runCycles 20)), .writeDisplay (Display.blank.toggle (.wrapped 3 4)),
    .writeMachine { Machine.initial with stack := .full 0x204, soundTimer := 9, pc := 0xFFF },
    .ask (.poll 0), .ask (.resume 7)]

theorem busyPast_erased :
    Rom.ofBytes [0x12, 0x00] = .ok ⟨[0x12, 0x00]⟩ ∧
      (((new {} .zeros).moved busyPast).reload [0x12, 0x00]).result = .ok () ∧
      (((new {} .zeros).moved busyPast).reload [0x12, 0x00]).state.isRunning = false ∧
      (((new {} .zeros).moved busyPast).reload [0x12, 0x00]).state.interpreter.keypad = .released ∧
      (((new {} .zeros).moved busyPast).reload [0x12, 0x00]).state.interpreter.machine.stack =
        .empty := by
  obtain ⟨hresult, hstate, hstopped, -⟩ :=
    reload_erases_history {} .zeros .zeros busyPast [0x12, 0x00] ⟨[0x12, 0x00]⟩ rfl
  refine ⟨rfl, hresult, hstopped, ?_, ?_⟩
  · rw [hstate]
    rfl
  · rw [hstate]
    rfl

end Clock

end ChipEight
