import ChipEight.Proofs.Beats
import ChipEight.Proofs.Components

/-!
Random numbers follow the seed and the bounds. Only instructions that draw below a bound other than
zero take words from the generator, so of two runs from one seed those with the same bounds get the
same numbers, whatever the programs and the hosts do besides. A run is recorded by the states in
front of its cycles, and the log tells the instructions that these execute. A batch between whose
cycles the host moves keys is a history of single cycles.
-/

namespace ChipEight

/-! ### Numbers from a generator -/

namespace Generator

variable {g h k : Generator} {bound value : UInt8} {rolls others : List (UInt8 × UInt8)}

theorem exists_below {bound : UInt8} (hb : bound ≠ 0) (g : Generator) :
    ∃ value next, g.below? bound = some (value, next) := by
  rw [below?, if_neg hb]
  exact ⟨_, _, rfl⟩

theorem lt_of_below (hg : g.below? bound = some (value, h)) : value < bound := by
  rw [below?] at hg
  split at hg
  · cases hg
  · rename_i hb
    simp only [Option.some.injEq, Prod.mk.injEq] at hg
    obtain ⟨rfl, -⟩ := hg
    generalize Keystream.word g.key _ = word
    have hword : word.toNat < Keystream.wordCount := word.toNat_lt
    have hbound := bound.toNat_lt
    have hpos : 0 < bound.toNat := by
      rw [Nat.pos_iff_ne_zero]
      exact fun hzero => hb (UInt8.toNat_inj.mp hzero)
    have hlt : word.toNat * bound.toNat / Keystream.wordCount < bound.toNat :=
      Nat.div_lt_of_lt_mul (Nat.mul_lt_mul_of_pos_right hword hpos)
    rw [UInt8.lt_iff_toNat_lt, UInt8.toNat_ofNat', Nat.mod_eq_of_lt (by omega)]
    exact hlt

/-- From one generator to another these bounds are given these values, in this order. -/
inductive Rolls : Generator → List (UInt8 × UInt8) → Generator → Prop where
  | none (g : Generator) : Rolls g [] g
  | next {g h k : Generator} {bound value : UInt8} {rolls : List (UInt8 × UInt8)}
      (hfirst : g.below? bound = some (value, h)) (hrest : Rolls h rolls k) :
      Rolls g ((bound, value) :: rolls) k

theorem Rolls.append (hfirst : Rolls g rolls h) (hsecond : Rolls h others k) :
    Rolls g (rolls ++ others) k := by
  induction hfirst with
  | none => exact hsecond
  | next hroll _ ih => exact .next hroll (ih hsecond)

/-- The bounds decide the values. -/
theorem Rolls.eq_of_bounds (hrolls : Rolls g rolls h) (hothers : Rolls g others k)
    (hbounds : rolls.map Prod.fst = others.map Prod.fst) : rolls = others := by
  induction hrolls generalizing others k with
  | none => exact (List.map_eq_nil_iff.mp hbounds.symm).symm
  | next hroll _ ih =>
    cases hothers with
    | none => cases hbounds
    | next hother hrest =>
      obtain ⟨hbound, htail⟩ := List.cons.inj hbounds
      -- one bound gives one value and takes the same words from one generator
      cases hbound
      cases hroll.symm.trans hother
      rw [ih hrest htail]

theorem Rolls.lt (hrolls : Rolls g rolls h) : ∀ roll ∈ rolls, roll.2 < roll.1 := by
  induction hrolls with
  | none => simp
  | next hroll _ ih => exact List.forall_mem_cons.mpr ⟨lt_of_below hroll, ih⟩

end Generator

/-! ### Instructions that draw -/

/-- The bound below which an instruction draws a random number. -/
def Instruction.bound? : Instruction → Option UInt8
  | .random _ nn => if nn = 0 then none else some nn
  | _ => none

theorem Instruction.generator_notMem_targets {i : Instruction} (h : i.bound? = none)
    (index : UInt16) : .generator ∉ i.targets index := by
  cases i with
  | random x nn =>
    rw [bound?] at h
    rw [targets]
    split
    · simp [Component.numbered]
    · simp_all
  | _ => simp [targets, Component.window, Component.numbered, Component.flag]

namespace Interpreter

variable {s t u : Interpreter} {word : Word} {i : Instruction}

/-- The bound of the next cycle and the value that it writes, if it draws a random number. -/
def roll? (s : Interpreter) : Option (UInt8 × UInt8) :=
  match s.current? with
  | some (.random x nn) => if nn = 0 then none else some (nn, s.cycle.state.machine.reg x)
  | _ => none

theorem bound_roll? (s : Interpreter) :
    s.roll?.map Prod.fst = s.current?.bind Instruction.bound? := by
  rw [roll?]
  split
  · rename_i x nn hcurrent
    rw [hcurrent, Option.bind_some, Instruction.bound?]
    split <;> rfl
  · rename_i hother
    cases hcurrent : s.current? with
    | none => rfl
    | some i =>
      rw [Option.bind_some]
      cases i with
      | random x nn => exact absurd hcurrent (hother x nn)
      | _ => rfl

/-- A cycle that draws no number leaves the generator. -/
theorem generator_cycle_of_bound (h : s.current?.bind Instruction.bound? = none) :
    s.cycle.state.generator = s.generator := by
  cases hw : s.word? with
  | none => rw [cycle_of_no_word hw]
  | some word =>
    cases hd : decode word with
    | none => rw [cycle_of_no_instruction hw hd]
    | some i =>
      rw [current?_eq_some hw hd, Option.bind_some] at h
      exact same_cycle hw hd (Instruction.generator_notMem_targets h _)

/-- A draw writes the number that it takes from the generator. -/
theorem cycle_of_random {x : Nat} {nn value : UInt8} {next : Generator} (hw : s.word? = some word)
    (hd : decode word = some (.random x nn)) (hn : nn ≠ 0)
    (hbelow : s.generator.below? nn = some (value, next)) :
    s.cycle.state.machine.reg x = value ∧ s.cycle.state.generator = next := by
  have hp : s.perform word (.random x nn) =
      .ok ⟨{ s with machine := s.machine.setReg x value, generator := next }, .next, []⟩ := by
    show s.random x nn = _
    rw [random, if_neg hn, hbelow]
    rfl
  rw [cycle_of_effect hw hd hp]
  refine ⟨?_, rfl⟩
  show (s.machine.setReg x value).reg x = value
  rw [Machine.reg_setReg, if_pos rfl]

/-- A bound of zero gives zero and takes nothing from the generator. -/
theorem cycle_of_random_zero {x : Nat} (hi : s.current? = some (.random x 0)) :
    s.cycle.result = .ok () ∧ s.cycle.state.machine.reg x = 0 ∧
      s.cycle.state.generator = s.generator := by
  obtain ⟨word, hw, hd⟩ := Option.bind_eq_some_iff.mp hi
  have hp : s.perform word (.random x 0) = s.proceed (s.machine.setReg x 0) := rfl
  rw [cycle_of_effect hw hd hp]
  refine ⟨rfl, ?_, rfl⟩
  show (s.machine.setReg x 0).reg x = 0
  rw [Machine.reg_setReg, if_pos rfl]

theorem rolls_cycle (s : Interpreter) :
    s.generator.Rolls s.roll?.toList s.cycle.state.generator := by
  cases hroll : s.roll? with
  | none =>
    have hbound := s.bound_roll?
    rw [hroll] at hbound
    rw [generator_cycle_of_bound hbound.symm]
    exact .none _
  | some roll =>
    rw [roll?] at hroll
    split at hroll
    · rename_i x nn hi
      split at hroll
      · cases hroll
      · rename_i hn
        cases hroll
        obtain ⟨word, hw, hd⟩ := Option.bind_eq_some_iff.mp hi
        obtain ⟨value, next, hbelow⟩ := Generator.exists_below hn s.generator
        obtain ⟨hvalue, hnext⟩ := cycle_of_random hw hd hn hbelow
        rw [hvalue, hnext]
        exact .next hbelow (.none _)
    · cases hroll

/-! ### Records -/

/-- The states in front of the cycles of a batch, up to the first that halts. -/
def fronts (s : Interpreter) : Nat → List Interpreter
  | 0 => []
  | count + 1 =>
    s :: match s.cycle.result with
      | .ok () => s.cycle.state.fronts count
      | .error _ => []

/-- The states in front of the cycles of an operation. -/
def Operation.fronts (s : Interpreter) : Operation → List Interpreter
  | .cycle => [s]
  | .runCycles count => s.fronts count
  | .load _ | .reset | .rewind | .setKey _ _ => []

/-- Some states are those in front of the cycles that lead from one interpreter to another and emit
some events: the events tell of their instructions, and the generator gave their numbers. -/
structure Recorded (s : Interpreter) (fronts : List Interpreter) (events : List Event)
    (t : Interpreter) : Prop where
  executed_eq : executed events = fronts.filterMap current?
  rolls : s.generator.Rolls (fronts.filterMap roll?) t.generator

namespace Recorded

variable {first second fronts : List Interpreter} {earlier later events : List Event}

/-- What executes nothing and leaves the generator needs no record. -/
theorem of_silent (hevents : executed events = []) (hsame : t.generator = s.generator) :
    Recorded s [] events t := by
  refine ⟨hevents, ?_⟩
  rw [hsame]
  exact .none _

theorem append (h : Recorded s first earlier t) (k : Recorded t second later u) :
    Recorded s (first ++ second) (earlier ++ later) u := by
  constructor
  · rw [executed_append, h.executed_eq, k.executed_eq, List.filterMap_append]
  · rw [List.filterMap_append]
    exact h.rolls.append k.rolls

theorem congr {s' t' : Interpreter} (h : Recorded s fronts earlier t)
    (hevents : executed later = executed earlier) (hs : s'.generator = s.generator)
    (ht : t'.generator = t.generator) : Recorded s' fronts later t' := by
  constructor
  · rw [hevents, h.executed_eq]
  · rw [hs, ht]
    exact h.rolls

theorem cycle (s : Interpreter) : Recorded s [s] s.cycle.events s.cycle.state := by
  constructor
  · rw [executed_cycle, List.filterMap_cons, List.filterMap_nil]
    cases s.current? <;> rfl
  · rw [List.filterMap_cons, List.filterMap_nil]
    have hrolls := s.rolls_cycle
    cases hroll : s.roll? <;> simpa [hroll] using hrolls

theorem runCycles (s : Interpreter) (count : Nat) :
    Recorded s (s.fronts count) (s.runCycles count).events (s.runCycles count).state := by
  induction count generalizing s with
  | zero => exact of_silent rfl rfl
  | succ count ih =>
    have hcycle := cycle s
    rw [runCycles_succ, Interpreter.fronts]
    cases s.cycle.result with
    | ok => exact hcycle.append (ih s.cycle.state)
    | error halt => exact hcycle

end Recorded

theorem generator_tick (s : Interpreter) (count : Nat) :
    (s.tick count).generator = (s.tickTimers.runCycles count).state.generator := by
  rw [tick]
  cases (s.tickTimers.runCycles count).result <;> rfl

theorem recorded_load (s : Interpreter) (program : List UInt8) :
    Recorded s [] (s.load program).events (s.load program).state := by
  rw [load, Machine.load]
  split <;> exact .of_silent rfl rfl

theorem recorded_apply (s : Interpreter) (op : Operation) :
    Recorded s (op.fronts s) (s.apply op).events (s.apply op).state := by
  cases op with
  | load program => exact s.recorded_load program
  | reset => exact .of_silent rfl rfl
  | rewind => exact .of_silent rfl rfl
  | cycle => exact .cycle s
  | runCycles count => exact .runCycles s count
  | setKey key pressed =>
    rw [apply]
    cases hk : s.setKey key pressed with
    | error e => exact .of_silent rfl rfl
    | ok t =>
      obtain ⟨keypad, rfl⟩ := exists_keypad_of_setKey hk
      exact .of_silent rfl rfl

end Interpreter

namespace Clock

open Interpreter (Recorded)

/-- The states in front of the cycles of a tick. -/
def tickFronts (c : Clock) : List Interpreter := c.interpreter.tickTimers.fronts c.cyclesPerTick

/-- The states in front of the cycles of a move. -/
def Move.fronts (c : Clock) : Move → List Interpreter
  | .ask (.inside operation) => operation.fronts c.interpreter
  | .ask .tick => c.tickFronts
  | .ask (.poll now) => (List.range (c.ticksRun now)).flatMap fun j => (c.ticked j).tickFronts
  | _ => []

/-- The states in front of the cycles of a history of moves. -/
def fronts (c : Clock) : List Move → List Interpreter
  | [] => []
  | m :: history => m.fronts c ++ (c.move m).fronts history

/-- The bounds and the values of the random numbers that a history of moves draws. -/
def rolls (c : Clock) (history : List Move) : List (UInt8 × UInt8) :=
  (c.fronts history).filterMap Interpreter.roll?

theorem recorded_reset (c : Clock) :
    Recorded c.interpreter [] c.reset.events c.reset.state.interpreter := by
  refine .of_silent ?_ rfl
  show executed (c.stop.events ++ c.interpreter.reset.events) = []
  rw [executed_append, executed_stop]
  rfl

theorem recorded_reload (c : Clock) (program : List UInt8) :
    Recorded c.interpreter [] (c.reload program).events (c.reload program).state.interpreter :=
  c.recorded_reset.append (c.reset.state.interpreter.recorded_load program)

theorem recorded_tick (c : Clock) :
    Recorded c.interpreter c.tickFronts c.tick.events c.tick.state.interpreter := by
  refine (Recorded.runCycles c.interpreter.tickTimers c.cyclesPerTick).congr ?_ rfl ?_
  · exact (tick_batch c).2
  · rw [tick_interpreter, Interpreter.generator_tick]

theorem recorded_ticks (c : Clock) (n : Nat) :
    Recorded c.interpreter ((List.range n).flatMap fun j => (c.ticked j).tickFronts)
      (c.tickEvents n) (c.ticked n).interpreter := by
  induction n with
  | zero => exact .of_silent rfl rfl
  | succ n ih =>
    rw [List.range_succ, List.flatMap_append, List.flatMap_singleton, tickEvents_succ, ticked_succ]
    exact ih.append (recorded_tick (c.ticked n))

theorem recorded_poll (c : Clock) (now : Nat) :
    Recorded c.interpreter
      ((List.range (c.ticksRun now)).flatMap fun j => (c.ticked j).tickFronts)
      (c.poll now).events (c.poll now).state.interpreter := by
  obtain ⟨deadline, hstate⟩ := c.poll_state now
  refine (c.recorded_ticks (c.ticksRun now)).congr (c.poll_ticks now).2 rfl ?_
  rw [hstate]

theorem recorded_move (c : Clock) (m : Move) :
    Recorded c.interpreter (m.fronts c) (m.events c) (c.move m).interpreter := by
  cases m with
  | writeMachine machine => exact .of_silent rfl rfl
  | writeDisplay display => exact .of_silent rfl rfl
  | ask op =>
    cases op with
    | inside operation => exact c.interpreter.recorded_apply operation
    | load program => exact c.interpreter.recorded_load program
    | reload program => exact c.recorded_reload program
    | reset => exact c.recorded_reset
    | start now =>
      rw [move, Move.events, apply, start]
      split <;> exact .of_silent rfl rfl
    | resume now =>
      rw [move, Move.events, apply, resume]
      split <;> exact .of_silent rfl rfl
    | stop =>
      rw [move, Move.events, apply, stop]
      split <;> exact .of_silent rfl rfl
    | tick => exact c.recorded_tick
    | poll now => exact c.recorded_poll now
    | setKey key pressed =>
      rw [move, Move.events, apply, setKey]
      cases hk : c.interpreter.setKey key pressed with
      | error e => exact .of_silent rfl rfl
      | ok t =>
        obtain ⟨keypad, rfl⟩ := Interpreter.exists_keypad_of_setKey hk
        exact .of_silent rfl rfl

theorem recorded_history (c : Clock) (history : List Move) :
    Recorded c.interpreter (c.fronts history) (c.story history) (c.moved history).interpreter := by
  induction history generalizing c with
  | nil => exact .of_silent rfl rfl
  | cons m history ih => exact (c.recorded_move m).append (ih (c.move m))

/-- The bounds on record are those of the executions that the events tell of. -/
theorem bounds_rolls (c : Clock) (history : List Move) :
    (c.rolls history).map Prod.fst =
      (executed (c.story history)).filterMap Instruction.bound? := by
  rw [(c.recorded_history history).executed_eq, rolls, List.map_filterMap, List.filterMap_filterMap]
  simp only [Interpreter.bound_roll?]

/-- The numbers that a program draws are decided by the generator at the start and by the bounds of
the draws, whatever else the configurations, the programs and the hosts do: two histories that start
with one generator, as those from one seed do, and whose executions draw below the same bounds draw
the same numbers. Every number is below its bound, and a
bound of zero gives zero and leaves the generator. The record has the instructions that the events
tell of. -/
theorem seed_and_bounds_decide_numbers (first second : Config) (entropy other : StreamKey)
    (hstart : first.generator entropy = second.generator other) (history rival : List Move) :
    let c := new first entropy
    let d := new second other
    ((executed (c.story history)).filterMap Instruction.bound? =
        (executed (d.story rival)).filterMap Instruction.bound? →
      (c.rolls history).map Prod.snd = (d.rolls rival).map Prod.snd) ∧
    (c.rolls history).map Prod.fst =
      (executed (c.story history)).filterMap Instruction.bound? ∧
    executed (c.story history) = (c.fronts history).filterMap Interpreter.current? ∧
    (∀ roll ∈ c.rolls history, roll.2 < roll.1) ∧
    ∀ (s : Interpreter) (x : Nat), s.current? = some (.random x 0) →
      s.cycle.result = .ok () ∧ s.cycle.state.machine.reg x = 0 ∧
        s.cycle.state.generator = s.generator := by
  intro c d
  have hc := c.recorded_history history
  have hd := d.recorded_history rival
  refine ⟨fun hbounds => ?_, c.bounds_rolls history, hc.executed_eq, hc.rolls.lt, ?_⟩
  · rw [← bounds_rolls, ← bounds_rolls] at hbounds
    have hgenerator : c.interpreter.generator = d.interpreter.generator := hstart
    have hrolls := hc.rolls
    rw [hgenerator] at hrolls
    exact congrArg _ (hrolls.eq_of_bounds hd.rolls hbounds)
  · intro s x hi
    exact Interpreter.cycle_of_random_zero hi

/-- Draws below seven, below zero and below nine in one batch: `C007`, `C100`, `C209`. -/
def drawsInBatch : List Move :=
  [.ask (.load [0xC0, 0x07, 0xC1, 0x00, 0xC2, 0x09]), .ask (.inside (.runCycles 3))]

/-- Draws below seven in a tick and below nine behind a reset, in two programs with a key and a
wiped display between them. -/
def drawsAcrossReset : List Move :=
  [.ask (.load [0xCF, 0x07]), .ask .tick, .ask .reset, .ask (.setKey 3 true), .writeDisplay .blank,
    .ask (.load [0x60, 0x05, 0xC2, 0x09]), .ask (.start 0), .ask (.poll 0), .ask (.inside .cycle)]

/-- Settings of which only the seed is that of the other history. -/
def sevenPolling : Config := { seed := some 7, cyclesPerTick := 1, awaitKey := .poll }

theorem drawsInBatch_same_numbers :
    (executed ((new { seed := some 7 } .zeros).story drawsInBatch)).filterMap Instruction.bound? =
        [7, 9] ∧
      ((new { seed := some 7 } .zeros).rolls drawsInBatch).map Prod.snd =
        ((new sevenPolling (.replicate 8 1)).rolls drawsAcrossReset).map Prod.snd := by
  have hfirst : (executed ((new { seed := some 7 } .zeros).story drawsInBatch)).filterMap
      Instruction.bound? = [7, 9] := by
    decide +kernel
  have hsecond : (executed ((new sevenPolling (.replicate 8 1)).story drawsAcrossReset)).filterMap
      Instruction.bound? = [7, 9] := by
    decide +kernel
  obtain ⟨hnumbers, -⟩ := seed_and_bounds_decide_numbers { seed := some 7 } sevenPolling .zeros
    (.replicate 8 1) rfl drawsInBatch drawsAcrossReset
  exact ⟨hfirst, hnumbers (hfirst.trans hsecond.symm)⟩

end Clock

end ChipEight
