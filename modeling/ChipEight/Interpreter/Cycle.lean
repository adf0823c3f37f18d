import ChipEight.Instruction.Lemmas
import ChipEight.Interpreter.Execute

/-!
Running instructions. A cycle fetches the word at the program counter, decodes it, executes it and
moves the program counter. A cycle that halts leaves the state as it was.
-/

namespace ChipEight.Interpreter

/-- The word at the program counter. -/
def fetch (s : Interpreter) : Except Fault Word :=
  match s.machine.memory.wordAt? s.machine.pc with
  | some word => .ok word
  | none => .error (.fetch s.machine.pc)

/-- The instruction at the program counter, with its word. -/
def instruction (s : Interpreter) : Except Fault (Word × Instruction) := do
  let word ← s.fetch
  match decode word with
  | some i => return (word, i)
  | none => throw (.unknownInstruction s.machine.pc word)

/-- The state behind a decoded instruction, and the events of its execution. -/
def advance (s : Interpreter) (word : Word) (i : Instruction) :
    Except Halt (Interpreter × List Event) := do
  let effect ← s.execute word i
  let pc ← effect.flow.target s.machine.pc
  return ({ effect.state with machine := { effect.state.machine with pc := pc } }, effect.events)

/-- A decoded instruction is performed without a check of its registers. -/
theorem execute_of_decode {s : Interpreter} {word : Word} {i : Instruction}
    (h : decode word = some i) : s.execute word i = s.perform word i := by
  have hr : i.registers.all (· < 16) = true := by
    simpa using registers_lt_of_decode h
  simp only [execute, hr, if_true]

/-- Runs one instruction. -/
def cycle (s : Interpreter) : Outcome Interpreter (Except Halt Unit) :=
  match s.instruction with
  | .error fault => ⟨s, [], .error (.fault fault)⟩
  | .ok (word, i) =>
    let executing := Event.executing s.machine.pc word i
    match s.advance word i with
    | .error halt => ⟨s, [executing], .error halt⟩
    | .ok (next, events) => ⟨next, executing :: events, .ok ()⟩

/-- Runs up to `count` instructions behind those that emitted `earlier`, the latest event first. -/
def cyclesFrom (earlier : List Event) :
    Nat → Interpreter → Outcome Interpreter (Except Halt Unit)
  | 0, s => ⟨s, earlier.reverse, .ok ()⟩
  | count + 1, s =>
    let o := s.cycle
    match o.result with
    | .ok () => cyclesFrom (o.events.reverse ++ earlier) count o.state
    | .error halt => ⟨o.state, (o.events.reverse ++ earlier).reverse, .error halt⟩

/-- Runs `count` instructions, or up to the first that halts. -/
def runCycles (s : Interpreter) (count : Nat) : Outcome Interpreter (Except Halt Unit) :=
  cyclesFrom [] count s

/-- Earlier events stand in front and change nothing else. -/
theorem cyclesFrom_eq_after (earlier : List Event) (count : Nat) (s : Interpreter) :
    cyclesFrom earlier count s = (s.runCycles count).after earlier.reverse := by
  induction count generalizing earlier s with
  | zero => simp [cyclesFrom, runCycles, Outcome.after]
  | succ count ih =>
    simp only [runCycles, cyclesFrom]
    split
    · rw [ih, ih (_ ++ [])]
      simp [Outcome.after]
    · simp [Outcome.after]

theorem runCycles_zero (s : Interpreter) : s.runCycles 0 = ⟨s, [], .ok ()⟩ := rfl

/-- The first of several cycles decides whether the others run. -/
theorem runCycles_succ (s : Interpreter) (count : Nat) :
    s.runCycles (count + 1) =
      match s.cycle.result with
      | .ok () => (s.cycle.state.runCycles count).after s.cycle.events
      | .error halt => ⟨s.cycle.state, s.cycle.events, .error halt⟩ := by
  simp only [runCycles, cyclesFrom]
  cases s.cycle.result with
  | ok => simpa [runCycles] using cyclesFrom_eq_after s.cycle.events.reverse count s.cycle.state
  | error => simp

end ChipEight.Interpreter
