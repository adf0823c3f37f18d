import ChipEight.Interpreter.Basic

/-!
What each instruction does. An effect is the state with the program counter still at the
instruction, and where the program counter goes from there. An address that is a sum is computed
in sixteen bits; a sum that does not fit halts, as does an operand that names no register.
-/

namespace ChipEight

/-- Where the program counter goes after an instruction. -/
inductive Flow where
  | next
  | skip
  | jump (address : UInt16)
  | stay
  deriving DecidableEq

/-- The effect of an instruction but for the program counter. -/
structure Effect where
  state : Interpreter
  flow : Flow
  events : List Event
  deriving DecidableEq

/-- The sum of two 16-bit numbers, if it is one. -/
def addressSum (a b : UInt16) : Except Halt UInt16 :=
  if a.toNat + b.toNat < 0x10000 then .ok (a + b) else .error .outOfRange

/-- The address that a flow leads to from `pc`. -/
def Flow.target (pc : UInt16) : Flow → Except Halt UInt16
  | .next => addressSum pc 2
  | .skip => addressSum pc 4
  | .jump address => .ok address
  | .stay => .ok pc

namespace Interpreter

/-- Goes on to the next instruction with a changed machine. -/
def proceed (s : Interpreter) (machine : Machine) : Except Halt Effect :=
  .ok ⟨{ s with machine := machine }, .next, []⟩

/-- Skips an instruction if `condition` holds. -/
def skipIf (s : Interpreter) (condition : Bool) : Except Halt Effect :=
  .ok ⟨s, if condition then .skip else .next, []⟩

/-- `0nnn`: nothing happens but a warning, the first time at each address. -/
def callNative (s : Interpreter) (nnn : UInt16) : Effect :=
  if s.machine.pc ∈ s.reported then ⟨s, .next, []⟩
  else ⟨{ s with reported := s.machine.pc :: s.reported }, .next, [.nativeCall s.machine.pc nnn]⟩

/-- `00EE`: goes behind the call that pushed the last address. -/
def returnFrom (s : Interpreter) (word : Word) : Except Halt Effect :=
  match s.machine.stack.pop? with
  | none => .error (.fault (.stackUnderflow s.machine.pc word))
  | some (caller, stack) => do
    let address ← addressSum caller 2
    return ⟨{ s with machine := { s.machine with stack := stack } }, .jump address, []⟩

/-- `2nnn`: pushes the address of the call itself. -/
def call (s : Interpreter) (word : Word) (nnn : UInt16) : Except Halt Effect :=
  match s.machine.stack.push? s.machine.pc with
  | none => .error (.fault (.stackOverflow s.machine.pc word))
  | some stack => .ok ⟨{ s with machine := { s.machine with stack := stack } }, .jump nnn, []⟩

/-- `Bnnn`: the sum is taken modulo the size of memory. -/
def jumpOffset (s : Interpreter) (nnn : UInt16) : Except Halt Effect := do
  let address ← addressSum nnn (s.machine.reg 0).toUInt16
  return ⟨s, .jump (address &&& 0xFFF), []⟩

/-- `Cxnn`: no number is below zero, so a bound of zero gives zero and takes no random word. -/
def random (s : Interpreter) (x : Nat) (nn : UInt8) : Except Halt Effect :=
  if nn = 0 then s.proceed (s.machine.setReg x 0)
  else
    match s.generator.below? nn with
    | none => .error .outOfRange
    | some (value, generator) =>
      { s with generator := generator }.proceed (s.machine.setReg x value)

/-- `Dxyn`: the flag tells whether a cell that was set is now unset. -/
def draw (s : Interpreter) (x y : Nat) (n : UInt8) : Except Halt Effect :=
  let rows := s.machine.memory.readAll s.machine.index n.toNat
  let cells := Sprite.cells (s.machine.reg x).toNat (s.machine.reg y).toNat rows
  let (display, erased) := s.display.flip cells
  { s with display := display }.proceed (s.machine.setFlag erased)

/-- `Fx0A`: a blocking wait stays until a key is down; a poll skips if one is. -/
def awaitKeyIn (s : Interpreter) (x : Nat) : Effect :=
  match s.keypad.firstPressed, s.awaitKey with
  | some key, .block => ⟨{ s with machine := s.machine.setReg x key }, .next, []⟩
  | none, .block => ⟨s, .stay, []⟩
  | some key, .poll => ⟨{ s with machine := s.machine.setReg x key }, .skip, []⟩
  | none, .poll => ⟨s, .next, []⟩

/-- `Fx1E`: clears the flag, adds `Vx` to the low twelve bits of the index, and flags a carry out
of them. -/
def addIndex (s : Interpreter) (x : Nat) : Except Halt Effect := do
  let cleared := s.machine.setFlag false
  let sum ← addressSum (cleared.index &&& 0xFFF) (cleared.reg x).toUInt16
  let flagged := if 0xFFF < sum then cleared.setFlag true else cleared
  s.proceed { flagged with index := sum &&& 0xFFF }

/-- The effect of an instruction whose operands name registers. -/
def perform (s : Interpreter) (word : Word) : Instruction → Except Halt Effect :=
  let m := s.machine
  fun
  | .native nnn => .ok (s.callNative nnn)
  | .clear => .ok ⟨{ s with display := s.display.clear }, .next, []⟩
  | .ret => s.returnFrom word
  | .jump nnn => .ok ⟨s, .jump nnn, []⟩
  | .call nnn => s.call word nnn
  | .skipIfByte x nn => s.skipIf (m.reg x = nn)
  | .skipUnlessByte x nn => s.skipIf (m.reg x ≠ nn)
  | .skipIfSame x y => s.skipIf (m.reg x = m.reg y)
  | .skipUnlessSame x y => s.skipIf (m.reg x ≠ m.reg y)
  | .setByte x nn => s.proceed (m.setReg x nn)
  | .addByte x nn => s.proceed (m.setReg x (m.reg x + nn))
  | .copy x y => s.proceed (m.setReg x (m.reg y))
  | .or x y => s.proceed (m.setReg x (m.reg x ||| m.reg y))
  | .and x y => s.proceed (m.setReg x (m.reg x &&& m.reg y))
  | .xor x y => s.proceed (m.setReg x (m.reg x ^^^ m.reg y))
  | .add x y => s.proceed (m.add x y)
  | .subtract x y => s.proceed (m.subtract x y)
  | .shiftRight x => s.proceed (m.shiftRight x)
  | .subtractFrom x y => s.proceed (m.subtractFrom x y)
  | .shiftLeft x => s.proceed (m.shiftLeft x)
  | .setIndex nnn => s.proceed { m with index := nnn }
  | .jumpOffset nnn => s.jumpOffset nnn
  | .random x nn => s.random x nn
  | .draw x y n => s.draw x y n
  | .skipIfKey x => s.skipIf (s.keypad.isPressed (m.reg x))
  | .skipUnlessKey x => s.skipIf (!s.keypad.isPressed (m.reg x))
  | .getDelay x => s.proceed (m.setReg x m.delayTimer)
  | .awaitKey x => .ok (s.awaitKeyIn x)
  | .setDelay x => s.proceed { m with delayTimer := m.reg x }
  | .setSound x => s.proceed { m with soundTimer := m.reg x }
  | .addIndex x => s.addIndex x
  | .glyph x => s.proceed { m with index := Font.glyphAddress (m.reg x) }
  | .decimal x => s.proceed (m.writeDecimal (m.reg x))
  | .store x => s.proceed (m.storeRegs x)
  | .load x => s.proceed (m.loadRegs x)

/-- The effect of an instruction. -/
def execute (s : Interpreter) (word : Word) (i : Instruction) : Except Halt Effect :=
  if i.registers.all (· < 16) then s.perform word i else .error .outOfRange

end Interpreter

end ChipEight
