import ChipEight.Interpreter.Cycle

/-!
The interpreter as a routine that works in place. Registers, bytes of memory, stack slots, keys and
cells are found by numbers that could be too large, all arithmetic that may not wrap is checked,
and what was changed before a halt stays changed. Whatever is too large halts as `outOfRange`.
-/

namespace ChipEight.InPlace

/-- A routine on an interpreter. It may halt, and then leaves the state as it is by then. -/
abbrev Routine := EStateM Halt Interpreter

/-- A value that has to be there. -/
def demand {α : Type} : Option α → Routine α
  | some a => pure a
  | none => throw .outOfRange

/-- A sum that has to be a 16-bit number. -/
def sum (a b : UInt16) : Routine UInt16 :=
  if a.toNat + b.toNat < 0x10000 then pure (a + b) else throw .outOfRange

/-- A product that has to be a 16-bit number. -/
def product (a b : UInt16) : Routine UInt16 :=
  if a.toNat * b.toNat < 0x10000 then pure (a * b) else throw .outOfRange

/-- A difference that has to be a natural number. -/
def difference (a b : Nat) : Routine Nat := if b ≤ a then pure (a - b) else throw .outOfRange

/-- Changes the machine. -/
def update (f : Machine → Machine) : Routine Unit :=
  modify fun s => { s with machine := f s.machine }

/-- Reads something of the machine. -/
def look {α : Type} (f : Machine → α) : Routine α := do return f (← get).machine

/-! ### Registers and memory -/

/-- The value of register `x`. -/
def reg (x : Nat) : Routine UInt8 := do demand (← get).machine.registers[x]?

/-- Gives register `x` the value `byte`. -/
def setReg (x : Nat) (byte : UInt8) : Routine Unit :=
  if h : x < 16 then update fun m => { m with registers := m.registers.set x byte }
  else throw .outOfRange

/-- The byte at the low twelve bits of an address. -/
def read (address : UInt16) : Routine UInt8 := do
  demand (← get).machine.memory[(address &&& 0xFFF).toNat]?

/-- Puts a byte at the low twelve bits of an address. -/
def write (address : UInt16) (byte : UInt8) : Routine Unit :=
  if h : (address &&& 0xFFF).toNat < 4096 then
    update fun m => { m with memory := m.memory.set (address &&& 0xFFF).toNat byte }
  else throw .outOfRange

/-- Writes register `r` to memory, `r` above the index. -/
def storeReg (r : Nat) : Routine Unit := do
  let value ← reg r
  write ((← look (·.index)) + UInt16.ofNat r) value

/-- Reads register `r` from memory, `r` above the index. -/
def loadReg (r : Nat) : Routine Unit := do
  setReg r (← read ((← look (·.index)) + UInt16.ofNat r))

/-- The two bytes at an address as a word. -/
def fetch (pc : UInt16) : Routine Word := do
  let memory := (← get).machine.memory
  match memory[pc.toNat]?, memory[pc.toNat + 1]? with
  | some high, some low => return UInt16.ofNat (high.toNat * 0x100 + low.toNat)
  | _, _ => throw (.fault (.fetch pc))

/-! ### Call stack, keys, display, random numbers -/

/-- Writes the slot at the depth and then raises the depth, unless the stack is full. -/
def push (address : UInt16) : Routine Bool := do
  let stack := (← get).machine.stack
  if stack.depth = 16 then return false
  else if h : stack.depth < 16 then
    update fun m =>
      { m with stack := ⟨stack.slots.set stack.depth address, stack.depth + 1, h⟩ }
    return true
  else throw .outOfRange

/-- Lowers the depth and then reads the slot at it, unless the stack is empty. -/
def pop : Routine (Option UInt16) := do
  let stack := (← get).machine.stack
  if stack.depth = 0 then return none
  else
    let lowered := stack.depth - 1
    update fun m =>
      { m with stack := ⟨stack.slots, lowered, Nat.le_trans (Nat.sub_le _ 1) stack.depth_le⟩ }
    return some (← demand stack.slots[lowered]?)

/-- Whether the key of the low four bits is down. -/
def isPressed (key : UInt8) : Routine Bool := do
  demand (← get).keypad.keys[(key &&& 0x0F).toNat]?

/-- The first of some keys that is down. -/
def firstPressed : List UInt8 → Routine (Option UInt8)
  | [] => return none
  | key :: keys => do
    if ← isPressed key then return some key
    else firstPressed keys

/-- Flips the cell at a column and a row; whether it was set and is not any more. -/
def toggle (x y : Nat) : Routine Bool := do
  let cell ← demand (Cell.at? x y)
  let old := (← get).display
  modify fun s => { s with display := old.toggle cell }
  return (old.toggle cell).cell cell = 0

/-- Flips the cell of a column of a sprite's row if the row sets it, with wrapped coordinates. -/
def drawColumn (x y : Nat) (row : UInt8) (erased : Bool) (column : Nat) : Routine Bool := do
  if row.toNat.testBit (← difference 7 column) then
    return erased || (← toggle ((x + column) % 64) (y % 32))
  else return erased

/-- Flips the cells of row `r` of the sprite at the index. -/
def drawRow (x y : Nat) (erased : Bool) (r : Nat) : Routine Bool := do
  let row ← read ((← look (·.index)) + UInt16.ofNat r)
  (List.range 8).foldlM (drawColumn x (y + r) row) erased

/-- A random number below a bound. -/
def below (bound : UInt8) : Routine UInt8 := do
  let (value, generator) ← demand ((← get).generator.below? bound)
  modify fun s => { s with generator := generator }
  return value

/-! ### Instructions -/

/-- Sets the flag register to one or zero. -/
def setFlag (flag : Bool) : Routine Unit := setReg flagRegister (if flag then 1 else 0)

/-- Skips an instruction if `condition` holds. -/
def skipIf (condition : Bool) : Flow := if condition then .skip else .next

/-- Gives register `x` a value of the registers `x` and `y`. -/
def combine (x y : Nat) (f : UInt8 → UInt8 → UInt8) : Routine Flow := do
  setReg x (f (← reg x) (← reg y))
  return .next

/-- Waits for a key, or looks once. -/
def await (x : Nat) : Routine Flow := do
  let key ← firstPressed ((List.range 16).map UInt8.ofNat)
  match key, (← get).awaitKey with
  | some key, .block => do setReg x key; return .next
  | none, .block => return .stay
  | some key, .poll => do setReg x key; return .skip
  | none, .poll => return .next

/-- Executes an instruction, and tells where the program counter goes. -/
def execute (pc : UInt16) (word : Word) : Instruction → Routine Flow
  | .native _ => do
    modify fun s => if pc ∈ s.reported then s else { s with reported := pc :: s.reported }
    return .next
  | .clear => do
    modify fun s => { s with display := s.display.clear }
    return .next
  | .ret => do
    match ← pop with
    | none => throw (.fault (.stackUnderflow pc word))
    | some caller => return .jump (← sum caller 2)
  | .jump nnn => return .jump nnn
  | .call nnn => do
    if ← push pc then return .jump nnn
    else throw (.fault (.stackOverflow pc word))
  | .skipIfByte x nn => return skipIf ((← reg x) = nn)
  | .skipUnlessByte x nn => return skipIf ((← reg x) ≠ nn)
  | .skipIfSame x y => return skipIf ((← reg x) = (← reg y))
  | .skipUnlessSame x y => return skipIf ((← reg x) ≠ (← reg y))
  | .setByte x nn => do setReg x nn; return .next
  | .addByte x nn => do setReg x ((← reg x) + nn); return .next
  | .copy x y => do setReg x (← reg y); return .next
  | .or x y => combine x y (· ||| ·)
  | .and x y => combine x y (· &&& ·)
  | .xor x y => combine x y (· ^^^ ·)
  | .add x y => do
    let total ← sum (← reg x).toUInt16 (← reg y).toUInt16
    setReg x (total &&& 0xFF).toUInt8
    setFlag (0xFF < total)
    return .next
  | .subtract x y => do
    let vx ← reg x
    let vy ← reg y
    setReg x (vx - vy)
    setFlag (vy ≤ vx)
    return .next
  | .shiftRight x => do
    setReg flagRegister ((← reg x) &&& 1)
    setReg x ((← reg x) >>> 1)
    return .next
  | .subtractFrom x y => do
    let vx ← reg x
    let vy ← reg y
    setReg x (vy - vx)
    setFlag (vx ≤ vy)
    return .next
  | .shiftLeft x => do
    setReg flagRegister (((← reg x) &&& 0x80) >>> 7)
    setReg x ((← reg x) <<< 1)
    return .next
  | .setIndex nnn => do
    update fun m => { m with index := nnn }
    return .next
  | .jumpOffset nnn => return .jump ((← sum nnn (← reg 0).toUInt16) &&& 0xFFF)
  | .random x nn => do
    setReg x (← if nn = 0 then pure 0 else below nn)
    return .next
  | .draw x y n => do
    let vx ← reg x
    let vy ← reg y
    setFlag (← (List.range n.toNat).foldlM (drawRow vx.toNat vy.toNat) false)
    return .next
  | .skipIfKey x => return skipIf (← isPressed (← reg x))
  | .skipUnlessKey x => return skipIf (!(← isPressed (← reg x)))
  | .getDelay x => do setReg x (← look (·.delayTimer)); return .next
  | .awaitKey x => await x
  | .setDelay x => do
    let vx ← reg x
    update fun m => { m with delayTimer := vx }
    return .next
  | .setSound x => do
    let vx ← reg x
    update fun m => { m with soundTimer := vx }
    return .next
  | .addIndex x => do
    setFlag false
    let total ← sum ((← look (·.index)) &&& 0xFFF) (← reg x).toUInt16
    if 0xFFF < total then setFlag true
    update fun m => { m with index := total &&& 0xFFF }
    return .next
  | .glyph x => do
    let offset ← product ((← reg x) &&& 0x0F).toUInt16 Font.glyphRows
    let glyph ← sum Font.address offset
    update fun m => { m with index := glyph }
    return .next
  | .decimal x => do
    let value ← reg x
    let index ← look (·.index)
    write index (value / 100)
    write (index + 1) (value / 10 % 10)
    write (index + 2) (value % 10)
    return .next
  | .store x => do
    (List.range (x + 1)).forM storeReg
    return .next
  | .load x => do
    (List.range (x + 1)).forM loadReg
    return .next

/-- The address to which a flow leads from `pc`. -/
def target (pc : UInt16) : Flow → Routine UInt16
  | .next => sum pc 2
  | .skip => sum pc 4
  | .jump address => return address
  | .stay => return pc

/-- Runs one instruction. -/
def cycle : Routine Unit := do
  let pc ← look (·.pc)
  let word ← fetch pc
  match decode word with
  | none => throw (.fault (.unknownInstruction pc word))
  | some i =>
    let flow ← execute pc word i
    let address ← target pc flow
    update fun m => { m with pc := address }

end ChipEight.InPlace
