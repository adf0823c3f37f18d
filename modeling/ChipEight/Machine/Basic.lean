import ChipEight.Machine.CallStack
import ChipEight.Machine.Font
import ChipEight.Machine.Memory
import ChipEight.Outcome

/-!
The machine that a program sees: memory, sixteen registers, the call stack, the program counter,
the index and two timers.
-/

namespace ChipEight

/-- The address at which programs are loaded and started. -/
def loadAddress : UInt16 := 0x200

/-- The most bytes that a program may have. -/
def programCapacity : Nat := 4096 - 0x200

/-- The register that arithmetic and drawing use as a flag. -/
def flagRegister : Nat := 15

/-- The state of the machine. -/
structure Machine where
  memory : Memory
  registers : Vector UInt8 16
  stack : CallStack
  pc : UInt16
  index : UInt16
  delayTimer : UInt8
  soundTimer : UInt8
  deriving DecidableEq

namespace Machine

/-- A machine with the font in memory and all else zero, at the load address. -/
def initial : Machine where
  memory := Memory.zero.writeAll Font.address Font.bytes
  registers := Vector.replicate 16 0
  stack := .empty
  pc := loadAddress
  index := 0
  delayTimer := 0
  soundTimer := 0

/-- The value of register `x`, the number taken modulo sixteen. -/
def reg (m : Machine) (x : Nat) : UInt8 := m.registers[lowDigit x]

/-- Gives register `x` the value `byte`. -/
def setReg (m : Machine) (x : Nat) (byte : UInt8) : Machine :=
  { m with registers := m.registers.set (lowDigit x) byte }

/-- Sets the flag register to one or zero. -/
def setFlag (m : Machine) (flag : Bool) : Machine := m.setReg flagRegister (if flag then 1 else 0)

/-- The byte at a computed address. -/
def read (m : Machine) (address : UInt16) : UInt8 := m.memory.read address

/-- Puts a byte at a computed address. -/
def write (m : Machine) (address : UInt16) (byte : UInt8) : Machine :=
  { m with memory := m.memory.write address byte }

/-- Puts all back to the start. -/
def reset (_ : Machine) : Outcome Machine Unit := ⟨initial, [.machineReset], ()⟩

/-- Copies a program to the load address and goes there; one that is too large changes nothing. -/
def load (m : Machine) (program : List UInt8) : Outcome Machine (Except LoadError Unit) :=
  if program.length ≤ programCapacity then
    ⟨{ m with memory := m.memory.writeAll loadAddress program, pc := loadAddress },
      [.programLoaded program.length], .ok ()⟩
  else ⟨m, [], .error ⟨program.length, programCapacity⟩⟩

/-- One step of a timer towards zero. -/
def countDown (timer : UInt8) : UInt8 := if timer = 0 then 0 else timer - 1

/-- Counts both timers down once. -/
def tickTimers (m : Machine) : Machine :=
  { m with delayTimer := countDown m.delayTimer, soundTimer := countDown m.soundTimer }

/-- A register has the value it was last given. -/
theorem reg_setReg (m : Machine) (x y : Nat) (byte : UInt8) :
    (m.setReg x byte).reg y = if y % 16 = x % 16 then byte else m.reg y := by
  simp only [reg, setReg, Fin.getElem_fin, Vector.getElem_set, lowDigit, eq_comm]

theorem reg_setFlag (m : Machine) (flag : Bool) :
    (m.setFlag flag).reg flagRegister = if flag then 1 else 0 := by
  rw [setFlag, reg_setReg, if_pos rfl]

theorem reg_setFlag_of_ne (m : Machine) (flag : Bool) {x : Nat} (hx : x < 16)
    (hne : x ≠ flagRegister) : (m.setFlag flag).reg x = m.reg x := by
  rw [setFlag, reg_setReg, Nat.mod_eq_of_lt hx]
  exact if_neg hne

end Machine

end ChipEight
