import ChipEight.Fault
import ChipEight.Instruction.Mnemonic
import ChipEight.Text.Quoted
import ChipEight.Text.Span

/-!
What is worth logging: the events that operations emit, each with a level, the component that
reports it, and its wording.
-/

namespace ChipEight

/-- How much an event matters. -/
inductive Level where
  | error | warn | info | debug | trace
  deriving DecidableEq

namespace Level

/-- The place of a level, the gravest first. -/
def rank : Level → Nat
  | .error => 1
  | .warn => 2
  | .info => 3
  | .debug => 4
  | .trace => 5

/-- The name of a level. -/
def name : Level → String
  | .error => "ERROR"
  | .warn => "WARN"
  | .info => "INFO"
  | .debug => "DEBUG"
  | .trace => "TRACE"

end Level

/-- Something that happened. -/
inductive Event where
  | machineReset
  | programLoaded (size : Nat)
  | executing (pc : UInt16) (word : Word) (instruction : Instruction)
  | nativeCall (pc target : UInt16)
  | clockStarted (cycles period : Nat)
  | clockResumed (pc : UInt16)
  | clockStopped (pc : UInt16)
  | clockBehind (period : Nat)
  | faulted (fault : Fault)
  | keyRefused (error : KeyError)
  | keyUnmapped (c : Char)
  | listingFrom (origin : UInt16)
  deriving DecidableEq

namespace Event

/-- The level of an event. -/
def level : Event → Level
  | .faulted _ => .error
  | .nativeCall _ _ | .keyRefused _ => .warn
  | .executing _ _ _ => .trace
  | _ => .debug

/-- The component that reports an event. -/
def source : Event → String
  | .machineReset | .programLoaded _ => "chip8vm::machine"
  | .executing _ _ _ | .nativeCall _ _ => "chip8vm::chip8"
  | .clockStarted _ _ | .clockResumed _ | .clockStopped _ | .clockBehind _ | .faulted _ =>
    "chip8vm::clock"
  | .keyRefused _ | .keyUnmapped _ => "chip8vm"
  | .listingFrom _ => "dis8"

/-- The wording of an event. -/
def text : Event → String
  | .machineReset => "machine reset"
  | .programLoaded size => "loaded " ++ toString size ++ " program bytes at 0x200"
  | .executing pc word instruction =>
    Text.hexLiteral 3 pc.toNat ++ ": " ++ Text.hex 4 word.toNat ++ " " ++ instruction.mnemonic
  | .nativeCall pc target =>
    Text.hexLiteral 3 pc.toNat ++ ": native routine call " ++ Text.hexLiteral 3 target.toNat
      ++ " is not supported, ignoring"
  | .clockStarted cycles period =>
    "clock started, " ++ toString cycles ++ " cycles every " ++ Text.span period
  | .clockResumed pc => "clock resumed at " ++ Text.hexLiteral 3 pc.toNat
  | .clockStopped pc => "clock stopped at " ++ Text.hexLiteral 3 pc.toNat
  | .clockBehind period => "clock fell behind, skipping to " ++ Text.span period ++ " from now"
  | .faulted fault => fault.message
  | .keyRefused error => error.message
  | .keyUnmapped c => "no keypad mapping for " ++ Text.quotedChar c
  | .listingFrom origin => "disassembling from " ++ Text.hexLiteral 3 origin.toNat

/-- Whether an event is shown when the least grave level shown is `limit`; `none` shows nothing. -/
def shownAt (limit : Option Level) (e : Event) : Bool :=
  match limit with
  | none => false
  | some level => e.level.rank ≤ level.rank

/-- A line of a log: the level in five columns, the component and the wording. -/
def logLine (e : Event) : String :=
  "[" ++ String.ofList (e.level.name.toList.rightpad 5 ' ') ++ " " ++ e.source ++ "] " ++ e.text

end Event

end ChipEight
