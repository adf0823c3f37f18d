import ChipEight.Address
import ChipEight.Clock
import ChipEight.CommandLine.Basic
import ChipEight.CommandLine.Value
import ChipEight.Config
import ChipEight.Disassembler
import ChipEight.Display
import ChipEight.Event
import ChipEight.Fault
import ChipEight.Files
import ChipEight.Generator.Basic
import ChipEight.Generator.Keystream
import ChipEight.Host.Command
import ChipEight.Host.KeyHold
import ChipEight.Host.Options
import ChipEight.Host.Program
import ChipEight.Host.Script
import ChipEight.Host.Session
import ChipEight.Instruction.Basic
import ChipEight.Instruction.Decode
import ChipEight.Instruction.Lemmas
import ChipEight.Instruction.Mnemonic
import ChipEight.Interpreter.Basic
import ChipEight.Interpreter.Cycle
import ChipEight.Interpreter.Execute
import ChipEight.Keypad
import ChipEight.Listing
import ChipEight.Logging
import ChipEight.Machine.Arithmetic
import ChipEight.Machine.Basic
import ChipEight.Machine.CallStack
import ChipEight.Machine.Font
import ChipEight.Machine.Memory
import ChipEight.Main
import ChipEight.Outcome
import ChipEight.Proofs.Agreement
import ChipEight.Proofs.Arithmetic
import ChipEight.Proofs.Batch
import ChipEight.Proofs.Beats
import ChipEight.Proofs.Bounds
import ChipEight.Proofs.Chronicle
import ChipEight.Proofs.Components
import ChipEight.Proofs.ControlFlow
import ChipEight.Proofs.Cycle
import ChipEight.Proofs.Deadline
import ChipEight.Proofs.Decoding
import ChipEight.Proofs.Drawing
import ChipEight.Proofs.DrawnFrame
import ChipEight.Proofs.DrawnTwice
import ChipEight.Proofs.Effects
import ChipEight.Proofs.Faults
import ChipEight.Proofs.Flag
import ChipEight.Proofs.Footprint
import ChipEight.Proofs.Grammar
import ChipEight.Proofs.HeldKeys
import ChipEight.Proofs.HostSide
import ChipEight.Proofs.Image
import ChipEight.Proofs.InPlace.Basic
import ChipEight.Proofs.InPlace.Cycle
import ChipEight.Proofs.InPlace.Execute
import ChipEight.Proofs.InPlace.Lemmas
import ChipEight.Proofs.Lifecycle
import ChipEight.Proofs.Lines
import ChipEight.Proofs.Listed
import ChipEight.Proofs.LogLines
import ChipEight.Proofs.NativeCalls
import ChipEight.Proofs.Numerals
import ChipEight.Proofs.Opcodes
import ChipEight.Proofs.Operation
import ChipEight.Proofs.Parity
import ChipEight.Proofs.Poll
import ChipEight.Proofs.Progress
import ChipEight.Proofs.RandomNumbers
import ChipEight.Proofs.Rate
import ChipEight.Proofs.Redraw
import ChipEight.Proofs.Reload
import ChipEight.Proofs.Safety
import ChipEight.Proofs.Schedule
import ChipEight.Proofs.Settings
import ChipEight.Proofs.Stale
import ChipEight.Proofs.StackHistory
import ChipEight.Proofs.Standstill
import ChipEight.Proofs.Subroutine
import ChipEight.Proofs.TableOrder
import ChipEight.Proofs.Ticks
import ChipEight.Proofs.Timers
import ChipEight.Proofs.Unseen
import ChipEight.Proofs.Waiting
import ChipEight.Rom
import ChipEight.Terminal.Key
import ChipEight.Terminal.Keyboard
import ChipEight.Terminal.Screen
import ChipEight.Terminal.Sequence
import ChipEight.Text.Hex
import ChipEight.Text.Number
import ChipEight.Text.Printable
import ChipEight.Text.Quoted
import ChipEight.Text.Span
import ChipEight.Proofs.Columns
import ChipEight.Proofs.Mnemonics
import ChipEight.Proofs.Transfers
