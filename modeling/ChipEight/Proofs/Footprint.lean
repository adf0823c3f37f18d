import ChipEight.Listing
import ChipEight.Proofs.Batch
import ChipEight.Proofs.Flag
import Mathlib.Data.Set.Insert

/-!
The memory that an instruction touches. What it writes is one stretch from the index on, and what it
reads is its word and at most one stretch from the index on. So a cycle changes no other cells, and
what others hold does not matter to it.
-/

namespace ChipEight

/-- Whether a cell is one of those that a program is loaded to. -/
def InProgram (program : List UInt8) (a : Fin 4096) : Prop :=
  0x200 ≤ a.val ∧ a.val < 0x200 + program.length

namespace Memory

variable {m n : Memory} {A : Set (Fin 4096)}

/-- The cells of `count` bytes from `address` on. -/
def span (address : UInt16) (count : Nat) : List (Fin 4096) :=
  (List.range count).map fun k => cell (address + UInt16.ofNat k)

theorem span_succ (address : UInt16) (count : Nat) :
    span address (count + 1) = cell address :: span (address + 1) count := by
  rw [span, List.range_succ_eq_map, List.map_cons, List.map_map, span]
  congr 1
  · exact congrArg cell (UInt16.add_zero address)
  · refine List.map_congr_left fun k _ => congrArg cell ?_
    rw [Nat.succ_eq_add_one, Nat.add_comm, UInt16.ofNat_add, UInt16.add_assoc]
    rfl

/-- A span that does not pass the end of memory. -/
theorem mem_span_iff {address : UInt16} {count : Nat} (hfit : address.toNat + count ≤ 4096)
    (a : Fin 4096) :
    a ∈ span address count ↔ address.toNat ≤ a.val ∧ a.val < address.toNat + count := by
  have hcell : ∀ k < count, (cell (address + UInt16.ofNat k)).val = address.toNat + k := by
    intro k hk
    rw [val_cell_add, Nat.mod_eq_of_lt (by omega)]
  rw [span, List.mem_map]
  constructor
  · rintro ⟨k, hk, rfl⟩
    have hlt := List.mem_range.mp hk
    rw [hcell k hlt]
    omega
  · rintro ⟨hlow, hhigh⟩
    refine ⟨a.val - address.toNat, List.mem_range.mpr (by omega), Fin.ext ?_⟩
    rw [hcell _ (by omega)]
    omega

/-- A program that can be loaded takes the cells of its span. -/
theorem mem_span_load_iff {program : List UInt8} (hfit : program.length ≤ programCapacity)
    (a : Fin 4096) : a ∈ span loadAddress program.length ↔ InProgram program a := by
  rw [programCapacity] at hfit
  refine mem_span_iff ?_ a
  rw [show loadAddress.toNat = 0x200 from rfl]
  omega

theorem get_write (m : Memory) (address : UInt16) (byte : UInt8) (a : Fin 4096) :
    (m.write address byte).get a = if a = cell address then byte else m.get a := by
  show (m.set (cell address) byte)[a.val] = if a = cell address then byte else m[a.val]
  simp only [Vector.getElem_set, Fin.ext_iff, eq_comm]

/-! ### Writing and reading a stretch -/

/-- Bytes are written to their span and nowhere else. -/
theorem get_writeAll_of_notMem {address : UInt16} {bytes : List UInt8} {a : Fin 4096}
    (ha : a ∉ span address bytes.length) : (m.writeAll address bytes).get a = m.get a := by
  induction bytes generalizing m address with
  | nil => rfl
  | cons byte bytes ih =>
    rw [List.length_cons, span_succ, List.mem_cons, not_or] at ha
    rw [writeAll, ih ha.2, get_write, if_neg ha.1]

theorem writeAll_concat (m : Memory) (address : UInt16) (bytes : List UInt8) (byte : UInt8) :
    m.writeAll address (bytes ++ [byte]) =
      (m.writeAll address bytes).write (address + UInt16.ofNat bytes.length) byte := by
  induction bytes generalizing m address with
  | nil =>
    show m.write address byte = m.write (address + 0) byte
    rw [UInt16.add_zero]
  | cons first bytes ih =>
    rw [List.cons_append, writeAll, ih, writeAll, List.length_cons, Nat.add_comm,
      UInt16.ofNat_add, UInt16.add_assoc]
    rfl

theorem readAll_eq_map (m : Memory) (address : UInt16) (count : Nat) :
    m.readAll address count = (span address count).map m.get := by
  rw [readAll, span, List.map_map]
  rfl

/-- A word that can be fetched consists of the byte at its address and of the next one. -/
theorem wordAt?_eq_some {address : UInt16} (h : address ≤ 0xFFE) :
    m.wordAt? address = some (Word.ofBytes (m.read address) (m.read (address + 1))) := by
  rw [UInt16.le_iff_toNat_le] at h
  simp only [UInt16.reduceToNat] at h
  have hfirst : (cell address).val = address.toNat := by
    rw [cell, Fin.val_ofNat]
    omega
  have hsecond : (cell (address + 1)).val = address.toNat + 1 := by
    rw [cell, Fin.val_ofNat, UInt16.toNat_add]
    simp only [UInt16.reduceToNat]
    omega
  rw [wordAt?, dif_pos (by omega), Word.ofBytes, read, read]
  simp only [Fin.getElem_fin, hfirst, hsecond]

/-! ### Agreement off some cells -/

/-- Two memories hold the same bytes outside `A`. -/
def AgreeOff (A : Set (Fin 4096)) (m n : Memory) : Prop := ∀ a ∉ A, m.get a = n.get a

theorem AgreeOff.write (h : AgreeOff A m n) (address : UInt16) (byte : UInt8) :
    AgreeOff (A \ {cell address}) (m.write address byte) (n.write address byte) := by
  intro a ha
  rw [get_write, get_write]
  split
  · rfl
  · rename_i hne
    exact h a fun hmem => ha ⟨hmem, hne⟩

/-- Bytes that are written to both memories are the same from then on. -/
theorem AgreeOff.writeAll (h : AgreeOff A m n) (address : UInt16) (bytes : List UInt8) :
    AgreeOff {a ∈ A | a ∉ span address bytes.length} (m.writeAll address bytes)
      (n.writeAll address bytes) := by
  induction bytes generalizing m n A address with
  | nil => exact fun a ha => h a fun hmem => ha ⟨hmem, List.not_mem_nil⟩
  | cons byte bytes ih =>
    intro a ha
    refine ih (h.write address byte) (address + 1) a fun hmem => ha ⟨hmem.1.1, ?_⟩
    rw [List.length_cons, span_succ, List.mem_cons, not_or]
    exact ⟨hmem.1.2, hmem.2⟩

end Memory

/-! ### What an instruction touches -/

namespace Machine

/-- The same machine with another memory. -/
def withMemory (machine : Machine) (m : Memory) : Machine := { machine with memory := m }

/-- Storing writes the values of the registers as one stretch. -/
theorem storeRegs_eq_writeAll (machine : Machine) (x : Nat) :
    machine.storeRegs x =
      machine.withMemory
        (machine.memory.writeAll machine.index ((List.range (x + 1)).map machine.reg)) := by
  rw [storeRegs]
  induction x + 1 with
  | zero => rfl
  | succ count ih =>
    rw [List.range_succ, List.foldl_append, ih, List.map_append, List.map_singleton,
      Memory.writeAll_concat, List.length_map, List.length_range]
    rfl

/-- The digits of a byte are written as one stretch. -/
theorem writeDecimal_eq_writeAll (machine : Machine) (byte : UInt8) :
    machine.writeDecimal byte =
      machine.withMemory
        (machine.memory.writeAll machine.index [byte / 100, byte / 10 % 10, byte % 10]) := by
  have hthird : machine.index + 1 + 1 = machine.index + 2 := UInt16.add_assoc _ 1 1
  simp only [Memory.writeAll, hthird]
  rfl

/-- Registers are loaded alike from all memories that hold the same bytes there. -/
theorem loadRegs_withMemory (machine : Machine) (m : Memory) (x : Nat)
    (h : ∀ a ∈ Memory.span machine.index (x + 1), m.get a = machine.memory.get a) :
    (machine.withMemory m).loadRegs x = (machine.loadRegs x).withMemory m := by
  have hload : ∀ count ≤ x + 1,
      let loaded := (List.range count).foldl loadReg machine
      (List.range count).foldl loadReg (machine.withMemory m) = loaded.withMemory m ∧
        loaded.memory = machine.memory ∧ loaded.index = machine.index := by
    intro count hcount
    induction count with
    | zero => exact ⟨rfl, rfl, rfl⟩
    | succ count ih =>
      obtain ⟨hstate, hmemory, hindex⟩ := ih (Nat.le_of_succ_le hcount)
      have hread : m.read (machine.index + UInt16.ofNat count) =
          machine.memory.read (machine.index + UInt16.ofNat count) :=
        h _ (List.mem_map.mpr ⟨count, List.mem_range.mpr hcount, rfl⟩)
      simp only [List.range_succ, List.foldl_append, List.foldl_cons, List.foldl_nil, hstate]
      refine ⟨?_, hmemory, hindex⟩
      simp only [loadReg, withMemory, read, setReg, hmemory, hindex, hread]
  exact (hload (x + 1) (Nat.le_refl _)).1

end Machine

namespace Interpreter

variable {s : Interpreter} {word : Word} {i : Instruction} {e : Effect}

/-- The bytes that an instruction writes, the first to the index. -/
def stored (s : Interpreter) : Instruction → List UInt8
  | .decimal x => [s.machine.reg x / 100, s.machine.reg x / 10 % 10, s.machine.reg x % 10]
  | .store x => (List.range (x + 1)).map s.machine.reg
  | _ => []

/-- The cells that an instruction reads besides its word. -/
def operandCells (s : Interpreter) : Instruction → List (Fin 4096)
  | .draw _ _ n => Memory.span s.machine.index n.toNat
  | .load x => Memory.span s.machine.index (x + 1)
  | _ => []

/-- The cells that the next cycle writes. -/
def writes (s : Interpreter) : List (Fin 4096) :=
  match s.current? with
  | some i => Memory.span s.machine.index (s.stored i).length
  | none => []

/-- The cells that the next cycle reads. Where there is no word, it reads none. -/
def reads (s : Interpreter) : List (Fin 4096) :=
  match s.word? with
  | some word =>
    [Memory.cell s.machine.pc, Memory.cell (s.machine.pc + 1)] ++
      (decode word).elim [] s.operandCells
  | none => []

/-- The same interpreter with another memory. -/
def withMemory (s : Interpreter) (m : Memory) : Interpreter :=
  { s with machine := s.machine.withMemory m }

end Interpreter

/-- The same effect with another memory. -/
def Effect.withMemory (e : Effect) (m : Memory) : Effect := { e with state := e.state.withMemory m }

namespace Interpreter

variable (s : Interpreter) (m : Memory)

theorem callNative_withMemory (nnn : UInt16) :
    (s.withMemory m).callNative nnn = (s.callNative nnn).withMemory m := by
  have hpc : (s.withMemory m).machine.pc = s.machine.pc := rfl
  have hreported : (s.withMemory m).reported = s.reported := rfl
  rw [callNative, callNative, hpc, hreported]
  split <;> rfl

theorem awaitKeyIn_withMemory (x : Nat) :
    (s.withMemory m).awaitKeyIn x = (s.awaitKeyIn x).withMemory m := by
  have hkeypad : (s.withMemory m).keypad = s.keypad := rfl
  have hway : (s.withMemory m).awaitKey = s.awaitKey := rfl
  rw [awaitKeyIn, awaitKeyIn, hkeypad, hway]
  generalize s.keypad.firstPressed = key, s.awaitKey = way
  cases key <;> cases way <;> rfl

theorem returnFrom_withMemory (word : Word) :
    (s.withMemory m).returnFrom word = (s.returnFrom word).map (·.withMemory m) := by
  have hstack : (s.withMemory m).machine.stack = s.machine.stack := rfl
  rw [returnFrom, returnFrom, hstack]
  cases s.machine.stack.pop? with
  | none => rfl
  | some popped =>
    dsimp only
    cases addressSum popped.1 2 <;> rfl

theorem call_withMemory (word : Word) (nnn : UInt16) :
    (s.withMemory m).call word nnn = (s.call word nnn).map (·.withMemory m) := by
  have hstack : (s.withMemory m).machine.stack = s.machine.stack := rfl
  have hpc : (s.withMemory m).machine.pc = s.machine.pc := rfl
  rw [call, call, hstack, hpc]
  cases s.machine.stack.push? s.machine.pc <;> rfl

theorem jumpOffset_withMemory (nnn : UInt16) :
    (s.withMemory m).jumpOffset nnn = (s.jumpOffset nnn).map (·.withMemory m) := by
  have hreg : (s.withMemory m).machine.reg 0 = s.machine.reg 0 := rfl
  rw [jumpOffset, jumpOffset, hreg]
  cases addressSum nnn (s.machine.reg 0).toUInt16 <;> rfl

theorem addIndex_withMemory (x : Nat) :
    (s.withMemory m).addIndex x = (s.addIndex x).map (·.withMemory m) := by
  have hreg : ((s.withMemory m).machine.setFlag false).reg x =
      (s.machine.setFlag false).reg x := rfl
  have hindex : (s.withMemory m).machine.index = s.machine.index := rfl
  rw [addIndex_eq, addIndex_eq]
  dsimp only
  rw [hreg, hindex]
  split <;> rfl

theorem random_withMemory (x : Nat) (nn : UInt8) :
    (s.withMemory m).random x nn = (s.random x nn).map (·.withMemory m) := by
  have hgenerator : (s.withMemory m).generator = s.generator := rfl
  rw [random, random, hgenerator]
  split
  · rfl
  · cases s.generator.below? nn <;> rfl

theorem draw_withMemory (x y : Nat) (n : UInt8)
    (h : ∀ a ∈ Memory.span s.machine.index n.toNat, m.get a = s.machine.memory.get a) :
    (s.withMemory m).draw x y n = (s.draw x y n).map (·.withMemory m) := by
  have hrows : m.readAll s.machine.index n.toNat =
      s.machine.memory.readAll s.machine.index n.toNat := by
    rw [Memory.readAll_eq_map, Memory.readAll_eq_map]
    exact List.map_congr_left h
  have hread : (s.withMemory m).machine.memory.readAll (s.withMemory m).machine.index n.toNat =
      s.machine.memory.readAll s.machine.index n.toNat := hrows
  rw [draw, draw, hread]
  rfl

/-- An instruction does the same in any memory that holds the bytes it reads: what it leaves of
another memory is that memory with the same bytes written to it. -/
theorem perform_withMemory (word : Word)
    (h : ∀ a ∈ s.operandCells i, m.get a = s.machine.memory.get a) :
    (s.withMemory m).perform word i =
      (s.perform word i).map (·.withMemory (m.writeAll s.machine.index (s.stored i))) := by
  cases i with
  | native nnn => exact congrArg Except.ok (s.callNative_withMemory m nnn)
  | awaitKey x => exact congrArg Except.ok (s.awaitKeyIn_withMemory m x)
  | ret => exact s.returnFrom_withMemory m word
  | call nnn => exact s.call_withMemory m word nnn
  | jumpOffset nnn => exact s.jumpOffset_withMemory m nnn
  | addIndex x => exact s.addIndex_withMemory m x
  | random x nn => exact s.random_withMemory m x nn
  | draw x y n => exact s.draw_withMemory m x y n h
  | load x =>
    show (s.withMemory m).proceed ((s.machine.withMemory m).loadRegs x) = _
    rw [Machine.loadRegs_withMemory s.machine m x h]
    rfl
  | store x =>
    show (s.withMemory m).proceed ((s.machine.withMemory m).storeRegs x) =
      (s.proceed (s.machine.storeRegs x)).map _
    rw [Machine.storeRegs_eq_writeAll, Machine.storeRegs_eq_writeAll]
    rfl
  | decimal x =>
    show (s.withMemory m).proceed ((s.machine.withMemory m).writeDecimal (s.machine.reg x)) =
      (s.proceed (s.machine.writeDecimal (s.machine.reg x))).map _
    rw [Machine.writeDecimal_eq_writeAll, Machine.writeDecimal_eq_writeAll]
    rfl
  | _ => rfl

variable {s}

/-- The memory behind an instruction is the one before it with its bytes written. -/
theorem memory_of_perform (h : s.perform word i = .ok e) :
    e.state.machine.memory = s.machine.memory.writeAll s.machine.index (s.stored i) := by
  have hsame := s.perform_withMemory s.machine.memory word (i := i) fun _ _ => rfl
  rw [show s.withMemory s.machine.memory = s from rfl, h] at hsame
  exact congrArg (fun e : Effect => e.state.machine.memory) (Except.ok.inj hsame)

/-- A cycle changes no cell that it does not write. -/
theorem get_cycle_of_notMem {a : Fin 4096} (ha : a ∉ s.writes) :
    s.cycle.state.machine.memory.get a = s.machine.memory.get a := by
  cases hr : s.cycle.result with
  | error halt => rw [cycle_state_of_halt hr]
  | ok =>
    obtain ⟨word, i, e, hw, hd, hp, hstate⟩ := effect_of_ok hr
    rw [writes, current?_eq_some hw hd] at ha
    rw [hstate]
    show e.state.machine.memory.get a = _
    rw [memory_of_perform hp, Memory.get_writeAll_of_notMem ha]

end Interpreter

end ChipEight
