import ChipEight.Proofs.Footprint

/-!
Bytes between registers and memory. A stretch of memory is counted on from the index, modulo the
size of memory, and it has as many cells as bytes, so what is put there is what is taken from
there. Storing and loading are inverse on it, and the decimal digits of a byte are read back.
-/

namespace ChipEight

/-! ### Stretches of memory -/

namespace Memory

theorem place_lt (address : UInt16) (k : Nat) : (address.toNat + k) % 4096 < 4096 :=
  Nat.mod_lt _ (Nat.zero_lt_succ 4095)

/-- The cell that is `k` behind an address, modulo the size of memory. -/
def behind (address : UInt16) (k : Nat) : Fin 4096 :=
  ⟨(address.toNat + k) % 4096, place_lt address k⟩

variable {address : UInt16} {count k : Nat}

theorem cell_add (address : UInt16) (k : Nat) :
    cell (address + UInt16.ofNat k) = behind address k :=
  Fin.ext (val_cell_add address k)

/-- Less than a whole memory behind an address, no cell comes up twice. -/
theorem behind_inj {j : Nat} (hj : j < 4096) (hk : k < 4096) :
    behind address j = behind address k ↔ j = k := by
  rw [behind, behind, Fin.mk.injEq]
  omega

theorem mem_span_iff_behind {a : Fin 4096} :
    a ∈ span address count ↔ ∃ k < count, a = behind address k := by
  simp [span, cell_add, eq_comm]

/-- Bytes that are written one behind the other are read back. -/
theorem get_writeAll (m : Memory) (bytes : Nat → UInt8) (hcount : count ≤ 4096) (hk : k < count) :
    (m.writeAll address ((List.range count).map bytes)).get (behind address k) = bytes k := by
  induction count with
  | zero => simp at hk
  | succ count ih =>
    rw [List.range_succ, List.map_append, List.map_singleton, writeAll_concat, List.length_map,
      List.length_range, get_write, cell_add]
    by_cases hlast : k = count
    · rw [hlast, if_pos rfl]
    · have hne : behind address k ≠ behind address count :=
        mt (behind_inj (by omega) (by omega)).mp hlast
      rw [if_neg hne, ih (by omega) (by omega)]

theorem get_writeAll_of_ne (m : Memory) (bytes : Nat → UInt8) {a : Fin 4096}
    (ha : ∀ k < count, a ≠ behind address k) :
    (m.writeAll address ((List.range count).map bytes)).get a = m.get a := by
  refine get_writeAll_of_notMem fun hmem => ?_
  rw [List.length_map, List.length_range, mem_span_iff_behind] at hmem
  obtain ⟨k, hk, heq⟩ := hmem
  exact ha k hk heq

end Memory

open Memory (behind)

/-! ### Loaded registers -/

namespace Machine

/-- The same machine with other registers. -/
def withRegisters (machine : Machine) (registers : Vector UInt8 16) : Machine :=
  { machine with registers := registers }

/-- The registers behind a load of the first `count`. -/
def loaded (machine : Machine) (count : Nat) : Vector UInt8 16 :=
  Vector.ofFn fun r =>
    if r.val < count then machine.memory.get (behind machine.index r.val)
    else machine.reg r.val

theorem reg_of_lt (machine : Machine) {r : Nat} (hr : r < 16) :
    machine.reg r = machine.registers[r] := by
  simp only [reg, lowDigit, Fin.getElem_fin, Nat.mod_eq_of_lt hr]

theorem loadReg_eq_setReg (machine : Machine) (r : Nat) :
    machine.loadReg r = machine.setReg r (machine.memory.get (behind machine.index r)) := by
  rw [← Memory.cell_add]
  rfl

theorem loaded_zero (machine : Machine) : machine.loaded 0 = machine.registers := by
  refine Vector.ext fun r hr => ?_
  simp [loaded, reg_of_lt]

/-- The next register is loaded from the next cell. -/
theorem loadReg_loaded (machine : Machine) {count : Nat} (hcount : count < 16) :
    (machine.withRegisters (machine.loaded count)).loadReg count =
      machine.withRegisters (machine.loaded (count + 1)) := by
  have hsetReg : ∀ registers byte, (machine.withRegisters registers).setReg count byte =
      machine.withRegisters (registers.set (lowDigit count) byte) := fun _ _ => rfl
  rw [loadReg_eq_setReg, hsetReg]
  refine congrArg machine.withRegisters (Vector.ext fun r hr => ?_)
  simp only [lowDigit, Nat.mod_eq_of_lt hcount, Vector.getElem_set, loaded, Vector.getElem_ofFn]
  by_cases hlast : r = count
  · simp [hlast, withRegisters]
  · have hbound : r < count + 1 ↔ r < count := by omega
    simp only [hbound, if_neg (Ne.symm hlast)]

theorem loadRegs_eq_withRegisters (machine : Machine) {x : Nat} (hx : x < 16) :
    machine.loadRegs x = machine.withRegisters (machine.loaded (x + 1)) := by
  have hloads : ∀ count ≤ 16, (List.range count).foldl loadReg machine =
      machine.withRegisters (machine.loaded count) := by
    intro count hcount
    induction count with
    | zero =>
      rw [loaded_zero]
      rfl
    | succ count ih =>
      rw [List.range_succ, List.foldl_append, ih (Nat.le_of_succ_le hcount), List.foldl_cons,
        loadReg_loaded machine hcount, List.foldl_nil]
  exact hloads (x + 1) hx

theorem reg_loaded (machine : Machine) (count : Nat) {r : Nat} (hr : r < 16) :
    (machine.withRegisters (machine.loaded count)).reg r =
      if r < count then machine.memory.get (behind machine.index r) else machine.reg r := by
  rw [reg_of_lt _ hr]
  exact Vector.getElem_ofFn hr

/-- Registers are the same if each of them is. -/
theorem registers_eq {m n : Machine} (h : ∀ r < 16, m.reg r = n.reg r) :
    m.registers = n.registers := by
  refine Vector.ext fun r hr => ?_
  rw [← m.reg_of_lt hr, ← n.reg_of_lt hr, h r hr]

end Machine

namespace Interpreter

variable {s t u : Interpreter} {v w : Word} {i : Instruction} {count : Nat}

/-- The same interpreter with other registers. -/
def withRegisters (s : Interpreter) (registers : Vector UInt8 16) : Interpreter :=
  { s with machine := s.machine.withRegisters registers }

/-- Wherever the program counter is, executing a word leads from `s` to `t` and goes on behind the
word; and so does a cycle that finds the word there. -/
def Executes (s : Interpreter) (w : Word) (t : Interpreter) : Prop :=
  ∃ i, decode w = some i ∧ ∀ pc,
    (s.goTo pc).execute w i = .ok ⟨t.goTo pc, .next, []⟩ ∧
    ((s.goTo pc).word? = some w →
      (s.goTo pc).cycle = ⟨t.goTo (pc + 2), [.executing pc w i], .ok ()⟩)

theorem executes_of_perform (hd : decode w = some i)
    (hp : ∀ pc, (s.goTo pc).perform w i = .ok ⟨t.goTo pc, .next, []⟩) : s.Executes w t := by
  refine ⟨i, hd, fun pc => ⟨?_, fun hw => ?_⟩⟩
  · rw [execute_of_decode hd, hp]
  · rw [cycle_of_effect hw hd (hp pc)]
    rfl

/-! ### Bytes put to memory -/

/-- `t` is `s` with `count` bytes put to the index and behind it, and else the same. -/
structure Puts (s t : Interpreter) (count : Nat) (bytes : Nat → UInt8) : Prop where
  written : ∀ k < count, t.machine.memory.get (behind s.machine.index k) = bytes k
  kept : ∀ a, (∀ k < count, a ≠ behind s.machine.index k) →
    t.machine.memory.get a = s.machine.memory.get a
  rest : t = s.withMemory t.machine.memory

/-- The state with `count` bytes put to the index and behind it. -/
def put (s : Interpreter) (count : Nat) (bytes : Nat → UInt8) : Interpreter :=
  s.withMemory (s.machine.memory.writeAll s.machine.index ((List.range count).map bytes))

theorem puts_put (s : Interpreter) (hcount : count ≤ 4096) (bytes : Nat → UInt8) :
    s.Puts (s.put count bytes) count bytes where
  written _ hk := Memory.get_writeAll s.machine.memory bytes hcount hk
  kept _ ha := Memory.get_writeAll_of_ne s.machine.memory bytes ha
  rest := rfl

/-- A word that stores puts registers to memory. -/
theorem executes_store (s : Interpreter) (h : w &&& 0xF0FF = 0xF055) :
    s.Executes w (s.put (w.x + 1) s.machine.reg) := by
  have hd : decode w = some (.store w.x) := decode_of_mask .store (by decide) (by decide) h
  refine executes_of_perform hd fun pc => ?_
  show (s.goTo pc).proceed ((s.goTo pc).machine.storeRegs w.x) = _
  rw [Machine.storeRegs_eq_writeAll]
  rfl

/-- The decimal digits of a byte, the hundreds first. -/
def decimalDigit (byte : UInt8) : Nat → UInt8
  | 0 => byte / 100
  | 1 => byte / 10 % 10
  | _ => byte % 10

/-- A word that converts puts decimal digits to memory. -/
theorem executes_decimal (s : Interpreter) (h : w &&& 0xF0FF = 0xF033) :
    s.Executes w (s.put 3 (decimalDigit (s.machine.reg w.x))) := by
  have hd : decode w = some (.decimal w.x) := decode_of_mask .decimal (by decide) (by decide) h
  refine executes_of_perform hd fun pc => ?_
  show (s.goTo pc).proceed ((s.goTo pc).machine.writeDecimal ((s.goTo pc).machine.reg w.x)) = _
  rw [Machine.writeDecimal_eq_writeAll]
  rfl

/-! ### Bytes taken from memory -/

/-- `t` is `s` with `count` registers taken from the index and behind it, and else the same. -/
structure Takes (s t : Interpreter) (count : Nat) : Prop where
  taken : ∀ r < count, t.machine.reg r = s.machine.memory.get (behind s.machine.index r)
  kept : ∀ r < 16, count ≤ r → t.machine.reg r = s.machine.reg r
  rest : t = s.withRegisters t.machine.registers

/-- The state with `count` registers taken from the index and behind it. -/
def take (s : Interpreter) (count : Nat) : Interpreter := s.withRegisters (s.machine.loaded count)

theorem takes_take (s : Interpreter) (hcount : count ≤ 16) : s.Takes (s.take count) count where
  taken r hr := (s.machine.reg_loaded count (by omega)).trans (if_pos hr)
  kept r hr hle := (s.machine.reg_loaded count hr).trans (if_neg (Nat.not_lt.mpr hle))
  rest := rfl

/-- A word that loads takes registers from memory. -/
theorem executes_load (s : Interpreter) (h : w &&& 0xF0FF = 0xF065) :
    s.Executes w (s.take (w.x + 1)) := by
  have hd : decode w = some (.load w.x) := decode_of_mask .load (by decide) (by decide) h
  refine executes_of_perform hd fun pc => ?_
  show (s.goTo pc).proceed ((s.goTo pc).machine.loadRegs w.x) = _
  rw [Machine.loadRegs_eq_withRegisters _ w.x_lt]
  rfl

/-! ### One behind the other -/

theorem Puts.index_eq {bytes : Nat → UInt8} (h : s.Puts t count bytes) :
    t.machine.index = s.machine.index := by
  rw [h.rest]
  rfl

theorem Puts.reg_eq {bytes : Nat → UInt8} (h : s.Puts t count bytes) (r : Nat) :
    t.machine.reg r = s.machine.reg r := by
  rw [h.rest]
  rfl

theorem Takes.index_eq (h : s.Takes t count) : t.machine.index = s.machine.index := by
  rw [h.rest]
  rfl

theorem Takes.memory_eq (h : s.Takes t count) : t.machine.memory = s.machine.memory := by
  rw [h.rest]
  rfl

/-- What was put to memory is taken from it. -/
theorem Puts.reg_of_takes {bytes : Nat → UInt8} (hput : s.Puts t count bytes)
    (htake : t.Takes u count) {r : Nat} (hr : r < count) : u.machine.reg r = bytes r := by
  rw [htake.taken r hr, hput.index_eq, hput.written r hr]

/-- Registers that are put to memory and taken from it are as before. -/
theorem Puts.registers_of_takes (hput : s.Puts t count s.machine.reg) (htake : t.Takes u count) :
    u.machine.registers = s.machine.registers := by
  refine Machine.registers_eq fun r hr => ?_
  by_cases hwindow : r < count
  · exact hput.reg_of_takes htake hwindow
  · rw [htake.kept r hr (Nat.not_lt.mp hwindow), hput.reg_eq]

/-- Memory from which registers are taken is as before once they are put there. -/
theorem Takes.memory_of_puts (htake : s.Takes t count) (hput : t.Puts u count t.machine.reg) :
    u.machine.memory = s.machine.memory := by
  refine Vector.ext fun a ha => ?_
  show u.machine.memory.get ⟨a, ha⟩ = s.machine.memory.get ⟨a, ha⟩
  by_cases hwindow : ∃ k < count, ⟨a, ha⟩ = behind s.machine.index k
  · obtain ⟨k, hk, heq⟩ := hwindow
    rw [heq, ← htake.taken k hk, ← htake.index_eq, hput.written k hk]
  · rw [hput.kept, htake.memory_eq]
    intro k hk heq
    exact hwindow ⟨k, hk, htake.index_eq ▸ heq⟩

theorem Executes.cycle (h : s.Executes w t) (hw : s.word? = some w) :
    s.cycle.state = t.goTo (s.machine.pc + 2) ∧ s.cycle.result = .ok () := by
  obtain ⟨i, -, hi⟩ := h
  have hcycle : s.cycle = ⟨t.goTo (s.machine.pc + 2), [.executing s.machine.pc w i], .ok ()⟩ :=
    (hi s.machine.pc).2 hw
  rw [hcycle]
  exact ⟨rfl, rfl⟩

theorem Executes.goTo (h : s.Executes w t) (pc : UInt16) : (s.goTo pc).Executes w (t.goTo pc) := h

/-- Words that are executed one behind the other are two cycles of a run. -/
theorem Executes.runCycles (hv : s.Executes v t) (hw : t.Executes w u) (hfirst : s.word? = some v)
    (hsecond : s.cycle.state.word? = some w) :
    (s.runCycles 2).state = u.goTo (s.machine.pc + 2 + 2) ∧ (s.runCycles 2).result = .ok () := by
  obtain ⟨hstate, hresult⟩ := hv.cycle hfirst
  rw [hstate] at hsecond
  obtain ⟨hstate', hresult'⟩ := (hw.goTo _).cycle hsecond
  rw [runCycles_succ, hresult, hstate, runCycles_succ, hresult', hstate']
  exact ⟨rfl, rfl⟩

/-- Storing and loading undo each other. A store puts the registers up to its own to the index and
behind it, and a load takes the registers up to its own from there; both leave all else, so the
index too. Registers are as before once they were stored and loaded, and memory is as before once
registers were loaded and stored. -/
theorem store_load_inverse (s : Interpreter) (v w : Word) (hv : v &&& 0xF0FF = 0xF055)
    (hw : w &&& 0xF0FF = 0xF065) (hx : w.x = v.x) :
    ∃ stored loaded,
      s.Executes v stored ∧ s.Puts stored (v.x + 1) s.machine.reg ∧
      s.Executes w loaded ∧ s.Takes loaded (v.x + 1) ∧
      stored.machine.index = s.machine.index ∧ loaded.machine.index = s.machine.index ∧
      (∃ back, stored.Executes w back ∧ back.machine.registers = s.machine.registers) ∧
      ∃ back, loaded.Executes v back ∧ back.machine.memory = s.machine.memory := by
  have hregisters : v.x + 1 ≤ 16 := v.x_lt
  have hmemory : v.x + 1 ≤ 4096 := by omega
  have hload : ∀ t : Interpreter, t.Executes w (t.take (v.x + 1)) := fun t => hx ▸ t.executes_load hw
  have hstored := s.puts_put hmemory s.machine.reg
  have hloaded := s.takes_take hregisters
  refine ⟨_, _, s.executes_store hv, hstored, hload s, hloaded, hstored.index_eq, hloaded.index_eq,
    ⟨_, hload _, ?_⟩, ⟨_, executes_store _ hv, ?_⟩⟩
  · exact hstored.registers_of_takes (takes_take _ hregisters)
  · exact hloaded.memory_of_puts (puts_put _ hmemory _)

/-- A program with the index at the last address and with `F0` to `FF` in the registers. -/
def indexAtEnd (program : List UInt8) : Interpreter :=
  let blank := Interpreter.new {} .zeros
  { blank with
    machine := { blank.machine with
      memory := Memory.zero.writeAll loadAddress program
      registers := Vector.ofFn fun r => UInt8.ofNat (0xF0 + r.val)
      index := 0xFFFF } }

theorem indexAtEnd_inverse :
    let s := indexAtEnd [0xFF, 0x55, 0xFF, 0x65]
    s.cycle.state.machine.memory.get (behind 0xFFF 0) = 0xF0 ∧
      s.cycle.state.machine.memory.get (behind 0 14) = 0xFF ∧
      s.cycle.state.machine.memory.get (behind 0 15) = 0 ∧
      (s.runCycles 2).state.machine.registers = s.machine.registers := by
  intro s
  have hfirst : s.word? = some 0xFF55 := by decide +kernel
  have hsecond : s.cycle.state.word? = some 0xFF65 := by decide +kernel
  obtain ⟨stored, -, hstore, hputs, -, -, -, -, ⟨back, hload, hback⟩, -⟩ :=
    store_load_inverse s 0xFF55 0xFF65 (by decide) (by decide) (by decide)
  rw [(hstore.cycle hfirst).1, (hstore.runCycles hload hfirst hsecond).1]
  refine ⟨?_, ?_, ?_, hback⟩
  · have hcell : behind s.machine.index 0 = behind 0xFFF 0 := by decide +kernel
    have hlow : s.machine.reg 0 = 0xF0 := by decide +kernel
    exact hcell ▸ (hputs.written 0 (by decide)).trans hlow
  · have hcell : behind s.machine.index 15 = behind 0 14 := by decide +kernel
    have hhigh : s.machine.reg 15 = 0xFF := by decide +kernel
    exact hcell ▸ (hputs.written 15 (by decide)).trans hhigh
  · have hzero : s.machine.memory.get (behind 0 15) = 0 := by decide +kernel
    exact (hputs.kept (behind 0 15) (by decide +kernel)).trans hzero

/-! ### Decimal digits -/

theorem decimalDigit_le (byte : UInt8) (k : Nat) : decimalDigit byte k ≤ 9 := by
  have hbyte := byte.toNat_lt
  rw [UInt8.le_iff_toNat_le]
  unfold decimalDigit
  split <;> simp only [UInt8.toNat_div, UInt8.toNat_mod, UInt8.reduceToNat] <;> omega

/-- The digits of a byte write it. -/
theorem decimalDigit_sum (byte : UInt8) :
    100 * (decimalDigit byte 0).toNat + 10 * (decimalDigit byte 1).toNat +
      (decimalDigit byte 2).toNat = byte.toNat := by
  simp only [decimalDigit, UInt8.toNat_div, UInt8.toNat_mod, UInt8.reduceToNat]
  omega

/-- The digits of a byte are read back. Once they are put to memory and three registers are taken
from there, these hold them, also if one of the three held the byte; the other registers and the
index are as before, and so is memory but for three cells. -/
theorem decimal_reads_back (s : Interpreter) (w : Word) (hw : w &&& 0xF0FF = 0xF033) :
    ∃ converted loaded, s.Executes w converted ∧ converted.Executes 0xF265 loaded ∧
      (∀ r < 3, loaded.machine.reg r ≤ 9) ∧
      100 * (loaded.machine.reg 0).toNat + 10 * (loaded.machine.reg 1).toNat +
        (loaded.machine.reg 2).toNat = (s.machine.reg w.x).toNat ∧
      (∀ r < 16, 3 ≤ r → loaded.machine.reg r = s.machine.reg r) ∧
      loaded.machine.index = s.machine.index ∧
      ∀ a, (∀ k < 3, a ≠ behind s.machine.index k) →
        loaded.machine.memory.get a = s.machine.memory.get a := by
  have hload : ∀ t : Interpreter, t.Executes 0xF265 (t.take 3) := fun t => t.executes_load (by decide)
  have hputs : s.Puts (s.put 3 _) 3 (decimalDigit (s.machine.reg w.x)) := s.puts_put (by decide) _
  have htakes : (s.put 3 (decimalDigit (s.machine.reg w.x))).Takes (take _ 3) 3 :=
    takes_take _ (by decide)
  refine ⟨_, _, s.executes_decimal hw, hload _, fun r hr => ?_, ?_, fun r hr hle => ?_, ?_,
    fun a ha => ?_⟩
  · rw [hputs.reg_of_takes htakes hr]
    exact decimalDigit_le _ _
  · rw [hputs.reg_of_takes htakes (by decide), hputs.reg_of_takes htakes (by decide),
      hputs.reg_of_takes htakes (by decide), decimalDigit_sum]
  · rw [htakes.kept r hr hle, hputs.reg_eq]
  · rw [htakes.index_eq, hputs.index_eq]
  · rw [htakes.memory_eq, hputs.kept a ha]

/-- The byte stands in one of the three registers that its digits are taken into. -/
theorem indexAtEnd_reads_back :
    let s := indexAtEnd [0xF2, 0x33, 0xF2, 0x65]
    let loaded := (s.runCycles 2).state.machine
    100 * (loaded.reg 0).toNat + 10 * (loaded.reg 1).toNat + (loaded.reg 2).toNat = 0xF2 ∧
      loaded.reg 3 = 0xF3 ∧ loaded.index = 0xFFFF ∧ loaded.memory.get (behind 0 2) = 0 := by
  intro s loaded
  have hfirst : s.word? = some 0xF233 := by decide +kernel
  have hsecond : s.cycle.state.word? = some 0xF265 := by decide +kernel
  obtain ⟨converted, read, hconvert, hload, -, hsum, hregisters, hindex, hmemory⟩ :=
    decimal_reads_back s 0xF233 (by decide)
  have hrun : loaded = (read.goTo _).machine :=
    congrArg machine (hconvert.runCycles hload hfirst hsecond).1
  rw [hrun]
  refine ⟨hsum.trans (by decide +kernel), ?_, hindex, ?_⟩
  · exact (hregisters 3 (by decide) (by decide)).trans (by decide +kernel)
  · exact (hmemory (behind 0 2) (by decide +kernel)).trans (by decide +kernel)

end Interpreter

end ChipEight
