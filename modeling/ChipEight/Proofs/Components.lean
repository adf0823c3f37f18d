import ChipEight.Proofs.Footprint

/-!
The components of an interpreter, and which of them an instruction may change: a table with a line
for each form of instruction. Whatever does not stand in its line is the same behind the cycle.
Writes to registers and to memory are followed one by one, so an instruction may write the same
place twice.
-/

namespace ChipEight

/-- What an interpreter is made of, but for the program counter, which every instruction may move.
-/
inductive Component where
  | cell (a : Fin 4096)
  | register (r : Fin 16)
  | stack
  | index
  | delayTimer
  | soundTimer
  | display
  | keypad
  | awaitKey
  | generator
  | reported
  deriving DecidableEq

namespace Component

/-- A component is the same in two interpreters. The call stack counts with the slots above its
depth, the display with its flag. -/
def Same (s t : Interpreter) : Component → Prop
  | .cell a => t.machine.memory.get a = s.machine.memory.get a
  | .register r => t.machine.reg r = s.machine.reg r
  | .stack => t.machine.stack = s.machine.stack
  | .index => t.machine.index = s.machine.index
  | .delayTimer => t.machine.delayTimer = s.machine.delayTimer
  | .soundTimer => t.machine.soundTimer = s.machine.soundTimer
  | .display => t.display = s.display
  | .keypad => t.keypad = s.keypad
  | .awaitKey => t.awaitKey = s.awaitKey
  | .generator => t.generator = s.generator
  | .reported => t.reported = s.reported

/-- The cells that `count` bytes from `index` on take, modulo the size of memory. -/
def window (index : UInt16) (count : Nat) : List Component :=
  (List.range count).map fun j =>
    .cell ⟨(index.toNat + j) % 4096, Nat.mod_lt _ (Nat.zero_lt_succ 4095)⟩

/-- The register of a number. -/
def numbered (x : Nat) : Component := .register (lowDigit x)

/-- The flag register. -/
def flag : Component := numbered flagRegister

end Component

/-- The components that an instruction may change if the index is `index`. -/
def Instruction.targets (index : UInt16) : Instruction → List Component
  | .native _ => [.reported]
  | .clear => [.display]
  | .draw _ _ _ => [.display, .flag]
  | .ret | .call _ => [.stack]
  | .jump _ | .jumpOffset _ => []
  | .skipIfByte _ _ | .skipUnlessByte _ _ | .skipIfSame _ _ | .skipUnlessSame _ _ => []
  | .skipIfKey _ | .skipUnlessKey _ => []
  | .setByte x _ | .addByte x _ | .copy x _ | .or x _ | .and x _ | .xor x _ => [.numbered x]
  | .getDelay x | .awaitKey x => [.numbered x]
  | .add x _ | .subtract x _ | .subtractFrom x _ => [.numbered x, .flag]
  | .shiftRight x | .shiftLeft x => [.numbered x, .flag]
  | .random x nn => if nn = 0 then [.numbered x] else [.numbered x, .generator]
  | .setIndex _ | .glyph _ => [.index]
  | .addIndex _ => [.index, .flag]
  | .setDelay _ => [.delayTimer]
  | .setSound _ => [.soundTimer]
  | .decimal _ => Component.window index 3
  | .store x => Component.window index (x + 1)
  | .load x => (List.range (x + 1)).map .numbered

theorem Instruction.reported_notMem_targets (i : Instruction) (h : ∀ nnn, i ≠ .native nnn)
    (index : UInt16) : .reported ∉ i.targets index := by
  cases i with
  | native nnn => exact absurd rfl (h nnn)
  | random x nn =>
    rw [targets]
    split <;> simp [Component.numbered]
  | _ => simp [targets, Component.window, Component.numbered, Component.flag]

namespace Component

variable {s t : Interpreter} {p : Component}

theorem cell_mem_window_iff (index : UInt16) (count : Nat) (a : Fin 4096) :
    cell a ∈ window index count ↔ a ∈ Memory.span index count := by
  simp only [window, Memory.span, List.mem_map, cell.injEq, Fin.ext_iff, Memory.val_cell_add]

theorem Same.refl (s : Interpreter) (p : Component) : p.Same s s := by
  cases p <;> rfl

theorem Same.setReg (h : p.Same s t) {x : Nat} (hne : p ≠ numbered x) (byte : UInt8) :
    p.Same s { t with machine := t.machine.setReg x byte } := by
  cases p with
  | register r =>
    have hr : ¬ r.val % 16 = x % 16 := by
      intro heq
      refine hne (congrArg register (Fin.ext ?_))
      exact (Nat.mod_eq_of_lt r.isLt).symm.trans heq
    rw [Same, Machine.reg_setReg, if_neg hr]
    exact h
  | _ => exact h

theorem Same.setFlag (h : p.Same s t) (hne : p ≠ flag) (raised : Bool) :
    p.Same s { t with machine := t.machine.setFlag raised } :=
  h.setReg hne _

theorem Same.writeAll (h : p.Same s t) {address : UInt16} {bytes : List UInt8}
    (hne : p ∉ window address bytes.length) :
    p.Same s
      { t with machine := t.machine.withMemory (t.machine.memory.writeAll address bytes) } := by
  cases p with
  | cell a =>
    rw [cell_mem_window_iff] at hne
    exact (Memory.get_writeAll_of_notMem hne).trans h
  | _ => exact h

/-- Loading sets one register after the other. -/
theorem Same.loadRegs (h : p.Same s t) {x : Nat} (hne : p ∉ (List.range (x + 1)).map numbered) :
    p.Same s { t with machine := t.machine.loadRegs x } := by
  rw [Machine.loadRegs]
  generalize List.range (x + 1) = registers at hne
  induction registers generalizing t with
  | nil => exact h
  | cons r rest ih =>
    rw [List.map_cons, List.mem_cons, not_or] at hne
    exact ih (h.setReg hne.1 _) hne.2

theorem Same.withStack (h : p.Same s t) (hne : p ≠ .stack) (stack : CallStack) :
    p.Same s { t with machine := { t.machine with stack := stack } } := by
  cases p with
  | stack => exact absurd rfl hne
  | _ => exact h

/-- The program counter is no component. -/
theorem Same.arrive {e : Effect} (h : p.Same s e.state) (pc : UInt16) : p.Same s (e.arrive pc) := by
  cases p <;> exact h

end Component

namespace Interpreter

open Component (Same)

variable {s : Interpreter} {word : Word} {i : Instruction} {e : Effect} {p : Component}

/-- A bound of zero takes no random word. -/
theorem same_of_random {x : Nat} {nn : UInt8} (h : s.random x nn = .ok e)
    (hp : p ∉ (Instruction.random x nn).targets s.machine.index) : p.Same s e.state := by
  rw [Instruction.targets] at hp
  rw [random] at h
  split at h
  · rename_i hzero
    rw [if_pos hzero, List.mem_singleton] at hp
    cases h
    exact (Same.refl s p).setReg hp 0
  · rename_i hpos
    rw [if_neg hpos, List.mem_pair, not_or] at hp
    split at h
    · cases h
    · rename_i value generator _
      cases h
      cases p with
      | generator => exact absurd rfl hp.2
      | _ => exact (Same.refl s _).setReg hp.1 value

theorem same_callNative (nnn : UInt16) (hne : p ≠ .reported) :
    p.Same s (s.callNative nnn).state := by
  rw [callNative]
  split
  · exact Same.refl s p
  · cases p with
    | reported => exact absurd rfl hne
    | _ => rfl

theorem same_awaitKeyIn (x : Nat) (hne : p ≠ .numbered x) : p.Same s (s.awaitKeyIn x).state := by
  rw [awaitKeyIn]
  split
  · exact (Same.refl s p).setReg hne _
  · exact Same.refl s p
  · exact (Same.refl s p).setReg hne _
  · exact Same.refl s p

theorem same_of_addIndex {x : Nat} (h : s.addIndex x = .ok e) (hindex : p ≠ .index)
    (hflag : p ≠ .flag) : p.Same s e.state := by
  have hcleared := (Same.refl s p).setFlag hflag false
  cases (s.addIndex_eq x).symm.trans h
  cases p with
  | index => exact absurd rfl hindex
  | _ =>
    dsimp only
    split
    · exact hcleared.setFlag hflag true
    · exact hcleared

/-- An effect leaves every component that is no target of its instruction. -/
theorem same_of_perform (h : s.perform word i = .ok e) (hp : p ∉ i.targets s.machine.index) :
    p.Same s e.state := by
  have hrefl := Same.refl s p
  cases i with
  | native nnn =>
    cases h
    exact same_callNative nnn (List.mem_singleton.not.mp hp)
  | ret =>
    obtain ⟨stack, target, rfl⟩ := exists_of_returnFrom h
    exact hrefl.withStack (List.mem_singleton.not.mp hp) stack
  | call nnn =>
    obtain ⟨stack, target, rfl⟩ := exists_of_call h
    exact hrefl.withStack (List.mem_singleton.not.mp hp) stack
  | random x nn => exact same_of_random h hp
  | awaitKey x =>
    cases h
    exact same_awaitKeyIn x (List.mem_singleton.not.mp hp)
  | addIndex x =>
    rw [Instruction.targets, List.mem_pair, not_or] at hp
    exact same_of_addIndex h hp.1 hp.2
  | jumpOffset nnn =>
    obtain ⟨target, rfl⟩ := exists_of_jumpOffset h
    exact hrefl
  | jump | skipIfByte | skipUnlessByte | skipIfSame | skipUnlessSame | skipIfKey | skipUnlessKey =>
    cases h
    exact hrefl
  | setByte | addByte | copy | or | and | xor | getDelay =>
    cases h
    exact hrefl.setReg (List.mem_singleton.not.mp hp) _
  | add | subtract | subtractFrom =>
    cases h
    rw [Instruction.targets, List.mem_pair, not_or] at hp
    exact (hrefl.setReg hp.1 _).setFlag hp.2 _
  | shiftRight | shiftLeft =>
    cases h
    rw [Instruction.targets, List.mem_pair, not_or] at hp
    exact (hrefl.setFlag hp.2 _).setReg hp.1 _
  | clear =>
    cases h
    cases p with
    | display => exact absurd (List.mem_singleton.mpr rfl) hp
    | _ => rfl
  | draw x y n =>
    cases h
    rw [Instruction.targets, List.mem_pair, not_or] at hp
    cases p with
    | display => exact absurd rfl hp.1
    | register r => exact hrefl.setFlag hp.2 _
    | _ => rfl
  | setIndex | glyph =>
    cases h
    cases p with
    | index => exact absurd (List.mem_singleton.mpr rfl) hp
    | _ => rfl
  | setDelay x =>
    cases h
    cases p with
    | delayTimer => exact absurd (List.mem_singleton.mpr rfl) hp
    | _ => rfl
  | setSound x =>
    cases h
    cases p with
    | soundTimer => exact absurd (List.mem_singleton.mpr rfl) hp
    | _ => rfl
  | decimal x =>
    cases h
    rw [Machine.writeDecimal_eq_writeAll]
    exact hrefl.writeAll hp
  | store x =>
    cases h
    rw [Machine.storeRegs_eq_writeAll]
    refine hrefl.writeAll ?_
    rw [List.length_map, List.length_range]
    exact hp
  | load x =>
    cases h
    exact hrefl.loadRegs hp

/-- A native call adds its address to those that were reported. -/
theorem mem_reported_callNative (s : Interpreter) (nnn a : UInt16) :
    a ∈ (s.callNative nnn).state.reported ↔ a = s.machine.pc ∨ a ∈ s.reported := by
  rw [callNative]
  split
  · rename_i hmem
    constructor
    · exact .inr
    · rintro (rfl | ha)
      · exact hmem
      · exact ha
  · exact List.mem_cons

theorem same_cycle (hw : s.word? = some word) (hd : decode word = some i)
    (hp : p ∉ i.targets s.machine.index) : p.Same s s.cycle.state := by
  cases hperform : s.perform word i with
  | ok e =>
    rw [cycle_of_effect hw hd hperform]
    exact (same_of_perform hperform hp).arrive _
  | error halt =>
    rw [cycle_of_halt hw hd hperform]
    exact Same.refl s p

/-- A native call adds its address to those that were reported, and nothing else does. -/
theorem mem_reported_cycle (hw : s.word? = some word) (hd : decode word = some i) (a : UInt16) :
    a ∈ s.cycle.state.reported ↔
      a ∈ s.reported ∨ a = s.machine.pc ∧ ∃ nnn, i = .native nnn := by
  by_cases hnative : ∃ nnn, i = .native nnn
  · obtain ⟨nnn, rfl⟩ := hnative
    have hcalled : s.cycle.state.reported = (s.callNative nnn).state.reported := by
      rw [cycle_of_effect hw hd rfl]
      rfl
    rw [hcalled, mem_reported_callNative, or_comm]
    simp
  · have hkept : s.cycle.state.reported = s.reported :=
      same_cycle hw hd (i.reported_notMem_targets (not_exists.mp hnative) _)
    rw [hkept]
    simp [hnative]

/-- A cycle leaves every component that is no target of the instruction it executes: no instruction
moves a key, and the addresses that were reported become one more behind a native call and stay the
same behind all others. -/
theorem cycle_changes_targets_only (hw : s.word? = some word) (hd : decode word = some i) :
    (∀ p, p ∉ i.targets s.machine.index → p.Same s s.cycle.state) ∧
      s.cycle.state.keypad = s.keypad ∧
      ∀ a, a ∈ s.cycle.state.reported ↔
        a ∈ s.reported ∨ a = s.machine.pc ∧ ∃ nnn, i = .native nnn :=
  ⟨fun _ hp => same_cycle hw hd hp, s.cycle_leaves_host.1, mem_reported_cycle hw hd⟩

/-- `F155` with the index at the last 16-bit number: the first byte goes to the last cell of memory
and the second one to the first. -/
def storeAcrossEnd : Interpreter :=
  let blank := Interpreter.new {} .zeros
  { blank with
    machine := { blank.machine with
      memory := Memory.zero.writeAll 0x200 [0xF1, 0x55]
      registers := Vector.replicate 16 7
      index := 0xFFFF } }

theorem storeAcrossEnd_changes_two_cells :
    storeAcrossEnd.word? = some 0xF155 ∧ decode 0xF155 = some (.store 1) ∧
      (∀ p : Component, p ≠ .cell 4095 → p ≠ .cell 0 →
        p.Same storeAcrossEnd storeAcrossEnd.cycle.state) ∧
      storeAcrossEnd.cycle.state.machine.memory.get 4095 = 7 ∧
      storeAcrossEnd.cycle.state.machine.memory.get 0 = 7 := by
  have hword : storeAcrossEnd.word? = some 0xF155 := by decide +kernel
  have hdecode : decode 0xF155 = some (.store 1) := by decide +kernel
  have htargets : (Instruction.store 1).targets storeAcrossEnd.machine.index =
      [.cell 4095, .cell 0] := by decide +kernel
  obtain ⟨hsame, -, -⟩ := cycle_changes_targets_only hword hdecode
  refine ⟨hword, hdecode, fun p hlast hfirst => hsame p ?_, by decide +kernel, by decide +kernel⟩
  rw [htargets, List.mem_pair, not_or]
  exact ⟨hlast, hfirst⟩

end Interpreter

end ChipEight
