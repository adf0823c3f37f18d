import ChipEight.Proofs.HostSide

/-!
What a program sees. Timers, keys, the way of waiting for a key, the flag of the display and the
addresses already warned of are kept from all instructions but those that ask for them: where two
interpreters agree on the rest, every other instruction has the same effect in both.
-/

namespace ChipEight

/-- Whether an instruction asks for the delay timer or for a key. -/
def Instruction.asksHost : Instruction → Bool
  | .skipIfKey _ | .skipUnlessKey _ | .getDelay _ | .awaitKey _ => true
  | _ => false

/-- No instruction that some events tell was executed asks for the delay timer or for a key. -/
def AsksNothing (events : List Event) : Prop := ∀ i ∈ executed events, i.asksHost = false

instance : DecidablePred AsksNothing :=
  fun events => inferInstanceAs (Decidable (∀ i ∈ executed events, i.asksHost = false))

theorem asksNothing_append {earlier later : List Event} :
    AsksNothing (earlier ++ later) ↔ AsksNothing earlier ∧ AsksNothing later := by
  rw [AsksNothing, executed_append, List.forall_mem_append]
  exact Iff.rfl

/-- Raising or lowering the flag of a display first changes nothing but the flag after some
flips. -/
theorem Display.flip_dirty (d : Display) (dirty : Bool) (cells : List Cell) :
    ({ d with dirty := dirty }.flip cells).1.cells = (d.flip cells).1.cells ∧
      ({ d with dirty := dirty }.flip cells).2 = (d.flip cells).2 := by
  cases cells with
  | nil => exact ⟨rfl, rfl⟩
  | cons c cells =>
    -- the first flip raises the flag of both
    exact ⟨rfl, rfl⟩

namespace Machine

/-- The same machine with other timers. -/
def withTimers (m : Machine) (delay sound : UInt8) : Machine :=
  { m with delayTimer := delay, soundTimer := sound }

theorem storeRegs_withTimers (m : Machine) (delay sound : UInt8) (x : Nat) :
    (m.withTimers delay sound).storeRegs x = (m.storeRegs x).withTimers delay sound := by
  have hstep : ∀ (m : Machine) (r : Nat),
      (m.withTimers delay sound).storeReg r = (m.storeReg r).withTimers delay sound :=
    fun _ _ => rfl
  exact List.foldl_hom (fun m : Machine => m.withTimers delay sound) hstep

theorem loadRegs_withTimers (m : Machine) (delay sound : UInt8) (x : Nat) :
    (m.withTimers delay sound).loadRegs x = (m.loadRegs x).withTimers delay sound := by
  have hstep : ∀ (m : Machine) (r : Nat),
      (m.withTimers delay sound).loadReg r = (m.loadReg r).withTimers delay sound :=
    fun _ _ => rfl
  exact List.foldl_hom (fun m : Machine => m.withTimers delay sound) hstep

end Machine

namespace Interpreter

/-- Two interpreters agree on all that a program sees without asking for the timer or a key. -/
structure Agree (s t : Interpreter) : Prop where
  memory_eq : s.machine.memory = t.machine.memory
  registers_eq : s.machine.registers = t.machine.registers
  stack_eq : s.machine.stack = t.machine.stack
  pc_eq : s.machine.pc = t.machine.pc
  index_eq : s.machine.index = t.machine.index
  cells_eq : s.display.cells = t.display.cells
  generator_eq : s.generator = t.generator

theorem Agree.refl (s : Interpreter) : s.Agree s := ⟨rfl, rfl, rfl, rfl, rfl, rfl, rfl⟩

variable {s t u : Interpreter} {word : Word} {i : Instruction}

theorem Agree.symm (h : s.Agree t) : t.Agree s :=
  ⟨h.memory_eq.symm, h.registers_eq.symm, h.stack_eq.symm, h.pc_eq.symm, h.index_eq.symm,
    h.cells_eq.symm, h.generator_eq.symm⟩

theorem Agree.trans (h : s.Agree t) (k : t.Agree u) : s.Agree u :=
  ⟨h.memory_eq.trans k.memory_eq, h.registers_eq.trans k.registers_eq,
    h.stack_eq.trans k.stack_eq, h.pc_eq.trans k.pc_eq, h.index_eq.trans k.index_eq,
    h.cells_eq.trans k.cells_eq, h.generator_eq.trans k.generator_eq⟩

/-- What is kept from a program. -/
structure Hidden where
  delayTimer : UInt8
  soundTimer : UInt8
  dirty : Bool
  keypad : Keypad
  awaitKey : AwaitKey
  reported : List UInt16

/-- The same interpreter for a program, with other hidden parts. -/
def withHidden (s : Interpreter) (h : Hidden) : Interpreter where
  machine := s.machine.withTimers h.delayTimer h.soundTimer
  display := { s.display with dirty := h.dirty }
  keypad := h.keypad
  generator := s.generator
  awaitKey := h.awaitKey
  reported := h.reported

theorem Agree.exists_hidden (h : s.Agree t) : ∃ hidden, t = s.withHidden hidden := by
  obtain ⟨⟨memory, registers, stack, pc, index, delay, sound⟩, ⟨cells, dirty, binary⟩, keypad,
    generator, awaitKey, reported⟩ := t
  obtain ⟨hmemory, hregisters, hstack, hpc, hindex, hcells, hgenerator⟩ := h
  dsimp only at hmemory hregisters hstack hpc hindex hcells hgenerator
  subst hmemory hregisters hstack hpc hindex hcells hgenerator
  exact ⟨⟨delay, sound, dirty, keypad, awaitKey, reported⟩, rfl⟩

/-- Two effects lead to states that agree, in the same way; or both halt for one reason. -/
inductive SameEffect : Except Halt Effect → Except Halt Effect → Prop where
  | error (halt : Halt) : SameEffect (.error halt) (.error halt)
  | ok {e f : Effect} (hstate : e.state.Agree f.state) (hflow : e.flow = f.flow) :
      SameEffect (.ok e) (.ok f)

theorem SameEffect.proceed {m n : Machine} {h : Hidden}
    (hmn : n = m.withTimers h.delayTimer h.soundTimer) :
    SameEffect (s.proceed m) ((s.withHidden h).proceed n) := by
  subst hmn
  exact .ok ⟨rfl, rfl, rfl, rfl, rfl, rfl, rfl⟩ rfl

theorem callNative_agree (s : Interpreter) (nnn : UInt16) :
    s.Agree (s.callNative nnn).state ∧ (s.callNative nnn).flow = .next := by
  rw [callNative]
  split <;> exact ⟨⟨rfl, rfl, rfl, rfl, rfl, rfl, rfl⟩, rfl⟩

theorem SameEffect.returnFrom (s : Interpreter) (h : Hidden) (word : Word) :
    SameEffect (s.returnFrom word) ((s.withHidden h).returnFrom word) := by
  cases hpop : s.machine.stack.pop? with
  | none =>
    rw [s.returnFrom_of_empty word hpop, (s.withHidden h).returnFrom_of_empty word hpop]
    exact .error _
  | some popped =>
    obtain ⟨caller, stack⟩ := popped
    by_cases hc : caller ≤ 0xFFFD
    · rw [s.returnFrom_of_pop word hpop hc, (s.withHidden h).returnFrom_of_pop word hpop hc]
      exact .ok ⟨rfl, rfl, rfl, rfl, rfl, rfl, rfl⟩ rfl
    · rw [s.returnFrom_of_high word hpop hc, (s.withHidden h).returnFrom_of_high word hpop hc]
      exact .error _

theorem SameEffect.call (s : Interpreter) (h : Hidden) (word : Word) (nnn : UInt16) :
    SameEffect (s.call word nnn) ((s.withHidden h).call word nnn) := by
  cases hpush : s.machine.stack.push? s.machine.pc with
  | none =>
    rw [s.call_of_full word nnn hpush, (s.withHidden h).call_of_full word nnn hpush]
    exact .error _
  | some stack =>
    rw [s.call_of_push word nnn hpush, (s.withHidden h).call_of_push word nnn hpush]
    exact .ok ⟨rfl, rfl, rfl, rfl, rfl, rfl, rfl⟩ rfl

theorem SameEffect.jumpOffset (s : Interpreter) (h : Hidden) (nnn : UInt16) :
    SameEffect (s.jumpOffset nnn) ((s.withHidden h).jumpOffset nnn) := by
  have hreg : (s.withHidden h).machine.reg 0 = s.machine.reg 0 := rfl
  rw [Interpreter.jumpOffset, Interpreter.jumpOffset, hreg]
  cases addressSum nnn (s.machine.reg 0).toUInt16 with
  | error halt => exact .error halt
  | ok address => exact .ok ⟨rfl, rfl, rfl, rfl, rfl, rfl, rfl⟩ rfl

theorem SameEffect.addIndex (s : Interpreter) (h : Hidden) (x : Nat) :
    SameEffect (s.addIndex x) ((s.withHidden h).addIndex x) := by
  rw [addIndex_eq, addIndex_eq]
  refine .proceed ?_
  have hreg : ((s.withHidden h).machine.setFlag false).reg x =
      (s.machine.setFlag false).reg x := rfl
  have hindex : (s.withHidden h).machine.index = s.machine.index := rfl
  rw [hreg, hindex]
  split <;> rfl

theorem SameEffect.random (s : Interpreter) (h : Hidden) (x : Nat) (nn : UInt8) :
    SameEffect (s.random x nn) ((s.withHidden h).random x nn) := by
  have hgenerator : (s.withHidden h).generator = s.generator := rfl
  rw [Interpreter.random, Interpreter.random, hgenerator]
  split
  · exact .proceed rfl
  · cases s.generator.below? nn with
    | none => exact .error _
    | some drawn => exact .ok ⟨rfl, rfl, rfl, rfl, rfl, rfl, rfl⟩ rfl

theorem SameEffect.draw (s : Interpreter) (h : Hidden) (x y : Nat) (n : UInt8) :
    SameEffect (s.draw x y n) ((s.withHidden h).draw x y n) := by
  obtain ⟨hcells, herased⟩ := s.display.flip_dirty h.dirty
    (Sprite.cells (s.machine.reg x).toNat (s.machine.reg y).toNat
      (s.machine.memory.readAll s.machine.index n.toNat))
  have hflag := congrArg (fun erased => (s.machine.setFlag erased).registers) herased.symm
  exact .ok ⟨rfl, hflag, rfl, rfl, rfl, hcells.symm, rfl⟩ rfl

/-- An instruction that does not ask the host has the same effect, whatever is hidden. -/
theorem perform_withHidden (s : Interpreter) (h : Hidden) (word : Word) (hi : i.asksHost = false) :
    SameEffect (s.perform word i) ((s.withHidden h).perform word i) := by
  cases i with
  | skipIfKey | skipUnlessKey | getDelay | awaitKey => cases hi
  | native nnn =>
    obtain ⟨hs, hflow⟩ := callNative_agree s nnn
    obtain ⟨ht, hflow'⟩ := callNative_agree (s.withHidden h) nnn
    have hst : s.Agree (s.withHidden h) := ⟨rfl, rfl, rfl, rfl, rfl, rfl, rfl⟩
    exact .ok ((hs.symm.trans hst).trans ht) (hflow.trans hflow'.symm)
  | ret => exact .returnFrom s h word
  | call nnn => exact .call s h word nnn
  | jumpOffset nnn => exact .jumpOffset s h nnn
  | addIndex x => exact .addIndex s h x
  | random x nn => exact .random s h x nn
  | draw x y n => exact .draw s h x y n
  | store x => exact .proceed (s.machine.storeRegs_withTimers _ _ x)
  | load x => exact .proceed (s.machine.loadRegs_withTimers _ _ x)
  | _ => exact .ok ⟨rfl, rfl, rfl, rfl, rfl, rfl, rfl⟩ rfl

/-! ### A cycle -/

theorem Agree.word?_eq (h : s.Agree t) : s.word? = t.word? := by
  rw [word?, word?, h.memory_eq, h.pc_eq]

theorem Agree.executed_eq (h : s.Agree t) :
    executed s.cycle.events = executed t.cycle.events := by
  rw [executed_cycle, executed_cycle, current?, current?, h.word?_eq]

theorem Agree.arrive {e f : Effect} (hstate : e.state.Agree f.state) (hflow : e.flow = f.flow)
    (pc : UInt16) : (e.arrive pc).Agree (f.arrive pc) := by
  rw [Effect.arrive, Effect.arrive, hflow]
  exact ⟨hstate.memory_eq, hstate.registers_eq, hstate.stack_eq, rfl, hstate.index_eq,
    hstate.cells_eq, hstate.generator_eq⟩

/-- Where two interpreters agree, a cycle that does not ask the host ends alike in both. -/
theorem Agree.cycle (h : s.Agree t) (hasks : AsksNothing s.cycle.events) :
    s.cycle.result = t.cycle.result ∧ s.cycle.state.Agree t.cycle.state := by
  have hword := h.word?_eq
  have hpc := h.pc_eq
  cases hw : s.word? with
  | none =>
    rw [hw] at hword
    rw [cycle_of_no_word hw, cycle_of_no_word hword.symm, hpc]
    exact ⟨rfl, h⟩
  | some word =>
    rw [hw] at hword
    cases hd : decode word with
    | none =>
      rw [cycle_of_no_instruction hw hd, cycle_of_no_instruction hword.symm hd, hpc]
      exact ⟨rfl, h⟩
    | some i =>
      have hi : i.asksHost = false := by
        refine hasks i ?_
        rw [executed_cycle, current?_eq_some hw hd]
        exact List.mem_singleton.mpr rfl
      obtain ⟨hidden, rfl⟩ := h.exists_hidden
      have hsame := s.perform_withHidden hidden word hi
      generalize hp : s.perform word i = first at hsame
      generalize hq : (s.withHidden hidden).perform word i = second at hsame
      cases hsame with
      | error halt =>
        rw [cycle_of_halt hw hd hp, cycle_of_halt hword.symm hd hq]
        exact ⟨rfl, h⟩
      | ok hstate hflow =>
        rw [cycle_of_effect hw hd hp, cycle_of_effect hword.symm hd hq, hpc]
        exact ⟨rfl, .arrive hstate hflow _⟩

end Interpreter

end ChipEight
