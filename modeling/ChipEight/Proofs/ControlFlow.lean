import ChipEight.Proofs.Cycle

/-!
Where the program counter goes. Four kinds of words go to an address of their own; all others go on
to the next word, skip it if their condition holds, or stay while they wait for a key. The
conditions read the registers and the keypad before the cycle.
-/

namespace ChipEight

namespace Keypad

/-- The low four bits of a number below sixteen are that number. -/
theorem isPressed_ofNat (k : Keypad) (key : Fin 16) :
    k.isPressed (UInt8.ofNat key.val) = k.keys.get key := by
  have hkey : lowDigit (UInt8.ofNat key.val).toNat = key := by
    have hlt := key.isLt
    rw [Fin.ext_iff, lowDigit, UInt8.toNat_ofNat']
    dsimp only
    omega
  rw [isPressed, hkey]

/-- A first key is found if any key is down. -/
theorem isSome_firstPressed_iff (k : Keypad) :
    k.firstPressed.isSome = true ↔ ∃ key, k.keys.get key = true := by
  rw [firstPressed, List.isSome_head?, pressed, ← List.isEmpty_eq_false_iff,
    List.isEmpty_eq_false_iff_exists_mem]
  simp only [List.mem_filter, List.mem_map, List.mem_range]
  constructor
  · rintro ⟨-, ⟨key, hlt, rfl⟩, hdown⟩
    exact ⟨⟨key, hlt⟩, (k.isPressed_ofNat ⟨key, hlt⟩).symm.trans hdown⟩
  · rintro ⟨key, hdown⟩
    exact ⟨_, ⟨key, key.isLt, rfl⟩, (k.isPressed_ofNat key).trans hdown⟩

end Keypad

/-! ### Instructions -/

/-- Whether an instruction names where to go on, or takes it from the call stack. -/
def Instruction.leaps : Instruction → Bool
  | .ret | .jump _ | .call _ | .jumpOffset _ => true
  | _ => false

namespace Interpreter

variable {s : Interpreter} {w : Word} {i : Instruction} {e : Effect}

/-- Whether an instruction finds its reason to skip the next one. -/
def skips (s : Interpreter) : Instruction → Bool
  | .skipIfByte x nn => s.machine.reg x = nn
  | .skipUnlessByte x nn => s.machine.reg x ≠ nn
  | .skipIfSame x y => s.machine.reg x = s.machine.reg y
  | .skipUnlessSame x y => s.machine.reg x ≠ s.machine.reg y
  | .skipIfKey x => s.keypad.isPressed (s.machine.reg x)
  | .skipUnlessKey x => !s.keypad.isPressed (s.machine.reg x)
  | .awaitKey _ => s.awaitKey = .poll && s.keypad.firstPressed.isSome
  | _ => false

/-- Whether an instruction has to wait for a key. -/
def waits (s : Interpreter) : Instruction → Bool
  | .awaitKey _ => s.awaitKey = .block && s.keypad.firstPressed.isNone
  | _ => false

/-- Where an instruction goes that does not leap. -/
def plainFlow (s : Interpreter) (i : Instruction) : Flow :=
  if s.skips i then .skip else if s.waits i then .stay else .next

theorem flow_callNative (nnn : UInt16) : (s.callNative nnn).flow = .next := by
  rw [callNative]
  split <;> rfl

theorem flow_awaitKeyIn (x : Nat) : (s.awaitKeyIn x).flow = s.plainFlow (.awaitKey x) := by
  rw [awaitKeyIn, plainFlow, skips, waits]
  cases s.keypad.firstPressed <;> cases s.awaitKey <;> rfl

theorem flow_skipIf {condition : Bool} (hp : s.skipIf condition = .ok e) :
    e.flow = if condition then .skip else .next := by
  cases hp
  rfl

theorem flow_proceed {m : Machine} (hp : s.proceed m = .ok e) : e.flow = .next := by
  cases hp
  rfl

/-- An instruction that does not leap goes on, skips or stays. -/
theorem flow_of_perform (hp : s.perform w i = .ok e) (hl : i.leaps = false) :
    e.flow = s.plainFlow i := by
  cases i with
  | ret | jump nnn | call nnn | jumpOffset nnn => cases hl
  | native nnn =>
    cases hp
    exact flow_callNative nnn
  | awaitKey x =>
    cases hp
    exact flow_awaitKeyIn x
  | skipIfByte | skipUnlessByte | skipIfSame | skipUnlessSame | skipIfKey | skipUnlessKey =>
    exact flow_skipIf hp
  | addIndex x => exact flow_proceed ((s.addIndex_eq x).symm.trans hp)
  | random x nn =>
    obtain ⟨value, generator, heq⟩ := s.random_eq x nn
    cases heq.symm.trans hp
    rfl
  | clear | draw x y n =>
    cases hp
    rfl
  | _ => exact flow_proceed hp

/-! ### Words -/

/-- The words that skip the next one, each with its condition. -/
inductive Skips (s : Interpreter) (w : Word) : Prop where
  | ifByte (h : w &&& 0xF000 = 0x3000) (heq : s.machine.reg w.x = w.nn)
  | unlessByte (h : w &&& 0xF000 = 0x4000) (hne : s.machine.reg w.x ≠ w.nn)
  | ifSame (h : w &&& 0xF00F = 0x5000) (heq : s.machine.reg w.x = s.machine.reg w.y)
  | unlessSame (h : w &&& 0xF00F = 0x9000) (hne : s.machine.reg w.x ≠ s.machine.reg w.y)
  | ifKey (h : w &&& 0xF0FF = 0xE09E)
      (hdown : s.keypad.keys.get (lowDigit (s.machine.reg w.x).toNat) = true)
  | unlessKey (h : w &&& 0xF0FF = 0xE0A1)
      (hup : s.keypad.keys.get (lowDigit (s.machine.reg w.x).toNat) = false)
  | polledKey (h : w &&& 0xF0FF = 0xF00A) (hpoll : s.awaitKey = .poll)
      (hdown : ∃ key, s.keypad.keys.get key = true)

/-- A word that waits for a key in vain. -/
structure Waits (s : Interpreter) (w : Word) : Prop where
  awaits : w &&& 0xF0FF = 0xF00A
  blocks : s.awaitKey = .block
  allUp : ∀ key, s.keypad.keys.get key = false

end Interpreter

/-- A word that names where to go on, or takes it from the call stack. -/
def Word.Leaps (w : Word) : Prop :=
  w = 0x00EE ∨ w &&& 0xF000 = 0x1000 ∨ w &&& 0xF000 = 0x2000 ∨ w &&& 0xF000 = 0xB000

instance (w : Word) : Decidable w.Leaps :=
  inferInstanceAs (Decidable (w = 0x00EE ∨ w &&& 0xF000 = 0x1000 ∨ w &&& 0xF000 = 0x2000 ∨
    w &&& 0xF000 = 0xB000))

namespace Interpreter

variable {s : Interpreter} {w : Word} {i : Instruction} {e : Effect}

theorem leaps_of_decode (hd : decode w = some i) (h : i.leaps = true) : w.Leaps := by
  obtain ⟨f, hf, rfl⟩ := (decode_eq_some_iff w i).mp hd
  cases f with
  | ret => exact .inl ((decode_eq_ret_iff w).mp hd)
  | jump =>
    exact .inr (.inl (mask_of_family hf (by decide) (by decide)))
  | call =>
    exact .inr (.inr (.inl (mask_of_family hf (by decide) (by decide))))
  | jumpOffset =>
    exact .inr (.inr (.inr
      (mask_of_family hf (by decide) (by decide))))
  | _ => cases h

theorem Skips.skips (h : s.Skips w) (hd : decode w = some i) : s.skips i = true := by
  cases h with
  | ifByte h heq =>
    cases hd.symm.trans (decode_of_mask .skipIfByte (by decide) (by decide) h)
    exact decide_eq_true heq
  | unlessByte h hne =>
    cases hd.symm.trans (decode_of_mask .skipUnlessByte (by decide) (by decide) h)
    exact decide_eq_true hne
  | ifSame h heq =>
    cases hd.symm.trans (decode_of_mask .skipIfSame (by decide) (by decide) h)
    exact decide_eq_true heq
  | unlessSame h hne =>
    cases hd.symm.trans (decode_of_mask .skipUnlessSame (by decide) (by decide) h)
    exact decide_eq_true hne
  | ifKey h hdown =>
    cases hd.symm.trans (decode_of_mask .skipIfKey (by decide) (by decide) h)
    exact hdown
  | unlessKey h hup =>
    cases hd.symm.trans (decode_of_mask .skipUnlessKey (by decide) (by decide) h)
    exact congrArg not hup
  | polledKey h hpoll hdown =>
    cases hd.symm.trans (decode_of_mask .awaitKey (by decide) (by decide) h)
    exact Bool.and_eq_true_iff.mpr
      ⟨decide_eq_true hpoll, s.keypad.isSome_firstPressed_iff.mpr hdown⟩

/-- The words that find their reason to skip are those of the instructions that do. -/
theorem skips_iff (hd : decode w = some i) : s.Skips w ↔ s.skips i = true := by
  constructor
  · intro h
    exact h.skips hd
  · intro h
    obtain ⟨f, hf, rfl⟩ := (decode_eq_some_iff w i).mp hd
    cases f with
    | skipIfByte =>
      exact .ifByte (mask_of_family hf (by decide) (by decide))
        (of_decide_eq_true h)
    | skipUnlessByte =>
      exact .unlessByte (mask_of_family hf (by decide) (by decide))
        (of_decide_eq_true h)
    | skipIfSame =>
      exact .ifSame (mask_of_family hf (by decide) (by decide))
        (of_decide_eq_true h)
    | skipUnlessSame =>
      exact .unlessSame (mask_of_family hf (by decide) (by decide))
        (of_decide_eq_true h)
    | skipIfKey =>
      exact .ifKey (mask_of_family hf (by decide) (by decide)) h
    | skipUnlessKey =>
      exact .unlessKey (mask_of_family hf (by decide) (by decide))
        ((Bool.not_eq_true' _).mp h)
    | awaitKey =>
      obtain ⟨hpoll, hdown⟩ := Bool.and_eq_true_iff.mp h
      exact .polledKey (mask_of_family hf (by decide) (by decide))
        (of_decide_eq_true hpoll) (s.keypad.isSome_firstPressed_iff.mp hdown)
    | _ => cases h

theorem waits_iff (hd : decode w = some i) : s.Waits w ↔ s.waits i = true := by
  have hup : s.keypad.firstPressed.isNone = true ↔ ∀ key, s.keypad.keys.get key = false := by
    rw [← Option.not_isSome, Bool.not_eq_true', ← Bool.not_eq_true,
      s.keypad.isSome_firstPressed_iff]
    simp
  constructor
  · rintro ⟨h, hblock, hall⟩
    cases hd.symm.trans (decode_of_mask .awaitKey (by decide) (by decide) h)
    exact Bool.and_eq_true_iff.mpr ⟨decide_eq_true hblock, hup.mpr hall⟩
  · intro h
    obtain ⟨f, hf, rfl⟩ := (decode_eq_some_iff w i).mp hd
    cases f with
    | awaitKey =>
      obtain ⟨hblock, hnone⟩ := Bool.and_eq_true_iff.mp h
      exact ⟨mask_of_family hf (by decide) (by decide), of_decide_eq_true hblock, hup.mp hnone⟩
    | _ => cases h

/-! ### The program counter behind a cycle -/

/-- A cycle that does not halt has an effect of its instruction. -/
theorem perform_of_ok (hw : s.word? = some w) (hd : decode w = some i)
    (hok : s.cycle.result = .ok ()) :
    ∃ e, s.perform w i = .ok e ∧ s.cycle.state = e.arrive s.machine.pc := by
  obtain ⟨word, j, e, hword, hdecode, hp, hstate⟩ := effect_of_ok hok
  cases hw.symm.trans hword
  cases hd.symm.trans hdecode
  exact ⟨e, hp, hstate⟩

theorem pc_of_jump (hw : s.word? = some w) (h : w &&& 0xF000 = 0x1000) :
    s.cycle.state.machine.pc = w.nnn := by
  have hd : decode w = some (.jump w.nnn) := decode_of_mask .jump (by decide) (by decide) h
  rw [cycle_of_effect hw hd rfl]
  rfl

theorem pc_of_jumpOffset (hw : s.word? = some w) (h : w &&& 0xF000 = 0xB000) :
    s.cycle.state.machine.pc.toNat = (w.nnn.toNat + (s.machine.reg 0).toNat) % 4096 := by
  have hd : decode w = some (.jumpOffset w.nnn) :=
    decode_of_mask .jumpOffset (by decide) (by decide) h
  have hfits := sum_byte_fits w.nnn_le (s.machine.reg 0)
  rw [cycle_of_effect hw hd (s.jumpOffset_eq w.nnn_le)]
  show ((w.nnn + (s.machine.reg 0).toUInt16) &&& 0xFFF).toNat = _
  rw [toNat_and_mask, UInt16.toNat_add, Nat.mod_eq_of_lt hfits, UInt8.toNat_toUInt16]

/-- A call that finds a free slot pushes its own address. -/
theorem pc_of_call (hw : s.word? = some w) (h : w &&& 0xF000 = 0x2000)
    (hok : s.cycle.result = .ok ()) :
    s.cycle.state.machine.pc = w.nnn ∧
      s.cycle.state.machine.stack.toList = s.machine.stack.toList ++ [s.machine.pc] := by
  have hd : decode w = some (.call w.nnn) := decode_of_mask .call (by decide) (by decide) h
  obtain ⟨e, hp, hstate⟩ := perform_of_ok hw hd hok
  rw [hstate]
  cases hpush : s.machine.stack.push? s.machine.pc with
  | none => cases (s.call_of_full w w.nnn hpush).symm.trans hp
  | some stack =>
    cases (s.call_of_push w w.nnn hpush).symm.trans hp
    exact ⟨rfl, (CallStack.toList_push? hpush).1⟩

/-- A return that finds an address goes behind the word there. -/
theorem pc_of_return (hw : s.word? = some 0x00EE) (hok : s.cycle.result = .ok ()) :
    ∃ caller, s.machine.stack.toList = s.cycle.state.machine.stack.toList ++ [caller] ∧
      s.cycle.state.machine.pc.toNat = caller.toNat + 2 := by
  obtain ⟨e, hp, hstate⟩ := perform_of_ok hw ((decode_eq_ret_iff 0x00EE).mpr rfl) hok
  rw [hstate]
  cases hpop : s.machine.stack.pop? with
  | none => cases (s.returnFrom_of_empty 0x00EE hpop).symm.trans hp
  | some popped =>
    obtain ⟨caller, stack⟩ := popped
    by_cases hc : caller ≤ 0xFFFD
    · cases (s.returnFrom_of_pop 0x00EE hpop hc).symm.trans hp
      refine ⟨caller, (CallStack.toList_pop? hpop).1, ?_⟩
      show (caller + 2).toNat = caller.toNat + 2
      rw [UInt16.toNat_add, Nat.mod_eq_of_lt (sum_two_fits_iff.mpr hc)]
      rfl
    · cases (s.returnFrom_of_high 0x00EE hpop hc).symm.trans hp

/-- A flow that does not jump goes at most four bytes on. -/
theorem toNat_destination_plainFlow {pc : UInt16} (hpc : pc ≤ 0xFFE) (i : Instruction) :
    ((s.plainFlow i).destination pc).toNat =
      pc.toNat + (if s.skips i then 4 else if s.waits i then 0 else 2) := by
  rw [UInt16.le_iff_toNat_le] at hpc
  simp only [UInt16.reduceToNat] at hpc
  rw [plainFlow]
  split
  · show (pc + 4).toNat = pc.toNat + 4
    rw [UInt16.toNat_add]
    simp only [UInt16.reduceToNat]
    omega
  split
  · rfl
  · show (pc + 2).toNat = pc.toNat + 2
    rw [UInt16.toNat_add]
    simp only [UInt16.reduceToNat]
    omega

/-- No instruction that waits has a reason to skip. -/
theorem skips_of_waits (h : s.waits i = true) : s.skips i = false := by
  cases i with
  | awaitKey x =>
    obtain ⟨hblock, -⟩ := Bool.and_eq_true_iff.mp h
    rw [skips, of_decide_eq_true hblock]
    rfl
  | _ => cases h

/-- The program counter goes where the word says: to the address of a jump or a call, behind the
last call, over the next word if the condition of a skip holds, nowhere while a word waits for a
key, and else to the next word. A call pushes its own address. -/
theorem pc_follows_word (s : Interpreter) (w : Word) (hw : s.word? = some w)
    (hok : s.cycle.result = .ok ()) :
    let m := s.machine
    let n := s.cycle.state.machine
    (w &&& 0xF000 = 0x1000 → n.pc = w.nnn) ∧
    (w &&& 0xF000 = 0x2000 → n.pc = w.nnn ∧ n.stack.toList = m.stack.toList ++ [m.pc]) ∧
    (w &&& 0xF000 = 0xB000 → n.pc.toNat = (w.nnn.toNat + (m.reg 0).toNat) % 4096) ∧
    (w = 0x00EE → ∃ caller, m.stack.toList = n.stack.toList ++ [caller] ∧
      n.pc.toNat = caller.toNat + 2) ∧
    (¬ w.Leaps →
      (n.pc.toNat = m.pc.toNat + 4 ↔ s.Skips w) ∧
      (n.pc = m.pc ↔ s.Waits w) ∧
      (¬ s.Skips w → ¬ s.Waits w → n.pc.toNat = m.pc.toNat + 2)) := by
  intro m n
  refine ⟨pc_of_jump hw, fun h => pc_of_call hw h hok, pc_of_jumpOffset hw, ?_, ?_⟩
  · rintro rfl
    exact pc_of_return hw hok
  · intro hleaps
    obtain ⟨word, i, e, hword, hd, hp, hstate⟩ := effect_of_ok hok
    cases hw.symm.trans hword
    have hl : i.leaps = false := by
      rw [← Bool.not_eq_true]
      exact fun h => hleaps (leaps_of_decode hd h)
    have hpc : n.pc.toNat =
        m.pc.toNat + (if s.skips i then 4 else if s.waits i then 0 else 2) := by
      rw [← toNat_destination_plainFlow (pc_le_of_word hw) i, ← flow_of_perform hp hl]
      simp only [n, hstate]
      rfl
    rw [skips_iff hd, waits_iff hd, ← UInt16.toNat_inj, hpc]
    cases hwait : s.waits i with
    | true => simp [skips_of_waits hwait]
    | false => cases s.skips i <;> simp

/-- A program looks for a key without waiting, and the last key is down. -/
def lastKeyPolled : Interpreter :=
  let polling := Interpreter.new { awaitKey := .poll } .zeros
  { polling with
    machine := { polling.machine with memory := Memory.zero.writeAll 0x200 [0xF3, 0x0A] }
    keypad := ⟨Keypad.released.keys.set 15 true⟩ }

theorem lastKeyPolled_pc_follows_word :
    lastKeyPolled.word? = some 0xF30A ∧ lastKeyPolled.cycle.result = .ok () ∧
      lastKeyPolled.cycle.state.machine.pc = 0x204 := by
  have hw : lastKeyPolled.word? = some 0xF30A := by decide +kernel
  have hok : lastKeyPolled.cycle.result = .ok () := by decide +kernel
  obtain ⟨-, -, -, -, hplain⟩ := pc_follows_word lastKeyPolled 0xF30A hw hok
  have hskips : lastKeyPolled.Skips 0xF30A := .polledKey (by decide) rfl ⟨15, by decide⟩
  have hpc := (hplain (by decide)).1.mpr hskips
  exact ⟨hw, hok, UInt16.toNat_inj.mp hpc⟩

end Interpreter

end ChipEight
