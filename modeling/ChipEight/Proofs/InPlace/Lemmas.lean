import ChipEight.Proofs.Effects
import ChipEight.Proofs.InPlace.Basic

/-!
Runs of the routines that work in place. A number in range finds what the interpreter finds, so
that no check of a register, a byte of memory, a stack slot, a key or a cell fails.
-/

namespace ChipEight.InPlace

variable {s : Interpreter} {α β : Type}

/-! ### Accesses that are in range -/

theorem run_bind_of_ok {x : Routine α} {f : α → Routine β} {a : α} {t : Interpreter}
    (h : x.run s = .ok a t) : (x >>= f).run s = (f a).run t := by
  rw [EStateM.run_bind, h]

theorem run_bind_of_error {x : Routine α} {f : α → Routine β} {halt : Halt} {t : Interpreter}
    (h : x.run s = .error halt t) : (x >>= f).run s = .error halt t := by
  rw [EStateM.run_bind, h]

@[simp] theorem run_update (f : Machine → Machine) :
    (update f).run s = .ok () { s with machine := f s.machine } := rfl

@[simp] theorem run_look (f : Machine → α) : (look f).run s = .ok (f s.machine) s := rfl

@[simp] theorem run_demand (a : α) : (demand (some a)).run s = .ok a s := rfl

theorem run_reg {x : Nat} (h : x < 16) : (reg x).run s = .ok (s.machine.reg x) s := by
  have hx : lowDigit x = ⟨x, h⟩ := Fin.ext (Nat.mod_eq_of_lt h)
  rw [reg, EStateM.run_bind, EStateM.run_get]
  dsimp only
  rw [Vector.getElem?_eq_getElem h, run_demand, Machine.reg]
  simp only [hx, Fin.getElem_fin]

theorem run_setReg {x : Nat} (h : x < 16) (byte : UInt8) :
    (setReg x byte).run s = .ok () { s with machine := s.machine.setReg x byte } := by
  have hx : lowDigit x = ⟨x, h⟩ := Fin.ext (Nat.mod_eq_of_lt h)
  simp only [setReg, dif_pos h, run_update, Machine.setReg, hx]

@[simp] theorem run_setFlag (flag : Bool) :
    (setFlag flag).run s = .ok () { s with machine := s.machine.setFlag flag } :=
  run_setReg (by decide) _

@[simp] theorem run_read (a : UInt16) : (read a).run s = .ok (s.machine.read a) s := by
  have h : (a &&& 0xFFF).toNat < 4096 := by
    rw [toNat_and_mask]
    exact Nat.mod_lt _ (by decide)
  rw [read, EStateM.run_bind, EStateM.run_get]
  dsimp only
  rw [Vector.getElem?_eq_getElem h, run_demand, Machine.read, Memory.read]
  simp only [Memory.cell, Fin.getElem_fin, Fin.ofNat, toNat_and_mask]

@[simp] theorem run_write (a : UInt16) (byte : UInt8) :
    (write a byte).run s = .ok () { s with machine := s.machine.write a byte } := by
  have h : (a &&& 0xFFF).toNat < 4096 := by
    rw [toNat_and_mask]
    exact Nat.mod_lt _ (by decide)
  rw [write, dif_pos h, run_update]
  simp only [Machine.write, Memory.write, Memory.cell, Fin.ofNat, toNat_and_mask]

@[simp] theorem run_isPressed (key : UInt8) :
    (isPressed key).run s = .ok (s.keypad.isPressed key) s := by
  have hmask : (key &&& 0x0F).toNat = key.toNat % 16 := by
    rw [UInt8.toNat_and]
    exact Nat.and_two_pow_sub_one_eq_mod key.toNat 4
  have h : (key &&& 0x0F).toNat < 16 := by
    rw [hmask]
    exact Nat.mod_lt _ (by decide)
  rw [isPressed, EStateM.run_bind, EStateM.run_get]
  dsimp only
  rw [Vector.getElem?_eq_getElem h, run_demand, Keypad.isPressed]
  simp only [hmask]
  rfl


theorem run_sum {a b : UInt16} (h : a.toNat + b.toNat < 0x10000) :
    (sum a b).run s = .ok (a + b) s := by
  rw [sum, if_pos h]
  rfl

/-- A sum that is too large halts. -/
theorem run_sum_of_large {a b : UInt16} (h : ¬ a.toNat + b.toNat < 0x10000) :
    (sum a b).run s = .error .outOfRange s := by
  rw [sum, if_neg h]
  rfl

theorem run_product {a b : UInt16} (h : a.toNat * b.toNat < 0x10000) :
    (product a b).run s = .ok (a * b) s := by
  rw [product, if_pos h]
  rfl

theorem run_difference {a b : Nat} (h : b ≤ a) : (difference a b).run s = .ok (a - b) s := by
  rw [difference, if_pos h]
  rfl

theorem run_fetch (pc : UInt16) :
    (fetch pc).run s =
      match s.machine.memory.wordAt? pc with
      | some word => .ok word s
      | none => .error (.fault (.fetch pc)) s := by
  rw [fetch, EStateM.run_bind, EStateM.run_get, Memory.wordAt?]
  dsimp only
  by_cases h : pc.toNat + 1 < 4096
  · rw [Vector.getElem?_eq_getElem h, Vector.getElem?_eq_getElem (Nat.lt_of_succ_lt h), dif_pos h]
    rfl
  · rw [Vector.getElem?_eq_none (Nat.not_lt.mp h), dif_neg h]
    cases s.machine.memory[pc.toNat]? <;> rfl

theorem run_push (a : UInt16) :
    (push a).run s =
      match s.machine.stack.push? a with
      | some stack => .ok true { s with machine := { s.machine with stack := stack } }
      | none => .ok false s := by
  have hle := s.machine.stack.depth_le
  rw [push, EStateM.run_bind, EStateM.run_get, CallStack.push?]
  dsimp only
  by_cases h : s.machine.stack.depth = 16
  · rw [if_pos h, dif_neg (by omega)]
    rfl
  · have hlt : s.machine.stack.depth < 16 := by omega
    rw [if_neg h, dif_pos hlt, dif_pos hlt]
    rfl

theorem run_pop :
    pop.run s =
      match s.machine.stack.pop? with
      | some (a, stack) => .ok (some a) { s with machine := { s.machine with stack := stack } }
      | none => .ok none s := by
  rw [pop, EStateM.run_bind, EStateM.run_get]
  dsimp only
  by_cases h : s.machine.stack.depth = 0
  · rw [if_pos h, (s.machine.stack.pop?_eq_none_iff).mpr h]
    rfl
  · have hle := s.machine.stack.depth_le
    have hlt : s.machine.stack.depth - 1 < 16 := by omega
    rw [if_neg h, s.machine.stack.pop?_eq_some h hlt]
    simp only [EStateM.run_bind, EStateM.run_pure, run_update, Vector.getElem?_eq_getElem hlt,
      run_demand]

theorem run_firstPressed (keys : List UInt8) :
    (firstPressed keys).run s = .ok (keys.filter s.keypad.isPressed).head? s := by
  induction keys with
  | nil => rfl
  | cons key keys ih =>
    rw [firstPressed, EStateM.run_bind, run_isPressed]
    cases hp : s.keypad.isPressed key with
    | true => rw [List.filter_cons_of_pos hp]; rfl
    | false =>
      rw [List.filter_cons_of_neg (by rw [hp]; exact Bool.false_ne_true)]
      exact ih

theorem run_below {nn : UInt8} {value : UInt8} {generator : Generator}
    (h : s.generator.below? nn = some (value, generator)) :
    (below nn).run s = .ok value { s with generator := generator } := by
  rw [below, EStateM.run_bind, EStateM.run_get]
  dsimp only
  rw [h]
  rfl

theorem run_storeReg {r : Nat} (h : r < 16) :
    (storeReg r).run s = .ok () { s with machine := s.machine.storeReg r } := by
  simp only [storeReg, EStateM.run_bind, run_reg h, run_look, run_write]
  rfl

theorem run_loadReg {r : Nat} (h : r < 16) :
    (loadReg r).run s = .ok () { s with machine := s.machine.loadReg r } := by
  simp only [loadReg, EStateM.run_bind, run_setReg h, run_look, run_read]
  rfl

/-- A loop of changes of the machine is a fold over the machine. -/
theorem run_forM {body : Nat → Routine Unit} {step : Machine → Nat → Machine} {rs : List Nat}
    (h : ∀ r ∈ rs, ∀ s : Interpreter,
      (body r).run s = .ok () { s with machine := step s.machine r }) :
    (rs.forM body).run s = .ok () { s with machine := rs.foldl step s.machine } := by
  induction rs generalizing s with
  | nil => rfl
  | cons r rs ih =>
    show (body r >>= fun _ => rs.forM body).run s = _
    rw [run_bind_of_ok (h r (List.mem_cons_self ..) s)]
    exact ih fun r' hr' => h r' (List.mem_cons_of_mem r hr')

theorem run_toggle (x y : Nat) :
    (toggle (x % 64) (y % 32)).run s =
      .ok (s.display.isSet (Cell.wrapped x y))
        { s with display := s.display.toggle (Cell.wrapped x y) } := by
  have hat : Cell.at? (x % 64) (y % 32) = some (Cell.wrapped x y) :=
    dif_pos ⟨Nat.mod_lt x (by decide), Nat.mod_lt y (by decide)⟩
  rw [toggle, hat]
  simp only [EStateM.run_bind, EStateM.run_pure, run_demand, EStateM.run_get, EStateM.run_modify,
    Display.toggle_cell_eq_zero_iff, Bool.decide_eq_true]

/-- A flip as a step of a fold. -/
def flipStep (p : Display × Bool) (c : Cell) : Display × Bool := (p.1.toggle c, p.2 || p.1.isSet c)

theorem run_drawColumns (x y : Nat) (row : UInt8) (erased : Bool) {columns : List Nat}
    (h : ∀ c ∈ columns, c < 8) :
    (columns.foldlM (drawColumn x y row) erased).run s =
      let cells := (columns.filter fun c => row.toNat.testBit (7 - c)).map fun c =>
        Cell.wrapped (x + c) y
      let flipped := cells.foldl flipStep (s.display, erased)
      .ok flipped.2 { s with display := flipped.1 } := by
  -- each flip changes the display and the flag, so both are general in the induction
  induction columns generalizing s erased with
  | nil => rfl
  | cons column columns ih =>
    have hle : column ≤ 7 := Nat.le_of_lt_succ (h column (List.mem_cons_self ..))
    have hrest : ∀ c ∈ columns, c < 8 := fun c hc => h c (List.mem_cons_of_mem column hc)
    rw [List.foldlM_cons, EStateM.run_bind, drawColumn, EStateM.run_bind, run_difference hle]
    dsimp only
    by_cases hbit : row.toNat.testBit (7 - column) = true
    · rw [if_pos hbit, EStateM.run_bind, run_toggle]
      simp only [List.filter_cons, if_pos hbit]
      exact ih _ hrest
    · rw [if_neg hbit]
      simp only [List.filter_cons, if_neg hbit]
      exact ih _ hrest

theorem run_drawRows (x y : Nat) (erased : Bool) (rows : List Nat) :
    (rows.foldlM (drawRow x y) erased).run s =
      let cells := rows.flatMap fun r =>
        (Sprite.columns (s.machine.read (s.machine.index + UInt16.ofNat r))).map fun c =>
          Cell.wrapped (x + c) (y + r)
      let flipped := cells.foldl flipStep (s.display, erased)
      .ok flipped.2 { s with display := flipped.1 } := by
  induction rows generalizing s erased with
  | nil => rfl
  | cons r rows ih =>
    have hcolumns : ∀ c ∈ List.range 8, c < 8 := fun c hc => List.mem_range.mp hc
    rw [List.foldlM_cons, EStateM.run_bind, drawRow]
    simp only [EStateM.run_bind, run_look, run_read, run_drawColumns _ _ _ _ hcolumns, ih,
      List.flatMap_cons, List.foldl_append]
    rfl

end ChipEight.InPlace
