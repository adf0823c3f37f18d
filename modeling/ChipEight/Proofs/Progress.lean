import ChipEight.Proofs.Safety
import ChipEight.Proofs.HostSide
import ChipEight.Proofs.ControlFlow
import ChipEight.Proofs.Schedule

/-!
What a program needs to run forever. The *trail* of an interpreter is the addresses on its call
stack, the oldest first, and then its program counter. A call makes the trail longer, a return makes
it shorter and raises the address before its end, and all other instructions raise its end, but for
jumps and for the wait for a key. So where neither comes up, trails grow in the order of a dictionary;
they have at most seventeen entries, so there is an end to that.
-/

namespace ChipEight

/-! ### Trails as numbers -/

namespace Trail

/-- More than the number of any trail of up to `width` addresses. -/
def limit : (width : Nat) → Nat
  | 0 => 1
  | width + 1 => 0x10001 * limit width

/-- The number of a trail of up to `width` addresses. Each entry is a digit that is not zero, and
zeros fill the places behind the last one, so that a trail comes before all that begin with it. -/
def rank : (width : Nat) → List UInt16 → Nat
  | width + 1, a :: rest => (a.toNat + 1) * limit width + rank width rest
  | _, _ => 0

theorem limit_pos (width : Nat) : 0 < limit width := by
  induction width with
  | zero => exact Nat.one_pos
  | succ width ih => exact Nat.mul_pos (by decide) ih

theorem rank_lt_limit (width : Nat) (trail : List UInt16) : rank width trail < limit width := by
  induction width generalizing trail with
  | zero => exact limit_pos 0
  | succ width ih =>
    cases trail with
    | nil => exact limit_pos (width + 1)
    | cons a rest =>
      have hdigit : (a.toNat + 1) * limit width ≤ 0x10000 * limit width :=
        Nat.mul_le_mul_right _ (Nat.succ_le_of_lt a.toNat_lt)
      have hrest := ih rest
      rw [rank, limit]
      omega

theorem exists_width {a : UInt16} {rest : List UInt16} {width : Nat}
    (h : (a :: rest).length ≤ width) : ∃ n, width = n + 1 ∧ rest.length ≤ n := by
  cases width with
  | zero => cases h
  | succ n => exact ⟨n, rfl, Nat.le_of_succ_le_succ h⟩

/-- Numbers are in the order of the trails. -/
theorem rank_lt_rank {width : Nat} {earlier later : List UInt16} (h : earlier < later)
    (hfit : later.length ≤ width) : rank width earlier < rank width later := by
  induction h generalizing width with
  | nil =>
    obtain ⟨width, rfl, -⟩ := exists_width hfit
    exact Nat.add_pos_left (Nat.mul_pos (Nat.succ_pos _) (limit_pos width)) _
  | @rel a earlier b later hab =>
    obtain ⟨width, rfl, -⟩ := exists_width hfit
    -- what stands behind the first digit is less than one unit of it
    have hrest := rank_lt_limit width earlier
    have hdigit : (a.toNat + 1 + 1) * limit width ≤ (b.toNat + 1) * limit width :=
      Nat.mul_le_mul_right _ (Nat.succ_le_succ (UInt16.lt_iff_toNat_lt.mp hab))
    rw [Nat.succ_mul] at hdigit
    rw [rank, rank]
    omega
  | cons h ih =>
    obtain ⟨width, rfl, hrest⟩ := exists_width hfit
    exact Nat.add_lt_add_left (ih hrest) _

end Trail

/-- Whether an instruction goes to an address that stands in it. -/
def Instruction.jumps : Instruction → Bool
  | .jump _ | .jumpOffset _ => true
  | _ => false

namespace Interpreter

variable {s : Interpreter} {word : Word} {i : Instruction} {e : Effect}

/-- The addresses on the call stack, the oldest first, and the program counter. -/
def trail (s : Interpreter) : List UInt16 := s.machine.stack.toList ++ [s.machine.pc]

theorem length_trail_le (s : Interpreter) : s.trail.length ≤ 17 := by
  have hdepth := s.machine.stack.depth_le
  rw [trail, List.length_append, CallStack.length_toList, List.length_singleton]
  omega

/-- The next cycle faults, jumps, or waits for a key. -/
inductive Interrupted (s : Interpreter) : Prop where
  | faults {f : Fault} (hf : s.cycle.result = .error (.fault f)) : s.Interrupted
  | jumps {i : Instruction} (hi : s.current? = some i) (hj : i.jumps = true) : s.Interrupted
  | waits {x : Nat} (hi : s.current? = some (.awaitKey x)) (hway : s.awaitKey = .block)
      (hkeys : s.keypad.firstPressed = none) : s.Interrupted

/-! ### A cycle raises the trail -/

/-- Where an effect leads if it goes on to one of the next instructions. -/
def Onward (e : Effect) : Prop := e.flow = .next ∨ e.flow = .skip

/-- Instructions that are no calls, returns or jumps go on, but for a wait without a key. -/
theorem onward_of_perform (h : s.perform word i = .ok e) (hret : i ≠ .ret)
    (hcall : ∀ nnn, i ≠ .call nnn) (hjump : i.jumps = false)
    (hwait : ∀ x, i = .awaitKey x → s.awaitKey = .block → s.keypad.firstPressed ≠ none) :
    Onward e := by
  have hl : i.leaps = false := by
    cases i with
    | ret => exact absurd rfl hret
    | call nnn => exact absurd rfl (hcall nnn)
    | jump | jumpOffset => cases hjump
    | _ => rfl
  have hgoes : s.waits i = false := by
    cases i with
    | awaitKey x =>
      rw [waits, Bool.and_eq_false_imp]
      intro hblock
      rw [Option.isNone_eq_false_iff, Option.isSome_iff_ne_none]
      exact hwait x rfl (of_decide_eq_true hblock)
    | _ => rfl
  rw [Onward, flow_of_perform h hl, plainFlow, hgoes]
  cases s.skips i
  · exact .inl rfl
  · exact .inr rfl

theorem lt_add_of_le {a b bound : UInt16} (h : a ≤ bound)
    (hsum : bound.toNat + b.toNat < 0x10000) (hb : 0 < b.toNat) : a < a + b := by
  rw [UInt16.le_iff_toNat_le] at h
  rw [UInt16.lt_iff_toNat_lt, UInt16.toNat_add, Nat.mod_eq_of_lt (by omega)]
  omega

theorem lt_destination {pc : UInt16} {f : Flow} (hpc : pc ≤ 0xFFE) (h : f = .next ∨ f = .skip) :
    pc < f.destination pc := by
  rcases h with rfl | rfl
  · exact lt_add_of_le hpc (by decide) (by decide)
  · exact lt_add_of_le hpc (by decide) (by decide)

/-- A call puts a second address behind its own. -/
theorem trail_lt_of_call {nnn : UInt16} (hw : s.word? = some word)
    (hd : decode word = some (.call nnn)) (hok : s.cycle.result = .ok ()) :
    s.trail < s.cycle.state.trail := by
  cases hpush : s.machine.stack.push? s.machine.pc with
  | none =>
    rw [cycle_of_halt hw hd (s.call_of_full word nnn hpush)] at hok
    cases hok
  | some stack =>
    rw [cycle_of_effect hw hd (s.call_of_push word nnn hpush), trail, trail, Effect.arrive]
    simp only [(CallStack.toList_push? hpush).1, List.append_assoc, List.singleton_append]
    exact List.append_left_lt (.cons .nil)

/-- A return takes the last address off and goes behind the one before it. -/
theorem trail_lt_of_ret (hw : s.word? = some word) (hd : decode word = some .ret)
    (hok : s.cycle.result = .ok ()) : s.trail < s.cycle.state.trail := by
  cases hpop : s.machine.stack.pop? with
  | none =>
    rw [cycle_of_halt hw hd (s.returnFrom_of_empty word hpop)] at hok
    cases hok
  | some popped =>
    obtain ⟨caller, stack⟩ := popped
    by_cases hc : caller ≤ 0xFFFD
    · rw [cycle_of_effect hw hd (s.returnFrom_of_pop word hpop hc), trail, trail, Effect.arrive]
      simp only [(CallStack.toList_pop? hpop).1, List.append_assoc, List.singleton_append]
      exact List.append_left_lt (.rel (lt_add_of_le hc (by decide) (by decide)))
    · rw [cycle_of_halt hw hd (s.returnFrom_of_high word hpop hc)] at hok
      cases hok

/-- Any other instruction that goes on raises the program counter. -/
theorem trail_lt_of_onward (hw : s.word? = some word) (hd : decode word = some i)
    (hp : s.perform word i = .ok e) (hret : i ≠ .ret) (hcall : ∀ nnn, i ≠ .call nnn)
    (he : Onward e) : s.trail < s.cycle.state.trail := by
  obtain ⟨plain, hplain, hkept⟩ := perform_plain (s := s) word (addresses_le_of_decode hd) hret hcall
  cases hp.symm.trans hplain
  rw [cycle_of_effect hw hd hp, trail, trail, Effect.arrive]
  simp only [hkept.stack_eq]
  exact List.append_left_lt (.rel (lt_destination (pc_le_of_word hw) he))

/-- All addresses on the call stack have a successor that a return can go to. -/
def CallersFit (s : Interpreter) : Prop := ∀ a ∈ s.machine.stack.toList, a ≤ 0xFFFD

/-- A cycle that is not interrupted succeeds and raises the trail. -/
theorem trail_lt_cycle (hcallers : s.CallersFit) (h : ¬ s.Interrupted) :
    s.trail < s.cycle.state.trail := by
  cases hr : s.cycle.result with
  | error halt =>
    cases halt with
    | fault f => exact absurd (.faults hr) h
    | outOfRange => exact absurd (result_eq_error_iff.mp hr) (not_outOfRange hcallers)
  | ok =>
    obtain ⟨word, i, e, hw, hd, hp, -⟩ := effect_of_ok hr
    have hi := current?_eq_some hw hd
    by_cases hret : i = .ret
    · exact trail_lt_of_ret hw (hret ▸ hd) hr
    by_cases hcall : ∃ nnn, i = .call nnn
    · obtain ⟨nnn, rfl⟩ := hcall
      exact trail_lt_of_call hw hd hr
    have hno : ∀ nnn, i ≠ .call nnn := fun nnn hc => hcall ⟨nnn, hc⟩
    have hjump : i.jumps = false := Bool.eq_false_iff.mpr fun hj => h (.jumps hi hj)
    refine trail_lt_of_onward hw hd hp hret hno (onward_of_perform hp hret hno hjump ?_)
    rintro x rfl hway hkeys
    exact h (.waits hi hway hkeys)

/-! ### A run has to be interrupted -/

theorem callersFit_cycle (h : s.CallersFit) : s.cycle.state.CallersFit := by
  have hway := s.cycle_way
  generalize s.cycle.result = result, s.cycle.state = t at hway
  cases hway with
  | halted hs => exact h
  | called hpc hn hpush =>
    intro a ha
    rw [(CallStack.toList_push? hpush).1, List.mem_append, List.mem_singleton] at ha
    rcases ha with ha | rfl
    · exact h a ha
    · exact UInt16.le_trans hpc (by decide)
  | returned hw hpop hc =>
    intro a ha
    exact h a (by simp [(CallStack.toList_pop? hpop).1, ha])
  | passed hpc he =>
    rw [CallersFit, Effect.arrive, he.stack_eq]
    exact h

/-- Every cycle that is not interrupted takes up at least one of the numbers that are left. -/
theorem exists_interrupted (turns : List Turn) (hcallers : s.CallersFit)
    (hlong : Trail.limit 17 ≤ turns.count .cycle + Trail.rank 17 s.trail) :
    ∃ before behind, turns = before ++ .cycle :: behind ∧
      before.count .cycle + Trail.rank 17 s.trail < Trail.limit 17 ∧
      (s.run before).Interrupted := by
  induction turns generalizing s with
  | nil =>
    have hrank := Trail.rank_lt_limit 17 s.trail
    rw [List.count_nil] at hlong
    omega
  | cons t turns ih =>
    by_cases ht : t = .cycle
    · subst ht
      by_cases hs : s.Interrupted
      · have hrank := Trail.rank_lt_limit 17 s.trail
        exact ⟨[], turns, rfl, by rwa [List.count_nil, Nat.zero_add], hs⟩
      · have hrank := Trail.rank_lt_rank (trail_lt_cycle hcallers hs) (length_trail_le _)
        rw [List.count_cons_self] at hlong
        obtain ⟨before, behind, rfl, hcount, hinterrupted⟩ :=
          ih (callersFit_cycle hcallers) (by omega)
        refine ⟨.cycle :: before, behind, rfl, ?_, hinterrupted⟩
        rw [List.count_cons_self]
        omega
    · obtain ⟨keypad, delay, sound, hturn⟩ := s.turn_eq_of_ne_cycle ht
      have hstack : (s.turn t).machine.stack = s.machine.stack := by rw [hturn]
      have htrail : (s.turn t).trail = s.trail := by rw [trail, hturn, trail]
      rw [List.count_cons_of_ne ht] at hlong
      obtain ⟨before, behind, rfl, hcount, hinterrupted⟩ :=
        ih (s := s.turn t) (by rwa [CallersFit, hstack]) (by rwa [htrail])
      refine ⟨t :: before, behind, rfl, ?_, hinterrupted⟩
      rwa [List.count_cons_of_ne ht, ← htrail]

/-- Only jumps and waits for a key make a program run forever. However keys and timers change between
its cycles, one of the first `Trail.limit 17` faults, jumps or waits; and it faults if no cycle
executes a jump or looks for a key. -/
theorem exists_fault_jump_or_wait (s : Interpreter) (turns : List Turn)
    (hcallers : ∀ a ∈ s.machine.stack.toList, a ≤ 0xFFFD)
    (hlong : Trail.limit 17 ≤ turns.count .cycle) :
    (∃ before behind, turns = before ++ .cycle :: behind ∧
      before.count .cycle < Trail.limit 17 ∧ (s.run before).Interrupted) ∧
      ((∀ before behind, turns = before ++ .cycle :: behind → ∀ i,
          (s.run before).current? = some i → i.jumps = false ∧ ∀ x, i ≠ .awaitKey x) →
        ∃ before behind f, turns = before ++ .cycle :: behind ∧
          before.count .cycle < Trail.limit 17 ∧
          (s.run before).cycle.result = .error (.fault f)) := by
  obtain ⟨before, behind, hturns, hcount, hinterrupted⟩ :=
    exists_interrupted turns hcallers (Nat.le_add_right_of_le hlong)
  have hbefore : before.count .cycle < Trail.limit 17 := by omega
  refine ⟨⟨before, behind, hturns, hbefore, hinterrupted⟩, fun hstraight => ?_⟩
  cases hinterrupted with
  | faults hf => exact ⟨before, behind, _, hturns, hbefore, hf⟩
  | jumps hi hj =>
    have hno := (hstraight before behind hturns _ hi).1
    rw [hj] at hno
    cases hno
  | waits hi hway hkeys => exact absurd rfl ((hstraight before behind hturns _ hi).2 _)

/-- A program that calls itself: `2200` at the load address. -/
def selfCall : Interpreter := ((Interpreter.new {} .zeros).load [0x22, 0x00]).state

/-- An interpreter that is about to call the address it is at. -/
def CallsItself (s : Interpreter) : Prop := s.machine.pc = 0x200 ∧ s.word? = some 0x2200

theorem callsItself_turn (h : s.CallsItself) (t : Turn) : (s.turn t).CallsItself := by
  by_cases ht : t = .cycle
  · subst ht
    have hd : decode 0x2200 = some (.call 0x200) := by decide
    cases hpush : s.machine.stack.push? s.machine.pc with
    | none =>
      rw [turn, cycle_of_halt h.2 hd (s.call_of_full _ _ hpush)]
      exact h
    | some stack =>
      rw [turn, cycle_of_effect h.2 hd (s.call_of_push _ _ hpush)]
      refine ⟨rfl, ?_⟩
      have hword := h.2
      rwa [word?, h.1] at hword
  · obtain ⟨keypad, delay, sound, hturn⟩ := s.turn_eq_of_ne_cycle ht
    rw [hturn]
    exact h

theorem callsItself_run (h : s.CallsItself) (turns : List Turn) : (s.run turns).CallsItself := by
  induction turns generalizing s with
  | nil => exact h
  | cons t turns ih => exact ih (callsItself_turn h t)

theorem selfCall_exists_fault :
    (∀ a ∈ selfCall.machine.stack.toList, a ≤ 0xFFFD) ∧
      Trail.limit 17 ≤ (.setKey 3 true :: List.replicate (Trail.limit 17) Turn.cycle).count .cycle ∧
      ∃ before f, before.count .cycle < Trail.limit 17 ∧
        (selfCall.run before).cycle.result = .error (.fault f) := by
  have hcallers : ∀ a ∈ selfCall.machine.stack.toList, a ≤ 0xFFFD := by
    intro a ha
    rw [show selfCall.machine.stack = .empty from rfl, CallStack.toList_empty] at ha
    cases ha
  have hcycles : (.setKey 3 true :: List.replicate (Trail.limit 17) Turn.cycle).count .cycle =
      Trail.limit 17 := by
    rw [List.count_cons_of_ne (by decide), List.count_replicate_self]
  have hlong := Nat.le_of_eq hcycles.symm
  have hcalls : selfCall.CallsItself := ⟨rfl, by decide +kernel⟩
  have hd : decode 0x2200 = some (.call 0x200) := by decide
  obtain ⟨before, -, f, -, hcount, hfault⟩ :=
    (exists_fault_jump_or_wait selfCall _ hcallers hlong).2 fun before behind _ i hi => by
      rw [current?_eq_some (callsItself_run hcalls before).2 hd] at hi
      cases hi
      exact ⟨rfl, fun x hx => by cases hx⟩
  exact ⟨hcallers, hlong, before, f, hcount, hfault⟩

end Interpreter

end ChipEight
