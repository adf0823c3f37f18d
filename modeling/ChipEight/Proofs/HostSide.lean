import ChipEight.Proofs.Cycle

/-!
What running a program leaves to the host. No instruction moves a key or changes how the
interpreter waits for one, and of the events of a cycle one at most tells of an execution: it names
the instruction at the program counter.
-/

namespace ChipEight

/-- The instruction that an event announces as the next to be executed. -/
def Event.executed? : Event → Option Instruction
  | .executing _ _ i => some i
  | _ => none

/-- The instructions that some events tell were executed. -/
def executed (events : List Event) : List Instruction := events.filterMap Event.executed?

@[simp] theorem executed_nil : executed [] = [] := rfl

@[simp] theorem executed_append (earlier later : List Event) :
    executed (earlier ++ later) = executed earlier ++ executed later :=
  List.filterMap_append

namespace Interpreter

variable {s : Interpreter} {word : Word} {i : Instruction} {e : Effect}

/-- An effect leaves the keypad and the way of waiting, and tells of no execution. -/
structure LeavesHost (s : Interpreter) (e : Effect) : Prop where
  keypad_eq : e.state.keypad = s.keypad
  awaitKey_eq : e.state.awaitKey = s.awaitKey
  silent : executed e.events = []

theorem leavesHost_proceed {m : Machine} (h : s.proceed m = .ok e) : s.LeavesHost e := by
  cases h
  exact ⟨rfl, rfl, rfl⟩

theorem leavesHost_skipIf {condition : Bool} (h : s.skipIf condition = .ok e) : s.LeavesHost e := by
  cases h
  exact ⟨rfl, rfl, rfl⟩

theorem leavesHost_callNative (nnn : UInt16) : s.LeavesHost (s.callNative nnn) := by
  rw [callNative]
  split <;> exact ⟨rfl, rfl, rfl⟩

theorem leavesHost_awaitKeyIn (x : Nat) : s.LeavesHost (s.awaitKeyIn x) := by
  rw [awaitKeyIn]
  split <;> exact ⟨rfl, rfl, rfl⟩

theorem leavesHost_returnFrom (h : s.returnFrom word = .ok e) : s.LeavesHost e := by
  obtain ⟨stack, target, rfl⟩ := exists_of_returnFrom h
  exact ⟨rfl, rfl, rfl⟩

theorem leavesHost_call {nnn : UInt16} (h : s.call word nnn = .ok e) : s.LeavesHost e := by
  obtain ⟨stack, target, rfl⟩ := exists_of_call h
  exact ⟨rfl, rfl, rfl⟩

theorem leavesHost_jumpOffset {nnn : UInt16} (h : s.jumpOffset nnn = .ok e) : s.LeavesHost e := by
  obtain ⟨target, rfl⟩ := exists_of_jumpOffset h
  exact ⟨rfl, rfl, rfl⟩

/-- No instruction does what only the host does, and none reports its own execution. -/
theorem perform_leaves_host (h : s.perform word i = .ok e) : s.LeavesHost e := by
  cases i with
  | native nnn =>
    cases h
    exact leavesHost_callNative nnn
  | ret => exact leavesHost_returnFrom h
  | call nnn => exact leavesHost_call h
  | awaitKey x =>
    cases h
    exact leavesHost_awaitKeyIn x
  | jumpOffset nnn => exact leavesHost_jumpOffset h
  | addIndex x => exact leavesHost_proceed ((s.addIndex_eq x).symm.trans h)
  | random x nn =>
    obtain ⟨value, generator, heq⟩ := s.random_eq x nn
    cases heq.symm.trans h
    exact ⟨rfl, rfl, rfl⟩
  | clear | jump nnn | draw x y n =>
    cases h
    exact ⟨rfl, rfl, rfl⟩
  | skipIfByte | skipUnlessByte | skipIfSame | skipUnlessSame | skipIfKey | skipUnlessKey =>
    exact leavesHost_skipIf h
  | _ => exact leavesHost_proceed h

/-- A cycle leaves the keypad and the way of waiting. -/
theorem cycle_leaves_host (s : Interpreter) :
    s.cycle.state.keypad = s.keypad ∧ s.cycle.state.awaitKey = s.awaitKey := by
  cases hr : s.cycle.result with
  | ok =>
    obtain ⟨word, i, e, -, -, hp, hstate⟩ := effect_of_ok hr
    have hleaves := perform_leaves_host hp
    rw [hstate]
    exact ⟨hleaves.keypad_eq, hleaves.awaitKey_eq⟩
  | error halt =>
    rw [(cycle_of_stops (result_eq_error_iff.mp hr)).2]
    exact ⟨rfl, rfl⟩

/-- The instruction at the program counter, if there is one. -/
def current? (s : Interpreter) : Option Instruction := s.word?.bind decode

theorem current?_eq_some (hw : s.word? = some word) (hd : decode word = some i) :
    s.current? = some i := by
  rw [current?, hw, Option.bind_some, hd]

/-- A cycle tells of the execution of the instruction at the program counter. -/
theorem executed_cycle (s : Interpreter) : executed s.cycle.events = s.current?.toList := by
  cases hw : s.word? with
  | none =>
    rw [cycle_of_no_word hw, current?, hw]
    rfl
  | some word =>
    cases hd : decode word with
    | none =>
      rw [cycle_of_no_instruction hw hd, current?, hw, Option.bind_some, hd]
      rfl
    | some i =>
      rw [current?_eq_some hw hd]
      cases hp : s.perform word i with
      | error halt =>
        rw [cycle_of_halt hw hd hp]
        rfl
      | ok e =>
        rw [cycle_of_effect hw hd hp]
        exact congrArg (List.cons i) (perform_leaves_host hp).silent

/-- A cycle that does not halt tells of one execution. -/
theorem length_executed_of_ok (h : s.cycle.result = .ok ()) :
    (executed s.cycle.events).length = 1 := by
  obtain ⟨word, i, e, hw, hd, -, -⟩ := effect_of_ok h
  rw [executed_cycle, current?_eq_some hw hd]
  rfl

end Interpreter

end ChipEight
