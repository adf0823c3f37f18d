import ChipEight.Event

/-!
How operations answer. An operation gives a new state, the events it emitted in their order, and a
result; an operation that executes instructions may also halt instead of giving a result.
-/

namespace ChipEight

/-- Why execution halted: a fault of the program, or a sum or operand that left its range. -/
inductive Halt where
  | fault (fault : Fault)
  | outOfRange
  deriving DecidableEq

/-- Results are equal if their values or their errors are. -/
instance decidableEqResult {ε ρ : Type} [DecidableEq ε] [DecidableEq ρ] :
    DecidableEq (Except ε ρ)
  | .ok a, .ok b => decidable_of_iff (a = b) ⟨congrArg _, Except.ok.inj⟩
  | .error a, .error b => decidable_of_iff (a = b) ⟨congrArg _, Except.error.inj⟩
  | .ok _, .error _ => .isFalse nofun
  | .error _, .ok _ => .isFalse nofun

/-- A new state, the events on the way to it, and a result. -/
structure Outcome (σ ρ : Type) where
  state : σ
  events : List Event
  result : ρ
  deriving DecidableEq

namespace Outcome

variable {σ τ ρ : Type}

/-- Puts events in front of those of an outcome. -/
def after (events : List Event) (o : Outcome σ ρ) : Outcome σ ρ :=
  { o with events := events ++ o.events }

/-- The same outcome for a state that contains this one. -/
def inside (f : σ → τ) (o : Outcome σ ρ) : Outcome τ ρ := ⟨f o.state, o.events, o.result⟩

end Outcome

end ChipEight
