/-!
Settings of an interpreter and its clock. Times are in nanoseconds.
-/

namespace ChipEight

/-- How an instruction waits for a key. -/
inductive AwaitKey where
  /-- Runs again until a key is down. -/
  | block
  /-- Looks once, and skips the next instruction if a key is down. -/
  | poll
  deriving DecidableEq

/-- A configuration. Without a seed the key of the generator comes from outside. -/
structure Config where
  tickHz : UInt32 := 60
  cyclesPerTick : UInt32 := 4
  awaitKey : AwaitKey := .block
  seed : Option UInt64 := none
  deriving DecidableEq

/-- The nanoseconds of a second. -/
def nanosPerSecond : Nat := 1000000000

/-- The time between ticks; a rate of zero counts as one tick per second. -/
def Config.tickPeriod (c : Config) : Nat := nanosPerSecond / max c.tickHz.toNat 1

end ChipEight
