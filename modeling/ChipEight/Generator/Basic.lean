import ChipEight.Generator.Keystream

/-!
Random numbers below a bound. A seed fixes the key of a word stream, and the generator is a key
with a position. To draw below `n`, words `w` are taken from the stream until the low half of
`w * n` is small enough for all results to be equally likely; the high half is the result.
-/

namespace ChipEight

/-- A word stream and the position of its next word. -/
structure Generator where
  key : StreamKey
  position : Nat
  deriving DecidableEq

namespace Generator

/-- The linear congruential step that spreads a seed. -/
def spread (state : UInt64) : UInt64 := state * 6364136223846793005 + 11634580027462260723

/-- The word of a spread state: folded bits, turned by the five highest. -/
def keyWord (state : UInt64) : UInt32 :=
  let folded := (((state >>> 18) ^^^ state) >>> 27).toUInt32
  let turn := (state >>> 59).toUInt32
  (folded >>> turn) ||| (folded <<< (32 - turn))

/-- The key of a seed: the words of the eight states after it. -/
def keyOfSeed (seed : UInt64) : StreamKey :=
  Vector.ofFn fun i => keyWord (Nat.repeat spread (i.val + 1) seed)

/-- The generator of a seed, before its first word. -/
def ofSeed (seed : UInt64) : Generator := ⟨keyOfSeed seed, 0⟩

/-- Whether a word may decide a draw below `bound`. -/
def accepts (bound : Nat) (word : UInt32) : Bool :=
  word.toNat * bound % Keystream.wordCount < Keystream.wordCount - Keystream.wordCount % bound

/-- The position of the first word that may decide, among `count` words from `position` on. -/
def decisive (key : StreamKey) (bound : Nat) : (count position : Nat) → Nat
  | 0, position => position
  | count + 1, position =>
    if accepts bound (Keystream.word key position) then position
    else decisive key bound count (position + 1)

/-- A number below `bound`, and the generator behind the words it took. No number is below zero. -/
def below? (g : Generator) (bound : UInt8) : Option (UInt8 × Generator) :=
  if bound = 0 then none
  else
    let position := decisive g.key bound.toNat Keystream.period g.position
    let value := (Keystream.word g.key position).toNat * bound.toNat / Keystream.wordCount
    some (UInt8.ofNat value, { g with position := position + 1 })

end Generator

end ChipEight
