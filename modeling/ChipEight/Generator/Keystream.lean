/-!
A pseudorandom stream of 32-bit words: the ChaCha stream with twelve rounds for a key of eight
words, a block counter of 64 bits and a nonce of zero. The word at a position is a function of key
and position alone.
-/

namespace ChipEight

/-- The key of a stream. -/
abbrev StreamKey := Vector UInt32 8

/-- The key of zeros. -/
def StreamKey.zeros : StreamKey := Vector.replicate 8 0

/-- The key that thirty-two bytes are; the first byte of a word is its lowest. -/
def StreamKey.ofBytes (bytes : List UInt8) : StreamKey :=
  Vector.ofFn fun i =>
    ((bytes.drop (4 * i.val)).take 4).foldr (fun byte word => word * 0x100 + byte.toUInt32) 0

namespace Keystream

/-- How many words there are. -/
def wordCount : Nat := 0x100000000

/-- Turns the bits of `w` left by `k` places. -/
def rotateLeft (w k : UInt32) : UInt32 := (w <<< k) ||| (w >>> (32 - k))

/-- Mixes the words at four places of a block. -/
def quarterRound (a b c d : Fin 16) (s : Vector UInt32 16) : Vector UInt32 16 :=
  let s := s.set a (s[a] + s[b])
  let s := s.set d (rotateLeft (s[d] ^^^ s[a]) 16)
  let s := s.set c (s[c] + s[d])
  let s := s.set b (rotateLeft (s[b] ^^^ s[c]) 12)
  let s := s.set a (s[a] + s[b])
  let s := s.set d (rotateLeft (s[d] ^^^ s[a]) 8)
  let s := s.set c (s[c] + s[d])
  s.set b (rotateLeft (s[b] ^^^ s[c]) 7)

/-- Mixes the four columns of a block. -/
def columnRound (s : Vector UInt32 16) : Vector UInt32 16 :=
  quarterRound 3 7 11 15 (quarterRound 2 6 10 14 (quarterRound 1 5 9 13 (quarterRound 0 4 8 12 s)))

/-- Mixes the four diagonals of a block. -/
def diagonalRound (s : Vector UInt32 16) : Vector UInt32 16 :=
  quarterRound 3 4 9 14 (quarterRound 2 7 8 13 (quarterRound 1 6 11 12 (quarterRound 0 5 10 15 s)))

/-- Two rounds. -/
def doubleRound (s : Vector UInt32 16) : Vector UInt32 16 := diagonalRound (columnRound s)

/-- The block of constants, key and counter before it is mixed. -/
def seedBlock (key : StreamKey) (counter : Nat) : Vector UInt32 16 :=
  ⟨(([0x61707865, 0x3320646e, 0x79622d32, 0x6b206574] : List UInt32)
    ++ [key[0], key[1], key[2], key[3], key[4], key[5], key[6], key[7]]
    ++ [UInt32.ofNat counter, UInt32.ofNat (counter / wordCount), 0, 0]).toArray, rfl⟩

/-- The sixteen output words of block `counter`. -/
def block (key : StreamKey) (counter : Nat) : Vector UInt32 16 :=
  let start := seedBlock key counter
  Vector.zipWith (· + ·) start (Nat.repeat doubleRound 6 start)

/-- The word at `position`. -/
def word (key : StreamKey) (position : Nat) : UInt32 :=
  (block key (position / 16))[Fin.ofNat 16 position]

/-- The number of words before the stream repeats. -/
def period : Nat := 0x100000000000000000

end Keystream

end ChipEight
