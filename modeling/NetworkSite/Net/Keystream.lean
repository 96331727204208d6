/-
  A keystream from a 64-bit seed.

  The seed is spread over eight words by a congruential generator whose output
  is rotated by its own high bits; the words are the key of ChaCha with twelve
  rounds, counter and stream number zero.  The words of the first block are
  the keystream.
-/

namespace NetworkSite.Keystream

/-- A word rotated to the left, by 1 to 31 bits. -/
def rotateLeft (x : UInt32) (n : UInt32) : UInt32 :=
  (x <<< n) ||| (x >>> (32 - n))

/-- A word rotated to the right, by 0 to 31 bits. -/
def rotateRight (x : UInt32) (n : UInt32) : UInt32 :=
  (x >>> n) ||| (x <<< ((32 - n) &&& 31))

/-- The `n` words that a seed is spread over. -/
def seedWords (state : UInt64) : Nat → List UInt32
  | 0 => []
  | n + 1 =>
    let state := state * 6364136223846793005 + 11634580027462260723
    let mixed := (((state >>> 18) ^^^ state) >>> 27).toUInt32
    rotateRight mixed (state >>> 59).toUInt32 :: seedWords state n

/-- The sixteen words of a block. -/
abbrev Block := Vector UInt32 16

/-- The quarter round on four words of the block. -/
def quarterRound (s : Block) (a b c d : Fin 16) : Block :=
  let s := s.set a (s[a] + s[b])
  let s := s.set d (rotateLeft (s[d] ^^^ s[a]) 16)
  let s := s.set c (s[c] + s[d])
  let s := s.set b (rotateLeft (s[b] ^^^ s[c]) 12)
  let s := s.set a (s[a] + s[b])
  let s := s.set d (rotateLeft (s[d] ^^^ s[a]) 8)
  let s := s.set c (s[c] + s[d])
  s.set b (rotateLeft (s[b] ^^^ s[c]) 7)

/-- A round on the columns and one on the diagonals. -/
def doubleRound (s : Block) : Block :=
  let s := quarterRound s 0 4 8 12
  let s := quarterRound s 1 5 9 13
  let s := quarterRound s 2 6 10 14
  let s := quarterRound s 3 7 11 15
  let s := quarterRound s 0 5 10 15
  let s := quarterRound s 1 6 11 12
  let s := quarterRound s 2 7 8 13
  quarterRound s 3 4 9 14

/-- The first block with a key: the constants, the key, counter and stream
    number. -/
def initial (key : List UInt32) : Block :=
  Vector.ofFn fun i =>
    ([0x61707865, 0x3320646e, 0x79622d32, 0x6b206574] ++ key).getD i 0

/-- The words of the first block of the keystream. -/
def words (seed : UInt64) : List UInt32 :=
  let start := initial (seedWords seed 8)
  let mixed := Nat.repeat doubleRound 6 start
  (Vector.zipWith (· + ·) mixed start).toList

end NetworkSite.Keystream
