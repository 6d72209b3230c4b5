/-!
# The ChaCha block function

Sixteen words are mixed by additions, rotations and exclusive ors; the key and a block number go
in, and sixteen words that look random come out. Eight rounds are used here, that is, four double
rounds.

* `ChaCha.quarterRound`, `ChaCha.doubleRound`, `ChaCha.block`;
* `ChaCha.keyOfSeed`: a 256-bit key spread out from a 64-bit seed.
-/

set_option autoImplicit false

namespace MazeChase.ChaCha

/-- The working words of a block. -/
abbrev State := Vector UInt32 16

/-- A 256-bit key. -/
abbrev Key := Vector UInt32 8

/-- The bits of a word moved up by `n` places, those that leave coming back at the bottom. -/
def rotateLeft (x n : UInt32) : UInt32 := x <<< n ||| x >>> (32 - n)

/-- The bits of a word moved down by `n` places, those that leave coming back at the top. -/
def rotateRight (x n : UInt32) : UInt32 := x >>> n ||| x <<< (32 - n)

/-- Add word `b` to word `a`, then mix the sum into word `d` and rotate it. -/
def mix (s : State) (a b d : Fin 16) (n : UInt32) : State :=
  let s := s.set a (s[a] + s[b])
  s.set d (rotateLeft (s[d] ^^^ s[a]) n)

/-- One quarter of a round, on four of the words. -/
def quarterRound (s : State) (a b c d : Fin 16) : State :=
  mix (mix (mix (mix s a b d 16) c d b 12) a b d 8) c d b 7

/-- A round on the columns and a round on the diagonals. -/
def doubleRound (s : State) : State :=
  let s := quarterRound s 0 4 8 12
  let s := quarterRound s 1 5 9 13
  let s := quarterRound s 2 6 10 14
  let s := quarterRound s 3 7 11 15
  let s := quarterRound s 0 5 10 15
  let s := quarterRound s 1 6 11 12
  let s := quarterRound s 2 7 8 13
  quarterRound s 3 4 9 14

/-- The words of a block before mixing: the text "expand 32-byte k", the key, the number of the
block in two words, and a stream number that is always zero. -/
def start (key : Key) (number : UInt64) : State :=
  #v[0x61707865, 0x3320646e, 0x79622d32, 0x6b206574,
    key[0], key[1], key[2], key[3], key[4], key[5], key[6], key[7],
    number.toUInt32, (number >>> 32).toUInt32, 0, 0]

/-- The words of a block: four double rounds, added to the words before mixing. -/
def block (key : Key) (number : UInt64) : State :=
  let s := start key number
  (doubleRound (doubleRound (doubleRound (doubleRound s)))).zipWith (· + ·) s

/-- One step of the linear congruence that spreads a seed. -/
def spread (seed : UInt64) : UInt64 := seed * 6364136223846793005 + 11634580027462260723

/-- The word read off a state of the spreading congruence. -/
def spreadWord (state : UInt64) : UInt32 :=
  rotateRight ((state >>> 18 ^^^ state) >>> 27).toUInt32 (state >>> 59).toUInt32

/-- The key of a seed: the words of eight steps of the congruence. -/
def keyOfSeed (seed : UInt64) : Key :=
  let s₀ := spread seed
  let s₁ := spread s₀
  let s₂ := spread s₁
  let s₃ := spread s₂
  let s₄ := spread s₃
  let s₅ := spread s₄
  let s₆ := spread s₅
  let s₇ := spread s₆
  #v[spreadWord s₀, spreadWord s₁, spreadWord s₂, spreadWord s₃,
    spreadWord s₄, spreadWord s₅, spreadWord s₆, spreadWord s₇]

end MazeChase.ChaCha
