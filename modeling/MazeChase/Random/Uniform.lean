/-!
# Even draws below a bound

A 64-bit word `v` is turned into a number below `b` by looking at the product `v * b`: its upper 64
bits are the number, and the word is refused when the lower 64 bits lie beyond `zone b`. Each number
below the bound is then the result of equally many words, and at most half of the words are refused.

* `Uniform.zone`, `Uniform.accept?`;
* `Uniform.lt_of_accept?`: an accepted word gives a number below the bound.
-/

set_option autoImplicit false

namespace MazeChase.Uniform

/-- The number of 64-bit words. -/
def wordCount : Nat := UInt64.size

/-- The number of zero bits above the highest bit of a 64-bit word. -/
def leadingZeros (n : Nat) : Nat := if n = 0 then 64 else 63 - n.log2

/-- The last lower half that is accepted: the bound moved up until its highest bit is at the top,
less one. -/
def zone (bound : Nat) : Nat := bound <<< leadingZeros bound - 1

/-- The number that a word gives, unless it is refused. -/
def accept? (bound word : Nat) : Option Nat :=
  if word * bound % wordCount ≤ zone bound then some (word * bound / wordCount) else none

theorem lt_of_accept? {bound word r : Nat} (positive : 0 < bound) (hw : word < wordCount)
    (h : accept? bound word = some r) : r < bound := by
  unfold accept? at h
  split at h
  · obtain rfl := Option.some.inj h
    rw [Nat.div_lt_iff_lt_mul (by decide), Nat.mul_comm]
    exact Nat.mul_lt_mul_of_pos_left hw positive
  · exact absurd h (by simp)

end MazeChase.Uniform
