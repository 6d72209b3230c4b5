import MazeChase.Random.ChaCha
import MazeChase.Random.Source
import MazeChase.Random.Uniform

/-!
# Seeded streams

The random source of a ghost: the ChaCha words of a key, taken two at a time.

* `Stream.ofSeed`, `Stream.wordAt`, `Stream.next`;
* `Stream.attempt`, `Stream.draw` and the `RandomSource` instance: draw words until one is accepted;
* `Stream.draw_eq`, `Stream.draw_of_accepted`, `Stream.draw_of_refused`: one try at a time.
-/

set_option autoImplicit false

namespace MazeChase

/-- A key, and the number of 64-bit words drawn so far. -/
structure Stream where
  key : ChaCha.Key
  drawn : Nat
deriving DecidableEq, Repr

namespace Stream

/-- The stream of a seed, from its start. -/
def ofSeed (seed : UInt64) : Stream := ⟨ChaCha.keyOfSeed seed, 0⟩

/-- The `n`-th 64-bit word of a key. A block holds eight of them, the lower half first. -/
def wordAt (key : ChaCha.Key) (n : Nat) : UInt64 :=
  let words := ChaCha.block key (n / 8).toUInt64
  let i := n % 8
  have h : i < 8 := Nat.mod_lt _ (by decide)
  words[2 * i].toUInt64 ||| words[2 * i + 1].toUInt64 <<< 32

/-- The next word. -/
def next (s : Stream) : UInt64 × Stream := (wordAt s.key s.drawn, { s with drawn := s.drawn + 1 })

/-- One try: a number, or the stream from which to try again. -/
def attempt (bound : Nat) (s : Stream) : Stream ⊕ Nat × Stream :=
  match Uniform.accept? bound s.next.1.toNat with
  | some r => .inr (r, s.next.2)
  | none => .inl s.next.2

/-- Draw words until one is accepted. Nothing limits how many are refused before. -/
def draw (bound : Nat) (s : Stream) : Nat × Stream :=
  haveI : Nonempty (Nat × Stream) := ⟨(0, s)⟩
  Id.run (repeatM (fun s => pure (attempt bound s)) s)

theorem draw_eq (bound : Nat) (s : Stream) : draw bound s =
    (attempt bound s).elim (draw bound) id := by
  have : Nonempty (Nat × Stream) := ⟨(0, s)⟩
  have loop := repeatM_eq_of_monadTail (f := fun s => (pure (attempt bound s) : Id _)) s
  rw [repeatM.body, pure_bind] at loop
  cases next : attempt bound s with
  | inl later | inr result =>
    rw [next] at loop
    exact loop

theorem draw_of_accepted {bound r : Nat} {s : Stream}
    (h : Uniform.accept? bound s.next.1.toNat = some r) : draw bound s = (r, s.next.2) := by
  rw [draw_eq, attempt, h]
  rfl

theorem draw_of_refused {bound : Nat} {s : Stream}
    (h : Uniform.accept? bound s.next.1.toNat = none) : draw bound s = draw bound s.next.2 := by
  rw [draw_eq, attempt, h]
  rfl

instance : RandomSource Stream := ⟨fun s bound => draw bound s⟩

end Stream

end MazeChase
