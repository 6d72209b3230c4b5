/-!
# Sources of chance

A frightened ghost asks a source for a number below a bound. The source is a value: a draw returns
the source to use next.

* `RandomSource.below`;
* `Recorded`: any source, together with the bounds it was asked for;
* `Listed`: numbers written down beforehand;
* either of two kinds of source is a source.
-/

set_option autoImplicit false

namespace MazeChase

/-- Something to draw numbers from. -/
class RandomSource (σ : Type) where
  /-- A number below the bound, and the source afterwards. A source may break its promise and answer
  more; whoever draws has to cope with that. -/
  below : σ → Nat → Nat × σ

/-- Either of two kinds of source. -/
instance {σ τ : Type} [RandomSource σ] [RandomSource τ] : RandomSource (σ ⊕ τ) where
  below
    | .inl s, bound => ((RandomSource.below s bound).1, .inl (RandomSource.below s bound).2)
    | .inr t, bound => ((RandomSource.below t bound).1, .inr (RandomSource.below t bound).2)

/-! ## A source that remembers what it was asked -/

/-- A source and the bounds asked for so far, the first one first. -/
structure Recorded (σ : Type) where
  source : σ
  bounds : Array Nat

namespace Recorded

variable {σ : Type}

/-- A source that has not been asked yet. -/
def new (source : σ) : Recorded σ := ⟨source, #[]⟩

variable [RandomSource σ]

instance : RandomSource (Recorded σ) where
  below r bound :=
    ((RandomSource.below r.source bound).1,
      ⟨(RandomSource.below r.source bound).2, r.bounds.push bound⟩)

@[simp] theorem fst_below (r : Recorded σ) (bound : Nat) :
    (RandomSource.below r bound).1 = (RandomSource.below r.source bound).1 := rfl

@[simp] theorem source_below (r : Recorded σ) (bound : Nat) :
    (RandomSource.below r bound).2.source = (RandomSource.below r.source bound).2 := rfl

@[simp] theorem bounds_below (r : Recorded σ) (bound : Nat) :
    (RandomSource.below r bound).2.bounds = r.bounds.push bound := rfl

end Recorded

/-! ## Numbers written down beforehand -/

/-- The numbers still to be drawn. -/
structure Listed where
  numbers : List Nat
deriving DecidableEq, Repr

/-- Each draw takes the next number, reduced to the bound; an empty list gives zeros. -/
instance : RandomSource Listed where
  below
    | ⟨[]⟩, _ => (0, ⟨[]⟩)
    | ⟨n :: rest⟩, bound => (n % bound, ⟨rest⟩)

end MazeChase
