import Mathlib.Algebra.BigOperators.Fin
import Mathlib.Algebra.Order.Floor.Div
import Mathlib.Data.Fintype.BigOperators
import Mathlib.Order.Interval.Finset.Nat
import MazeChase.Random.Stream

/-!
# Even draws

No number below the bound is drawn more often than another one. For each of them there are equally
many words; these are the words between two multiples of the bound.

* `Uniform.bound_mul_two_pow`: the bound moved up until its highest bit is at the top;
* `Uniform.accept?_eq_some_iff`, **`Uniform.card_wordsFor`**: the words for a number;
* **`Uniform.card_accepted`**: the words that are not refused;
* `Uniform.card_rowsFor_succ`, **`Uniform.card_rowsFor_eq`**: rows of words that are tried one after
  the other; **`Uniform.two_pow_mul_card_refusedRows_le`**: how few of them are refused as a whole;
* `Stream.upcoming`, **`Stream.draw_of_upcoming`**: the row of words that a stream tries;
* **`Uniform.draws_evenly`**.
-/

set_option autoImplicit false

namespace MazeChase

namespace Uniform

variable {bound : Nat}

/-! ## Words for a number -/

/-- The words that give a number. -/
def wordsFor (bound r : Nat) : Finset Nat :=
  (Finset.range wordCount).filter fun word => accept? bound word = some r

/-- The words that are not refused. -/
def accepted (bound : Nat) : Finset Nat :=
  (Finset.range wordCount).filter fun word => (accept? bound word).isSome

/-- The words that are refused. -/
def refused (bound : Nat) : Finset Nat :=
  (Finset.range wordCount).filter fun word => accept? bound word = none

theorem bound_mul_two_pow (positive : 0 < bound) (fits : bound < wordCount) :
    wordCount ≤ 2 * (bound * 2 ^ leadingZeros bound) ∧
      bound * 2 ^ leadingZeros bound < wordCount := by
  have size : wordCount = 2 ^ 64 := rfl
  have log : bound.log2 ≤ 63 := by
    have := (Nat.log2_lt positive.ne').mpr (size ▸ fits)
    omega
  have lz : leadingZeros bound = 63 - bound.log2 := if_neg positive.ne'
  have low : 2 ^ bound.log2 ≤ bound := Nat.log2_self_le positive.ne'
  have high : bound < 2 ^ (bound.log2 + 1) := Nat.lt_log2_self
  rw [lz, size]
  constructor
  · calc 2 ^ 64 = 2 * (2 ^ bound.log2 * 2 ^ (63 - bound.log2)) := by
          rw [← pow_add, Nat.add_sub_cancel' log, ← pow_succ']
      _ ≤ 2 * (bound * 2 ^ (63 - bound.log2)) :=
          Nat.mul_le_mul_left 2 (Nat.mul_le_mul_right _ low)
  · calc bound * 2 ^ (63 - bound.log2) < 2 ^ (bound.log2 + 1) * 2 ^ (63 - bound.log2) :=
          Nat.mul_lt_mul_of_pos_right high (Nat.two_pow_pos _)
      _ = 2 ^ 64 := by
          rw [← pow_add]
          congr 1
          omega

/-- The words for a number are those whose product with the bound lies in the lower part of a
stretch as long as the number of words. -/
theorem accept?_eq_some_iff (positive : 0 < bound) (fits : bound < wordCount) {word r : Nat} :
    accept? bound word = some r ↔ r * wordCount ≤ bound * word ∧
      bound * word < r * wordCount + bound * 2 ^ leadingZeros bound := by
  have room := (bound_mul_two_pow positive fits).2
  have some_room : 0 < bound * 2 ^ leadingZeros bound := Nat.mul_pos positive (Nat.two_pow_pos _)
  have zone_eq : zone bound = bound * 2 ^ leadingZeros bound - 1 := by
    rw [zone, Nat.shiftLeft_eq]
  have size : wordCount = 18446744073709551616 := rfl
  rw [accept?, zone_eq, Nat.mul_comm word, Option.ite_none_right_eq_some, Option.some.injEq]
  -- With the products as atoms, quotient and remainder by the number of words are linear.
  generalize bound * 2 ^ leadingZeros bound = part at *
  generalize bound * word = product at *
  rw [size] at *
  omega

theorem ceilDiv_add_mul {b : Nat} (positive : 0 < b) (a k : Nat) :
    (a + b * k) ⌈/⌉ b = a ⌈/⌉ b + k := by
  rw [Nat.ceilDiv_eq_add_pred_div, Nat.ceilDiv_eq_add_pred_div, ← Nat.add_mul_div_left _ _ positive]
  congr 1
  omega

theorem wordsFor_eq (positive : 0 < bound) (fits : bound < wordCount) {r : Nat}
    (below : r < bound) : wordsFor bound r = Finset.Ico (r * wordCount ⌈/⌉ bound)
      (r * wordCount ⌈/⌉ bound + 2 ^ leadingZeros bound) := by
  have below_iff (word : Nat) : word < r * wordCount ⌈/⌉ bound + 2 ^ leadingZeros bound ↔
      bound * word < r * wordCount + bound * 2 ^ leadingZeros bound := by
    rw [← ceilDiv_add_mul positive, ← Nat.not_le, ceilDiv_le_iff_le_mul positive, Nat.not_le]
  ext word
  rw [wordsFor, Finset.mem_filter, Finset.mem_range, Finset.mem_Ico, below_iff,
    ceilDiv_le_iff_le_mul positive, accept?_eq_some_iff positive fits, and_iff_right_of_imp]
  -- Nothing is lost by leaving out the upper limit of words: a product this low belongs to a word.
  rintro ⟨-, low⟩
  have room := (bound_mul_two_pow positive fits).2
  have last : (r + 1) * wordCount ≤ bound * wordCount := Nat.mul_le_mul_right _ below
  rw [Nat.succ_mul] at last
  exact Nat.lt_of_mul_lt_mul_left (low.trans (by omega))

/-- **Each number below the bound** has equally many words. -/
theorem card_wordsFor (positive : 0 < bound) (fits : bound < wordCount) {r : Nat}
    (below : r < bound) : (wordsFor bound r).card = 2 ^ leadingZeros bound := by
  rw [wordsFor_eq positive fits below, Nat.card_Ico, Nat.add_sub_cancel_left]

theorem accepted_eq (positive : 0 < bound) :
    accepted bound = (Finset.range bound).biUnion (wordsFor bound) := by
  ext word
  simp only [accepted, wordsFor, Finset.mem_filter, Finset.mem_biUnion, Finset.mem_range,
    Option.isSome_iff_exists]
  constructor
  · rintro ⟨inside, r, gives⟩
    exact ⟨r, lt_of_accept? positive inside gives, inside, gives⟩
  · rintro ⟨r, -, inside, gives⟩
    exact ⟨inside, r, gives⟩

theorem card_accepted (positive : 0 < bound) (fits : bound < wordCount) :
    (accepted bound).card = bound * 2 ^ leadingZeros bound := by
  have apart : Set.PairwiseDisjoint (Finset.range bound) (wordsFor bound) := by
    intro r _ r' _ differ
    refine Finset.disjoint_left.mpr fun word gives gives' => differ ?_
    have gives := (Finset.mem_filter.mp gives).2
    rw [(Finset.mem_filter.mp gives').2] at gives
    exact (Option.some.inj gives).symm
  have even : ∀ r ∈ Finset.range bound, (wordsFor bound r).card = 2 ^ leadingZeros bound :=
    fun r hr => card_wordsFor positive fits (Finset.mem_range.mp hr)
  rw [accepted_eq positive, Finset.card_biUnion apart, Finset.sum_congr rfl even,
    Finset.sum_const, Finset.card_range, smul_eq_mul]

/-! ## Words one after the other -/

/-- The number of the first word that is not refused. -/
def first? (bound : Nat) (words : List Nat) : Option Nat := words.findSome? (accept? bound)

/-- The rows of words whose first word that is not refused gives a number. -/
def rowsFor (bound tries r : Nat) : Finset (Fin tries → Fin wordCount) :=
  Finset.univ.filter fun words => first? bound (List.ofFn fun i => (words i).val) = some r

theorem first?_cons (word : Nat) (words : List Nat) :
    first? bound (word :: words) = (accept? bound word).or (first? bound words) := by
  rw [first?, List.findSome?_cons]
  cases accept? bound word <;> rfl

theorem card_words (p : Nat → Prop) [DecidablePred p] :
    (Finset.univ.filter fun word : Fin wordCount => p word).card =
      ((Finset.range wordCount).filter p).card := by
  rw [Finset.card_filter, Finset.card_filter, Finset.sum_range]

/-- All rows begin well, none does, or as many as there are shorter rows for the number. -/
theorem card_rowsFor_cons (tries r : Nat) (word : Fin wordCount) :
    (∑ words : Fin tries → Fin wordCount,
      if first? bound (word.val :: List.ofFn fun i => (words i).val) = some r then 1 else 0) =
    (if accept? bound word = some r then wordCount ^ tries else 0) +
      if accept? bound word = none then (rowsFor bound tries r).card else 0 := by
  simp only [first?_cons]
  cases gives : accept? bound word with
  | none =>
    simp only [Option.none_or, reduceCtorEq, if_true, if_false, Nat.zero_add]
    exact (Finset.card_filter ..).symm
  | some r' => by_cases same : r' = r <;> simp [same]

theorem card_rowsFor_succ (tries r : Nat) : (rowsFor bound (tries + 1) r).card =
    (wordsFor bound r).card * wordCount ^ tries +
      (refused bound).card * (rowsFor bound tries r).card := by
  have numbered := card_words fun word => accept? bound word = some r
  have unnumbered := card_words fun word => accept? bound word = none
  calc (rowsFor bound (tries + 1) r).card
      = ∑ words : Fin (tries + 1) → Fin wordCount,
          if first? bound (List.ofFn fun i => (words i).val) = some r then 1 else 0 :=
        Finset.card_filter ..
    _ = ∑ word : Fin wordCount, ∑ words : Fin tries → Fin wordCount,
          if first? bound (word.val :: List.ofFn fun i => (words i).val) = some r
            then 1 else 0 := by
        rw [← (Fin.consEquiv fun _ => Fin wordCount).sum_comp, Fintype.sum_prod_type]
        simp [Fin.consEquiv, List.ofFn_succ]
    _ = ∑ word : Fin wordCount, ((if accept? bound word = some r then wordCount ^ tries else 0) +
          if accept? bound word = none then (rowsFor bound tries r).card else 0) :=
        Finset.sum_congr rfl fun word _ => card_rowsFor_cons tries r word
    _ = _ := by
        rw [Finset.sum_add_distrib, ← Finset.sum_filter, ← Finset.sum_filter, Finset.sum_const,
          Finset.sum_const, numbered, unnumbered, smul_eq_mul, smul_eq_mul, wordsFor, refused]

/-- **Rows of words** are as many for one number as for another. -/
theorem card_rowsFor_eq (positive : 0 < bound) (fits : bound < wordCount) (tries : Nat)
    {r r' : Nat} (hr : r < bound) (hr' : r' < bound) :
    (rowsFor bound tries r).card = (rowsFor bound tries r').card := by
  induction tries with
  | zero => simp [rowsFor, first?]
  | succ tries ih =>
    rw [card_rowsFor_succ, card_rowsFor_succ, ih, card_wordsFor positive fits hr,
      card_wordsFor positive fits hr']

/-- The rows of words that are all refused. -/
def refusedRows (bound tries : Nat) : Finset (Fin tries → Fin wordCount) :=
  Finset.univ.filter fun words => first? bound (List.ofFn fun i => (words i).val) = none

theorem card_refusedRows (bound tries : Nat) :
    (refusedRows bound tries).card = (refused bound).card ^ tries := by
  have each : refusedRows bound tries =
      Fintype.piFinset fun _ => Finset.univ.filter fun word => accept? bound word.val = none := by
    ext words
    simp [refusedRows, first?, List.findSome?_eq_none_iff]
  rw [each, Fintype.card_piFinset, Finset.prod_const, Finset.card_fin,
    card_words fun word => accept? bound word = none, refused]

theorem two_mul_card_refused_le (positive : 0 < bound) (fits : bound < wordCount) :
    2 * (refused bound).card ≤ wordCount := by
  have parts : (refused bound).card + (accepted bound).card = wordCount := by
    have all := Finset.card_filter_add_card_filter_not (s := Finset.range wordCount)
      fun word => accept? bound word = none
    simpa only [Finset.card_range, ← ne_eq, Option.ne_none_iff_isSome, refused, accepted] using all
  have half := (bound_mul_two_pow positive fits).1
  rw [card_accepted positive fits] at parts
  omega

/-- **A row of refused words** is one of `2 ^ tries` rows, at most. -/
theorem two_pow_mul_card_refusedRows_le (positive : 0 < bound) (fits : bound < wordCount)
    (tries : Nat) : 2 ^ tries * (refusedRows bound tries).card ≤ wordCount ^ tries := by
  rw [card_refusedRows, ← Nat.mul_pow]
  exact Nat.pow_le_pow_left (two_mul_card_refused_le positive fits) tries

theorem lt_of_first? (positive : 0 < bound) {words : List Nat} (small : ∀ word ∈ words,
    word < wordCount) {r : Nat} (gives : first? bound words = some r) : r < bound := by
  obtain ⟨word, inside, gives⟩ := List.exists_of_findSome?_eq_some gives
  exact lt_of_accept? positive (small word inside) gives

end Uniform

namespace Stream

/-- The stream so many words further on. -/
def skip (s : Stream) (n : Nat) : Stream := { s with drawn := s.drawn + n }

/-- The next words of a stream. -/
def upcoming (s : Stream) : Nat → List Nat
  | 0 => []
  | tries + 1 => s.next.1.toNat :: s.next.2.upcoming tries

theorem lt_of_mem_upcoming {tries word : Nat} {s : Stream} (h : word ∈ s.upcoming tries) :
    word < Uniform.wordCount := by
  induction tries generalizing s with
  | zero => exact absurd h List.not_mem_nil
  | succ tries ih =>
    rcases List.mem_cons.mp h with rfl | later
    · exact UInt64.toNat_lt _
    · exact ih later

/-- **A draw** ends at the first word that is not refused. -/
theorem draw_of_upcoming {bound n r : Nat} {s : Stream}
    (refused : Uniform.first? bound (s.upcoming n) = none)
    (gives : Uniform.first? bound (s.upcoming (n + 1)) = some r) :
    draw bound s = (r, s.skip (n + 1)) := by
  induction n generalizing s with
  | zero =>
    rw [upcoming, upcoming, Uniform.first?_cons, Uniform.first?, List.findSome?_nil,
      Option.or_none] at gives
    exact draw_of_accepted gives
  | succ n ih =>
    rw [upcoming, Uniform.first?_cons, Option.or_eq_none_iff] at refused
    rw [upcoming, Uniform.first?_cons, refused.1, Option.none_or] at gives
    rw [draw_of_refused refused.1, ih refused.2 gives]
    simp only [skip, next, Nat.add_assoc, Nat.add_comm 1]

end Stream

namespace Uniform

/-- **Draws are even.** Each number comes of equally many words and of equally many rows of words,
few rows are refused as a whole, and a stream draws the number of its first word that is not
refused. -/
theorem draws_evenly {bound : Nat} (positive : 0 < bound) (fits : bound < wordCount) :
    (∀ r < bound, (wordsFor bound r).card = 2 ^ leadingZeros bound) ∧
    (∀ word < wordCount, ∀ r, accept? bound word = some r → r < bound) ∧
    wordCount ≤ 2 * (accepted bound).card ∧
    (∀ tries, ∀ r < bound, ∀ r' < bound,
      (rowsFor bound tries r).card = (rowsFor bound tries r').card) ∧
    (∀ tries, 2 ^ tries * (refusedRows bound tries).card ≤ wordCount ^ tries) ∧
    ∀ (s : Stream) (n r : Nat), first? bound (s.upcoming n) = none →
      first? bound (s.upcoming (n + 1)) = some r →
        r < bound ∧ RandomSource.below s bound = (r, s.skip (n + 1)) := by
  refine ⟨fun r below => card_wordsFor positive fits below,
    fun word inside r gives => lt_of_accept? positive inside gives, ?_,
    fun tries r hr r' hr' => card_rowsFor_eq positive fits tries hr hr',
    two_pow_mul_card_refusedRows_le positive fits, fun s n r refused gives => ⟨?_, ?_⟩⟩
  · rw [card_accepted positive fits]
    exact (bound_mul_two_pow positive fits).1
  · exact lt_of_first? positive (fun word => Stream.lt_of_mem_upcoming) gives
  · exact Stream.draw_of_upcoming refused gives

/-- Draws below three from a stream whose first two words are refused. -/
theorem draws_evenly_three :
    let s := Stream.ofSeed 294
    (first? 3 (s.upcoming 2) = none ∧ first? 3 (s.upcoming 3) = some 2) ∧
    (wordsFor 3 2).card = 2 ^ 62 ∧ wordCount ≤ 2 * (accepted 3).card ∧
      (rowsFor 3 10 0).card = (rowsFor 3 10 2).card ∧
      2 ^ 10 * (refusedRows 3 10).card ≤ wordCount ^ 10 ∧
      RandomSource.below s 3 = (2, s.skip 3) := by
  intro s
  have words : first? 3 (s.upcoming 2) = none ∧ first? 3 (s.upcoming 3) = some 2 := by
    decide +kernel
  obtain ⟨three, -, half, even, few, draw⟩ := @draws_evenly 3 (by decide) (by decide)
  exact ⟨words, three 2 (by decide), half, even 10 0 (by decide) 2 (by decide), few 10,
    (draw s 2 2 words.1 words.2).2⟩

end Uniform

end MazeChase
