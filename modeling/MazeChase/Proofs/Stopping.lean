import Mathlib.Order.Bounds.Defs
import MazeChase.Proofs.Session

/-!
# Stopping at the outcome

A session looks at the outcome when a round is over and all that the round told is in the tally. So
a session that stops at an outcome plays the first rounds of the session that does not, and it ends
with the round that decides the game.

* `Options.unstopped`: the same options for a session that does not stop before its last tick;
* `State.course_isPrefix`, **`State.play_eq_play`**: its rounds, and those of a session that may
  stop;
* `State.outcome_of_lt`, `State.outcome_play_of_lt`: when a session stops;
* **`stopped_session`**.
-/

set_option autoImplicit false

namespace MazeChase.Session

/-- The options of a session that plays so many ticks, whatever happens. -/
def Options.unstopped (o : Options) (ticks : Nat) : Options := ⟨ticks, o.chaseAt, false⟩

variable {σ μ : Type} [RandomSource σ] [ModeSource μ] (o : Options)

namespace State

/-! ## The rounds of a session -/

theorem course_unstopped (k n : Nat) (s : State σ μ) :
    s.course (o.unstopped k) (n + 1) = s :: (s.round o).course (o.unstopped k) n := rfl

theorem play_unstopped (k n : Nat) (s : State σ μ) :
    s.play (o.unstopped k) (n + 1) = (s.round o).play (o.unstopped k) n := rfl

theorem course_isPrefix (k n : Nat) (s : State σ μ) :
    s.course o n <+: s.course (o.unstopped k) n := by
  induction n generalizing s with
  | zero => exact List.prefix_refl _
  | succ n ih =>
    rw [course, course_unstopped, List.cons_prefix_cons]
    refine ⟨rfl, ?_⟩
    split
    · exact List.nil_prefix
    · exact ih (s.round o)

/-- **Where it ends,** the session that does not stop is after as many rounds. -/
theorem play_eq_play (k n : Nat) (s : State σ μ) :
    s.play o n = s.play (o.unstopped k) (s.course o n).length := by
  induction n generalizing s with
  | zero => rfl
  | succ n ih =>
    rw [course, List.length_cons, play_unstopped, play]
    split
    · rfl
    · exact ih (s.round o)

variable {o}

theorem outcome_of_lt (stop : o.stopOnOutcome = true) {i n : Nat} {s : State σ μ} (k : Nat)
    (start : s.world.outcome = none) (early : i < (s.course o n).length) :
    (s.play (o.unstopped k) i).world.outcome = none := by
  induction n generalizing i s with
  | zero => exact absurd early (Nat.not_lt_zero i)
  | succ n ih =>
    cases i with
    | zero => exact start
    | succ i =>
      rw [course, List.length_cons, stop, Bool.true_and] at early
      rw [play_unstopped]
      cases next : (s.round o).world.outcome with
      | none =>
        rw [next, if_neg (by simp)] at early
        exact ih next (Nat.lt_of_succ_lt_succ early)
      | some outcome =>
        rw [next] at early
        exact absurd early (by simp)

theorem outcome_play_of_lt {n : Nat} {s : State σ μ} (early : (s.course o n).length < n) :
    (s.play o n).world.outcome ≠ none := by
  induction n generalizing s with
  | zero => exact absurd early (Nat.not_lt_zero _)
  | succ n ih =>
    rw [course, List.length_cons] at early
    rw [play]
    by_cases stop : (o.stopOnOutcome && (s.round o).world.outcome.isSome) = true
    · rw [if_pos stop]
      exact Option.isSome_iff_ne_none.mp (Bool.and_eq_true_iff.mp stop).2
    · rw [if_neg stop] at early ⊢
      exact ih (Nat.lt_of_succ_lt_succ early)

end State

/-- **Stopping at the outcome** cuts a session short at the first round after which there is one,
and changes nothing before. -/
theorem stopped_session {config : Config} {maze : Maze} {modes : ModeControl μ}
    {sources : Roster σ} {w : World σ μ} (new : World.new? config maze modes sources = .ok w)
    (moves : List Direction) (chaseAt : Option Nat) {n : Nat} (short : n < UInt64.size) :
    let stopped := simulate w moves ⟨n, chaseAt, true⟩
    let whole (k : Nat) := simulate w moves ⟨k, chaseAt, false⟩
    (State.start w moves).course ⟨n, chaseAt, true⟩ n <+:
      (State.start w moves).course ⟨n, chaseAt, false⟩ n ∧
    whole stopped.ticks = stopped ∧
    (IsLeast {k | (1 ≤ k ∧ k ≤ n) ∧ (whole k).outcome ≠ none} stopped.ticks ∨
      stopped.ticks = n ∧ ∀ k ≤ n, (whole k).outcome = none) := by
  intro stopped whole
  obtain ⟨_, start_eq⟩ := World.new?_eq_ok_iff.mp new
  let s := State.start w moves
  let o : Options := ⟨n, chaseAt, true⟩
  have undecided : s.world.outcome = none := by
    change w.outcome = none
    rw [start_eq, World.start]
  have ticks : stopped.ticks = (s.course o n).length := by
    have first : Progress w moves 0 [] [] s :=
      .start (by rw [start_eq, World.start]) (by rw [start_eq, World.start])
    have few : 0 + n ≤ maxTick := (Nat.zero_add n).trans_le (Nat.le_sub_one_of_lt short)
    exact (first.play o few).1.clock.trans (Nat.zero_add _)
  have most : stopped.ticks ≤ n := ticks ▸ State.length_course_le ..
  have last : whole stopped.ticks = stopped := by
    have played : s.play (o.unstopped stopped.ticks) stopped.ticks = s.play o n := by
      rw [State.play_eq_play o stopped.ticks, ticks]
    exact congrArg State.summary played
  have before (k : Nat) (early : k < stopped.ticks) : (whole k).outcome = none :=
    State.outcome_of_lt (o := o) rfl k undecided (ticks ▸ early)
  refine ⟨State.course_isPrefix o n n s, last, ?_⟩
  by_cases decided : stopped.outcome = none
  · -- Nothing is decided, so all ticks have been played.
    have all : stopped.ticks = n := by
      refine Nat.le_antisymm most (Nat.le_of_not_lt fun early => ?_)
      exact State.outcome_play_of_lt (ticks ▸ early) decided
    refine .inr ⟨all, fun k within => ?_⟩
    rcases Nat.lt_or_eq_of_le within with early | rfl
    · exact before k (all ▸ early)
    · rw [← all, last]
      exact decided
  · have done : (whole stopped.ticks).outcome ≠ none := by
      rw [last]
      exact decided
    refine .inl ⟨⟨⟨?_, most⟩, done⟩, fun k decisive => ?_⟩
    · -- A session of no ticks has no outcome.
      refine Nat.pos_of_ne_zero fun zero => done ?_
      rw [zero]
      exact undecided
    · exact Nat.le_of_not_lt fun early => decisive.2 (before k early)

/-- The player takes the only pellet in the third update, and of nine ticks five are played. -/
theorem stopped_session_onePellet :
    let config : Config := { updatePeriod := 2 }
    let maze : Maze := ⟨.empty, Pellets.empty.add ⟨23, 12⟩⟩
    let sources : Roster Listed := .ofFn fun _ => ⟨[]⟩
    let w : World Listed Empty := World.start config maze (.bundled default) sources
    let moves : List Direction := [.right, .left, .left, .up]
    let stopped := simulate w moves ⟨9, some 3, true⟩
    let whole (k : Nat) := simulate w moves ⟨k, some 3, false⟩
    (World.new? config maze (.bundled default) sources = .ok w ∧ 9 < UInt64.size) ∧
    stopped.ticks = 5 ∧ stopped.outcome = some .won ∧ whole 5 = stopped ∧
    IsLeast {k | (1 ≤ k ∧ k ≤ 9) ∧ (whole k).outcome ≠ none} 5 := by
  intro config maze sources w moves stopped whole
  have new : World.new? config maze (.bundled default) sources = .ok w :=
    World.new?_eq_ok_iff.mpr ⟨by decide, rfl⟩
  have short : 9 < UInt64.size := by decide
  obtain ⟨ticks, won⟩ : stopped.ticks = 5 ∧ stopped.outcome = some .won := by decide +kernel
  obtain ⟨_, last, first⟩ := stopped_session new moves (some 3) short
  have last : whole stopped.ticks = stopped := last
  have first : IsLeast {k | (1 ≤ k ∧ k ≤ 9) ∧ (whole k).outcome ≠ none} stopped.ticks :=
    first.resolve_right fun none => absurd (ticks.symm.trans none.1) (by decide)
  rw [ticks] at last first
  exact ⟨⟨new, short⟩, ticks, won, last, first⟩

end MazeChase.Session
