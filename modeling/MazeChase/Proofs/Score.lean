import Mathlib.Algebra.BigOperators.Group.List.Basic
import Mathlib.Algebra.Ring.Nat
import MazeChase.Proofs.Books

/-!
# The score over a whole game

Points are given for pellets and for eaten ghosts, and both are told. The score is the sum of all
points, or the largest score if the sum is larger: it does not matter that the score stops there
each time points are added.

* `Event.worth`: the points that come with an event; `Event.Scores`: the events that come with some;
* **`Books.History.score_eq`**: the score that a history leads to;
* `Books.History.points_eq`: every ghost is worth the same;
* **`World.score_eq_sum`**: the score in a new game.
-/

set_option autoImplicit false

namespace MazeChase

/-- The points that come with the event. -/
def Event.worth (config : Config) : Event → Nat
  | .pelletCollected _ isSuper _ => config.pelletWorth isSuper
  | .ghostEaten _ points => points
  | _ => 0

/-- A pellet was taken or a ghost eaten. -/
def Event.Scores (e : Event) : Prop :=
  (∃ c isSuper remaining, e = .pelletCollected c isSuper remaining) ∨
    ∃ color points, e = .ghostEaten color points

theorem Event.worth_of_not_scores {e : Event} (h : ¬ e.Scores) (config : Config) :
    e.worth config = 0 := by
  cases e with
  | pelletCollected c isSuper remaining => exact absurd (.inl ⟨c, isSuper, remaining, rfl⟩) h
  | ghostEaten color points => exact absurd (.inr ⟨color, points, rfl⟩) h
  | _ => rfl

theorem Event.not_scores_of_plain {e : Event} (plain : e.IsBooked = false) : ¬ e.Scores := by
  rintro (⟨_, _, _, rfl⟩ | ⟨_, _, rfl⟩) <;> exact absurd plain (by simp [IsBooked])

/-- The points that come with the events. -/
def totalWorth (config : Config) (told : List Event) : Nat := (told.map (Event.worth config)).sum

theorem totalWorth_append (config : Config) (told more : List Event) :
    totalWorth config (told ++ more) = totalWorth config told + totalWorth config more := by
  rw [totalWorth, List.map_append, List.sum_append, totalWorth, totalWorth]

theorem totalWorth_eq_zero {told : List Event} (none : ∀ e ∈ told, ¬ e.Scores) (config : Config) :
    totalWorth config told = 0 := by
  refine List.sum_eq_zero fun n hn => ?_
  obtain ⟨e, he, rfl⟩ := List.mem_map.mp hn
  exact Event.worth_of_not_scores (none e he) config

namespace Books

variable {config : Config} {b b' : Books} {told : List Event}

theorem totalWorth_pelletTold (config : Config) (c : Cell) (remaining : Nat) :
    totalWorth config (pelletTold config c remaining) = config.pelletWorth c.IsPowerCorner := by
  unfold pelletTold
  split <;> split <;> rfl

theorem Entry.score_eq (h : Entry config b told b') (small : b.score ≤ maxScore) :
    b'.score = min (b.score + totalWorth config told) maxScore := by
  cases h with
  | moved => exact (Nat.min_eq_left small).symm
  | pellet => rw [totalWorth_pelletTold]; rfl
  | ghost => rfl
  | caught => exact (Nat.min_eq_left small).symm

/-- **The score of a history** may be cut off at the largest one in the end. -/
theorem History.score_eq (h : History config b told b') (small : b.score ≤ maxScore) :
    b'.score = min (b.score + totalWorth config told) maxScore := by
  induction h with
  | nil => exact (Nat.min_eq_left small).symm
  | @aside _ _ e _ plain ih =>
    have silent : totalWorth config [e] = 0 := by
      refine totalWorth_eq_zero (fun e' he => ?_) config
      rw [List.mem_singleton.mp he]
      exact Event.not_scores_of_plain plain
    rw [totalWorth_append, silent, Nat.add_zero]
    exact ih
  | entry _ entry ih =>
    -- The score before the entry is at its largest value, or it is the sum so far.
    rw [entry.score_eq (by omega), ih, totalWorth_append]
    omega

theorem History.points_eq (h : History config b told b') {color : Color} {points : Nat}
    (eaten : .ghostEaten color points ∈ told) : points = config.ghostEatPoints.toNat := by
  induction h with
  | nil => exact absurd eaten List.not_mem_nil
  | aside _ plain ih =>
    rcases List.mem_append.mp eaten with eaten | last
    · exact ih eaten
    · exact absurd last (Event.notMem_of_plain plain rfl)
  | entry _ entry ih =>
    rcases List.mem_append.mp eaten with eaten | last
    · exact ih eaten
    cases entry with
    | moved => exact absurd last (by simp)
    | pellet => rcases mem_pelletTold last with other | ⟨_, other⟩ | other <;> simp at other
    | ghost => exact (Event.ghostEaten.inj (List.mem_singleton.mp last)).2
    | caught => exact absurd last (by simp)

end Books

namespace World

variable {σ μ : Type} [RandomSource σ] [ModeSource μ]

theorem score_apply {w : World σ μ} (small : w.score ≤ maxScore) (command : Command) :
    (apply command w).1.score = min (w.score + totalWorth w.config (apply command w).2) maxScore :=
  (recorded.apply command w).2.score_eq small

theorem not_scores_of_ne_tick {w : World σ μ} {command : Command} (other : command ≠ .tick) :
    ∀ e ∈ (apply command w).2, ¬ e.Scores := by
  cases command with
  | tick => exact absurd rfl other
  | movePlayer d => simp [apply]
  | setMode mode =>
    intro e he
    have topic := setMode_tells mode w e he
    rintro (⟨_, _, _, rfl⟩ | ⟨_, _, rfl⟩) <;> exact absurd topic (by simp [Event.topic])

/-- **The score is the sum of all points**, or the largest score if the sum is larger, and nothing
but pellets and ghosts changes it. -/
theorem score_eq_sum {config : Config} {maze : Maze} {modes : ModeControl μ} {sources : Roster σ}
    {w : World σ μ} (h : new? config maze modes sources = .ok w) (commands : List Command) :
    let v := (run commands w).1
    let log := (run commands w).2
    v.score = min (log.map (Event.worth config)).sum maxScore ∧
    (∀ color points, .ghostEaten color points ∈ log → points = config.ghostEatPoints.toNat) ∧
    (∀ command, (∀ e ∈ (apply command v).2, ¬ e.Scores) → (apply command v).1.score = v.score) ∧
    ∀ command, command ≠ .tick → (apply command v).1.score = v.score := by
  obtain ⟨_, rfl⟩ := new?_eq_ok_iff.mp h
  intro v log
  have history := history_run commands (start config maze modes sources)
  have score : v.score = min (totalWorth config log) maxScore := by
    have := history.score_eq (Nat.zero_le maxScore)
    rwa [books, books, start, Nat.zero_add] at this
  have small : v.score ≤ maxScore := by omega
  have silent : ∀ command, (∀ e ∈ (apply command v).2, ¬ e.Scores) →
      (apply command v).1.score = v.score := by
    intro command none
    rw [score_apply small, totalWorth_eq_zero none]
    omega
  exact ⟨score, fun _ _ eaten => history.points_eq eaten, silent,
    fun command other => silent command (not_scores_of_ne_tick other)⟩

/-- The first pellet fills the score, and the second one changes nothing. -/
theorem score_eq_sum_full :
    let config : Config := { updatePeriod := 1, pelletPoints := 4294967295 }
    let w : World Stream Empty := start config .classic (.bundled default)
      (seededStreams config.rngSeed)
    let commands : List Command := [.movePlayer .left, .tick, .movePlayer .left, .tick]
    seeded? config .classic = .ok w ∧
      ((run commands w).2.map (Event.worth config)).sum = 2 * maxScore ∧
      (run commands w).1.score = maxScore := by
  intro config w commands
  have new : seeded? config .classic = .ok w := new?_eq_ok_iff.mpr ⟨by decide, rfl⟩
  have sum : ((run commands w).2.map (Event.worth config)).sum = 2 * maxScore := by decide +kernel
  obtain ⟨score, _⟩ := score_eq_sum new commands
  rw [sum] at score
  exact ⟨new, sum, score.trans (by decide)⟩

end World

end MazeChase
