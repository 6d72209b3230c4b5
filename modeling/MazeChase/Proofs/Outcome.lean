import MazeChase.Proofs.Pellets

/-!
# How a game ends

Two events end a game: the last pellet is taken, or a ghost catches the player. Both can happen in
one update, in any order, and the world goes on afterwards, but the outcome stays what the first of
them made it.

* `Event.ending?`: the outcome that an event brings about, if it is the first of its kind;
* **`Books.History.outcome_eq`**: the outcome of a history is the first one that it tells of;
* `Books.Catches`, `Books.History.catches`: a lost game tells of one catch only;
* `Books.History.cleared`: the level is cleared once, with the last pellet;
* **`World.outcome_eq_first_ending`**: the outcome of a new game.
-/

set_option autoImplicit false

namespace MazeChase

namespace Event

/-- The outcome of a game that this event ends. -/
def ending? : Event → Option Outcome
  | .levelCleared => some .won
  | .playerCaught _ => some .lost
  | _ => none

/-- A ghost caught the player. -/
def isCatch : Event → Bool
  | .playerCaught _ => true
  | _ => false

variable {e : Event}

theorem ending?_of_plain (plain : e.IsBooked = false) : e.ending? = none := by
  cases e <;> first | rfl | exact absurd plain (by simp [IsBooked])

theorem isCatch_of_plain (plain : e.IsBooked = false) : e.isCatch = false := by
  cases e <;> first | rfl | exact absurd plain (by simp [IsBooked])

theorem levelCleared_mem_of_won {told : List Event} (h : told.findSome? ending? = some .won) :
    .levelCleared ∈ told := by
  obtain ⟨e, he, ending⟩ := List.exists_of_findSome?_eq_some h
  cases e with
  | levelCleared => exact he
  | _ => exact absurd ending (by simp [ending?])

end Event

namespace Books

variable {config : Config} {b b' : Books} {told : List Event}

/-! ## The outcome -/

theorem findSome?_pelletTold (config : Config) (c : Cell) (remaining : Nat) :
    (pelletTold config c remaining).findSome? Event.ending? =
      if remaining = 0 then some .won else none := by
  unfold pelletTold
  split <;> split <;> rfl

/-- **The outcome of a history** that starts without one is the first outcome that it tells of. -/
theorem History.outcome_eq (h : History config b told b') :
    b'.outcome = b.outcome.or (told.findSome? Event.ending?) := by
  induction h with
  | nil => simp
  | aside _ plain ih =>
    rw [List.findSome?_append, List.findSome?_singleton, Event.ending?_of_plain plain,
      Option.or_none]
    exact ih
  | entry _ entry ih =>
    rw [List.findSome?_append, ← Option.or_assoc, ← ih]
    cases entry with
    | moved => simp [Event.ending?]
    | @pellet rest take =>
      rw [findSome?_pelletTold, fed]
      split <;> simp
    | ghost => simp [Event.ending?]
    | caught => simp [Event.ending?]

/-! ## Catches -/

theorem countP_isCatch_pelletTold (config : Config) (c : Cell) (remaining : Nat) :
    (pelletTold config c remaining).countP Event.isCatch = 0 := by
  unfold pelletTold
  split <;> split <;> rfl

/-- With this outcome, the game may have told of that many catches: of none if it goes on, and of
one if it is lost. -/
structure Catches (outcome : Option Outcome) (n : Nat) : Prop where
  running : outcome = none → n = 0
  lost : outcome = some .lost → n = 1

theorem Catches.won {outcome : Option Outcome} {n : Nat} (h : Catches outcome n) :
    Catches (outcome.or (some .won)) n := by
  cases outcome with
  | none => exact ⟨by simp, by simp⟩
  | some o => exact h

theorem Catches.caught {outcome : Option Outcome} {n : Nat} (h : Catches outcome n)
    (running : outcome ≠ some .lost) : Catches (outcome.or (some .lost)) (n + 1) := by
  cases outcome with
  | none =>
    have := h.running rfl
    exact ⟨by simp, by simp [this]⟩
  | some o =>
    refine ⟨by simp, fun lost => absurd ?_ running⟩
    rw [← lost]
    rfl

theorem History.catches (h : History config b told b') (running : b.outcome = none) :
    Catches b'.outcome (told.countP Event.isCatch) := by
  induction h with
  | nil => exact ⟨fun _ => rfl, by simp [running]⟩
  | aside _ plain ih =>
    rw [List.countP_append, List.countP_singleton, Event.isCatch_of_plain plain]
    exact ih
  | entry _ entry ih =>
    rw [List.countP_append]
    cases entry with
    | moved => exact ih
    | pellet =>
      rw [countP_isCatch_pelletTold, fed]
      split
      · exact ih.won
      · exact ih
    | ghost => exact ih
    | caught _ running => exact ih.caught running

/-! ## The last pellet -/

theorem count_levelCleared_pelletTold (config : Config) (c : Cell) (remaining : Nat) :
    (pelletTold config c remaining).count .levelCleared = if remaining = 0 then 1 else 0 := by
  unfold pelletTold
  split <;> split <;> rfl

/-- **The level is cleared** once, by the pellet that leaves none. -/
theorem History.cleared (h : History config b told b') (counted : b.pellets.Counted) :
    told.count .levelCleared =
      if 0 < b.pellets.count ∧ b'.pellets.count = 0 then 1 else 0 := by
  induction h with
  | nil => rw [List.count_nil, if_neg (by omega)]
  | @aside _ _ e _ plain ih =>
    have silent : [e].count .levelCleared = 0 :=
      List.count_eq_zero.mpr (Event.notMem_of_plain plain rfl)
    rw [List.count_append, ih, silent, Nat.add_zero]
  | entry earlier entry ih =>
    rw [List.count_append, ih]
    cases entry with
    | moved => rfl
    | @pellet rest take =>
      -- A pellet was left until now, so the level has not been cleared before.
      have before := (earlier.balanced counted).count
      have taken := ((earlier.balanced counted).counted.take take).2
      rw [count_levelCleared_pelletTold, if_neg (by omega), Nat.zero_add]
      have start : 0 < b.pellets.count := by omega
      simp only [fed, start, true_and]
    | ghost => rfl
    | caught => rfl

end Books

namespace World

variable {σ μ : Type} [RandomSource σ] [ModeSource μ]

/-- **The outcome is the first ending that the log tells of**, and it stays. There is none without
one, and the level is cleared once at most. -/
theorem outcome_eq_first_ending {rows : List String} {config : Config} {maze : Maze}
    {modes : ModeControl μ} {sources : Roster σ} {w : World σ μ}
    (drawn : Maze.ofRows rows = .ok maze) (h : new? config maze modes sources = .ok w)
    (commands : List Command) :
    let v := (run commands w).1
    let log := (run commands w).2
    (v.outcome = none ↔ .levelCleared ∉ log ∧ ∀ color, .playerCaught color ∉ log) ∧
    v.outcome = log.findSome? Event.ending? ∧
    (∀ o more, v.outcome = some o → (run (commands ++ more) w).1.outcome = some o) ∧
    (v.outcome = some .lost → log.countP Event.isCatch = 1) ∧
    log.count .levelCleared ≤ 1 ∧
    (.levelCleared ∈ log ↔ 0 < maze.pellets.count ∧ v.pellets.count = 0) := by
  obtain ⟨_, rfl⟩ := new?_eq_ok_iff.mp h
  intro v log
  have counted : maze.pellets.Counted := Maze.counted_of_ofRows drawn
  have history := history_run commands (start config maze modes sources)
  have outcome : v.outcome = log.findSome? Event.ending? := history.outcome_eq
  have cleared : log.count .levelCleared =
      if 0 < maze.pellets.count ∧ v.pellets.count = 0 then 1 else 0 := history.cleared counted
  refine ⟨?_, outcome, ?_, (history.catches rfl).lost, ?_, ?_⟩
  · rw [outcome, List.findSome?_eq_none_iff]
    constructor
    · intro none
      exact ⟨fun told => absurd (none _ told) (by simp [Event.ending?]),
        fun _ told => absurd (none _ told) (by simp [Event.ending?])⟩
    · rintro ⟨never, nobody⟩ e he
      cases e with
      | levelCleared => exact absurd he never
      | playerCaught color => exact absurd he (nobody color)
      | _ => rfl
  · intro o more decided
    rw [run_append]
    exact (outcome_invariant o).run more v decided
  · rw [cleared]
    split <;> omega
  · rw [← List.count_pos_iff, cleared]
    split
    · simp only [*, and_self, Nat.one_pos]
    · simp only [*, Nat.lt_irrefl]

/-- A player that stands still is caught by red. -/
theorem outcome_eq_first_ending_at_rest :
    let w : World Stream Empty := start { updatePeriod := 1 } .classic (.bundled default)
      (seededStreams ({} : Config).rngSeed)
    let commands : List Command := .setMode .chase :: List.replicate 21 .tick
    Maze.ofRows Maze.classicRows = .ok .classic ∧ seeded? { updatePeriod := 1 } .classic = .ok w ∧
      .playerCaught .red ∈ (run commands w).2 ∧ (run commands w).1.outcome = some .lost ∧
      (run commands w).2.countP Event.isCatch = 1 ∧
      ∀ more, (run (commands ++ more) w).1.outcome = some .lost := by
  intro w commands
  have new : seeded? { updatePeriod := 1 } .classic = .ok w := new?_eq_ok_iff.mpr ⟨by decide, rfl⟩
  have caught : .playerCaught .red ∈ (run commands w).2 ∧
      (run commands w).1.outcome = some .lost := by decide +kernel
  obtain ⟨_, _, stays, once, _⟩ :=
    outcome_eq_first_ending Maze.ofRows_classicRows new commands
  exact ⟨Maze.ofRows_classicRows, new, caught.1, caught.2, once caught.2,
    fun more => stays .lost more caught.2⟩

end World

end MazeChase
