import MazeChase.Proofs.Run

/-!
# What an update checks and tells

An update looks for collisions three times: when the player has turned, when it has stepped ahead,
and when the ghosts have moved. All that it tells comes from the plans, from these checks, and from
the step between them.

* `World.turned`, `World.stepped`, `World.moved`: the worlds at the checks; `World.CheckedAt`;
* `World.makeQueuedMove_of_some`: the queued move, with its checks;
* `World.CheckedAt.mem_update`, `World.CheckedAt.outcome_update`: what a check finds, the update
  tells and keeps;
* `World.Told`, **`World.told_of_mem_update`**: all that an update can tell.
-/

set_option autoImplicit false

namespace MazeChase.World

variable {σ μ : Type} [RandomSource σ] [ModeSource μ]

/-! ## The checks of an update -/

/-- The world at the first check: the plans are made and the player has turned. -/
def turned (w : World σ μ) (d : Direction) : World σ μ :=
  { w.ready with queued := none, player := w.player.facing d }

/-- The world at the second check: the player has stepped ahead. -/
def stepped (w : World σ μ) (d : Direction) : World σ μ := (enter (collide (w.turned d)).1).1

/-- The worlds in which an update looks for collisions. -/
inductive CheckedAt (w : World σ μ) : World σ μ → Prop
  | beforeStep {d : Direction} (queued : w.queued = some d) : CheckedAt w (w.turned d)
  | afterStep {d : Direction} (queued : w.queued = some d)
      (way : w.maze.wallAt (w.player.facing d).advanced.cell = false) : CheckedAt w (w.stepped d)
  | afterMoves : CheckedAt w w.moved

/-- The queued move: a check, and the step with its own check. -/
theorem makeQueuedMove_of_some {w : World σ μ} {d : Direction} (queued : w.queued = some d) :
    makeQueuedMove w.ready = ((step (collide (w.turned d)).1).1,
      (collide (w.turned d)).2 ++ (step (collide (w.turned d)).1).2) := by
  have queued : w.ready.queued = some d := queued
  have turn : { ({ w.ready with queued := none } : World σ μ) with
      player := w.ready.player.facing d } = w.turned d := rfl
  refine Prod.ext ?_ ?_
  · simp only [makeQueuedMove, queued, movePlayer, Phase.fst_andThen, Phase.change_apply, turn]
  · simp only [makeQueuedMove, queued, movePlayer, Phase.fst_andThen, Phase.snd_andThen,
      Phase.change_apply, List.nil_append, turn]

theorem makeQueuedMove_of_none {w : World σ μ} (queued : w.queued = none) :
    makeQueuedMove w.ready = (w.ready, []) := by
  have queued : w.ready.queued = none := queued
  simp only [makeQueuedMove, queued]

theorem wallAt_ahead_collide_turned (w : World σ μ) (d : Direction) :
    (collide (w.turned d)).1.maze.wallAt (collide (w.turned d)).1.player.advanced.cell =
      w.maze.wallAt (w.player.facing d).advanced.cell := by
  rw [maze_collide, player_collide]
  rfl

theorem step_turned_of_wall {w : World σ μ} {d : Direction}
    (wall : w.maze.wallAt (w.player.facing d).advanced.cell = true) :
    step (collide (w.turned d)).1 = ((collide (w.turned d)).1, [.playerBlocked d]) := by
  have heading : (collide (w.turned d)).1.player.heading = d := by rw [player_collide]; rfl
  rw [step_of_wall ((wallAt_ahead_collide_turned w d).trans wall), heading]

theorem step_turned_of_open {w : World σ μ} {d : Direction}
    (way : w.maze.wallAt (w.player.facing d).advanced.cell = false) :
    step (collide (w.turned d)).1 = ((collide (w.stepped d)).1,
      (enter (collide (w.turned d)).1).2 ++ (collide (w.stepped d)).2) := by
  rw [step_of_open ((wallAt_ahead_collide_turned w d).trans way), stepped]
  refine Prod.ext ?_ ?_
  · simp only [Phase.fst_andThen]
  · simp only [Phase.snd_andThen]

theorem CheckedAt.mem_update {w v : World σ μ} (h : w.CheckedAt v) {e : Event}
    (he : e ∈ (collide v).2) : e ∈ (update w).2 := by
  simp only [update_apply, List.mem_append]
  cases h with
  | beforeStep queued =>
    refine .inl (.inr ?_)
    simp only [makeQueuedMove_of_some queued]
    exact List.mem_append_left _ he
  | afterStep queued way =>
    refine .inl (.inr ?_)
    simp only [makeQueuedMove_of_some queued, step_turned_of_open way]
    exact List.mem_append_right _ (List.mem_append_right _ he)
  | afterMoves => exact .inr he

theorem CheckedAt.outcome_update {w v : World σ μ} (h : w.CheckedAt v) {o : Outcome}
    (ho : (collide v).1.outcome = some o) : (update w).1.outcome = some o := by
  have later : (makeQueuedMove w.ready).1.outcome = some o →
      (collide w.moved).1.outcome = some o := fun h => collide_keeps_outcome o w.moved h
  simp only [update_apply]
  cases h with
  | beforeStep queued =>
    refine later ?_
    simp only [makeQueuedMove_of_some queued]
    exact step_keeps_outcome o _ ho
  | afterStep queued way =>
    refine later ?_
    simp only [makeQueuedMove_of_some queued, step_turned_of_open way]
    exact ho
  | afterMoves => exact ho

/-! ## The events of an update -/

/-- All that an update can tell. -/
inductive Told (w : World σ μ) : Event → Prop
  | plan {e : Event} (told : e ∈ (planGhosts w.polled).2) : Told w e
  | check {v : World σ μ} {e : Event} (checked : w.CheckedAt v) (told : e ∈ (collide v).2) :
      Told w e
  | blocked {d : Direction} (queued : w.queued = some d)
      (wall : w.maze.wallAt (w.player.facing d).advanced.cell = true) : Told w (.playerBlocked d)
  | moved {d : Direction} (queued : w.queued = some d)
      (way : w.maze.wallAt (w.player.facing d).advanced.cell = false) :
      Told w (.playerMoved (w.player.facing d) (w.player.facing d).advanced)
  | meal {d : Direction} {e : Event} (queued : w.queued = some d)
      (way : w.maze.wallAt (w.player.facing d).advanced.cell = false) (topic : e.topic = .meal) :
      Told w e

/-- **All that an update tells** is of one of these kinds. -/
theorem told_of_mem_update {w : World σ μ} {e : Event} (he : e ∈ (update w).2) : w.Told e := by
  simp only [update_apply, List.mem_append] at he
  rcases he with (plan | move) | last
  · exact .plan plan
  · cases queued : w.queued with
    | none =>
      simp only [makeQueuedMove_of_none queued, List.not_mem_nil] at move
    | some d =>
      simp only [makeQueuedMove_of_some queued, List.mem_append] at move
      rcases move with first | step
      · exact .check (.beforeStep queued) first
      cases wall : w.maze.wallAt (w.player.facing d).advanced.cell with
      | true =>
        simp only [step_turned_of_wall wall, List.mem_singleton] at step
        rw [step]
        exact .blocked queued wall
      | false =>
        simp only [step_turned_of_open wall, List.mem_append] at step
        rcases step with enter | second
        · obtain ⟨told, meal, told_eq⟩ := snd_enter (collide (w.turned d)).1
          rw [told_eq, List.mem_cons, player_collide] at enter
          rcases enter with moved | enter
          · rw [moved]
            exact .moved queued wall
          · exact .meal queued wall (meal e enter)
        · exact .check (.afterStep queued wall) second
  · exact .check .afterMoves last

theorem topic_of_mem_update {w : World σ μ} {e : Event} (he : e ∈ (update w).2) :
    e.topic = .plan ∨ e.topic = .step ∨ e.topic = .meal ∨ e.topic = .contact := by
  cases told_of_mem_update he with
  | plan told => exact .inl (planGhosts_tells w.polled e told)
  | check _ told => exact .inr (.inr (.inr (collide_tells _ e told)))
  | blocked => exact .inr (.inl rfl)
  | moved => exact .inr (.inl rfl)
  | meal _ _ meal => exact .inr (.inr (.inl meal))

theorem topic_ne_clock_of_mem_update {w : World σ μ} {e : Event} (he : e ∈ (update w).2) :
    e.topic ≠ .clock := by
  rcases topic_of_mem_update he with topic | topic | topic | topic <;> simp [topic]

theorem topic_ne_mode_of_mem_update {w : World σ μ} {e : Event} (he : e ∈ (update w).2) :
    e.topic ≠ .mode := by
  rcases topic_of_mem_update he with topic | topic | topic | topic <;> simp [topic]

end MazeChase.World
