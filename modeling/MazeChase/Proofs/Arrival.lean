import MazeChase.Proofs.Account
import MazeChase.Proofs.Update

/-!
# Coming to a new cell

Pellets are taken and fruits appear only when the player comes to a new cell, and no command brings
it to more than one. So what a command does to pellets and fruits, and what it tells of them, is
what one step onto an open cell does, or nothing.

* `Event.ofArrival`: the events that tell of a new cell and of what is found there;
* `Larder`, `World.larder`: the pellets that are left and the fruits that have appeared;
* `World.Arrives`: the effect of one step, or of none; **`World.apply_arrives`**: every command has
  such an effect.
-/

set_option autoImplicit false

namespace MazeChase

namespace Event

/-- The event tells of the step onto a new cell, or of what the player finds there. -/
def ofArrival : Event → Bool
  | .playerMoved .. | .pelletCollected .. | .ghostsFrightened _ | .levelCleared
  | .fruitSpawned _ => true
  | _ => false

variable {e : Event}

theorem ofArrival_of_meal (h : e.topic = .meal) : e.ofArrival = true := by
  cases e <;> first | rfl | exact absurd h (by simp [topic])

theorem filter_ofArrival_eq_nil {told : List Event} {topic : Topic}
    (these : ∀ e ∈ told, e.topic = topic) (step : topic ≠ .step) (meal : topic ≠ .meal) :
    told.filter ofArrival = [] := by
  rw [List.filter_eq_nil_iff]
  intro e he
  have here := these e he
  cases e <;> first
    | exact Bool.false_ne_true
    | exact absurd here.symm step
    | exact absurd here.symm meal

theorem mem_filter_ofArrival {told : List Event} (h : e.ofArrival = true) :
    e ∈ told.filter ofArrival ↔ e ∈ told := by
  rw [List.mem_filter]
  exact and_iff_left h

theorem countP_filter_ofArrival {kind : Event → Bool}
    (these : ∀ {e}, kind e = true → e.ofArrival = true) (told : List Event) :
    (told.filter ofArrival).countP kind = told.countP kind := by
  rw [List.countP_filter]
  refine List.countP_congr fun e _ => ?_
  rw [Bool.and_eq_true]
  exact and_iff_left_of_imp these

end Event

/-- What the player finds on the cells: the pellets that are left, and the fruits that have
appeared. -/
structure Larder where
  pellets : Pellets
  fruit : Fruit

namespace World

variable {σ μ : Type}

/-- What the player finds on the cells. -/
def larder (w : World σ μ) : Larder := ⟨w.pellets, w.fruit⟩

@[simp] theorem larder_collide (w : World σ μ) : (collide w).1.larder = w.larder := by
  obtain ⟨_, _, h⟩ := collide_frame w
  rw [h]
  rfl

/-- All that a step onto a new cell tells tells of it. -/
theorem filter_ofArrival_enter (w : World σ μ) :
    (enter w).2.filter Event.ofArrival = (enter w).2 := by
  rw [List.filter_eq_self]
  obtain ⟨told, meal, told_eq⟩ := snd_enter w
  intro e he
  rw [told_eq, List.mem_cons] at he
  rcases he with rfl | he
  · rfl
  · exact Event.ofArrival_of_meal (meal e he)

/-- The player stays on its cell, or it comes to a new one once. -/
inductive Arrives (w : World σ μ) (told : List Event) (v : World σ μ) : Prop
  | stays (same : v.larder = w.larder) (quiet : told.filter Event.ofArrival = []) : Arrives w told v
  | enters {u : World σ μ} (config : u.config = w.config) (before : u.larder = w.larder)
      (after : v.larder = (enter u).1.larder)
      (told_eq : told.filter Event.ofArrival = (enter u).2) : Arrives w told v

variable [RandomSource σ] [ModeSource μ]

/-- An update brings the player to one new cell if a move is queued and the way is free. -/
theorem update_arrives (w : World σ μ) : Arrives w (update w).2 (update w).1 := by
  have plan : (planGhosts w.polled).2.filter Event.ofArrival = [] :=
    Event.filter_ofArrival_eq_nil (planGhosts_tells _) (by decide) (by decide)
  have check (v : World σ μ) : (collide v).2.filter Event.ofArrival = [] :=
    Event.filter_ofArrival_eq_nil (collide_tells v) (by decide) (by decide)
  have moved : w.moved.larder = (makeQueuedMove w.ready).1.larder := rfl
  rw [update_apply]
  cases queued : w.queued with
  | none =>
    refine .stays ?_ ?_
    · rw [larder_collide, moved, makeQueuedMove_of_none queued]
      rfl
    · simp only [List.filter_append, plan, check, makeQueuedMove_of_none queued,
        List.append_nil]
  | some d =>
    cases wall : w.maze.wallAt (w.player.facing d).advanced.cell with
    | true =>
      refine .stays ?_ ?_
      · rw [larder_collide, moved, makeQueuedMove_of_some queued, step_turned_of_wall wall,
          larder_collide]
        rfl
      · simp only [List.filter_append, plan, check, makeQueuedMove_of_some queued,
          step_turned_of_wall wall, List.append_nil, List.nil_append]
        rfl
    | false =>
      refine .enters (u := (collide (w.turned d)).1) ?_ ?_ ?_ ?_
      · rw [config_collide]
        rfl
      · rw [larder_collide]
        rfl
      · rw [larder_collide, moved, makeQueuedMove_of_some queued, step_turned_of_open wall,
          larder_collide]
        rfl
      · simp only [List.filter_append, plan, check, makeQueuedMove_of_some queued,
          step_turned_of_open wall, filter_ofArrival_enter, List.append_nil, List.nil_append]

/-- **Every command** brings the player to one new cell at most. -/
theorem apply_arrives (command : Command) : (apply (σ := σ) (μ := μ) command).Follows Arrives := by
  intro w
  cases command with
  | tick =>
    change Arrives w (advance w).2 (advance w).1
    cases due : w.updateDue with
    | false =>
      rw [advance_of_not_due due]
      exact .stays rfl rfl
    | true =>
      have clock (told : List Event) : (.tickAdvanced w.tick true :: told).filter Event.ofArrival =
          told.filter Event.ofArrival := rfl
      have kept (v : World σ μ) : ({ v with tick := min (v.tick + 1) maxTick } : World σ μ).larder =
          v.larder := rfl
      rw [advance_of_due due]
      cases update_arrives w with
      | stays same quiet => exact .stays ((kept _).trans same) ((clock _).trans quiet)
      | enters config before after told =>
        exact .enters config before ((kept _).trans after) ((clock _).trans told)
  | movePlayer d => exact .stays rfl rfl
  | setMode mode =>
    obtain ⟨_, set⟩ := setMode_frame mode w
    refine .stays (by rw [apply, set]; rfl) ?_
    exact Event.filter_ofArrival_eq_nil (setMode_tells mode w) (by decide) (by decide)

end World

end MazeChase
