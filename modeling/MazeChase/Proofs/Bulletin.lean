import Mathlib.Data.List.Basic
import MazeChase.Proofs.Arrival
import MazeChase.Proofs.Books
import MazeChase.Proofs.Passage

/-!
# The bulletin of a tick

What a tick tells follows a grammar: the clock, the stranded ghosts, the meetings before the step,
the step, the pellet, the fruit, the meetings after the step, and the meetings after the moves of
the ghosts. The state before the tick decides which of these parts are there.

* `Event.met?`, `Event.Meetings`, `World.meetings_collide`: what a check for collisions tells;
* `World.strandings`, `World.snd_planGhosts`: what the planning phase tells;
* `World.mealTold`, `World.snd_enter_eq`: what the step onto an open cell tells;
* `World.Bulletin`: the grammar; **`World.tick_bulletin`**: every tick obeys it.
-/

set_option autoImplicit false

namespace MazeChase

/-! ## Meetings -/

namespace Event

/-- The ghost that the player met, if the event tells of that. -/
def met? : Event → Option Color
  | .ghostEaten color _ => some color
  | .playerCaught color => some color
  | _ => none

/-- All that is told is of meetings: a ghost is eaten, for the points of the configuration, or it
catches the player. The ghosts come in strictly increasing roster order, so none of them comes
twice. -/
structure Meetings (config : Config) (told : List Event) : Prop where
  kind : ∀ e ∈ told, ∃ color,
    e = .ghostEaten color config.ghostEatPoints.toNat ∨ e = .playerCaught color
  order : (told.filterMap met?).Pairwise fun color later => color.index < later.index

end Event

namespace World

variable {σ μ : Type}

theorem filterMap_met_meet (w : World σ μ) (color : Color) :
    ((meet color w).2.filterMap Event.met?).Sublist [color] := by
  rcases meet_cases w color with ⟨_, h⟩ | ⟨_, _, h⟩ | ⟨_, _, _, h⟩ | ⟨_, _, _, h⟩ <;> rw [h]
  · exact List.nil_sublist _
  · exact List.Sublist.refl _
  · exact List.nil_sublist _
  · exact List.Sublist.refl _

theorem filterMap_met_forEach (w : World σ μ) (colors : List Color) :
    ((Phase.forEach meet colors w).2.filterMap Event.met?).Sublist colors := by
  induction colors generalizing w with
  | nil => exact List.Sublist.refl _
  | cons color colors ih =>
    rw [Phase.forEach_cons, Phase.snd_andThen, List.filterMap_append]
    exact (filterMap_met_meet w color).append (ih (meet color w).1)

/-- **A check** tells of meetings. -/
theorem meetings_collide (w : World σ μ) : Event.Meetings w.config (collide w).2 where
  kind := by
    intro e he
    obtain ⟨color, _, ⟨_, eaten⟩ | ⟨_, caught⟩⟩ := mem_collide he
    · exact ⟨color, .inl eaten⟩
    · exact ⟨color, .inr caught⟩
  order := by
    have roster : Color.all.Pairwise fun color later => color.index < later.index := by decide
    exact roster.sublist (filterMap_met_forEach w Color.all)

/-! ## Strandings -/

instance (s : Scene) (g : Ghost) : Decidable (g.Stuck s) := by unfold Ghost.Stuck; infer_instance

/-- What is told of the ghosts that are in the maze, free to choose a way on, and without one: each
is left on the location ahead of it. They come in roster order. -/
def strandings (w : World σ μ) : List Event :=
  (Color.all.filter fun color => (w.ghosts.get color).Stuck w.scene).map fun color =>
    .ghostStranded color (w.ghosts.get color).location.advanced

theorem map_filter_eq_flatMap {α β : Type} (p : α → Prop) [DecidablePred p] (f : α → β)
    (as : List α) : (as.filter p).map f = as.flatMap fun a => if p a then [f a] else [] := by
  induction as with
  | nil => rfl
  | cons a as ih =>
    rw [List.flatMap_cons, ← ih]
    by_cases h : p a <;> simp [h]

variable [RandomSource σ]

theorem next_plan_of_stranded {w : World σ μ} {color : Color}
    (stranded : (w.plan color).kind = .stranded) :
    (w.plan color).ghost.next = (w.ghosts.get color).location.advanced := by
  have plan : (w.ghosts.get color).Planned w.scene (w.plan color).ghost (w.plan color).kind :=
    Ghost.plan_planned ..
  rw [stranded] at plan
  generalize (w.plan color).ghost = planned at plan ⊢
  cases plan with
  | stranded => rfl

theorem snd_planGhosts (w : World σ μ) : (planGhosts w).2 = w.strandings := by
  rw [planGhosts_apply, strandings, map_filter_eq_flatMap]
  refine List.flatMap_congr fun color _ => ?_
  have stuck : (w.plan color).kind = .stranded ↔ (w.ghosts.get color).Stuck w.scene :=
    Ghost.plan_kind_eq_stranded_iff ..
  by_cases stranded : (w.plan color).kind = .stranded
  · rw [if_pos stranded, if_pos (stuck.mp stranded), next_plan_of_stranded stranded]
  · rw [if_neg stranded, if_neg (mt stuck.mpr stranded)]

omit [RandomSource σ] in
theorem strandings_polled [ModeSource μ] (w : World σ μ) : w.polled.strandings = w.strandings := rfl

/-! ## The step onto an open cell -/

omit [RandomSource σ] in
/-- What is told of the pellet on a cell, if there is one. -/
def mealTold (w : World σ μ) (c : Cell) : List Event :=
  (w.pellets.take? c).elim [] fun rest => Books.pelletTold w.config c rest.count

omit [RandomSource σ] in
theorem snd_takePellet_eq (w : World σ μ) : (takePellet w).2 = w.mealTold w.player.cell := by
  unfold mealTold
  cases take : w.pellets.take? w.player.cell with
  | none => rw [takePellet_of_none take]; rfl
  | some rest => rw [snd_takePellet take]; rfl

omit [RandomSource σ] in
theorem snd_releaseFruit (w : World σ μ) :
    (releaseFruit w).2 = w.dueFruit.toList.map .fruitSpawned := by
  unfold releaseFruit
  split
  next due => rw [due]; rfl
  next due => rw [due]; rfl
  next none => rw [none]; rfl

omit [RandomSource σ] in
/-- **The step onto an open cell** tells of the pellet there and of one fruit at most. -/
theorem snd_enter_eq (w : World σ μ) : ∃ fruit : Option FruitWave, (enter w).2 =
    .playerMoved w.player w.player.advanced ::
      (w.mealTold w.player.advanced.cell ++ fruit.toList.map .fruitSpawned) := by
  refine ⟨(takePellet { w with player := w.player.advanced }).1.dueFruit, ?_⟩
  simp only [enter, Phase.snd_andThen, Phase.fst_andThen, Phase.tell_apply, snd_takePellet_eq,
    snd_releaseFruit, List.cons_append, List.nil_append]
  rfl

/-! ## The grammar -/

variable [ModeSource μ]

omit [RandomSource σ] [ModeSource μ] in
/-- The grammar of what a tick tells.
* A tick that is no update tells of the clock only. Every update then tells of the ghosts that are
  stuck.
* If no move is queued, meetings follow.
* If the queued move leads into a wall or off the board, meetings, this, and meetings again follow.
* If it leads onto an open cell, there are meetings before and after the step, too. Between the step
  and the later ones come the pellet on the new cell, if there is one, and one fruit at most. The
  pellet is followed by the fright if it is a super pellet, and by the end of the level if none is
  left. -/
inductive Bulletin (w : World σ μ) : List Event → Prop
  | pause (late : w.updateDue = false) : Bulletin w [.tickAdvanced w.tick false]
  | rest {last : List Event} (due : w.updateDue = true) (still : w.queued = none)
      (after : Event.Meetings w.config last) :
      Bulletin w (.tickAdvanced w.tick true :: (w.strandings ++ last))
  | blocked {d : Direction} {first last : List Event} (due : w.updateDue = true)
      (queued : w.queued = some d)
      (wall : w.maze.wallAt (w.player.facing d).advanced.cell = true)
      (before : Event.Meetings w.config first) (after : Event.Meetings w.config last) :
      Bulletin w (.tickAdvanced w.tick true ::
        (w.strandings ++ (first ++ [.playerBlocked d]) ++ last))
  | moved {d : Direction} {first second last : List Event} {fruit : Option FruitWave}
      (due : w.updateDue = true) (queued : w.queued = some d)
      (way : w.maze.wallAt (w.player.facing d).advanced.cell = false)
      (before : Event.Meetings w.config first) (between : Event.Meetings w.config second)
      (after : Event.Meetings w.config last) :
      Bulletin w (.tickAdvanced w.tick true ::
        (w.strandings ++
          (first ++ (.playerMoved (w.player.facing d) (w.player.facing d).advanced ::
            (w.mealTold (w.player.facing d).advanced.cell ++ fruit.toList.map .fruitSpawned) ++
            second)) ++
          last))

/-- **Every tick**, in whichever world, tells what the grammar says. -/
theorem tick_bulletin (w : World σ μ) : w.Bulletin (apply .tick w).2 := by
  rw [apply]
  cases due : w.updateDue with
  | false =>
    rw [advance_of_not_due due]
    exact .pause due
  | true =>
    rw [advance_of_due due, update_apply, snd_planGhosts, strandings_polled]
    have after : Event.Meetings w.config (collide w.moved).2 := by
      have keeps : makeQueuedMove.Keeps fun v : World σ μ => v.config = w.config :=
        makeQueuedMove_keeps (fun v h => by rw [config_collide]; exact h) (fun _ _ h => h)
          (fun v _ h => by rw [config_enter]; exact h) (fun _ _ h => h)
      have config : w.moved.config = w.config := keeps w.ready rfl
      exact config ▸ meetings_collide w.moved
    cases queued : w.queued with
    | none =>
      rw [makeQueuedMove_of_none queued, List.append_nil]
      exact .rest due queued after
    | some d =>
      have before : Event.Meetings w.config (collide (w.turned d)).2 :=
        meetings_collide (w.turned d)
      rw [makeQueuedMove_of_some queued]
      cases wall : w.maze.wallAt (w.player.facing d).advanced.cell with
      | true =>
        rw [step_turned_of_wall wall]
        exact .blocked due queued wall before after
      | false =>
        have between : Event.Meetings w.config (collide (w.stepped d)).2 := by
          have config : (w.stepped d).config = w.config := by
            rw [stepped, config_enter, config_collide]
            rfl
          exact config ▸ meetings_collide (w.stepped d)
        obtain ⟨fruit, told⟩ := snd_enter_eq (collide (w.turned d)).1
        have player : (collide (w.turned d)).1.player = w.player.facing d := player_collide _
        have pellets : (collide (w.turned d)).1.pellets = w.pellets := by
          obtain ⟨_, _, frame⟩ := collide_frame (w.turned d)
          rw [frame]
          rfl
        have config : (collide (w.turned d)).1.config = w.config := config_collide (w.turned d)
        have meal (c : Cell) : (collide (w.turned d)).1.mealTold c = w.mealTold c := by
          rw [mealTold, mealTold, pellets, config]
        rw [step_turned_of_open wall, told, player, meal]
        exact .moved due queued wall before between after

end World

end MazeChase
