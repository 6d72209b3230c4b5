import MazeChase.Proofs.Bulletin
import MazeChase.Proofs.Interval
import MazeChase.Proofs.Trap

/-!
# How late the ghosts react

The ghosts make their plans before the player moves, and they move as they planned. So the queued
move has no bearing on where they go in the same update, even if it frightens them or ends the game.
Only a ghost that the player eats goes elsewhere.

* `World.filter_plan_makeQueuedMove`, `World.filter_plan_apply_tick`: a tick tells of the ghosts
  that were stuck before it;
* `World.sources_apply_tick`, `World.sameWay_apply_tick`: what else a tick makes of the plans;
* **`World.reacts_late`**: two worlds that differ in the queued move.
-/

set_option autoImplicit false

namespace MazeChase

theorem Ghost.SameWay.symm {g g' : Ghost} (h : g.SameWay g') : g'.SameWay g := by
  obtain ⟨_, _, rfl⟩ := h
  exact ⟨g.fright, g.trap, rfl⟩

namespace World

variable {σ μ : Type}

/-! ## One tick and its plans -/

theorem filter_plan_makeQueuedMove (w : World σ μ) :
    (makeQueuedMove w).2.filter (·.topic = .plan) = [] := by
  have account : Phase.Account fun (_ : World σ μ) (told : List Event) (_ : World σ μ) =>
      told.filter (·.topic = .plan) = [] :=
    ⟨fun _ => rfl, fun first second => by rw [List.filter_append, first, second]; rfl⟩
  refine makeQueuedMove_follows account ?_ (fun _ _ => rfl) (fun _ => rfl) ?_ (fun _ _ => rfl) w
  · exact fun v => Event.filter_topic_eq_nil (collide_tells v) (by decide)
  · intro v _
    obtain ⟨told, meal, told_eq⟩ := snd_enter v
    rw [told_eq, List.filter_cons_of_neg (by simp [Event.topic])]
    exact Event.filter_topic_eq_nil meal (by decide)

theorem filter_plan_strandings (w : World σ μ) :
    w.strandings.filter (·.topic = .plan) = w.strandings := by
  rw [List.filter_eq_self]
  intro e he
  obtain ⟨color, _, rfl⟩ := List.mem_map.mp he
  rfl

variable [RandomSource σ] [ModeSource μ]

/-- **The plans that a tick tells of** are those of the ghosts that were stuck before it. -/
theorem filter_plan_apply_tick (w : World σ μ) : (apply .tick w).2.filter (·.topic = .plan) =
    if w.updateDue = true then w.strandings else [] := by
  have check : (collide w.moved).2.filter (·.topic = .plan) = [] :=
    Event.filter_topic_eq_nil (collide_tells w.moved) (by decide)
  have update : (update w).2.filter (·.topic = .plan) = w.strandings := by
    rw [update_apply, List.filter_append, List.filter_append, snd_planGhosts, strandings_polled,
      filter_plan_strandings, filter_plan_makeQueuedMove, check, List.append_nil, List.append_nil]
  rw [apply]
  cases due : w.updateDue with
  | true =>
    rw [advance_of_due due, List.filter_cons_of_neg (by simp [Event.topic]), update, if_pos rfl]
  | false =>
    rw [advance_of_not_due due]
    rfl

theorem sources_apply_tick (w : World σ μ) : (apply .tick w).1.sources =
    if w.updateDue = true then .ofFn fun color => (w.polled.plan color).source else w.sources := by
  cases due : w.updateDue with
  | true =>
    refine Roster.ext_get fun color => ?_
    simp only [apply, advance_of_due due, if_true, source_update, Roster.get_ofFn]
  | false => simp only [apply, advance_of_not_due due, Bool.false_eq_true, if_false]

/-- A tick in which a ghost is not eaten takes it where it planned to go. -/
theorem sameWay_apply_tick {w : World σ μ} {color : Color}
    (spared : ∀ points, .ghostEaten color points ∉ (apply .tick w).2) :
    (if w.updateDue = true then (w.polled.plan color).ghost.update else w.ghosts.get color).SameWay
      ((apply .tick w).1.ghosts.get color) := by
  cases due : w.updateDue with
  | true =>
    simp only [apply, advance_of_due due, if_true]
    exact ghost_update_of_not_eaten fun points eaten =>
      spared points (mem_apply_tick.mpr (.inr ⟨due, eaten⟩))
  | false =>
    simp only [apply, advance_of_not_due due, Bool.false_eq_true, if_false]
    exact .refl _

/-! ## Two worlds -/

/-- **The ghosts react one update late.** The queued move of a tick has no effect on where the
ghosts go in it or plan to go, unless they are eaten. -/
theorem reacts_late (w : World σ μ) (move move' : Option Direction) :
    let a := apply .tick { w with queued := move }
    let b := apply .tick { w with queued := move' }
    a.2.filter (·.topic = .plan) = b.2.filter (·.topic = .plan) ∧ a.1.sources = b.1.sources ∧
      ∀ color, (∀ points, .ghostEaten color points ∉ a.2) →
        (∀ points, .ghostEaten color points ∉ b.2) →
        let g := a.1.ghosts.get color
        let h := b.1.ghosts.get color
        g.location = h.location ∧ g.next = h.next ∧ g.spawning = h.spawning := by
  intro a b
  refine ⟨?_, ?_, fun color spared spared' => ?_⟩
  · rw [filter_plan_apply_tick, filter_plan_apply_tick]
    rfl
  · rw [sources_apply_tick, sources_apply_tick]
    rfl
  · have same : (a.1.ghosts.get color).SameWay (b.1.ghosts.get color) :=
      (sameWay_apply_tick spared).symm.trans (sameWay_apply_tick spared')
    obtain ⟨_, _, eq⟩ := same
    rw [eq]
    exact ⟨rfl, rfl, rfl⟩

/-- Red goes where it planned to go, whether the player takes a super pellet or rests. -/
theorem reacts_late_red :
    let maze : Maze := { Maze.openFloor with pellets := Pellets.empty.add ⟨23, 26⟩ }
    let commands : List Command :=
      (List.replicate 12 [Command.movePlayer .right, .tick]).flatten
    let w : World Listed ModeSnapshot := (run commands (start { updatePeriod := 1 } maze
      (.external ⟨.chase, some .chase⟩) (.ofFn fun _ => ⟨[]⟩))).1
    ((∃ cycles, .ghostsFrightened cycles ∈ (apply .tick { w with queued := some .right }).2) ∧
      (∀ cycles, .ghostsFrightened cycles ∉ (apply .tick { w with queued := none }).2) ∧
      (∀ points, .ghostEaten .red points ∉ (apply .tick { w with queued := some .right }).2) ∧
      ∀ points, .ghostEaten .red points ∉ (apply .tick { w with queued := none }).2) ∧
    ((apply .tick { w with queued := some .right }).1.ghosts.get .red).location =
      ((apply .tick { w with queued := none }).1.ghosts.get .red).location := by
  intro maze commands w
  obtain ⟨⟨frightens, calm⟩, spared, spared'⟩ :
      ((apply .tick { w with queued := some .right }).2.any Event.frightens = true ∧
        (apply .tick { w with queued := none }).2.any Event.frightens = false) ∧
      (apply .tick { w with queued := some .right }).2.any (Event.eats .red) = false ∧
      (apply .tick { w with queued := none }).2.any (Event.eats .red) = false := by
    decide +kernel
  have spared : ∀ points,
      .ghostEaten .red points ∉ (apply .tick { w with queued := some .right }).2 :=
    Event.any_eats_eq_false.mp spared
  have spared' : ∀ points, .ghostEaten .red points ∉ (apply .tick { w with queued := none }).2 :=
    Event.any_eats_eq_false.mp spared'
  obtain ⟨_, _, same⟩ := reacts_late w (some .right) none
  exact ⟨⟨Event.any_frightens.mp frightens, Event.any_frightens_eq_false.mp calm, spared, spared'⟩,
    (same .red spared spared').1⟩

end World

end MazeChase
