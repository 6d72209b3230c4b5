import MazeChase.Proofs.Run

/-!
# What goes on behind the scenes

When the player moves, when ghosts meet it and when they make their moves, nobody asks how plans are
made, how long the update period is, what the clock shows or which mode is on. The plans look at one
of these only: the mode that steers the ghosts. So two worlds that differ in nothing else go through
the same update.

* `Phase.Ignores`: a phase that does not notice a change of the state, and chains of such phases;
* `Backstage`, `World.restage`: what goes unnoticed, and a change of it;
* `World.makeQueuedMove_ignores`, `World.planned_restage`: the parts of an update;
  `World.setMode_ignores`;
* **`World.update_restage`**: the whole update; `World.backstage_update`, `World.tick_update`,
  `World.mode_update`: what it changes there.
-/

set_option autoImplicit false

namespace MazeChase

/-! ## Changes that go unnoticed -/

namespace Phase

variable {α β ε : Type} {f : α → α}

/-- The phase does not notice the change `f` of the state: it tells the same, and the change is
still there afterwards. -/
def Ignores (p : Phase α ε) (f : α → α) : Prop := ∀ a, p (f a) = (f (p a).1, (p a).2)

theorem Ignores.andThen {p q : Phase α ε} (hp : p.Ignores f) (hq : q.Ignores f) :
    (p.andThen q).Ignores f := by
  intro a
  refine Prod.ext ?_ ?_
  · rw [fst_andThen, fst_andThen, hp a, hq]
  · rw [snd_andThen, snd_andThen, hp a, hq]

theorem Ignores.pass : (Phase.pass : Phase α ε).Ignores f := fun _ => rfl

theorem Ignores.tell (e : ε) : (Phase.tell e).Ignores f := fun _ => rfl

theorem Ignores.only (condition : Bool) {p : Phase α ε} (hp : p.Ignores f) :
    (Phase.only condition p).Ignores f := by
  cases condition
  · exact Ignores.pass
  · exact hp

theorem Ignores.ite {c : α → Prop} [DecidablePred c] {p q : Phase α ε}
    (same : ∀ a, c (f a) ↔ c a) (hp : p.Ignores f) (hq : q.Ignores f) :
    Phase.Ignores (fun a => if c a then p a else q a) f := by
  intro a
  by_cases h : c a
  · simp only [if_pos h, if_pos ((same a).mpr h)]
    exact hp a
  · simp only [if_neg h, if_neg fun h' => h ((same a).mp h')]
    exact hq a

theorem Ignores.forEach {p : β → Phase α ε} (h : ∀ b, (p b).Ignores f) (bs : List β) :
    (Phase.forEach p bs).Ignores f := by
  induction bs with
  | nil => exact Ignores.pass
  | cons b bs ih => exact (h b).andThen ih

end Phase

/-! ## The moves and the checks -/

/-- What neither the moves nor the checks of a game look at. -/
structure Backstage (μ : Type) where
  planning : Planning
  updatePeriod : UInt32
  tick : Nat
  modes : ModeControl μ
  mode : ModeSnapshot

namespace World

variable {σ μ : Type}

/-- What goes on behind the scenes of the world. -/
def backstage (w : World σ μ) : Backstage μ :=
  ⟨w.config.planning, w.config.updatePeriod, w.tick, w.modes, w.mode⟩

/-- The world after a change behind the scenes. -/
def restage (f : Backstage μ → Backstage μ) (w : World σ μ) : World σ μ :=
  let b := f w.backstage
  { w with
    config := { w.config with planning := b.planning, updatePeriod := b.updatePeriod }
    tick := b.tick
    modes := b.modes
    mode := b.mode }

variable (f : Backstage μ → Backstage μ)

theorem meet_ignores (color : Color) :
    (meet (σ := σ) (μ := μ) color).Ignores (restage f) := by
  unfold meet
  refine .ite (fun _ => Iff.rfl) .pass (.ite (fun _ => Iff.rfl) ?_ ?_)
  · exact fun _ => rfl
  · exact .ite (fun _ => Iff.rfl) .pass fun _ => rfl

theorem collide_ignores : (collide (σ := σ) (μ := μ)).Ignores (restage f) :=
  .forEach (meet_ignores f) _

theorem takePellet_ignores : (takePellet (σ := σ) (μ := μ)).Ignores (restage f) := by
  intro w
  have frighten : (frightenGhosts (σ := σ) (μ := μ)).Ignores (restage f) := fun _ => rfl
  have clear : (clearLevel (σ := σ) (μ := μ)).Ignores (restage f) := fun _ => rfl
  cases h : w.pellets.take? w.player.cell with
  | none =>
    have h' : (w.restage f).pellets.take? (w.restage f).player.cell = none := h
    simp only [takePellet, h, h']
  | some rest =>
    have h' : (w.restage f).pellets.take? (w.restage f).player.cell = some rest := h
    have after := (((Phase.Ignores.tell
        (.pelletCollected w.player.cell w.player.cell.IsPowerCorner rest.count)).andThen
      (frighten.only w.player.cell.IsPowerCorner)).andThen (clear.only (rest.count = 0)))
      (({ w with pellets := rest } : World σ μ).award (w.pelletValue w.player.cell))
    simp only [takePellet, h, h']
    exact after

theorem releaseFruit_ignores : (releaseFruit (σ := σ) (μ := μ)).Ignores (restage f) := by
  intro w
  have due : (w.restage f).dueFruit = w.dueFruit := rfl
  simp only [releaseFruit, due]
  cases w.dueFruit with
  | none => rfl
  | some wave => cases wave <;> rfl

theorem step_ignores : (step (σ := σ) (μ := μ)).Ignores (restage f) := by
  unfold step
  refine .ite (fun _ => Iff.rfl) (fun _ => rfl) ?_
  intro w
  have enter := (((Phase.Ignores.tell (.playerMoved w.player w.player.advanced)).andThen
    (takePellet_ignores (σ := σ) f)).andThen (releaseFruit_ignores f)).andThen (collide_ignores f)
  exact enter { w with player := w.player.advanced }

theorem movePlayer_ignores (d : Direction) :
    (movePlayer (σ := σ) (μ := μ) d).Ignores (restage f) := by
  have turn : Phase.Ignores (Phase.change fun w : World σ μ =>
      { w with player := w.player.facing d } : Phase _ Event) (restage f) := fun _ => rfl
  exact (turn.andThen (collide_ignores f)).andThen (step_ignores f)

theorem makeQueuedMove_ignores : (makeQueuedMove (σ := σ) (μ := μ)).Ignores (restage f) := by
  intro w
  have queued : (w.restage f).queued = w.queued := rfl
  simp only [makeQueuedMove, queued]
  cases w.queued with
  | none => rfl
  | some d => exact movePlayer_ignores f d { w with queued := none }

theorem setMode_ignores
    (apart : ∀ b modes, f { b with modes := modes } = { f b with modes := modes }) (mode : Mode) :
    (setMode (σ := σ) (μ := μ) mode).Ignores (restage f) := by
  intro w
  have same : (w.restage f).modes = w.modes := congrArg Backstage.modes (apart w.backstage w.modes)
  cases own : w.modes with
  | bundled switch =>
    have set : { w.restage f with modes := .bundled (switch.set mode) } =
        ({ w with modes := .bundled (switch.set mode) } : World σ μ).restage f := by
      have b := apart w.backstage (.bundled (switch.set mode))
      simp only [restage, backstage] at b ⊢
      rw [b]
    rw [setMode_of_bundled own, setMode_of_bundled (same.trans own), set]
  | external source =>
    simp only [setMode, same, own]

/-! ## The plans and the whole update -/

variable {f} {g : Backstage μ → Backstage μ} {w : World σ μ} [RandomSource σ]

section Plan

variable (steer : (g w.backstage).mode.effective = w.mode.effective)
include steer

theorem plan_restage (color : Color) : (w.restage g).plan color = w.plan color := by
  have scene : (w.restage g).scene = w.scene := congrArg (Scene.mk _ _ _) steer
  rw [plan, plan, scene]
  rfl

theorem planned_restage : (w.restage g).planned = w.planned.restage g := by
  simp only [planned, plan_restage steer]
  rfl

theorem snd_planGhosts_restage : (planGhosts (w.restage g)).2 = (planGhosts w).2 := by
  simp only [planGhosts_apply, plan_restage steer]

end Plan

/-- **An update goes the same way behind other scenes**, if the same mode steers the ghosts. -/
theorem update_restage [ModeSource μ] (poll : (w.restage f).polled = w.polled.restage g)
    (steer : (g w.polled.backstage).mode.effective = w.polled.mode.effective) :
    update (w.restage f) = ((update w).1.restage g, (update w).2) := by
  have ready : (w.restage f).ready = w.ready.restage g := by
    rw [World.ready, poll]
    exact planned_restage steer
  have move := makeQueuedMove_ignores g w.ready
  have moved : (w.restage f).moved = w.moved.restage g := by
    simp only [World.moved, ready, move]
    rfl
  have check := collide_ignores g w.moved
  have plan := snd_planGhosts_restage steer
  refine Prod.ext ?_ ?_
  · simp only [update_apply, moved, check]
  · simp only [update_apply, poll, plan, ready, move, moved, check]

theorem backstage_update [ModeSource μ] (w : World σ μ) :
    (update w).1.backstage = w.polled.backstage := by
  have check : (collide (σ := σ) (μ := μ)).Keeps (·.backstage = w.polled.backstage) := by
    intro v h
    obtain ⟨_, _, frame⟩ := collide_frame v
    rw [frame]
    exact h
  have enter : ∀ v : World σ μ, v.maze.wallAt v.player.advanced.cell = false →
      v.backstage = w.polled.backstage → (enter v).1.backstage = w.polled.backstage := by
    intro v _ h
    obtain ⟨_, _, _, _, frame⟩ := enter_frame v
    rw [frame]
    exact h
  have stepped : (makeQueuedMove w.ready).1.backstage = w.polled.backstage :=
    makeQueuedMove_keeps check (fun _ _ h => h) enter (fun _ _ h => h) w.ready rfl
  have move : ∀ v : World σ μ, v.backstage = w.polled.backstage →
      ({ v with ghosts := v.ghosts.map Ghost.update } : World σ μ).backstage =
        w.polled.backstage := fun _ h => h
  simp only [update_apply]
  exact check w.moved (move (makeQueuedMove w.ready).1 stepped)

theorem tick_update [ModeSource μ] (w : World σ μ) : (update w).1.tick = w.tick := by
  have after := backstage_update w
  simp only [backstage, polled, Backstage.mk.injEq] at after
  exact after.2.2.1

theorem mode_update [ModeSource μ] (w : World σ μ) :
    (update w).1.mode = w.modes.poll.1 ∧ (update w).1.modes = w.modes.poll.2 := by
  have after := backstage_update w
  simp only [backstage, polled, Backstage.mk.injEq] at after
  exact ⟨after.2.2.2.2, after.2.2.2.1⟩

end World

end MazeChase
