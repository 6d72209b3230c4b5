import MazeChase.Proofs.GhostShape
import MazeChase.Proofs.Update

/-!
# Stranded ghosts

An update tells of a stranded ghost exactly when the ghost was stuck before it, and a ghost that
never gets stuck stays on clear locations.

* `World.ghostStranded_mem_update`, `World.ghostStranded_mem_tick`;
* **`World.ghostStranded_mem_run`**: when a run strands a ghost;
* `Ghost.course_clear`: the course of a ghost that does not get stuck.
-/

set_option autoImplicit false

namespace MazeChase

namespace World

variable {σ μ : Type} [RandomSource σ] [ModeSource μ]

theorem ghostStranded_mem_update (w : World σ μ) (color : Color) :
    (∃ l, .ghostStranded color l ∈ (update w).2) ↔ (w.ghosts.get color).Stuck w.scene := by
  have kind : (w.polled.plan color).kind = .stranded ↔ (w.ghosts.get color).Stuck w.scene := by
    rw [Ghost.stuck_congr (rfl : w.scene.maze = w.polled.scene.maze)]
    exact Ghost.plan_kind_eq_stranded_iff ..
  rw [← kind]
  constructor
  · rintro ⟨l, he⟩
    generalize event : Event.ghostStranded color l = e at he
    cases told_of_mem_update he with
    | plan told =>
      obtain ⟨c, stranded, same⟩ := mem_planGhosts.mp told
      obtain ⟨rfl, _⟩ := Event.ghostStranded.inj (event.trans same)
      exact stranded
    | check checked told => exact absurd (collide_tells _ e told) (by simp [← event, Event.topic])
    | blocked => exact absurd event (by simp)
    | moved => exact absurd event (by simp)
    | meal _ _ meal => exact absurd meal (by simp [← event, Event.topic])
  · intro stranded
    refine ⟨(w.polled.plan color).ghost.next, ?_⟩
    simp only [update_apply, List.mem_append]
    exact .inl (.inl (mem_planGhosts.mpr ⟨color, stranded, rfl⟩))

theorem ghostStranded_mem_tick (w : World σ μ) (color : Color) :
    (∃ l, .ghostStranded color l ∈ (apply .tick w).2) ↔
      w.updateDue = true ∧ (w.ghosts.get color).Stuck w.scene := by
  rw [← ghostStranded_mem_update]
  constructor
  · rintro ⟨l, he⟩
    rcases mem_apply_tick.mp he with clock | ⟨due, told⟩
    · exact absurd clock (by simp)
    · exact ⟨due, l, told⟩
  · rintro ⟨due, l, told⟩
    exact ⟨l, mem_apply_tick.mpr (.inr ⟨due, told⟩)⟩

theorem eq_tick_of_ghostStranded_mem {w : World σ μ} {command : Command} {color : Color}
    {l : Location} (h : .ghostStranded color l ∈ (apply command w).2) : command = .tick := by
  cases command with
  | tick => rfl
  | movePlayer d => simp [apply] at h
  | setMode mode => exact absurd (setMode_tells mode w _ h) (by simp [Event.topic])

/-- **A run strands a ghost** exactly when one of its updates finds the ghost stuck. -/
theorem ghostStranded_mem_run (commands : List Command) (w : World σ μ) (color : Color) :
    (∃ l, .ghostStranded color l ∈ (run commands w).2) ↔
      ∃ before, before ++ [.tick] <+: commands ∧ (run before w).1.updateDue = true ∧
        ((run before w).1.ghosts.get color).Stuck (run before w).1.scene := by
  constructor
  · rintro ⟨l, he⟩
    obtain ⟨before, command, first, told⟩ := mem_run.mp he
    obtain rfl := eq_tick_of_ghostStranded_mem told
    exact ⟨before, first, (ghostStranded_mem_tick _ color).mp ⟨l, told⟩⟩
  · rintro ⟨before, first, stuck⟩
    obtain ⟨l, told⟩ := (ghostStranded_mem_tick _ color).mpr stuck
    exact ⟨l, mem_run.mpr ⟨before, .tick, first, told⟩⟩

end World

theorem Ghost.course_clear {maze : Maze} {color : Color} {safe : Ghost → Prop}
    (spawn : color.spawn.Clear maze) (house : color.house.Clear maze)
    (way : ∀ {s : Scene} {g : Ghost}, s.maze = maze → g.location.Clear maze → safe g →
      ¬ g.Stuck s) : Course maze color (Location.Clear maze) safe where
  spawn := spawn
  house := house
  back := fun h => h.back
  leave := by
    rintro s l _ d rfl h exit
    exact h.leave (Scene.passable_of_mem_exits exit)
  strand := by
    intro s g hs h guard free stuck
    have here : ¬ g.location.IsOffBoard := fun off => off.not_onBoard h.1.onBoard
    exact absurd ⟨here, free, stuck⟩ (way hs h guard)
  inside := fun h off => off.not_onBoard h.1.onBoard

end MazeChase
