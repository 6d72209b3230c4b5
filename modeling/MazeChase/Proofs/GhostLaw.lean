import MazeChase.Proofs.Backstage

/-!
# Laws of a ghost

What a ghost may be differs between two updates and within one, from its plan to its move. A law
says both, and it holds along every run when each of the things that can happen to the ghost obeys
it.

* `Ghost.Law`: what holds between updates, what holds within one, and why;
* `World.Obeys`: the ghost has not started, or what holds between updates holds of it;
* **`Ghost.Law.run`**: a world obeys along every run in which the ghost never plans where the law
  cannot let it;
* `World.tick_run`: the clock.
-/

set_option autoImplicit false

namespace MazeChase

variable {σ μ : Type}

/-- A law of a ghost: `settled` holds of it between updates and `planned` from its plan to its
move, if all plans are made where the ghost is `safe`. -/
structure Ghost.Law (config : Config) (maze : Maze) (color : Color)
    (settled planned safe : Ghost → Prop) : Prop where
  new : planned (.new color)
  plan : ∀ {s : Scene} {g g' : Ghost} {kind : PlanKind}, s.maze = maze → settled g → safe g →
    g.Planned s g' kind → planned g'
  frighten : ∀ {g : Ghost}, planned g → planned (g.frighten config.frightCycles.toNat)
  check : ∀ {g : Ghost} (player : Location), planned g → planned (g.afterCheck player color)
  move : ∀ {g : Ghost}, planned g → settled g.update
  recheck : ∀ {g : Ghost} (player : Location), settled g → settled (g.afterCheck player color)

/-- The world has these rules, and the ghost has not started or is as it has to be between
updates. -/
structure World.Obeys (config : Config) (maze : Maze) (color : Color) (settled : Ghost → Prop)
    (w : World σ μ) : Prop where
  config_eq : w.config = config
  maze_eq : w.maze = maze
  ghost : (w.tick = 0 ∧ w.ghosts.get color = .new color) ∨
    (0 < w.tick ∧ settled (w.ghosts.get color))

theorem Ghost.Planned.eq_of_isOffBoard {s : Scene} {g g' : Ghost} {kind : PlanKind}
    (h : g.Planned s g' kind) (off : g.location.IsOffBoard) : g' = g := by
  cases h with
  | idle => rfl
  | reversed here => exact absurd off here
  | stranded here => exact absurd off here
  | wandered here => exact absurd off here
  | pursued here => exact absurd off here

namespace World

variable [RandomSource σ] [ModeSource μ]

/-! ## The clock -/

omit [RandomSource σ] [ModeSource μ] in
theorem updateDue_of_tick_eq_zero {w : World σ μ} (h : w.tick = 0) : w.updateDue = true := by
  rw [updateDue, h, Nat.zero_mod]
  rfl

theorem tick_apply (command : Command) (w : World σ μ) : (apply command w).1.tick =
    if command = .tick then min (w.tick + 1) maxTick else w.tick := by
  cases command with
  | tick =>
    rw [if_pos rfl]
    cases due : w.updateDue with
    | true => rw [apply, advance_of_due due, tick_update]
    | false => rw [apply, advance_of_not_due due]
  | movePlayer d => rfl
  | setMode mode =>
    obtain ⟨_, set⟩ := setMode_frame mode w
    rw [if_neg (by simp), apply, set]

theorem tick_run (commands : List Command) (w : World σ μ) (start : w.tick = 0) :
    (run commands w).1.tick = 0 ↔ .tick ∉ commands := by
  induction commands using List.reverseRecOn with
  | nil => simp [run, start]
  | append_singleton commands command ih =>
    rw [run_concat, tick_apply, List.mem_append, List.mem_singleton, not_or, ← ih]
    by_cases h : command = .tick
    · -- The clock stops in the end, but not at zero.
      rw [if_pos h, maxTick]
      have : UInt64.size - 1 ≠ 0 := by decide
      constructor
      · intro h; omega
      · rintro ⟨_, h'⟩; exact absurd h.symm h'
    · rw [if_neg h]
      exact ⟨fun t => ⟨t, fun e => h e.symm⟩, And.left⟩

/-- A world obeys after a command, if what holds between updates holds after the update that it may
bring about. -/
theorem Obeys.apply {config : Config} {maze : Maze} {color : Color} {settled : Ghost → Prop}
    {w : World σ μ} (hw : w.Obeys config maze color settled) (command : Command)
    (updated : command = .tick → w.updateDue = true → settled ((update w).1.ghosts.get color)) :
    (apply command w).1.Obeys config maze color settled := by
  have rules := rules_run [command] w
  rw [run_singleton] at rules
  refine ⟨rules.1.trans hw.config_eq, rules.2.trans hw.maze_eq, ?_⟩
  rw [tick_apply]
  cases command with
  | tick =>
    have later : 0 < min (w.tick + 1) maxTick := by
      have : 0 < maxTick := by decide
      omega
    refine .inr ⟨by rw [if_pos rfl]; exact later, ?_⟩
    cases due : w.updateDue with
    | true =>
      simp only [World.apply, advance_of_due due]
      exact updated rfl due
    | false =>
      simp only [World.apply, advance_of_not_due due]
      rcases hw.ghost with ⟨start, _⟩ | ⟨_, h⟩
      · rw [updateDue_of_tick_eq_zero start] at due
        exact absurd due (by simp)
      · exact h
  | movePlayer d =>
    rw [if_neg (by simp)]
    exact hw.ghost
  | setMode mode =>
    obtain ⟨_, set⟩ := setMode_frame mode w
    rw [if_neg (by simp), World.apply, set]
    exact hw.ghost

end World

/-! ## A law along a run -/

namespace Ghost.Law

open World

variable [RandomSource σ] {config : Config} {maze : Maze} {color : Color}
  {settled planned safe : Ghost → Prop}

omit [RandomSource σ] in
theorem makeQueuedMove (law : Law config maze color settled planned safe) :
    (makeQueuedMove (σ := σ) (μ := μ)).Keeps fun w =>
      w.config = config ∧ planned (w.ghosts.get color) := by
  refine makeQueuedMove_keeps ?_ (fun _ _ h => h) ?_ (fun _ _ h => h)
  · rintro v ⟨config, h⟩
    rw [config_collide, get_ghosts_collide]
    exact ⟨config, law.check v.player h⟩
  · rintro v _ ⟨config, h⟩
    obtain ⟨_, _, _, _, entered⟩ := enter_frame v
    rw [entered]
    refine ⟨config, ?_⟩
    simp only [ghostsAfterMeal]
    split
    · rw [Roster.get_map, config]
      exact law.frighten h
    · exact h

variable [ModeSource μ]

theorem update (law : Law config maze color settled planned safe) {w : World σ μ}
    (hw : w.Obeys config maze color settled) (guard : safe (w.ghosts.get color)) :
    settled ((World.update w).1.ghosts.get color) := by
  have planned : planned (w.ready.ghosts.get color) := by
    have plan := plan_planned w.polled.scene color (w.ghosts.get color) (w.sources.get color)
    have get : w.ready.ghosts.get color = (w.polled.plan color).ghost := by
      rw [ready, World.planned, Roster.get_ofFn]
    rw [get]
    rcases hw.ghost with ⟨_, new⟩ | ⟨_, h⟩
    · -- A new ghost is outside the maze and makes no plan, so its next location is still the first.
      have off : (w.ghosts.get color).location.IsOffBoard := by rw [new]; rfl
      have same : (w.polled.plan color).ghost = w.ghosts.get color := plan.eq_of_isOffBoard off
      rw [same, new]
      exact law.new
    · exact law.plan hw.maze_eq h guard plan
  have stepped := (law.makeQueuedMove (σ := σ) (μ := μ) w.ready ⟨hw.config_eq, planned⟩).2
  have moved : settled (w.moved.ghosts.get color) := by
    rw [World.moved, Roster.get_map]
    exact law.move stepped
  simp only [update_apply]
  rw [get_ghosts_collide]
  exact law.recheck w.moved.player moved

theorem apply (law : Law config maze color settled planned safe) {w : World σ μ}
    (hw : w.Obeys config maze color settled) (command : Command)
    (guard : command = .tick → w.updateDue = true → safe (w.ghosts.get color)) :
    (apply command w).1.Obeys config maze color settled :=
  hw.apply command fun tick due => law.update hw (guard tick due)

/-- **A law holds along every run** in which all plans are made where the ghost is safe. -/
theorem run (law : Law config maze color settled planned safe) {w : World σ μ}
    (hw : w.Obeys config maze color settled) (commands : List Command)
    (guard : ∀ before, before ++ [.tick] <+: commands → (run before w).1.updateDue = true →
      safe ((run before w).1.ghosts.get color)) :
    (run commands w).1.Obeys config maze color settled := by
  induction commands using List.reverseRecOn with
  | nil => exact hw
  | append_singleton commands command ih =>
    rw [run_concat]
    refine law.apply (ih fun before h => ?_) command ?_
    · exact guard before (h.trans (List.prefix_append commands [command]))
    · rintro rfl
      exact guard commands (List.prefix_refl _)

end Ghost.Law

end MazeChase
