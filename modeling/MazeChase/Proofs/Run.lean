import Mathlib.Data.List.Induction
import MazeChase.Proofs.Plan

/-!
# Updates, commands and runs

An update goes through four worlds: the mode is known, all plans are made, all moves are made, and
the last check is done. What all parts of a game keep holds along every run.

* `World.polled`, `World.ready`, `World.moved`: the worlds of an update;
* `World.update_apply`, `World.advance_of_due`, `World.advance_of_not_due`, `World.mem_apply_tick`,
  `World.setMode_frame`, `World.setMode_tells`, `World.apply_idle_frame`: updates, ticks, changes of
  the mode, and commands that bring about no update;
* `World.Invariant`: a fact that every part of a game keeps, and **`World.Invariant.run`**;
* `World.run_append`, `World.mem_run`, `World.exists_last_of_mem_run`, `World.new?_eq_ok_iff`:
  longer runs, where the events of a run come from, and where a run starts;
* `World.rules_run`, `World.onBoard_invariant`, `World.outcome_invariant`: three facts of this kind.
-/

set_option autoImplicit false

namespace MazeChase.World

variable {σ μ : Type} [RandomSource σ] [ModeSource μ]

/-! ## The worlds of an update -/

omit [RandomSource σ] in
/-- The world when the mode is known. -/
def polled (w : World σ μ) : World σ μ := { w with mode := w.modes.poll.1, modes := w.modes.poll.2 }

/-- The world when all plans are made. -/
def ready (w : World σ μ) : World σ μ := w.polled.planned

/-- The world when the player and the ghosts have moved, before the last check. -/
def moved (w : World σ μ) : World σ μ :=
  let v := (makeQueuedMove w.ready).1
  { v with ghosts := v.ghosts.map Ghost.update }

/-- **An update** plans, makes the queued move, moves the ghosts, and checks. -/
theorem update_apply (w : World σ μ) : update w =
    ((collide w.moved).1,
      (planGhosts w.polled).2 ++ (makeQueuedMove w.ready).2 ++ (collide w.moved).2) := by
  have ready : (planGhosts w.polled).1 = w.ready := by rw [planGhosts_apply]; rfl
  have poll : pollMode (σ := σ) w = (w.polled, []) := rfl
  refine Prod.ext ?_ ?_
  · simp only [update, moveGhosts, Phase.fst_andThen, poll, ready, Phase.change_apply, moved]
  · simp only [update, moveGhosts, Phase.fst_andThen, Phase.snd_andThen, poll, ready,
      Phase.change_apply, moved, List.nil_append, List.append_nil]

theorem advance_of_due {w : World σ μ} (due : w.updateDue = true) : advance w =
    ({ (update w).1 with tick := min ((update w).1.tick + 1) maxTick },
      .tickAdvanced w.tick true :: (update w).2) := by
  simp [advance, due, Phase.andThen]

theorem advance_of_not_due {w : World σ μ} (due : w.updateDue = false) : advance w =
    ({ w with tick := min (w.tick + 1) maxTick }, [.tickAdvanced w.tick false]) := by
  simp [advance, due, Phase.andThen]

theorem mem_apply_tick {w : World σ μ} {e : Event} : e ∈ (apply .tick w).2 ↔
    e = .tickAdvanced w.tick w.updateDue ∨ w.updateDue = true ∧ e ∈ (update w).2 := by
  rw [apply]
  cases due : w.updateDue with
  | true => rw [advance_of_due due, List.mem_cons]; simp
  | false => rw [advance_of_not_due due, List.mem_singleton]; simp

omit [RandomSource σ] [ModeSource μ] in
theorem setMode_frame (mode : Mode) (w : World σ μ) : ∃ modes, (setMode mode w).1 =
    { w with modes := modes } := by
  unfold setMode
  cases w.modes with
  | bundled switch => exact ⟨_, rfl⟩
  | external source => exact ⟨w.modes, rfl⟩

omit [RandomSource σ] [ModeSource μ] in
theorem setMode_of_bundled {w : World σ μ} {switch : ModeSwitch}
    (own : w.modes = .bundled switch) (mode : Mode) : setMode mode w =
      ({ w with modes := .bundled (switch.set mode) },
        if switch.changes mode then [.modeChanged mode] else []) := by
  rw [setMode, own]

theorem apply_idle_frame {w : World σ μ} {command : Command}
    (idle : ¬ (command = .tick ∧ w.updateDue = true)) : ∃ queued modes tick,
      (apply command w).1 = { w with queued := queued, modes := modes, tick := tick } := by
  cases command with
  | tick =>
    have late : w.updateDue = false := by simpa using idle
    exact ⟨w.queued, w.modes, _, by rw [apply, advance_of_not_due late]⟩
  | movePlayer d => exact ⟨some d, w.modes, w.tick, rfl⟩
  | setMode mode =>
    obtain ⟨modes, set⟩ := setMode_frame mode w
    exact ⟨w.queued, modes, w.tick, set⟩

omit [RandomSource σ] [ModeSource μ] in
theorem setMode_tells (mode : Mode) :
    (setMode (σ := σ) (μ := μ) mode).Tells (·.topic = .mode) := by
  intro w e he
  unfold setMode at he
  split at he
  · split at he
    · rw [List.mem_singleton.mp he]
      rfl
    · exact absurd he List.not_mem_nil
  · exact absurd he List.not_mem_nil

/-! ## Runs -/

theorem run_singleton (command : Command) (w : World σ μ) : run [command] w = apply command w := by
  rw [run, Phase.forEach_cons, Phase.forEach_nil, Phase.andThen_pass]

theorem run_cons (command : Command) (commands : List Command) (w : World σ μ) :
    run (command :: commands) w = ((run commands (apply command w).1).1,
      (apply command w).2 ++ (run commands (apply command w).1).2) := by
  rw [run, Phase.forEach_cons]
  rfl

theorem run_append (commands more : List Command) (w : World σ μ) : run (commands ++ more) w =
    ((run more (run commands w).1).1, (run commands w).2 ++ (run more (run commands w).1).2) := by
  rw [run, Phase.forEach_append]
  rfl

theorem run_concat (commands : List Command) (command : Command) (w : World σ μ) :
    run (commands ++ [command]) w = ((apply command (run commands w).1).1,
      (run commands w).2 ++ (apply command (run commands w).1).2) := by
  rw [run_append, run_singleton]

theorem holds_before_of_take (holds : World σ μ → Prop) {commands before : List Command}
    {command : Command} {w : World σ μ}
    (h : ∀ n ∈ List.range commands.length, holds (run (commands.take n) w).1)
    (first : before ++ [command] <+: commands) : holds (run before w).1 := by
  have taken := List.prefix_iff_eq_take.mp ((List.prefix_append before [command]).trans first)
  have shorter := first.length_le
  rw [List.length_append, List.length_singleton] at shorter
  rw [taken]
  exact h _ (List.mem_range.mpr shorter)

/-- **An event of a run** is told by one of its commands, where the commands before it lead to. -/
theorem mem_run {commands : List Command} {w : World σ μ} {e : Event} : e ∈ (run commands w).2 ↔
    ∃ before command, before ++ [command] <+: commands ∧
      e ∈ (apply command (run before w).1).2 := by
  induction commands using List.reverseRecOn with
  | nil => simp [run]
  | append_singleton commands last ih =>
    rw [run_concat, List.mem_append, ih]
    constructor
    · rintro (⟨before, command, first, he⟩ | he)
      · exact ⟨before, command, first.trans (List.prefix_append ..), he⟩
      · exact ⟨commands, last, List.prefix_refl _, he⟩
    · rintro ⟨before, command, first, he⟩
      rcases List.prefix_concat_iff.mp first with all | first
      · obtain ⟨rfl, same⟩ := List.append_inj' all rfl
        obtain rfl := List.singleton_inj.mp same
        exact .inr he
      · exact .inl ⟨before, command, first, he⟩

/-- **The last event of a kind** in a run is told by one of its commands, and by none after it. -/
theorem exists_last_of_mem_run {commands : List Command} {w : World σ μ} {these : Event → Prop}
    (h : ∃ e ∈ (run commands w).2, these e) : ∃ before command after,
      commands = before ++ command :: after ∧
      (∃ e ∈ (apply command (run before w).1).2, these e) ∧
      ∀ e ∈ (run after (apply command (run before w).1).1).2, ¬ these e := by
  induction commands generalizing w with
  | nil => simp [run] at h
  | cons command commands ih =>
    by_cases later : ∃ e ∈ (run commands (apply command w).1).2, these e
    · obtain ⟨before, last, after, rfl, told, none⟩ := ih later
      exact ⟨command :: before, last, after, rfl, told, none⟩
    · obtain ⟨e, he, this⟩ := h
      refine ⟨[], command, commands, rfl, ⟨e, ?_, this⟩, fun e he this => later ⟨e, he, this⟩⟩
      exact (List.mem_append.mp he).resolve_right fun he => later ⟨e, he, this⟩

omit [RandomSource σ] in
theorem new?_eq_ok_iff {config : Config} {maze : Maze} {modes : ModeControl μ} {sources : Roster σ}
    {w : World σ μ} : new? config maze modes sources = .ok w ↔
      config.Valid ∧ w = start config maze modes sources := by
  rw [← Config.check_eq_ok_iff, new?]
  cases config.check with
  | error e => simp [Except.map]
  | ok u => simp [Except.map, eq_comm]

/-! ## What holds along every run -/

omit [RandomSource σ] [ModeSource μ] in
theorem makeQueuedMove_keeps {holds : World σ μ → Prop} (check : collide.Keeps holds)
    (turn : ∀ w d, holds w → holds { w with player := w.player.facing d })
    (go : ∀ w, w.maze.wallAt w.player.advanced.cell = false → holds w → holds (enter w).1)
    (queue : ∀ w move, holds w → holds { w with queued := move }) :
    makeQueuedMove.Keeps holds := by
  intro w hw
  unfold makeQueuedMove
  cases w.queued with
  | none => exact hw
  | some d => exact movePlayer_keeps check turn go d _ (queue w none hw)

/-- A fact about the world that every part of a game keeps. -/
structure Invariant (holds : World σ μ → Prop) : Prop where
  poll : ∀ w, holds w → holds w.polled
  plan : ∀ w, holds w → holds w.planned
  queue : ∀ w move, holds w → holds { w with queued := move }
  turn : ∀ w d, holds w → holds { w with player := w.player.facing d }
  enter : ∀ w, w.maze.wallAt w.player.advanced.cell = false → holds w → holds (enter w).1
  check : collide.Keeps holds
  move : ∀ w, holds w → holds { w with ghosts := w.ghosts.map Ghost.update }
  clock : ∀ w, holds w → holds { w with tick := min (w.tick + 1) maxTick }
  control : ∀ w modes, holds w → holds { w with modes := modes }

namespace Invariant

variable {holds : World σ μ → Prop}

theorem moved (h : Invariant holds) {w : World σ μ} (hw : holds w) : holds w.moved := by
  have ready : holds w.ready := h.plan w.polled (h.poll w hw)
  have stepped : holds (makeQueuedMove w.ready).1 :=
    makeQueuedMove_keeps h.check h.turn h.enter h.queue w.ready ready
  exact h.move (makeQueuedMove w.ready).1 stepped

theorem update (h : Invariant holds) : update.Keeps holds := by
  intro w hw
  simp only [update_apply]
  exact h.check w.moved (h.moved hw)

theorem apply (h : Invariant holds) (command : Command) : (apply command).Keeps holds := by
  intro w hw
  cases command with
  | tick =>
    change holds (advance w).1
    cases due : w.updateDue with
    | true => rw [advance_of_due due]; exact h.clock _ (h.update w hw)
    | false => rw [advance_of_not_due due]; exact h.clock w hw
  | movePlayer d => exact h.queue w _ hw
  | setMode mode =>
    obtain ⟨modes, set⟩ := setMode_frame mode w
    rw [World.apply, set]
    exact h.control w modes hw

/-- **What every part of a game keeps holds after every run.** -/
theorem run (h : Invariant holds) (commands : List Command) : (run commands).Keeps holds :=
  .forEach h.apply commands

end Invariant

theorem rules_run (commands : List Command) (w : World σ μ) :
    (run commands w).1.config = w.config ∧ (run commands w).1.maze = w.maze := by
  have rules : Invariant fun v : World σ μ => v.config = w.config ∧ v.maze = w.maze :=
    { poll := fun _ h => h
      plan := fun _ h => h
      queue := fun _ _ h => h
      turn := fun _ _ h => h
      enter := by
        intro v _ h
        rw [config_enter, maze_enter]
        exact h
      check := by
        intro v h
        rw [config_collide, maze_collide]
        exact h
      move := fun _ h => h
      clock := fun _ h => h
      control := fun _ _ h => h }
  exact rules.run commands w ⟨rfl, rfl⟩

theorem rules_of_new? {config : Config} {maze : Maze} {modes : ModeControl μ} {sources : Roster σ}
    {w : World σ μ} (h : new? config maze modes sources = .ok w) (commands : List Command) :
    (run commands w).1.config = config ∧ (run commands w).1.maze = maze := by
  obtain ⟨_, start_eq⟩ := new?_eq_ok_iff.mp h
  have rules := rules_run commands w
  have config_eq : w.config = config := by rw [start_eq, start]
  have maze_eq : w.maze = maze := by rw [start_eq, start]
  exact ⟨rules.1.trans config_eq, rules.2.trans maze_eq⟩

theorem onBoard_invariant : Invariant fun w : World σ μ => w.player.cell.OnBoard where
  poll := fun _ h => h
  plan := fun _ h => h
  queue := fun _ _ h => h
  turn := fun _ _ h => h
  enter := by
    intro v wall _
    rw [player_enter]
    exact Maze.onBoard_of_wallAt_eq_false wall
  check := by
    intro v h
    rw [player_collide]
    exact h
  move := fun _ h => h
  clock := fun _ h => h
  control := fun _ _ h => h

theorem outcome_invariant (o : Outcome) : Invariant fun w : World σ μ => w.outcome = some o where
  poll := fun _ h => h
  plan := fun _ h => h
  queue := fun _ _ h => h
  turn := fun _ _ h => h
  enter := fun v _ h => enter_keeps_outcome o v h
  check := collide_keeps_outcome o
  move := fun _ h => h
  clock := fun _ h => h
  control := fun _ _ h => h

end MazeChase.World
