import Mathlib.Data.List.Basic
import MazeChase.Maze.Classic
import MazeChase.Proofs.Queue

/-!
# The path of the player

The player goes from cell to neighbouring cell over open floor, and the log tells every step of it.
It starts on the board and never leaves it, so no step is cut short at the end of the coordinates.

* `Event.reached?`, `Event.executed?`, `Event.whereabouts`: what the log tells of the player;
* `Cell.Next`: the neighbour of a cell in a direction, in exact numbers; `Cell.OnBoard.next_step`;
* `Walk`: steps one after the other; `Walk.location_eq`, `Walk.of_prefix`, `Walk.onBoard`,
  `Walk.floor`: where a walk leads, and what its steps are;
* `World.apply_walk`, `World.run_walk`: commands make the player walk;
* `World.mem_apply_step`, `World.playerBlocked_mem_apply`: which commands tell of steps;
* **`World.player_path`**.
-/

set_option autoImplicit false

namespace MazeChase

/-! ## What the log tells of the player -/

namespace Event

/-- The cell onto which the player stepped. -/
def reached? : Event → Option Cell
  | .playerMoved _ target => some target.cell
  | _ => none

/-- The direction of the move that the player made, if only into a wall. -/
def executed? : Event → Option Direction
  | .playerMoved _ target => some target.heading
  | .playerBlocked d => some d
  | _ => none

/-- Where a log leads the player: onto the last cell that it stepped on, facing in the direction of
the last move. -/
def whereabouts (start : Location) (told : List Event) : Location :=
  ⟨(told.filterMap reached?).getLast?.getD start.cell,
    (told.filterMap executed?).getLast?.getD start.heading⟩

variable {e : Event}

theorem reached?_of_topic (other : e.topic ≠ .step) : e.reached? = none := by
  cases e <;> first | rfl | exact absurd rfl other

theorem executed?_of_topic (other : e.topic ≠ .step) : e.executed? = none := by
  cases e <;> first | rfl | exact absurd rfl other

theorem filterMap_filter_step {α : Type} {f : Event → Option α}
    (steps : ∀ {e : Event}, e.topic ≠ .step → f e = none) (told : List Event) :
    (told.filter (·.topic = .step)).filterMap f = told.filterMap f := by
  rw [List.filterMap_filter]
  refine List.filterMap_congr fun e _ => ?_
  by_cases step : e.topic = .step
  · simp [step]
  · simp [step, steps step]

theorem whereabouts_filter (start : Location) (told : List Event) :
    whereabouts start (told.filter (·.topic = .step)) = whereabouts start told := by
  rw [whereabouts, whereabouts, filterMap_filter_step reached?_of_topic,
    filterMap_filter_step executed?_of_topic]

end Event

/-! ## Neighbours -/

namespace Cell

/-- The second cell is the neighbour of the first one in a direction. -/
def Next (d : Direction) (c next : Cell) : Prop :=
  next.row.val = c.row.val + d.rowDelta ∧ next.col.val = c.col.val + d.colDelta

instance (d : Direction) (c next : Cell) : Decidable (c.Next d next) := by
  unfold Next; infer_instance

theorem OnBoard.next_step {c : Cell} (h : c.OnBoard) (d : Direction) : Next d c (c.step d) := by
  have rows : rowCount = 31 := rfl
  have cols : colCount = 28 := rfl
  obtain ⟨⟨_, _⟩, _, _⟩ := h
  have row : -1 ≤ d.rowDelta ∧ d.rowDelta ≤ 1 := by cases d <;> decide
  have col : -1 ≤ d.colDelta ∧ d.colDelta ≤ 1 := by cases d <;> decide
  exact ⟨Coord.val_clamp_of_mem (by omega) (by omega), Coord.val_clamp_of_mem (by omega) (by omega)⟩

end Cell

/-- The cell is on the board, and no wall stands there. -/
def Maze.Floor (m : Maze) (c : Cell) : Prop := c.OnBoard ∧ m.walls.contains c = false

instance (m : Maze) (c : Cell) : Decidable (m.Floor c) := by unfold Maze.Floor; infer_instance

theorem Maze.wallAt_eq_false_iff {m : Maze} {c : Cell} : m.wallAt c = false ↔ m.Floor c := by
  simp [wallAt, Floor]

theorem Maze.wallAt_eq_true_iff {m : Maze} {c : Cell} : m.wallAt c = true ↔ ¬ m.Floor c := by
  rw [← wallAt_eq_false_iff, Bool.not_eq_false]

/-! ## Walks -/

/-- Steps through a maze one after the other, from one location to another one: each one leads onto
the floor ahead, or it only turns the player, as there is none. -/
inductive Walk (maze : Maze) (l : Location) : List Event → Location → Prop
  | rest : Walk maze l [] l
  | moved {told : List Event} {here : Location} (earlier : Walk maze l told here) {d : Direction}
      (floor : maze.Floor (here.neighbor d)) :
      Walk maze l (told ++ [.playerMoved ⟨here.cell, d⟩ ⟨here.neighbor d, d⟩]) ⟨here.neighbor d, d⟩
  | blocked {told : List Event} {here : Location} (earlier : Walk maze l told here) {d : Direction}
      (wall : ¬ maze.Floor (here.neighbor d)) :
      Walk maze l (told ++ [.playerBlocked d]) ⟨here.cell, d⟩

namespace Walk

variable {maze : Maze} {l here there : Location} {told more before : List Event} {e : Event}

theorem append (h : Walk maze l told here) (h' : Walk maze here more there) :
    Walk maze l (told ++ more) there := by
  induction h' with
  | rest => rwa [List.append_nil]
  | moved _ floor ih => rw [← List.append_assoc]; exact ih.moved floor
  | blocked _ wall ih => rw [← List.append_assoc]; exact ih.blocked wall

/-- **A walk** leads where its steps tell. -/
theorem location_eq (h : Walk maze l told here) : here = Event.whereabouts l told := by
  induction h with
  | rest => rfl
  | moved => simp [Event.whereabouts, Event.reached?, Event.executed?]
  | blocked _ _ ih =>
    rw [Event.whereabouts] at ih ⊢
    simp [Event.reached?, Event.executed?, ih]

/-- **Every step of a walk** is made from where the steps before it led. -/
theorem of_prefix (h : Walk maze l told there) (first : before ++ [e] <+: told) :
    ∃ here d, Walk maze l before here ∧ e.executed? = some d ∧
      e = if maze.Floor (here.neighbor d) then
        .playerMoved ⟨here.cell, d⟩ ⟨here.neighbor d, d⟩ else .playerBlocked d := by
  induction h with
  | rest => exact absurd (List.prefix_nil.mp first) (by simp)
  | moved earlier floor ih =>
    rcases List.prefix_concat_iff.mp first with last | first
    · obtain ⟨rfl, same⟩ := List.append_inj' last rfl
      obtain rfl := List.singleton_inj.mp same
      exact ⟨_, _, earlier, rfl, (if_pos floor).symm⟩
    · exact ih first
  | blocked earlier wall ih =>
    rcases List.prefix_concat_iff.mp first with last | first
    · obtain ⟨rfl, same⟩ := List.append_inj' last rfl
      obtain rfl := List.singleton_inj.mp same
      exact ⟨_, _, earlier, rfl, (if_neg wall).symm⟩
    · exact ih first

theorem onBoard (h : Walk maze l told here) (start : l.cell.OnBoard) : here.cell.OnBoard := by
  induction h with
  | rest => exact start
  | moved _ floor => exact floor.1
  | blocked _ _ ih => exact ih

theorem floor (h : Walk maze l told here) (left : told.filterMap Event.reached? ≠ []) :
    maze.Floor here.cell := by
  induction h with
  | rest => exact absurd rfl left
  | moved _ floor => exact floor
  | blocked _ _ ih =>
    rw [List.filterMap_append] at left
    exact ih (by simpa [Event.reached?] using left)

end Walk

/-! ## The player walks -/

namespace World

variable {σ μ : Type} [RandomSource σ] [ModeSource μ]

theorem apply_walk (command : Command) (w : World σ μ) :
    Walk w.maze w.player ((apply command w).2.filter (·.topic = .step))
      (apply command w).1.player := by
  by_cases update : command = .tick ∧ w.updateDue = true
  · obtain ⟨rfl, due⟩ := update
    obtain ⟨told, player, _⟩ := tick_move due
    rw [told, player]
    cases w.queued with
    | none => exact .rest
    | some d =>
      change Walk w.maze w.player ([] ++ [w.moveTold d]) (w.moveTo d)
      rw [moveTold, moveTo]
      cases wall : w.maze.wallAt (w.player.facing d).advanced.cell with
      | true => exact .blocked .rest (Maze.wallAt_eq_true_iff.mp wall)
      | false => exact .moved .rest (Maze.wallAt_eq_false_iff.mp wall)
  · have idle := idle_singleton.mpr update
    rw [← run_singleton, idle.filter_step, idle.player]
    exact .rest

/-- **The player walks** along every run. -/
theorem run_walk (commands : List Command) (w : World σ μ) :
    Walk w.maze w.player ((run commands w).2.filter (·.topic = .step))
      (run commands w).1.player := by
  induction commands using List.reverseRecOn with
  | nil => exact .rest
  | append_singleton commands command ih =>
    have next := apply_walk command (run commands w).1
    rw [(rules_run commands w).2] at next
    rw [run_concat, List.filter_append]
    exact ih.append next

/-- A step is told exactly by an update that makes a move. -/
theorem mem_apply_step (command : Command) (w : World σ μ) (e : Event) (step : e.topic = .step) :
    e ∈ (apply command w).2 ↔
      command = .tick ∧ w.updateDue = true ∧ ∃ d, w.queued = some d ∧ e = w.moveTold d := by
  have listed : e ∈ (apply command w).2 ↔ e ∈ (apply command w).2.filter (·.topic = .step) := by
    simp [step]
  rw [listed]
  by_cases update : command = .tick ∧ w.updateDue = true
  · obtain ⟨rfl, due⟩ := update
    rw [(tick_move due).1]
    cases w.queued <;> simp [due]
  · rw [← run_singleton, (idle_singleton.mpr update).filter_step]
    exact iff_of_false (by simp) fun ⟨tick, due, _⟩ => update ⟨tick, due⟩

omit [RandomSource σ] [ModeSource μ] in
theorem playerBlocked_eq_moveTold_iff {w : World σ μ} {d d' : Direction} :
    .playerBlocked d = w.moveTold d' ↔ d' = d ∧ ¬ w.maze.Floor (w.player.cell.step d) := by
  rw [moveTold]
  constructor
  · intro told
    split at told
    next wall =>
      obtain rfl := Event.playerBlocked.inj told
      exact ⟨rfl, Maze.wallAt_eq_true_iff.mp wall⟩
    next => exact Event.noConfusion told
  · rintro ⟨rfl, wall⟩
    exact (if_pos (Maze.wallAt_eq_true_iff.mpr wall)).symm

/-- **The player is blocked** by an update that makes a move with no floor ahead. -/
theorem playerBlocked_mem_apply {command : Command} {w : World σ μ} {d : Direction} :
    .playerBlocked d ∈ (apply command w).2 ↔ command = .tick ∧ w.updateDue = true ∧
      w.queued = some d ∧ ¬ w.maze.Floor (w.player.cell.step d) := by
  rw [mem_apply_step command w _ rfl]
  refine and_congr_right fun _ => and_congr_right fun _ => ?_
  simp only [playerBlocked_eq_moveTold_iff]
  constructor
  · rintro ⟨d', queued, rfl, wall⟩
    exact ⟨queued, wall⟩
  · rintro ⟨queued, wall⟩
    exact ⟨d, queued, rfl, wall⟩

/-- **The path of the player.** It stays on the board and on floor, goes from cell to neighbouring
cell as the log tells, and is blocked exactly where there is no floor ahead. -/
theorem player_path {config : Config} {maze : Maze} {modes : ModeControl μ} {sources : Roster σ}
    {w : World σ μ} (new : new? config maze modes sources = .ok w) (commands : List Command) :
    let v := (run commands w).1
    let log := (run commands w).2
    v.player.cell.OnBoard ∧
    (log.filterMap Event.reached? ≠ [] → maze.Floor v.player.cell) ∧
    v.player = Event.whereabouts playerSpawn log ∧
    (∀ before e d, before ++ [e] <+: log → e.executed? = some d →
      let here := (Event.whereabouts playerSpawn before).cell
      Cell.Next d here (here.step d) ∧
      e = if maze.Floor (here.step d) then .playerMoved ⟨here, d⟩ ⟨here.step d, d⟩
        else .playerBlocked d) ∧
    ∀ command d, .playerBlocked d ∈ (apply command v).2 ↔
      command = .tick ∧ v.updateDue = true ∧ v.queued = some d ∧
        ¬ maze.Floor (v.player.cell.step d) := by
  intro v log
  obtain ⟨_, start_eq⟩ := new?_eq_ok_iff.mp new
  have maze_eq : w.maze = maze := by rw [start_eq, start]
  have player_eq : w.player = playerSpawn := by rw [start_eq, start]
  have walk := run_walk commands w
  rw [maze_eq, player_eq] at walk
  have start : playerSpawn.cell.OnBoard := by decide
  refine ⟨walk.onBoard start, ?_, ?_, ?_, ?_⟩
  · intro left
    rw [← Event.filterMap_filter_step Event.reached?_of_topic] at left
    exact walk.floor left
  · rw [← Event.whereabouts_filter]
    exact walk.location_eq
  · intro before e d first executed here
    have step : e.topic = .step := by
      by_contra other
      rw [Event.executed?_of_topic other] at executed
      exact absurd executed (by simp)
    have first := first.filter (·.topic = .step)
    have only : [e].filter (·.topic = .step) = [e] := by simp [step]
    rw [List.filter_append, only] at first
    obtain ⟨there, d', earlier, executed', told⟩ := walk.of_prefix first
    obtain rfl := Option.some.inj (executed.symm.trans executed')
    have same : here = there.cell := by
      rw [earlier.location_eq, Event.whereabouts_filter]
    rw [same]
    exact ⟨(earlier.onBoard start).next_step d, told⟩
  · intro command d
    have maze_v : v.maze = maze := (rules_of_new? new commands).2
    rw [← maze_v]
    exact playerBlocked_mem_apply

/-- The player goes to the left, and is blocked on its way down. -/
theorem player_path_classic :
    let config : Config := { updatePeriod := 1 }
    let sources : Roster Listed := .ofFn fun _ => ⟨[]⟩
    let w : World Listed Empty := start config .classic (.bundled default) sources
    let commands : List Command := [.movePlayer .left, .tick, .movePlayer .down, .tick]
    let log := (run commands w).2
    let before := log.take 4
    let here : Cell := ⟨23, 12⟩
    (new? config .classic (.bundled default) sources = .ok w ∧
      log.filterMap Event.reached? = [here] ∧ before ++ [.playerBlocked .down] <+: log) ∧
    Maze.classic.Floor here ∧ (run commands w).1.player = ⟨here, .down⟩ ∧
    Cell.Next .down here (here.step .down) ∧ ¬ Maze.classic.Floor (here.step .down) := by
  intro config sources w commands log before here
  have new : new? config .classic (.bundled default) sources = .ok w :=
    new?_eq_ok_iff.mpr ⟨by decide, rfl⟩
  obtain ⟨reached, first, there, led⟩ :
      log.filterMap Event.reached? = [here] ∧ before ++ [.playerBlocked .down] <+: log ∧
      Event.whereabouts playerSpawn log = ⟨here, .down⟩ ∧
      Event.whereabouts playerSpawn before = ⟨here, .left⟩ := by
    decide +kernel
  obtain ⟨_, floor, player, step, _⟩ := player_path new commands
  have player : (run commands w).1.player = ⟨here, .down⟩ := player.trans there
  have floor := floor (by rw [show _ = [here] from reached]; exact List.cons_ne_nil _ _)
  rw [player] at floor
  obtain ⟨next, told⟩ := step before _ _ first rfl
  rw [led] at next told
  refine ⟨⟨new, reached, first⟩, floor, player, next, fun wrong => ?_⟩
  rw [if_pos wrong] at told
  exact Event.noConfusion told

end World

end MazeChase
