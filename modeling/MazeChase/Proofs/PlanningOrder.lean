import Mathlib.Data.List.Perm.Basic
import MazeChase.Proofs.Backstage

/-!
# The order of plans

The plans of an update may be made one at a time in any order, or all at once. A task reads the
scene, its own ghost and its own source, and writes nothing that another task reads. So the way in
which plans are made leaves no trace in a game.

* `Planning.Sheet.task_comm`, `Planning.Sheet.inOrder_perm`: tasks in any order;
* `Planning.Sheet.inOrderAfresh`: each task looks at the ghosts anew;
* `World.withPlanning`, `World.run_ignores`: the same world, planned in another way;
* **`World.planning_order_irrelevant`**.
-/

set_option autoImplicit false

namespace MazeChase

/-! ## Tasks in any order -/

namespace Planning.Sheet

variable {σ : Type} [RandomSource σ]

omit [RandomSource σ] in
theorem ext_get {a b : Sheet σ} (ghosts : ∀ c, a.ghosts.get c = b.ghosts.get c)
    (sources : ∀ c, a.sources.get c = b.sources.get c)
    (kinds : ∀ c, a.kinds.get c = b.kinds.get c) : a = b := by
  have ghosts := Roster.ext_get ghosts
  have sources := Roster.ext_get sources
  have kinds := Roster.ext_get kinds
  cases a
  cases b
  simp_all

theorem task_comm (s : Scene) (sheet : Sheet σ) (c d : Color) :
    task s (task s sheet c) d = task s (task s sheet d) c := by
  by_cases same : c = d
  · rw [same]
  refine ext_get ?_ ?_ ?_ <;>
  · intro e
    simp only [task, Roster.get_set, same, Ne.symm same, if_false]
    by_cases hc : e = c
    · have hd : e ≠ d := hc ▸ same
      simp [hc, same]
    · simp [hc]

/-- The tasks may be done in any order. -/
theorem inOrder_perm (s : Scene) (sheet : Sheet σ) {order order' : List Color}
    (h : order.Perm order') : sheet.inOrder s order = sheet.inOrder s order' :=
  h.foldl_eq' (fun c _ d _ sheet => (task_comm s sheet c d).symm ▸ rfl) sheet

theorem location_task (s : Scene) (sheet : Sheet σ) (color : Color) :
    (task s sheet color).ghosts.map Ghost.location = sheet.ghosts.map Ghost.location := by
  refine Roster.ext_get fun c => ?_
  rw [Roster.get_map, Roster.get_map]
  simp only [task, Roster.get_set]
  split
  next h =>
    obtain ⟨_, _, frame⟩ := (sheet.ghosts.get color).plan_frame s color (sheet.sources.get color)
    rw [frame, h]
  next => rfl

/-- The tasks one after the other, each one looking anew where the ghosts are. -/
def inOrderAfresh (s : Scene) (order : List Color) (sheet : Sheet σ) : Sheet σ :=
  order.foldl (fun sheet color => task { s with ghosts := sheet.ghosts.map Ghost.location } sheet
    color) sheet

/-- Looking anew shows what was seen before. -/
theorem inOrderAfresh_eq (s : Scene) (order : List Color) (sheet : Sheet σ)
    (h : s.ghosts = sheet.ghosts.map Ghost.location) :
    sheet.inOrderAfresh s order = sheet.inOrder s order := by
  unfold inOrderAfresh inOrder
  induction order generalizing sheet with
  | nil => rw [List.foldl_nil, List.foldl_nil]
  | cons color order ih =>
    have scene : ({ s with ghosts := sheet.ghosts.map Ghost.location } : Scene) = s := by rw [← h]
    rw [List.foldl_cons, List.foldl_cons, scene]
    exact ih (task s sheet color) (by rw [location_task, h])

end Planning.Sheet

/-! ## Worlds that differ in the way of planning -/

namespace World

variable {σ μ : Type}

/-- The same world, planned in a certain way. -/
def withPlanning (p : Planning) (w : World σ μ) : World σ μ :=
  { w with config := { w.config with planning := p } }

variable [RandomSource σ] [ModeSource μ]

omit [RandomSource σ] [ModeSource μ] in
theorem withPlanning_eq (p : Planning) :
    withPlanning (σ := σ) (μ := μ) p = restage ({ · with planning := p }) := rfl

theorem update_ignores (p : Planning) : (update (σ := σ) (μ := μ)).Ignores (withPlanning p) := by
  intro w
  rw [withPlanning_eq]
  exact update_restage rfl rfl

theorem apply_ignores (p : Planning) (command : Command) :
    (apply (σ := σ) (μ := μ) command).Ignores (withPlanning p) := by
  cases command with
  | tick =>
    intro w
    have clock : Phase.Ignores (Phase.change fun w : World σ μ =>
        { w with tick := min (w.tick + 1) maxTick } : Phase _ Event) (withPlanning p) :=
      fun _ => rfl
    exact (((Phase.Ignores.tell (.tickAdvanced w.tick w.updateDue)).andThen
      ((update_ignores p).only w.updateDue)).andThen clock) w
  | movePlayer d => exact fun _ => rfl
  | setMode mode =>
    rw [withPlanning_eq]
    exact setMode_ignores _ (fun _ _ => rfl) mode

theorem run_ignores (p : Planning) (commands : List Command) :
    (run (σ := σ) (μ := μ) commands).Ignores (withPlanning p) :=
  .forEach (apply_ignores p) _

end World

/-- **Planning order does not matter.** Tasks in any order come to what both ways of planning give,
and looking anew changes nothing; so games that are planned in different ways are the same. -/
theorem World.planning_order_irrelevant {σ μ : Type} [RandomSource σ] [ModeSource μ] :
    (∀ (s : Scene) (sheet : Planning.Sheet σ) (order : List Color), order.Perm Color.all →
      (∀ p : Planning, p.planAll s sheet = sheet.inOrder s order) ∧
      (∀ color, ∃ next trap, (sheet.inOrder s order).ghosts.get color =
        { sheet.ghosts.get color with next := next, trap := trap }) ∧
      (s.ghosts = sheet.ghosts.map Ghost.location →
        sheet.inOrderAfresh s order = sheet.inOrder s Color.all)) ∧
    (∀ (w v : World σ μ), v = w.withPlanning v.config.planning → ∀ commands : List Command,
      (run commands v).2 = (run commands w).2 ∧
      (run commands v).1 = (run commands w).1.withPlanning v.config.planning) := by
  refine ⟨fun s sheet order perm => ?_, fun w v same commands => ?_⟩
  · have all := Planning.Sheet.inOrder_perm s sheet perm
    refine ⟨fun p => ?_, fun color => ?_, fun located => ?_⟩
    · rw [all, Planning.planAll_eq_atOnce, Planning.Sheet.inOrder_all]
    · rw [all, Planning.Sheet.inOrder_all, Planning.Sheet.atOnce, Roster.get_ofFn]
      exact Ghost.plan_frame ..
    · rw [Planning.Sheet.inOrderAfresh_eq s order sheet located, all]
  · have h := World.run_ignores v.config.planning commands w
    rw [← same] at h
    rw [h]
    exact ⟨rfl, rfl⟩

/-- Backwards instead of in roster order, when three ghosts wander and orange turns back. -/
theorem World.planning_order_irrelevant_backwards :
    let moves : List Direction :=
      List.replicate 7 .left ++ List.replicate 3 .down ++ List.replicate 3 .left ++
        List.replicate 3 .up ++ List.replicate 2 .left
    let w : World Listed ModeSnapshot :=
      (World.run (List.replicate 3 .tick ++ moves.flatMap (fun d => [.movePlayer d, .tick]) ++
        [.tick]) (World.start { updatePeriod := 1 } Maze.classic (.external ⟨.chase, some .chase⟩)
          (.ofFn fun _ => ⟨[1, 0]⟩))).1
    let sheet : Planning.Sheet Listed := ⟨w.ghosts, w.sources, .ofFn fun _ => .idle⟩
    let commands : List Command := [.tick, .movePlayer .right, .tick]
    (Planning.parallel.planAll w.scene sheet).kinds = ⟨.wandered, .wandered, .wandered, .reversed⟩ ∧
    ([.orange, .cyan, .pink, .red].Perm Color.all ∧
      Planning.parallel.planAll w.scene sheet =
        sheet.inOrder w.scene [.orange, .cyan, .pink, .red]) ∧
    (w.scene.ghosts = sheet.ghosts.map Ghost.location ∧
      sheet.inOrderAfresh w.scene [.orange, .cyan, .pink, .red] =
        sheet.inOrder w.scene Color.all) ∧
    w.withPlanning .sequential =
      w.withPlanning (w.withPlanning .sequential).config.planning ∧
    (World.run commands (w.withPlanning .sequential)).2 = (World.run commands w).2 := by
  intro moves w sheet commands
  have kinds : (Planning.parallel.planAll w.scene sheet).kinds =
      ⟨.wandered, .wandered, .wandered, .reversed⟩ := by
    decide +kernel
  -- The rest holds of every world, so how this one came about can be forgotten.
  clear_value w
  have perm : [.orange, .cyan, .pink, .red].Perm Color.all := by decide
  have irrelevant := World.planning_order_irrelevant (σ := Listed) (μ := ModeSnapshot)
  have plans := irrelevant.1 w.scene sheet _ perm
  have games := irrelevant.2 w (w.withPlanning .sequential) rfl commands
  exact ⟨kinds, ⟨perm, plans.1 .parallel⟩, ⟨rfl, plans.2.2 rfl⟩, rfl, games.1⟩

end MazeChase
