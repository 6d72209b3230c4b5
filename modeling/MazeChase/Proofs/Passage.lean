import MazeChase.Proofs.Plan

/-!
# Ways through a maze

Which cells a ghost can pass depends on the walls and, on its way out of the house, on the house. A
ghost that always finds a way on stays on passable cells.

* `Scene.mem_exits`, `Scene.exits_congr`: the exits of a location;
* `Maze.Passable`: cells that some ghost can enter; `Maze.Passable.onBoard`;
* `Location.Clear`: a passable cell with a passable cell ahead;
* `Ghost.Stuck`: a ghost that can go nowhere; **`Ghost.plan_kind_eq_stranded_iff`**.
-/

set_option autoImplicit false

namespace MazeChase

/-! ## Passable cells -/

/-- Some ghost can enter the cell: it is no wall, or belongs to the house or to its exit. -/
def Maze.Passable (m : Maze) (c : Cell) : Prop :=
  m.wallAt c = false ∨ c.InHouse ∨ c = Cell.houseExit

instance (m : Maze) (c : Cell) : Decidable (m.Passable c) := by unfold Maze.Passable; infer_instance

theorem Maze.Passable.onBoard {m : Maze} {c : Cell} (h : m.Passable c) : c.OnBoard := by
  rcases h with wall | house | exit
  · exact onBoard_of_wallAt_eq_false wall
  · have rows : rowCount = 31 := rfl
    have cols : colCount = 28 := rfl
    obtain ⟨⟨_, _⟩, _, _⟩ := house
    refine ⟨⟨?_, ?_⟩, ?_, ?_⟩ <;> omega
  · rw [exit]
    decide

namespace Scene

variable {s : Scene} {spawning : Bool} {l : Location} {d : Direction}

theorem passable_of_isOpen {c : Cell} (h : s.isOpen spawning c = true) : s.maze.Passable c := by
  simp only [isOpen, Bool.or_eq_true, Bool.not_eq_true', Bool.and_eq_true,
    decide_eq_true_eq] at h
  rcases h with wall | ⟨_, house | exit⟩
  · exact .inl wall
  · exact .inr (.inl house)
  · exact .inr (.inr exit)

theorem mem_exits :
    d ∈ s.exits spawning l ↔ d ≠ l.heading.reversed ∧ s.isOpen spawning (l.neighbor d) = true := by
  rw [exits, List.mem_filter, decide_eq_true_eq]
  exact ⟨And.right, fun h => ⟨Direction.mem_all d, h⟩⟩

theorem passable_of_mem_exits (h : d ∈ s.exits spawning l) : s.maze.Passable (l.neighbor d) :=
  passable_of_isOpen (mem_exits.mp h).2

theorem exits_congr {t : Scene} (h : s.maze = t.maze) : s.exits = t.exits := by
  have opens : s.isOpen = t.isOpen := by
    funext spawning c
    rw [isOpen, isOpen, h]
  funext spawning l
  rw [exits, exits, opens]

end Scene

/-! ## Clear locations -/

theorem Location.IsOffBoard.not_onBoard {l : Location} (h : l.IsOffBoard) : ¬ l.cell.OnBoard := by
  rw [h]
  decide

/-- The cell of the location and the cell ahead of it are passable. -/
def Location.Clear (m : Maze) (l : Location) : Prop :=
  m.Passable l.cell ∧ m.Passable l.advanced.cell

instance (m : Maze) (l : Location) : Decidable (l.Clear m) := by
  unfold Location.Clear; infer_instance

theorem Cell.OnBoard.step_step_reversed {c : Cell} (h : c.OnBoard) (d : Direction) :
    (c.step d).step d.reversed = c := by
  have rows : rowCount = 31 := rfl
  have cols : colCount = 28 := rfl
  obtain ⟨⟨_, _⟩, _, _⟩ := h
  exact Cell.step_step_reversed d (by omega) (by omega)

namespace Location.Clear

variable {m : Maze} {l : Location}

theorem back (h : l.Clear m) : l.advanced.turnedBack.Clear m := by
  refine ⟨h.2, ?_⟩
  have here : l.advanced.turnedBack.advanced.cell = l.cell :=
    h.1.onBoard.step_step_reversed l.heading
  rw [here]
  exact h.1

theorem leave (h : l.Clear m) {d : Direction} (way : m.Passable (l.advanced.neighbor d)) :
    (l.advanced.facing d).Clear m :=
  ⟨h.2, way⟩

end Location.Clear

/-! ## Ghosts without a way -/

namespace Ghost

/-- The ghost is in the maze and free to choose a way on, but there is none. -/
def Stuck (s : Scene) (g : Ghost) : Prop :=
  ¬ g.location.IsOffBoard ∧ g.trap = 0 ∧ s.exits g.spawning g.location.advanced = []

theorem stuck_congr {s t : Scene} (h : s.maze = t.maze) (g : Ghost) : g.Stuck s ↔ g.Stuck t := by
  rw [Stuck, Stuck, Scene.exits_congr h]

variable {σ : Type} [RandomSource σ]

/-- **A plan strands a ghost** exactly when the ghost is stuck. -/
theorem plan_kind_eq_stranded_iff (s : Scene) (color : Color) (g : Ghost) (source : σ) :
    (g.plan s color source).kind = .stranded ↔ g.Stuck s := by
  constructor
  · intro kind
    have h := plan_planned s color g source
    rw [kind] at h
    generalize (g.plan s color source).ghost = planned at h
    cases h with
    | stranded here free stuck => exact ⟨here, free, stuck⟩
  · rintro ⟨here, free, stuck⟩
    rw [plan, if_neg here, if_neg (by omega), stuck]

end Ghost

end MazeChase
