import MazeChase.Maze.Classic
import MazeChase.Proofs.Stranding

/-!
# Ghosts and walls

A ghost goes on to the cell ahead without looking at it. It does not walk through walls for another
reason: it chose that cell when it left the one before, and a ghost that turns back has the cell
that it came from ahead of it. Only a ghost that was stranded keeps a heading into a wall.

* `Color.clear_spawn_iff`, `Color.clear_house`: where ghosts start and where they come back;
* `Ghost.FindsWay`, `Ghost.course_findsWay`: the course of a ghost that always finds a way on;
* **`World.walls_respected`**: a ghost that was not stranded stands on a passable cell of the board
  and faces another one.
-/

set_option autoImplicit false

namespace MazeChase

/-! ## The cells where ghosts start -/

namespace Color

theorem inHouse_spawn {color : Color} (other : color ≠ .red) :
    color.spawn.cell.InHouse ∧ color.spawn.advanced.cell.InHouse := by
  cases color with
  | red => exact absurd rfl other
  | pink => decide
  | cyan => decide
  | orange => decide

/-- Red starts outside the house and needs floor there; the others do not depend on the maze. -/
theorem clear_spawn_iff (color : Color) (maze : Maze) : color.spawn.Clear maze ↔
    (color = .red → maze.wallAt ⟨11, 13⟩ = false ∧ maze.wallAt ⟨11, 12⟩ = false) := by
  by_cases red : color = .red
  · have outside : ∀ c ∈ [(⟨11, 13⟩ : Cell), ⟨11, 12⟩], ¬ c.InHouse ∧ c ≠ Cell.houseExit := by
      decide
    have start := outside ⟨11, 13⟩ (by decide)
    have ahead := outside ⟨11, 12⟩ (by decide)
    rw [red]
    change maze.Passable ⟨11, 13⟩ ∧ maze.Passable ⟨11, 12⟩ ↔ _
    simp only [Maze.Passable, start, ahead, or_false, forall_const]
  · obtain ⟨start, ahead⟩ := inHouse_spawn red
    exact iff_of_true ⟨.inr (.inl start), .inr (.inl ahead)⟩ fun h => absurd h red

theorem clear_house (color : Color) (maze : Maze) : color.house.Clear maze := by
  have home : ∃ c ≠ red, color.house = c.spawn := by
    cases color with
    | red => exact ⟨pink, by decide, rfl⟩
    | pink => exact ⟨pink, by decide, rfl⟩
    | cyan => exact ⟨cyan, by decide, rfl⟩
    | orange => exact ⟨orange, by decide, rfl⟩
  obtain ⟨c, other, same⟩ := home
  rw [same, clear_spawn_iff]
  exact fun h => absurd h other

end Color

/-! ## Ghosts that find a way -/

namespace Ghost

/-- The ghost can go on in this maze, or does not have to. -/
def FindsWay (maze : Maze) (g : Ghost) : Prop := ∀ s : Scene, s.maze = maze → ¬ g.Stuck s

theorem course_findsWay {maze : Maze} {color : Color} (spawn : color.spawn.Clear maze) :
    Course maze color (Location.Clear maze) (FindsWay maze) :=
  course_clear spawn (color.clear_house maze) fun hs _ way => way _ hs

end Ghost

namespace World

variable {σ μ : Type} [RandomSource σ] [ModeSource μ]

/-- **Ghosts do not walk through walls.** Unless a ghost has been stranded, its cell and the cell
ahead are on the board and open to it. -/
theorem walls_respected {config : Config} {maze : Maze} {modes : ModeControl μ} {sources : Roster σ}
    {w : World σ μ} (h : new? config maze modes sources = .ok w) (commands : List Command)
    {color : Color}
    (redStart : color = .red → maze.wallAt ⟨11, 13⟩ = false ∧ maze.wallAt ⟨11, 12⟩ = false)
    (going : ∀ l, .ghostStranded color l ∉ (run commands w).2)
    (here : ¬ ((run commands w).1.ghosts.get color).location.IsOffBoard) :
    let l := ((run commands w).1.ghosts.get color).location
    (maze.Passable l.cell ∧ l.cell.OnBoard) ∧
      maze.Passable (l.neighbor l.heading) ∧ (l.neighbor l.heading).OnBoard := by
  intro l
  have way : ∀ before, before ++ [.tick] <+: commands → (run before w).1.updateDue = true →
      ((run before w).1.ghosts.get color).FindsWay maze := by
    intro before first due s hs stuck
    have same : (run before w).1.scene.maze = s.maze := (rules_of_new? h before).2.trans hs.symm
    obtain ⟨l, told⟩ := (ghostStranded_mem_run commands w color).mpr
      ⟨before, first, due, (Ghost.stuck_congr same _).mpr stuck⟩
    exact going l told
  have course := Ghost.course_findsWay ((color.clear_spawn_iff maze).mpr redStart)
  have obeys := (course.law config).run (obeys_of_new? h color _) commands way
  have clear : l.Clear maze := (obeys.present_on here).2
  exact ⟨⟨clear.1, clear.1.onBoard⟩, clear.2, clear.2.onBoard⟩

/-- Red on the hunt in the classic maze. -/
theorem walls_respected_classic_red :
    let w : World Stream Empty := start { updatePeriod := 1 } .classic (.bundled default)
      (seededStreams ({} : Config).rngSeed)
    let commands : List Command := .setMode .chase :: List.replicate 15 .tick
    let l := ((run commands w).1.ghosts.get .red).location
    seeded? { updatePeriod := 1 } .classic = .ok w ∧
      (Maze.classic.wallAt ⟨11, 13⟩ = false ∧ Maze.classic.wallAt ⟨11, 12⟩ = false) ∧
      (∀ l, .ghostStranded .red l ∉ (run commands w).2) ∧ ¬ l.IsOffBoard ∧
      (Maze.classic.Passable l.cell ∧ l.cell.OnBoard) ∧
      Maze.classic.Passable (l.neighbor l.heading) ∧ (l.neighbor l.heading).OnBoard := by
  intro w commands l
  have new : seeded? { updatePeriod := 1 } .classic = .ok w := new?_eq_ok_iff.mpr ⟨by decide, rfl⟩
  have floor : Maze.classic.wallAt ⟨11, 13⟩ = false ∧ Maze.classic.wallAt ⟨11, 12⟩ = false := by
    decide +kernel
  have quiet : (∀ e ∈ (run commands w).2, e.topic ≠ .plan) ∧ ¬ l.IsOffBoard := by decide +kernel
  have going : ∀ l, .ghostStranded .red l ∉ (run commands w).2 := fun l told => quiet.1 _ told rfl
  exact ⟨new, floor, going, quiet.2,
    walls_respected new commands (fun _ => floor) going quiet.2⟩

end World

end MazeChase
