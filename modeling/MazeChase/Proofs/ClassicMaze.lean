import MazeChase.Proofs.Counting
import MazeChase.Proofs.Stranding

/-!
# Ghosts in the classic maze

Wherever a ghost comes in the classic maze, it finds a way on, with one exception: the tunnel of
row 14 does not lead around the board, and a ghost that has entered it cannot turn back. So a ghost
is stranded at an end of the tunnel, and walks off the board from there.

* `Maze.classicWalls`, `Maze.wallAt_classic`: the walls, drawn out;
* `Maze.two_ways_classic`: every other cell has two ways out;
* `Ghost.LeavesTunnel`, `Ghost.stuck_classic_iff`: where a ghost gets stuck;
* **`World.classic_inside_iff`**: the ghosts stay inside and are never stranded in exactly those
  runs in which no update finds a ghost about to leave the tunnel;
* `World.classic_pink_escapes`: a game in which pink follows the player into the tunnel.
-/

set_option autoImplicit false

namespace MazeChase

/-! ## The maze -/

namespace Maze

/-- The walls of the classic maze, one word for each row. The lowest digit is column zero, so that
this is a mirror image. -/
def classicWalls : CellSet where
  rows := #v[
    0b1111111111111111111111111111,
    0b1000000000000110000000000001,
    0b1011110111110110111110111101,
    0b1011110111110110111110111101,
    0b1011110111110110111110111101,
    0b1000000000000000000000000001,
    0b1011110110111111110110111101,
    0b1011110110111111110110111101,
    0b1000000110000110000110000001,
    0b1111110111110110111110111111,
    0b0000010111110110111110100000,
    0b0000010110000000000110100000,
    0b0000010110111111110110100000,
    0b1111110110110000010110111111,
    0b0000000000110000010000000000,
    0b1111110110111111110110111111,
    0b0000010110111111110110100000,
    0b0000010110000000000110100000,
    0b0000010110111111110110100000,
    0b1111110110111111110110111111,
    0b1000000000000110000000000001,
    0b1011110111110110111110111101,
    0b1011110111110110111110111101,
    0b1000110000000000000000110001,
    0b1110110110111111110110110111,
    0b1110110110111111110110110111,
    0b1000000110000110000110000001,
    0b1011111111110110111111111101,
    0b1011111111110110111111111101,
    0b1000000000000000000000000001,
    0b1111111111111111111111111111]

theorem walls_classic : classic.walls = classicWalls := by decide +kernel

theorem wallAt_classic (c : Cell) :
    classic.wallAt c = (!decide c.OnBoard || classicWalls.contains c) := by
  rw [wallAt, walls_classic]

/-- The ends of the tunnel. -/
def tunnelEnds : List Cell := [⟨14, 0⟩, ⟨14, 27⟩]

/-- Where a ghost is that will step onto an end of the tunnel and off the board: one cell before the
end, heading out. -/
def tunnelMouths : List Location := [⟨⟨14, 1⟩, .left⟩, ⟨⟨14, 26⟩, .right⟩]

/-- Two directions at least lead away from every passable cell other than the ends of the
tunnel. -/
theorem two_ways_classic : ∀ c ∈ Cell.board, classic.Passable c →
    c ∈ tunnelEnds ∨ 2 ≤ Direction.all.countP fun d => !classic.wallAt (c.step d) := by
  simp only [Passable, wallAt_classic]
  decide +kernel

theorem tunnelMouths_of_step : ∀ c ∈ tunnelEnds, ∀ d ∈ Direction.all,
    classic.Passable (c.step d.reversed) → ⟨c.step d.reversed, d⟩ ∈ tunnelMouths := by
  simp only [Passable, wallAt_classic]
  decide +kernel

theorem not_passable_of_mem_tunnelMouths : ∀ l ∈ tunnelMouths, ∀ d ∈ Direction.all,
    d ≠ l.heading.reversed → ¬ classic.Passable (l.advanced.neighbor d) := by
  simp only [Passable, wallAt_classic]
  decide +kernel

theorem clear_spawn_classic : ∀ color ∈ Color.all, color.spawn.Clear classic := by
  simp only [Location.Clear, Passable, wallAt_classic]
  decide +kernel

theorem clear_house_classic : ∀ color ∈ Color.all, color.house.Clear classic := by
  intro color _
  cases color <;> exact clear_spawn_classic _ (Color.mem_all _)

end Maze

theorem Direction.exists_ne_of_two_le_countP {p : Direction → Bool} (h : 2 ≤ all.countP p)
    (r : Direction) : ∃ d, d ≠ r ∧ p d = true := by
  by_contra none
  have only : ∀ d ∈ all, p d = true → (d == r) = true := by
    intro d _ hd
    rw [beq_iff_eq]
    by_contra ne
    exact none ⟨d, ne, hd⟩
  have one : all.countP (· == r) = 1 := by cases r <;> rfl
  have := List.countP_mono_left only
  omega

/-! ## Where ghosts get stuck -/

namespace Ghost

/-- The ghost is about to run out of the tunnel. -/
def LeavesTunnel (g : Ghost) : Prop := g.trap = 0 ∧ g.location ∈ Maze.tunnelMouths

instance (g : Ghost) : Decidable g.LeavesTunnel := by unfold LeavesTunnel; infer_instance

theorem LeavesTunnel.stuck {s : Scene} {g : Ghost} (hs : s.maze = .classic)
    (h : g.LeavesTunnel) : g.Stuck s := by
  have here : ∀ l ∈ Maze.tunnelMouths, ¬ l.IsOffBoard := by decide
  refine ⟨here _ h.2, h.1, ?_⟩
  refine List.eq_nil_iff_forall_not_mem.mpr fun d exit => ?_
  have passable := Scene.passable_of_mem_exits exit
  rw [hs] at passable
  exact Maze.not_passable_of_mem_tunnelMouths _ h.2 d (Direction.mem_all d)
    (Scene.mem_exits.mp exit).1 passable

/-- **A ghost on a clear location** is stuck exactly when it is about to run out of the tunnel. -/
theorem stuck_classic_iff {s : Scene} {g : Ghost} (hs : s.maze = .classic)
    (clear : g.location.Clear .classic) : g.Stuck s ↔ g.LeavesTunnel := by
  refine ⟨fun ⟨_, free, stuck⟩ => ⟨free, ?_⟩, fun h => h.stuck hs⟩
  have board := clear.2.onBoard.mem_board
  rcases Maze.two_ways_classic _ board clear.2 with tunnel | ways
  · have back : g.location.advanced.cell.step g.location.heading.reversed = g.location.cell :=
      clear.1.onBoard.step_step_reversed g.location.heading
    have mouth := Maze.tunnelMouths_of_step _ tunnel g.location.heading (Direction.mem_all _)
    rw [back] at mouth
    exact mouth clear.1
  · obtain ⟨d, ahead, way⟩ := Direction.exists_ne_of_two_le_countP ways g.location.heading.reversed
    have exit : d ∈ s.exits g.spawning g.location.advanced := by
      refine Scene.mem_exits.mpr ⟨ahead, ?_⟩
      rw [Scene.isOpen, hs, Bool.or_eq_true]
      exact .inl way
    rw [stuck] at exit
    exact absurd exit (List.not_mem_nil)

theorem course_classic (color : Color) :
    Course .classic color (Location.Clear .classic) fun g => ¬ g.LeavesTunnel :=
  course_clear (Maze.clear_spawn_classic color (Color.mem_all color))
    (Maze.clear_house_classic color (Color.mem_all color))
    fun hs clear guard stuck => guard ((stuck_classic_iff hs clear).mp stuck)

end Ghost

/-! ## Runs in the classic maze -/

namespace World

variable {σ μ : Type}

/-- Every ghost is on the board or at the place outside the maze. -/
def GhostsInside (w : World σ μ) : Prop :=
  ∀ color, (w.ghosts.get color).location.cell.OnBoard ∨ (w.ghosts.get color).location = .offBoard

variable [RandomSource σ] [ModeSource μ]

theorem obeys_classic {config : Config} {modes : ModeControl μ} {sources : Roster σ}
    {w : World σ μ} (h : new? config .classic modes sources = .ok w) (color : Color)
    {commands : List Command}
    (guard : ∀ before, before ++ [.tick] <+: commands → (run before w).1.updateDue = true →
      ¬ ((run before w).1.ghosts.get color).LeavesTunnel) :
    (run commands w).1.Obeys config .classic color
      (Ghost.SettledOn config color (Location.Clear .classic)) :=
  ((Ghost.course_classic color).law config).run (obeys_of_new? h color _) commands guard

/-- **Ghosts in the classic maze.** They stay inside and none is stranded, if and only if no update
finds one about to run out of the tunnel. -/
theorem classic_inside_iff {config : Config} {modes : ModeControl μ} {sources : Roster σ}
    {w : World σ μ} (h : new? config .classic modes sources = .ok w) (commands : List Command) :
    ((∀ before, before <+: commands → (run before w).1.GhostsInside) ∧
      ∀ color l, .ghostStranded color l ∉ (run commands w).2) ↔
    ∀ before, before ++ [.tick] <+: commands → (run before w).1.updateDue = true →
      ∀ color, ¬ ((run before w).1.ghosts.get color).LeavesTunnel := by
  have maze : ∀ before, (run before w).1.scene.maze = .classic := fun before =>
    (rules_of_new? h before).2
  constructor
  · rintro ⟨_, never⟩ before first due color leaves
    obtain ⟨l, told⟩ := (ghostStranded_mem_run commands w color).mpr
      ⟨before, first, due, leaves.stuck (maze before)⟩
    exact never color l told
  · intro guard
    have obeys : ∀ before, before <+: commands → ∀ color, (run before w).1.Obeys config .classic
        color (Ghost.SettledOn config color (Location.Clear .classic)) := by
      intro before first color
      refine obeys_classic h color fun earlier tick due => ?_
      exact guard earlier (tick.trans first) due color
    refine ⟨fun before first color => ?_, fun color l told => ?_⟩
    · by_cases off : ((run before w).1.ghosts.get color).location.IsOffBoard
      · exact .inr ((obeys before first color).location_eq_offBoard off)
      · exact .inl ((obeys before first color).present_on off).2.1.onBoard
    · obtain ⟨before, first, due, stuck⟩ := (ghostStranded_mem_run commands w color).mp ⟨l, told⟩
      have prefix_before := (List.prefix_append before [.tick]).trans first
      have clear := ((obeys before prefix_before color).present_on stuck.1).2
      exact guard before first due color ((Ghost.stuck_classic_iff (maze before) clear).mp stuck)

/-- Pink hunts the player through the tunnel, up to one cell before its end. -/
theorem classic_inside_chase :
    let w : World Stream Empty := start { updatePeriod := 1 } .classic (.bundled default)
      (seededStreams ({} : Config).rngSeed)
    let moves : List Direction :=
      List.replicate 7 .left ++ List.replicate 9 .up ++ List.replicate 6 .left
    let commands : List Command :=
      .setMode .chase :: moves.flatMap (fun d => [.movePlayer d, .tick]) ++ List.replicate 2 .tick
    seeded? { updatePeriod := 1 } .classic = .ok w ∧
      ((run commands w).1.ghosts.get .pink).location = ⟨⟨14, 1⟩, .left⟩ ∧
      (∀ before, before <+: commands → (run before w).1.GhostsInside) ∧
      ∀ color l, .ghostStranded color l ∉ (run commands w).2 := by
  intro w moves commands
  have new : new? { updatePeriod := 1 } .classic (.bundled default)
      (seededStreams ({} : Config).rngSeed) = .ok w :=
    new?_eq_ok_iff.mpr ⟨by decide, rfl⟩
  let NoneLeaves (v : World Stream Empty) : Prop :=
    ∀ color ∈ Color.all, ¬ (v.ghosts.get color).LeavesTunnel
  have chase : ((run commands w).1.ghosts.get .pink).location = ⟨⟨14, 1⟩, .left⟩ ∧
      ∀ n ∈ List.range commands.length, NoneLeaves (run (commands.take n) w).1 := by
    decide +kernel
  refine ⟨new, chase.1, (classic_inside_iff new commands).mpr fun before first _ color => ?_⟩
  exact holds_before_of_take NoneLeaves chase.2 first color (Color.mem_all color)

/-- **Pink follows the player into the tunnel**, is stranded at its end, and leaves the board. -/
theorem classic_pink_escapes :
    let w : World Stream Empty := start { updatePeriod := 1 } .classic (.bundled default)
      (seededStreams ({} : Config).rngSeed)
    let moves : List Direction :=
      List.replicate 7 .left ++ List.replicate 9 .up ++ List.replicate 6 .left
    let commands : List Command :=
      .setMode .chase :: moves.flatMap (fun d => [.movePlayer d, .tick]) ++ List.replicate 4 .tick
    seeded? { updatePeriod := 1 } .classic = .ok w ∧
      .ghostStranded .pink ⟨⟨14, 0⟩, .left⟩ ∈ (run commands w).2 ∧
      ¬ (run commands w).1.GhostsInside := by
  intro w moves commands
  have escape : .ghostStranded .pink ⟨⟨14, 0⟩, .left⟩ ∈ (run commands w).2 ∧
      ¬ (((run commands w).1.ghosts.get .pink).location.cell.OnBoard ∨
        ((run commands w).1.ghosts.get .pink).location = .offBoard) := by
    decide +kernel
  exact ⟨new?_eq_ok_iff.mpr ⟨by decide, rfl⟩, escape.1, fun inside => escape.2 (inside .pink)⟩

end World

end MazeChase
