import MazeChase.Proofs.GhostLaw
import MazeChase.Proofs.Passage

/-!
# Where ghosts are between updates

Between two updates a ghost either is outside the maze, before it starts or after it was eaten, or
it stands where it planned to be. This holds in every maze, also for a ghost that can go nowhere and
walks off the board: it stays in its lane, and the place outside the maze lies in no lane.

* `Ghost.Outside`, `Ghost.Present`, `Ghost.InTime`: the two shapes of a ghost, and its timers;
* `Ghost.Course`: locations that a ghost does not leave; `Ghost.Course.law`: the law of a ghost on
  such a course;
* `Location.InLane`, `Ghost.course_inLane`: every ghost stays in the lanes of the board;
* **`World.ghost_shape`**: after every run, every ghost is in exactly one of the two shapes.
-/

set_option autoImplicit false

namespace MazeChase

/-! ## Shapes -/

namespace Ghost

/-- The ghost is outside the maze: it has not started, or it was eaten and has not come back. -/
structure Outside (color : Color) (unstarted : Prop) (g : Ghost) : Prop where
  location : g.location = .offBoard
  spawning : g.spawning = true
  reason : (unstarted ∧ g.eaten = false ∧ g.fright = 0 ∧ g.next = color.spawn) ∨
    (g.eaten = true ∧ 0 < g.fright ∧ g.next = color.house)

/-- The ghost is in play, and no move of it is pending. -/
structure Present (g : Ghost) : Prop where
  location : ¬ g.location.IsOffBoard
  next : g.next = g.location
  eaten : g.eaten = false

/-- The timers are in the range of what a super pellet and the start of the game set. -/
structure InTime (config : Config) (color : Color) (g : Ghost) : Prop where
  fright : g.fright ≤ config.frightCycles.toNat
  trap : g.trap ≤ max 1 color.initialTrap

variable {config : Config} {color : Color}

theorem Outside.not_present {unstarted : Prop} {g : Ghost} (h : g.Outside color unstarted) :
    ¬ g.Present := by
  intro p
  refine p.location ?_
  rw [h.location]
  rfl

theorem inTime_new (config : Config) (color : Color) : (new color).InTime config color :=
  ⟨Nat.zero_le _, Nat.le_max_right ..⟩

theorem InTime.frighten {g : Ghost} (h : g.InTime config color) :
    (g.frighten config.frightCycles.toNat).InTime config color := by
  refine ⟨Nat.le_refl _, ?_⟩
  have := h.trap
  simp only [Ghost.frighten]
  split <;> omega

theorem InTime.respawn {g : Ghost} (h : g.InTime config color) :
    (g.respawn color).InTime config color :=
  ⟨h.fright, h.trap⟩

theorem InTime.afterCheck {g : Ghost} (h : g.InTime config color) (player : Location) :
    (g.afterCheck player color).InTime config color := by
  unfold Ghost.afterCheck
  split
  · exact h.respawn
  · exact h

theorem InTime.update {g : Ghost} (h : g.InTime config color) : g.update.InTime config color := by
  refine ⟨?_, h.trap⟩
  have := h.fright
  simp only [Ghost.update]
  split <;> omega

theorem InTime.planned {g g' : Ghost} {s : Scene} {kind : PlanKind} (h : g.InTime config color)
    (plan : g.Planned s g' kind) : g'.InTime config color := by
  cases plan with
  | idle => exact h
  | reversed => exact ⟨h.fright, Nat.le_trans (Nat.sub_le ..) h.trap⟩
  | stranded => exact ⟨h.fright, h.trap⟩
  | wandered => exact ⟨h.fright, h.trap⟩
  | pursued => exact ⟨h.fright, h.trap⟩

/-! ## Courses -/

/-- Locations that a ghost does not leave: it starts and comes back on one of them, and from each it
reaches the next one whether it turns back, takes an exit or is stranded where it is `safe`. None
of them is the place outside the maze. -/
structure Course (maze : Maze) (color : Color) (on : Location → Prop) (safe : Ghost → Prop) :
    Prop where
  spawn : on color.spawn
  house : on color.house
  back : ∀ {l : Location}, on l → on l.advanced.turnedBack
  leave : ∀ {s : Scene} {l : Location} {spawning : Bool} {d : Direction}, s.maze = maze → on l →
    d ∈ s.exits spawning l.advanced → on (l.advanced.facing d)
  strand : ∀ {s : Scene} {g : Ghost}, s.maze = maze → on g.location → safe g → g.trap = 0 →
    s.exits g.spawning g.location.advanced = [] → on g.location.advanced
  inside : ∀ {l : Location}, on l → ¬ l.IsOffBoard

variable {maze : Maze} {on : Location → Prop} {safe : Ghost → Prop}

/-- Between updates: the ghost was eaten, or it is present on its course. -/
def SettledOn (config : Config) (color : Color) (on : Location → Prop) (g : Ghost) : Prop :=
  g.InTime config color ∧ (g.Outside color False ∨ (g.Present ∧ on g.location))

theorem SettledOn.of_not_isOffBoard {g : Ghost} (h : g.SettledOn config color on)
    (here : ¬ g.location.IsOffBoard) : g.Present ∧ on g.location := by
  rcases h.2 with outside | present
  · refine absurd ?_ here
    rw [outside.location]
    rfl
  · exact present

namespace Course

theorem on_next (course : Course maze color on safe) {s : Scene} {g g' : Ghost} {kind : PlanKind}
    (hs : s.maze = maze) (h : g.SettledOn config color on) (guard : safe g)
    (plan : g.Planned s g' kind) : on g'.next := by
  cases plan with
  | idle off =>
    rcases h.2 with outside | ⟨present, _⟩
    · rcases outside.reason with ⟨impossible, _⟩ | ⟨_, _, next⟩
      · exact impossible.elim
      · rw [next]
        exact course.house
    · exact absurd off present.location
  | reversed here => exact course.back (h.of_not_isOffBoard here).2
  | stranded here free stuck =>
    exact course.strand hs (h.of_not_isOffBoard here).2 guard free stuck
  | wandered here _ _ exit => exact course.leave hs (h.of_not_isOffBoard here).2 exit
  | pursued here _ exit => exact course.leave hs (h.of_not_isOffBoard here).2 exit

theorem on_next_afterCheck (course : Course maze color on safe) {g : Ghost} (h : on g.next)
    (player : Location) : on (g.afterCheck player color).next := by
  unfold Ghost.afterCheck
  split
  · exact course.house
  · exact h

/-- **The law of a ghost on a course**: between updates it is outside the maze or present on the
course. -/
theorem law (course : Course maze color on safe) (config : Config) :
    Law config maze color (SettledOn config color on)
      (fun g => g.InTime config color ∧ on g.next) safe where
  new := ⟨inTime_new config color, course.spawn⟩
  plan := fun hs h guard plan => ⟨h.1.planned plan, course.on_next hs h guard plan⟩
  frighten := fun h => ⟨h.1.frighten, h.2⟩
  check := fun player h => ⟨h.1.afterCheck player, course.on_next_afterCheck h.2 player⟩
  move := fun h => ⟨h.1.update, .inr ⟨⟨course.inside h.2, rfl, rfl⟩, h.2⟩⟩
  recheck := by
    intro g player h
    refine ⟨h.1.afterCheck player, ?_⟩
    unfold Ghost.afterCheck
    split
    next met => exact .inl ⟨rfl, rfl, .inr ⟨rfl, met.2.2, rfl⟩⟩
    next => exact h.2

end Course

end Ghost

/-! ## Lanes -/

/-- The location lies in a lane of the board, a column if it heads along a column and a row
otherwise. Its cell may be off the board, before or behind the lane. -/
def Location.InLane (l : Location) : Prop :=
  (l.heading.colDelta = 0 → 0 ≤ l.cell.col.val ∧ l.cell.col.val < colCount) ∧
    (l.heading.rowDelta = 0 → 0 ≤ l.cell.row.val ∧ l.cell.row.val < rowCount)

instance (l : Location) : Decidable l.InLane := by unfold Location.InLane; infer_instance

namespace Location

theorem col_advanced {l : Location} (h : l.heading.colDelta = 0) :
    l.advanced.cell.col = l.cell.col := by
  change Coord.clamp (l.cell.col.val + l.heading.colDelta) = l.cell.col
  rw [h, Int.add_zero, Coord.clamp_val]

theorem row_advanced {l : Location} (h : l.heading.rowDelta = 0) :
    l.advanced.cell.row = l.cell.row := by
  change Coord.clamp (l.cell.row.val + l.heading.rowDelta) = l.cell.row
  rw [h, Int.add_zero, Coord.clamp_val]

theorem InLane.advanced {l : Location} (h : l.InLane) : l.advanced.InLane := by
  refine ⟨fun column => ?_, fun row => ?_⟩
  · rw [heading_advanced] at column
    rw [col_advanced column]
    exact h.1 column
  · rw [heading_advanced] at row
    rw [row_advanced row]
    exact h.2 row

theorem InLane.turnedBack {l : Location} (h : l.InLane) : l.turnedBack.InLane := by
  refine ⟨fun column => h.1 ?_, fun row => h.2 ?_⟩
  · simp only [Location.turnedBack, Direction.colDelta_reversed] at column
    omega
  · simp only [Location.turnedBack, Direction.rowDelta_reversed] at row
    omega

theorem inLane_facing {l : Location} {d : Direction} (h : (l.neighbor d).OnBoard) :
    (l.facing d).InLane := by
  refine ⟨fun column => ?_, fun row => ?_⟩
  · have same : (l.neighbor d).col = l.cell.col := col_advanced (l := l.facing d) column
    change 0 ≤ l.cell.col.val ∧ l.cell.col.val < colCount
    rw [← same]
    exact h.2
  · have same : (l.neighbor d).row = l.cell.row := row_advanced (l := l.facing d) row
    change 0 ≤ l.cell.row.val ∧ l.cell.row.val < rowCount
    rw [← same]
    exact h.1

theorem InLane.not_isOffBoard {l : Location} (h : l.InLane) : ¬ l.IsOffBoard := by
  intro off
  rw [InLane, off] at h
  cases heading : l.heading <;> rw [heading] at h <;> revert h <;> decide

end Location

theorem Ghost.course_inLane (maze : Maze) (color : Color) :
    Course maze color Location.InLane fun _ => True where
  spawn := by cases color <;> decide
  house := by cases color <;> decide
  back := fun h => h.advanced.turnedBack
  leave := fun _ _ exit =>
    Location.inLane_facing (Scene.passable_of_mem_exits exit).onBoard
  strand := fun _ h _ _ _ => h.advanced
  inside := fun h => h.not_isOffBoard

/-! ## After every run -/

namespace World

variable {σ μ : Type}

namespace Obeys

variable {config : Config} {maze : Maze} {color : Color} {on : Location → Prop} {w : World σ μ}

theorem present_on (h : w.Obeys config maze color (Ghost.SettledOn config color on))
    (here : ¬ (w.ghosts.get color).location.IsOffBoard) :
    (w.ghosts.get color).Present ∧ on (w.ghosts.get color).location := by
  rcases h.ghost with ⟨_, new⟩ | ⟨_, settled⟩
  · rw [new] at here
    exact absurd rfl here
  · exact settled.of_not_isOffBoard here

theorem location_eq_offBoard (h : w.Obeys config maze color (Ghost.SettledOn config color on))
    (off : (w.ghosts.get color).location.IsOffBoard) :
    (w.ghosts.get color).location = .offBoard := by
  rcases h.ghost with ⟨_, new⟩ | ⟨_, _, outside | ⟨present, _⟩⟩
  · rw [new]
    rfl
  · exact outside.location
  · exact absurd off present.location

end Obeys

variable [RandomSource σ] [ModeSource μ]

omit [RandomSource σ] in
theorem obeys_of_new? {config : Config} {maze : Maze} {modes : ModeControl μ} {sources : Roster σ}
    {w : World σ μ} (h : new? config maze modes sources = .ok w) (color : Color)
    (settled : Ghost → Prop) : w.Obeys config maze color settled := by
  obtain ⟨_, rfl⟩ := new?_eq_ok_iff.mp h
  exact ⟨rfl, rfl, .inl ⟨rfl, Roster.get_ofFn ..⟩⟩

theorem obeys_inLane {config : Config} {maze : Maze} {modes : ModeControl μ} {sources : Roster σ}
    {w : World σ μ} (h : new? config maze modes sources = .ok w) (commands : List Command)
    (color : Color) :
    (run commands w).1.Obeys config maze color (Ghost.SettledOn config color Location.InLane) :=
  ((Ghost.course_inLane maze color).law config).run (obeys_of_new? h color _) commands
    fun _ _ _ => trivial

/-- **Ghosts have two shapes.** A ghost is outside the maze or in play with no move pending, never
both, and its timers are in range. -/
theorem ghost_shape {config : Config} {maze : Maze} {modes : ModeControl μ} {sources : Roster σ}
    {w : World σ μ} (h : new? config maze modes sources = .ok w) (commands : List Command)
    (color : Color) :
    let v := (run commands w).1
    Xor ((v.ghosts.get color).Outside color (.tick ∉ commands ∧ v.tick = 0))
        (v.ghosts.get color).Present ∧
      (v.ghosts.get color).InTime config color := by
  intro v
  have obeys := obeys_inLane h commands color
  have clock : v.tick = 0 ↔ .tick ∉ commands := by
    obtain ⟨_, rfl⟩ := new?_eq_ok_iff.mp h
    exact tick_run commands _ rfl
  rcases obeys.ghost with ⟨start, new⟩ | ⟨_, time, outside | ⟨present, _⟩⟩
  · rw [new]
    have outside : (Ghost.new color).Outside color (.tick ∉ commands ∧ v.tick = 0) :=
      ⟨rfl, rfl, .inl ⟨⟨clock.mp start, start⟩, rfl, rfl, rfl⟩⟩
    exact ⟨.inl ⟨outside, outside.not_present⟩, Ghost.inTime_new config color⟩
  · have outside : (v.ghosts.get color).Outside color (.tick ∉ commands ∧ v.tick = 0) := by
      refine ⟨outside.location, outside.spawning, ?_⟩
      rcases outside.reason with ⟨impossible, _⟩ | eaten
      · exact impossible.elim
      · exact .inr eaten
    exact ⟨.inl ⟨outside, outside.not_present⟩, time⟩
  · exact ⟨.inr ⟨present, fun outside => outside.not_present present⟩, time⟩

/-- Red on open floor, after its first update. -/
theorem ghost_shape_openFloor :
    let w : World Listed ModeSnapshot := start {} .openFloor (.external ⟨.chase, some .chase⟩)
      (.ofFn fun _ => ⟨[]⟩)
    let commands : List Command := [.tick, .movePlayer .up, .tick]
    let v := (run commands w).1
    new? {} .openFloor (.external ⟨.chase, some .chase⟩) (.ofFn fun _ => ⟨[]⟩) = .ok w ∧
      Xor ((v.ghosts.get .red).Outside .red (.tick ∉ commands ∧ v.tick = 0))
          (v.ghosts.get .red).Present ∧
        (v.ghosts.get .red).InTime {} .red := by
  intro w commands v
  have new : new? {} .openFloor (.external ⟨.chase, some .chase⟩) (.ofFn fun _ => ⟨[]⟩) = .ok w :=
    new?_eq_ok_iff.mpr ⟨by decide, rfl⟩
  exact ⟨new, ghost_shape new commands .red⟩

end World

end MazeChase
