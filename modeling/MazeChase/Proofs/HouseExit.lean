import MazeChase.Proofs.ClassicMaze
import MazeChase.Proofs.Fate

/-!
# The way out of the house

In the classic maze the house has one exit, which only a ghost that is spawning can pass. A ghost
stops spawning when it leaves the doorstep, the cell in front of the exit. So a ghost that turns
back on the doorstep, because a super pellet traps it on its last step out, walks back into the
house and is spawning no longer. This is the only way in which it happens.

* `Cell.Indoors`, `Cell.Outdoors`, `Cell.doorstep`: the house and what lies outside it;
* `Location.Emerging`, `Location.Roaming`: on the way out, and on the way outside;
* `Ghost.Placed`: a ghost emerges while it is spawning and roams when it is not;
* `Ghost.FacesHouse`, `Ghost.placed_law`: the law of a ghost that does not turn back on the
  doorstep;
* **`World.classic_spawning_iff`**: the ghosts in the house are spawning in exactly those runs in
  which every ghost that an update finds on the doorstep, facing the house, is eaten in it;
* `World.tick_of_facesHouse`, `World.classic_cyan_locked_in`: a game in which cyan walks back into
  the house.
-/

set_option autoImplicit false

namespace MazeChase

/-! ## Indoors and outdoors -/

namespace Cell

/-- The cell belongs to the house or is its exit. -/
def Indoors (c : Cell) : Prop := c.InHouse ∨ c = houseExit

instance (c : Cell) : Decidable c.Indoors := by unfold Indoors; infer_instance

/-- The cell in front of the exit of the house, on which red starts. -/
def doorstep : Cell := Color.red.spawn.cell

/-- Where ghosts roam outside the house of the classic maze: its open cells, and the row of the
tunnel beyond both ends. -/
def Outdoors (c : Cell) : Prop :=
  (Maze.classic.wallAt c = false ∧ ¬ c.Indoors) ∨ (c.row.val = 14 ∧ ¬ c.OnBoard)

instance (c : Cell) : Decidable c.Outdoors := by unfold Outdoors; infer_instance

theorem onBoard_iff (c : Cell) :
    c.OnBoard ↔ (0 ≤ c.row.val ∧ c.row.val < 31) ∧ 0 ≤ c.col.val ∧ c.col.val < 28 := Iff.rfl

theorem Indoors.bounds {c : Cell} (h : c.Indoors) :
    (12 ≤ c.row.val ∧ c.row.val ≤ 14) ∧ 11 ≤ c.col.val ∧ c.col.val ≤ 15 := by
  rcases h with ⟨⟨_, _⟩, _, _⟩ | rfl
  · refine ⟨⟨?_, ?_⟩, ?_, ?_⟩ <;> omega
  · decide

theorem Indoors.onBoard {c : Cell} (h : c.Indoors) : c.OnBoard := by
  have := h.bounds
  rw [onBoard_iff]
  omega

theorem Indoors.passable {c : Cell} (h : c.Indoors) : Maze.classic.Passable c := .inr h

theorem wallAt_houseExit : Maze.classic.wallAt houseExit = true := by
  rw [Maze.wallAt_classic]
  decide +kernel

theorem next_to_indoors_classic : ∀ c ∈ board, c.Indoors → ∀ d ∈ Direction.all,
    (c.step d).Outdoors → c.step d = doorstep ∧ c = houseExit := by
  simp only [Outdoors, Maze.wallAt_classic]
  decide +kernel

theorem outdoors_tunnel_classic : ∀ c ∈ board, c.row.val = 14 →
    c.col.val ≤ 1 ∨ 26 ≤ c.col.val → c.Outdoors := by
  simp only [Outdoors, Maze.wallAt_classic]
  decide +kernel

/-! ## Beyond the ends of the tunnel -/

theorem val_row_step (c : Cell) (d : Direction) : (c.step d).row.val =
    if c.row.val + d.rowDelta < -128 then -128 else
      if 127 < c.row.val + d.rowDelta then 127 else c.row.val + d.rowDelta :=
  Coord.val_clamp _

theorem val_col_step (c : Cell) (d : Direction) : (c.step d).col.val =
    if c.col.val + d.colDelta < -128 then -128 else
      if 127 < c.col.val + d.colDelta then 127 else c.col.val + d.colDelta :=
  Coord.val_clamp _

theorem Outdoors.passable {c : Cell} (h : c.Outdoors) (on : c.OnBoard) :
    Maze.classic.Passable c := by
  rcases h with ⟨way, _⟩ | ⟨_, off⟩
  · exact .inl way
  · exact absurd on off

theorem Outdoors.not_indoors {c : Cell} (h : c.Outdoors) : ¬ c.Indoors := by
  intro indoors
  rcases h with ⟨_, apart⟩ | ⟨_, off⟩
  · exact apart indoors
  · exact off indoors.onBoard

theorem Outdoors.beyond {c : Cell} (h : c.Outdoors) (off : ¬ c.OnBoard) :
    c.row.val = 14 ∧ (c.col.val < 0 ∨ 28 ≤ c.col.val) := by
  rcases h with ⟨way, _⟩ | ⟨row, _⟩
  · exact absurd (Maze.onBoard_of_wallAt_eq_false way) off
  · rw [onBoard_iff] at off
    omega

/-- The last cell at an end of the tunnel, and all that lies beyond. -/
def AtTunnelEnd (c : Cell) : Prop := c.row.val = 14 ∧ (c.col.val ≤ 0 ∨ 27 ≤ c.col.val)

theorem atTunnelEnd_step {c : Cell} {d : Direction} (here : c.Outdoors)
    (next : (c.step d).Outdoors) (off : ¬ c.OnBoard ∨ ¬ (c.step d).OnBoard) :
    d.rowDelta = 0 ∧ (c.step d).AtTunnelEnd := by
  have row := val_row_step c d
  have col := val_col_step c d
  rw [AtTunnelEnd]
  by_cases on : c.OnBoard
  · have next := next.beyond (off.resolve_left (not_not_intro on))
    rw [onBoard_iff] at on
    cases d <;> simp only [Direction.rowDelta, Direction.colDelta] at row col ⊢ <;> grind
  · have here := here.beyond on
    by_cases on' : (c.step d).OnBoard
    · rw [onBoard_iff] at on'
      cases d <;> simp only [Direction.rowDelta, Direction.colDelta] at row col ⊢ <;> grind
    · have next := next.beyond on'
      cases d <;> simp only [Direction.rowDelta, Direction.colDelta] at row col ⊢ <;> grind

theorem AtTunnelEnd.step {c : Cell} (h : c.AtTunnelEnd) {d : Direction} (along : d.rowDelta = 0) :
    (c.step d).Outdoors := by
  have row : (c.step d).row.val = 14 := by
    have := val_row_step c d
    have := h.1
    rw [along] at *
    grind
  have col : (c.step d).col.val ≤ 1 ∨ 26 ≤ (c.step d).col.val := by
    have := val_col_step c d
    have := h.2
    cases d <;> simp only [Direction.colDelta] at * <;> grind
  by_cases on : (c.step d).OnBoard
  · exact outdoors_tunnel_classic _ on.mem_board row col
  · exact .inr ⟨row, on⟩

theorem isOpen_classic {s : Scene} (hs : s.maze = .classic) {spawning : Bool} {c : Cell} :
    s.isOpen spawning c = true ↔
      Maze.classic.wallAt c = false ∨ (spawning = true ∧ c.Indoors) := by
  simp only [Scene.isOpen, hs, Indoors, Bool.or_eq_true, Bool.not_eq_true', Bool.and_eq_true,
    decide_eq_true_eq]

/-- An open way leads from outdoors to outdoors, except for a spawning ghost on the doorstep. -/
theorem Outdoors.step {s : Scene} (hs : s.maze = .classic) {c : Cell} (here : c.Outdoors)
    {spawning : Bool} {d : Direction} (way : s.isOpen spawning (c.step d) = true)
    (guard : spawning = false ∨ c ≠ doorstep) : (c.step d).Outdoors := by
  by_cases indoors : (c.step d).Indoors
  · have bounds := indoors.bounds
    have row := val_row_step c d
    have col := val_col_step c d
    have on : c.OnBoard := by
      by_contra off
      have := here.beyond off
      cases d <;> simp only [Direction.rowDelta, Direction.colDelta] at row col <;> grind
    have back : (c.step d).step d.reversed = c := on.step_step_reversed d
    obtain ⟨door, exit⟩ := next_to_indoors_classic _ indoors.onBoard.mem_board indoors d.reversed
      (Direction.mem_all _) (back.symm ▸ here)
    rw [back] at door
    have calm : spawning = false := guard.resolve_right (not_not_intro door)
    rw [isOpen_classic hs, exit, wallAt_houseExit, calm] at way
    exact absurd way (by simp)
  · refine .inl ⟨?_, indoors⟩
    exact ((isOpen_classic hs).mp way).resolve_right fun h => indoors h.2

end Cell

theorem Scene.exits_houseExit {s : Scene} (hs : s.maze = .classic) :
    s.exits true (Location.advanced ⟨Cell.doorstep, .down⟩) = [.down] := by
  simp only [Scene.exits, Scene.isOpen, hs, Maze.wallAt_classic]
  decide +kernel

/-! ## On the way out and on the way outside -/

namespace Location

/-- The location lies on the way out of the house: in the house with more of it or the doorstep
ahead, or on the doorstep. -/
def Emerging (l : Location) : Prop :=
  (l.cell.Indoors ∧ (l.advanced.cell.Indoors ∨ l.advanced.cell = Cell.doorstep)) ∨
    (l.cell = Cell.doorstep ∧ l.heading ≠ .up)

instance (l : Location) : Decidable l.Emerging := by unfold Emerging; infer_instance

/-- The location and the cell ahead of it lie outdoors. -/
def Roaming (l : Location) : Prop := l.cell.Outdoors ∧ l.advanced.cell.Outdoors

instance (l : Location) : Decidable l.Roaming := by unfold Roaming; infer_instance

/-- A ghost in the house stays on the way out, whether it turns back or goes on. -/
theorem emerging_next_classic : ∀ c ∈ Cell.board, c.Indoors → ∀ d ∈ Direction.all,
    Emerging ⟨c, d⟩ → Emerging (advanced ⟨c, d⟩).turnedBack ∧
      ∀ e ∈ Direction.all, e ≠ d.reversed →
        Maze.classic.wallAt ((advanced ⟨c, d⟩).neighbor e) = false ∨
          ((advanced ⟨c, d⟩).neighbor e).Indoors →
        Emerging ((advanced ⟨c, d⟩).facing e) := by
  simp only [Maze.wallAt_classic]
  decide +kernel

theorem outdoors_beyond_mouths_classic : ∀ l ∈ Maze.tunnelMouths,
    l.advanced.advanced.cell.Outdoors := by
  simp only [Cell.Outdoors, Maze.wallAt_classic]
  decide +kernel

theorem roaming_doorstep_classic : ∀ d ∈ Direction.all, d ≠ .up → d ≠ .down →
    Roaming ⟨Cell.doorstep, d⟩ ∧ (advanced ⟨Cell.doorstep, d⟩).cell ≠ Cell.doorstep := by
  simp only [Roaming, Cell.Outdoors, Maze.wallAt_classic]
  decide +kernel

theorem emerging_spawn (color : Color) : color.spawn.Emerging := by cases color <;> decide

theorem emerging_house (color : Color) : color.house.Emerging := by cases color <;> decide

namespace Emerging

variable {l : Location}

theorem passable (h : l.Emerging) (here : l.cell.Indoors) :
    Maze.classic.Passable l.cell ∧ Maze.classic.Passable l.advanced.cell := by
  have doorstep : Maze.classic.Passable Cell.doorstep :=
    (Maze.clear_spawn_classic .red (Color.mem_all _)).1
  refine ⟨here.passable, ?_⟩
  rcases h with ⟨_, indoors | door⟩ | ⟨door, _⟩
  · exact indoors.passable
  · rw [door]
    exact doorstep
  · rw [door] at here
    exact absurd here (by decide)

theorem not_isOffBoard (h : l.Emerging) : ¬ l.IsOffBoard := by
  intro off
  rw [IsOffBoard] at off
  rcases h with ⟨indoors, _⟩ | ⟨door, _⟩
  · rw [off] at indoors
    exact absurd indoors (by decide)
  · rw [off] at door
    exact absurd door (by decide)

theorem leave (h : l.Emerging) (door : l.cell = Cell.doorstep)
    (guard : l ≠ ⟨Cell.doorstep, .down⟩) :
    l.Roaming ∧ l.advanced.cell ≠ Cell.doorstep := by
  have here : l = ⟨Cell.doorstep, l.heading⟩ := Location.ext door rfl
  rw [here]
  refine roaming_doorstep_classic _ (Direction.mem_all _) ?_ ?_
  · rcases h with ⟨indoors, _⟩ | ⟨_, ahead⟩
    · rw [door] at indoors
      exact absurd indoors (by decide)
    · exact ahead
  · intro down
    rw [down] at here
    exact guard here

end Emerging

namespace Roaming

variable {l : Location} {s : Scene}

theorem not_isOffBoard (h : l.Roaming) : ¬ l.IsOffBoard := by
  intro off
  have := (h.1.beyond off.not_onBoard).1
  rw [off] at this
  exact absurd this (by decide)

theorem back (h : l.Roaming) : l.advanced.turnedBack.Roaming := by
  refine ⟨h.2, ?_⟩
  by_cases on : l.cell.OnBoard
  · have here : l.advanced.turnedBack.advanced.cell = l.cell := on.step_step_reversed l.heading
    rw [here]
    exact h.1
  · obtain ⟨along, tunnel⟩ := Cell.atTunnelEnd_step h.1 h.2 (.inl on)
    have back : l.heading.reversed.rowDelta = 0 := by rw [Direction.rowDelta_reversed, along]; rfl
    exact tunnel.step back

theorem leave (h : l.Roaming) (hs : s.maze = .classic) {spawning : Bool} {d : Direction}
    (exit : d ∈ s.exits spawning l.advanced)
    (guard : spawning = false ∨ l.advanced.cell ≠ Cell.doorstep) :
    (l.advanced.facing d).Roaming :=
  ⟨h.2, h.2.step hs (Scene.mem_exits.mp exit).2 guard⟩

theorem strand {g : Ghost} (h : g.location.Roaming) (hs : s.maze = .classic) (stuck : g.Stuck s) :
    g.location.advanced.Roaming := by
  refine ⟨h.2, ?_⟩
  by_cases on : g.location.cell.OnBoard ∧ g.location.advanced.cell.OnBoard
  · have clear : g.location.Clear .classic := ⟨h.1.passable on.1, h.2.passable on.2⟩
    exact outdoors_beyond_mouths_classic _ ((Ghost.stuck_classic_iff hs clear).mp stuck).2
  · obtain ⟨along, tunnel⟩ := Cell.atTunnelEnd_step h.1 h.2 (not_and_or.mp on)
    exact tunnel.step along

end Roaming

end Location

/-! ## The law of a ghost that does not turn back on the doorstep -/

namespace Ghost

variable {s : Scene} {g g' : Ghost} {kind : PlanKind} {color : Color}

/-- The ghost is on its way out while it is spawning, and on its way outside when it is not. -/
def Placed (g : Ghost) : Prop :=
  (g.spawning = true ∧ g.location.Emerging) ∨ (g.spawning = false ∧ g.location.Roaming)

/-- The ghost stands on the doorstep and is about to go back into the house. -/
def FacesHouse (g : Ghost) : Prop := g.location = ⟨Cell.doorstep, .down⟩

instance (g : Ghost) : Decidable g.FacesHouse := by unfold FacesHouse; infer_instance

theorem Placed.not_isOffBoard (h : g.Placed) : ¬ g.location.IsOffBoard := by
  rcases h with ⟨_, emerging⟩ | ⟨_, roaming⟩
  · exact emerging.not_isOffBoard
  · exact roaming.not_isOffBoard

theorem Placed.sameWay (h : g.Placed) (same : g.SameWay g') : g'.Placed := by
  obtain ⟨_, _, rfl⟩ := same
  exact h

theorem emerging_of_planned (hs : s.maze = .classic) (here : g.location.cell.Indoors)
    (emerging : g.location.Emerging) (plan : g.Planned s g' kind) : g'.next.Emerging := by
  obtain ⟨back, leave⟩ := Location.emerging_next_classic _ here.onBoard.mem_board here
    g.location.heading (Direction.mem_all _) emerging
  have exit_emerging : ∀ d ∈ s.exits g.spawning g.location.advanced,
      (g.location.advanced.facing d).Emerging := by
    intro d exit
    obtain ⟨ahead, way⟩ := Scene.mem_exits.mp exit
    refine leave d (Direction.mem_all d) ahead ?_
    exact ((Cell.isOpen_classic hs).mp way).imp_right And.right
  cases plan with
  | idle off => exact absurd off emerging.not_isOffBoard
  | reversed => exact back
  | stranded off free stuck =>
    have tunnel := (stuck_classic_iff hs (emerging.passable here)).mp ⟨off, free, stuck⟩
    have apart : ∀ l ∈ Maze.tunnelMouths, ¬ l.cell.Indoors := by decide
    exact absurd here (apart _ tunnel.2)
  | wandered _ _ _ exit => exact exit_emerging _ exit
  | pursued _ _ exit => exact exit_emerging _ exit

theorem roaming_of_planned (hs : s.maze = .classic) (roaming : g.location.Roaming)
    (guard : g.spawning = false ∨ g.location.advanced.cell ≠ Cell.doorstep)
    (plan : g.Planned s g' kind) : g'.next.Roaming := by
  cases plan with
  | idle off => exact absurd off roaming.not_isOffBoard
  | reversed => exact roaming.back
  | stranded here free stuck => exact roaming.strand hs ⟨here, free, stuck⟩
  | wandered _ _ _ exit => exact roaming.leave hs exit guard
  | pursued _ _ exit => exact roaming.leave hs exit guard

theorem placed_update (inside : g.spawning = true → g.location.cell ≠ Cell.doorstep →
      g.next.Emerging)
    (outside : g.spawning = false ∨ g.location.cell = Cell.doorstep → g.next.Roaming) :
    g.update.Placed := by
  by_cases leaves : g.spawning = false ∨ g.location.cell = Cell.doorstep
  · refine .inr ⟨?_, outside leaves⟩
    rcases leaves with calm | door
    · simp [Ghost.update, calm]
    · have meets : g.location.Meets Color.red.spawn := door
      simp [Ghost.update, meets]
  · obtain ⟨spawning, away⟩ := not_or.mp leaves
    rw [Bool.not_eq_false] at spawning
    refine .inl ⟨?_, inside spawning away⟩
    have apart : ¬ g.location.Meets Color.red.spawn := away
    simp [Ghost.update, spawning, apart]

theorem BackHome.placed (h : g.BackHome color) : g.Placed := by
  refine .inl ⟨h.spawning, ?_⟩
  rw [h.location]
  exact Location.emerging_house color

/-- Between updates: the ghost was eaten, or it is present and placed. -/
def Settled (color : Color) (g : Ghost) : Prop := g.SentHome color ∨ (g.Present ∧ g.Placed)

theorem Settled.planned (h : g.Settled color) (hs : s.maze = .classic) (guard : ¬ g.FacesHouse)
    (plan : g.Planned s g' kind) : g'.update.Placed := by
  rcases h with home | ⟨_, placed⟩
  · have off : g.location.IsOffBoard := by rw [home.location]; rfl
    rw [plan.eq_of_isOffBoard off]
    exact home.update.placed
  · obtain ⟨next, trap, frame⟩ := plan.frame
    have location : g'.location = g.location := by rw [frame]
    have spawning : g'.spawning = g.spawning := by rw [frame]
    refine placed_update ?_ ?_
    · rw [location, spawning]
      intro spawns away
      rcases placed with ⟨_, emerging⟩ | ⟨calm, _⟩
      · have indoors := (emerging.resolve_right fun door => away door.1).1
        exact emerging_of_planned hs indoors emerging plan
      · exact absurd (calm.symm.trans spawns) (by simp)
    · rw [location, spawning]
      intro leaves
      rcases placed with ⟨spawns, emerging⟩ | ⟨calm, roaming⟩
      · have door := leaves.resolve_left (by simp [spawns])
        obtain ⟨roaming, ahead⟩ := emerging.leave door guard
        exact roaming_of_planned hs roaming (.inr ahead) plan
      · exact roaming_of_planned hs roaming (.inl calm) plan

/-- **The law of a ghost that does not turn back on the doorstep.** -/
theorem placed_law (config : Config) (color : Color) :
    Law config .classic color (Settled color) (fun g => g.update.Placed)
      (fun g => ¬ g.FacesHouse) where
  new := by
    refine placed_update (fun _ _ => Location.emerging_spawn color) ?_
    rintro (calm | door)
    · exact absurd calm (by simp [Ghost.new])
    · have apart : Location.offBoard.cell ≠ Cell.doorstep := by decide
      exact absurd door apart
  plan := fun hs h guard plan => h.planned hs guard plan
  frighten := fun h => h.sameWay (SameWay.frighten _ _).update
  check := by
    intro g player h
    unfold Ghost.afterCheck
    split
    · exact (sentHome_respawn g color).update.placed
    · exact h
  move := fun h => .inr ⟨⟨h.not_isOffBoard, rfl, rfl⟩, h⟩
  recheck := by
    intro g player h
    unfold Ghost.afterCheck
    split
    · exact .inl (sentHome_respawn g color)
    · exact h

theorem spawning_new (color : Color) : (Ghost.new color).spawning = true := rfl

theorem Settled.spawning (h : g.Settled color) (indoors : g.location.cell.Indoors) :
    g.spawning = true := by
  rcases h with home | ⟨_, ⟨spawns, _⟩ | ⟨_, roaming⟩⟩
  · exact home.spawning
  · exact spawns
  · exact absurd indoors roaming.1.not_indoors

theorem FacesHouse.next {s : Scene} (h : g.FacesHouse) (plan : g.Planned s g' kind) :
    g'.next.cell = Cell.houseExit := by
  have here : ¬ g.location.IsOffBoard := by rw [h]; decide
  have ahead : g.location.advanced.cell = Cell.houseExit := by rw [h]; decide
  cases plan with
  | idle off => exact absurd off here
  | _ => exact ahead

end Ghost

/-! ## Runs in the classic maze -/

namespace World

variable {σ μ : Type}

/-- Every ghost in the house or on its exit is spawning. -/
def HouseSpawns (w : World σ μ) : Prop :=
  ∀ color, (w.ghosts.get color).location.cell.Indoors → (w.ghosts.get color).spawning = true

variable [RandomSource σ] [ModeSource μ]

theorem HouseSpawns.of_tick {w : World σ μ} (h : (apply .tick w).1.HouseSpawns)
    (due : w.updateDue = true) : (update w).1.HouseSpawns := by
  intro color
  have spawns := h color
  simp only [apply, advance_of_due due] at spawns
  exact spawns

/-- An update that finds a ghost facing the house and does not eat it leaves it on the exit,
spawning no longer. -/
theorem not_houseSpawns_update {w : World σ μ} {color : Color}
    (faces : (w.ghosts.get color).FacesHouse)
    (spared : ∀ points, .ghostEaten color points ∉ (update w).2) :
    ¬ (update w).1.HouseSpawns := by
  have plan : (w.ghosts.get color).Planned w.polled.scene (w.polled.plan color).ghost
      (w.polled.plan color).kind := Ghost.plan_planned ..
  obtain ⟨fright, trap, after⟩ := ghost_update_of_not_eaten spared
  obtain ⟨next, trap', frame⟩ := plan.frame
  have exit : ((update w).1.ghosts.get color).location.cell = Cell.houseExit := by
    rw [after]
    exact faces.next plan
  have calm : ((update w).1.ghosts.get color).spawning = false := by
    rw [after, frame]
    simp only [Ghost.update]
    rw [faces]
    simp only [Bool.and_eq_false_imp]
    intro _
    decide
  intro spawns
  have := spawns color (.inr exit)
  rw [calm] at this
  exact absurd this (by simp)

/-- A ghost that faces the house goes in, unless it is trapped or met. -/
theorem tick_of_facesHouse {w : World σ μ} {color : Color} (hm : w.maze = .classic)
    (due : w.updateDue = true) (still : w.queued = none) (clear : w.player.cell ≠ Cell.houseExit)
    (faces : (w.ghosts.get color).FacesHouse) (spawns : (w.ghosts.get color).spawning = true)
    (free : (w.ghosts.get color).trap = 0) :
    ((apply .tick w).1.ghosts.get color).location = ⟨Cell.houseExit, .down⟩ ∧
      ((apply .tick w).1.ghosts.get color).spawning = false := by
  have faces : (w.ghosts.get color).location = ⟨Cell.doorstep, .down⟩ := faces
  have here : ¬ (w.ghosts.get color).location.IsOffBoard := by rw [faces]; decide
  have one : w.polled.scene.exits (w.ghosts.get color).spawning
      (w.ghosts.get color).location.advanced = [.down] := by
    rw [spawns, faces]
    exact Scene.exits_houseExit hm
  have plan : (w.polled.plan color).ghost = (w.ghosts.get color).planHeading .down :=
    (Ghost.plan_planned ..).eq_of_one_way here free one
  have next : (w.polled.plan color).ghost.next = ⟨Cell.houseExit, .down⟩ := by
    rw [plan, Ghost.planHeading, faces]
    exact Location.ext (by decide : (Location.advanced ⟨Cell.doorstep, .down⟩).cell = _) rfl
  have apart : ¬ (w.polled.plan color).ghost.next.Meets w.player := by
    rw [next]
    exact clear.symm
  obtain ⟨_, _, after⟩ := ghost_update_of_not_eaten (not_eaten_of_still still apart)
  have ticked : (apply .tick w).1.ghosts = (update w).1.ghosts := by
    rw [apply, advance_of_due due]
  rw [ticked, after, Ghost.update, next, plan, Ghost.planHeading, faces]
  refine ⟨rfl, ?_⟩
  rw [Bool.and_eq_false_iff]
  exact .inr (by decide)

/-- A ghost is settled, as long as every ghost that an update finds facing the house is eaten. -/
theorem obeys_settled {config : Config} {modes : ModeControl μ} {sources : Roster σ}
    {w : World σ μ} (h : new? config .classic modes sources = .ok w) (color : Color)
    (commands : List Command)
    (guard : ∀ before, before ++ [.tick] <+: commands → (run before w).1.updateDue = true →
      ((run before w).1.ghosts.get color).FacesHouse →
      ∃ points, .ghostEaten color points ∈ (update (run before w).1).2) :
    (run commands w).1.Obeys config .classic color (Ghost.Settled color) := by
  induction commands using List.reverseRecOn with
  | nil => exact obeys_of_new? h color _
  | append_singleton commands command ih =>
    have before := ih fun earlier first => guard earlier (first.trans (List.prefix_append ..))
    rw [run_concat]
    refine before.apply command ?_
    rintro rfl due
    by_cases faces : ((run commands w).1.ghosts.get color).FacesHouse
    · obtain ⟨points, eaten⟩ := guard commands (List.prefix_refl _) due faces
      rcases ghost_update_of_eaten eaten with home | back
      · exact .inl home
      · exact .inr ⟨back.present, back.placed⟩
    · exact (Ghost.placed_law config color).update before faces

/-- **Ghosts in the house.** All that are in it are spawning all the time, if and only if every
ghost that an update finds on the doorstep, facing the house, is eaten. -/
theorem classic_spawning_iff {config : Config} {modes : ModeControl μ} {sources : Roster σ}
    {w : World σ μ} (h : new? config .classic modes sources = .ok w) (commands : List Command) :
    (∀ before, before <+: commands → (run before w).1.HouseSpawns) ↔
    ∀ before, before ++ [.tick] <+: commands → (run before w).1.updateDue = true →
      ∀ color, ((run before w).1.ghosts.get color).FacesHouse →
        ∃ points, .ghostEaten color points ∈ (apply .tick (run before w).1).2 := by
  constructor
  · intro spawns before first due color faces
    by_contra spared
    have after := spawns _ first
    rw [run_concat] at after
    refine not_houseSpawns_update faces (fun points eaten => ?_) (after.of_tick due)
    exact spared ⟨points, mem_apply_tick.mpr (.inr ⟨due, eaten⟩)⟩
  · intro guard before first color indoors
    have eaten : ∀ earlier, earlier ++ [.tick] <+: before → (run earlier w).1.updateDue = true →
        ((run earlier w).1.ghosts.get color).FacesHouse →
        ∃ points, .ghostEaten color points ∈ (update (run earlier w).1).2 := by
      intro earlier tick due faces
      obtain ⟨points, told⟩ := guard earlier (tick.trans first) due color faces
      rcases mem_apply_tick.mp told with clock | ⟨_, eaten⟩
      · exact absurd clock (by simp)
      · exact ⟨points, eaten⟩
    rcases (obeys_settled h color before eaten).ghost with ⟨_, new⟩ | ⟨_, settled⟩
    · rw [new]
      exact Ghost.spawning_new color
    · exact settled.spawning indoors

/-- All ghosts leave the house, one after the other. -/
theorem classic_spawning_way_out :
    let w : World Stream Empty := start { updatePeriod := 1 } .classic (.bundled default)
      (seededStreams ({} : Config).rngSeed)
    let commands : List Command := List.replicate 40 .tick
    seeded? { updatePeriod := 1 } .classic = .ok w ∧
      (((run [.tick] w).1.ghosts.get .pink).location.cell.Indoors ∧
        ((run [.tick] w).1.ghosts.get .cyan).location.cell.Indoors ∧
        ((run [.tick] w).1.ghosts.get .orange).location.cell.Indoors ∧
        ∀ color ∈ Color.all, ((run commands w).1.ghosts.get color).spawning = false) ∧
      ∀ before, before <+: commands → (run before w).1.HouseSpawns := by
  intro w commands
  have new : new? { updatePeriod := 1 } .classic (.bundled default)
      (seededStreams ({} : Config).rngSeed) = .ok w :=
    new?_eq_ok_iff.mpr ⟨by decide, rfl⟩
  let NoneFaces (v : World Stream Empty) : Prop :=
    ∀ color ∈ Color.all, ¬ (v.ghosts.get color).FacesHouse
  have way_out : (((run [.tick] w).1.ghosts.get .pink).location.cell.Indoors ∧
        ((run [.tick] w).1.ghosts.get .cyan).location.cell.Indoors ∧
        ((run [.tick] w).1.ghosts.get .orange).location.cell.Indoors ∧
        ∀ color ∈ Color.all, ((run commands w).1.ghosts.get color).spawning = false) ∧
      ∀ n ∈ List.range commands.length, NoneFaces (run (commands.take n) w).1 := by
    decide +kernel
  refine ⟨new, way_out.1, (classic_spawning_iff new commands).mpr fun before first _ color => ?_⟩
  have away := holds_before_of_take NoneFaces way_out.2 first color (Color.mem_all color)
  exact fun faces => absurd faces away

/-- **Cyan walks back into the house**: trapped on its last step out, it turns back on the doorstep.
-/
theorem classic_cyan_locked_in :
    let w : World Stream Empty := start { updatePeriod := 1 } .classic (.bundled default)
      (seededStreams ({} : Config).rngSeed)
    let moves : List Direction :=
      List.replicate 7 .left ++ List.replicate 3 .down ++ List.replicate 3 .left ++
        List.replicate 3 .up ++ List.replicate 2 .left
    let commands : List Command :=
      List.replicate 3 .tick ++ moves.flatMap (fun d => [.movePlayer d, .tick]) ++
        List.replicate 2 .tick
    seeded? { updatePeriod := 1 } .classic = .ok w ∧
      ((run commands w).1.ghosts.get .cyan).location = ⟨Cell.houseExit, .down⟩ ∧
      ((run commands w).1.ghosts.get .cyan).spawning = false ∧
      ¬ (run commands w).1.HouseSpawns := by
  intro w moves commands
  let earlier : List Command := List.replicate 3 .tick ++
    moves.flatMap (fun d => [.movePlayer d, .tick]) ++ [.tick]
  -- No ghost draws before the last tick.
  have before : let v := (run earlier w).1
      let cyan := v.ghosts.get .cyan
      (v.updateDue = true ∧ v.queued = none ∧ v.player.cell = ⟨23, 1⟩) ∧
        cyan.FacesHouse ∧ cyan.spawning = true ∧ cyan.trap = 0 := by
    decide +kernel
  obtain ⟨⟨due, still, player⟩, faces, spawns, free⟩ := before
  have new : seeded? { updatePeriod := 1 } .classic = .ok w :=
    new?_eq_ok_iff.mpr ⟨by decide, rfl⟩
  have locked := tick_of_facesHouse (rules_of_new? new earlier).2 due still
    (by rw [player]; decide) faces spawns free
  have last : (run commands w).1 = (apply .tick (run earlier w).1).1 := by
    rw [show commands = earlier ++ [.tick] from rfl, run_concat]
  rw [last]
  refine ⟨new, locked.1, locked.2, fun spawns => ?_⟩
  have indoors : ((apply .tick (run earlier w).1).1.ghosts.get .cyan).location.cell.Indoors := by
    rw [locked.1]
    exact .inr rfl
  exact absurd (locked.2.symm.trans (spawns .cyan indoors)) (by simp)

end World

end MazeChase
