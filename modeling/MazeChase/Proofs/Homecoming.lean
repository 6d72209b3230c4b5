import MazeChase.Proofs.Catch
import MazeChase.Proofs.HouseExit
import MazeChase.Proofs.SuperPellets

/-!
# Eaten and back in one update

A ghost that is eaten when the player steps onto its cell comes back home with the moves of the same
update, before the last check. So the player meets it again, and is caught, if its cell was the very
place to which it comes back. In the classic maze this cannot happen, as walls keep the player out
of the house.

* `World.eaten_at`, `World.caught_at`: at which checks a ghost is eaten or catches the player;
* `World.backHome_moved`: a ghost that is eaten on a step is home before the last check;
* `World.StepsHome`, `World.home_of_eaten_of_caught`: an update in which a ghost does both;
* `Location.not_indoors_ahead`, `World.outdoors_invariant`: the player stays out of the house of the
  classic maze;
* **`World.eaten_and_caught_at_home`**: the only place where a ghost does both;
* `World.onOpenFloor`, `World.orange_eaten_and_back`: a game in which orange does both.
-/

set_option autoImplicit false

namespace MazeChase

theorem Color.indoors_house (color : Color) : color.house.cell.Indoors := by
  cases color <;> exact .inl (by decide)

theorem Location.not_indoors_ahead {l : Location} (on : l.cell.OnBoard) (out : l.cell.Outdoors)
    (way : Maze.classic.wallAt l.advanced.cell = false) : ¬ l.advanced.cell.Indoors := by
  intro indoors
  have back : l.advanced.cell.step l.heading.reversed = l.cell := on.step_step_reversed l.heading
  obtain ⟨_, exit⟩ := Cell.next_to_indoors_classic _ indoors.onBoard.mem_board indoors _
    (Direction.mem_all _) (back.symm ▸ out)
  rw [exit, Cell.wallAt_houseExit] at way
  exact absurd way (by simp)

theorem outdoors_playerSpawn : playerSpawn.cell.OnBoard ∧ playerSpawn.cell.Outdoors := by
  rw [Cell.Outdoors, Maze.wallAt_classic]
  decide +kernel

namespace World

variable {σ μ : Type} [RandomSource σ] [ModeSource μ] {w : World σ μ} {d : Direction}
  {color : Color}

theorem updateDue_of_mem_tick {e : Event} (he : e ∈ (apply .tick w).2) (topic : e.topic ≠ .clock) :
    w.updateDue = true := by
  rcases mem_apply_tick.mp he with rfl | ⟨due, _⟩
  · exact absurd rfl topic
  · exact due

/-! ## The checks, one by one -/

theorem calm_of_touches_turned (apart : w.NoContact) (touches : (w.turned d).Touches color) :
    (w.ghosts.get color).location.Meets w.player ∧ (w.ghosts.get color).fright = 0 ∧
      w.outcome ≠ none := by
  obtain ⟨_, _, ghost⟩ := ghost_turned w d color
  have meets := touches.1
  rw [ghost] at meets
  obtain ⟨calm, _, decided⟩ := apart color meets
  exact ⟨meets, calm, decided⟩

theorem location_stepped (apart : w.NoContact) :
    ((w.stepped d).ghosts.get color).location = (w.ghosts.get color).location := by
  obtain ⟨_, _, ghost⟩ := ghost_turned w d color
  have spared : (collide (w.turned d)).1.ghosts.get color = (w.turned d).ghosts.get color := by
    rw [get_ghosts_collide]
    refine if_neg fun ⟨meets, back, frightened⟩ => ?_
    have calm := (calm_of_touches_turned apart ⟨meets, back⟩).2.1
    rw [ghost] at frightened
    exact Ghost.not_isFrightened_iff.mpr calm frightened
  rw [stepped, (ghost_enter _ color).1, spared, ghost]

theorem player_stepped (w : World σ μ) (d : Direction) :
    (w.stepped d).player = (w.player.facing d).advanced := by
  rw [stepped, player_enter, player_collide]
  rfl

theorem get_moved (w : World σ μ) (color : Color) : w.moved.ghosts.get color =
    ((makeQueuedMove w.ready).1.ghosts.get color).update := by
  rw [moved, Roster.get_map]

section Step

variable (queued : w.queued = some d)
  (way : w.maze.wallAt (w.player.facing d).advanced.cell = false)
include queued way

theorem fst_makeQueuedMove_of_open :
    (makeQueuedMove w.ready).1 = (collide (w.stepped d)).1 := by
  rw [makeQueuedMove_of_some queued, step_turned_of_open way]

theorem player_moved : w.moved.player = (w.player.facing d).advanced := by
  have same : w.moved.player = (makeQueuedMove w.ready).1.player := rfl
  rw [same, fst_makeQueuedMove_of_open queued way, player_collide, player_stepped]

theorem backHome_moved (touches : (w.stepped d).Touches color)
    (frightened : ((w.stepped d).ghosts.get color).IsFrightened) :
    (w.moved.ghosts.get color).BackHome color := by
  obtain ⟨points, eaten⟩ := ghostEaten_mem_collide touches frightened
  rw [get_moved, fst_makeQueuedMove_of_open queued way]
  rcases collide_fate color (w.stepped d) with ⟨_, home⟩ | ⟨spared, _⟩
  · exact home.update
  · exact absurd eaten (spared points)

theorem calm_moved (calm : ((w.stepped d).ghosts.get color).fright = 0) :
    (w.moved.ghosts.get color).fright = 0 := by
  rw [get_moved, fst_makeQueuedMove_of_open queued way, Ghost.update]
  simp only [fright_collide, calm, Nat.zero_sub, ite_self]

end Step

theorem calm_moved_of_quiet (due : w.updateDue = true) (calm : (w.ghosts.get color).fright = 0)
    (quiet : (apply .tick w).2.any Event.frightens = false) :
    (w.moved.ghosts.get color).fright = 0 := by
  rw [apply, advance_of_due due, List.any_cons, Bool.or_eq_false_iff, any_frightens_update] at quiet
  have fright := (timer_queued w color).2
  rw [quiet.2, calm, if_neg Bool.false_ne_true] at fright
  rw [get_moved, Ghost.update]
  simp only [fright, Nat.zero_sub, ite_self]

/-- A ghost is eaten on the step of the player, or at the last check. -/
theorem eaten_at (apart : w.NoContact) {points : Nat}
    (eaten : .ghostEaten color points ∈ (apply .tick w).2) :
    (∃ d, w.queued = some d ∧ w.maze.wallAt (w.player.facing d).advanced.cell = false ∧
        (w.stepped d).Touches color ∧ ((w.stepped d).ghosts.get color).IsFrightened) ∨
      (w.moved.ghosts.get color).IsFrightened := by
  obtain ⟨u, checked, told⟩ := exists_checkedAt eaten rfl
  obtain ⟨touches, frightened⟩ := touches_of_ghostEaten_mem told
  cases checked with
  | beforeStep queued =>
    obtain ⟨_, _, ghost⟩ := ghost_turned w _ color
    have calm := (calm_of_touches_turned apart touches).2.1
    rw [ghost] at frightened
    exact absurd frightened (Ghost.not_isFrightened_iff.mpr calm)
  | afterStep queued way => exact .inl ⟨_, queued, way, touches, frightened⟩
  | afterMoves => exact .inr frightened

theorem caught_at (caught : .playerCaught color ∈ (apply .tick w).2) :
    w.outcome ≠ some .lost ∧
      ∃ u, w.CheckedAt u ∧ u.Touches color ∧ (u.ghosts.get color).fright = 0 := by
  obtain ⟨u, checked, told⟩ := exists_checkedAt caught rfl
  obtain ⟨touches, calm⟩ := touches_of_playerCaught_mem told
  exact ⟨fun lost => playerCaught_notMem_collide_of_lost (checked.outcome lost) color told,
    u, checked, touches, Ghost.not_isFrightened_iff.mp calm⟩

/-! ## Both in one update -/

/-- The player steps onto the ghost in the place where the ghost comes back. -/
def StepsHome (w : World σ μ) (color : Color) : Prop :=
  ∃ origin target, .playerMoved origin target ∈ (apply .tick w).2 ∧
    target.cell = color.house.cell ∧ (w.ghosts.get color).location.cell = color.house.cell

theorem playerMoved_mem_tick (due : w.updateDue = true) (queued : w.queued = some d)
    (way : w.maze.wallAt (w.player.facing d).advanced.cell = false) :
    .playerMoved (w.player.facing d) (w.player.facing d).advanced ∈ (apply .tick w).2 := by
  obtain ⟨told, _, told_eq⟩ := snd_enter (collide (w.turned d)).1
  have player : (collide (w.turned d)).1.player = w.player.facing d := player_collide _
  refine mem_apply_tick.mpr (.inr ⟨due, ?_⟩)
  simp only [update_apply, makeQueuedMove_of_some queued, step_turned_of_open way, told_eq, player]
  simp

/-- A ghost eaten and catching in one update was met where it comes back. -/
theorem home_of_eaten_of_caught (inside : w.player.cell.OnBoard) (apart : w.NoContact)
    (quiet : w.outcome = some .won → (apply .tick w).2.any Event.frightens = false)
    {points : Nat} (eaten : .ghostEaten color points ∈ (apply .tick w).2)
    (caught : .playerCaught color ∈ (apply .tick w).2) : w.StepsHome color := by
  have due := updateDue_of_mem_tick eaten (by simp [Event.topic])
  obtain ⟨running, u, checked, touches, calm⟩ := caught_at caught
  rcases eaten_at apart eaten with ⟨d, queued, way, touched, frightened⟩ | frightened
  · have ahead : (w.ghosts.get color).location.cell = (w.player.facing d).advanced.cell := by
      rw [← location_stepped apart, ← player_stepped]
      exact touched.1
    cases checked with
    | beforeStep _ =>
      have here := (calm_of_touches_turned apart touches).1
      exact absurd (ahead.symm.trans here) (inside.step_ne d)
    | afterStep queued' _ =>
      obtain rfl := Option.some_inj.mp (queued.symm.trans queued')
      exact absurd frightened (Ghost.not_isFrightened_iff.mpr calm)
    | afterMoves =>
      have meets := touches.1
      rw [(backHome_moved queued way touched frightened).location, player_moved queued way] at meets
      exact ⟨_, _, playerMoved_mem_tick due queued way, meets.symm, ahead.trans meets.symm⟩
  · -- Who can catch the player at one of the checks is not frightened at the last one.
    have calm : (w.moved.ghosts.get color).fright = 0 := by
      cases checked with
      | beforeStep _ =>
        obtain ⟨_, calm, decided⟩ := calm_of_touches_turned apart touches
        obtain ⟨o, outcome⟩ := Option.ne_none_iff_exists'.mp decided
        cases o with
        | won => exact calm_moved_of_quiet due calm (quiet outcome)
        | lost => exact absurd outcome running
      | afterStep queued way => exact calm_moved queued way calm
      | afterMoves => exact calm
    exact absurd frightened (Ghost.not_isFrightened_iff.mpr calm)

theorem CheckedAt.caught {u : World σ μ} (checked : w.CheckedAt u) (touches : u.Touches color)
    (calm : (u.ghosts.get color).fright = 0) :
    .playerCaught color ∈ (update w).2 ∨ (update w).1.outcome = some .lost := by
  rcases collide_contact touches with ⟨points, eaten⟩ | caught | lost
  · exact absurd (touches_of_ghostEaten_mem eaten).2 (Ghost.not_isFrightened_iff.mpr calm)
  · exact .inl (checked.mem_update caught)
  · exact .inr (checked.outcome_update lost)

/-- A player that steps onto a ghost where it comes back is caught, frightened or not. -/
theorem caught_of_steps_home (inside : w.player.cell.OnBoard)
    (back : (w.ghosts.get color).eaten = false) (queued : w.queued = some d)
    (way : w.maze.wallAt (w.player.facing d).advanced.cell = false)
    (target : (w.player.facing d).advanced.cell = color.house.cell)
    (ghost : (w.ghosts.get color).location.cell = color.house.cell) :
    .playerCaught color ∈ (update w).2 ∨ (update w).1.outcome = some .lost := by
  have touches := touches_stepped inside back (ghost.trans target.symm)
  by_cases frightened : ((w.stepped d).ghosts.get color).IsFrightened
  · have home := backHome_moved queued way touches frightened
    have meets : (w.moved.ghosts.get color).location.Meets w.moved.player := by
      rw [home.location, player_moved queued way]
      exact target.symm
    exact CheckedAt.afterMoves.caught ⟨meets, home.present.eaten⟩ home.fright
  · exact (CheckedAt.afterStep queued way).caught touches (Ghost.not_isFrightened_iff.mp frightened)

/-! ## The house of the classic maze -/

/-- Walls keep the player out of the house. -/
theorem outdoors_invariant : Invariant fun v : World σ μ =>
    v.maze = .classic → v.player.cell.OnBoard ∧ v.player.cell.Outdoors where
  poll := fun _ h => h
  plan := fun _ h => h
  queue := fun _ _ h => h
  turn := fun _ _ h => h
  enter := by
    intro v way before same
    rw [maze_enter] at same
    obtain ⟨on, out⟩ := before same
    rw [same] at way
    rw [player_enter]
    exact ⟨Maze.onBoard_of_wallAt_eq_false way, .inl ⟨way, Location.not_indoors_ahead on out way⟩⟩
  check := by
    intro v h same
    rw [maze_collide] at same
    rw [player_collide]
    exact h same
  move := fun _ h => h
  clock := fun _ h => h
  control := fun _ _ h => h

/-! ## Whole games -/

section Reachable

variable {rows : List String} {config : Config} {maze : Maze} {modes : ModeControl μ}
  {sources : Roster σ}

theorem pellets_of_won (drawn : Maze.ofRows rows = .ok maze)
    (h : new? config maze modes sources = .ok w) {commands : List Command}
    (won : (run commands w).1.outcome = some .won) :
    (run commands w).1.pellets.Counted ∧ (run commands w).1.pellets.count = 0 := by
  obtain ⟨_, rfl⟩ := new?_eq_ok_iff.mp h
  have counted : maze.pellets.Counted := Maze.counted_of_ofRows drawn
  have history := history_run commands (start config maze modes sources)
  have first : (run commands (start config maze modes sources)).2.findSome? Event.ending? =
      some .won := history.outcome_eq.symm.trans won
  have told := List.count_pos_iff.mpr (Event.levelCleared_mem_of_won first)
  rw [history.cleared counted] at told
  split at told
  next all => exact ⟨(history.balanced counted).counted, all.2⟩
  next => exact absurd told (Nat.lt_irrefl 0)

/-- **Where a ghost is eaten and catches the player in one tick**: only in the place where it comes
back, and nowhere in the classic maze. -/
theorem eaten_and_caught_at_home (drawn : Maze.ofRows rows = .ok maze)
    (h : new? config maze modes sources = .ok w) (commands : List Command) (color : Color) :
    let v := (run commands w).1
    let events := (apply .tick v).2
    ((∃ points, .ghostEaten color points ∈ events) → .playerCaught color ∈ events →
      v.StepsHome color) ∧
    (v.StepsHome color →
      .playerCaught color ∈ events ∨ (apply .tick v).1.outcome = some .lost) ∧
    (maze = .classic →
      ¬ ((∃ points, .ghostEaten color points ∈ events) ∧ .playerCaught color ∈ events)) := by
  intro v events
  have inside : v.player.cell.OnBoard := onBoard_run h commands
  have both : (∃ points, .ghostEaten color points ∈ events) → .playerCaught color ∈ events →
      v.StepsHome color := by
    rintro ⟨points, eaten⟩ caught
    refine home_of_eaten_of_caught inside (noContact_run h commands) (fun won => ?_) eaten caught
    obtain ⟨counted, none⟩ := pellets_of_won drawn h won
    exact any_frightens_apply_of_none counted none .tick
  refine ⟨both, ?_, ?_⟩
  · rintro ⟨origin, target, step, house, ghost⟩
    have due := updateDue_of_mem_tick step (by simp [Event.topic])
    obtain ⟨d, queued, way, rfl⟩ := moved_of_mem_tick step
    have on : (v.ghosts.get color).location.cell.OnBoard := by
      rw [ghost, ← house]
      exact Maze.onBoard_of_wallAt_eq_false way
    have back : (v.ghosts.get color).eaten = false := eaten_eq_false h commands on
    rcases caught_of_steps_home inside back queued way house ghost with caught | lost
    · exact .inl (mem_apply_tick.mpr (.inr ⟨due, caught⟩))
    · refine .inr ?_
      simp only [apply, advance_of_due due]
      exact lost
  · rintro rfl ⟨eaten, caught⟩
    obtain ⟨_, target, step, house, _⟩ := both eaten caught
    obtain ⟨d, _, way, rfl⟩ := moved_of_mem_tick step
    have same : v.maze = .classic := (rules_of_new? h commands).2
    obtain ⟨_, rfl⟩ := new?_eq_ok_iff.mp h
    obtain ⟨on, out⟩ := outdoors_invariant.run commands (start config .classic modes sources)
      (fun _ => outdoors_playerSpawn) same
    rw [same] at way
    refine Location.not_indoors_ahead (l := v.player.facing d) on out way ?_
    rw [house]
    exact color.indoors_house

end Reachable

/-- A game on open floor with two pellets: the super pellet at the bottom right, and one at the top
left that nobody comes near. -/
def onOpenFloor : World Listed ModeSnapshot :=
  start { updatePeriod := 1 }
    { Maze.openFloor with pellets := (Pellets.empty.add ⟨0, 0⟩).add ⟨23, 26⟩ }
    (.external ⟨.scatter, some .scatter⟩) (.ofFn fun _ => ⟨[]⟩)

/-- The player takes the super pellet and goes on to the place of orange in the house, which orange
is just about to leave. -/
def wayHome : List Command :=
  let way : List Direction :=
    List.replicate 13 .right ++ List.replicate 9 .up ++ List.replicate 10 .left
  .tick :: way.flatMap (fun d => [.movePlayer d, .tick]) ++ [.movePlayer .left]

theorem ofRows_onOpenFloor : Maze.ofRows
    (((List.replicate 31 "").set 0 ".").set 23 "                          o") =
      .ok onOpenFloor.maze := rfl

theorem new?_onOpenFloor : new? { updatePeriod := 1 } onOpenFloor.maze
    (.external ⟨.scatter, some .scatter⟩) (.ofFn fun _ => ⟨[]⟩) = .ok onOpenFloor :=
  new?_eq_ok_iff.mpr ⟨by decide, rfl⟩

theorem orange_onOpenFloor :
    .ghostEaten .orange 200 ∈ (apply .tick (run wayHome onOpenFloor).1).2 ∧
      .playerCaught .orange ∈ (apply .tick (run wayHome onOpenFloor).1).2 := by decide +kernel

/-- Orange is eaten and catches the player in its own place. -/
theorem eaten_and_caught_at_home_orange : (run wayHome onOpenFloor).1.StepsHome .orange := by
  obtain ⟨eaten, caught⟩ := orange_onOpenFloor
  exact (eaten_and_caught_at_home ofRows_onOpenFloor new?_onOpenFloor wayHome .orange).1
    ⟨200, eaten⟩ caught

/-- So it is not true in every maze that no ghost is eaten and catches the player in one tick. -/
theorem orange_eaten_and_back : ¬ ∀ (rows : List String) (config : Config) (maze : Maze)
    (modes : ModeControl ModeSnapshot) (sources : Roster Listed) (w : World Listed ModeSnapshot),
    Maze.ofRows rows = .ok maze → new? config maze modes sources = .ok w →
      ∀ commands color,
        ¬ ((∃ points, .ghostEaten color points ∈ (apply .tick (run commands w).1).2) ∧
          .playerCaught color ∈ (apply .tick (run commands w).1).2) := by
  intro never
  obtain ⟨eaten, caught⟩ := orange_onOpenFloor
  exact never _ _ _ _ _ _ ofRows_onOpenFloor new?_onOpenFloor wayHome .orange
    ⟨⟨200, eaten⟩, caught⟩

end World

end MazeChase
