import MazeChase.Proofs.Contact
import MazeChase.Proofs.Pursuit
import MazeChase.Proofs.Trap

/-!
# Ghosts that drift away

A ghost that is off the board is in one of the lanes of the board still. If it faces away from the
board, there is no way on from the cell ahead, whatever the maze is like: all cells around are off
the board, too, and none of them belongs to the house or to its exit. So it goes on straight ahead,
and each update strands it anew, until a super pellet makes it turn back. At the end of the range of
coordinates it stays where it is.

* `Location.Outbound`, `Location.drifted`, `Location.drifted_drifted`: where such a ghost gets to;
* `Scene.exits_of_outbound`: there is no way on;
* `World.Passes`, `World.location_update_of_beyond`: off the board a ghost is not met;
* `World.Adrift`, **`World.adrift_tick`**, `World.run_drifts`: one update, and many of them;
* **`World.drifts_out`**.
-/

set_option autoImplicit false

namespace MazeChase

/-! ## Straight out -/

theorem Coord.clamp_add (r : Coord) {δ : Int} (unit : δ = -1 ∨ δ = 0 ∨ δ = 1) (m n : Nat) :
    clamp ((clamp (r.val + δ * m)).val + δ * n) = clamp (r.val + δ * (m + n : Nat)) := by
  have lower := r.lower
  have upper := r.upper
  rcases unit with rfl | rfl | rfl <;> ext <;> simp only [val_clamp] <;> grind

namespace Location

variable {l : Location}

/-- The location is off the board, on one of its four sides, and faces away from it. -/
def Outbound (l : Location) : Prop :=
  (l.heading = .up → l.cell.row.val < 0) ∧ (l.heading = .down → rowCount ≤ l.cell.row.val) ∧
    (l.heading = .left → l.cell.col.val < 0) ∧ (l.heading = .right → colCount ≤ l.cell.col.val)

instance (l : Location) : Decidable l.Outbound := by
  unfold Outbound
  infer_instance

/-- So many cells further along the heading, up to the end of the range of coordinates. -/
def drifted (l : Location) (n : Nat) : Location :=
  ⟨⟨Coord.clamp (l.cell.row.val + l.heading.rowDelta * n),
    Coord.clamp (l.cell.col.val + l.heading.colDelta * n)⟩, l.heading⟩

theorem drifted_zero (l : Location) : l.drifted 0 = l := by
  simp only [drifted, Int.natCast_zero, Int.mul_zero, Int.add_zero, Coord.clamp_val]

theorem drifted_one (l : Location) : l.drifted 1 = l.advanced := by
  simp only [drifted, Int.natCast_one, Int.mul_one]
  rfl

theorem drifted_drifted (l : Location) (m n : Nat) :
    (l.drifted m).drifted n = l.drifted (m + n) := by
  simp only [drifted, Coord.clamp_add _ l.heading.rowDelta_unit,
    Coord.clamp_add _ l.heading.colDelta_unit]

theorem Outbound.advanced (h : l.Outbound) : l.advanced.Outbound := by
  obtain ⟨⟨row, col⟩, heading⟩ := l
  have rows := row.upper
  have cols := col.upper
  cases heading <;>
    simp only [Outbound, Location.advanced, neighbor, Cell.step, Direction.rowDelta,
      Direction.colDelta, rowCount, colCount, Coord.val_clamp, forall_const, reduceCtorEq,
      false_implies, and_true, true_and] at h ⊢ <;>
    split <;> omega

theorem Outbound.not_onBoard (h : l.Outbound) : ¬ l.cell.OnBoard := by
  rintro ⟨⟨_, _⟩, _, _⟩
  obtain ⟨up, down, left, right⟩ := h
  cases heading : l.heading with
  | up => have := up heading; omega
  | down => have := down heading; omega
  | left => have := left heading; omega
  | right => have := right heading; omega

theorem Outbound.not_onBoard_neighbor (h : l.Outbound) {d : Direction}
    (ahead : d ≠ l.heading.reversed) : ¬ (l.neighbor d).OnBoard := by
  obtain ⟨⟨row, col⟩, heading⟩ := l
  rintro ⟨⟨_, _⟩, _, _⟩
  have rows := row.upper
  have cols := col.upper
  cases heading <;> cases d <;> first
    | exact ahead rfl
    | simp only [Outbound, neighbor, Cell.step, Direction.rowDelta, Direction.colDelta, rowCount,
        colCount, Coord.val_clamp, forall_const, reduceCtorEq, false_implies, and_true,
        true_and] at *
      omega

end Location

theorem Scene.exits_of_outbound (s : Scene) (spawning : Bool) {l : Location} (h : l.Outbound) :
    s.exits spawning l = [] := by
  refine List.eq_nil_iff_forall_not_mem.mpr fun d exit => ?_
  exact h.not_onBoard_neighbor (mem_exits.mp exit).1 (passable_of_mem_exits exit).onBoard

namespace Ghost

variable {s : Scene} {g : Ghost} {σ : Type} [RandomSource σ]

theorem plan_of_stuck (h : g.Stuck s) (color : Color) (source : σ) :
    g.plan s color source = ⟨{ g with next := g.location.advanced }, source, .stranded⟩ := by
  obtain ⟨here, free, stuck⟩ := h
  rw [plan, if_neg here, if_neg (by omega), stuck]

end Ghost

namespace World

variable {σ μ : Type} [RandomSource σ] [ModeSource μ]

/-! ## Off the board -/

/-- The player is on the board. The ghost is on a cell off the board, and about to go on to some
location. -/
structure Passes (color : Color) (next : Location) (w : World σ μ) : Prop where
  player : w.player.cell.OnBoard
  here : ¬ (w.ghosts.get color).location.cell.OnBoard
  next : (w.ghosts.get color).next = next

section

variable {color : Color} {next : Location}

omit [RandomSource σ] [ModeSource μ]

theorem get_collide_of_not_onBoard {w : World σ μ} (player : w.player.cell.OnBoard)
    (here : ¬ (w.ghosts.get color).location.cell.OnBoard) :
    (collide w).1.ghosts.get color = w.ghosts.get color := by
  rw [get_ghosts_collide]
  exact Ghost.afterCheck_of_not_meets color fun meets => here (meets ▸ player)

theorem collide_passes : (collide (σ := σ) (μ := μ)).Keeps (Passes color next) := by
  intro w h
  have same := get_collide_of_not_onBoard h.player h.here
  refine ⟨?_, ?_, ?_⟩
  · rw [player_collide]
    exact h.player
  · rw [same]
    exact h.here
  · rw [same]
    exact h.next

theorem enter_passes {w : World σ μ} (way : w.maze.wallAt w.player.advanced.cell = false)
    (h : w.Passes color next) : (enter w).1.Passes color next := by
  obtain ⟨_, _, _, _, entered⟩ := enter_frame w
  have same : ((enter w).1.ghosts.get color).location = (w.ghosts.get color).location ∧
      ((enter w).1.ghosts.get color).next = (w.ghosts.get color).next := by
    rw [entered]
    simp only [ghostsAfterMeal]
    split
    · rw [Roster.get_map]
      exact ⟨rfl, rfl⟩
    · exact ⟨rfl, rfl⟩
  refine ⟨?_, ?_, same.2.trans h.next⟩
  · rw [player_enter]
    exact Maze.onBoard_of_wallAt_eq_false way
  · rw [same.1]
    exact h.here

theorem makeQueuedMove_passes : (makeQueuedMove (σ := σ) (μ := μ)).Keeps (Passes color next) :=
  makeQueuedMove_keeps collide_passes (fun _ _ h => ⟨h.player, h.here, h.next⟩)
    (fun _ way h => enter_passes way h) (fun _ _ h => ⟨h.player, h.here, h.next⟩)

end

/-- **A ghost that stays off the board** moves as it planned. -/
theorem location_update_of_beyond {w : World σ μ} {color : Color} (player : w.player.cell.OnBoard)
    (here : ¬ (w.ghosts.get color).location.cell.OnBoard)
    (there : ¬ (w.polled.plan color).ghost.next.cell.OnBoard) :
    ((update w).1.ghosts.get color).location = (w.polled.plan color).ghost.next := by
  have ready : w.ready.Passes color (w.polled.plan color).ghost.next := by
    obtain ⟨_, _, frame⟩ := (w.polled.ghosts.get color).plan_frame w.polled.scene color
      (w.polled.sources.get color)
    have get : w.ready.ghosts.get color = (w.polled.plan color).ghost := by
      rw [World.ready, planned, Roster.get_ofFn]
    refine ⟨player, ?_, congrArg Ghost.next get⟩
    rw [get, plan, frame]
    exact here
  have made := makeQueuedMove_passes w.ready ready
  have moved : (w.moved.ghosts.get color).location = (w.polled.plan color).ghost.next := by
    rw [World.moved, Roster.get_map]
    exact made.next
  have player' : w.moved.player.cell.OnBoard := made.player
  simp only [update_apply]
  rw [get_collide_of_not_onBoard player' (by rwa [moved]), moved]

/-! ## Adrift -/

/-- The ghost is off the board, faces away from it and is free to go on, while the player is on the
board. -/
structure Adrift (color : Color) (w : World σ μ) : Prop where
  player : w.player.cell.OnBoard
  lane : (w.ghosts.get color).location.InLane
  outbound : (w.ghosts.get color).location.Outbound
  free : (w.ghosts.get color).trap = 0

omit [RandomSource σ] [ModeSource μ] in
theorem Adrift.stuck {w : World σ μ} {color : Color} (h : w.Adrift color) (s : Scene) :
    (w.ghosts.get color).Stuck s := by
  exact ⟨h.lane.not_isOffBoard, h.free, s.exits_of_outbound _ h.outbound.advanced⟩

/-- **An update** takes a ghost that is adrift one cell further out, and strands it there. -/
theorem adrift_tick {w : World σ μ} {color : Color} (adrift : w.Adrift color)
    (due : w.updateDue = true) :
    let l := (w.ghosts.get color).location.advanced
    .ghostStranded color l ∈ (apply .tick w).2 ∧
      ((apply .tick w).1.ghosts.get color).location = l ∧
      (apply .tick w).1.sources.get color = w.sources.get color ∧
      ((apply .tick w).2.any Event.frightens = false → (apply .tick w).1.Adrift color) := by
  intro l
  have plan : w.polled.plan color =
      ⟨{ w.ghosts.get color with next := l }, w.sources.get color, .stranded⟩ :=
    Ghost.plan_of_stuck (adrift.stuck w.polled.scene) color (w.sources.get color)
  have outbound : l.Outbound := adrift.outbound.advanced
  have location : ((update w).1.ghosts.get color).location = l := by
    have moved := location_update_of_beyond adrift.player adrift.outbound.not_onBoard
      (by rw [plan]; exact outbound.not_onBoard)
    rwa [plan] at moved
  have source := source_update w color
  rw [plan] at source
  have trap := trap_update w color
  simp only [if_neg adrift.lane.not_isOffBoard, adrift.free] at trap
  have told : .ghostStranded color l ∈ (update w).2 := by
    simp only [update_apply, List.mem_append]
    exact .inl (.inl (mem_planGhosts.mpr ⟨color, by rw [plan], by rw [plan]⟩))
  obtain ⟨ghosts, sources, log⟩ := apply_tick_of_due due
  rw [ghosts, sources, log]
  refine ⟨List.mem_cons_of_mem _ told, location, source, fun calm => ?_⟩
  rw [List.any_cons, Bool.or_eq_false_iff] at calm
  refine ⟨onBoard_invariant.apply .tick w adrift.player, ?_, ?_, ?_⟩
  · rw [ghosts, location]
    exact adrift.lane.advanced
  · rwa [ghosts, location]
  · rw [ghosts, trap, calm.2]
    rfl

/-- The account of a ghost that is adrift: it stays so for as long as the ghosts are not frightened,
and each update takes it one cell further out. -/
def Drifts (color : Color) (w : World σ μ) (told : List Event) (v : World σ μ) : Prop :=
  w.Adrift color → told.any Event.frightens = false →
    v.Adrift color ∧ v.sources.get color = w.sources.get color ∧
      (v.ghosts.get color).location =
        (w.ghosts.get color).location.drifted (told.countP Event.isUpdate)

omit [RandomSource σ] [ModeSource μ] in
theorem drifts_account (color : Color) : Phase.Account (Drifts (σ := σ) (μ := μ) color) where
  nil := fun _ adrift _ => ⟨adrift, rfl, (Location.drifted_zero _).symm⟩
  append := by
    intro a b c es fs first second adrift calm
    rw [List.any_append, Bool.or_eq_false_iff] at calm
    obtain ⟨adrift, source, location⟩ := first adrift calm.1
    obtain ⟨adrift', source', location'⟩ := second adrift calm.2
    refine ⟨adrift', source'.trans source, ?_⟩
    rw [location', location, Location.drifted_drifted, List.countP_append]

theorem apply_drifts (color : Color) (command : Command) :
    (apply (σ := σ) (μ := μ) command).Follows (Drifts color) := by
  intro w adrift calm
  by_cases update : command = .tick ∧ w.updateDue = true
  · obtain ⟨rfl, due⟩ := update
    obtain ⟨_, location, source, after⟩ := adrift_tick adrift due
    rw [(elapsed_tick due color).2, Location.drifted_one]
    exact ⟨after calm, source, location⟩
  · obtain ⟨_, _, _, same⟩ := apply_idle_frame update
    rw [countP_isUpdate_idle update, same, Location.drifted_zero]
    exact ⟨⟨adrift.player, adrift.lane, adrift.outbound, adrift.free⟩, rfl, rfl⟩

/-- **A ghost drifts** for as long as the ghosts are not frightened. -/
theorem run_drifts (color : Color) (commands : List Command) :
    (run (σ := σ) (μ := μ) commands).Follows (Drifts color) :=
  (drifts_account color).forEach (apply_drifts color) commands

theorem source_drifts {w : World σ μ} {color : Color} (adrift : w.Adrift color)
    {commands : List Command} (calm : (run commands w).2.any Event.frightens = false) :
    (run (commands ++ [.tick]) w).1.sources.get color = w.sources.get color := by
  obtain ⟨after, source, _⟩ := run_drifts color commands w adrift calm
  rw [run_concat]
  cases due : (run commands w).1.updateDue with
  | true =>
    obtain ⟨_, _, last, _⟩ := adrift_tick after due
    exact last.trans source
  | false =>
    simp only [apply, advance_of_not_due due]
    exact source

/-! ## Whole games -/

/-- **Off the board a ghost drifts straight out**, one cell further with each update, stranded and
without a draw, as long as the ghosts are not frightened. -/
theorem drifts_out {config : Config} {maze : Maze} {modes : ModeControl μ} {sources : Roster σ}
    {w : World σ μ} (new : new? config maze modes sources = .ok w) (commands : List Command)
    (color : Color) :
    let v := (run commands w).1
    let l := (v.ghosts.get color).location
    ¬ l.IsOffBoard → ¬ l.cell.OnBoard →
      (let rowIn := 0 ≤ l.cell.row.val ∧ l.cell.row.val < rowCount
       let colIn := 0 ≤ l.cell.col.val ∧ l.cell.col.val < colCount
       (¬ rowIn ∧ colIn ∧ (l.heading = .up ∨ l.heading = .down)) ∨
         (rowIn ∧ ¬ colIn ∧ (l.heading = .left ∨ l.heading = .right))) ∧
      (l.Outbound → (v.ghosts.get color).trap = 0 → ∀ more,
        (∀ cycles, .ghostsFrightened cycles ∉ (run more v).2) →
          let u := (run more v).1
          let n := (run more v).2.countP Event.isUpdate
          (u.ghosts.get color).location = l.drifted n ∧
            (u.updateDue = true →
              .ghostStranded color (l.drifted (n + 1)) ∈ (apply .tick u).2 ∧
                ((apply .tick u).1.ghosts.get color).location = l.drifted (n + 1)) ∧
            drawn (more ++ [.tick]) v color = #[] ∧
            (run (more ++ [.tick]) v).1.sources.get color = v.sources.get color) := by
  intro v l here off
  have lane : l.InLane := ((obeys_inLane new commands color).present_on here).2
  refine ⟨?_, ?_⟩
  · intro rowIn colIn
    have either : ¬ (rowIn ∧ colIn) := off
    cases heading : l.heading with
    | up | down =>
      have col : colIn := lane.1 (by rw [heading]; rfl)
      exact .inl ⟨fun row => either ⟨row, col⟩, col, by simp⟩
    | left | right =>
      have row : rowIn := lane.2 (by rw [heading]; rfl)
      exact .inr ⟨row, fun col => either ⟨row, col⟩, by simp⟩
  · intro outbound free more calm u n
    have adrift : v.Adrift color := ⟨onBoard_run new commands, lane, outbound, free⟩
    have calm' : (run more v).2.any Event.frightens = false := Event.any_frightens_eq_false.mpr calm
    obtain ⟨after, _, location⟩ := run_drifts color more v adrift calm'
    have further : (u.ghosts.get color).location.advanced = l.drifted (n + 1) := by
      rw [location, ← Location.drifted_one, Location.drifted_drifted]
    refine ⟨location, fun due => ?_, drawn_eq_empty (source_drifts ?_ ?_),
      source_drifts adrift calm'⟩
    · obtain ⟨told, moved, _⟩ := adrift_tick after due
      rw [← further]
      exact ⟨told, moved⟩
    · exact ⟨adrift.player, adrift.lane, adrift.outbound, adrift.free⟩
    · rwa [snd_run_recording]

/-- Red leaves the board at its left edge and drifts on. -/
theorem drifts_out_red :
    let maze : Maze :=
      { Maze.openFloor with
        walls := ⟨((Vector.replicate rowCount 0).set 10 (BitVec.allOnes colCount)).set 12
          (BitVec.allOnes colCount)⟩ }
    let w : World Listed ModeSnapshot := start { updatePeriod := 1 } maze
      (.external ⟨.scatter, some .scatter⟩) (.ofFn fun _ => ⟨[]⟩)
    let commands : List Command := List.replicate 15 .tick
    let more : List Command := [.tick, .setMode .chase, .movePlayer .right, .tick, .tick]
    let u := (run more (run commands w).1).1
    let log := (run more (run commands w).1).2
    (new? { updatePeriod := 1 } maze (.external ⟨.scatter, some .scatter⟩) (.ofFn fun _ => ⟨[]⟩) =
        .ok w ∧ ((run commands w).1.ghosts.get .red).location = ⟨⟨11, -1⟩, .left⟩ ∧
      ((run commands w).1.ghosts.get .red).trap = 0 ∧
      ∀ cycles, .ghostsFrightened cycles ∉ log) ∧
    (u.ghosts.get .red).location = ⟨⟨11, -4⟩, .left⟩ ∧
    .ghostStranded .red ⟨⟨11, -5⟩, .left⟩ ∈ (apply .tick u).2 ∧
    drawn (more ++ [.tick]) (run commands w).1 .red = #[] := by
  intro maze w commands more u log
  have new : new? { updatePeriod := 1 } maze (.external ⟨.scatter, some .scatter⟩)
      (.ofFn fun _ => ⟨[]⟩) = .ok w := new?_eq_ok_iff.mpr ⟨by decide, rfl⟩
  obtain ⟨⟨location, trap⟩, ⟨updates, due⟩, quiet⟩ :
      (((run commands w).1.ghosts.get .red).location = ⟨⟨11, -1⟩, .left⟩ ∧
        ((run commands w).1.ghosts.get .red).trap = 0) ∧
      (log.countP Event.isUpdate = 3 ∧ u.updateDue = true) ∧ log.any Event.frightens = false := by
    decide +kernel
  have here : ¬ ((run commands w).1.ghosts.get .red).location.IsOffBoard := by
    rw [location]; decide
  have off : ¬ ((run commands w).1.ghosts.get .red).location.cell.OnBoard := by
    rw [location]; decide
  have outbound : ((run commands w).1.ghosts.get .red).location.Outbound := by
    rw [location]; decide
  have calm : ∀ cycles, .ghostsFrightened cycles ∉ log := Event.any_frightens_eq_false.mp quiet
  obtain ⟨there, next, drawn, _⟩ :=
    (drifts_out new commands .red here off).2 outbound trap more calm
  obtain ⟨told, _⟩ := next due
  rw [updates, location] at there told
  exact ⟨⟨new, location, trap, calm⟩, there.trans (by decide), told, drawn⟩

end World

end MazeChase
