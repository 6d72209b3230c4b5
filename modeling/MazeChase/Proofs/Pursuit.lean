import Mathlib.Data.List.MinMax
import MazeChase.Proofs.Guarded
import MazeChase.Proofs.Passage

/-!
# The pursuit

Where a ghost that is free and without fear goes. It goes on to the cell ahead; of the directions in
which it can leave that cell, it takes the one that leads closest to where it heads for, and of
those that lead equally close, the earliest one.

* `Ghost.CanLeave`: a way on, said in terms of the maze; `Ghost.mem_exits_iff`;
* `Scene.HuntsAt`, `Scene.HeadsFor`: where a ghost heads for, said case by case;
  `Cell.ahead_eq_iterate`, **`Scene.headsFor_iff`**;
* `Ghost.Prefers`, `Ghost.Best`: the best way on; `Ghost.Best.unique`, `argmin_cons_eq_foldl`,
  **`Ghost.best_nearest`**;
* **`Ghost.pursues_best_way`**.
-/

set_option autoImplicit false

namespace MazeChase

/-! ## Ways on -/

namespace Ghost

/-- The cell that the ghost goes on to. -/
def onward (g : Ghost) : Cell := g.location.cell.step g.location.heading

/-- The ghost can leave the cell ahead in the direction: it does not turn back, and it comes to no
wall, except that a ghost on its way out of the house can pass the house and its exit. -/
def CanLeave (s : Scene) (g : Ghost) (d : Direction) : Prop :=
  d ≠ g.location.heading.reversed ∧
    (s.maze.wallAt (g.onward.step d) = false ∨
      g.spawning = true ∧ ((g.onward.step d).InHouse ∨ g.onward.step d = Cell.houseExit))

instance (s : Scene) (g : Ghost) (d : Direction) : Decidable (g.CanLeave s d) := by
  unfold CanLeave; infer_instance

variable {s : Scene} {g : Ghost} {d e : Direction}

theorem mem_exits_iff : d ∈ s.exits g.spawning g.location.advanced ↔ g.CanLeave s d := by
  rw [Scene.mem_exits, Scene.isOpen, Bool.or_eq_true, Bool.not_eq_true', Bool.and_eq_true,
    Bool.or_eq_true, decide_eq_true_eq, decide_eq_true_eq]
  rfl

end Ghost

/-! ## Targets -/

theorem Coord.clamp_succ (r : Coord) {δ : Int} (unit : δ = -1 ∨ δ = 0 ∨ δ = 1) {n : Nat}
    (few : n + 1 ≤ 127) :
    clamp (r.val + (clamp (δ * (clamp ((n + 1 : Nat) : Int)).val)).val) =
      clamp ((clamp (r.val + (clamp (δ * (clamp (n : Int)).val)).val)).val + δ) := by
  have lower := r.lower
  have upper := r.upper
  rw [val_clamp_of_mem (n := n) (by omega) (by omega),
    val_clamp_of_mem (n := (n + 1 : Nat)) (by omega) (by omega)]
  rcases unit with rfl | rfl | rfl <;> ext <;> simp only [val_clamp] <;> grind

theorem Direction.rowDelta_unit (d : Direction) :
    d.rowDelta = -1 ∨ d.rowDelta = 0 ∨ d.rowDelta = 1 := by
  cases d <;> decide

theorem Direction.colDelta_unit (d : Direction) :
    d.colDelta = -1 ∨ d.colDelta = 0 ∨ d.colDelta = 1 := by
  cases d <;> decide

theorem Cell.ahead_eq_iterate (c : Cell) (d : Direction) {n : Nat} (few : n ≤ 127) :
    c.ahead d (Coord.clamp n) = (Cell.step · d)^[n] c := by
  induction n with
  | zero => cases d <;> simp [Cell.ahead, Coord.val_clamp]
  | succ n ih =>
    rw [Function.iterate_succ_apply', ← ih (by omega)]
    ext
    · exact congrArg Coord.val (Coord.clamp_succ c.row d.rowDelta_unit few)
    · exact congrArg Coord.val (Coord.clamp_succ c.col d.colDelta_unit few)

namespace Scene

/-- The cell that the player would come to with so many steps. -/
def playerAfter (s : Scene) (n : Nat) : Cell := (Cell.step · s.player.heading)^[n] s.player.cell

/-- How far orange is from the player, squared, where both are before anybody moves. -/
def orangeDistSq (s : Scene) : Int := s.ghosts.orange.cell.toPoint.distSq s.player.cell.toPoint

/-- Where the ghosts hunt. -/
inductive HuntsAt (s : Scene) : Color → Point → Prop
  /-- Red: at the player. -/
  | red : HuntsAt s .red s.player.cell.toPoint
  /-- Pink: four steps ahead of the player. -/
  | pink : HuntsAt s .pink (s.playerAfter 4).toPoint
  /-- Cyan: where the cell two steps ahead of the player is halfway from red. -/
  | cyan {p : Point} (row : s.ghosts.red.cell.row.val + p.row = 2 * (s.playerAfter 2).row.val)
      (col : s.ghosts.red.cell.col.val + p.col = 2 * (s.playerAfter 2).col.val) :
      HuntsAt s .cyan p
  /-- Orange from afar: at the player. -/
  | orangeFar (far : 64 ≤ s.orangeDistSq) : HuntsAt s .orange s.player.cell.toPoint
  /-- Orange when close: in its corner. -/
  | orangeNear (near : s.orangeDistSq < 64) : HuntsAt s .orange Color.orange.corner.toPoint

theorem huntsAt_iff {s : Scene} {color : Color} {p : Point} :
    s.HuntsAt color p ↔ p = s.chaseTarget color := by
  have two : s.player.ahead 2 = s.playerAfter 2 := Cell.ahead_eq_iterate _ _ (by decide)
  have four : s.player.ahead 4 = s.playerAfter 4 := Cell.ahead_eq_iterate _ _ (by decide)
  constructor
  · intro hunts
    cases hunts with
    | red => rfl
    | pink => rw [chaseTarget, four]
    | cyan row col =>
      rw [chaseTarget, two]
      ext
      · exact eq_sub_of_add_eq' row
      · exact eq_sub_of_add_eq' col
    | orangeFar far => exact (if_pos far).symm
    | orangeNear near => exact (if_neg (Int.not_le.mpr near)).symm
  · rintro rfl
    cases color with
    | red => exact .red
    | pink =>
      rw [chaseTarget, four]
      exact .pink
    | cyan =>
      rw [chaseTarget, two]
      exact .cyan (add_sub_cancel _ _) (add_sub_cancel _ _)
    | orange =>
      rw [chaseTarget]
      split
      · rename_i far
        exact .orangeFar far
      · rename_i near
        exact .orangeNear (Int.not_le.mp near)

end Scene

/-- The ghost is on its way out of the house, and it is neither on the cell where red starts nor
about to be there. -/
def Ghost.Leaving (g : Ghost) : Prop :=
  g.spawning = true ∧ g.location.cell ≠ Color.red.spawn.cell ∧ g.onward ≠ Color.red.spawn.cell

instance (g : Ghost) : Decidable g.Leaving := by unfold Ghost.Leaving; infer_instance

namespace Scene

/-- Where a ghost heads for, if it heads anywhere. -/
inductive HeadsFor (s : Scene) (color : Color) (g : Ghost) : Option Point → Prop
  /-- Out of the house: for the cell where red starts. -/
  | leaving (leaving : g.Leaving) : HeadsFor s color g (some Color.red.spawn.cell.toPoint)
  /-- In a chase: for where it hunts. -/
  | hunting {p : Point} (outside : ¬ g.Leaving) (mode : s.mode = some .chase)
      (hunts : s.HuntsAt color p) : HeadsFor s color g (some p)
  /-- When the game scatters: for its corner. -/
  | scattering (outside : ¬ g.Leaving) (mode : s.mode = some .scatter) :
      HeadsFor s color g (some color.corner.toPoint)
  /-- In no mode, or in a pause: for nowhere. -/
  | straying (outside : ¬ g.Leaving) (chase : s.mode ≠ some .chase)
      (scatter : s.mode ≠ some .scatter) : HeadsFor s color g none

/-- **Where a ghost heads for** is settled in every case, and in one way. -/
theorem headsFor_iff {s : Scene} {color : Color} {g : Ghost} {target : Option Point} :
    s.HeadsFor color g target ↔ target = s.target? color g g.location.advanced := by
  have leaving_iff : (g.spawning ∧ ¬ g.location.Meets Color.red.spawn ∧
      ¬ g.location.advanced.Meets Color.red.spawn) ↔ g.Leaving := Iff.rfl
  rw [target?, if_congr leaving_iff rfl rfl]
  by_cases out : g.Leaving
  · rw [if_pos out]
    constructor
    · intro heads
      cases heads with
      | leaving => rfl
      | hunting outside | scattering outside | straying outside => exact absurd out outside
    · rintro rfl
      exact .leaving out
  · rw [if_neg out]
    constructor
    · intro heads
      cases heads with
      | leaving leaving => exact absurd leaving out
      | hunting _ mode hunts => rw [mode, huntsAt_iff.mp hunts]
      | scattering _ mode => rw [mode]
      | straying _ chase scatter =>
        split
        · rename_i mode
          exact absurd mode chase
        · rename_i mode
          exact absurd mode scatter
        · rfl
    · rintro rfl
      split
      · rename_i mode
        exact .hunting out mode (huntsAt_iff.mpr rfl)
      · rename_i mode
        exact .scattering out mode
      · rename_i chase scatter
        exact .straying out chase scatter

end Scene

/-! ## The best way on -/

namespace Ghost

/-- The squared distance from a point to the cell that the ghost comes to when it leaves the cell
ahead in a direction. -/
def distSqBy (g : Ghost) (p : Point) (d : Direction) : Int := (g.onward.step d).toPoint.distSq p

/-- The direction `d` leads closer to the target than `e`, or just as close, but it is the earlier
one. Without a target the earlier one is better. -/
def Prefers (g : Ghost) (target : Option Point) (d e : Direction) : Prop :=
  match target with
  | some p => g.distSqBy p d < g.distSqBy p e ∨ g.distSqBy p d = g.distSqBy p e ∧ d.index < e.index
  | none => d.index < e.index

/-- The ghost can leave the cell ahead in the direction, and it prefers it to all others in which it
can leave. -/
def Best (s : Scene) (g : Ghost) (target : Option Point) (d : Direction) : Prop :=
  g.CanLeave s d ∧ ∀ e, e ≠ d → g.CanLeave s e → g.Prefers target d e

variable {s : Scene} {g : Ghost} {target : Option Point} {d e : Direction}

theorem Prefers.asymm (h : g.Prefers target d e) : ¬ g.Prefers target e d := by
  cases target with
  | none => exact Nat.lt_asymm h
  | some p =>
    simp only [Prefers] at h ⊢
    omega

theorem Best.unique (hd : g.Best s target d) (he : g.Best s target e) : e = d := by
  by_contra other
  exact (hd.2 e other he.1).asymm (he.2 d (Ne.symm other) hd.1)

theorem prefers_iff : g.Prefers target d e ↔
    Scene.cost target g.location.advanced d < Scene.cost target g.location.advanced e ∨
      Scene.cost target g.location.advanced d = Scene.cost target g.location.advanced e ∧
        d.index < e.index := by
  cases target with
  | some p => exact Iff.rfl
  | none => simp [Prefers, Scene.cost]

end Ghost

theorem argmin_cons_eq_foldl {α β : Type} [Preorder β] [DecidableLT β] (f : α → β) (a : α)
    (l : List α) :
    (a :: l).argmin f = some (l.foldl (fun best b => if f b < f best then b else best) a) := by
  induction l generalizing a with
  | nil => rfl
  | cons b l ih =>
    have step : List.argAux (fun b c => f b < f c) (some a) b =
        some (if f b < f a then b else a) := (apply_ite some _ _ _).symm
    change (b :: l).foldl (List.argAux _) (some a) = _
    rw [List.foldl_cons, step]
    exact ih _

namespace Scene

variable {s : Scene} {spawning : Bool} {l : Location} {d : Direction}

theorem pairwise_exits : (s.exits spawning l).Pairwise (·.index < ·.index) :=
  List.Pairwise.filter _ (by decide)

theorem index_lt_of_idxOf_le {ds : List Direction} (sorted : ds.Pairwise (·.index < ·.index))
    {e : Direction} (hd : d ∈ ds) (he : e ∈ ds) (first : ds.idxOf d ≤ ds.idxOf e) (other : e ≠ d) :
    d.index < e.index := by
  have before : ds.idxOf d < ds.idxOf e :=
    lt_of_le_of_ne first fun same => other ((List.idxOf_inj hd).mp same).symm
  have order := List.pairwise_iff_getElem.mp sorted _ _ (List.idxOf_lt_length_of_mem hd)
    (List.idxOf_lt_length_of_mem he) before
  rwa [List.getElem_idxOf, List.getElem_idxOf] at order

end Scene

namespace Ghost

variable {s : Scene} {g : Ghost} {target : Option Point} {d : Direction} {more : List Direction}

/-- **The nearest exit** is the best way on. -/
theorem best_nearest (exits : s.exits g.spawning g.location.advanced = d :: more) :
    g.Best s target (Scene.nearest target g.location.advanced d more) := by
  have argmin : (d :: more).argmin (Scene.cost target g.location.advanced) =
      some (Scene.nearest target g.location.advanced d more) := argmin_cons_eq_foldl _ d more
  obtain ⟨exit, least, first⟩ := List.mem_argmin_iff.mp argmin
  have sorted : (d :: more).Pairwise (·.index < ·.index) := exits ▸ Scene.pairwise_exits
  refine ⟨mem_exits_iff.mp (exits ▸ exit), fun e other way => prefers_iff.mpr ?_⟩
  have he : e ∈ d :: more := exits ▸ mem_exits_iff.mpr way
  rcases lt_or_eq_of_le (least e he) with less | equal
  · exact .inl less
  · exact .inr ⟨equal, Scene.index_lt_of_idxOf_le sorted exit he (first e he equal.ge) other⟩

theorem exits_eq_nil_iff : s.exits g.spawning g.location.advanced = [] ↔ ∀ d, ¬ g.CanLeave s d := by
  rw [List.eq_nil_iff_forall_not_mem]
  exact forall_congr' fun d => not_congr mem_exits_iff

variable {σ : Type} [RandomSource σ]

/-- **The pursuit.** Where a ghost heads for is settled in every case, and it takes the one best way
on, or is stranded if there is none; the calculation in numbers of 32 bits comes to the same. -/
theorem pursues_best_way (here : ¬ g.location.IsOffBoard) (free : g.trap = 0) (calm : g.fright ≤ 1)
    (color : Color) (source : σ) :
    ∃ target, (∀ t, s.HeadsFor color g t ↔ t = target) ∧
      ((∀ d, ¬ g.CanLeave s d) → g.plan s color source =
        ⟨{ g with next := ⟨g.onward, g.location.heading⟩ }, source, .stranded⟩) ∧
      ((∃ d, g.CanLeave s d) → ∃ best, (∀ d, g.Best s target d ↔ d = best) ∧
        g.plan s color source = ⟨{ g with next := ⟨g.onward, best⟩ }, source, .pursued⟩) ∧
      Guarded.plan s color g source = .ok (g.plan s color source) := by
  have trapped : ¬ 0 < g.trap := by omega
  have frightened : ¬ 1 < g.fright := by omega
  refine ⟨s.target? color g g.location.advanced, fun _ => Scene.headsFor_iff, fun stuck => ?_,
    fun way => ?_, Guarded.plan_eq s color g source⟩
  · rw [plan, if_neg here, if_neg trapped, exits_eq_nil_iff.mpr stuck]
    rfl
  · cases exits : s.exits g.spawning g.location.advanced with
    | nil =>
      obtain ⟨d, way⟩ := way
      exact absurd way (exits_eq_nil_iff.mp exits d)
    | cons d more =>
      have best : g.Best s (s.target? color g g.location.advanced)
          (Scene.nearest (s.target? color g g.location.advanced) g.location.advanced d more) :=
        best_nearest exits
      refine ⟨_, fun e => ⟨best.unique, fun same => same ▸ best⟩, ?_⟩
      rw [plan, if_neg here, if_neg trapped, exits]
      exact if_neg frightened

/-- Red must not turn back at a crossing, and of two equally good ways it goes up. -/
theorem pursues_best_way_crossing :
    let s : Scene := ⟨.classic, ⟨⟨5, 1⟩, .left⟩, .ofFn fun _ => ⟨⟨5, 5⟩, .right⟩, some .chase⟩
    let g : Ghost := ⟨⟨⟨5, 5⟩, .right⟩, ⟨⟨5, 5⟩, .right⟩, 1, 0, false, false⟩
    let player : Point := ⟨5, 1⟩
    (¬ g.location.IsOffBoard ∧ g.trap = 0 ∧ g.fright ≤ 1) ∧
    (g.CanLeave s .up ∧ g.CanLeave s .down ∧ g.CanLeave s .right ∧ ¬ g.CanLeave s .left) ∧
    (g.distSqBy player .left = 16 ∧ g.distSqBy player .up = 26 ∧ g.distSqBy player .down = 26 ∧
      g.distSqBy player .right = 36) ∧
    s.HeadsFor .red g (some player) ∧ g.Best s (some player) .up ∧
    g.plan s .red (⟨[]⟩ : Listed) = ⟨{ g with next := ⟨⟨5, 6⟩, .up⟩ }, ⟨[]⟩, .pursued⟩ := by
  intro s g player
  have here : ¬ g.location.IsOffBoard := by decide
  have ways : g.CanLeave s .up ∧ g.CanLeave s .down ∧ g.CanLeave s .right ∧
      ¬ g.CanLeave s .left := by decide +kernel
  have distances : g.distSqBy player .left = 16 ∧ g.distSqBy player .up = 26 ∧
      g.distSqBy player .down = 26 ∧ g.distSqBy player .right = 36 := by decide
  have heads : s.HeadsFor .red g (some player) := .hunting (by decide) rfl .red
  have up : g.Best s (some player) .up := by
    refine ⟨ways.1, fun e other way => ?_⟩
    cases e with
    | up => exact absurd rfl other
    | down => exact .inr (by decide)
    | left => exact absurd way ways.2.2.2
    | right => exact .inl (by decide)
  obtain ⟨target, only, _, pursue, _⟩ :=
    pursues_best_way (s := s) here rfl le_rfl .red (⟨[]⟩ : Listed)
  obtain ⟨best, only_best, plan⟩ := pursue ⟨.up, ways.1⟩
  rw [← (only _).mp heads] at only_best
  rw [← (only_best .up).mp up] at plan
  exact ⟨⟨here, rfl, le_rfl⟩, ways, distances, heads, up, plan⟩

end Ghost

end MazeChase
