import Mathlib.Data.List.Basic
import Mathlib.Tactic.Linarith
import MazeChase.Proofs.Counting
import MazeChase.Proofs.Plan

/-!
# Guarded calculations

The same calculations once more, on numbers of a fixed width and on indices, operation by operation:
one that leaves its range is a fault, and nothing follows it. None does. Coordinates are small, so
distances are, too, wherever a ghost has gone; and pellets whose number is right can be taken.

* `Fault`, `Guarded.ensure`, `Guarded.int32`, `Guarded.decrement`, `Guarded.below`: the guards;
* `Point.Within`, `Guarded.distSq_eq`, `Guarded.target?_eq`: distances and targets stay in range;
* `Guarded.wallAt`, `Guarded.take?`, **`Guarded.take?_eq`**: what lies on a cell;
* `Guarded.Prospect`, `Guarded.best`, **`Guarded.plan_eq`**: the plan of a ghost;
* `Guarded.update_eq`: the timers of a ghost.
-/

set_option autoImplicit false

namespace MazeChase

/-- What stops a calculation. -/
inductive Fault where
  /-- A number does not fit its 32 bits. -/
  | overflow
  /-- A distance is not below the number that stands for no distance. -/
  | tooFar
  /-- A row or a column that is not one of the board is looked up. -/
  | outside
  /-- Zero is to be made smaller. -/
  | underflow
  /-- There is a pellet although none is left. -/
  | noneLeft
  /-- The number of the pellets is not that of their cells. -/
  | miscounted
  /-- A number below zero is to be drawn. -/
  | emptyDraw
  /-- A division by zero. -/
  | division
deriving DecidableEq, Repr

namespace Guarded

/-! ## Guards -/

@[simp] theorem ok_bind {α β : Type} (a : α) (f : α → Except Fault β) : (.ok a >>= f) = f a := rfl

@[simp] theorem pure_eq_ok {α : Type} (a : α) : (pure a : Except Fault α) = .ok a := rfl

/-- Go on if the condition holds. -/
def ensure (condition : Prop) [Decidable condition] (fault : Fault) : Except Fault Unit :=
  if condition then .ok () else .error fault

theorem ensure_of {condition : Prop} [Decidable condition] (h : condition) (fault : Fault) :
    ensure condition fault = .ok () :=
  if_pos h

/-- The largest number of 32 bits, one of which is the sign. -/
def maxInt32 : Int := 2147483647

/-- A number that fits 32 bits. -/
def int32 (n : Int) : Except Fault Int := do
  ensure (-maxInt32 - 1 ≤ n ∧ n ≤ maxInt32) .overflow
  return n

theorem int32_eq {n : Int} (lower : -2147483648 ≤ n) (upper : n ≤ 2147483647) :
    int32 n = .ok n := by
  rw [int32, ensure_of ⟨lower, upper⟩]
  rfl

/-- One less. -/
def decrement (n : Nat) : Except Fault Nat := do
  ensure (0 < n) .underflow
  return n - 1

theorem decrement_eq {n : Nat} (pos : 0 < n) : decrement n = .ok (n - 1) := by
  rw [decrement, ensure_of pos]
  rfl

/-- A draw. -/
def below {σ : Type} [RandomSource σ] (source : σ) (bound : Nat) : Except Fault (Nat × σ) := do
  ensure (1 ≤ bound) .emptyDraw
  return RandomSource.below source bound

theorem below_eq {σ : Type} [RandomSource σ] (source : σ) {bound : Nat} (pos : 1 ≤ bound) :
    below source bound = .ok (RandomSource.below source bound) := by
  rw [below, ensure_of pos]
  rfl

end Guarded

/-! ## Distances -/

/-- Neither the row nor the column is further from zero than the number. -/
def Point.Within (n : Int) (p : Point) : Prop :=
  (-n ≤ p.row ∧ p.row ≤ n) ∧ -n ≤ p.col ∧ p.col ≤ n

namespace Point.Within

variable {p q : Point} {n : Int}

theorem mono {m : Int} (h : p.Within n) (le : n ≤ m) : p.Within m := by
  obtain ⟨row, col⟩ := h
  exact ⟨⟨by omega, by omega⟩, by omega, by omega⟩

theorem toPoint (c : Cell) : c.toPoint.Within 128 := by
  have row := c.row.lower
  have row' := c.row.upper
  have col := c.col.lower
  have col' := c.col.upper
  simp only [Cell.toPoint, Point.Within]
  omega

theorem reflect (hp : p.Within 128) (hq : q.Within 128) : (p.reflect q).Within 384 := by
  simp only [Point.reflect, Point.Within] at hp hq ⊢
  omega

end Point.Within

namespace Guarded

/-- The square of the distance between two points. -/
def distSq (p q : Point) : Except Fault Int := do
  let rows ← int32 (q.row - p.row)
  let cols ← int32 (q.col - p.col)
  let rowSq ← int32 (rows * rows)
  let colSq ← int32 (cols * cols)
  let sum ← int32 (rowSq + colSq)
  ensure (sum < maxInt32) .tooFar
  return sum

/-- The reflection of `q` through `p`. -/
def reflect (p q : Point) : Except Fault Point := do
  let row ← int32 (2 * p.row)
  let row ← int32 (row - q.row)
  let col ← int32 (2 * p.col)
  let col ← int32 (col - q.col)
  return ⟨row, col⟩

theorem sq_mem {d : Int} (lower : -768 ≤ d) (upper : d ≤ 768) : 0 ≤ d * d ∧ d * d ≤ 589824 :=
  ⟨mul_self_nonneg d, by nlinarith⟩

variable {p q : Point}

theorem squares (hp : p.Within 384) (hq : q.Within 384) :
    (0 ≤ (q.row - p.row) * (q.row - p.row) ∧ (q.row - p.row) * (q.row - p.row) ≤ 589824) ∧
      0 ≤ (q.col - p.col) * (q.col - p.col) ∧ (q.col - p.col) * (q.col - p.col) ≤ 589824 := by
  obtain ⟨⟨_, _⟩, _, _⟩ := hp
  obtain ⟨⟨_, _⟩, _, _⟩ := hq
  exact ⟨sq_mem (by omega) (by omega), sq_mem (by omega) (by omega)⟩

theorem distSq_lt (hp : p.Within 384) (hq : q.Within 384) : p.distSq q < maxInt32 := by
  obtain ⟨row, col⟩ := squares hp hq
  have max : maxInt32 = 2147483647 := rfl
  rw [Point.distSq]
  omega

/-- **The distance of two points** that are not far away is in range. -/
theorem distSq_eq (hp : p.Within 384) (hq : q.Within 384) : distSq p q = .ok (p.distSq q) := by
  obtain ⟨row, col⟩ := squares hp hq
  have less := distSq_lt hp hq
  obtain ⟨⟨_, _⟩, _, _⟩ := hp
  obtain ⟨⟨_, _⟩, _, _⟩ := hq
  rw [Point.distSq] at less ⊢
  rw [distSq, int32_eq (by omega) (by omega), ok_bind, int32_eq (by omega) (by omega), ok_bind,
    int32_eq (by omega) (by omega), ok_bind, int32_eq (by omega) (by omega), ok_bind,
    int32_eq (by omega) (by omega), ok_bind, ensure_of less]
  rfl

example : distSq ⟨0, 0⟩ ⟨40000, 40000⟩ = .error .overflow := by decide

theorem reflect_eq (hp : p.Within 128) (hq : q.Within 128) :
    reflect p q = .ok (p.reflect q) := by
  obtain ⟨⟨_, _⟩, _, _⟩ := hp
  obtain ⟨⟨_, _⟩, _, _⟩ := hq
  rw [reflect, int32_eq (by omega) (by omega), ok_bind, int32_eq (by omega) (by omega), ok_bind,
    int32_eq (by omega) (by omega), ok_bind, int32_eq (by omega) (by omega)]
  rfl

/-! ## Targets -/

/-- Where a ghost hunts. -/
def chaseTarget (s : Scene) : Color → Except Fault Point
  | .red => return s.player.cell.toPoint
  | .pink => return (s.player.ahead 4).toPoint
  | .cyan => reflect (s.player.ahead 2).toPoint s.ghosts.red.cell.toPoint
  | .orange => do
    let distance ← distSq s.ghosts.orange.cell.toPoint s.player.cell.toPoint
    return if retreatDistSq ≤ distance then s.player.cell.toPoint
      else Color.orange.corner.toPoint

/-- Where a ghost heads for. -/
def target? (s : Scene) (color : Color) (g : Ghost) (coasted : Location) :
    Except Fault (Option Point) :=
  if g.spawning ∧ ¬ g.location.Meets Color.red.spawn ∧ ¬ coasted.Meets Color.red.spawn then
    return some Color.red.spawn.cell.toPoint
  else
    match s.mode with
    | some .chase => do
      let target ← chaseTarget s color
      return some target
    | some .scatter => return some color.corner.toPoint
    | _ => return none

theorem chaseTarget_eq (s : Scene) (color : Color) :
    chaseTarget s color = .ok (s.chaseTarget color) := by
  cases color with
  | red | pink => rfl
  | cyan => exact reflect_eq (.toPoint _) (.toPoint _)
  | orange =>
    rw [chaseTarget, distSq_eq ((Point.Within.toPoint _).mono (by decide))
      ((Point.Within.toPoint _).mono (by decide))]
    rfl

theorem within_chaseTarget (s : Scene) (color : Color) : (s.chaseTarget color).Within 384 := by
  have cell (c : Cell) : c.toPoint.Within 384 := (Point.Within.toPoint c).mono (by decide)
  cases color with
  | red | pink => exact cell _
  | cyan => exact .reflect (.toPoint _) (.toPoint _)
  | orange =>
    rw [Scene.chaseTarget]
    split
    · exact cell _
    · exact cell _

variable {s : Scene} {color : Color} {g : Ghost} {coasted : Location}

theorem target?_eq : target? s color g coasted = .ok (s.target? color g coasted) := by
  unfold target? Scene.target?
  split
  · rfl
  · cases s.mode with
    | none => rfl
    | some mode =>
      cases mode with
      | chase => simp only [chaseTarget_eq, ok_bind, pure_eq_ok]
      | scatter | paused => rfl

theorem within_of_target? {t : Point} (h : s.target? color g coasted = some t) :
    t.Within 384 := by
  have cell (c : Cell) : c.toPoint.Within 384 := (Point.Within.toPoint c).mono (by decide)
  unfold Scene.target? at h
  split at h
  · exact Option.some.inj h ▸ cell _
  · split at h
    · exact Option.some.inj h ▸ within_chaseTarget s color
    · exact Option.some.inj h ▸ cell _
    · exact absurd h (by simp)

/-! ## What lies on a cell -/

/-- The bit of a cell, looked up by its row and its column. -/
def bit (s : CellSet) (c : Cell) : Except Fault Bool := do
  ensure (0 ≤ c.row.val ∧ c.row.val < rowCount) .outside
  ensure (0 ≤ c.col.val ∧ c.col.val < colCount) .outside
  return s.contains c

theorem bit_eq (s : CellSet) {c : Cell} (h : c.OnBoard) : bit s c = .ok (s.contains c) := by
  rw [bit, ensure_of h.1, ok_bind, ensure_of h.2]
  rfl

/-- The cell is a wall or lies off the board. -/
def wallAt (m : Maze) (c : Cell) : Except Fault Bool :=
  if c.OnBoard then bit m.walls c else return true

theorem wallAt_eq (m : Maze) (c : Cell) : wallAt m c = .ok (m.wallAt c) := by
  rw [wallAt]
  split
  · rename_i here
    rw [bit_eq _ here]
    simp [Maze.wallAt, here]
  · rename_i off
    simp [Maze.wallAt, off]

/-- The set without a cell, whose bit is cleared by its row and its column. -/
def clearBit (s : CellSet) (c : Cell) : Except Fault CellSet := do
  ensure (0 ≤ c.row.val ∧ c.row.val < rowCount) .outside
  ensure (0 ≤ c.col.val ∧ c.col.val < colCount) .outside
  return s.erase c

/-- The pellets left when the one on a cell is taken, if there is one; then they are counted. -/
def take? (p : Pellets) (c : Cell) : Except Fault (Option Pellets) :=
  if c.OnBoard then do
    if ← bit p.cells c then
      ensure (0 < p.count) .noneLeft
      let cells ← clearBit p.cells c
      let count ← decrement p.count
      ensure (count = cells.bitCount) .miscounted
      return some ⟨cells, count⟩
    else return none
  else return none

theorem take?_eq {p : Pellets} (counted : p.Counted) (c : Cell) : take? p c = .ok (p.take? c) := by
  rw [take?]
  by_cases here : c.OnBoard
  · rw [if_pos here, bit_eq _ here, ok_bind]
    cases found : p.cells.contains c with
    | false => simp [Pellets.take?, found]
    | true =>
      have taken : p.take? c = some ⟨p.cells.erase c, p.count - 1⟩ := if_pos found
      obtain ⟨right, less⟩ := counted.take taken
      have recount : p.count - 1 = (p.cells.erase c).bitCount := by
        rw [← CellSet.size_eq_bitCount]
        exact right
      have pos : 0 < p.count := by omega
      rw [taken, if_pos rfl, ensure_of pos, ok_bind, clearBit, ensure_of here.1, ok_bind,
        ensure_of here.2, ok_bind, pure_eq_ok, ok_bind, decrement_eq pos, ok_bind,
        ensure_of recount]
      rfl
  · have missing : p.cells.contains c = false :=
      Bool.eq_false_iff.mpr fun found => here (CellSet.onBoard_of_contains found)
    simp [here, Pellets.take?, missing]

example : take? ⟨CellSet.empty.insert ⟨1, 1⟩, 0⟩ ⟨1, 1⟩ = .error .noneLeft := by decide

example : take? ⟨CellSet.empty.insert ⟨1, 1⟩, 2⟩ ⟨1, 1⟩ = .error .miscounted := by decide

/-! ## Plans -/

/-- What a ghost learns of a direction when it plans: how far from the target it leads, and whether
the ghost can go there. -/
structure Prospect where
  heading : Direction
  cost : Int
  valid : Bool

/-- The squared distance from a target to the next cell in a direction. -/
def cost (target : Option Point) (l : Location) (d : Direction) : Except Fault Int :=
  match target with
  | some t => distSq (l.neighbor d).toPoint t
  | none => return 0

/-- What a ghost learns of a direction. -/
def prospect (s : Scene) (spawning : Bool) (target : Option Point) (l : Location)
    (d : Direction) : Except Fault Prospect := do
  let cost ← cost target l d
  let wall ← wallAt s.maze (l.neighbor d)
  let isOpen := !wall ||
    (spawning && (decide (l.neighbor d).InHouse || decide (l.neighbor d = Cell.houseExit)))
  return ⟨d, cost, d ≠ l.heading.reversed ∧ isOpen⟩

/-- The better one of what has been found so far and of what a direction offers. -/
def Prospect.better (found : Direction × Int) (p : Prospect) : Direction × Int :=
  if p.cost < found.2 then (p.heading, p.cost) else found

/-- The best valid direction, looked for from a cost that is above all others. -/
def best (prospects : List Prospect) : Direction :=
  (prospects.foldl (fun found p => if p.valid then p.better found else found) (.up, maxInt32)).1

variable {σ : Type} [RandomSource σ]

/-- Plan the next location of a ghost. -/
def plan (s : Scene) (color : Color) (g : Ghost) (source : σ) : Except Fault (Plan σ) :=
  let coasted := g.location.advanced
  if g.location.IsOffBoard then return ⟨g, source, .idle⟩
  else if 0 < g.trap then do
    let trap ← decrement g.trap
    return ⟨{ g with next := coasted.turnedBack, trap := trap }, source, .reversed⟩
  else do
    let target ← target? s color g coasted
    let prospects ← Direction.all.mapM (prospect s g.spawning target coasted)
    let valid := prospects.filter Prospect.valid
    if valid.length = 0 then return ⟨{ g with next := coasted }, source, .stranded⟩
    else if 1 < g.fright then do
      let (pick, source) ← below source valid.length
      match valid[pick]? with
      | some chosen => return ⟨g.planHeading chosen.heading, source, .wandered⟩
      | none => return ⟨g.planHeading (best prospects), source, .pursued⟩
    else return ⟨g.planHeading (best prospects), source, .pursued⟩

/-- What a ghost learns of a direction, when nothing stops it. -/
def Prospect.of (s : Scene) (spawning : Bool) (target : Option Point) (l : Location)
    (d : Direction) : Prospect :=
  ⟨d, Scene.cost target l d, d ≠ l.heading.reversed ∧ s.isOpen spawning (l.neighbor d)⟩

section Prospects

variable {spawning : Bool} {target : Option Point} {l : Location}

theorem cost_lt (near : ∀ t, target = some t → t.Within 384) (d : Direction) :
    Scene.cost target l d < maxInt32 := by
  cases target with
  | none => exact show (0 : Int) < maxInt32 by decide
  | some t => exact distSq_lt ((Point.Within.toPoint _).mono (by decide)) (near t rfl)

theorem cost_eq (near : ∀ t, target = some t → t.Within 384) (d : Direction) :
    cost target l d = .ok (Scene.cost target l d) := by
  cases target with
  | none => rfl
  | some t => exact distSq_eq ((Point.Within.toPoint _).mono (by decide)) (near t rfl)

theorem prospect_eq (near : ∀ t, target = some t → t.Within 384) (d : Direction) :
    prospect s spawning target l d = .ok (Prospect.of s spawning target l d) := by
  rw [prospect, cost_eq near, ok_bind, wallAt_eq]
  rfl

theorem mapM_prospect (near : ∀ t, target = some t → t.Within 384) (ds : List Direction) :
    ds.mapM (prospect s spawning target l) = .ok (ds.map (Prospect.of s spawning target l)) := by
  rw [funext (prospect_eq near)]
  exact List.mapM_pure

theorem filter_valid : (Direction.all.map (Prospect.of s spawning target l)).filter Prospect.valid =
    (s.exits spawning l).map (Prospect.of s spawning target l) := by
  rw [List.filter_map]
  rfl

theorem foldl_better (d : Direction) (more : List Direction) :
    (more.map (Prospect.of s spawning target l)).foldl (fun found p => p.better found)
      (d, Scene.cost target l d) =
      (Scene.nearest target l d more, Scene.cost target l (Scene.nearest target l d more)) := by
  induction more generalizing d with
  | nil => rfl
  | cons e more ih =>
    have step : (Prospect.of s spawning target l e).better (d, Scene.cost target l d) =
        (Scene.better target l d e, Scene.cost target l (Scene.better target l d e)) := by
      by_cases nearer : Scene.cost target l e < Scene.cost target l d
      · rw [Scene.better, if_pos nearer]
        exact if_pos nearer
      · rw [Scene.better, if_neg nearer]
        exact if_neg nearer
    rw [List.map_cons, List.foldl_cons, step, ih]
    rfl

/-- **The best direction** is an exit that leads closest to the target. -/
theorem best_eq (near : ∀ t, target = some t → t.Within 384) {d : Direction}
    {more : List Direction} (exits : s.exits spawning l = d :: more) :
    best (Direction.all.map (Prospect.of s spawning target l)) = Scene.nearest target l d more := by
  have first : (Prospect.of s spawning target l d).better (.up, maxInt32) =
      (d, Scene.cost target l d) := if_pos (cost_lt near d)
  rw [best, ← List.foldl_filter, filter_valid, exits, List.map_cons, List.foldl_cons, first,
    foldl_better]

end Prospects

/-- **The plan of a ghost** meets no fault, wherever the ghost is. -/
theorem plan_eq (s : Scene) (color : Color) (g : Ghost) (source : σ) :
    plan s color g source = .ok (g.plan s color source) := by
  unfold plan Ghost.plan
  split
  · rfl
  · split
    · rename_i trapped
      rw [decrement_eq trapped]
      rfl
    · have near : ∀ t, s.target? color g g.location.advanced = some t → t.Within 384 :=
        fun _ => within_of_target?
      simp only [target?_eq, ok_bind, mapM_prospect near, filter_valid]
      cases exits : s.exits g.spawning g.location.advanced with
      | nil => rfl
      | cons d more =>
        -- There is an exit, so the bound of the draw is positive.
        have valid : ((d :: more).map (Prospect.of s g.spawning
            (s.target? color g g.location.advanced) g.location.advanced)).length =
            more.length + 1 := List.length_map _
        simp only [valid, best_eq near exits, below_eq source (Nat.le_add_left 1 _), ok_bind,
          List.getElem?_map]
        split
        · contradiction
        · split
          · cases (d :: more)[(RandomSource.below source (more.length + 1)).1]? with
            | some chosen => rfl
            | none => rfl
          · rfl

/-! ## Timers -/

/-- Make the planned move and let the timers go on. -/
def update (g : Ghost) : Except Fault Ghost := do
  let fright := if g.eaten then 0 else g.fright
  let fright ← if 0 < fright then decrement fright else pure fright
  return {
    g with
    location := g.next
    fright := fright
    spawning := g.spawning && !decide (g.location.Meets Color.red.spawn)
    eaten := false }

theorem update_eq (g : Ghost) : update g = .ok g.update := by
  obtain ⟨location, next, fright, trap, spawning, eaten⟩ := g
  cases eaten with
  | true => rfl
  | false =>
    cases fright with
    | zero => rfl
    | succ fright => simp [update, Ghost.update, decrement_eq (Nat.succ_pos fright)]

end Guarded

end MazeChase
