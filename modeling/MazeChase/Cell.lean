import MazeChase.Direction

/-!
# Cells

A coordinate is a whole number from -128 to 127; steps that would leave this range stop at its
ends. The board has 31 rows and 28 columns, and a cell off the board is an ordinary value: an
entity may stand there and keep walking.

* `Coord`, `Coord.clamp`, `Coord.val_clamp`;
* `Cell`, `Cell.OnBoard`, `Cell.board`, `Cell.step`, `Cell.ahead`;
* `Point`: a target, which may lie anywhere, and `Point.distSq`, the squared distance that
  compares moves.
-/

set_option autoImplicit false

namespace MazeChase

/-- A row or column number. -/
@[ext] structure Coord where
  /-- The number itself. -/
  val : Int
  lower : -128 ≤ val
  upper : val ≤ 127
deriving DecidableEq, Repr

namespace Coord

/-- The coordinate nearest to a number. -/
def clamp (n : Int) : Coord :=
  if below : n < -128 then ⟨-128, by omega, by omega⟩
  else if above : 127 < n then ⟨127, by omega, by omega⟩
  else ⟨n, by omega, by omega⟩

instance (n : Nat) : OfNat Coord n := ⟨clamp n⟩

instance : Neg Coord := ⟨fun c => clamp (-c.val)⟩

instance : Inhabited Coord := ⟨0⟩

theorem val_clamp (n : Int) :
    (clamp n).val = if n < -128 then -128 else if 127 < n then 127 else n := by
  unfold clamp; split
  · rfl
  · split <;> rfl

theorem val_clamp_of_mem {n : Int} (lower : -128 ≤ n) (upper : n ≤ 127) : (clamp n).val = n := by
  rw [val_clamp, if_neg (by omega), if_neg (by omega)]

@[simp] theorem clamp_val (c : Coord) : clamp c.val = c :=
  Coord.ext (val_clamp_of_mem c.lower c.upper)

end Coord

/-- The number of rows of the board. -/
def rowCount : Nat := 31

/-- The number of columns of the board. -/
def colCount : Nat := 28

/-- A row and a column. -/
@[ext] structure Cell where
  row : Coord
  col : Coord
deriving DecidableEq, Repr, Inhabited

namespace Cell

/-- The cell belongs to the board. -/
def OnBoard (c : Cell) : Prop :=
  (0 ≤ c.row.val ∧ c.row.val < rowCount) ∧ 0 ≤ c.col.val ∧ c.col.val < colCount

instance (c : Cell) : Decidable c.OnBoard := by unfold OnBoard; infer_instance

/-- The next cell in a direction. -/
def step (c : Cell) (d : Direction) : Cell :=
  ⟨Coord.clamp (c.row.val + d.rowDelta), Coord.clamp (c.col.val + d.colDelta)⟩

/-- The cell `n` steps away in a direction; both the distance and the sum stop at the ends of the
range of coordinates. -/
def ahead (c : Cell) (d : Direction) (n : Coord) : Cell :=
  ⟨Coord.clamp (c.row.val + (Coord.clamp (d.rowDelta * n.val)).val),
    Coord.clamp (c.col.val + (Coord.clamp (d.colDelta * n.val)).val)⟩

/-- The cell in a row and a column counted from zero. -/
def ofNat (row col : Nat) : Cell := ⟨Coord.clamp row, Coord.clamp col⟩

/-- The cells of the board, row by row. -/
def board : List Cell :=
  (List.range rowCount).flatMap fun row => (List.range colCount).map (ofNat row)

theorem OnBoard.row_lt {c : Cell} (h : c.OnBoard) : c.row.val.toNat < rowCount := by
  have := h.1; simp only [rowCount] at *; omega

theorem OnBoard.col_lt {c : Cell} (h : c.OnBoard) : c.col.val.toNat < colCount := by
  have := h.2; simp only [colCount] at *; omega

/-- The row of a cell of the board. -/
def OnBoard.rowIndex {c : Cell} (h : c.OnBoard) : Fin rowCount := ⟨c.row.val.toNat, h.row_lt⟩

/-- The column of a cell of the board. -/
def OnBoard.colIndex {c : Cell} (h : c.OnBoard) : Fin colCount := ⟨c.col.val.toNat, h.col_lt⟩

theorem OnBoard.eq_of_index {c d : Cell} (hc : c.OnBoard) (hd : d.OnBoard)
    (row : hc.rowIndex = hd.rowIndex) (col : hc.colIndex = hd.colIndex) : c = d := by
  have := hc.1.1; have := hc.2.1; have := hd.1.1; have := hd.2.1
  simp only [rowIndex, colIndex, Fin.mk.injEq] at row col
  ext <;> omega

theorem step_step_reversed {c : Cell} (d : Direction)
    (row : -128 < c.row.val ∧ c.row.val < 127) (col : -128 < c.col.val ∧ c.col.val < 127) :
    (c.step d).step d.reversed = c := by
  obtain ⟨r, k⟩ := c
  have hr := Coord.clamp_val r
  have hk := Coord.clamp_val k
  cases d <;> ext <;>
    simp only [step, Coord.val_clamp, Direction.reversed, Direction.rowDelta,
      Direction.colDelta] <;> grind

end Cell

/-- A place in the plane: the centre of a cell, or a target beyond the range of coordinates. -/
@[ext] structure Point where
  row : Int
  col : Int
deriving DecidableEq, Repr, Inhabited

namespace Point

/-- The square of the distance between two points. -/
def distSq (p q : Point) : Int :=
  (q.row - p.row) * (q.row - p.row) + (q.col - p.col) * (q.col - p.col)

/-- The reflection of `q` through `p`. -/
def reflect (p q : Point) : Point := ⟨2 * p.row - q.row, 2 * p.col - q.col⟩

end Point

/-- The centre of a cell. -/
def Cell.toPoint (c : Cell) : Point := ⟨c.row.val, c.col.val⟩

end MazeChase
