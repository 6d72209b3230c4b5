import Mathlib.Algebra.BigOperators.Group.List.Basic
import Mathlib.Algebra.Ring.Nat
import Mathlib.Data.Finset.Card
import MazeChase.Maze.Layout

/-!
# Counted pellets

The pellets carry their number. In a maze that rows draw the number is right, because no two
characters draw on one cell, and it stays right when a pellet is taken.

* `Cell.OnBoard.mem_board`, `Cell.nodup_board`, `CellSet.cells`: the cells of a set, each once;
* `CellSet.size_insert`, `CellSet.size_erase`: one more cell, and one less;
* `CellSet.bitCount`, **`CellSet.size_eq_bitCount`**: the size of a set is the number of its bits;
* `Pellets.Counted.add`, `Pellets.Counted.take`: pellets whose number is right;
* `Maze.Drawn`, **`Maze.counted_of_ofRows`**: the number is right in every maze that rows draw.
-/

set_option autoImplicit false

namespace MazeChase

/-! ## Cells of the board -/

namespace Cell

theorem val_ofNat {row col : Nat} (hr : row < rowCount) (hc : col < colCount) :
    (ofNat row col).row.val = row ∧ (ofNat row col).col.val = col := by
  simp only [rowCount, colCount] at hr hc
  exact ⟨Coord.val_clamp_of_mem (by omega) (by omega), Coord.val_clamp_of_mem (by omega) (by omega)⟩

theorem onBoard_ofNat {row col : Nat} (hr : row < rowCount) (hc : col < colCount) :
    (ofNat row col).OnBoard := by
  obtain ⟨row_eq, col_eq⟩ := val_ofNat hr hc
  rw [OnBoard, row_eq, col_eq]
  exact ⟨⟨by omega, by omega⟩, by omega, by omega⟩

theorem index_ofNat {row col : Nat} (hr : row < rowCount) (hc : col < colCount) :
    ((onBoard_ofNat hr hc).rowIndex : Nat) = row ∧
      ((onBoard_ofNat hr hc).colIndex : Nat) = col := by
  obtain ⟨row_eq, col_eq⟩ := val_ofNat hr hc
  simp only [OnBoard.rowIndex, OnBoard.colIndex, row_eq, col_eq, Int.toNat_natCast, and_self]

theorem ofNat_index {c : Cell} (h : c.OnBoard) : ofNat h.rowIndex h.colIndex = c := by
  have row := Int.toNat_of_nonneg h.1.1
  have col := Int.toNat_of_nonneg h.2.1
  simp only [ofNat, OnBoard.rowIndex, OnBoard.colIndex, row, col, Coord.clamp_val]

theorem OnBoard.mem_board {c : Cell} (h : c.OnBoard) : c ∈ board := by
  refine List.mem_flatMap.mpr ⟨h.rowIndex, List.mem_range.mpr h.row_lt, ?_⟩
  exact List.mem_map.mpr ⟨h.colIndex, List.mem_range.mpr h.col_lt, ofNat_index h⟩

theorem nodup_board : board.Nodup := by
  rw [board, List.nodup_flatMap]
  refine ⟨fun row hr => ?_, ?_⟩
  · refine List.Nodup.map_on ?_ List.nodup_range
    intro col hc col' hc' same
    rw [List.mem_range] at hr hc hc'
    have here := (val_ofNat hr hc).2
    rw [same, (val_ofNat hr hc').2] at here
    omega
  · refine List.nodup_range.imp_of_mem ?_
    intro row row' hr hr' apart
    rw [Function.onFun_apply, List.disjoint_left]
    intro c here there
    simp only [List.mem_map, List.mem_range] at here there hr hr'
    obtain ⟨col, hc, rfl⟩ := here
    obtain ⟨col', hc', same⟩ := there
    have row_eq := (val_ofNat hr hc).1
    rw [← same, (val_ofNat hr' hc').1] at row_eq
    omega

end Cell

/-! ## The size of a set -/

namespace CellSet

/-- The cells of the set. -/
def cells (s : CellSet) : Finset Cell := Cell.board.toFinset.filter fun c => s.contains c = true

theorem mem_cells {s : CellSet} {c : Cell} : c ∈ s.cells ↔ s.contains c = true := by
  rw [cells, Finset.mem_filter, List.mem_toFinset]
  exact ⟨And.right, fun h => ⟨(onBoard_of_contains h).mem_board, h⟩⟩

theorem size_eq_card (s : CellSet) : s.size = s.cells.card := by
  rw [size, List.countP_eq_length_filter, cells, ← List.toFinset_filter,
    List.toFinset_card_of_nodup (Cell.nodup_board.filter _)]

theorem size_empty : empty.size = 0 := by
  rw [size, List.countP_eq_zero]
  intro c _
  rw [contains_empty]
  exact Bool.false_ne_true

theorem size_insert {s : CellSet} {c : Cell} (inside : c.OnBoard) (new : s.contains c = false) :
    (s.insert c).size = s.size + 1 := by
  have cells_eq : (s.insert c).cells = Insert.insert c s.cells := by
    ext d
    rw [mem_cells, contains_insert s d inside, Finset.mem_insert, mem_cells, Bool.or_eq_true,
      decide_eq_true_eq]
  have apart : c ∉ s.cells := by
    rw [mem_cells, new]
    exact Bool.false_ne_true
  rw [size_eq_card, size_eq_card, cells_eq, Finset.card_insert_of_notMem apart]

theorem cells_erase (s : CellSet) (c : Cell) : (s.erase c).cells = s.cells.erase c := by
  ext d
  rw [mem_cells, contains_erase, Finset.mem_erase, mem_cells, Bool.and_eq_true,
    decide_eq_true_eq]

theorem size_erase {s : CellSet} {c : Cell} (old : s.contains c = true) :
    (s.erase c).size + 1 = s.size := by
  rw [size_eq_card, size_eq_card, cells_erase, Finset.card_erase_add_one (mem_cells.mpr old)]

/-! ## The bits of a set -/

/-- The number of bits that are set in the rows. -/
def bitCount (s : CellSet) : Nat := (s.rows.toList.map fun row => row.cpop.toNat).sum

theorem contains_ofNat (s : CellSet) {row col : Nat} (hr : row < rowCount) (hc : col < colCount) :
    s.contains (Cell.ofNat row col) = s.rows[row].getLsbD col := by
  obtain ⟨row_eq, col_eq⟩ := Cell.index_ofNat hr hc
  have bit (x : BitVec colCount) (i : Fin colCount) : x.getLsb i = x.getLsbD i := rfl
  simp only [contains, Cell.onBoard_ofNat hr hc, dif_pos, Fin.getElem_fin, row_eq, bit, col_eq]

theorem countP_getLsbD {w : Nat} (x : BitVec w) (n : Nat) :
    (List.range n).countP x.getLsbD = x.cpopNatRec n 0 := by
  induction n with
  | zero => rfl
  | succ n ih =>
    rw [List.range_succ, List.countP_append, List.countP_singleton, ih, BitVec.cpopNatRec_succ,
      BitVec.cpopNatRec_eq (0 + _)]
    cases x.getLsbD n <;> rfl

theorem countP_row (s : CellSet) {row : Nat} (hr : row < rowCount) :
    ((List.range colCount).map (Cell.ofNat row)).countP s.contains = s.rows[row].cpop.toNat := by
  rw [List.countP_map, BitVec.toNat_cpop, ← countP_getLsbD]
  refine List.countP_congr fun col hc => ?_
  rw [Function.comp_apply, contains_ofNat s hr (List.mem_range.mp hc)]

/-- **The size of a set** is the number of its bits. -/
theorem size_eq_bitCount (s : CellSet) : s.size = s.bitCount := by
  rw [size, Cell.board, List.countP_flatMap, bitCount]
  congr 1
  refine List.ext_getElem (by simp) fun row hr _ => ?_
  rw [List.length_map, List.length_range] at hr
  simp only [List.getElem_map, List.getElem_range, Function.comp_apply, Vector.getElem_toList]
  exact s.countP_row hr

end CellSet

/-! ## Pellets whose number is right -/

namespace Pellets

theorem counted_empty : empty.Counted := CellSet.size_empty.symm

theorem Counted.add {p : Pellets} (h : p.Counted) {c : Cell} (inside : c.OnBoard)
    (new : p.cells.contains c = false) : (p.add c).Counted := by
  rw [Counted, Pellets.add, CellSet.size_insert inside new, h]

theorem take?_eq_some {p rest : Pellets} {c : Cell} : p.take? c = some rest ↔
    p.cells.contains c = true ∧ rest = ⟨p.cells.erase c, p.count - 1⟩ := by
  rw [take?]
  split
  · rename_i found
    rw [Option.some_inj, eq_comm]
    exact ⟨fun h => ⟨found, h⟩, And.right⟩
  · rename_i missing
    exact ⟨fun h => absurd h (by simp), fun h => absurd h.1 missing⟩

/-- Taking a pellet leaves one less, and a right number stays right. -/
theorem Counted.take {p rest : Pellets} (h : p.Counted) {c : Cell}
    (take : p.take? c = some rest) : rest.Counted ∧ rest.count + 1 = p.count := by
  obtain ⟨found, rfl⟩ := take?_eq_some.mp take
  have size := CellSet.size_erase found
  simp only [Counted] at h ⊢
  omega

end Pellets

/-! ## Mazes that rows draw -/

namespace Maze

/-- The maze has been drawn up to a cell: the number of its pellets is right, and all of them lie
before the cell, row by row. -/
structure Drawn (m : Maze) (row col : Nat) : Prop where
  counted : m.pellets.Counted
  before : ∀ c, m.pellets.cells.contains c = true →
    c.row.val < row ∨ c.row.val = row ∧ c.col.val < col

theorem drawn_openFloor : openFloor.Drawn 0 0 where
  counted := Pellets.counted_empty
  before := by
    intro c found
    rw [openFloor, Pellets.empty, CellSet.contains_empty] at found
    exact absurd found (by simp)

theorem Drawn.next {m : Maze} {row col : Nat} (h : m.Drawn row col) : m.Drawn row (col + 1) where
  counted := h.counted
  before := by
    intro c found
    have := h.before c found
    omega

theorem Drawn.nextRow {m : Maze} {row col : Nat} (h : m.Drawn row col) : m.Drawn (row + 1) 0 where
  counted := h.counted
  before := by
    intro c found
    have := h.before c found
    omega

theorem Drawn.add {m : Maze} {row col : Nat} (h : m.Drawn row col) (hr : row < rowCount)
    (hc : col < colCount) :
    Drawn { m with pellets := m.pellets.add (Cell.ofNat row col) } row (col + 1) := by
  obtain ⟨row_eq, col_eq⟩ := Cell.val_ofNat hr hc
  have inside := Cell.onBoard_ofNat hr hc
  have new : m.pellets.cells.contains (Cell.ofNat row col) = false := by
    by_contra found
    rw [Bool.not_eq_false] at found
    have := h.before _ found
    omega
  refine ⟨h.counted.add inside new, fun c found => ?_⟩
  rw [Pellets.add, CellSet.contains_insert _ c inside, Bool.or_eq_true, decide_eq_true_eq] at found
  rcases found with rfl | found
  · exact .inr ⟨row_eq, by omega⟩
  · exact h.next.before c found

theorem Drawn.draw {m m' : Maze} {row col : Nat} {glyph : Char} (h : m.Drawn row col)
    (hr : row < rowCount) (hc : col < colCount) (drawn : m.draw row col glyph = .ok m') :
    m'.Drawn row (col + 1) := by
  unfold Maze.draw at drawn
  split at drawn
  · cases drawn
    exact ⟨h.counted, h.next.before⟩
  · cases drawn
    exact h.add hr hc
  · dsimp only at drawn
    split at drawn
    · cases drawn
      exact h.add hr hc
    · cases drawn
  · cases drawn
    exact h.next
  · cases drawn

theorem Drawn.drawRow {row : Nat} (hr : row < rowCount) (glyphs : List Char) {m m' : Maze}
    {col : Nat} (h : m.Drawn row col) (fits : col + glyphs.length ≤ colCount)
    (drawn : drawRow row col m glyphs = .ok m') : m'.Drawn (row + 1) 0 := by
  induction glyphs generalizing m col with
  | nil =>
    cases drawn
    exact h.nextRow
  | cons glyph glyphs ih =>
    -- The width of the row keeps the cell on the board.
    rw [List.length_cons] at fits
    rw [Maze.drawRow] at drawn
    cases step : m.draw row col glyph with
    | error e =>
      rw [step] at drawn
      cases drawn
    | ok next =>
      rw [step] at drawn
      exact ih (h.draw hr (by omega) step) (by omega) drawn

theorem Drawn.drawRows (rows : List String) {m m' : Maze} {row : Nat} (h : m.Drawn row 0)
    (fits : row + rows.length ≤ rowCount) (drawn : drawRows row m rows = .ok m') :
    m'.pellets.Counted := by
  induction rows generalizing m row with
  | nil =>
    cases drawn
    exact h.counted
  | cons text rows ih =>
    rw [List.length_cons] at fits
    rw [Maze.drawRows] at drawn
    split at drawn
    · cases drawn
    · rename_i width
      cases step : Maze.drawRow row 0 m text.toList with
      | error e =>
        rw [step] at drawn
        cases drawn
      | ok next =>
        rw [step] at drawn
        exact ih (h.drawRow (by omega) text.toList (by omega) step) (by omega) drawn

/-- **In a maze that rows draw**, the number of the pellets is right. -/
theorem counted_of_ofRows {rows : List String} {maze : Maze} (drawn : ofRows rows = .ok maze) :
    maze.pellets.Counted := by
  unfold ofRows at drawn
  split at drawn
  · cases drawn
  · exact drawn_openFloor.drawRows rows (by omega) drawn

end Maze

end MazeChase
