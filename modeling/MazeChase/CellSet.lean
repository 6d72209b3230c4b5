import MazeChase.Cell

/-!
# Sets of cells

A set of cells of the board, kept as one bit for each cell: a word of 28 bits for each row, column
zero in the lowest bit. A cell off the board is in no set.

* `CellSet.contains`, `CellSet.insert`, `CellSet.erase`, `CellSet.size`;
* `CellSet.contains_insert`, `CellSet.contains_erase`: the two changes, seen through `contains`.
-/

set_option autoImplicit false

namespace MazeChase

/-- A set of cells of the board. -/
structure CellSet where
  rows : Vector (BitVec colCount) rowCount
deriving DecidableEq

namespace CellSet

/-- The set without cells. -/
def empty : CellSet := ⟨Vector.replicate rowCount 0⟩

instance : Inhabited CellSet := ⟨empty⟩

/-- The cell is in the set. -/
def contains (s : CellSet) (c : Cell) : Bool :=
  if h : c.OnBoard then s.rows[h.rowIndex].getLsb h.colIndex else false

/-- The set with one more cell; a cell off the board is ignored. -/
def insert (s : CellSet) (c : Cell) : CellSet :=
  if h : c.OnBoard then
    ⟨s.rows.set h.rowIndex (s.rows[h.rowIndex] ||| BitVec.twoPow colCount h.colIndex)⟩
  else s

/-- The set without one cell. -/
def erase (s : CellSet) (c : Cell) : CellSet :=
  if h : c.OnBoard then
    ⟨s.rows.set h.rowIndex (s.rows[h.rowIndex] &&& ~~~BitVec.twoPow colCount h.colIndex)⟩
  else s

/-- The number of cells in the set. -/
def size (s : CellSet) : Nat := Cell.board.countP s.contains

theorem onBoard_of_contains {s : CellSet} {c : Cell} (h : s.contains c = true) : c.OnBoard := by
  unfold contains at h; split at h
  · assumption
  · exact absurd h (by simp)

theorem contains_empty (c : Cell) : empty.contains c = false := by
  unfold contains empty; split <;> simp

theorem contains_insert (s : CellSet) {c : Cell} (d : Cell) (hc : c.OnBoard) :
    (s.insert c).contains d = (decide (d = c) || s.contains d) := by
  unfold insert contains
  by_cases hd : d.OnBoard
  · simp only [hc, hd, dif_pos, Fin.getElem_fin, Vector.getElem_set]
    by_cases same : d = c
    · subst same; simp
    · by_cases hr : hc.rowIndex = hd.rowIndex
      · have hk : (hd.colIndex : Nat) ≠ hc.colIndex :=
          fun hk => same (hd.eq_of_index hc hr.symm (Fin.ext hk))
        simp [hr, same, hk]
      · have hr : (hc.rowIndex : Nat) ≠ hd.rowIndex := fun h => hr (Fin.ext h)
        simp [hr, same]
  · have same : d ≠ c := fun e => hd (e ▸ hc)
    simp [hd, same]

theorem contains_erase (s : CellSet) (c d : Cell) :
    (s.erase c).contains d = (decide (d ≠ c) && s.contains d) := by
  unfold erase contains
  by_cases hd : d.OnBoard
  · by_cases hc : c.OnBoard
    · simp only [hc, hd, dif_pos, Fin.getElem_fin, Vector.getElem_set]
      by_cases same : d = c
      · subst same; simp
      · by_cases hr : hc.rowIndex = hd.rowIndex
        · have hk : (hd.colIndex : Nat) ≠ hc.colIndex :=
            fun hk => same (hd.eq_of_index hc hr.symm (Fin.ext hk))
          simp [hr, same, hk]
        · have hr : (hc.rowIndex : Nat) ≠ hd.rowIndex := fun h => hr (Fin.ext h)
          simp [hr, same]
    · have same : d ≠ c := fun e => hc (e ▸ hd)
      simp [hc, hd, same]
  · simp [hd]

end CellSet

end MazeChase
