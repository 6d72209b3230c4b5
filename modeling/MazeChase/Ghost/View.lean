import MazeChase.Ghost

/-!
# Records of ghosts

A record of each ghost for those who look on, in roster order. A view may be made from any records;
those of one ghost stay in the order in which they came.

* `GhostRecord`, `GhostView`;
* `GhostView.ofRecords`, `GhostView.get?`;
* `GhostView.sorted_ofRecords`, `GhostView.perm_ofRecords`.
-/

set_option autoImplicit false

namespace MazeChase

/-- A ghost with its identity. -/
structure GhostRecord extends Ghost where
  color : Color
deriving DecidableEq, Repr

/-- Records in roster order. -/
structure GhostView where
  records : List GhostRecord
deriving DecidableEq, Repr

namespace GhostView

/-- The first record comes no later than the second one in roster order. -/
def inOrder (a b : GhostRecord) : Bool := a.color.index ≤ b.color.index

/-- The view of records in any order. -/
def ofRecords (records : List GhostRecord) : GhostView := ⟨records.mergeSort inOrder⟩

/-- The first record of a ghost. -/
def get? (v : GhostView) (color : Color) : Option GhostRecord :=
  v.records.find? (·.color = color)

theorem inOrder_trans (a b c : GhostRecord) (hab : inOrder a b = true) (hbc : inOrder b c = true) :
    inOrder a c = true := by
  simp only [inOrder, decide_eq_true_eq] at *
  omega

theorem inOrder_total (a b : GhostRecord) : (inOrder a b || inOrder b a) = true := by
  simp only [inOrder, Bool.or_eq_true, decide_eq_true_eq]
  omega

theorem perm_ofRecords (records : List GhostRecord) : (ofRecords records).records.Perm records :=
  List.mergeSort_perm ..

theorem sorted_ofRecords (records : List GhostRecord) :
    (ofRecords records).records.Pairwise fun a b => a.color.index ≤ b.color.index := by
  have h := List.pairwise_mergeSort inOrder_trans inOrder_total records
  exact h.imp fun h => by simpa [inOrder] using h

end GhostView

end MazeChase
