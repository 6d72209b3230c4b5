import MazeChase.Ghost.View

/-!
# The order of a view

A view sorts its records by the roster, and the sort is stable: the records of one ghost stay in the
order in which they came. So a view is the records of red, then those of pink, of cyan and of
orange, and the record that it shows for a ghost is the first one that was given for it.

* `GhostView.filter_ofRecords`: the records of one ghost;
* `GhostView.eq_flatMap_of_sorted`: sorted records, ghost by ghost;
* **`GhostView.keeps_order`**.
-/

set_option autoImplicit false

namespace MazeChase.GhostView

/-- **The records of one ghost** stay in the order in which they came. -/
theorem filter_ofRecords (records : List GhostRecord) (color : Color) :
    (ofRecords records).records.filter (·.color = color) =
      records.filter (·.color = color) := by
  have level : (records.filter (·.color = color)).Pairwise fun a b => inOrder a b = true := by
    refine List.pairwise_filter.mpr (List.pairwise_of_forall fun a b ha hb => ?_)
    rw [inOrder, of_decide_eq_true ha, of_decide_eq_true hb]
    exact decide_eq_true (Nat.le_refl _)
  have kept : (records.filter (·.color = color)).Sublist (ofRecords records).records :=
    List.sublist_mergeSort inOrder_trans inOrder_total level List.filter_sublist
  have within := kept.filter (·.color = color)
  rw [List.filter_filter] at within
  simp only [Bool.and_self] at within
  have length := ((perm_ofRecords records).filter (·.color = color)).length_eq
  exact (within.eq_of_length length.symm).symm

theorem eq_flatMap_of_sorted {records : List GhostRecord}
    (sorted : records.Pairwise fun a b => a.color.index ≤ b.color.index) :
    records = Color.all.flatMap fun color => records.filter (·.color = color) := by
  induction records with
  | nil => rfl
  | cons r rest ih =>
    obtain ⟨first, sorted⟩ := List.pairwise_cons.mp sorted
    -- No record is left of the ghosts that come before the first one.
    have gone (color : Color) (earlier : color.index < r.color.index) :
        rest.filter (·.color = color) = [] := by
      refine List.filter_eq_nil_iff.mpr fun s hs same => ?_
      have later := first s hs
      rw [of_decide_eq_true same] at later
      omega
    have apart := ih sorted
    cases color : r.color <;> rw [color] at gone <;>
      simp only [Color.all, List.flatMap_cons, List.flatMap_nil, List.append_nil,
        List.filter_cons, color, decide_true, decide_false, reduceCtorEq, if_true, if_false,
        Bool.false_eq_true] at apart ⊢
    case red => exact congrArg (r :: ·) apart
    case pink =>
      rw [gone .red (by decide)] at apart ⊢
      exact congrArg (r :: ·) apart
    case cyan =>
      rw [gone .red (by decide), gone .pink (by decide)] at apart ⊢
      exact congrArg (r :: ·) apart
    case orange =>
      rw [gone .red (by decide), gone .pink (by decide), gone .cyan (by decide)] at apart ⊢
      exact congrArg (r :: ·) apart

/-- **A view keeps the order of its records.** It holds those of each ghost in turn as they stood
before, and shows the first one. -/
theorem keeps_order (records : List GhostRecord) :
    let v := ofRecords records
    v.records.Perm records ∧
    v.records = Color.all.flatMap (fun color => records.filter (·.color = color)) ∧
    (∀ color, v.get? color = records.find? (·.color = color)) ∧
    (∀ color, v.get? color = none ↔ color ∉ records.map (·.color)) ∧
    ofRecords v.records = v := by
  intro v
  have first color : v.get? color = records.find? (·.color = color) := by
    rw [get?, ← List.head?_filter, ← List.head?_filter]
    exact congrArg List.head? (filter_ofRecords records color)
  refine ⟨perm_ofRecords records, ?_, first, fun color => ?_, ?_⟩
  · calc v.records
        = Color.all.flatMap fun color => v.records.filter (·.color = color) :=
          eq_flatMap_of_sorted (sorted_ofRecords records)
      _ = Color.all.flatMap fun color => records.filter (·.color = color) :=
          congrArg Color.all.flatMap (funext (filter_ofRecords records))
  · rw [first, List.find?_eq_none]
    simp only [decide_eq_true_eq, List.mem_map, not_exists, not_and]
  · have sorted := List.pairwise_mergeSort inOrder_trans inOrder_total records
    exact congrArg GhostView.mk (List.mergeSort_of_pairwise sorted)

end MazeChase.GhostView
