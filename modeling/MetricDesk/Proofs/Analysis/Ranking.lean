import MetricDesk.Analysis.Attribution
import MetricDesk.Proofs.Number.Order
import MetricDesk.Proofs.Sorting.Permutation

/-! The order of ranked rows. Main statements: `pairwise_of_descending`, where all are numbers the
greatest stands first, and `AttributionRow.perm_of_ofTables`, an attribution has the groups of the
current table, each with its value. -/
namespace MetricDesk

theorem Quantity.pairwise_of_descending {β : Type} {key : β → Double} {items out : List β}
    (h : descending key items = .ok out) (numbers : ∀ b ∈ out, (key b).isNan = false) :
    out.Pairwise fun a b => (key b).le (key a) = true := by
  have perm := perm_of_descending h
  have numbersBefore : ∀ b ∈ items, (key b).isNan = false := fun b mem =>
    numbers b (perm.mem_iff.mpr mem)
  have ranked : (items.all fun b => isRanked (key b)) = true := by
    rw [List.all_eq_true]
    intro b mem
    simp [isRanked, numbersBefore b mem]
  rw [descending, if_pos ranked, Except.ok.injEq] at h
  -- On numbers the comparison is that of places, which is total.
  have byPlace : out = items.mergeSort fun a b => decide ((key b).place ≤ (key a).place) := by
    have same := List.map_mergeSort (l := items) (f := id)
      (r := fun a b => !isLess (key a) (key b))
      (s := fun a b => decide ((key b).place ≤ (key a).place)) (by
        intro a memA b memB
        have less := Double.lt_iff_place (numbersBefore a memA) (numbersBefore b memB)
        rw [Bool.eq_iff_iff, Bool.not_eq_true', ← Bool.not_eq_true, decide_eq_true_iff]
        simp only [isLess, lt, less, id_eq, not_lt])
    rw [List.map_id, List.map_id] at same
    rw [← h, same]
  have sorted : out.Pairwise fun a b => decide ((key b).place ≤ (key a).place) = true := by
    rw [byPlace]
    apply List.pairwise_mergeSort
    · intro a b c ab bc
      rw [decide_eq_true_iff] at ab bc ⊢
      exact le_trans bc ab
    · intro a b
      rw [Bool.or_eq_true, decide_eq_true_iff, decide_eq_true_iff]
      exact le_total _ _
  apply sorted.imp_of_mem
  intro a b memA memB atMost
  rw [Double.le_iff_place (numbers b memB) (numbers a memA)]
  exact of_decide_eq_true atMost

theorem TableRow.pairwise_of_ofSeries {how : Rollup} {breakdowns : List String}
    {rows : List (SeriesRow Double)} {table : List (TableRow Double)}
    (h : ofSeries how breakdowns rows = .ok table)
    (numbers : ∀ row ∈ table, row.value.isNan = false) :
    table.Pairwise fun row next => next.value.le row.value = true := by
  unfold ofSeries at h
  split at h
  · cases h
    exact .nil
  · obtain ⟨made, -, h⟩ := exists_of_bind h
    exact Quantity.pairwise_of_descending h numbers

namespace AttributionRow

variable {breakdowns : List String} {current previous : List (TableRow Double)}
  {rows : List (AttributionRow Double)}

/-- An attribution has the groups of the current table, each with its value, in another order. -/
theorem perm_of_ofTables (h : ofTables breakdowns current previous = .ok rows)
    (some : breakdowns ≠ []) :
    (rows.map fun row => (row.labels, row.current)).Perm
      (current.map fun row => (row.labels, row.value)) := by
  have asked : ¬ breakdowns.isEmpty = true := by simpa using some
  rw [ofTables, if_neg asked] at h
  obtain ⟨made, collected, h⟩ := exists_of_bind h
  have groups : (made.map fun row => (row.labels, row.current)) =
      current.map fun row => (row.labels, row.value) := by
    apply map_of_mapM collected
    intro row joined h
    obtain ⟨delta, -, h⟩ := exists_of_bind h
    cases h
    rfl
  rw [← groups]
  exact (Quantity.perm_of_descending h).map _

/-- The move of a group is the difference of its values, and the greatest move stands first. -/
theorem delta_of_ofTables (h : ofTables breakdowns current previous = .ok rows) :
    (∀ row ∈ rows, row.delta = row.current.sub row.previous) ∧
      ((∀ row ∈ rows, row.delta.isNan = false) →
        rows.Pairwise fun row next => next.delta.abs.le row.delta.abs = true) := by
  unfold ofTables at h
  split at h
  · cases h
    exact ⟨by rintro row ⟨⟩, fun _ => .nil⟩
  · obtain ⟨made, collected, h⟩ := exists_of_bind h
    constructor
    · intro row mem
      obtain ⟨group, -, joined⟩ :=
        exists_of_mapM collected row (Quantity.mem_of_descending h row mem)
      obtain ⟨delta, moved, joined⟩ := exists_of_bind joined
      cases joined
      exact (Except.ok.inj moved).symm
    · intro numbers
      apply Quantity.pairwise_of_descending h
      intro row mem
      exact (Double.isNan_abs row.delta).trans (numbers row mem)

end AttributionRow
end MetricDesk
