import Mathlib.Data.List.Basic

/-! Merge sort. Main statements: `mergeSort_eq_byHalves`, the library's sort is a recursion on fuel
that can be evaluated on lists that are written down; and `pairwise_mergeSort_of_pairwise`, items
stand in order, and equal ones as they stood before. -/
namespace MetricDesk.Sorting

variable {α : Type}

/-! ### By recursion on fuel -/

section
variable (le : α → α → Bool)

/-- Two lists merged. The fuel is their length. -/
def merged : Nat → List α → List α → List α
  | 0, xs, ys => xs ++ ys
  | _ + 1, [], ys => ys
  | _ + 1, xs, [] => xs
  | fuel + 1, x :: xs, y :: ys =>
    if le x y then x :: merged fuel xs (y :: ys) else y :: merged fuel (x :: xs) ys

/-- Either half sorted, and both merged. The fuel is the length. -/
def byHalves : Nat → List α → List α
  | 0, xs => xs
  | _ + 1, [] => []
  | _ + 1, [x] => [x]
  | fuel + 1, x :: y :: rest =>
    let half := (rest.length + 3) / 2
    merged le (rest.length + 2) (byHalves fuel ((x :: y :: rest).take half))
      (byHalves fuel ((x :: y :: rest).drop half))

theorem merged_eq {fuel : Nat} {xs ys : List α} (enough : xs.length + ys.length ≤ fuel) :
    merged le fuel xs ys = xs.merge ys le := by
  induction fuel generalizing xs ys with
  | zero =>
    have noXs : xs = [] := List.length_eq_zero_iff.mp (by omega)
    have noYs : ys = [] := List.length_eq_zero_iff.mp (by omega)
    rw [noXs, noYs, List.nil_merge]
    rfl
  | succ fuel ih =>
    cases xs with
    | nil => rw [merged, List.nil_merge]
    | cons x xs =>
      cases ys with
      | nil => rw [merged, List.merge_right]; exact List.cons_ne_nil x xs
      | cons y ys =>
        rw [List.length_cons, List.length_cons] at enough
        rw [merged, List.cons_merge_cons, ih (by rw [List.length_cons]; omega),
          ih (by rw [List.length_cons]; omega)]

theorem byHalves_eq {fuel : Nat} {xs : List α} (enough : xs.length ≤ fuel) :
    byHalves le fuel xs = xs.mergeSort le := by
  induction fuel generalizing xs with
  | zero =>
    rw [List.length_eq_zero_iff.mp (Nat.le_zero.mp enough), List.mergeSort_nil]
    rfl
  | succ fuel ih =>
    match xs with
    | [] => rw [byHalves, List.mergeSort_nil]
    | [x] => rw [byHalves, List.mergeSort_singleton]
    | x :: y :: rest =>
      rw [List.length_cons, List.length_cons] at enough
      have front : ((x :: y :: rest).take ((rest.length + 3) / 2)).length ≤ fuel := by
        rw [List.length_take]
        omega
      have back : ((x :: y :: rest).drop ((rest.length + 3) / 2)).length ≤ fuel := by
        rw [List.length_drop, List.length_cons, List.length_cons]
        omega
      rw [byHalves, List.mergeSort, ih front, ih back, merged_eq]
      · simp only [List.MergeSort.Internal.splitInTwo_fst, List.MergeSort.Internal.splitInTwo_snd,
          List.length_cons]
      · simp only [List.length_mergeSort, List.length_take, List.length_drop, List.length_cons]
        omega

/-- The library's sort, in a form that can be evaluated. -/
theorem mergeSort_eq_byHalves (xs : List α) : xs.mergeSort le = byHalves le xs.length xs :=
  (byHalves_eq le (Nat.le_refl _)).symm

end

/-! ### The order of equals -/

section
variable {le : α → α → Bool}
  (trans : ∀ a b c, le a b = true → le b c = true → le a c = true)
  (total : ∀ a b, (le a b || le b a) = true)
include trans total

/-- Items that are all equal stand as they did. -/
theorem filter_mergeSort {p : α → Bool} (level : ∀ a b, p a = true → p b = true → le a b = true)
    (items : List α) : (items.mergeSort le).filter p = items.filter p := by
  have inOrder : (items.filter p).Pairwise fun a b => le a b = true := by
    apply List.pairwise_of_forall_mem_list
    intro a memA b memB
    exact level a b (List.mem_filter.mp memA).2 (List.mem_filter.mp memB).2
  -- They are in order as they stand, so sorting keeps them in that order.
  have kept : (items.filter p).Sublist (items.mergeSort le) :=
    List.sublist_mergeSort trans total inOrder List.filter_sublist
  have within : (items.filter p).Sublist ((items.mergeSort le).filter p) := by
    have both := kept.filter p
    simpa only [List.filter_filter, Bool.and_self] using both
  have sameLength : (items.filter p).length = ((items.mergeSort le).filter p).length :=
    ((List.mergeSort_perm items le).filter p).length_eq.symm
  exact (within.eq_of_length sameLength).symm

/-- Items stand in order, and equal ones in the order they had. -/
theorem pairwise_mergeSort_of_pairwise {R : α → α → Prop} {items : List α}
    (stood : items.Pairwise R) :
    (items.mergeSort le).Pairwise fun a b => le a b = true ∧ (le b a = true → R a b) := by
  rw [List.pairwise_iff_forall_sublist]
  intro a b stands
  have order : le a b = true :=
    (List.pairwise_mergeSort trans total items).forall_sublist stands
  refine ⟨order, fun back => ?_⟩
  have self : le a a = true := by simpa using total a a
  have level : ∀ x y, (le a x && le x a) = true → (le a y && le y a) = true → le x y = true := by
    intro x y atX atY
    rw [Bool.and_eq_true] at atX atY
    exact trans x a y atX.2 atY.1
  have equals : [a, b].filter (fun x => le a x && le x a) = [a, b] := by simp [self, order, back]
  have before := stands.filter fun x => le a x && le x a
  rw [equals, filter_mergeSort trans total level] at before
  exact stood.forall_sublist (before.trans List.filter_sublist)

end

end MetricDesk.Sorting
