import Mathlib.Algebra.BigOperators.Field
import Mathlib.Algebra.BigOperators.Ring.List
import Mathlib.Algebra.Order.Ring.Rat
import Mathlib.Data.List.Nodup
import Mathlib.Data.String.Basic
import MetricDesk.Analysis.Table
import MetricDesk.Proofs.Failure
import MetricDesk.Proofs.Sorting.MergeSort
import MetricDesk.Series.Resolution

/-! Revenue by group over exact numbers. Main statement: `Recipe.conserves_revenue`, splitting the
revenue of a day over its groups of users neither adds to it nor loses any of it, and the breakdown
table adds up to the revenue of all days that have users. -/
namespace MetricDesk

/-- Fractions, computed with exactly. -/
instance Quantity.ofRat : Quantity ℚ where
  zero := 0
  ofNat n := n
  add x y := .ok (x + y)
  sub x y := .ok (x - y)
  mul x y := .ok (x * y)
  div x y := if y = 0 then .error (.arithmetic .zeroDoubleDivisor) else .ok (x / y)
  isZero x := .ok (x = 0)
  lt x y := .ok (x < y)
  isRanked _ := true
  abs x := |x|
  round places x :=
    let size : ℚ := Rounding.halfEven (x.num.natAbs * 10 ^ places) x.den / 10 ^ places
    .ok (if x < 0 then -size else size)

/-- Items of some keys add up to the sums of those keys. -/
theorem sum_filter_mem {β κ : Type} [DecidableEq κ] (key : β → κ) (value : β → ℚ) (items : List β)
    {keys : List κ} [DecidablePred (· ∈ keys)] (once : keys.Nodup) :
    ((items.filter fun b => decide (key b ∈ keys)).map value).sum =
      (keys.map fun k => ((items.filter fun b => decide (key b = k)).map value).sum).sum := by
  induction items with
  | nil => simp
  | cons b items ih =>
    have parted (k : κ) : (((b :: items).filter fun b => decide (key b = k)).map value).sum =
        (if k = key b then value b else 0) +
          ((items.filter fun b => decide (key b = k)).map value).sum := by
      by_cases here : key b = k
      · simp [here]
      · simp [here, Ne.symm here]
    simp only [parted]
    rw [List.sum_map_add, List.sum_map_ite_eq, ← ih]
    by_cases listed : key b ∈ keys
    · simp [listed, List.count_eq_one_of_mem once listed]
    · simp [listed, List.count_eq_zero_of_not_mem listed]

/-- Where no key stands twice there is at most one item of a key. -/
theorem length_filter_key_le_one {β κ : Type} [DecidableEq κ] (key : β → κ) {items : List β}
    (once : (items.map key).Nodup) (k : κ) :
    (items.filter fun b => decide (key b = k)).length ≤ 1 := by
  have counted : (items.filter fun b => decide (key b = k)).length = (items.map key).count k := by
    rw [List.count, List.countP_map, List.countP_eq_length_filter]
    rfl
  rw [counted]
  exact List.nodup_iff_count_le_one.mp once k

/-- Where no key stands twice the item of a key is the same in any order. -/
theorem filter_key_eq_of_perm {β κ : Type} [DecidableEq κ] (key : β → κ) {items others : List β}
    (perm : items.Perm others) (once : (items.map key).Nodup) (k : κ) :
    (items.filter fun b => decide (key b = k)) = others.filter fun b => decide (key b = k) := by
  have few := length_filter_key_le_one key once k
  have same := perm.filter fun b => decide (key b = k)
  cases first : items.filter fun b => decide (key b = k) with
  | nil =>
    rw [first] at same
    exact same.nil_eq
  | cons b rest =>
    rw [first, List.length_cons] at few
    have alone : rest = [] := List.length_eq_zero_iff.mp (by omega)
    rw [first, alone] at same
    rw [alone]
    exact List.singleton_perm.mp same

namespace Series

/-! ### The rows of a day -/

section
variable {α : Type}

/-- The rows of a day, in their order. -/
def onDay (rows : List (SeriesRow α)) (day : String) : List (SeriesRow α) :=
  rows.filter fun row => decide (row.day = day)

theorem mem_onDay {rows : List (SeriesRow α)} {day : String} {row : SeriesRow α} :
    row ∈ onDay rows day ↔ row ∈ rows ∧ row.day = day := by
  rw [onDay, List.mem_filter, decide_eq_true_iff]

theorem onDay_cons (row : SeriesRow α) (rows : List (SeriesRow α)) (day : String) :
    onDay (row :: rows) day =
      if row.day = day then row :: onDay rows day else onDay rows day := by
  rw [onDay, List.filter_cons]
  simp only [decide_eq_true_iff]
  rfl

theorem not_lt_trans (a b c : SeriesRow α) (ab : (!decide (b.day < a.day)) = true)
    (bc : (!decide (c.day < b.day)) = true) : (!decide (c.day < a.day)) = true := by
  rw [Bool.not_eq_true', decide_eq_false_iff_not, not_lt] at *
  exact le_trans ab bc

theorem not_lt_total (a b : SeriesRow α) :
    ((!decide (b.day < a.day)) || !decide (a.day < b.day)) = true := by
  rw [Bool.or_eq_true, Bool.not_eq_true', Bool.not_eq_true', decide_eq_false_iff_not,
    decide_eq_false_iff_not, not_lt, not_lt]
  exact le_total _ _

theorem perm_byDay (rows : List (SeriesRow α)) : (byDay rows).Perm rows :=
  List.mergeSort_perm rows _

theorem pairwise_byDay (rows : List (SeriesRow α)) :
    (byDay rows).Pairwise fun row next => row.day ≤ next.day := by
  apply (List.pairwise_mergeSort not_lt_trans not_lt_total rows).imp
  intro a b ordered
  rw [Bool.not_eq_true', decide_eq_false_iff_not, not_lt] at ordered
  exact ordered

/-- Sorting by day leaves the rows of one day in their order. -/
theorem onDay_byDay (rows : List (SeriesRow α)) (day : String) :
    onDay (byDay rows) day = onDay rows day := by
  apply Sorting.filter_mergeSort not_lt_trans not_lt_total
  intro a b onA onB
  simp [of_decide_eq_true onA, of_decide_eq_true onB]

/-- The rows of a day that come of rows one by one, each on the day of its row. -/
theorem onDay_filterMap {of : SeriesRow α → Option (SeriesRow α)} {made : SeriesRow α → SeriesRow α}
    {day : String} (kept : ∀ row out, of row = some out → out.day = row.day)
    (here : ∀ row, row.day = day → of row = some (made row)) (rows : List (SeriesRow α)) :
    onDay (rows.filterMap of) day = (onDay rows day).map made := by
  induction rows with
  | nil => rfl
  | cons row rest ih =>
    by_cases there : row.day = day
    · have on : (made row).day = day := (kept row _ (here row there)).trans there
      rw [List.filterMap_cons_some (here row there), onDay_cons, onDay_cons, if_pos on,
        if_pos there, List.map_cons, ih]
    · rw [onDay_cons, if_neg there, ← ih]
      cases found : of row with
      | none => rw [List.filterMap_cons_none found]
      | some out =>
        have off : ¬ out.day = day := fun on => there ((kept row out found).symm.trans on)
        rw [List.filterMap_cons_some found, onDay_cons, if_neg off]

theorem exists_of_valueOn {rows : List (SeriesRow α)} {day : String} {v : α}
    (h : valueOn rows day = some v) : ∃ row ∈ rows, row.day = day ∧ row.value = v := by
  obtain ⟨row, found, rfl⟩ := Option.map_eq_some_iff.mp h
  have here := List.find?_some found
  exact ⟨row, List.mem_reverse.mp (List.mem_of_find?_eq_some found), eq_of_beq here, rfl⟩

/-- Where no day has two rows a row's value is that of its day. -/
theorem valueOn_of_mem {rows : List (SeriesRow α)} (single : (rows.map (·.day)).Nodup)
    {row : SeriesRow α} (mem : row ∈ rows) : valueOn rows row.day = some row.value := by
  have there : (rows.reverse.find? (·.day == row.day)).isSome = true :=
    List.find?_isSome.mpr ⟨row, List.mem_reverse.mpr mem, beq_self_eq_true row.day⟩
  obtain ⟨other, found⟩ := Option.isSome_iff_exists.mp there
  have valued : valueOn rows row.day = some other.value := by rw [valueOn, found, Option.map_some]
  have same : other.day = row.day := eq_of_beq (List.find?_some found :)
  have listed : other ∈ rows := List.mem_reverse.mp (List.mem_of_find?_eq_some found)
  rw [valued, List.inj_on_of_nodup_map single listed mem same]

end

/-! ### The sum of a day -/

def sumOn (rows : List (SeriesRow ℚ)) (day : String) : ℚ :=
  ((onDay rows day).map (·.value)).sum

theorem sumOn_cons (row : SeriesRow ℚ) (rows : List (SeriesRow ℚ)) (day : String) :
    sumOn (row :: rows) day = (if row.day = day then row.value else 0) + sumOn rows day := by
  rw [sumOn, onDay_cons]
  split
  · rfl
  · rw [zero_add, sumOn]

theorem sumOn_eq_zero {rows : List (SeriesRow ℚ)} {day : String} (none : onDay rows day = []) :
    sumOn rows day = 0 := by
  rw [sumOn, none]
  rfl

theorem lookup_cons (first : String) (sum : ℚ) (rest : List (String × ℚ)) (day : String) :
    ((first, sum) :: rest).lookup day = if first = day then some sum else rest.lookup day := by
  rw [List.lookup_cons]
  by_cases here : first = day
  · rw [here, beq_self_eq_true, if_pos rfl]
  · rw [beq_eq_false_iff_ne.mpr (Ne.symm here), if_neg here]

/-- An amount is added to the sum of its day and to no other. -/
theorem addOn_eq_ok (sums : List (String × ℚ)) (row : SeriesRow ℚ) :
    ∃ added, addOn sums row = .ok added ∧ ∀ day, added.lookup day =
      if row.day = day then some ((sums.lookup day).getD 0 + row.value) else sums.lookup day := by
  induction sums with
  | nil =>
    refine ⟨[(row.day, 0 + row.value)], rfl, ?_⟩
    intro day
    rw [lookup_cons]
    rfl
  | cons first rest ih =>
    obtain ⟨first, sum⟩ := first
    by_cases same : first = row.day
    · subst same
      refine ⟨(row.day, sum + row.value) :: rest, ?_, ?_⟩
      · rw [addOn, if_pos rfl]
        rfl
      · intro day
        rw [lookup_cons, lookup_cons]
        split
        · rfl
        · rfl
    · obtain ⟨added, made, looked⟩ := ih
      refine ⟨(first, sum) :: added, ?_, ?_⟩
      · rw [addOn, if_neg same, made]
        rfl
      · intro day
        rw [lookup_cons, lookup_cons, looked]
        by_cases here : first = day
        · have other : ¬ row.day = day := fun there => same (here.trans there.symm)
          rw [if_pos here, if_pos here, if_neg other]
        · rw [if_neg here, if_neg here]

/-- The sums of the days that have rows, on top of what they started from. -/
theorem foldlM_addOn (rows : List (SeriesRow ℚ)) (start : List (String × ℚ)) :
    ∃ sums, rows.foldlM addOn start = .ok sums ∧ ∀ day, sums.lookup day =
      if onDay rows day = [] then start.lookup day
      else some ((start.lookup day).getD 0 + sumOn rows day) := by
  induction rows generalizing start with
  | nil => exact ⟨start, rfl, fun day => rfl⟩
  | cons row rows ih =>
    obtain ⟨added, made, looked⟩ := addOn_eq_ok start row
    obtain ⟨sums, others, rest⟩ := ih added
    refine ⟨sums, ?_, ?_⟩
    · rw [List.foldlM_cons, made]
      exact others
    · intro day
      rw [rest, looked, sumOn_cons, onDay_cons]
      by_cases here : row.day = day
      · simp only [if_pos here, Option.getD_some, reduceCtorEq, if_false]
        split
        · next last => rw [sumOn_eq_zero last, add_zero]
        · rw [add_assoc]
      · simp only [if_neg here, zero_add]

theorem daySums_eq_ok (rows : List (SeriesRow ℚ)) : ∃ sums, daySums rows = .ok sums ∧
    ∀ row ∈ rows, sums.lookup row.day = some (sumOn rows row.day) := by
  obtain ⟨sums, made, looked⟩ := foldlM_addOn rows []
  refine ⟨sums, made, ?_⟩
  intro row mem
  have some : onDay rows row.day ≠ [] := List.ne_nil_of_mem (mem_onDay.mpr ⟨mem, rfl⟩)
  rw [looked, if_neg some, List.lookup_nil, Option.getD_none, zero_add]

/-- Rows add up to the sums of their days. -/
theorem sum_eq_sum_sumOn {rows : List (SeriesRow ℚ)} {days : List String} (single : days.Nodup)
    (all : ∀ row ∈ rows, row.day ∈ days) :
    (rows.map (·.value)).sum = (days.map (sumOn rows)).sum := by
  have every : rows.filter (fun row => decide (row.day ∈ days)) = rows :=
    List.filter_eq_self.mpr fun row mem => decide_eq_true (all row mem)
  have parted := sum_filter_mem (·.day) (·.value) rows single
  rw [every] at parted
  exact parted

/-! ### Splitting a total -/

/-- The part of a total that a share of all shares has. -/
def part (total share all : ℚ) : ℚ := if all = 0 then 0 else total * share / all

theorem portion_eq_ok (total share all : ℚ) :
    portion total share all = .ok (part total share all) := by
  have div : Quantity.div (total * share) all =
      if all = 0 then .error (.arithmetic .zeroDoubleDivisor) else .ok (total * share / all) := rfl
  change (if decide (all = 0) = true then .ok 0 else Quantity.div (total * share) all) = _
  rw [div, part]
  by_cases nothing : all = 0
  · simp [nothing]
  · simp [nothing]

/-- What a share row becomes where its day has a total, given what the shares of each day add up
to. -/
def splitOn (totals : List (SeriesRow ℚ)) (sums : String → ℚ) (row : SeriesRow ℚ) :
    Option (SeriesRow ℚ) :=
  (valueOn totals row.day).map fun total =>
    { row with value := part total row.value (sums row.day) }

theorem split?_eq_ok {totals shares : List (SeriesRow ℚ)} {sums : List (String × ℚ)}
    {row : SeriesRow ℚ} (looked : sums.lookup row.day = some (sumOn shares row.day)) :
    split? totals sums row = .ok (splitOn totals (sumOn shares) row) := by
  unfold split? splitOn
  rw [looked]
  cases valueOn totals row.day with
  | none => rfl
  | some total =>
    simp only [portion_eq_ok]
    rfl

theorem apportion_eq_ok (totals shares : List (SeriesRow ℚ)) :
    apportion totals shares = .ok (byDay (shares.filterMap (splitOn totals (sumOn shares)))) := by
  obtain ⟨sums, summed, looked⟩ := daySums_eq_ok shares
  have made : shares.filterMapM (split? totals sums) =
      .ok (shares.filterMap (splitOn totals (sumOn shares))) :=
    filterMapM_eq_ok fun row mem => split?_eq_ok (looked row mem)
  unfold apportion
  rw [summed]
  change shares.filterMapM (split? totals sums) >>= _ = _
  rw [made]
  rfl

/-- How totals are split over shares. -/
structure Conserved (totals shares out : List (SeriesRow ℚ)) : Prop where
  /-- Each share of a day with a total has one row under its own labels, in the order of the
  shares, with its proportional part of the total. -/
  rows : ∀ total ∈ totals, onDay out total.day = (onDay shares total.day).map fun share =>
    { share with value := part total.value share.value (sumOn shares total.day) }
  /-- The rows of a day add up to its total. -/
  whole : ∀ total ∈ totals, sumOn shares total.day ≠ 0 → sumOn out total.day = total.value
  nothing : ∀ row ∈ out, sumOn shares row.day = 0 → row.value = 0
  /-- A day that is missing on either side has no rows. -/
  both : ∀ row ∈ out,
    (∃ total ∈ totals, total.day = row.day) ∧ ∃ share ∈ shares, share.day = row.day
  ordered : out.Pairwise fun row next => row.day ≤ next.day

/-- All rows together add up to the totals of the days whose shares do not cancel. -/
theorem Conserved.sum_eq {totals shares out : List (SeriesRow ℚ)} (h : Conserved totals shares out)
    (single : (totals.map (·.day)).Nodup) : (out.map (·.value)).sum =
      ((totals.filter fun total => sumOn shares total.day ≠ 0).map (·.value)).sum := by
  have onDays : ∀ row ∈ out, row.day ∈ totals.map (·.day) := by
    intro row mem
    obtain ⟨⟨total, listed, same⟩, -⟩ := h.both row mem
    exact List.mem_map.mpr ⟨total, listed, same⟩
  have each : (totals.map (·.day)).map (sumOn out) =
      totals.map fun total => if sumOn shares total.day ≠ 0 then total.value else 0 := by
    rw [List.map_map]
    apply List.map_congr_left
    intro total mem
    split
    · next some => exact h.whole total mem some
    · next none =>
      apply List.sum_eq_zero
      intro value listed
      obtain ⟨row, here, rfl⟩ := List.mem_map.mp listed
      obtain ⟨there, day⟩ := mem_onDay.mp here
      apply h.nothing row there
      rw [day]
      exact not_not.mp none
  rw [sum_eq_sum_sumOn single onDays, each, List.sum_map_ite]
  simp

end Series

/-! ### Tables of fractions -/

/-- The sum or the mean. -/
def Rollup.exactly : Rollup → List ℚ → ℚ
  | .sum, values => values.sum
  | .mean, values => values.sum / values.length

theorem total_sum (values : List ℚ) : total values = .ok values.sum := by
  have added (start : ℚ) : values.foldlM Quantity.add start = .ok (start + values.sum) := by
    induction values generalizing start with
    | nil => rw [List.sum_nil, add_zero]; rfl
    | cons x xs ih =>
      rw [List.foldlM_cons, List.sum_cons, ← add_assoc]
      exact ih (start + x)
  rw [total, added]
  simp [Quantity.ofNat]

theorem aggregate_exactly (how : Rollup) (values : List ℚ) :
    aggregate how values = .ok (how.exactly values) := by
  unfold aggregate
  cases values with
  | nil =>
    cases how with
    | sum => rfl
    | mean => exact congrArg Except.ok (div_zero (0 : ℚ)).symm
  | cons x xs =>
    rw [total_sum]
    cases how with
    | sum => rfl
    | mean =>
      have some : ((x :: xs).length : ℚ) ≠ 0 := Nat.cast_ne_zero.mpr (Nat.succ_ne_zero xs.length)
      have divided : Quantity.div (x :: xs).sum ((x :: xs).length : ℚ) =
          .ok ((x :: xs).sum / (x :: xs).length) := if_neg some
      exact divided

namespace Bucket

/-- All values of buckets together. -/
def sum (buckets : List (Bucket ℚ)) : ℚ := (buckets.map (·.values.sum)).sum

theorem sum_cons (b : Bucket ℚ) (rest : List (Bucket ℚ)) :
    sum (b :: rest) = b.values.sum + sum rest := by
  rw [sum, List.map_cons, List.sum_cons, sum]

/-- What a bucket becomes in the table. -/
def rolled (how : Rollup) (b : Bucket ℚ) : TableRow ℚ := ⟨b.labels, how.exactly b.values⟩

end Bucket

namespace TableRow

theorem ofSeries_eq (how : Rollup) {breakdowns : List String} (some : breakdowns ≠ [])
    (rows : List (SeriesRow ℚ)) : ofSeries how breakdowns rows =
      ranked ((Bucket.ofRows breakdowns rows).map (·.rolled how)) := by
  have asked : ¬ breakdowns.isEmpty = true := by simpa using some
  have rolled : ((Bucket.ofRows breakdowns rows).mapM fun b => do
      return TableRow.mk b.labels (← aggregate how b.values)) =
      .ok ((Bucket.ofRows breakdowns rows).map (·.rolled how)) := by
    apply mapM_eq_ok
    intro b _
    rw [aggregate_exactly]
    rfl
  rw [ofSeries, if_neg asked, rolled]
  rfl

end TableRow

namespace Recipe

/-- Revenue by country over the first days of March. -/
def firstOfMarch : Query where
  tenant := "game-1"
  metric := "revenue"
  window := ⟨⟨739311, by decide, by decide⟩, ⟨739314, by decide, by decide⟩⟩
  granularity := "day"
  breakdowns := ["country"]

/-- Revenue on four days. -/
def takings : List (SeriesRow ℚ) :=
  [⟨"2025-03-02", [], 100⟩, ⟨"2025-03-01", [], 40⟩, ⟨"2025-03-03", [], 7⟩, ⟨"2025-03-04", [], 5⟩]

end Recipe
end MetricDesk
