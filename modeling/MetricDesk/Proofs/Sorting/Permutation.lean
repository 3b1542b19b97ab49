import Mathlib.Data.List.Perm.Basic
import MetricDesk.Analysis.Quantity
import MetricDesk.Proofs.Failure

/-! Sorting keeps what it sorts. Main statement: `perm_of_descending`, whatever the comparisons say,
what comes out of a sort is what went in, in another order. -/
namespace MetricDesk.Sorting
open scoped List

variable {ε α : Type} {lt : α → α → Except ε Bool}

/-! ### Runs -/

theorem perm_take_drop (xs : List α) (n : Nat) {front : List α} (perm : front.Perm (xs.take n)) :
    (front ++ xs.drop n).Perm xs := by
  have whole : xs.take n ++ xs.drop n = xs := List.take_append_drop n xs
  exact (perm.append_right _).trans (.of_eq whole)

theorem perm_frontRun {xs run rest : List α} (h : frontRun lt xs = .ok (run, rest)) :
    (run ++ rest).Perm xs ∧ (xs ≠ [] → rest.length < xs.length) := by
  unfold frontRun at h
  split at h
  · next x y more =>
    obtain ⟨falls, -, h⟩ := exists_of_bind h
    obtain ⟨n, -, h⟩ := exists_of_bind h
    cases h
    have front : (if falls then (x :: y :: more.take n).reverse else x :: y :: more.take n).Perm
        (x :: y :: more.take n) := by
      split
      · exact List.reverse_perm _
      · exact .refl _
    refine ⟨perm_take_drop (x :: y :: more) (n + 2) front, fun _ => ?_⟩
    rw [List.length_drop, List.length_cons, List.length_cons]
    omega
  · cases h
    refine ⟨by rw [List.append_nil], ?_⟩
    exact fun some => List.length_pos_iff.mpr some

theorem halving_le {side : End} {test : α → Except ε Bool} {xs : Array α} {fuel low high n : Nat}
    (h : halving side test xs fuel low high = .ok n) (order : low ≤ high) : n ≤ high := by
  induction fuel generalizing low high with
  | zero => cases h; exact order
  | succ fuel ih =>
    unfold halving at h
    split at h
    · next less =>
      have middle : low ≤ side.middle low high ∧ side.middle low high < high := by
        cases side with
        | front => simp only [End.middle]; omega
        | back => simp only [End.middle]; omega
      simp only at h
      split at h
      · obtain ⟨passes, -, h⟩ := exists_of_bind h
        cases passes with
        | true => exact ih h middle.2
        | false => exact Nat.le_trans (ih h middle.1) (Nat.le_of_lt middle.2)
      · cases h
        exact order
    · cases h
      exact order

theorem perm_insert {run out : List α} {x : α} (h : insert lt run x = .ok out) :
    out.Perm (x :: run) := by
  obtain ⟨place, found, h⟩ := exists_of_bind h
  cases h
  exact List.perm_insertIdx x run (halving_le found (Nat.zero_le _))

theorem perm_inserted {run xs out : List α} (h : xs.foldlM (insert lt) run = .ok out) :
    out.Perm (run ++ xs) := by
  induction xs generalizing run with
  | nil =>
    rw [List.foldlM_nil] at h
    cases h
    rw [List.append_nil]
  | cons x xs ih =>
    rw [List.foldlM_cons] at h
    obtain ⟨next, inserted, h⟩ := exists_of_bind h
    calc out
      _ ~ next ++ xs := ih h
      _ ~ (x :: run) ++ xs := (perm_insert inserted).append_right xs
      _ ~ run ++ x :: xs := List.perm_middle.symm

theorem perm_nextRun {least : Nat} {xs run rest : List α}
    (h : nextRun lt least xs = .ok (run, rest)) :
    (run ++ rest).Perm xs ∧ (xs ≠ [] → rest.length < xs.length) := by
  obtain ⟨⟨front, behind⟩, found, h⟩ := exists_of_bind h
  obtain ⟨perm, fewer⟩ := perm_frontRun found
  obtain ⟨out, inserted, h⟩ := exists_of_bind h
  cases h
  constructor
  · calc run ++ behind.drop (least - front.length)
      _ ~ front ++ behind.take (least - front.length) ++ behind.drop (least - front.length) :=
        (perm_inserted inserted).append_right _
      _ = front ++ behind := by rw [List.append_assoc, List.take_append_drop]
      _ ~ xs := perm
  · intro some
    rw [List.length_drop]
    exact Nat.lt_of_le_of_lt (Nat.sub_le _ _) (fewer some)

/-! ### Merges -/

namespace Merging

theorem perm_takeKept (s : Merging α) (n : Nat) : (s.takeKept n).result ~ s.result := by
  simp only [takeKept, result, List.reverse_append, List.reverse_reverse, List.append_assoc]
  apply List.Perm.append_left
  calc s.kept.take n ++ (s.other ++ s.kept.drop n)
    _ ~ s.other ++ (s.kept.take n ++ s.kept.drop n) := List.perm_append_comm_assoc _ _ _
    _ = s.other ++ s.kept := by rw [List.take_append_drop]

theorem result_takeOther (s : Merging α) (n : Nat) : (s.takeOther n).result = s.result := by
  simp only [takeOther, result, List.reverse_append, List.reverse_reverse]
  rw [List.append_assoc s.taken.reverse, List.take_append_drop]

theorem perm_one (s : Merging α) :
    s.oneKept.result ~ s.result ∧ s.oneOther.result ~ s.result := by
  unfold oneKept oneOther
  split
  · exact ⟨.refl _, .refl _⟩
  · exact ⟨perm_takeKept s 1, .of_eq (result_takeOther s 1)⟩

variable {d : Direction (Except ε) α}

theorem perm_strideKept {s t : Merging α} {n : Nat} (h : strideKept d s = .ok (t, n)) :
    t.result ~ s.result := by
  unfold strideKept at h
  split at h
  · obtain ⟨k, -, h⟩ := exists_of_bind h
    cases h
    exact perm_takeKept s n
  · cases h
    exact .refl _

theorem perm_strideOther {s t : Merging α} {n : Nat} (h : strideOther d s = .ok (t, n)) :
    t.result ~ s.result := by
  unfold strideOther at h
  split at h
  · obtain ⟨k, -, h⟩ := exists_of_bind h
    cases h
    exact .of_eq (result_takeOther s n)
  · cases h
    exact .refl _

theorem perm_strides {s t : Merging α} {long : Bool} (h : strides d s = .ok (t, long)) :
    t.result ~ s.result := by
  unfold strides at h
  split at h
  · obtain ⟨⟨s₁, k⟩, first, h⟩ := exists_of_bind h
    obtain ⟨⟨s₂, o⟩, second, h⟩ := exists_of_bind h
    cases h
    calc s₂.oneKept.result
      _ ~ s₂.result := (perm_one s₂).1
      _ ~ s₁.oneOther.result := perm_strideOther second
      _ ~ s₁.result := (perm_one s₁).2
      _ ~ s.result := perm_strideKept first
  · obtain ⟨⟨s₁, o⟩, first, h⟩ := exists_of_bind h
    obtain ⟨⟨s₂, k⟩, second, h⟩ := exists_of_bind h
    cases h
    calc s₂.oneOther.result
      _ ~ s₂.result := (perm_one s₂).2
      _ ~ s₁.oneKept.result := perm_strideKept second
      _ ~ s₁.result := (perm_one s₁).1
      _ ~ s.result := perm_strideOther first

/-- By induction on the fuel; a merge that runs out of it leaves the rest as it stands. -/
theorem perm_run {fuel patience left : Nat} {pace : Pace} {s : Merging α} {out : List α}
    (h : run d fuel patience pace s = .ok (out, left)) : out ~ s.result := by
  induction fuel generalizing patience pace s with
  | zero => cases h; exact .refl _
  | succ fuel ih =>
    unfold run at h
    split at h
    · cases h
      exact .refl _
    · split at h
      · obtain ⟨otherWins, -, h⟩ := exists_of_bind h
        have goesOn {t : Merging α} {k o : Nat} (stepped : t.result ~ s.result)
            (h : (if t.isOver then .ok (t.result, patience)
              else if patience ≤ max k o then run d fuel (patience + 1) .striding t
              else run d fuel patience (.single k o) t) = .ok (out, left)) : out ~ s.result := by
          split at h
          · cases h
            exact stepped
          · split at h <;> exact (ih h).trans stepped
        cases otherWins with
        | true => exact goesOn (.of_eq (result_takeOther s 1)) h
        | false => exact goesOn (perm_takeKept s 1) h
      · obtain ⟨⟨t, long⟩, strode, h⟩ := exists_of_bind h
        have stepped := perm_strides strode
        simp only at h
        split at h
        · cases h
          exact stepped
        · split at h <;> exact (ih h).trans stepped
      · cases h
        exact .refl _

end Merging

theorem perm_mergeRuns {patience left : Nat} {a b out : List α}
    (h : mergeRuns lt patience a b = .ok (out, left)) : out ~ a ++ b := by
  unfold mergeRuns at h
  split at h
  · obtain ⟨n, -, h⟩ := exists_of_bind h
    simp only at h
    split at h
    · next none =>
      cases h
      have nothing : a.drop n = [] := List.getLast?_eq_none_iff.mp none
      have whole : a.take n = a := by
        rw [← List.append_nil (a.take n), ← nothing, List.take_append_drop]
      rw [whole]
    · obtain ⟨k, -, h⟩ := exists_of_bind h
      -- Whatever the middle parts come to, the ends stay where they are.
      have ends {middle : List α} (perm : middle ~ a.drop n ++ b.take (b.length - k)) :
          a.take n ++ middle ++ b.drop (b.length - k) ~ a ++ b := by
        calc a.take n ++ middle ++ b.drop (b.length - k)
          _ ~ a.take n ++ (a.drop n ++ b.take (b.length - k)) ++ b.drop (b.length - k) :=
            (perm.append_left _).append_right _
          _ = a.take n ++ a.drop n ++ (b.take (b.length - k) ++ b.drop (b.length - k)) := by
            simp only [List.append_assoc]
          _ = a ++ b := by rw [List.take_append_drop, List.take_append_drop]
      split at h
      · next none =>
        cases h
        apply ends
        rw [List.isEmpty_iff.mp none, List.append_nil]
      · split at h
        · obtain ⟨⟨merged, patience'⟩, ran, h⟩ := exists_of_bind h
          cases h
          apply ends
          have perm := Merging.perm_run ran
          rw [Merging.result_takeOther] at perm
          exact perm.trans List.perm_append_comm
        · obtain ⟨⟨merged, patience'⟩, ran, h⟩ := exists_of_bind h
          cases h
          apply ends
          have perm := Merging.perm_run ran
          rw [Merging.result_takeOther] at perm
          calc merged.reverse
            _ ~ merged := List.reverse_perm merged
            _ ~ (a.drop n).reverse ++ (b.take (b.length - k)).reverse := perm
            _ ~ a.drop n ++ b.take (b.length - k) :=
              (List.reverse_perm _).append (List.reverse_perm _)
  · cases h
    exact .refl _

/-! ### All runs -/

/-- The items of the waiting runs, in no order that matters. -/
def Waiting.items (w : Waiting α) : List α := (w.runs.map (·.items)).flatten

theorem perm_mergePair {patience left : Nat} {a b merged : Run α}
    (h : mergePair lt patience a b = .ok (merged, left)) : merged.items ~ a.items ++ b.items := by
  obtain ⟨⟨items, patience'⟩, found, h⟩ := exists_of_bind h
  cases h
  exact perm_mergeRuns found

/-- Two neighbours give way to their merge. -/
theorem perm_merged {patience left : Nat} {a b merged : Run α}
    (h : mergePair lt patience a b = .ok (merged, left)) (before behind : List (Run α))
    (p q : Nat) :
    Waiting.items ⟨before ++ merged :: behind, p⟩ ~
      Waiting.items ⟨before ++ b :: a :: behind, q⟩ := by
  simp only [Waiting.items, List.map_append, List.map_cons, List.flatten_append,
    List.flatten_cons]
  apply List.Perm.append_left
  calc merged.items ++ (behind.map (·.items)).flatten
    _ ~ (a.items ++ b.items) ++ (behind.map (·.items)).flatten :=
      (perm_mergePair h).append_right _
    _ ~ (b.items ++ a.items) ++ (behind.map (·.items)).flatten :=
      List.perm_append_comm.append_right _
    _ = b.items ++ (a.items ++ (behind.map (·.items)).flatten) := List.append_assoc _ _ _

theorem perm_settle {depth fuel : Nat} {w v : Waiting α} (h : settle lt depth fuel w = .ok v) :
    v.items ~ w.items ∧ (w.runs ≠ [] → v.runs ≠ []) := by
  induction fuel generalizing w with
  | zero => cases h; exact ⟨.refl _, id⟩
  | succ fuel ih =>
    unfold settle at h
    split at h
    · next b a rest runs =>
      split at h
      · obtain ⟨⟨merged, patience⟩, found, h⟩ := exists_of_bind h
        obtain ⟨perm, some⟩ := ih h
        have two : w = ⟨b :: a :: rest, w.patience⟩ := by rw [← runs]
        refine ⟨?_, fun _ => some (List.cons_ne_nil _ _)⟩
        rw [two]
        exact perm.trans (perm_merged found [] _ _ _)
      · cases h
        exact ⟨.refl _, id⟩
    · cases h
      exact ⟨.refl _, id⟩

theorem perm_push {total : Nat} {items : List α} {w v : Waiting α}
    (h : push lt total items w = .ok v) : v.items ~ items ++ w.items := by
  unfold push at h
  split at h
  · next none =>
    cases h
    simp [Waiting.items, none]
  · next last rest runs =>
    obtain ⟨settled, found, h⟩ := exists_of_bind h
    obtain ⟨perm, some⟩ := perm_settle found
    split at h
    · next last' rest' kept =>
      cases h
      have same : Waiting.items settled = last'.items ++ (rest'.map (·.items)).flatten := by
        rw [Waiting.items, kept, List.map_cons, List.flatten_cons]
      rw [same] at perm
      simp only [Waiting.items, List.map_cons, List.flatten_cons]
      exact perm.append_left items
    · next none => exact absurd none (some (by rw [runs]; exact List.cons_ne_nil _ _))

theorem perm_mergeAll {fuel : Nat} {w : Waiting α} {out : List α}
    (h : mergeAll lt fuel w = .ok out) : out ~ w.items := by
  induction fuel generalizing w with
  | zero =>
    cases h
    exact ((List.reverse_perm w.runs).map (·.items)).flatten
  | succ fuel ih =>
    unfold mergeAll at h
    split at h
    · next c b a rest runs =>
      have three : w = ⟨c :: b :: a :: rest, w.patience⟩ := by rw [← runs]
      rw [three]
      split at h
      · obtain ⟨⟨merged, patience⟩, found, h⟩ := exists_of_bind h
        exact (ih h).trans (perm_merged found [c] _ _ _)
      · obtain ⟨⟨merged, patience⟩, found, h⟩ := exists_of_bind h
        exact (ih h).trans (perm_merged found [] _ _ _)
    · next b a runs =>
      obtain ⟨⟨merged, patience⟩, found, h⟩ := exists_of_bind h
      cases h
      have two : w = ⟨[b, a], w.patience⟩ := by rw [← runs]
      have perm := perm_merged found [] [] patience w.patience
      rw [two]
      simpa [Waiting.items] using perm
    · next a runs =>
      cases h
      simp [Waiting.items, runs]
    · next runs =>
      cases h
      simp [Waiting.items, runs]

/-- By induction on the fuel, of which there is one for each item: every run takes one at least. -/
theorem perm_gather {total fuel : Nat} {xs : List α} {w v : Waiting α}
    (h : gather lt total fuel xs w = .ok v) (enough : xs.length ≤ fuel) :
    v.items ~ xs ++ w.items := by
  induction fuel generalizing xs w with
  | zero =>
    cases h
    rw [List.length_eq_zero_iff.mp (Nat.le_zero.mp enough), List.nil_append]
  | succ fuel ih =>
    obtain ⟨⟨run, rest⟩, found, h⟩ := exists_of_bind h
    obtain ⟨pushed, waiting, h⟩ := exists_of_bind h
    obtain ⟨perm, fewer⟩ := perm_nextRun found
    have step : rest ++ pushed.items ~ xs ++ w.items := by
      calc rest ++ pushed.items
        _ ~ rest ++ (run ++ w.items) := (perm_push waiting).append_left rest
        _ ~ run ++ rest ++ w.items := by
          rw [List.append_assoc]
          exact List.perm_append_comm_assoc rest run w.items
        _ ~ xs ++ w.items := perm.append_right _
    split at h
    · next none =>
      cases h
      rw [List.isEmpty_iff.mp none, List.nil_append] at step
      exact step
    · next some =>
      have less : rest.length ≤ fuel := by
        cases xs with
        | nil =>
          have nothing : run ++ rest = [] := perm.eq_nil
          rw [(List.append_eq_nil_iff.mp nothing).2]
          exact Nat.zero_le _
        | cons x xs =>
          have := fewer (List.cons_ne_nil _ _)
          omega
      exact (ih h less).trans step

theorem perm_ascending {xs ys : List α} (h : ascending lt xs = .ok ys) : ys ~ xs := by
  unfold ascending at h
  split at h
  · cases h
    exact .refl _
  · obtain ⟨w, gathered, h⟩ := exists_of_bind h
    have perm := perm_gather gathered (Nat.le_refl _)
    rw [show Waiting.items (⟨[], Merging.streak⟩ : Waiting α) = [] from rfl,
      List.append_nil] at perm
    exact (perm_mergeAll h).trans perm

theorem perm_descending {xs ys : List α} (h : descending lt xs = .ok ys) : ys ~ xs := by
  obtain ⟨zs, sorted, h⟩ := exists_of_bind h
  cases h
  calc zs.reverse
    _ ~ zs := List.reverse_perm zs
    _ ~ xs.reverse := perm_ascending sorted
    _ ~ xs := List.reverse_perm xs

end MetricDesk.Sorting

namespace MetricDesk.Quantity

theorem perm_of_descending {α β : Type} [Quantity α] {key : β → α} {items out : List β}
    (h : descending key items = .ok out) : out.Perm items := by
  unfold descending at h
  split at h
  · cases h
    exact List.mergeSort_perm items _
  · exact Sorting.perm_descending h

theorem mem_of_descending {α β : Type} [Quantity α] {key : β → α} {items out : List β}
    (h : descending key items = .ok out) : ∀ b ∈ out, b ∈ items :=
  fun _ mem => (perm_of_descending h).mem_iff.mp mem

end MetricDesk.Quantity
