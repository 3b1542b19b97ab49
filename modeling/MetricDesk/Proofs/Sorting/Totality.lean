import MetricDesk.Proofs.Failure
import MetricDesk.Sorting.Basic

/-! Sorting comes to an end. Main statements: `succeeds_ascending` and `succeeds_descending`, a sort
fails only if one of its comparisons does, so it comes to something where all of them do, in whatever
way they contradict each other. -/
namespace MetricDesk.Sorting

variable {ε α : Type}

/-! ### Searches -/

section
variable {test : α → Except ε Bool}

theorem succeeds_halving (each : ∀ x, Succeeds (test x)) (side : End) (xs : Array α)
    (fuel low high : Nat) : Succeeds (halving side test xs fuel low high) := by
  induction fuel generalizing low high with
  | zero => exact .ok _
  | succ fuel ih =>
    unfold halving
    split
    · dsimp only
      split
      · apply (each _).bind
        rintro (_ | _) _
        · exact ih _ _
        · exact ih _ _
      · exact .ok _
    · exact .ok _

theorem succeeds_striding (each : ∀ x, Succeeds (test x)) (xs : Array α) (fuel last next : Nat) :
    Succeeds (striding test xs fuel last next) := by
  induction fuel generalizing last next with
  | zero => exact .ok _
  | succ fuel ih =>
    unfold striding
    split
    · apply (each _).bind
      rintro (_ | _) _
      · exact .ok _
      · exact ih _ _
    · exact .ok _

theorem succeeds_leading (each : ∀ x, Succeeds (test x)) (side : End) (xs : List α) :
    Succeeds (leading side test xs) := by
  cases xs with
  | nil => exact .ok _
  | cons x xs =>
    unfold leading
    apply (each x).bind
    rintro (_ | _) _
    · exact .ok _
    · apply (succeeds_striding each _ _ _ _).bind
      rintro ⟨last, next⟩ _
      exact succeeds_halving each _ _ _ _ _

end

variable {lt : α → α → Except ε Bool}

theorem succeeds_not {work : Except ε Bool} (h : Succeeds work) :
    Succeeds (do return !(← work)) :=
  h.bind fun _ _ => .ok _

/-! ### Runs -/

theorem succeeds_goingOn (each : ∀ a b, Succeeds (lt a b)) (falls : Bool) (last : α) (xs : List α) :
    Succeeds (goingOn lt falls last xs) := by
  induction xs generalizing last with
  | nil => exact .ok _
  | cons x xs ih =>
    unfold goingOn
    apply (each x last).bind
    intro less _
    split
    · exact (ih x).bind fun _ _ => .ok _
    · exact .ok _

theorem succeeds_frontRun (each : ∀ a b, Succeeds (lt a b)) (xs : List α) :
    Succeeds (frontRun lt xs) := by
  unfold frontRun
  split
  · apply (each _ _).bind
    intro falls _
    exact (succeeds_goingOn each _ _ _).bind fun _ _ => .ok _
  · exact .ok _

theorem succeeds_insert (each : ∀ a b, Succeeds (lt a b)) (run : List α) (x : α) :
    Succeeds (insert lt run x) :=
  (succeeds_halving (fun y => succeeds_not (each x y)) _ _ _ _ _).bind fun _ _ => .ok _

theorem succeeds_nextRun (each : ∀ a b, Succeeds (lt a b)) (least : Nat) (xs : List α) :
    Succeeds (nextRun lt least xs) := by
  apply (succeeds_frontRun each xs).bind
  rintro ⟨run, rest⟩ _
  exact (Succeeds.foldlM fun b x _ => succeeds_insert each b x).bind fun _ _ => .ok _

/-! ### Merges -/

namespace Merging

variable {d : Direction (Except ε) α}

theorem succeeds_strideKept (each : ∀ o k, Succeeds (d.wins o k)) (s : Merging α) :
    Succeeds (strideKept d s) := by
  unfold strideKept
  split
  · exact (succeeds_leading (fun k => succeeds_not (each _ k)) _ _).bind fun _ _ => .ok _
  · exact .ok _

theorem succeeds_strideOther (each : ∀ o k, Succeeds (d.wins o k)) (s : Merging α) :
    Succeeds (strideOther d s) := by
  unfold strideOther
  split
  · exact (succeeds_leading (fun o => each o _) _ _).bind fun _ _ => .ok _
  · exact .ok _

theorem succeeds_strides (each : ∀ o k, Succeeds (d.wins o k)) (s : Merging α) :
    Succeeds (strides d s) := by
  unfold strides
  split
  · apply (succeeds_strideKept each s).bind
    rintro ⟨s, k⟩ _
    exact (succeeds_strideOther each s.oneOther).bind fun _ _ => .ok _
  · apply (succeeds_strideOther each s).bind
    rintro ⟨s, o⟩ _
    exact (succeeds_strideKept each s.oneKept).bind fun _ _ => .ok _

theorem succeeds_run (each : ∀ o k, Succeeds (d.wins o k)) (fuel patience : Nat) (pace : Pace)
    (s : Merging α) : Succeeds (run d fuel patience pace s) := by
  induction fuel generalizing patience pace s with
  | zero => exact .ok _
  | succ fuel ih =>
    unfold run
    split
    · exact .ok _
    · split
      · have goesOn (t : Merging α) (k o : Nat) : Succeeds (if t.isOver then .ok (t.result, patience)
            else if patience ≤ max k o then run d fuel (patience + 1) .striding t
            else run d fuel patience (.single k o) t) := by
          split
          · exact .ok _
          · split <;> exact ih _ _ _
        apply (each _ _).bind
        rintro (_ | _) _
        · exact goesOn (s.takeKept 1) _ 0
        · exact goesOn (s.takeOther 1) 0 _
      · apply (succeeds_strides each s).bind
        rintro ⟨t, long⟩ _
        dsimp only
        split
        · exact .ok _
        · split <;> exact ih _ _ _
      · exact .ok _

end Merging

theorem succeeds_mergeRuns (each : ∀ a b, Succeeds (lt a b)) (patience : Nat) (a b : List α) :
    Succeeds (mergeRuns lt patience a b) := by
  unfold mergeRuns
  split
  · apply (succeeds_leading (fun x => succeeds_not (each _ x)) _ _).bind
    intro n _
    dsimp only
    split
    · exact .ok _
    · apply (succeeds_leading (fun x => succeeds_not (each x _)) _ _).bind
      intro k _
      split
      · exact .ok _
      · split
        · exact (Merging.succeeds_run each _ _ _ _).bind fun _ _ => .ok _
        · exact (Merging.succeeds_run (fun o k => each k o) _ _ _ _).bind fun _ _ => .ok _
  · exact .ok _

theorem succeeds_mergePair (each : ∀ a b, Succeeds (lt a b)) (patience : Nat) (a b : Run α) :
    Succeeds (mergePair lt patience a b) :=
  (succeeds_mergeRuns each patience a.items b.items).bind fun _ _ => .ok _

/-! ### All runs -/

theorem succeeds_settle (each : ∀ a b, Succeeds (lt a b)) (depth fuel : Nat) (w : Waiting α) :
    Succeeds (settle lt depth fuel w) := by
  induction fuel generalizing w with
  | zero => exact .ok _
  | succ fuel ih =>
    unfold settle
    split
    · split
      · exact (succeeds_mergePair each _ _ _).bind fun _ _ => ih _
      · exact .ok _
    · exact .ok _

theorem succeeds_push (each : ∀ a b, Succeeds (lt a b)) (total : Nat) (items : List α)
    (w : Waiting α) : Succeeds (push lt total items w) := by
  unfold push
  split
  · exact .ok _
  · apply (succeeds_settle each _ _ _).bind
    intro settled _
    split
    · exact .ok _
    · exact .ok _

theorem succeeds_mergeAll (each : ∀ a b, Succeeds (lt a b)) (fuel : Nat) (w : Waiting α) :
    Succeeds (mergeAll lt fuel w) := by
  induction fuel generalizing w with
  | zero => exact .ok _
  | succ fuel ih =>
    unfold mergeAll
    split
    · split
      · exact (succeeds_mergePair each _ _ _).bind fun _ _ => ih _
      · exact (succeeds_mergePair each _ _ _).bind fun _ _ => ih _
    · exact (succeeds_mergePair each _ _ _).bind fun _ _ => .ok _
    · exact .ok _
    · exact .ok _

theorem succeeds_gather (each : ∀ a b, Succeeds (lt a b)) (total fuel : Nat) (xs : List α)
    (w : Waiting α) : Succeeds (gather lt total fuel xs w) := by
  induction fuel generalizing xs w with
  | zero => exact .ok _
  | succ fuel ih =>
    apply (succeeds_nextRun each _ xs).bind
    rintro ⟨run, rest⟩ _
    apply (succeeds_push each total run w).bind
    intro pushed _
    split
    · exact .ok _
    · exact ih _ _

theorem succeeds_ascending (each : ∀ a b, Succeeds (lt a b)) (xs : List α) :
    Succeeds (ascending lt xs) := by
  unfold ascending
  split
  · exact .ok _
  · exact (succeeds_gather each _ _ _ _).bind fun _ _ => succeeds_mergeAll each _ _

theorem succeeds_descending (each : ∀ a b, Succeeds (lt a b)) (xs : List α) :
    Succeeds (descending lt xs) :=
  (succeeds_ascending each _).bind fun _ _ => .ok _

end MetricDesk.Sorting
