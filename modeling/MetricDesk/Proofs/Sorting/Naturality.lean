import Mathlib.Data.List.InsertIdx
import MetricDesk.Analysis.Quantity
import MetricDesk.Proofs.Sorting.Totality

/-! Sorting sees its items through the comparisons only. Main statements: `map_ascending` and
`map_descending`, the images of items are sorted as the items are when they are compared by their
images; and `Quantity.agree_descending`, items that are alike are ranked alike. -/
namespace MetricDesk.Sorting

variable {m : Type → Type} [Monad m] {α β : Type} (g : α → β)

/-! ### Searches -/

theorem map_halving (side : End) (test : β → m Bool) (xs : Array α) (fuel low high : Nat) :
    halving side test (xs.map g) fuel low high =
      halving side (fun x => test (g x)) xs fuel low high := by
  induction fuel generalizing low high with
  | zero => rfl
  | succ fuel ih =>
    simp only [halving, Array.getElem?_map, ih]
    cases xs[side.middle low high]? <;> rfl

theorem map_striding (test : β → m Bool) (xs : Array α) (fuel last next : Nat) :
    striding test (xs.map g) fuel last next = striding (fun x => test (g x)) xs fuel last next := by
  induction fuel generalizing last next with
  | zero => simp only [striding, Array.size_map]
  | succ fuel ih =>
    simp only [striding, Array.getElem?_map, Array.size_map, ih]
    cases xs[next]? <;> rfl

theorem map_leading (side : End) (test : β → m Bool) (xs : List α) :
    leading side test (xs.map g) = leading side (fun x => test (g x)) xs := by
  cases xs with
  | nil => rfl
  | cons x xs =>
    have images : (g x :: xs.map g).toArray = (x :: xs).toArray.map g := by simp
    simp only [leading, List.map_cons, images, map_halving, map_striding, Array.size_map]

/-! ### Runs -/

variable (lt : β → β → m Bool)

theorem map_goingOn (falls : Bool) (last : α) (xs : List α) :
    goingOn lt falls (g last) (xs.map g) = goingOn (fun a b => lt (g a) (g b)) falls last xs := by
  induction xs generalizing last with
  | nil => rfl
  | cons x xs ih => simp only [goingOn, List.map_cons, ih]

variable [LawfulMonad m]

theorem map_frontRun (xs : List α) : frontRun lt (xs.map g) =
    Prod.map (List.map g) (List.map g) <$> frontRun (fun a b => lt (g a) (g b)) xs := by
  match xs with
  | [] => simp [frontRun]
  | [x] => simp [frontRun]
  | x :: y :: rest =>
    simp only [List.map_cons, frontRun, map_goingOn, map_bind, map_pure]
    apply bind_congr
    intro falls
    apply bind_congr
    intro n
    cases falls <;> simp

theorem map_insert (run : List α) (x : α) : insert lt (run.map g) (g x) =
    List.map g <$> insert (fun a b => lt (g a) (g b)) run x := by
  have images : (run.map g).toArray = run.toArray.map g := by simp
  simp only [insert, images, map_halving, List.length_map, map_bind, map_pure]
  apply bind_congr
  intro place
  rw [List.map_insertIdx]

theorem map_inserted (run xs : List α) : (xs.map g).foldlM (insert lt) (run.map g) =
    List.map g <$> xs.foldlM (insert fun a b => lt (g a) (g b)) run := by
  induction xs generalizing run with
  | nil => simp
  | cons x xs ih => simp [map_insert, ih]

theorem map_nextRun (least : Nat) (xs : List α) : nextRun lt least (xs.map g) =
    Prod.map (List.map g) (List.map g) <$> nextRun (fun a b => lt (g a) (g b)) least xs := by
  simp [nextRun, map_frontRun, ← List.map_take, ← List.map_drop, map_inserted]

/-! ### Merges -/

namespace Merging

/-- The images of a merge under way. -/
def map (s : Merging α) : Merging β := ⟨s.taken.map g, s.kept.map g, s.other.map g⟩

theorem map_takeKept (n : Nat) (s : Merging α) : (s.map g).takeKept n = (s.takeKept n).map g := by
  simp [takeKept, map]

theorem map_takeOther (n : Nat) (s : Merging α) :
    (s.map g).takeOther n = (s.takeOther n).map g := by
  simp [takeOther, map]

theorem isOver_map (s : Merging α) : (s.map g).isOver = s.isOver := by
  simp [isOver, map]

theorem result_map (s : Merging α) : (s.map g).result = s.result.map g := by
  simp [result, map]

theorem map_oneKept (s : Merging α) : (s.map g).oneKept = s.oneKept.map g := by
  simp only [oneKept, isOver_map, map_takeKept]
  split <;> rfl

theorem map_oneOther (s : Merging α) : (s.map g).oneOther = s.oneOther.map g := by
  simp only [oneOther, isOver_map, map_takeOther]
  split <;> rfl

/-- Items go over as their images would. -/
def Direction.between (d : Direction m β) : Direction m α := ⟨d.side, fun o k => d.wins (g o) (g k)⟩

variable (d : Direction m β)

theorem map_strideKept (s : Merging α) : strideKept d (s.map g) =
    Prod.map (map g) id <$> strideKept (d.between g) s := by
  simp only [strideKept, isOver_map]
  cases s.isOver with
  | true => simp
  | false =>
    cases none : s.other with
    | nil => simp [map, none]
    | cons o rest => simp [map, none, map_leading, Direction.between, takeKept]

theorem map_strideOther (s : Merging α) : strideOther d (s.map g) =
    Prod.map (map g) id <$> strideOther (d.between g) s := by
  simp only [strideOther, isOver_map]
  cases s.isOver with
  | true => simp
  | false =>
    cases none : s.kept with
    | nil => simp [map, none]
    | cons o rest => simp [map, none, map_leading, Direction.between, takeOther]

theorem map_strides (s : Merging α) : strides d (s.map g) =
    Prod.map (map g) id <$> strides (d.between g) s := by
  obtain ⟨side, wins⟩ := d
  cases side with
  | front =>
    simp [strides, map_strideKept, map_oneOther, map_strideOther, map_oneKept, Direction.between]
  | back =>
    simp [strides, map_strideKept, map_oneOther, map_strideOther, map_oneKept, Direction.between]

theorem map_run (fuel patience : Nat) (pace : Pace) (s : Merging α) :
    run d fuel patience pace (s.map g) =
      Prod.map (List.map g) id <$> run (d.between g) fuel patience pace s := by
  induction fuel generalizing patience pace s with
  | zero => simp [run, result_map]
  | succ fuel ih =>
    unfold run
    rw [isOver_map, result_map]
    cases s.isOver with
    | true => simp
    | false =>
      simp only [Bool.false_eq_true, if_false]
      cases pace with
      | striding =>
        simp only [map_strides, bind_map_left, map_bind]
        apply bind_congr
        rintro ⟨t, long⟩
        simp only [Prod.map, id_eq, isOver_map, result_map, ih,
          apply_ite (Prod.map (List.map g) id <$> ·), map_pure]
      | single inKept inOther =>
        cases others : s.other with
        | nil => simp [map, others]
        | cons o rest =>
          cases keeps : s.kept with
          | nil => simp [map, others, keeps]
          | cons k more =>
            have otherImages : (s.map g).other = g o :: rest.map g := by simp [map, others]
            have keptImages : (s.map g).kept = g k :: more.map g := by simp [map, keeps]
            simp only [otherImages, keptImages, map_bind]
            apply bind_congr
            rintro (_ | _)
            · simp only [Bool.false_eq_true, if_false, map_takeKept, isOver_map, result_map, ih,
                apply_ite (Prod.map (List.map g) id <$> ·), map_pure, Prod.map, id_eq]
            · simp only [if_true, map_takeOther, isOver_map, result_map, ih,
                apply_ite (Prod.map (List.map g) id <$> ·), map_pure, Prod.map, id_eq]

/-- A merge begins with the first item of the other run. -/
theorem map_begun (fuel patience : Nat) (pace : Pace) (kept other : List α) :
    run d fuel patience pace (takeOther 1 ⟨[], kept.map g, other.map g⟩) =
      Prod.map (List.map g) id <$>
        run (d.between g) fuel patience pace (takeOther 1 ⟨[], kept, other⟩) := by
  rw [← map_run, ← map_takeOther]
  rfl

end Merging

theorem map_mergeRuns (patience : Nat) (a b : List α) : mergeRuns lt patience (a.map g) (b.map g) =
    Prod.map (List.map g) id <$> mergeRuns (fun a b => lt (g a) (g b)) patience a b := by
  unfold mergeRuns
  rw [List.head?_map, List.getLast?_map]
  cases b.head? with
  | none => simp
  | some first =>
    cases a.getLast? with
    | none => simp
    | some _ =>
      simp only [Option.map_some, map_leading, map_bind]
      apply bind_congr
      intro n
      rw [← List.map_drop, List.getLast?_map]
      cases (a.drop n).getLast? with
      | none => simp
      | some last =>
        simp only [Option.map_some, ← List.map_reverse, map_leading, map_bind]
        apply bind_congr
        intro k
        simp only [List.length_map, ← List.map_take, ← List.map_drop, List.isEmpty_map]
        split
        · simp
        · split
          · rw [Merging.map_begun]
            simp [Merging.Direction.between]
          · rw [← List.map_reverse, Merging.map_begun]
            simp [Merging.Direction.between]


/-! ### All runs -/

/-- The images of a run. -/
def Run.map (r : Run α) : Run β := ⟨r.start, r.items.map g, r.depth⟩

/-- The images of waiting runs. -/
def Waiting.map (w : Waiting α) : Waiting β := ⟨w.runs.map (Run.map g), w.patience⟩

theorem map_mergePair (patience : Nat) (a b : Run α) : mergePair lt patience (a.map g) (b.map g) =
    Prod.map (Run.map g) id <$> mergePair (fun a b => lt (g a) (g b)) patience a b := by
  simp [mergePair, Run.map, map_mergeRuns]

theorem map_settle (depth fuel : Nat) (w : Waiting α) : settle lt depth fuel (w.map g) =
    Waiting.map g <$> settle (fun a b => lt (g a) (g b)) depth fuel w := by
  induction fuel generalizing w with
  | zero => simp [settle]
  | succ fuel ih =>
    obtain ⟨runs, patience⟩ := w
    match runs with
    | [] => simp [settle, Waiting.map]
    | [b] => simp [settle, Waiting.map]
    | b :: a :: rest =>
      simp only [settle, Waiting.map, List.map_cons, map_mergePair]
      by_cases deeper : depth < a.depth
      · have deeperToo : depth < (a.map g).depth := deeper
        simp only [deeper, deeperToo, if_true, bind_map_left, map_bind]
        apply bind_congr
        rintro ⟨merged, left⟩
        exact ih ⟨merged :: rest, left⟩
      · have notToo : ¬ depth < (a.map g).depth := deeper
        simp [deeper, notToo, Waiting.map]

theorem map_push (total : Nat) (items : List α) (w : Waiting α) :
    push lt total (items.map g) (w.map g) =
      Waiting.map g <$> push (fun a b => lt (g a) (g b)) total items w := by
  obtain ⟨runs, patience⟩ := w
  cases runs with
  | nil => simp [push, Waiting.map, Run.map]
  | cons last rest =>
    have images : (Waiting.map g ⟨last :: rest, patience⟩).runs =
        last.map g :: rest.map (Run.map g) := rfl
    have start : (last.map g).start = last.start := rfl
    have length (r : Run α) : (r.map g).items.length = r.items.length := List.length_map _
    simp only [push, images, start, length, List.length_cons, List.length_map, map_settle,
      bind_map_left, map_bind]
    apply bind_congr
    rintro ⟨settled, left⟩
    cases settled with
    | nil => simp [Waiting.map]
    | cons next more => simp [Waiting.map, Run.map]

theorem map_mergeAll (fuel : Nat) (w : Waiting α) : mergeAll lt fuel (w.map g) =
    List.map g <$> mergeAll (fun a b => lt (g a) (g b)) fuel w := by
  induction fuel generalizing w with
  | zero => simp [mergeAll, Waiting.map, Run.map, List.map_flatten, Function.comp_def]
  | succ fuel ih =>
    obtain ⟨runs, patience⟩ := w
    match runs with
    | [] => simp [mergeAll, Waiting.map]
    | [a] => simp [mergeAll, Waiting.map, Run.map]
    | [b, a] =>
      simp only [mergeAll, Waiting.map, List.map_cons, List.map_nil, map_mergePair]
      simp [Run.map]
    | c :: b :: a :: rest =>
      simp only [mergeAll, Waiting.map, List.map_cons, map_mergePair]
      by_cases shorter : a.items.length < c.items.length
      · have shorterToo : (a.map g).items.length < (c.map g).items.length := by
          simpa [Run.map] using shorter
        simp only [shorter, shorterToo, if_true, bind_map_left, map_bind]
        apply bind_congr
        rintro ⟨merged, left⟩
        exact ih ⟨c :: merged :: rest, left⟩
      · have notToo : ¬ (a.map g).items.length < (c.map g).items.length := by
          simpa [Run.map] using shorter
        simp only [shorter, notToo, if_false, bind_map_left, map_bind]
        apply bind_congr
        rintro ⟨merged, left⟩
        exact ih ⟨merged :: a :: rest, left⟩

theorem map_gather (total fuel : Nat) (xs : List α) (w : Waiting α) :
    gather lt total fuel (xs.map g) (w.map g) =
      Waiting.map g <$> gather (fun a b => lt (g a) (g b)) total fuel xs w := by
  induction fuel generalizing xs w with
  | zero => simp [gather]
  | succ fuel ih =>
    simp only [gather, map_nextRun, bind_map_left, map_bind]
    apply bind_congr
    rintro ⟨run, rest⟩
    simp only [Prod.map, map_push, bind_map_left, List.isEmpty_map]
    apply bind_congr
    intro pushed
    split
    · simp
    · exact ih rest pushed

theorem map_ascending (xs : List α) : ascending lt (xs.map g) =
    List.map g <$> ascending (fun a b => lt (g a) (g b)) xs := by
  cases xs with
  | nil => simp [ascending]
  | cons x xs =>
    have nothing : (⟨[], Merging.streak⟩ : Waiting β) = Waiting.map g ⟨[], Merging.streak⟩ := rfl
    simp only [ascending, List.map_cons, map_bind, ← map_mergeAll, List.length_cons,
      List.length_map]
    rw [nothing, ← List.map_cons, map_gather, bind_map_left]

theorem map_descending (xs : List α) : descending lt (xs.map g) =
    List.map g <$> descending (fun a b => lt (g a) (g b)) xs := by
  simp [descending, ← List.map_reverse, map_ascending]

/-- A sort comes to an end where its items can be compared. -/
theorem succeeds_descending_of_mem {ε : Type} {lt : α → α → Except ε Bool} {xs : List α}
    (each : ∀ a ∈ xs, ∀ b ∈ xs, Succeeds (lt a b)) : Succeeds (descending lt xs) := by
  obtain ⟨out, sorted⟩ := succeeds_descending
    (fun a b : { x // x ∈ xs } => each a a.2 b b.2) xs.attach
  have images := map_descending Subtype.val lt xs.attach
  rw [List.attach_map_subtype_val, sorted] at images
  exact ⟨_, images⟩

end MetricDesk.Sorting

namespace MetricDesk.Quantity

variable {α β γ : Type} [Quantity α]

/-- The images of items are ranked as the items are by the keys of their images. -/
theorem map_descending (g : γ → β) (key : β → α) (items : List γ) :
    descending key (items.map g) = List.map g <$> descending (fun c => key (g c)) items := by
  simp only [descending, List.all_map, Function.comp_def]
  split
  · have sorted := List.map_mergeSort (l := items) (f := g)
      (r := fun a b => !isLess (key (g a)) (key (g b))) (s := fun a b => !isLess (key a) (key b))
      fun _ _ _ _ => rfl
    rw [← sorted]
    rfl
  · rw [Sorting.map_descending]

/-- Items are ranked where the keys of any two of them can be compared. -/
theorem succeeds_descending_of_mem {key : β → α} {items : List β}
    (each : ∀ a ∈ items, ∀ b ∈ items, Succeeds (lt (key a) (key b))) :
    Succeeds (descending key items) := by
  unfold descending
  split
  · exact .ok _
  · exact Sorting.succeeds_descending_of_mem each

/-- Items that are alike are ranked alike. -/
theorem agree_descending {same : β → γ → Prop} {key : β → α} {keyToo : γ → α} {items : List β}
    {others : List γ} (alike : List.Forall₂ same items others)
    (keys : ∀ b c, same b c → key b = keyToo c) :
    Agree (List.Forall₂ same) (descending key items) (descending keyToo others) := by
  -- Both lists are images of the list of the pairs, whose order decides.
  obtain ⟨pairs, rfl, rfl⟩ : ∃ pairs : List { p : β × γ // same p.1 p.2 },
      pairs.map (·.1.1) = items ∧ pairs.map (·.1.2) = others := by
    induction alike with
    | nil => exact ⟨[], rfl, rfl⟩
    | cons first _ ih =>
      obtain ⟨pairs, rfl, rfl⟩ := ih
      exact ⟨⟨(_, _), first⟩ :: pairs, rfl, rfl⟩
  rw [map_descending, map_descending]
  have level : (fun p : { p : β × γ // same p.1 p.2 } => key p.1.1) = fun p => keyToo p.1.2 :=
    funext fun p => keys _ _ p.2
  rw [level]
  cases descending (fun p : { p : β × γ // same p.1 p.2 } => keyToo p.1.2) pairs with
  | error failure => exact .error failure
  | ok ranked =>
    apply Agree.ok
    rw [List.forall₂_map_left_iff, List.forall₂_map_right_iff]
    exact List.forall₂_same.mpr fun p _ => p.2

end MetricDesk.Quantity
