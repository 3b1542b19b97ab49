import MetricDesk.Proofs.Analysis.Breakdowns
import MetricDesk.Proofs.Calendar.Iso
import MetricDesk.Proofs.Series.Reordering
import MetricDesk.Warehouse.Read

/-! Days of warehouse rows. Main statement: `Recipe.rows_redated_iff`, the rows of a series do not
depend on how its source tells days, unless they are labelled with the day itself. -/
namespace MetricDesk

/-- A cell stands for a day: it is the day, a moment of it, or the text of either. -/
inductive Value.Tells (d : Date) : Value → Prop where
  | day : Tells d (.day d)
  | moment {m : Moment} (of : m.day = d) : Tells d (.moment m)
  | dayText : Tells d (.str d.iso)
  | momentText {m : Moment} (of : m.day = d) : Tells d (.str m.iso)

namespace Value.Tells

variable {d : Date} {v : Value}

theorem dayText_eq (h : v.Tells d) : MetricDesk.dayText v = d.iso := by
  have cut (s : String) : MetricDesk.dayText (.str s) = String.ofList (s.toList.take 10) := rfl
  cases h with
  | day => rfl
  | moment of => rw [MetricDesk.dayText, of]
  | dayText => rw [cut, d.take_iso, String.ofList_toList]
  | momentText of => rw [cut, Moment.take_iso, of, String.ofList_toList]

/-- As a plain value it stands for the same day. -/
theorem exists_plain (h : v.Tells d) : ∃ w, Warehouse.plain v = .ok w ∧ w.Tells d := by
  cases h with
  | day => exact ⟨_, rfl, .dayText⟩
  | moment of => exact ⟨_, rfl, .momentText of⟩
  | dayText => exact ⟨_, rfl, .dayText⟩
  | momentText of => exact ⟨_, rfl, .momentText of⟩

end Value.Tells

/-- A row as it was, or with its day told in another way. -/
inductive Fields.Redated : Fields → Fields → Prop where
  | same (row : Fields) : Redated row row
  | told {row : Fields} {d : Date} {v w : Value} (found : row.get? "date" = some v)
      (one : v.Tells d) (other : w.Tells d) : Redated row (row.put "date" w)

/-- An answer with its days told in other ways. -/
inductive SourceAnswer.Redated : SourceAnswer → SourceAnswer → Prop where
  | rows {rows others : List Fields} (each : List.Forall₂ Fields.Redated rows others) :
      Redated (.rows rows) (.rows others)
  | fails (failure : Failure) : Redated (.fails failure) (.fails failure)
  | stalls : Redated .stalls .stalls

/-- A source that tells days in other ways, those of some rows or of all. -/
def Source.Redated (source other : Source) : Prop := ∀ q, (source q).Redated (other q)

/-! ### Rows that are not labelled with their day -/

namespace SeriesRow

/-- The label that a warehouse row has for a breakdown. -/
def labelIn (row : Fields) (b : String) : Value :=
  match Value.getD row b with
  | .null => .str ""
  | v => v

theorem ofFields_eq (breakdowns : List String) (row : Fields) :
    ofFields breakdowns row = (Value.getD row "value").measured.map fun value =>
      ⟨dayText (Value.getD row "date"),
        Fields.ofEntries (breakdowns.map fun b => (b, labelIn row b)), value⟩ := by
  unfold ofFields
  cases (Value.getD row "value").measured <;> rfl

theorem ofFields_redated {breakdowns : List String} (apart : "date" ∉ breakdowns)
    {row other : Fields} (h : row.Redated other) :
    ofFields breakdowns other = ofFields breakdowns row := by
  cases h with
  | same => rfl
  | @told d v w found one told =>
    have beside {key : String} (ne : key ≠ "date") :
        Value.getD (row.put "date" w) key = Value.getD row key := by
      rw [Value.getD, Fields.get?_put, if_neg ne, Value.getD]
    have day : dayText (Value.getD (row.put "date" w) "date") =
        dayText (Value.getD row "date") := by
      rw [Value.getD, Value.getD, Fields.get?_put, if_pos rfl, found]
      exact told.dayText_eq.trans one.dayText_eq.symm
    have labels : (breakdowns.map fun b => (b, labelIn (row.put "date" w) b)) =
        breakdowns.map fun b => (b, labelIn row b) := by
      apply List.map_congr_left
      intro b mem
      rw [labelIn, beside fun same => apart (same ▸ mem), labelIn]
    rw [ofFields_eq, ofFields_eq, day, beside (show "value" ≠ "date" by decide), labels]

end SeriesRow

theorem Query.fetch_redated {q : Query} (apart : "date" ∉ q.breakdowns) {source other : Source}
    (h : source.Redated other) : q.fetch other = q.fetch source := by
  have answers := h q
  unfold fetch
  generalize source q = answer at answers ⊢
  generalize other q = again at answers ⊢
  cases answers with
  | rows each =>
    apply congrArg Outcome.ofExcept
    induction each with
    | nil => rfl
    | cons first _ ih =>
      rw [List.mapM_cons, List.mapM_cons, SeriesRow.ofFields_redated apart first, ih]
  | fails => rfl
  | stalls => rfl

/-! ### Rows that are -/

theorem Fields.get?_foldl_put {entries : Fields} {key : String} {v : Value}
    (each : ∀ e ∈ entries, e.1 = key → e.2 = v) {start : Fields}
    (there : (∃ e ∈ entries, e.1 = key) ∨ start.get? key = some v) :
    Fields.get? (entries.foldl (fun fields (k, v) => fields.put k v) start) key = some v := by
  induction entries generalizing start with
  | nil => exact there.resolve_left fun ⟨_, mem, _⟩ => nomatch mem
  | cons e rest ih =>
    rw [List.foldl_cons]
    apply ih fun f mem => each f (List.mem_cons_of_mem _ mem)
    rw [Fields.get?_put]
    by_cases here : key = e.1
    · rw [if_pos here, each e List.mem_cons_self here.symm]
      exact Or.inr rfl
    · rw [if_neg here]
      refine there.imp_left fun ⟨f, mem, named⟩ => ⟨f, ?_, named⟩
      exact (List.mem_cons.mp mem).resolve_left fun same => here (same ▸ named.symm)

/-- One day on which nothing was measured, told by a cell, whatever is asked for. -/
def quietDay (cell : Value) : Fields := [("date", cell), ("value", .dbl .zero)]

/-- A source with nothing else. -/
def Source.quiet (cell : Value) : Source := fun _ => .rows [quietDay cell]

theorem Source.quiet_redated {d : Date} {v w : Value} (one : v.Tells d) (other : w.Tells d) :
    (quiet v).Redated (quiet w) := by
  have told : Fields.Redated (quietDay v) ((quietDay v).put "date" w) := .told rfl one other
  exact fun _ => .rows (.cons told .nil)

namespace SeriesRow

/-- What is fetched of such a day. -/
def quiet (breakdowns : List String) (cell : Value) : SeriesRow Double :=
  ⟨dayText cell, Fields.ofEntries (breakdowns.map fun b => (b, labelIn (quietDay cell) b)), .zero⟩

theorem fetch_quiet (q : Query) (cell : Value) :
    q.fetch (Source.quiet cell) = .done [quiet q.breakdowns cell] := by
  apply Query.fetch_eq_done rfl
  rw [List.mapM_cons, ofFields_eq]
  rfl

/-- A breakdown takes the place of a field of its name. -/
theorem get?_quiet {breakdowns : List String} {cell v : Value} (key : String)
    (label : labelIn (quietDay cell) key = v) (there : key ∈ breakdowns ∨
      Fields.get? [("date", .str (dayText cell)), ("value", .dbl .zero)] key = some v) :
    Fields.get? (quiet breakdowns cell).toFields key = some v := by
  apply Fields.get?_foldl_put
  · intro e mem named
    obtain ⟨b, -, rfl⟩ := List.mem_map.mp (Fields.mem_ofEntries _ e mem)
    rw [← label, ← named]
  · refine there.imp_left fun asked => ?_
    have found := Fields.get?_ofEntries_map (labelIn (quietDay cell)) breakdowns key
    rw [if_pos asked] at found
    obtain ⟨e, here, -⟩ := Option.map_eq_some_iff.mp found
    exact ⟨e, List.mem_of_find?_eq_some here, by simpa using List.find?_some here⟩

end SeriesRow

namespace Cells

variable {breakdowns : List String}

/-- A share is left out where its day has no total or no sum. -/
theorem split?_eq_none {totals : List (Value × Value)} {sums : List (Value × Double)}
    {row day share : Value} (shared : shareOf row = .ok (day, share)) :
    split? breakdowns totals sums row = .ok none ↔
      lookUp totals day = none ∨ lookUp sums day = none := by
  rw [split?, shared]
  simp only [bind, Except.bind]
  cases lookUp totals day with
  | none => exact iff_of_true rfl (.inl rfl)
  | some total =>
    cases lookUp sums day with
    | none => exact iff_of_true rfl (.inr rfl)
    | some all =>
      refine iff_of_false ?_ (by simp)
      intro left
      obtain ⟨labels, -, left⟩ := exists_of_bind left
      obtain ⟨part, -, left⟩ := exists_of_bind left
      cases left

/-- What there is to split on such a day. -/
def quietTotals (cell : Value) : List Value := [.obj (SeriesRow.quiet [] cell).toFields]

/-- What it is split by. -/
def quietShares (breakdowns : List String) (cell : Value) : List Value :=
  [.obj (SeriesRow.quiet breakdowns cell).toFields]

theorem totals_quiet (cell : Value) : (quietTotals cell).mapM totalOf =
    .ok [(.str (dayText cell), .dbl .zero)] := by
  rfl

variable (asked : "date" ∈ breakdowns)
include asked

theorem shareOf_quiet {d : Date} {cell : Value} (tells : cell.Tells d) :
    shareOf (.obj (SeriesRow.quiet breakdowns cell).toFields) = .ok (cell, .dbl .zero) := by
  have label : SeriesRow.labelIn (quietDay cell) "date" = cell := by cases tells <;> rfl
  have keyed : cell.keyed = .ok () := by cases tells <;> rfl
  rw [shareOf, require_eq_ok (SeriesRow.get?_quiet "date" label (.inl asked)),
    require_eq_ok (SeriesRow.get?_quiet "value" rfl (.inr rfl))]
  change (cell.keyed >>= fun _ => _) = _
  rw [keyed]
  rfl

/-- The totals of the texts of days are split by the shares of the days themselves. -/
theorem apportion_quiet {d : Date} {cell : Value} (tells : cell.Tells d) :
    ∃ sum, apportion breakdowns (quietTotals cell) (quietShares breakdowns cell) = (do
      let rows ← (quietShares breakdowns cell).filterMapM
        (split? breakdowns [(.str (dayText cell), .dbl .zero)] [(cell, sum)])
      return (← Sorting.ascending (fun a b => Value.lt a.1 b.1) rows).map (·.2)) := by
  have sums : (quietShares breakdowns cell).foldlM (fun sums row => do
      let share ← shareOf row
      addShare sums share.1 share.2) [] = .ok [(cell, Double.zero.add .zero)] := by
    rw [quietShares, List.foldlM_cons, shareOf_quiet asked tells]
    rfl
  refine ⟨Double.zero.add .zero, ?_⟩
  rw [apportion, totals_quiet]
  change ((quietShares breakdowns cell).foldlM (_ : _ → _ → Except Failure _) [] >>= _) = _
  rw [sums]
  rfl

/-- A share on the day itself has no total, which is on the text of it. -/
theorem apportion_quiet_day (d : Date) :
    apportion breakdowns (quietTotals (.day d)) (quietShares breakdowns (.day d)) = .ok [] := by
  obtain ⟨sum, made⟩ := apportion_quiet asked (.day (d := d))
  have unlike : lookUp [(.str (dayText (.day d)), Value.dbl .zero)] (.day d) = none := by
    simp [lookUp, Value.same, Value.number?, Value.comparable?]
  rw [made, quietShares, List.filterMapM_cons,
    (split?_eq_none (shareOf_quiet asked .day)).mpr (.inl unlike)]
  rfl

theorem apportion_quiet_text (d : Date) : apportion breakdowns (quietTotals (.str d.iso))
    (quietShares breakdowns (.str d.iso)) ≠ .ok [] := by
  obtain ⟨sum, made⟩ := apportion_quiet asked (.dayText (d := d))
  intro none
  rw [made] at none
  obtain ⟨rows, split, none⟩ := exists_of_bind none
  obtain ⟨ordered, ascends, none⟩ := exists_of_bind none
  obtain rfl : ordered = [] := List.map_eq_nil_iff.mp (Except.ok.inj none)
  obtain rfl := (Sorting.perm_ascending ascends).nil_eq
  rw [quietShares, List.filterMapM_cons] at split
  obtain ⟨first, splits, split⟩ := exists_of_bind split
  cases first with
  | some => obtain ⟨rest, -, split⟩ := exists_of_bind split; cases split
  | none =>
    rcases (split?_eq_none (shareOf_quiet asked .dayText)).mp splits with total | all
    · rw [Value.Tells.dayText.dayText_eq] at total
      simp [lookUp, Value.same] at total
    · simp [lookUp, Value.same] at all

end Cells

/-! ### Series -/

namespace Recipe

variable {q : Query} {r : Recipe}

theorem rows_redated (apart : ∀ need ∈ r.needs, "date" ∉ need.breakdowns)
    {source other : Source} (h : source.Redated other) : r.rows other = r.rows source := by
  have fetched : r.needs.map (Query.fetch other) = r.needs.map (Query.fetch source) := by
    apply List.map_congr_left
    intro need mem
    exact Query.fetch_redated (apart need mem) h
  rw [rows, fetched, rows]

/-- Labelled with the day, a series comes out otherwise where one day is told by its text. -/
theorem rows_quiet_ne (made : Recipe.of q = .ok r) (metric : q.metric ≠ Metric.arpdau.name)
    (asked : "date" ∈ q.breakdowns) (d : Date) :
    r.rows (Source.quiet (.str d.iso)) ≠ r.rows (Source.quiet (.day d)) := by
  intro same
  rcases of_cases made with ⟨rfl, -⟩ | ⟨total, shares, rfl, whole, groups, -⟩ |
    ⟨-, -, -, -, -, perUser⟩
  · have shown (cell : Value) : (Recipe.native q).rows (Source.quiet cell) =
        .done [(SeriesRow.quiet q.breakdowns cell).toFields] := by
      rw [rows, needs, List.map_singleton, SeriesRow.fetch_quiet]
      rfl
    rw [shown, shown, Outcome.done.injEq, List.cons.injEq] at same
    have text : Fields.get? (SeriesRow.quiet q.breakdowns (.str d.iso)).toFields "date" =
        some (.str d.iso) := SeriesRow.get?_quiet "date" rfl (.inl asked)
    rw [same.1, SeriesRow.get?_quiet "date" rfl (.inl asked)] at text
    cases text
  · have shown (cell : Value) : (Recipe.apportioned total shares).rows (Source.quiet cell) =
        .ofExcept (Cells.apportion q.breakdowns (Cells.quietTotals cell)
          (Cells.quietShares q.breakdowns cell)) := by
      rw [rows, needs, List.map_cons, List.map_singleton, SeriesRow.fetch_quiet,
        SeriesRow.fetch_quiet, whole, groups, ← groups]
      rfl
    rw [shown, shown, Cells.apportion_quiet_day asked] at same
    apply Cells.apportion_quiet_text asked d
    generalize Cells.apportion _ _ _ = made at same
    cases made with
    | ok rows => cases same; rfl
    | error => cases same
  · exact metric perUser

/-- The rows of a series do not depend on how a source tells its days, by day, by a moment of it or
by the text of either, exactly where they are not labelled by a breakdown that is named like the
day. All of these are the day's text in a row, and stay what they are as plain values. -/
theorem rows_redated_iff (made : Recipe.of q = .ok r) :
    (∀ d v, Value.Tells d v → dayText v = d.iso ∧ ∃ w, Warehouse.plain v = .ok w ∧ w.Tells d) ∧
      ((∀ source other, Source.Redated source other → r.rows other = r.rows source) ↔
        (q.metric = Metric.arpdau.name ∨ "date" ∉ q.breakdowns)) := by
  refine ⟨fun d v tells => ⟨tells.dayText_eq, tells.exists_plain⟩, ?_, ?_⟩
  · intro same
    by_contra! ⟨metric, asked⟩
    exact rows_quiet_ne made metric asked firstOfMarch.window.start
      (same _ _ (Source.quiet_redated .day .dayText))
  · intro apart source other h
    apply rows_redated _ h
    rcases of_cases made with ⟨rfl, metric⟩ | ⟨total, shares, rfl, whole, groups, metric⟩ |
      ⟨value, divisor, rfl, whole, wholeToo, -⟩
    · exact List.forall_mem_singleton.mpr (apart.resolve_left metric)
    · simp only [needs, List.forall_mem_cons, whole, groups]
      exact ⟨List.not_mem_nil, apart.resolve_left metric, by simp⟩
    · simp only [needs, List.forall_mem_cons, whole, wholeToo]
      exact ⟨List.not_mem_nil, List.not_mem_nil, by simp⟩

/-- Revenue of a day, and its users, whose day is told by a cell. -/
def visited (cell : Value) : Source := fun q => .rows
  (if q.metric = Metric.revenue.name then
    [[("date", .str secondOfMarch.iso), ("value", .nat 10)]]
  else [[("date", cell), ("value", .nat 3)]])

theorem visited_redated {v w : Value} (one : v.Tells secondOfMarch)
    (other : w.Tells secondOfMarch) : (visited v).Redated (visited w) := by
  intro q
  by_cases revenue : q.metric = Metric.revenue.name
  · simp only [visited, if_pos revenue]
    exact .rows (.cons (.same _) .nil)
  · simp only [visited, if_neg revenue]
    have told : Fields.Redated [("date", v), ("value", .nat 3)]
        (Fields.put [("date", v), ("value", .nat 3)] "date" w) := .told rfl one other
    exact .rows (.cons told .nil)

/-- Late on a day, by a clock that is behind universal time. -/
def lateOnSecond : Moment := ⟨secondOfMarch, 23, 59, 59, 999999, some (-18000)⟩

/-- By country it is the same revenue whether its users are of the day or of a moment late on it,
or of the text of that moment. -/
theorem rows_visited : ∃ r, Recipe.of firstOfMarch = .ok r ∧ "date" ∉ firstOfMarch.breakdowns ∧
    r.rows (visited (.moment lateOnSecond)) = r.rows (visited (.day secondOfMarch)) ∧
    r.rows (visited (.str "2025-03-02T23:59:59.999999-05:00")) =
      r.rows (visited (.moment lateOnSecond)) := by
  have made : Recipe.of firstOfMarch = .ok (.apportioned { firstOfMarch with breakdowns := [] }
      { firstOfMarch with metric := Metric.dau.name }) := rfl
  have apart : "date" ∉ firstOfMarch.breakdowns := by decide
  have same := (rows_redated_iff made).2.mpr (.inr apart)
  have text : lateOnSecond.iso = "2025-03-02T23:59:59.999999-05:00" := by decide +kernel
  refine ⟨_, made, apart, same _ _ (visited_redated .day (.moment rfl)), ?_⟩
  rw [← text]
  exact same _ _ (visited_redated (.moment rfl) (.momentText rfl))

/-- Revenue by the day itself. -/
def byDate : Query := { firstOfMarch with breakdowns := ["date"] }

/-- Users of a day find no revenue, which is on the text of it. -/
theorem rows_byDate : ∃ r, Recipe.of byDate = .ok r ∧
    (visited (.day secondOfMarch)).Redated (visited (.str secondOfMarch.iso)) ∧
    r.rows (visited (.day secondOfMarch)) = .done [] ∧
    r.rows (visited (.str secondOfMarch.iso)) ≠ .done [] := by
  refine ⟨.apportioned { byDate with breakdowns := [] } { byDate with metric := Metric.dau.name },
    rfl, visited_redated .day .dayText, rfl, fun none => ?_⟩
  have kept : ((Recipe.apportioned { byDate with breakdowns := [] }
      { byDate with metric := Metric.dau.name }).rows
        (visited (.str secondOfMarch.iso))).done?.any List.isEmpty = false := by decide +kernel
  rw [none] at kept
  cases kept

end Recipe
end MetricDesk
