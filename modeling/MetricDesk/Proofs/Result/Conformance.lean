import MetricDesk.Proofs.Analysis.Consistency
import MetricDesk.Proofs.Result.Acceptance
import MetricDesk.Proofs.Series.Labels

/-! Executions against the check of their results. Main statement: `validate_of_execute`, the result
of a validated plan over named rows passes the check and comes back as it was, if its numbers are
finite. -/
namespace MetricDesk
open Clause (isFilled)

/-! ### Rows that stay as they are on the wire -/

/-- Whatever stands in a row stands in its wire form. -/
def Fields.Plain (row : Fields) : Prop := ∀ f ∈ row, f.2.wire = f.2

theorem Fields.Plain.wireFields_eq {row : Fields} (h : Plain row) : Value.wireFields row = row := by
  induction row with
  | nil => rfl
  | cons f rest ih =>
    obtain ⟨here, there⟩ := List.forall_mem_cons.mp h
    rw [Value.wireFields, here, ih there]

theorem Fields.Worded.plain {labels : Fields} (h : Fields.Worded labels) : Plain labels := by
  intro f mem
  obtain ⟨s, same⟩ := h f mem
  rw [same]
  rfl

theorem Fields.Plain.put {row : Fields} (h : Plain row) (key : String) {x : Double}
    (finite : x.isFinite = true) : Plain (row.put key (.dbl x)) := by
  intro f mem
  rcases mem_put mem with rfl | mem
  · rw [Value.wire_dbl, if_pos finite]
  · exact h f mem

theorem map_wireFields_eq {rows : List Fields} (plain : ∀ row ∈ rows, Fields.Plain row) :
    rows.map Value.wireFields = rows := by
  rw [List.map_congr_left fun row mem => (plain row mem).wireFields_eq, List.map_id']

/-! ### Rows of an execution -/

/-- Groups of named rows have strings for labels. -/
theorem Analysis.Steps.worded {plan : Plan} {s : PlanSeries Double} {a : Analysis Double}
    (steps : Steps plan s a) (named : ∀ row ∈ s.groups, row.Named) :
    (∀ row ∈ a.table, Fields.Worded row.labels) ∧
      ∀ row ∈ a.attribution, Fields.Worded row.labels := by
  apply steps.of_groups
  intro row listed
  apply Fields.worded_ofEntries
  intro e mem
  obtain ⟨b, -, rfl⟩ := List.mem_map.mp mem
  exact (named row listed).label b

namespace Execution

variable {source : Source} {question tenant : String} {plan : Plan} {today : Date} {r : Result}

/-- Rows with strings for labels and finite numbers are the same on the wire. -/
theorem plain_of_execute (named : Source.Named source)
    (done : execute source question tenant plan today = .done r)
    (finite : ∀ x ∈ r.numbers, x.isFinite = true) :
    (∀ row ∈ r.table, Fields.Plain row) ∧ ∀ row ∈ r.attribution, Fields.Plain row := by
  obtain ⟨w, s, a, fetched, made, rfl⟩ := exists_fetched done
  obtain ⟨-, groups⟩ := named_of_fetch named fetched
  obtain ⟨table, attribution⟩ := (Analysis.steps_of_ofSeries made).worded groups
  constructor
  · intro row mem
    obtain ⟨group, listed, rfl⟩ := List.mem_map.mp mem
    apply (table group listed).plain.put
    apply finite
    exact Result.mem_numbers_table mem List.mem_cons_self (TableRow.get?_toFields group)
  · intro row mem
    obtain ⟨group, listed, rfl⟩ := List.mem_map.mp mem
    obtain ⟨current, previous, delta⟩ := AttributionRow.get?_toFields group
    have number {k : String} {x : Double} (key : k ∈ Result.attributionNumbers)
        (found : Fields.get? (group.toFields .dbl) k = some (.dbl x)) : x.isFinite = true :=
      finite x (Result.mem_numbers_attribution mem key found)
    exact (((attribution group listed).plain.put "current" (number (by decide) current)).put
      "previous" (number (by decide) previous)).put "delta" (number (by decide) delta)

/-- The days of an execution over named rows are not blank. -/
theorem filled_of_execute (named : Source.Named source)
    (done : execute source question tenant plan today = .done r) :
    ∀ p ∈ r.series, isFilled (.str p.date) = true := by
  obtain ⟨w, s, a, fetched, made, rfl⟩ := exists_fetched done
  obtain ⟨current, -⟩ := named_of_fetch named fetched
  intro p mem
  obtain ⟨row, listed, rfl⟩ := List.mem_map.mp mem
  rw [(Analysis.steps_of_ofSeries made).series] at listed
  exact (current row listed).day

theorem conforms_of_execute (asked : isFilled (.str question) = true)
    (owned : isFilled (.str tenant) = true) (named : Source.Named source)
    (done : execute source question tenant plan today = .done r)
    (finite : ∀ x ∈ r.numbers, x.isFinite = true) : r.Conforms := by
  obtain ⟨sameQuestion, sameTenant, -⟩ := execute_done done
  obtain ⟨table, attribution⟩ := rows_of_execute done
  have days := filled_of_execute named done
  have numbers (x : Double) (mem : x ∈ r.numbers) : x.isNan = false :=
    Double.isNan_of_isFinite (finite x mem)
  refine
    { question := by rw [sameQuestion]; exact asked
      tenant := by rw [sameTenant]; exact owned
      summary := ?_, series := ?_, table := ?_, attribution := ?_ }
  · intro x mem
    exact numbers x (Result.mem_numbers_summary mem)
  · intro p mem
    exact ⟨days p mem, numbers p.value (Result.mem_numbers_series mem)⟩
  · intro row mem k key
    obtain ⟨x, found⟩ := (table row mem).doubles k key
    exact ⟨x, found, finite x (Result.mem_numbers_table mem key found)⟩
  · intro row mem k key
    obtain ⟨x, found⟩ := (attribution row mem).doubles k key
    exact ⟨x, found, finite x (Result.mem_numbers_attribution mem key found)⟩

/-- The result of a validated plan, for a question and a tenant that are not blank and over named
rows, passes its check and comes back as it was, if its numbers are finite. -/
theorem validate_of_execute {candidate : Value} (validated : Plan.validate candidate = .ok plan)
    (asked : isFilled (.str question) = true) (owned : isFilled (.str tenant) = true)
    (named : Source.Named source) (done : execute source question tenant plan today = .done r)
    (finite : ∀ x ∈ r.numbers, x.isFinite = true) : Result.validate r.toValue = .ok r := by
  obtain ⟨table, attribution⟩ := rows_of_execute done
  obtain ⟨plainTable, plainAttribution⟩ := plain_of_execute named done finite
  have valid : r.plan.Valid := by
    rw [(execute_done done).2.2]
    exact Plan.valid_of_validate validated
  have conforms := conforms_of_execute asked owned named done finite
  have wired : r.wired = r := by
    rw [Result.wired, map_wireFields_eq plainTable, map_wireFields_eq plainAttribution]
  rw [(Result.validate_iff valid table attribution).1 conforms, wired]

theorem label_usersOn {day : String} {labels : Fields} {users : Nat} (worded : Fields.Worded labels)
    {b : String} (mem : b ∈ Plan.breakdownNames) :
    Value.getD (usersOn day labels users) b = .null ∨
      ∃ s, Value.getD (usersOn day labels users) b = .str s := by
  have notDate : "date" ≠ b := by rintro rfl; exact absurd mem (by decide)
  have notValue : "value" ≠ b := by rintro rfl; exact absurd mem (by decide)
  rw [Value.getD, usersOn, Fields.get?_cons, if_neg notDate, Fields.get?_cons, if_neg notValue]
  cases found : Fields.get? labels b with
  | none => exact Or.inl rfl
  | some v =>
    obtain ⟨f, there, rfl⟩ := Option.map_eq_some_iff.mp found
    exact Or.inr (worded f (List.mem_of_find?_eq_some there))

theorem named_twoDays : Source.Named twoDays := by
  intro q rows answered row mem
  have country (c : String) : Fields.Worded [("country", .str c)] :=
    List.forall_mem_singleton.mpr ⟨c, rfl⟩
  have none : Fields.Worded [] := by rintro f ⟨⟩
  cases answered
  split at mem
  · obtain rfl := List.mem_singleton.mp mem
    exact ⟨fun b => label_usersOn none, by decide⟩
  · rcases List.mem_pair.mp mem with rfl | rfl
    · exact ⟨fun b => label_usersOn (country "DE"), by decide⟩
    · exact ⟨fun b => label_usersOn (country "US"), by decide⟩
  · obtain rfl := List.mem_singleton.mp mem
    exact ⟨fun b => label_usersOn none, by decide⟩
  · rcases List.mem_pair.mp mem with rfl | rfl
    · exact ⟨fun b => label_usersOn (country "US"), by decide⟩
    · exact ⟨fun b => label_usersOn (country "DE"), by decide⟩

theorem validate_twoDays : ∃ r,
    Plan.validate usersByCountry.toValue = .ok usersByCountry ∧
      isFilled (.str "users by country") = true ∧ isFilled (.str "game-1") = true ∧
      Source.Named twoDays ∧
      execute twoDays "users by country" "game-1" usersByCountry lastOfFebruary = .done r ∧
      (∀ x ∈ r.numbers, x.isFinite = true) ∧ Result.validate r.toValue = .ok r := by
  obtain ⟨r, done, finite, -⟩ := execute_twoDays
  have validated : Plan.validate usersByCountry.toValue = .ok usersByCountry := by rfl
  have asked : isFilled (.str "users by country") = true := by decide
  have owned : isFilled (.str "game-1") = true := by decide
  exact ⟨r, validated, asked, owned, named_twoDays, done, finite,
    validate_of_execute validated asked owned named_twoDays done finite⟩

end Execution
end MetricDesk
