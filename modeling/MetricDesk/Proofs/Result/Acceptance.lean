import MetricDesk.Proofs.Analysis.Rows
import MetricDesk.Proofs.Plan.Validity
import MetricDesk.Proofs.Result.Wire

/-! Which results pass their check. Main statements: `validate_cleared`, a result with a valid plan
passes iff its wire form meets every clause; and `validate_iff`, the result of an execution passes
iff it conforms, and otherwise its violations are reported. -/
namespace MetricDesk

/-- What the check demands of a result beyond what every execution gives: words in the question, the
tenant and the dates, and numbers that are numbers; in the rows they are finite as well. -/
structure Result.Conforms (r : Result) : Prop where
  question : Clause.isFilled (.str r.question) = true
  tenant : Clause.isFilled (.str r.tenant) = true
  summary : ∀ x ∈ r.summary.numbers, x.isNan = false
  series : ∀ p ∈ r.series, Clause.isFilled (.str p.date) = true ∧ p.value.isNan = false
  table : ∀ row ∈ r.table, ∀ k ∈ Result.tableNumbers,
    ∃ x, Fields.get? row k = some (.dbl x) ∧ x.isFinite = true
  attribution : ∀ row ∈ r.attribution, ∀ k ∈ Result.attributionNumbers,
    ∃ x, Fields.get? row k = some (.dbl x) ∧ x.isFinite = true

/-- What the check demands of a row: numbers under some keys, and beside them only breakdowns. -/
structure Result.RowClear (numbers : List String) (row : Fields) : Prop where
  measured : ∀ k ∈ numbers, Clause.isNumber (Value.getD row k) = true
  keys : ∀ k ∈ row.keys, k ∈ numbers ∨ k ∈ Plan.breakdownNames

/-- What the check demands of the wire form of a result with a valid plan. -/
structure Result.Cleared (r : Result) : Prop where
  question : Clause.isFilled (.str r.question) = true
  tenant : Clause.isFilled (.str r.tenant) = true
  summary : ∀ x ∈ r.summary.numbers, x.isNan = false
  series : ∀ p ∈ r.series, Clause.isFilled (.str p.date) = true ∧ p.value.isNan = false
  table : ∀ row ∈ r.table, RowClear tableNumbers (Value.wireFields row)
  attribution : ∀ row ∈ r.attribution, RowClear attributionNumbers (Value.wireFields row)

namespace Value

theorem keys_wireFields (row : Fields) : Fields.keys (wireFields row) = Fields.keys row := by
  induction row with
  | nil => rfl
  | cons f rest ih =>
    rw [wireFields, Fields.keys, List.map_cons]
    exact congrArg _ ih

theorem get?_wireFields (row : Fields) (k : String) :
    Fields.get? (wireFields row) k = (Fields.get? row k).map wire := by
  induction row with
  | nil => rfl
  | cons f rest ih =>
    obtain ⟨l, v⟩ := f
    rw [wireFields]
    unfold Fields.get? at ih ⊢
    rw [List.find?_cons, List.find?_cons]
    cases (l, v).1 == k with
    | true => rfl
    | false => exact ih

theorem wire_dbl (x : Double) : wire (.dbl x) = if x.isFinite then .dbl x else .null := rfl

end Value

namespace Result
open Clause

/-! ### Clauses of the parts -/

theorem numberClause_eq_nil {label : String} {v : Value} :
    numberClause label v = [] ↔ isNumber v = true := by
  unfold numberClause
  split <;> simp_all

theorem isNumber_dbl (x : Double) : isNumber (.dbl x) = !x.isNan := rfl

theorem optionalNumberClause_eq_nil {label : String} (o : Option Double) :
    optionalNumberClause label (.ofDouble? o) = [] ↔ ∀ x ∈ o, x.isNan = false := by
  cases o with
  | none => exact iff_of_true rfl (by rintro x ⟨⟩)
  | some x =>
    have only : (∀ y ∈ some x, y.isNan = false) ↔ x.isNan = false := by simp
    change (if isNumber (.dbl x) then [] else _) = [] ↔ _
    rw [isNumber_dbl, only]
    cases x.isNan <;> simp

theorem summaryClause_eq_nil (s : Summary) :
    summaryClause s.toValue = [] ↔ ∀ x ∈ s.numbers, x.isNan = false := by
  have clause : summaryClause s.toValue = numberClause "summary.value" (.dbl s.value) ++
      (optionalNumberClause "summary.previous" (.ofDouble? s.previous) ++
        (optionalNumberClause "summary.change" (.ofDouble? s.change) ++
          (optionalNumberClause "summary.changePct" (.ofDouble? s.changePercent) ++ []))) := rfl
  rw [clause]
  simp only [List.append_eq_nil_iff, numberClause_eq_nil, isNumber_dbl,
    optionalNumberClause_eq_nil, Summary.numbers, List.forall_mem_cons, Bool.not_eq_true']
  obtain ⟨value, previous, change, percent⟩ := s
  cases previous <;> cases change <;> cases percent <;> simp

theorem pointClause_eq_nil (i : Nat) (p : Point) :
    pointClause i p.toValue = [] ↔
      Clause.isFilled (.str p.date) = true ∧ p.value.isNan = false := by
  have clause : pointClause i p.toValue =
      (if isFilled (.str p.date) then []
        else [.notText ("timeseries[" ++ toString i ++ "]" ++ ".date")]) ++
      numberClause ("timeseries[" ++ toString i ++ "]" ++ ".value") (.dbl p.value) := rfl
  rw [clause, List.append_eq_nil_iff, numberClause_eq_nil, isNumber_dbl]
  cases isFilled (.str p.date) <;> simp

theorem rowClause_eq_nil {numbers : List String} {row : Fields} (label : String) (i : Nat) :
    rowClause label numbers i (.obj row) = [] ↔ RowClear numbers row := by
  simp only [rowClause, List.append_eq_nil_iff, List.flatMap_eq_nil_iff, numberClause_eq_nil]
  constructor
  · rintro ⟨all, known⟩
    refine ⟨all, fun k mem => ?_⟩
    have known := known k mem
    split at known
    · next allowed => simpa using allowed
    · cases known
  · rintro ⟨all, known⟩
    refine ⟨all, fun k mem => ?_⟩
    rw [if_pos (by simpa using known k mem)]

/-- On the wire a double is a number iff it is finite. -/
theorem isNumber_wire_dbl (x : Double) : isNumber (Value.wire (.dbl x)) = x.isFinite := by
  rw [Value.wire_dbl]
  cases x with
  | nan | infinite | finite => rfl

theorem rowClear_wireFields {numbers : List String} {row : Fields}
    (made : Fields.IsRow numbers row) : RowClear numbers (Value.wireFields row) ↔
      ∀ k ∈ numbers, ∃ x, Fields.get? row k = some (.dbl x) ∧ x.isFinite = true := by
  have number {k : String} {x : Double} (here : Fields.get? row k = some (.dbl x)) :
      isNumber (Value.getD (Value.wireFields row) k) = x.isFinite := by
    rw [Value.getD, Value.get?_wireFields, here]
    exact isNumber_wire_dbl x
  constructor
  · intro clear k mem
    obtain ⟨x, here⟩ := made.doubles k mem
    exact ⟨x, here, (number here).symm.trans (clear.measured k mem)⟩
  · intro finite
    refine ⟨fun k mem => ?_, by rw [Value.keys_wireFields]; exact made.keys⟩
    obtain ⟨x, here, isFinite⟩ := finite k mem
    exact (number here).trans isFinite

/-! ### The whole result -/

theorem contextClause_obj (fields : Fields) :
    contextClause (.obj fields) = (Plan.part Plan.violations fields "plan").map fun plan =>
      Clause.keys fields ["tenant_id", "plan"] "context"
        ++ onField fields "tenant_id" (filled "context.tenant_id")
        ++ plan.map .inPlan := by
  simp only [contextClause, Plan.part]
  cases Fields.get? fields "plan" with
  | none => rfl
  | some v =>
    change (Plan.violations v >>= _) = (Plan.violations v).map _
    cases Plan.violations v <;> rfl

theorem violations_obj (fields : Fields) :
    violations (.obj fields) = (Plan.part contextClause fields "context").map fun context =>
      Clause.keys fields Result.keys "Result"
        ++ onField fields "question" (filled "question")
        ++ context
        ++ onField fields "summary" summaryClause
        ++ onField fields "timeseries" (items "timeseries" pointClause)
        ++ onField fields "breakdown_table"
          (items "breakdown_table" (rowClause "breakdown_table" tableNumbers))
        ++ onField fields "attribution"
          (items "attribution" (rowClause "attribution" attributionNumbers))
        ++ onField fields "confidence" fun v =>
          if isOneOf confidenceNames v then [] else [.notOneOf "confidence" confidenceNames] := by
  simp only [violations, Plan.part]
  cases Fields.get? fields "context" with
  | none => rfl
  | some v =>
    change (contextClause v >>= _) = (contextClause v).map _
    cases contextClause v <;> rfl

theorem items_map_eq_nil {α : Type} {label : String} {clause : Nat → Value → List Violation}
    {write : α → Value} {xs : List α} {P : α → Prop}
    (each : ∀ i, ∀ a ∈ xs, clause i (write a) = [] ↔ P a) :
    items label clause (.list (xs.map write)) = [] ↔ ∀ a ∈ xs, P a := by
  rw [items_eq_nil]
  constructor
  · intro all a mem
    obtain ⟨i, here⟩ := List.getElem?_of_mem mem
    exact (each i a mem).mp (all i (write a) (by rw [List.getElem?_map, here]; rfl))
  · intro all i v here
    rw [List.getElem?_map] at here
    obtain ⟨a, there, rfl⟩ := Option.map_eq_some_iff.mp here
    have mem := List.mem_of_getElem? there
    exact (each i a mem).mpr (all a mem)

/-- The violations of a result with a valid plan are those of its words, numbers and rows. -/
theorem violations_toValue {r : Result} (plan : r.plan.Valid) :
    ∃ found, violations r.toValue = .ok found ∧ (found = [] ↔ r.Cleared) := by
  have context : Plan.part contextClause r.toFields "context" =
      .ok (filled "context.tenant_id" (.str r.tenant)) := by
    change contextClause (.obj [("tenant_id", .str r.tenant), ("plan", r.plan.toValue)]) = _
    have clear : Plan.part Plan.violations
        [("tenant_id", .str r.tenant), ("plan", r.plan.toValue)] "plan" = .ok [] :=
      Plan.violations_toValue plan
    rw [contextClause_obj, clear]
    change Except.ok (filled "context.tenant_id" (.str r.tenant) ++ []) = _
    rw [List.append_nil]
  refine ⟨_, by rw [toValue, violations_obj, context]; rfl, ?_⟩
  have keys : Clause.keys r.toFields Result.keys "Result" = [] := rfl
  have confidence : (onField r.toFields "confidence" fun v =>
      if isOneOf confidenceNames v then []
      else [.notOneOf "confidence" confidenceNames]) = [] := by
    change (if isOneOf confidenceNames (.str r.confidence.name) then _ else _) = []
    cases r.confidence <;> rfl
  have question : Fields.get? r.toFields "question" = some (.str r.question) := rfl
  have summary : Fields.get? r.toFields "summary" = some r.summary.toValue := rfl
  have series : Fields.get? r.toFields "timeseries" =
      some (.list (r.series.map Point.toValue)) := rfl
  have tableRows : Fields.get? r.toFields "breakdown_table" =
      some (.list (r.table.map fun row => .obj (Value.wireFields row))) := rfl
  have attributionRows : Fields.get? r.toFields "attribution" =
      some (.list (r.attribution.map fun row => .obj (Value.wireFields row))) := rfl
  simp only [List.append_eq_nil_iff, keys, confidence, Plan.onField_of_get? question,
    Plan.onField_of_get? summary, Plan.onField_of_get? series, Plan.onField_of_get? tableRows,
    Plan.onField_of_get? attributionRows, filled_eq_nil, summaryClause_eq_nil,
    items_map_eq_nil fun i p _ => pointClause_eq_nil i p,
    items_map_eq_nil fun i _ _ => rowClause_eq_nil _ i]
  constructor
  · rintro ⟨⟨⟨⟨⟨⟨⟨-, asked⟩, tenant⟩, numbers⟩, points⟩, rows⟩, moves⟩, -⟩
    exact ⟨asked, tenant, numbers, points, rows, moves⟩
  · rintro ⟨asked, tenant, numbers, points, rows, moves⟩
    exact ⟨⟨⟨⟨⟨⟨⟨trivial, asked⟩, tenant⟩, numbers⟩, points⟩, rows⟩, moves⟩, trivial⟩

/-- A result with a valid plan passes its check iff its wire form meets every clause. -/
theorem validate_cleared {r : Result} (plan : r.plan.Valid) :
    (r.Cleared → validate r.toValue = .ok r.wired) ∧
      (¬ r.Cleared → ∃ found, found ≠ [] ∧ validate r.toValue = .error (.schema found)) := by
  obtain ⟨found, listed, clear⟩ := violations_toValue plan
  rw [validate_toValue, listed]
  constructor
  · intro cleared
    rw [clear.mpr cleared]
  · intro not
    have some : found ≠ [] := fun none => not (clear.mp none)
    refine ⟨found, some, ?_⟩
    cases found with
    | nil => exact absurd rfl some
    | cons v vs => rfl

/-- An executed result passes its check iff it conforms. -/
theorem validate_iff {r : Result} (plan : r.plan.Valid)
    (table : ∀ row ∈ r.table, Fields.IsRow tableNumbers row)
    (attribution : ∀ row ∈ r.attribution, Fields.IsRow attributionNumbers row) :
    (r.Conforms → validate r.toValue = .ok r.wired) ∧
      (¬ r.Conforms → ∃ found, found ≠ [] ∧ validate r.toValue = .error (.schema found)) := by
  have same : r.Cleared ↔ r.Conforms := by
    have rows := forall₂_congr fun row mem => rowClear_wireFields (table row mem)
    have moves := forall₂_congr fun row mem => rowClear_wireFields (attribution row mem)
    constructor
    · rintro ⟨asked, tenant, numbers, points, tableClear, attributionClear⟩
      exact ⟨asked, tenant, numbers, points, rows.mp tableClear, moves.mp attributionClear⟩
    · rintro ⟨asked, tenant, numbers, points, tableFinite, attributionFinite⟩
      exact ⟨asked, tenant, numbers, points, rows.mpr tableFinite, moves.mpr attributionFinite⟩
  rw [← same]
  exact validate_cleared plan

end Result
end MetricDesk
