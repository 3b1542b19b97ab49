import MetricDesk.Proofs.Narration.Leaves
import MetricDesk.Proofs.Plan.Outcome
import MetricDesk.Proofs.Result.Revalidation

/-! The grammar of results, said without the check. Main statements: `violations_eq_nil_iff`, the
candidates without violations are those of the grammar's shape; and `validate_grammar_iff`, where
doubles can hold every whole number of a candidate, it becomes a result iff it is of the grammar. -/
namespace MetricDesk
open Leaves (Leaf Fits)

/-! ### Forms of values -/

/-- A whole number, or a double that is a number. -/
def Numeric (v : Value) : Prop := ∃ n : Number, v = .num n ∧ n.isNan = false

def NullOr (P : Value → Prop) (v : Value) : Prop := v = .null ∨ P v

namespace Result
open Clause

@[mk_iff]
structure SummaryShape (fields : Fields) : Prop where
  keys : fields.HasExactly ["value", "previous", "change", "changePct"]
  value : fields.Under "value" Numeric
  previous : fields.Under "previous" (NullOr Numeric)
  change : fields.Under "change" (NullOr Numeric)
  percent : fields.Under "changePct" (NullOr Numeric)

@[mk_iff]
structure PointShape (fields : Fields) : Prop where
  keys : fields.HasExactly ["date", "value"]
  date : fields.Under "date" Words
  value : fields.Under "value" Numeric

/-- A row has its numbers, and beside them breakdowns with whatever labels. -/
structure RowShape (numbers : List String) (fields : Fields) : Prop where
  measured : ∀ k ∈ numbers, fields.Under k Numeric
  keys : ∀ k, fields.has k = true → k ∈ numbers ∨ k ∈ Plan.breakdownNames

/-- The tenant beside a plan of a kind. -/
@[mk_iff]
structure ContextShape (plan : Value → Prop) (fields : Fields) : Prop where
  keys : fields.HasExactly ["tenant_id", "plan"]
  tenant : fields.Under "tenant_id" Words
  plan : fields.Under "plan" plan

/-- The fields of a result whose plan is of a kind. -/
@[mk_iff]
structure Shape (plan : Value → Prop) (fields : Fields) : Prop where
  keys : fields.HasExactly Result.keys
  question : fields.Under "question" Words
  context : fields.Under "context" (ObjectOf (ContextShape plan))
  summary : fields.Under "summary" (ObjectOf SummaryShape)
  series : fields.Under "timeseries" (ListOf (ObjectOf PointShape))
  table : fields.Under "breakdown_table" (ListOf (ObjectOf (RowShape tableNumbers)))
  attribution : fields.Under "attribution" (ListOf (ObjectOf (RowShape attributionNumbers)))
  confidence : fields.Under "confidence" (Named confidenceNames)

/-- The result grammar: an object with the keys of a result and the right thing under each, its plan
one that passes the check of plans. -/
def Grammar (c : Value) : Prop := ObjectOf (Shape fun v => ∃ p, Plan.validate v = .ok p) c

/-! ### What the clauses demand -/

theorem numberClause_eq_nil_iff {label : String} (v : Value) :
    numberClause label v = [] ↔ Numeric v :=
  numberClause_eq_nil.trans isNumber_iff

theorem optionalNumberClause_eq_nil_iff {label : String} (v : Value) :
    optionalNumberClause label v = [] ↔ NullOr Numeric v := by
  cases v with
  | null => exact iff_of_true rfl (Or.inl rfl)
  | num n =>
    have only : NullOr Numeric (.num n) ↔ n.isNan = false := by simp [NullOr, Numeric]
    rw [only, optionalNumberClause, isNumber_num]
    · cases n.isNan <;> simp
    · rintro ⟨⟩
  | _ => exact iff_of_false (by rintro ⟨⟩) (by rintro (⟨⟨⟩⟩ | ⟨n, ⟨⟩, -⟩))

theorem summaryClause_eq_nil_iff (v : Value) :
    summaryClause v = [] ↔ ObjectOf SummaryShape v := by
  cases v with
  | obj fields =>
    rw [objectOf_obj, summaryShape_iff]
    simp only [summaryClause, List.append_eq_nil_iff, keys_eq_nil_iff, List.flatMap_cons,
      List.flatMap_nil, and_true, and_assoc]
    refine and_congr_right fun keys => ?_
    rw [onField_eq_nil_iff (keys.has (by simp)) numberClause_eq_nil_iff,
      onField_eq_nil_iff (keys.has (by simp)) optionalNumberClause_eq_nil_iff,
      onField_eq_nil_iff (keys.has (by simp)) optionalNumberClause_eq_nil_iff,
      onField_eq_nil_iff (keys.has (by simp)) optionalNumberClause_eq_nil_iff]
  | _ => exact iff_of_false (by rintro ⟨⟩) (by rintro ⟨fields, ⟨⟩, -⟩)

theorem pointClause_eq_nil_iff (i : Nat) (v : Value) :
    pointClause i v = [] ↔ ObjectOf PointShape v := by
  cases v with
  | obj fields =>
    have dated (label : String) (v : Value) :
        (if isFilled v then [] else [Violation.notText label]) = [] ↔ Words v := by
      rw [← isFilled_iff]
      split <;> simp_all
    rw [objectOf_obj, pointShape_iff]
    simp only [pointClause, List.append_eq_nil_iff, keys_eq_nil_iff, and_assoc]
    refine and_congr_right fun keys => ?_
    rw [onField_eq_nil_iff (keys.has (by simp)) (dated _),
      onField_eq_nil_iff (keys.has (by simp)) numberClause_eq_nil_iff]
  | _ => exact iff_of_false (by rintro ⟨⟩) (by rintro ⟨fields, ⟨⟩, -⟩)

/-- A number is found under a key iff one stands there. -/
theorem isNumber_getD_iff {fields : Fields} {key : String} :
    isNumber (Value.getD fields key) = true ↔ fields.Under key Numeric := by
  rw [isNumber_iff]
  constructor
  · rintro ⟨n, found, number⟩
    exact ⟨.num n, get?_of_getD found (by simp), n, rfl, number⟩
  · rintro ⟨_, found, n, rfl, number⟩
    exact ⟨n, by rw [Value.getD, found]; rfl, number⟩

theorem rowClause_eq_nil_iff {label : String} {numbers : List String} (i : Nat) (v : Value) :
    rowClause label numbers i v = [] ↔ ObjectOf (RowShape numbers) v := by
  cases v with
  | obj fields =>
    rw [objectOf_obj, rowClause_eq_nil]
    constructor
    · rintro ⟨measured, keys⟩
      exact ⟨fun k mem => isNumber_getD_iff.mp (measured k mem),
        fun k has => keys k (Fields.has_iff_mem_keys.mp has)⟩
    · rintro ⟨measured, keys⟩
      exact ⟨fun k mem => isNumber_getD_iff.mpr (measured k mem),
        fun k mem => keys k (Fields.has_iff_mem_keys.mpr mem)⟩
  | _ => exact iff_of_false (by rintro ⟨⟩) (by rintro ⟨fields, ⟨⟩, -⟩)

theorem contextClause_eq_nil_iff (v : Value) :
    contextClause v = .ok [] ↔ ObjectOf (ContextShape fun p => Plan.violations p = .ok []) v := by
  cases v with
  | obj fields =>
    have clear : contextClause (.obj fields) = .ok [] ↔
        Fields.HasExactly fields ["tenant_id", "plan"] ∧
        onField fields "tenant_id" (filled "context.tenant_id") = [] ∧
        Plan.part Plan.violations fields "plan" = .ok [] := by
      rw [contextClause_obj]
      cases Plan.part Plan.violations fields "plan" with
      | error fault => simp [Except.map]
      | ok found =>
        simp only [Except.map, Except.ok.injEq, List.append_eq_nil_iff, keys_eq_nil_iff,
          List.map_eq_nil_iff, and_assoc]
    rw [objectOf_obj, contextShape_iff, clear]
    refine and_congr_right fun keys => ?_
    rw [onField_eq_nil_iff (keys.has (by simp)) filled_eq_nil_iff,
      Plan.part_eq_nil_iff (keys.has (by simp)) fun _ => Iff.rfl]
  | _ => exact iff_of_false (by rintro ⟨⟩) (by rintro ⟨fields, ⟨⟩, -⟩)

/-- A candidate is without violations iff it has the shape of a result and its plan is without
violations. -/
theorem violations_eq_nil_iff (c : Value) :
    violations c = .ok [] ↔ ObjectOf (Shape fun p => Plan.violations p = .ok []) c := by
  cases c with
  | obj fields =>
    have level (v : Value) : (if isOneOf confidenceNames v then []
        else [Violation.notOneOf "confidence" confidenceNames]) = [] ↔ Named confidenceNames v := by
      rw [← isOneOf_iff]
      split <;> simp_all
    have clear : violations (.obj fields) = .ok [] ↔ Fields.HasExactly fields Result.keys ∧
        onField fields "question" (filled "question") = [] ∧
        Plan.part contextClause fields "context" = .ok [] ∧
        onField fields "summary" summaryClause = [] ∧
        onField fields "timeseries" (items "timeseries" pointClause) = [] ∧
        onField fields "breakdown_table"
          (items "breakdown_table" (rowClause "breakdown_table" tableNumbers)) = [] ∧
        onField fields "attribution"
          (items "attribution" (rowClause "attribution" attributionNumbers)) = [] ∧
        (onField fields "confidence" fun v => if isOneOf confidenceNames v then []
          else [.notOneOf "confidence" confidenceNames]) = [] := by
      rw [violations_obj]
      cases Plan.part contextClause fields "context" with
      | error fault => simp [Except.map]
      | ok found =>
        simp only [Except.map, Except.ok.injEq, List.append_eq_nil_iff, keys_eq_nil_iff, and_assoc]
    rw [objectOf_obj, shape_iff, clear]
    refine and_congr_right fun exact => ?_
    have there (key : String) (mem : key ∈ Result.keys) : Fields.has fields key = true :=
      exact.has mem
    rw [onField_eq_nil_iff (there "question" (by decide)) filled_eq_nil_iff,
      Plan.part_eq_nil_iff (there "context" (by decide)) contextClause_eq_nil_iff,
      onField_eq_nil_iff (there "summary" (by decide)) summaryClause_eq_nil_iff,
      onField_eq_nil_iff (there "timeseries" (by decide)) (items_eq_nil_iff pointClause_eq_nil_iff),
      onField_eq_nil_iff (there "breakdown_table" (by decide))
        (items_eq_nil_iff rowClause_eq_nil_iff),
      onField_eq_nil_iff (there "attribution" (by decide)) (items_eq_nil_iff rowClause_eq_nil_iff),
      onField_eq_nil_iff (there "confidence" (by decide)) level]
  | _ => exact iff_of_false (by rintro ⟨⟩) (by rintro ⟨fields, ⟨⟩, -⟩)

/-! ### Candidates whose whole numbers have doubles

Between the two there is only the reading of numbers as doubles, which finds one for each number
unless it is a whole number beyond their range. -/

theorem fits_of_get? {fields : Fields} {key : String} {v : Value} (fits : Fits (.obj fields))
    (found : fields.get? key = some v) : Fits v := by
  obtain ⟨e, here, rfl⟩ := Option.map_eq_some_iff.mp found
  exact fun k whole => fits k (.field (List.mem_of_find?_eq_some here) whole)

theorem fits_of_mem {xs : List Value} {x : Value} (fits : Fits (.list xs)) (mem : x ∈ xs) :
    Fits x :=
  fun k whole => fits k (.item mem whole)

/-- Values of a kind are read as something where their whole numbers have doubles. -/
def Reads {α : Type} (read : Value → Option α) (P : Value → Prop) : Prop :=
  ∀ v, P v → Fits v → ∃ a, read v = some a

theorem Reads.field {α : Type} {read : Value → Option α} {P : Value → Prop} {fields : Fields}
    {key : String} (reads : Reads read P) (fits : Fits (.obj fields)) (there : fields.Under key P) :
    ∃ a, read (Value.getD fields key) = some a := by
  obtain ⟨v, found, kind⟩ := there
  rw [Value.getD, found]
  exact reads v kind (fits_of_get? fits found)

theorem Reads.list {α : Type} {read : Value → Option α} {P : Value → Prop} (reads : Reads read P) :
    Reads (listOf? read) (ListOf P) := by
  rintro _ ⟨xs, rfl, each⟩ fits
  change ∃ as, xs.mapM read = some as
  induction xs with
  | nil => exact ⟨[], rfl⟩
  | cons x xs ih =>
    obtain ⟨first, others⟩ := List.forall_mem_cons.mp each
    obtain ⟨a, here⟩ := reads x first (fits_of_mem fits List.mem_cons_self)
    obtain ⟨as, rest⟩ := ih others fun k whole => fits k (Leaves.leaf_cons.mpr (Or.inr whole))
    exact ⟨a :: as, by simp [here, rest]⟩

theorem reads_double : Reads doubleOf? Numeric := by
  rintro _ ⟨n, rfl, -⟩ fits
  cases n with
  | dbl x => exact ⟨x, rfl⟩
  | int k =>
    have finite := fits k (.here _)
    exact ⟨.ofInt k, by simp [doubleOf?, Number.toDouble, finite, Except.toOption]⟩

theorem reads_optional : Reads optionalOf? (NullOr Numeric) := by
  rintro v (rfl | number) fits
  · exact ⟨none, rfl⟩
  · obtain ⟨x, read⟩ := reads_double v number fits
    obtain ⟨n, rfl, -⟩ := number
    exact ⟨some x, by rw [optionalOf?, read]; rfl; rintro ⟨⟩⟩

theorem reads_summary : Reads summaryOf? (ObjectOf SummaryShape) := by
  rintro _ ⟨fields, rfl, shape⟩ fits
  obtain ⟨value, readValue⟩ := reads_double.field fits shape.value
  obtain ⟨previous, readPrevious⟩ := reads_optional.field fits shape.previous
  obtain ⟨change, readChange⟩ := reads_optional.field fits shape.change
  obtain ⟨percent, readPercent⟩ := reads_optional.field fits shape.percent
  refine ⟨⟨value, previous, change, percent⟩, ?_⟩
  rw [summaryOf?, readValue, readPrevious, readChange, readPercent]
  rfl

theorem reads_point : Reads pointOf? (ObjectOf PointShape) := by
  rintro _ ⟨fields, rfl, shape⟩ fits
  obtain ⟨_, date, s, rfl, -⟩ := shape.date
  obtain ⟨value, readValue⟩ := reads_double.field fits shape.value
  refine ⟨⟨s, value⟩, ?_⟩
  simp only [pointOf?, Value.getD, date, Option.getD_some]
  rw [← Value.getD, readValue]
  rfl

theorem reads_row {P : Fields → Prop} : Reads rowOf? (ObjectOf P) := by
  rintro _ ⟨fields, rfl, -⟩ -
  exact ⟨fields, rfl⟩

/-- Fields of the shape whose plan can be read are read as a result. -/
theorem Shape.read {fields : Fields} (shape : Shape (fun v => ∃ p, Plan.ofValue? v = some p) fields)
    (fits : Fits (.obj fields)) : ∃ r, ofValue? (.obj fields) = some r := by
  obtain ⟨_, question, q, rfl, -⟩ := shape.question
  obtain ⟨_, context, inner, rfl, inside⟩ := shape.context
  obtain ⟨_, tenant, t, rfl, -⟩ := inside.tenant
  obtain ⟨v, plan, p, readPlan⟩ := inside.plan
  obtain ⟨_, confidence, named⟩ := shape.confidence
  obtain ⟨level, rfl⟩ := exists_word named
  obtain ⟨summary, readSummary⟩ := reads_summary.field fits shape.summary
  obtain ⟨series, readSeries⟩ := reads_point.list.field fits shape.series
  obtain ⟨table, readTable⟩ := reads_row.list.field fits shape.table
  obtain ⟨attribution, readAttribution⟩ := reads_row.list.field fits shape.attribution
  have found {gs : Fields} {key : String} {w : Value} (there : gs.get? key = some w) :
      Value.getD gs key = w := by
    rw [Value.getD, there, Option.getD_some]
  refine ⟨⟨q, t, p, summary, series, table, attribution, level⟩, ?_⟩
  simp only [ofValue?, found question, found context, found tenant, found plan, found confidence,
    readPlan, readSummary, readSeries, readTable, readAttribution, Confidence.ofName?_name]
  rfl

/-! ### Acceptance -/

/-- Of which kind a shape is depends on the plan alone. -/
theorem Shape.exists_plan {P : Value → Prop} {fields : Fields} (shape : Shape P fields) :
    ∃ inner, Value.getD fields "context" = .obj inner ∧ P (Value.getD inner "plan") ∧
      ∀ Q : Value → Prop, Q (Value.getD inner "plan") → Shape Q fields := by
  obtain ⟨_, context, inner, rfl, inside⟩ := shape.context
  obtain ⟨v, plan, kind⟩ := inside.plan
  have found : Value.getD inner "plan" = v := by rw [Value.getD, plan, Option.getD_some]
  refine ⟨inner, by rw [Value.getD, context, Option.getD_some], by rwa [found], fun Q changed => ?_⟩
  rw [found] at changed
  exact { shape with
    context := ⟨_, context, inner, rfl, { inside with plan := ⟨v, plan, changed⟩ }⟩ }

theorem Shape.mono {P Q : Value → Prop} {fields : Fields} (shape : Shape P fields)
    (weaker : ∀ v, P v → Q v) : Shape Q fields := by
  obtain ⟨inner, -, kind, change⟩ := shape.exists_plan
  exact change Q (weaker _ kind)

/-- The check finds its violations wherever the whole numbers have doubles. -/
theorem exists_violations {c : Value} (fits : Fits c) : ∃ found, violations c = .ok found := by
  cases outcome : violations c with
  | ok found => exact ⟨found, rfl⟩
  | error fault =>
    cases c with
    | obj fields =>
      rw [violations_obj, map_error_iff, Plan.part_error_iff] at outcome
      obtain ⟨v, context, failed⟩ := outcome
      cases v with
      | obj inner =>
        rw [contextClause_obj, map_error_iff, Plan.part_error_iff] at failed
        obtain ⟨_, plan, failed⟩ := failed
        obtain ⟨-, parts, range, n, rfl, span, days, beyond⟩ :=
          (Plan.violations_error_iff _ _).mp failed
        have small := fits_of_get? (fits_of_get? (fits_of_get? (fits_of_get? fits context) plan)
          span) days n (.here _)
        rw [Double.isFinite_ofInt_iff] at small
        exact absurd beyond (not_le.mpr small)
      | _ => cases failed
    | _ => cases outcome

/-- What is no result though it has no violations has a plan that is none, and is reported. -/
theorem partViolations_ne_nil {c : Value} (fits : Fits c) (clear : violations c = .ok [])
    (unread : ofValue? c = none) : partViolations c ≠ [] := by
  obtain ⟨fields, rfl, shape⟩ := (violations_eq_nil_iff c).mp clear
  obtain ⟨inner, context, planClear, change⟩ := shape.exists_plan
  cases plan : Plan.ofValue? (Value.getD inner "plan") with
  | some p =>
    obtain ⟨r, read⟩ := (change (fun v => ∃ p, Plan.ofValue? v = some p) ⟨p, plan⟩).read fits
    rw [read] at unread
    cases unread
  | none =>
    have reported : Plan.partViolations "context.plan." (Value.getD inner "plan") ≠ [] :=
      Plan.partViolations_ne_nil planClear plan
    rw [partViolations, context]
    simp [reported]

theorem validate_of_clear {c : Value} (clear : violations c = .ok []) :
    validate c = match ofValue? c with
      | some r => .ok r
      | none => .error (.schema (partViolations c)) := by
  unfold validate
  rw [clear]
  cases ofValue? c <;> rfl

/-- What has passed the check is of the grammar. -/
theorem grammar_of_validate {c : Value} {r : Result} (passed : validate c = .ok r) :
    Grammar c := by
  obtain ⟨clear, read⟩ := of_validate passed
  obtain ⟨fields, rfl, shape⟩ := (violations_eq_nil_iff c).mp clear
  obtain ⟨inner, context, planClear, change⟩ := shape.exists_plan
  obtain ⟨outer, parts⟩ := readFrom_of_ofValue? read
  obtain rfl := Value.obj.inj (context.symm.trans parts.context)
  exact ⟨fields, rfl, change _ ⟨r.plan, by rw [Plan.validate_of_clear planClear, parts.plan]⟩⟩

/-- What is of the grammar passes the check, where its whole numbers have doubles. -/
theorem exists_validate {c : Value} (fits : Fits c) (found : Grammar c) :
    ∃ r, validate c = .ok r := by
  obtain ⟨fields, rfl, shape⟩ := found
  have clear := (violations_eq_nil_iff _).mpr
    ⟨fields, rfl, shape.mono fun v ⟨p, passed⟩ => (Plan.of_validate passed).1⟩
  obtain ⟨r, read⟩ := (shape.mono fun v ⟨p, passed⟩ => ⟨p, (Plan.of_validate passed).2⟩).read fits
  exact ⟨r, by rw [validate_of_clear clear, read]⟩

/-- Where doubles can hold every whole number of a candidate, the check lets it through iff it is of
the grammar, and otherwise reports what is wrong with it. -/
theorem validate_grammar_iff {c : Value} (fits : Fits c) :
    ((∃ r, validate c = .ok r) ↔ Grammar c) ∧
      (¬ Grammar c → ∃ found, found ≠ [] ∧ validate c = .error (.schema found)) := by
  refine ⟨⟨fun ⟨r, passed⟩ => grammar_of_validate passed, exists_validate fits⟩, fun none => ?_⟩
  obtain ⟨found, listed⟩ := exists_violations fits
  cases found with
  | cons v vs => exact ⟨v :: vs, List.cons_ne_nil v vs, by rw [validate, listed]; rfl⟩
  | nil =>
    cases read : ofValue? c with
    | some r => exact absurd (grammar_of_validate (by rw [validate_of_clear listed, read])) none
    | none =>
      exact ⟨_, partViolations_ne_nil fits listed read, by rw [validate_of_clear listed, read]⟩

/-- A result with its keys in an order of their own, a whole number among its values, a plan whose
days are a double and a row with a label that is no string. -/
def mixedCandidate : Value := .obj [
  ("confidence", .str "low"),
  ("summary", .obj [("changePct", .null), ("value", .nat 3), ("change", .dbl (.ofInt 1)),
    ("previous", .nat 2)]),
  ("context", .obj [("plan", Plan.weekCandidate), ("tenant_id", .str "game-1")]),
  ("timeseries", .list [.obj [("value", .nat 3), ("date", .str "2025-03-30")]]),
  ("breakdown_table", .list [.obj [("value", .dbl (.infinite false)), ("country", .null)]]),
  ("attribution", .list []),
  ("question", .str "users by platform")]

/-- It is of the grammar; with a truth value for a number of the summary it is reported. -/
theorem validate_mixedCandidate : Grammar mixedCandidate ∧
    ∃ found, found ≠ [] ∧ validate (mixedCandidate.change "summary"
      (Value.change "value" fun _ => .bool true)) = .error (.schema found) := by
  have fits : Fits mixedCandidate := Leaves.fits_of_isOk (by decide +kernel)
  have changedFits : Fits (mixedCandidate.change "summary"
      (Value.change "value" fun _ => .bool true)) := Leaves.fits_of_isOk (by decide +kernel)
  refine ⟨(validate_grammar_iff fits).1.mp ⟨_, rfl⟩, (validate_grammar_iff changedFits).2 ?_⟩
  intro grammar
  obtain ⟨r, passed⟩ := (validate_grammar_iff changedFits).1.mpr grammar
  cases passed

end Result
end MetricDesk
