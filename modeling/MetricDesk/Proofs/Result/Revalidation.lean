import MetricDesk.Proofs.Narration.Leaves
import MetricDesk.Proofs.Plan.Acceptance
import MetricDesk.Proofs.Result.Acceptance

/-! Results that are checked a second time, from their wire form. Main statement:
`revalidated_iff_finite`, a result that has passed its check passes it again and comes back as it
was iff every double in the rows of its tables is finite. -/
namespace MetricDesk
open Leaves (Leaf)

namespace Value
open Json

theorem leaf_field {k : String} {v : Value} {fs : Fields} {n : Number} :
    Leaf (.obj ((k, v) :: fs)) n ↔ Leaf v n ∨ Leaf (.obj fs) n := by
  simp only [Leaves.leaf_obj, List.mem_cons, Prod.mk.injEq]
  constructor
  · rintro ⟨l, w, ⟨rfl, rfl⟩ | mem, inside⟩
    · exact Or.inl inside
    · exact Or.inr ⟨l, w, mem, inside⟩
  · rintro (inside | ⟨l, w, mem, inside⟩)
    · exact ⟨k, v, Or.inl ⟨rfl, rfl⟩, inside⟩
    · exact ⟨l, w, Or.inr mem, inside⟩

/-- Every double in a value is finite. -/
def FiniteThroughout (v : Value) : Prop := ∀ x : Double, Leaf v (.dbl x) → x.isFinite = true

theorem finiteThroughout_dbl (x : Double) :
    FiniteThroughout (.num (.dbl x)) ↔ x.isFinite = true := by
  simp [FiniteThroughout, Leaves.leaf_num]

theorem finiteThroughout_cons {x : Value} {xs : List Value} :
    FiniteThroughout (.list (x :: xs)) ↔ x.FiniteThroughout ∧ FiniteThroughout (.list xs) := by
  simp only [FiniteThroughout, Leaves.leaf_cons, or_imp, forall_and]

theorem finiteThroughout_field {k : String} {v : Value} {fs : Fields} :
    FiniteThroughout (.obj ((k, v) :: fs)) ↔ v.FiniteThroughout ∧ FiniteThroughout (.obj fs) := by
  simp only [FiniteThroughout, leaf_field, or_imp, forall_and]

mutual

/-- A document is its own wire form iff every double in it is finite. -/
theorem wire_eq_self_iff (v : Value) (json : foreign? v = none) :
    v.wire = v ↔ v.FiniteThroughout := by
  match v with
  | .num (.dbl x) =>
    rw [wire, finiteThroughout_dbl]
    cases x.isFinite <;> simp
  | .list xs => rw [wire, Value.list.injEq, wireItems_eq_self_iff xs json]
  | .obj fs => rw [wire, Value.obj.injEq, wireFields_eq_self_iff fs json]
  | .num (.int n) => exact iff_of_true rfl (by rintro x ⟨⟩)
  | .null | .bool _ | .str _ => exact iff_of_true rfl (by rintro x ⟨⟩)
  | .day _ | .moment _ | .decimal _ | .span _ => cases json

theorem wireItems_eq_self_iff (xs : List Value) (json : foreignItem? xs = none) :
    wireItems xs = xs ↔ FiniteThroughout (.list xs) := by
  match xs with
  | [] => exact iff_of_true rfl (by rintro x (_ | ⟨⟨⟩, -⟩))
  | x :: xs =>
    obtain ⟨here, there⟩ := List.forall_mem_cons.mp (foreignItem?_eq_none_iff.mp json)
    rw [wireItems, List.cons.injEq, finiteThroughout_cons, wire_eq_self_iff x here,
      wireItems_eq_self_iff xs (foreignItem?_eq_none_iff.mpr there)]

theorem wireFields_eq_self_iff (fs : List (String × Value)) (json : foreignField? fs = none) :
    wireFields fs = fs ↔ FiniteThroughout (.obj fs) := by
  match fs with
  | [] => exact iff_of_true rfl (by rintro x (_ | _ | ⟨⟨⟩, -⟩))
  | (k, v) :: fs =>
    obtain ⟨here, there⟩ := List.forall_mem_cons.mp (foreignField?_eq_none_iff.mp json)
    rw [wireFields, List.cons.injEq, Prod.mk.injEq, finiteThroughout_field, wire_eq_self_iff v here,
      wireFields_eq_self_iff fs (foreignField?_eq_none_iff.mpr there)]
    simp

end

end Value

namespace Result
open Clause

/-! ### What the first check has seen -/

/-- The parts of a result under the keys that they were read from. -/
structure ReadFrom (r : Result) (fields inner : Fields) : Prop where
  question : Value.getD fields "question" = .str r.question
  context : Value.getD fields "context" = .obj inner
  tenant : Value.getD inner "tenant_id" = .str r.tenant
  plan : Plan.ofValue? (Value.getD inner "plan") = some r.plan
  summary : summaryOf? (Value.getD fields "summary") = some r.summary
  series : listOf? pointOf? (Value.getD fields "timeseries") = some r.series
  table : listOf? rowOf? (Value.getD fields "breakdown_table") = some r.table
  attribution : listOf? rowOf? (Value.getD fields "attribution") = some r.attribution

theorem readFrom_of_ofValue? {fields : Fields} {r : Result} (h : ofValue? (.obj fields) = some r) :
    ∃ inner, r.ReadFrom fields inner := by
  simp only [ofValue?, Option.bind_eq_bind] at h
  split at h
  on_goal 2 => cases h
  next question =>
  split at h
  on_goal 2 => cases h
  next context =>
  split at h
  on_goal 2 => cases h
  next tenant =>
  split at h
  on_goal 2 => cases h
  obtain ⟨_, plan, h⟩ := Option.bind_eq_some_iff.mp h
  obtain ⟨_, summary, h⟩ := Option.bind_eq_some_iff.mp h
  obtain ⟨_, series, h⟩ := Option.bind_eq_some_iff.mp h
  obtain ⟨_, table, h⟩ := Option.bind_eq_some_iff.mp h
  obtain ⟨_, attribution, h⟩ := Option.bind_eq_some_iff.mp h
  obtain ⟨_, -, h⟩ := Option.bind_eq_some_iff.mp h
  cases h
  exact ⟨_, { question, context, tenant, plan, summary, series, table, attribution }⟩

/-- What the check has seen of a result that it let through. -/
structure Admitted (r : Result) : Prop where
  plan : r.plan.Valid
  question : isFilled (.str r.question) = true
  tenant : isFilled (.str r.tenant) = true
  summary : ∀ x ∈ r.summary.numbers, x.isNan = false
  series : ∀ p ∈ r.series, isFilled (.str p.date) = true ∧ p.value.isNan = false
  table : ∀ row ∈ r.table, RowClear tableNumbers row
  attribution : ∀ row ∈ r.attribution, RowClear attributionNumbers row

/-- What is looked up and is not null is there. -/
theorem get?_of_getD {fields : Fields} {key : String} {v : Value}
    (found : Value.getD fields key = v) (some : v ≠ .null) : Fields.get? fields key = .some v := by
  unfold Value.getD at found
  cases there : Fields.get? fields key with
  | none =>
    rw [there] at found
    exact absurd found.symm some
  | some w =>
    rw [there] at found
    exact congrArg _ found

/-- What has been read under a key was there. -/
theorem get?_of_read {α : Type} {read : Value → Option α} {fields : Fields} {key : String} {a : α}
    (made : read (Value.getD fields key) = some a) (nothing : read .null = none) :
    Fields.get? fields key = some (Value.getD fields key) := by
  apply get?_of_getD rfl
  intro null
  rw [null, nothing] at made
  cases made

/-- A number is read as a double that is one. -/
theorem isNan_of_doubleOf? {v : Value} {x : Double} (number : isNumber v = true)
    (read : doubleOf? v = some x) : x.isNan = false := by
  cases v with
  | num n =>
    simp only [isNumber, Bool.not_eq_true'] at number
    cases n with
    | dbl y =>
      cases read
      exact number
    | int k =>
      simp only [doubleOf?, Number.toDouble] at read
      split at read
      · next finite =>
        cases read
        cases double : Double.ofInt k with
        | nan => rw [double] at finite; cases finite
        | infinite | finite => rfl
      · cases read
  | _ => cases read

/-- A field that has to be a number is read as a double that is one. -/
theorem isNan_of_field {fields : Fields} {key label : String} {x : Double}
    (clear : onField fields key (numberClause label) = [])
    (read : doubleOf? (Value.getD fields key) = some x) : x.isNan = false := by
  rw [Plan.onField_of_get? (get?_of_read read rfl), numberClause_eq_nil] at clear
  exact isNan_of_doubleOf? clear read

/-- A field that may be null likewise, where it is not. -/
theorem isNan_of_optionalField {fields : Fields} {key label : String} {o : Option Double}
    (clear : onField fields key (optionalNumberClause label) = [])
    (read : optionalOf? (Value.getD fields key) = some o) : ∀ x ∈ o, x.isNan = false := by
  rintro x rfl
  have there : Value.getD fields key ≠ .null := by
    intro null
    rw [null] at read
    cases read
  rw [Plan.onField_of_get? (get?_of_getD rfl there)] at clear
  generalize Value.getD fields key = v at clear read there
  have number : isNumber v = true := by
    unfold optionalNumberClause at clear
    split at clear
    · exact absurd rfl there
    · split at clear
      · assumption
      · cases clear
  cases v with
  | num n =>
    obtain ⟨_, double, same⟩ := Option.map_eq_some_iff.mp read
    obtain rfl := Option.some.inj same
    exact isNan_of_doubleOf? number double
  | _ => cases number

theorem numbers_of_summaryOf? {v : Value} {s : Summary} (clear : summaryClause v = [])
    (read : summaryOf? v = some s) : ∀ x ∈ s.numbers, x.isNan = false := by
  cases v with
  | obj fields =>
    simp only [summaryOf?, Option.bind_eq_bind] at read
    obtain ⟨_, value, read⟩ := Option.bind_eq_some_iff.mp read
    obtain ⟨_, previous, read⟩ := Option.bind_eq_some_iff.mp read
    obtain ⟨_, change, read⟩ := Option.bind_eq_some_iff.mp read
    obtain ⟨_, percent, read⟩ := Option.bind_eq_some_iff.mp read
    cases read
    simp only [summaryClause, List.append_eq_nil_iff, List.flatMap_cons, List.flatMap_nil] at clear
    obtain ⟨⟨-, valueClear⟩, previousClear, changeClear, percentClear, -⟩ := clear
    intro x mem
    rcases List.mem_cons.mp mem with rfl | mem
    · exact isNan_of_field valueClear value
    · obtain ⟨o, listed, here⟩ := List.mem_filterMap.mp mem
      simp only [List.mem_cons, List.not_mem_nil, or_false] at listed
      rcases listed with rfl | rfl | rfl
      · exact isNan_of_optionalField previousClear previous x here
      · exact isNan_of_optionalField changeClear change x here
      · exact isNan_of_optionalField percentClear percent x here
  | _ => cases read

theorem point_of_pointOf? {i : Nat} {v : Value} {p : Point} (clear : pointClause i v = [])
    (read : pointOf? v = some p) :
    isFilled (.str p.date) = true ∧ p.value.isNan = false := by
  cases v with
  | obj fields =>
    simp only [pointOf?, Option.bind_eq_bind] at read
    split at read
    · next date there =>
      obtain ⟨x, value, read⟩ := Option.bind_eq_some_iff.mp read
      cases read
      simp only [pointClause, List.append_eq_nil_iff,
        Plan.onField_of_get? (get?_of_getD there (by simp))] at clear
      obtain ⟨⟨-, filled⟩, number⟩ := clear
      refine ⟨?_, isNan_of_field number value⟩
      split at filled
      · assumption
      · cases filled
    · cases read
  | _ => cases read

theorem points_of_listOf? {label : String} {v : Value} {points : List Point}
    (clear : items label pointClause v = []) (read : listOf? pointOf? v = some points) :
    ∀ p ∈ points, isFilled (.str p.date) = true ∧ p.value.isNan = false := by
  cases v with
  | list xs =>
    intro p mem
    obtain ⟨x, listed, made⟩ := Plan.mem_of_mapM read p mem
    obtain ⟨i, here⟩ := List.getElem?_of_mem listed
    exact point_of_pointOf? (items_eq_nil.mp clear i x here) made
  | _ => cases read

theorem rows_of_listOf? {label : String} {numbers : List String} {v : Value} {rows : List Fields}
    (clear : items label (rowClause label numbers) v = []) (read : listOf? rowOf? v = some rows) :
    ∀ row ∈ rows, RowClear numbers row := by
  cases v with
  | list xs =>
    intro row mem
    obtain ⟨x, listed, made⟩ := Plan.mem_of_mapM read row mem
    obtain ⟨i, here⟩ := List.getElem?_of_mem listed
    cases x with
    | obj fields =>
      cases made
      exact (rowClause_eq_nil label i).mp (items_eq_nil.mp clear i _ here)
    | _ => cases made
  | _ => cases read

theorem context_of_contextClause {inner : Fields} {tenant : String} {p : Plan}
    (clear : contextClause (.obj inner) = .ok [])
    (named : Value.getD inner "tenant_id" = .str tenant)
    (read : Plan.ofValue? (Value.getD inner "plan") = some p) :
    isFilled (.str tenant) = true ∧ p.Valid := by
  rw [contextClause_obj, Plan.part_of_get? (get?_of_read read rfl)] at clear
  cases found : Plan.violations (Value.getD inner "plan") with
  | error fault => rw [found] at clear; cases clear
  | ok vs =>
    rw [found] at clear
    have all := Except.ok.inj clear
    simp only [List.append_eq_nil_iff, Plan.onField_of_get? (get?_of_getD named (by simp)),
      filled_eq_nil, List.map_eq_nil_iff] at all
    obtain ⟨⟨-, filled⟩, rfl⟩ := all
    have passed : Plan.validate (Value.getD inner "plan") = .ok p := by
      rw [Plan.validate_of_clear found, read]
    exact ⟨filled, Plan.valid_of_validate passed⟩

theorem of_validate {candidate : Value} {r : Result} (h : validate candidate = .ok r) :
    violations candidate = .ok [] ∧ ofValue? candidate = some r := by
  unfold validate at h
  cases found : violations candidate with
  | error fault => rw [found] at h; cases h
  | ok vs =>
    rw [found] at h
    cases vs with
    | cons v vs => cases h
    | nil =>
      cases read : ofValue? candidate with
      | none => rw [read] at h; cases h
      | some q => rw [read] at h; cases h; exact ⟨rfl, rfl⟩

theorem admitted_of_validate {fields : Fields} {r : Result} (h : validate (.obj fields) = .ok r) :
    r.Admitted := by
  obtain ⟨clear, read⟩ := of_validate h
  obtain ⟨inner, question, context, tenant, plan, summary, series, table, attribution⟩ :=
    readFrom_of_ofValue? read
  rw [violations_obj, Plan.part_of_get? (get?_of_getD context (by simp))] at clear
  cases inside : contextClause (.obj inner) with
  | error fault => rw [inside] at clear; cases clear
  | ok vs =>
    rw [inside] at clear
    have all := Except.ok.inj clear
    simp only [List.append_eq_nil_iff, Plan.onField_of_get? (get?_of_getD question (by simp)),
      Plan.onField_of_get? (get?_of_read summary rfl),
      Plan.onField_of_get? (get?_of_read series rfl), Plan.onField_of_get? (get?_of_read table rfl),
      Plan.onField_of_get? (get?_of_read attribution rfl), filled_eq_nil] at all
    obtain ⟨⟨⟨⟨⟨⟨⟨-, asked⟩, rfl⟩, numbers⟩, points⟩, rows⟩, moves⟩, -⟩ := all
    obtain ⟨filled, valid⟩ := context_of_contextClause inside tenant plan
    exact
      { plan := valid
        question := asked
        tenant := filled
        summary := numbers_of_summaryOf? numbers summary
        series := points_of_listOf? points series
        table := rows_of_listOf? rows table
        attribution := rows_of_listOf? moves attribution }

/-! ### The second check -/

/-- No number under these keys of a row is infinite, nor none at all. -/
def Bounded (numbers : List String) (row : Fields) : Prop :=
  ∀ k ∈ numbers, ∀ x : Double, row.get? k = some (.dbl x) → x.isFinite = true

/-- A row that has been let through is let through on the wire iff its numbers are finite. -/
theorem rowClear_wireFields_iff {numbers : List String} {row : Fields}
    (clear : RowClear numbers row) :
    RowClear numbers (Value.wireFields row) ↔ Bounded numbers row := by
  have wired {k : String} {v : Value} (here : row.get? k = some v) :
      Value.getD (Value.wireFields row) k = v.wire := by
    rw [Value.getD, Value.get?_wireFields, here]
    rfl
  constructor
  · intro again k mem x here
    have number := again.measured k mem
    rw [wired here] at number
    exact (isNumber_wire_dbl x).symm.trans number
  · intro bounded
    refine ⟨fun k mem => ?_, by rw [Value.keys_wireFields]; exact clear.keys⟩
    obtain ⟨n, here, number⟩ := isNumber_iff.mp (clear.measured k mem)
    have there := get?_of_getD here (by simp)
    rw [wired there]
    cases n with
    | int n => rfl
    | dbl x => exact (isNumber_wire_dbl x).trans (bounded k mem x there)

/-- Every required number of the rows is finite. -/
def RowsBounded (r : Result) : Prop :=
  (∀ row ∈ r.table, Bounded tableNumbers row) ∧
    ∀ row ∈ r.attribution, Bounded attributionNumbers row

theorem Admitted.cleared_iff {r : Result} (h : r.Admitted) : r.Cleared ↔ r.RowsBounded := by
  have rows := forall₂_congr fun row mem => rowClear_wireFields_iff (h.table row mem)
  have moves := forall₂_congr fun row mem => rowClear_wireFields_iff (h.attribution row mem)
  constructor
  · exact fun cleared => ⟨rows.mp cleared.table, moves.mp cleared.attribution⟩
  · rintro ⟨table, attribution⟩
    exact ⟨h.question, h.tenant, h.summary, h.series, rows.mpr table, moves.mpr attribution⟩

/-- Every double in the rows is finite, whatever it stands under. -/
def RowsFinite (r : Result) : Prop :=
  ∀ row ∈ r.table ++ r.attribution, Value.FiniteThroughout (.obj row)

theorem RowsFinite.bounded {r : Result} (h : r.RowsFinite) : r.RowsBounded := by
  have each {numbers : List String} {row : Fields} (finite : Value.FiniteThroughout (.obj row)) :
      Bounded numbers row := by
    intro k _ x here
    obtain ⟨f, found, same⟩ := Option.map_eq_some_iff.mp here
    have mem : (f.1, Value.dbl x) ∈ row := by
      rw [← same]
      exact List.mem_of_find?_eq_some found
    exact finite x (.field mem (.here _))
  exact ⟨fun row mem => each (h row (List.mem_append_left _ mem)),
    fun row mem => each (h row (List.mem_append_right _ mem))⟩

theorem map_eq_self_iff {α : Type} {f : α → α} {xs : List α} :
    xs.map f = xs ↔ ∀ x ∈ xs, f x = x := by
  simpa using List.map_inj_left (f := f) (g := id) (l := xs)

/-- Rows of documents are left as they are on the wire iff every double in them is finite. -/
theorem wired_eq_self_iff {r : Result}
    (json : ∀ row ∈ r.table ++ r.attribution, Json.foreign? (.obj row) = none) :
    r.wired = r ↔ r.RowsFinite := by
  have parts : r.wired = r ↔
      r.table.map Value.wireFields = r.table ∧
        r.attribution.map Value.wireFields = r.attribution := by
    obtain ⟨question, tenant, plan, summary, series, table, attribution, confidence⟩ := r
    simp [wired]
  have each : r.RowsFinite ↔ ∀ row ∈ r.table ++ r.attribution, Value.wireFields row = row :=
    forall₂_congr fun row mem => (Value.wireFields_eq_self_iff row (json row mem)).symm
  rw [parts, each, map_eq_self_iff, map_eq_self_iff]
  simp only [List.mem_append, or_imp, forall_and]

/-- The rows of a document that is read as a result are documents. -/
theorem json_of_rows {fields : Fields} {key : String} {rows : List Fields}
    (json : Json.foreign? (.obj fields) = none)
    (read : listOf? rowOf? (Value.getD fields key) = some rows) :
    ∀ row ∈ rows, Json.foreign? (.obj row) = none := by
  have found := get?_of_read read rfl
  generalize Value.getD fields key = v at found read
  obtain ⟨f, here, rfl⟩ := Option.map_eq_some_iff.mp found
  have inside := Json.foreignField?_eq_none_iff.mp json f (List.mem_of_find?_eq_some here)
  generalize f.2 = v at inside read
  cases v with
  | list xs =>
    intro row mem
    obtain ⟨x, listed, made⟩ := Plan.mem_of_mapM read row mem
    have item := Json.foreignItem?_eq_none_iff.mp inside x listed
    cases x with
    | obj row' =>
      cases made
      exact item
    | _ => cases made
  | _ => cases read

/-- A document that has been let through as a result comes back from a second check as it was iff
every double in its rows is finite. The second check lets it through iff the required numbers are;
then it comes back with null for what is not finite, and otherwise its violations are reported. -/
theorem revalidated_iff_finite {c : Value} {r : Result} (json : Json.foreign? c = none)
    (passed : validate c = .ok r) :
    (validate r.toValue = .ok r ↔ r.RowsFinite) ∧
      (r.RowsBounded → validate r.toValue = .ok r.wired) ∧
      (¬ r.RowsBounded → ∃ found, found ≠ [] ∧ validate r.toValue = .error (.schema found)) := by
  cases c with
  | obj fields =>
    have admitted := admitted_of_validate passed
    obtain ⟨inner, parts⟩ := readFrom_of_ofValue? (of_validate passed).2
    have documents : ∀ row ∈ r.table ++ r.attribution, Json.foreign? (.obj row) = none := by
      intro row mem
      rcases List.mem_append.mp mem with mem | mem
      · exact json_of_rows json parts.table row mem
      · exact json_of_rows json parts.attribution row mem
    obtain ⟨accepts, refuses⟩ := validate_cleared admitted.plan
    rw [admitted.cleared_iff] at accepts refuses
    refine ⟨⟨fun again => ?_, fun finite => ?_⟩, accepts, refuses⟩
    · exact (wired_eq_self_iff documents).mp (eq_wired_of_validate again).symm
    · rw [accepts finite.bounded, (wired_eq_self_iff documents).mpr finite]
  | _ => cases (of_validate passed).2

/-- A result with one row in its table. -/
def oneRow (row : Fields) : Result where
  question := "users by platform"
  tenant := "game-1"
  plan := Plan.weekPlan
  summary := ⟨.ofInt 1, none, none, none⟩
  series := []
  table := [row]
  attribution := []
  confidence := .high

/-- Its document, with the row as it is. -/
def oneRowCandidate (row : Fields) : Value := .obj [
  ("question", .str "users by platform"),
  ("context", .obj [("tenant_id", .str "game-1"), ("plan", Plan.weekPlan.toValue)]),
  ("summary", .obj [("value", .nat 1), ("previous", .null), ("change", .null),
    ("changePct", .null)]),
  ("timeseries", .list []),
  ("breakdown_table", .list [.obj row]),
  ("attribution", .list []),
  ("confidence", .str "high")]

def infiniteValue : Fields := [("platform", .str "ios"), ("value", .dbl (.infinite false))]

def infiniteLabel : Fields := [("platform", .dbl (.infinite false)), ("value", .nat 1)]

/-- An infinite value is let through once and refused the second time; an infinite label is let
through twice and has become null. -/
theorem revalidated_infinite :
    (validate (oneRowCandidate infiniteValue) = .ok (oneRow infiniteValue) ∧
      ∃ found, found ≠ [] ∧ validate (oneRow infiniteValue).toValue = .error (.schema found)) ∧
    validate (oneRowCandidate infiniteLabel) = .ok (oneRow infiniteLabel) ∧
      validate (oneRow infiniteLabel).toValue = .ok (oneRow infiniteLabel).wired ∧
      validate (oneRow infiniteLabel).toValue ≠ .ok (oneRow infiniteLabel) := by
  have value : validate (oneRowCandidate infiniteValue) = .ok (oneRow infiniteValue) := by rfl
  have label : validate (oneRowCandidate infiniteLabel) = .ok (oneRow infiniteLabel) := by rfl
  have unbounded : ¬ (oneRow infiniteValue).RowsBounded := by
    intro bounded
    cases bounded.1 infiniteValue List.mem_cons_self "value" List.mem_cons_self _ rfl
  have bounded : (oneRow infiniteLabel).RowsBounded := by
    refine ⟨fun row mem k key x here => ?_, by rintro row ⟨⟩⟩
    obtain rfl := List.mem_singleton.mp mem
    obtain rfl := List.mem_singleton.mp key
    cases here
  have notFinite : ¬ (oneRow infiniteLabel).RowsFinite := by
    intro finite
    cases finite infiniteLabel List.mem_cons_self (.infinite false)
      (.field List.mem_cons_self (.here _))
  obtain ⟨-, -, refused⟩ := revalidated_iff_finite (by rfl) value
  obtain ⟨again, accepted, -⟩ := revalidated_iff_finite (by rfl) label
  exact ⟨⟨value, refused unbounded⟩, label, accepted bounded, fun same => notFinite (again.mp same)⟩

end Result
end MetricDesk
