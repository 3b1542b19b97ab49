import MetricDesk.Proofs.Plan.Days
import MetricDesk.Proofs.Plan.Outcome
import MetricDesk.Proofs.Result.Grammar

/-! What the check of a plan reports. Main statement: `violations_tell`, the violations found are
those of the demands that do not hold, once each and in order, and another value under a key leaves
what is reported of all others as it is. -/
namespace MetricDesk

namespace Fields

/-- Fields with another value under a key. -/
structure Swapped (key : String) (fields gs : Fields) : Prop where
  keys : gs.keys = fields.keys
  others : ∀ l, l ≠ key → gs.get? l = fields.get? l

theorem Swapped.refl (key : String) (fields : Fields) : Swapped key fields fields :=
  ⟨rfl, fun _ _ => rfl⟩

theorem swapped_change (fields : Fields) (key : String) (f : Value → Value) :
    Swapped key fields (change fields key f) :=
  ⟨keys_change fields key f, fun l other => by rw [get?_change, if_neg other]⟩

end Fields

namespace Plan
open Demand Clause

/-! ### What the clauses report -/

theorem keys_tell (fields : Fields) (allowed : List String) (label : String) :
    Tells (keyDemands allowed label fields) (Clause.keys fields allowed label) := by
  have extra : (fields.keys.filter fun k => !allowed.contains k) =
      fields.keys.filter (· ∉ allowed) := by
    simp
  have missing : (allowed.filter fun k => !fields.has k) = allowed.filter (· ∉ fields.keys) := by
    refine List.filter_congr fun k _ => ?_
    rw [Bool.eq_iff_iff, Bool.not_eq_true', ← Bool.not_eq_true, Fields.has_iff_mem_keys,
      decide_eq_true_eq]
  have none (xs : List String) (ys : List String) :
      (xs.filter (· ∉ ys)).isEmpty = true ↔ ∀ k ∈ xs, k ∈ ys := by
    simp [List.isEmpty_iff, List.filter_eq_nil_iff]
  unfold Clause.keys
  rw [extra, missing]
  exact (Tells.decided (d := ⟨.here .unknownKeys, _, _⟩) (none _ _)).append
    (Tells.decided (d := ⟨.here .missingKeys, _, _⟩) (none _ _))

theorem filled_tell (label : String) (v : Value) :
    Tells (wordsDemands label v) (filled label v) :=
  Tells.decided (d := form (Words v) (.blank label)) isFilled_iff

theorem oneOf_tell (what : String) (allowed : List String) (v : Value) :
    Tells (nameDemands what allowed v) (oneOf what allowed v) :=
  Tells.decided (d := form (Named allowed v) (.unsupported what v allowed)) isOneOf_iff

theorem onField_tell (rule : Rule) {clause : Value → List Violation} (fields : Fields)
    (each : ∀ v, Tells (rule.2 v) (clause v)) :
    Tells (rule.demands fields) (onField fields rule.1 clause) := by
  unfold Rule.demands onField
  cases fields.get? rule.1 with
  | none => exact .done
  | some v => exact (each v).under rule.1

theorem part_told (rule : Rule) {clause : Value → Except ArithmeticFault (List Violation)}
    (fields : Fields) (each : ∀ v, Told (rule.2 v) (clause v)) :
    Told (rule.demands fields) (part clause fields rule.1) := by
  intro found reported
  unfold Rule.demands
  unfold part at reported
  cases there : fields.get? rule.1 with
  | none =>
    rw [there] at reported
    cases reported
    exact .done
  | some v =>
    rw [there] at reported
    exact (each v found reported).under rule.1

theorem items_tell {inside : Nat → Value → List Demand} {clause : Nat → Value → List Violation}
    (label : String) (each : ∀ i v, Tells (inside i v) (clause i v)) (v : Value) :
    Tells (listDemands label inside v) (items label clause v) := by
  cases v with
  | list xs =>
    rw [items, ← List.flatMap_def]
    exact .met ⟨xs, rfl⟩ (.flatMap fun x _ => (each x.2 x.1).item x.2)
  | _ => exact .broken (by rintro ⟨_, ⟨⟩⟩) .done

theorem timeRangeClause_told (v : Value) : Told
    (objectDemands "time_range" (fieldDemands ["type", "n"] "time_range" rangeRules) v)
    (timeRangeClause v) := by
  intro found reported
  cases v with
  | obj fields =>
    rw [timeRangeClause_obj] at reported
    cases days : part daysClause fields "n" with
    | error fault =>
      rw [days] at reported
      cases reported
    | ok counted =>
      rw [days] at reported
      cases reported
      have kind (v : Value) : Tells
          [form (Named [timeRangeType] v) (.notOneOf "time_range.type" [timeRangeType])]
          (if isOneOf [timeRangeType] v then []
            else [.notOneOf "time_range.type" [timeRangeType]]) :=
        Tells.decided (d := form _ _) isOneOf_iff
      refine .met ⟨fields, rfl⟩ ?_
      simp only [fieldDemands, rangeRules, List.flatMap_cons, List.flatMap_nil, List.append_nil,
        List.append_assoc]
      exact (keys_tell fields _ _).append ((onField_tell ("type", _) fields kind).append
        (part_told ("n", _) fields daysClause_told counted days))
  | _ =>
    cases reported
    exact .broken (by rintro ⟨_, ⟨⟩⟩) .done

theorem comparisonClause_tell (v : Value) : Tells
    (objectDemands "comparison" (fieldDemands ["type"] "comparison" comparisonRules) v)
    (comparisonClause v) := by
  cases v with
  | obj fields =>
    refine .met ⟨fields, rfl⟩ ?_
    simp only [fieldDemands, comparisonRules, List.flatMap_cons, List.flatMap_nil, List.append_nil]
    exact (keys_tell fields _ _).append
      (onField_tell ("type", _) fields (oneOf_tell _ _))
  | _ => exact .broken (by rintro ⟨_, ⟨⟩⟩) .done

theorem filterClause_tell (i : Nat) (v : Value) :
    Tells (filterDemands i v) (filterClause i v) := by
  cases v with
  | obj fields =>
    refine .met ⟨fields, rfl⟩ ?_
    simp only [filterClause, fieldDemands, filterRules, List.flatMap_cons, List.flatMap_nil,
      List.append_nil, List.append_assoc]
    refine (keys_tell fields _ _).append
      ((onField_tell ("field", _) fields (filled_tell _)).append
        ((onField_tell ("op", _) fields (filled_tell _)).append
          (onField_tell ("value", _) fields ?_)))
    intro v
    cases v with
    | str s => exact .met (Or.inl ⟨s, rfl⟩) .done
    | _ => exact Tells.decided (d := form _ _) (isNumber_iff.trans (by simp [form, Numeric]))
  | _ => exact .broken (by rintro ⟨_, ⟨⟩⟩) .done

theorem breakdownsClause_eq_items (v : Value) : breakdownsClause v =
    items "breakdowns" (fun _ => oneOf "breakdown" breakdownNames) v := by
  cases v with
  | list xs =>
    have values := congrArg (List.map (oneOf "breakdown" breakdownNames)) (List.zipIdx_map_fst 0 xs)
    rw [List.map_map] at values
    rw [breakdownsClause, items, List.flatMap_def, ← values]
    rfl
  | _ => rfl

theorem analysisClause_eq_items (v : Value) :
    analysisClause v = items "analysis" (fun _ _ => []) v := by
  cases v with
  | list xs => simp [analysisClause, items]
  | _ => rfl

/-- Each breakdown is asked for at its own place. -/
theorem groups_tell (metric : Metric) (groups : List Breakdown) (i : Nat) : Tells
    ((groups.zipIdx i).map fun b => ⟨.under "breakdowns" (.item b.2 (.here .support)),
      b.1 ∈ metric.breakdowns, .groupUnsupported b.1 metric⟩)
    (supportViolations metric groups) := by
  induction groups generalizing i with
  | nil => exact .done
  | cons b groups ih =>
    rw [List.zipIdx_cons, List.map_cons, supportViolations]
    by_cases has : b ∈ metric.breakdowns
    · rw [List.filter_cons_of_neg (by simpa using has)]
      exact .met has (ih (i + 1))
    · rw [List.filter_cons_of_pos (by simpa using has)]
      exact .broken has (ih (i + 1))

theorem supportClause_tell (fields : Fields) :
    Tells (supportDemands fields) (supportClause fields) := by
  unfold supportDemands supportClause
  cases metricOf? fields with
  | none => exact .done
  | some metric =>
    cases breakdownsOf? fields with
    | none => exact .done
    | some groups => exact groups_tell metric groups 0

/-- What the check reports is what the demands tell. -/
theorem violations_told (fields : Fields) : Told (demands fields) (violations (.obj fields)) := by
  intro found reported
  rw [violations_obj] at reported
  cases range : part timeRangeClause fields "time_range" with
  | error fault =>
    rw [range] at reported
    cases reported
  | ok told =>
    rw [range] at reported
    cases reported
    simp only [demands, fieldDemands, rules, List.flatMap_cons, List.flatMap_nil, List.append_nil,
      List.append_assoc]
    have on {key : String} {clause : Value → List Violation} {rule : Value → List Demand}
        (each : ∀ v, Tells (rule v) (clause v)) :
        Tells (Rule.demands fields (key, rule)) (onField fields key clause) :=
      onField_tell (key, rule) fields each
    have breakdowns (v : Value) := items_tell "breakdowns"
      (fun _ => oneOf_tell "breakdown" breakdownNames) v
    have analysis (v : Value) := items_tell "analysis" (fun _ _ => Tells.done) v
    simp only [← breakdownsClause_eq_items, ← analysisClause_eq_items] at breakdowns analysis
    exact (keys_tell fields _ _).append <| (on (filled_tell _)).append <|
      (on (oneOf_tell _ _)).append <| (on (oneOf_tell _ _)).append <|
      (part_told ("time_range", _) fields timeRangeClause_told told range).append <|
      (on breakdowns).append <| (on comparisonClause_tell).append <| (on analysis).append <|
      (on (items_tell _ filterClause_tell)).append <| (on (oneOf_tell _ _)).append <|
      supportClause_tell fields

/-! ### Another value under a key -/

/-- The rules for other keys do not see what stands under a key. -/
theorem demands_eq_of_others {fields gs : Fields} {rule : Rule}
    (same : gs.get? rule.1 = fields.get? rule.1) : rule.demands gs = rule.demands fields := by
  unfold Rule.demands
  rw [same]

/-- Where rules are for different keys, the demands on a key stand between those on others. -/
theorem exists_between (rules : List Rule) (once : (rules.map (·.1)).Nodup) (fields : Fields)
    (key : String) : ∃ before after, ∀ (v : Value) (gs : Fields), gs.get? key = some v →
      (∀ l, l ≠ key → gs.get? l = fields.get? l) → rules.flatMap (Rule.demands gs) =
        before ++ (rules.filter (·.1 = key)).flatMap (fun rule => (rule.2 v).map (.under key)) ++
          after := by
  induction rules with
  | nil => exact ⟨[], [], fun _ _ _ _ => rfl⟩
  | cons rule rules ih =>
    obtain ⟨new, rest⟩ := List.nodup_cons.mp once
    by_cases here : rule.1 = key
    · refine ⟨[], rules.flatMap (Rule.demands fields), fun v gs found others => ?_⟩
      have away : ∀ other ∈ rules, other.1 ≠ key := fun other mem same =>
        new (List.mem_map.mpr ⟨other, mem, same.trans here.symm⟩)
      have only : rules.filter (·.1 = key) = [] :=
        List.filter_eq_nil_iff.mpr fun other mem => by simpa using away other mem
      have unseen : rules.flatMap (Rule.demands gs) = rules.flatMap (Rule.demands fields) :=
        List.flatMap_congr fun other mem => demands_eq_of_others (others other.1 (away other mem))
      have looked : rule.demands gs = (rule.2 v).map (.under key) := by
        unfold Rule.demands
        rw [here, found]
      rw [List.filter_cons_of_pos (by simpa using here), only, List.flatMap_cons, unseen, looked]
      simp
    · obtain ⟨before, after, between⟩ := ih rest
      refine ⟨rule.demands fields ++ before, after, fun v gs found others => ?_⟩
      rw [List.filter_cons_of_neg (by simpa using here), List.flatMap_cons,
        between v gs found others, demands_eq_of_others (others rule.1 here)]
      simp only [List.append_assoc]

theorem keyDemands_congr {fields gs : Fields} (keys : gs.keys = fields.keys)
    (allowed : List String) (label : String) :
    keyDemands allowed label gs = keyDemands allowed label fields := by
  unfold keyDemands
  rw [keys]

theorem supportDemands_congr {fields gs : Fields}
    (metric : gs.get? "metric" = fields.get? "metric")
    (breakdowns : gs.get? "breakdowns" = fields.get? "breakdowns") :
    supportDemands gs = supportDemands fields := by
  unfold supportDemands metricOf? breakdownsOf?
  rw [metric, breakdowns]

/-- The demands on a key that support does not depend on stand between those on the others. -/
theorem exists_demands_between (fields : Fields) {key : String} (metric : key ≠ "metric")
    (breakdowns : key ≠ "breakdowns") : ∃ before after, ∀ (v : Value) (gs : Fields),
      gs.get? key = some v → Fields.Swapped key fields gs →
        demands gs = before ++ demandsOn key v ++ after := by
  obtain ⟨before, after, between⟩ := exists_between rules (by decide) fields key
  refine ⟨keyDemands Plan.keys "Plan" fields ++ before, after ++ supportDemands fields,
    fun v gs found swapped => ?_⟩
  rw [demands, fieldDemands, keyDemands_congr swapped.keys, between v gs found swapped.others,
    supportDemands_congr (swapped.others _ metric.symm) (swapped.others _ breakdowns.symm)]
  simp only [demandsOn, List.append_assoc]

/-! ### The report of a candidate -/

theorem exists_violations {fields : Fields}
    (fits : ∀ v, fields.get? "time_range" = some v → Leaves.Fits v) :
    ∃ found, violations (.obj fields) = .ok found := by
  cases reported : violations (.obj fields) with
  | ok found => exact ⟨found, rfl⟩
  | error fault =>
    obtain ⟨-, _, range, n, ⟨⟩, there, days, beyond⟩ := (violations_error_iff _ _).mp reported
    have finite := Result.fits_of_get? (fits _ there) days n (.here _)
    rw [Double.isFinite_ofInt_iff] at finite
    exact absurd finite (not_lt.mpr beyond)

/-- The violations of a candidate whose whole numbers have doubles are those of the demands that do
not hold, each once and in order. Together the demands are the grammar. With another value under a
key that support does not depend on, only what is reported of that key may differ. -/
theorem violations_tell {fields : Fields} (fits : Leaves.Fits (.obj fields)) :
    ∃ found, violations (.obj fields) = .ok found ∧ Tells (demands fields) found ∧
      Apart (demands fields) ∧
      ((∀ d ∈ demands fields, d.holds) ↔ Shape (fun _ => True) fields) ∧
      ∀ (key : String) (v w : Value) (gs : Fields), key ≠ "metric" → key ≠ "breakdowns" →
        fields.get? key = some v → gs.get? key = some w → Fields.Swapped key fields gs →
        Leaves.Fits w → ∃ before own other after, found = before ++ own ++ after ∧
          violations (.obj gs) = .ok (before ++ other ++ after) ∧
          Tells (demandsOn key v) own ∧ Tells (demandsOn key w) other := by
  obtain ⟨found, reported⟩ := exists_violations fun v there => Result.fits_of_get? fits there
  have tells := violations_told fields found reported
  refine ⟨found, reported, tells, demands_apart fields, ?_, ?_⟩
  · rw [← tells.nil_iff, ← objectOf_obj (P := Shape fun _ => True), ← violations_eq_nil_iff,
      reported, Except.ok.injEq]
  · intro key v w gs metric breakdowns old new swapped wholes
    obtain ⟨before, after, between⟩ := exists_demands_between fields metric breakdowns
    have bounded (u : Value) (there : gs.get? "time_range" = some u) : Leaves.Fits u := by
      by_cases here : key = "time_range"
      · subst here
        rw [new] at there
        cases there
        exact wholes
      · rw [swapped.others _ (Ne.symm here)] at there
        exact Result.fits_of_get? fits there
    obtain ⟨more, again⟩ := exists_violations bounded
    have first := between v fields old (.refl key fields) ▸ tells
    have second := between w gs new swapped ▸ violations_told gs more again
    obtain ⟨_, tail, rfl, head, behind⟩ := first.exists_of_append
    obtain ⟨front, own, rfl, ahead, told⟩ := head.exists_of_append
    obtain ⟨_, end', rfl, head', behind'⟩ := second.exists_of_append
    obtain ⟨front', other, rfl, ahead', told'⟩ := head'.exists_of_append
    obtain rfl := ahead.unique ahead'
    obtain rfl := behind.unique behind'
    exact ⟨front, own, other, tail, rfl, again, told, told'⟩

/-- Faults of most kinds at once, on several levels. -/
def faultyFields : Fields := [
  ("colour", .str "red"),
  ("game", .str " \t"),
  ("metric", .str "dau"),
  ("granularity", .null),
  ("time_range", .obj [("n", .nat 4000), ("type", .str "all_time"), ("unit", .str "day")]),
  ("breakdowns", .list [.str "country", .str "city", .nat 3, .str "city"]),
  ("comparison", .list []),
  ("filters", .list [.nat 5, .obj [("field", .str "country"), ("value", .dbl .nan)]])]

/-- Without its filters it is reported for all its other faults as before. -/
theorem faulty_tell : ∃ found before own after,
    violations (.obj faultyFields) = .ok found ∧ Tells (demands faultyFields) found ∧
      found.length = 14 ∧ found = before ++ own ++ after ∧ own.length = 3 ∧
      violations (.obj (faultyFields.change "filters" fun _ => .list [])) =
        .ok (before ++ after) := by
  have fits : Leaves.Fits (.obj faultyFields) := Leaves.fits_of_isOk (by decide +kernel)
  obtain ⟨found, reported, tells, -, -, others⟩ := violations_tell fits
  obtain ⟨before, own, other, after, parts, again, told, told'⟩ := others "filters" _ (.list [])
    (faultyFields.change "filters" fun _ => .list []) (by decide) (by decide) rfl rfl
    (Fields.swapped_change faultyFields "filters" _) (Leaves.fits_of_isOk (by decide +kernel))
  have counted : (violations (.obj faultyFields)).map List.length = .ok 14 := by rfl
  have fewer : (violations (.obj (faultyFields.change "filters" fun _ => .list []))).map
      List.length = .ok 11 := by rfl
  have none : other = [] := told'.nil_iff.mpr (by simp [demandsOn, rules, listDemands, form, under])
  subst none
  rw [reported] at counted
  rw [again] at fewer
  have long := Except.ok.inj counted
  have short := Except.ok.inj fewer
  rw [List.append_nil] at again short
  refine ⟨found, before, own, after, reported, tells, long, parts, ?_, again⟩
  rw [parts] at long
  simp only [List.length_append] at long short
  omega

/-- The revenue per user, which has no breakdowns, by a known one and by one that is not. -/
def cityFields : Fields := [
  ("game", .str "all"),
  ("metric", .str "arpdau"),
  ("granularity", .str "day"),
  ("time_range", .obj [("type", .str "last_n_days"), ("n", .nat 7)]),
  ("breakdowns", .list [.str "country", .str "city"]),
  ("comparison", .obj [("type", .str "none")]),
  ("analysis", .list [.str "trend"]),
  ("filters", .list []),
  ("response_mode", .str "short")]

/-- A breakdown that the metric does not support is not reported beside one that is not known. -/
theorem unsupported_hidden : ¬ ∀ (fields : Fields) (found : List Violation) (m : Metric)
    (xs : List Value) (b : Breakdown), Leaves.Fits (.obj fields) →
    violations (.obj fields) = .ok found → fields.get? "metric" = some (.str m.name) →
    fields.get? "breakdowns" = some (.list xs) → .str b.name ∈ xs → b ∉ m.breakdowns →
    .groupUnsupported b m ∈ found := by
  intro all
  have hidden := all cityFields [.unsupported "breakdown" (.str "city") breakdownNames] .arpdau _
    .country (Leaves.fits_of_isOk (by decide +kernel)) rfl rfl rfl (by simp [Breakdown.name])
    (by decide)
  simp at hidden

end Plan
end MetricDesk
