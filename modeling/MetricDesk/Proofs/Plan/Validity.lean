import MetricDesk.Proofs.Failure
import MetricDesk.Proofs.Number.Whole
import MetricDesk.Proofs.Plan.Wire

/-! Plans that pass their check. Main statements: `valid_of_validate`, what the check lets through
satisfies every clause in its typed form; and `violations_toValue`, such a plan has no violations
when it is checked again. One that is sound but for the length of its window and for breakdowns that
its metric does not have is found to be just that: `violations_of_sound`. -/
namespace MetricDesk

namespace Clause

theorem items_eq_nil {label : String} {clause : Nat → Value → List Violation} {xs : List Value} :
    items label clause (.list xs) = [] ↔ ∀ i x, xs[i]? = some x → clause i x = [] := by
  rw [items, List.flatten_eq_nil_iff]
  simp only [List.forall_mem_map, Prod.forall]
  constructor
  · intro all i x here
    exact all x i (List.mem_zipIdx_iff_getElem?.mpr here)
  · intro all x i mem
    exact all i x (List.mem_zipIdx_iff_getElem?.mp mem)

theorem filled_eq_nil {label : String} {v : Value} : filled label v = [] ↔ isFilled v = true := by
  unfold filled
  split <;> simp_all

theorem isNumber_num (n : Number) : isNumber (.num n) = !n.isNan := rfl

end Clause

/-- What the check demands of a plan beyond its type. -/
structure Plan.Valid (p : Plan) : Prop where
  game : Clause.isFilled (.str p.game) = true
  positive : 0 < p.days
  limited : p.days ≤ maxWindowDays
  supported : ∀ b ∈ p.breakdowns, b ∈ p.metric.breakdowns
  filters : ∀ f ∈ p.filters, Clause.isFilled (.str f.field) = true ∧
    Clause.isFilled (.str f.op) = true ∧ ∀ n, f.value = .number n → n.isNan = false

/-- What can be checked of a plan whatever its window and its breakdowns: its days are some number
that has a double. -/
structure Plan.Sound (p : Plan) : Prop where
  game : Clause.isFilled (.str p.game) = true
  positive : 0 < p.days
  bounded : p.days < Double.beyond
  filters : ∀ f ∈ p.filters, Clause.isFilled (.str f.field) = true ∧
    Clause.isFilled (.str f.op) = true ∧ ∀ n, f.value = .number n → n.isNan = false

theorem Plan.Valid.sound {p : Plan} (valid : p.Valid) : p.Sound where
  game := valid.game
  positive := valid.positive
  bounded := valid.limited.trans_lt (by decide +kernel)
  filters := valid.filters

namespace Plan
open Clause

/-! ### A valid plan is without violations -/

/-- What a window can have against it: that it is too long. -/
def windowViolations (days : Nat) : List Violation :=
  if maxWindowDays < days then [.tooManyDays "time_range.n" maxWindowDays] else []

/-- What breakdowns can have against them: that the metric does not have them. -/
def supportViolations (metric : Metric) (breakdowns : List Breakdown) : List Violation :=
  (breakdowns.filter fun b => !metric.breakdowns.contains b).map (.groupUnsupported · metric)

/-- A number of days is without violation iff it is positive, whole and within the limit; of the
positive ones the clause fails for those without a double. -/
theorem daysClause_num (k : Number) :
    (daysClause (.num k) = .ok [] ↔ k.isNan = false ∧ (k.lt (.int 0) = false ∧ k.isZero = false) ∧
      (∃ x, k.toDouble = .ok x ∧ x.isWhole = true) ∧
      (Number.int maxWindowDays).lt k = false) ∧
    ∀ fault, daysClause (.num k) = .error fault ↔
      k.isNan = false ∧ (k.lt (.int 0) = false ∧ k.isZero = false) ∧ k.toDouble = .error fault := by
  simp only [daysClause]
  cases k.isNan with
  | true => simp
  | false =>
    rw [← Bool.or_eq_false_iff]
    cases k.lt (.int 0) || k.isZero with
    | true => simp
    | false =>
      cases k.toDouble with
      | error fault => simp [bind, Except.bind]
      | ok x =>
        cases whole : x.isWhole <;> cases (Number.int maxWindowDays).lt k <;>
          simp [bind, Except.bind, pure, Except.pure, whole]

theorem daysClause_of_bounded {n : Nat} (positive : 0 < n) (bounded : n < Double.beyond) :
    daysClause (.nat n) = .ok (windowViolations n) := by
  have notNegative : (Number.int n).lt (.int 0) = false := by
    simp [Number.lt, Number.compare?, Int.compare_eq_lt]
  have nonzero : (Number.int n).isZero = false := by
    simp [Number.isZero]
    omega
  have within : (Number.int maxWindowDays).lt (.int n) = decide (maxWindowDays < n) := by
    rw [Bool.eq_iff_iff]
    simp [Number.lt, Number.compare?, Int.compare_eq_lt]
  have double : (Number.int n).toDouble = .ok (Double.ofInt n) := by
    simp [Number.toDouble, (Double.isFinite_ofInt_iff n).mpr bounded]
  have whole := Double.isWhole_ofInt positive bounded
  rw [Value.nat, daysClause, notNegative, nonzero, double]
  change (if (!(Double.ofInt n).isWhole) = true then _ else
    if (Number.int maxWindowDays).lt (.int n) = true then _ else _) = _
  rw [whole, within, windowViolations]
  by_cases long : maxWindowDays < n
  · simp [long]
    rfl
  · simp [long]
    rfl

theorem windowViolations_eq_nil {n : Nat} : windowViolations n = [] ↔ n ≤ maxWindowDays := by
  unfold windowViolations
  split <;> simp <;> omega

theorem daysClause_nat {n : Nat} (positive : 0 < n) (limited : n ≤ maxWindowDays) :
    daysClause (.nat n) = .ok [] := by
  rw [daysClause_of_bounded positive (limited.trans_lt (by decide +kernel)),
    windowViolations_eq_nil.mpr limited]

/-- The violations under a key whose clause may fail; a missing key has none. -/
def part (clause : Value → Except ArithmeticFault (List Violation)) (fields : Fields)
    (key : String) : Except ArithmeticFault (List Violation) :=
  match Fields.get? fields key with
  | some v => clause v
  | none => .ok []

theorem part_of_get? {clause : Value → Except ArithmeticFault (List Violation)} {fields : Fields}
    {key : String} {v : Value} (found : Fields.get? fields key = some v) :
    part clause fields key = clause v := by
  rw [part, found]

theorem timeRangeClause_obj (fields : Fields) :
    timeRangeClause (.obj fields) = (part daysClause fields "n").map fun days =>
      Clause.keys fields ["type", "n"] "time_range"
        ++ onField fields "type" (fun v =>
          if isOneOf [timeRangeType] v then [] else [.notOneOf "time_range.type" [timeRangeType]])
        ++ days := by
  simp only [timeRangeClause, part]
  cases Fields.get? fields "n" with
  | none => rfl
  | some v =>
    change (daysClause v >>= _) = (daysClause v).map _
    cases daysClause v <;> rfl

theorem violations_obj (fields : Fields) :
    violations (.obj fields) = (part timeRangeClause fields "time_range").map fun timeRange =>
      Clause.keys fields Plan.keys "Plan"
        ++ onField fields "game" (filled "game")
        ++ onField fields "metric" (oneOf "metric" (Metric.all.map (·.name)))
        ++ onField fields "granularity" (oneOf "granularity" (Granularity.all.map (·.name)))
        ++ timeRange
        ++ onField fields "breakdowns" breakdownsClause
        ++ onField fields "comparison" comparisonClause
        ++ onField fields "analysis" analysisClause
        ++ onField fields "filters" (items "filters" filterClause)
        ++ onField fields "response_mode"
          (oneOf "response_mode" (ResponseMode.all.map (·.name)))
        ++ supportClause fields := by
  simp only [violations, part]
  cases Fields.get? fields "time_range" with
  | none => rfl
  | some v =>
    change (timeRangeClause v >>= _) = (timeRangeClause v).map _
    cases timeRangeClause v <;> rfl

theorem timeRangeClause_of_bounded {n : Nat} (positive : 0 < n) (bounded : n < Double.beyond) :
    timeRangeClause (.obj [("type", .str timeRangeType), ("n", .nat n)]) =
      .ok (windowViolations n) := by
  have days : part daysClause [("type", .str timeRangeType), ("n", .nat n)] "n" =
      .ok (windowViolations n) := daysClause_of_bounded positive bounded
  rw [timeRangeClause_obj, days]
  rfl

theorem filterClause_toValue {f : Filter} (i : Nat) (field : isFilled (.str f.field) = true)
    (op : isFilled (.str f.op) = true) (number : ∀ n, f.value = .number n → n.isNan = false) :
    filterClause i f.toValue = [] := by
  have label (l : String) : filled l (.str f.field) = [] ∧ filled l (.str f.op) = [] :=
    ⟨filled_eq_nil.mpr field, filled_eq_nil.mpr op⟩
  change Clause.keys [("field", .str f.field), ("op", .str f.op), ("value", f.value.toValue)]
    ["field", "op", "value"] _ ++ filled _ (.str f.field) ++ filled _ (.str f.op) ++ _ = []
  rw [(label _).1, (label _).2]
  cases found : f.value with
  | text s => rfl
  | number n =>
    change (if isNumber (.num n) then [] else [Violation.notTextOrNumber _]) = []
    simp [isNumber_num, number n found]

theorem breakdownsOf?_toValue (p : Plan) : breakdownsOf? p.toFields = some p.breakdowns :=
  mapM_of_inverse _ (fun b : Breakdown => Value.str b.name) Breakdown.ofName?_name p.breakdowns

theorem supportViolations_eq_nil {metric : Metric} {breakdowns : List Breakdown} :
    supportViolations metric breakdowns = [] ↔ ∀ b ∈ breakdowns, b ∈ metric.breakdowns := by
  simp [supportViolations, List.filter_eq_nil_iff]

/-- All that is found in the wire form of a sound plan. -/
theorem violations_of_sound {p : Plan} (sound : p.Sound) : violations p.toValue =
    .ok (windowViolations p.days ++ supportViolations p.metric p.breakdowns) := by
  have timeRange : part timeRangeClause p.toFields "time_range" = .ok (windowViolations p.days) :=
    timeRangeClause_of_bounded sound.positive sound.bounded
  have keys : Clause.keys p.toFields Plan.keys "Plan" = [] := rfl
  have game : onField p.toFields "game" (filled "game") = [] := filled_eq_nil.mpr sound.game
  have metric : onField p.toFields "metric" (oneOf "metric" (Metric.all.map (·.name))) = [] := by
    change oneOf _ _ (.str p.metric.name) = []
    cases p.metric <;> rfl
  have granularity : onField p.toFields "granularity"
      (oneOf "granularity" (Granularity.all.map (·.name))) = [] := by
    change oneOf _ _ (.str p.granularity.name) = []
    cases p.granularity <;> rfl
  have breakdowns : onField p.toFields "breakdowns" breakdownsClause = [] := by
    change List.flatMap _ (p.breakdowns.map fun b => Value.str b.name) = []
    rw [List.flatMap_eq_nil_iff]
    intro v mem
    obtain ⟨b, -, rfl⟩ := List.mem_map.mp mem
    cases b <;> rfl
  have comparison : onField p.toFields "comparison" comparisonClause = [] := by
    change Clause.keys _ _ _ ++ oneOf _ _ (.str p.comparison.name) = []
    cases p.comparison <;> rfl
  have analysis : onField p.toFields "analysis" analysisClause = [] := rfl
  have filters : onField p.toFields "filters" (items "filters" filterClause) = [] := by
    change items "filters" filterClause (.list (p.filters.map Filter.toValue)) = []
    rw [items_eq_nil]
    intro i v here
    obtain ⟨f, mem, rfl⟩ := List.mem_map.mp (List.mem_of_getElem? here)
    obtain ⟨field, op, number⟩ := sound.filters f mem
    exact filterClause_toValue i field op number
  have mode : onField p.toFields "response_mode"
      (oneOf "response_mode" (ResponseMode.all.map (·.name))) = [] := by
    change oneOf _ _ (.str p.mode.name) = []
    cases p.mode <;> rfl
  have support : supportClause p.toFields = supportViolations p.metric p.breakdowns := by
    have named : metricOf? p.toFields = some p.metric := Metric.ofName?_name p.metric
    rw [supportClause, named, breakdownsOf?_toValue]
    rfl
  rw [toValue, violations_obj, timeRange, Except.map, keys, game, metric, granularity, breakdowns,
    comparison, analysis, filters, mode, support]
  simp only [List.nil_append, List.append_nil]

theorem violations_toValue {p : Plan} (valid : p.Valid) : violations p.toValue = .ok [] := by
  rw [violations_of_sound valid.sound, windowViolations_eq_nil.mpr valid.limited,
    supportViolations_eq_nil.mpr valid.supported]
  rfl

/-! ### What passes the check is valid -/

theorem of_validate {candidate : Value} {p : Plan} (h : validate candidate = .ok p) :
    violations candidate = .ok [] ∧ ofValue? candidate = some p := by
  unfold validate at h
  cases found : violations candidate with
  | error fault => rw [found] at h; cases h
  | ok vs =>
    rw [found] at h
    cases vs with
    | cons v vs => cases h
    | nil =>
      cases read : ofValue? candidate with
      | none => rw [read] at h; cases h
      | some q => rw [read] at h; cases h; exact ⟨rfl, rfl⟩

/-- The parts of a plan that has been read, under their keys. -/
structure ReadFrom (p : Plan) (fields : Fields) : Prop where
  game : Fields.get? fields "game" = some (.str p.game)
  metric : metricOf? fields = some p.metric
  breakdowns : breakdownsOf? fields = some p.breakdowns
  days : ∃ range n, Fields.get? fields "time_range" = some (.obj range) ∧
    Fields.get? range "n" = some n ∧ daysOf? n = some p.days
  analysis : ∃ xs, Fields.get? fields "analysis" = some (.list xs) ∧
    xs.mapM (fun | .str s => some s | _ => none) = some p.analysis
  filters : ∃ xs, Fields.get? fields "filters" = some (.list xs) ∧
    xs.mapM filterOf? = some p.filters

theorem readFrom_of_ofValue? {fields : Fields} {p : Plan} (h : ofValue? (.obj fields) = some p) :
    p.ReadFrom fields := by
  simp only [ofValue?, Option.bind_eq_bind] at h
  obtain ⟨_, game, h⟩ := Option.bind_eq_some_iff.mp h
  split at h
  on_goal 2 => cases h
  obtain ⟨_, metric, h⟩ := Option.bind_eq_some_iff.mp h
  obtain ⟨_, -, h⟩ := Option.bind_eq_some_iff.mp h
  split at h
  on_goal 2 => cases h
  obtain ⟨_, timeRange, h⟩ := Option.bind_eq_some_iff.mp h
  split at h
  on_goal 2 => cases h
  obtain ⟨_, days, h⟩ := Option.bind_eq_some_iff.mp h
  obtain ⟨n, found, read⟩ := Option.bind_eq_some_iff.mp days
  obtain ⟨_, breakdowns, h⟩ := Option.bind_eq_some_iff.mp h
  obtain ⟨_, -, h⟩ := Option.bind_eq_some_iff.mp h
  split at h
  on_goal 2 => cases h
  obtain ⟨_, -, h⟩ := Option.bind_eq_some_iff.mp h
  split at h
  on_goal 2 => cases h
  obtain ⟨_, analysis, h⟩ := Option.bind_eq_some_iff.mp h
  split at h
  on_goal 2 => cases h
  obtain ⟨_, filters, h⟩ := Option.bind_eq_some_iff.mp h
  split at h
  on_goal 2 => cases h
  obtain ⟨_, -, h⟩ := Option.bind_eq_some_iff.mp h
  split at h
  on_goal 2 => cases h
  obtain ⟨_, -, h⟩ := Option.bind_eq_some_iff.mp h
  obtain ⟨_, -, h⟩ := Option.bind_eq_some_iff.mp h
  obtain ⟨_, texts, h⟩ := Option.bind_eq_some_iff.mp h
  obtain ⟨_, collected, h⟩ := Option.bind_eq_some_iff.mp h
  obtain ⟨_, -, h⟩ := Option.bind_eq_some_iff.mp h
  cases h
  exact
    { game, metric, breakdowns
      days := ⟨_, n, timeRange, found, read⟩
      analysis := ⟨_, analysis, texts⟩
      filters := ⟨_, filters, collected⟩ }

/-- A number of days without violation that is a double has a whole part in range. -/
theorem toInt_of_clear {x : Double} (negative : (Number.dbl x).lt (.int 0) = false)
    (nonzero : x.isZero = false) (whole : x.isWhole = true)
    (within : (Number.int maxWindowDays).lt (.dbl x) = false) :
    ∃ k : Nat, x.toInt? = some (k : Int) ∧ 0 < k ∧ k ≤ maxWindowDays := by
  cases x with
  | nan => cases whole
  | infinite => cases whole
  | finite s m e h =>
    have bPos := Double.quotient_pos m e
    have size := Double.quotient_size m e
    simp only [Double.isWhole, beq_iff_eq] at whole
    simp only [Number.lt, Number.compare?, Number.compareInt] at negative within
    simp only [Double.toInt?, Rounding.truncated]
    have aPos : 0 < (Double.quotient m e).1 := by
      rcases Nat.eq_zero_or_pos m with rfl | some
      · cases nonzero
      · by_contra none
        rw [Nat.eq_zero_of_not_pos none] at size
        have := Digits.size_pos some e
        simp [← size] at this
    generalize (Double.quotient m e).1 = a at *
    generalize (Double.quotient m e).2 = b at *
    obtain ⟨q, rfl⟩ := Nat.dvd_of_mod_eq_zero whole
    have qPos : 0 < q := Nat.pos_of_mul_pos_left aPos
    have unsigned : s = false := by
      cases s with
      | false => rfl
      | true =>
        simp [Int.compare_eq_gt] at negative
        omega
    subst unsigned
    refine ⟨q, by simp [Nat.mul_div_cancel_left _ bPos], qPos, ?_⟩
    by_contra beyond
    have : (maxWindowDays : Int) * b < ((b * q : Nat) : Int) := by
      rw [Nat.mul_comm b q]
      exact_mod_cast Nat.mul_lt_mul_of_pos_right (not_le.mp beyond) bPos
    simp [Int.compare_eq_lt] at within
    omega

theorem days_of_daysClause {v : Value} {n : Nat} (clear : daysClause v = .ok [])
    (read : daysOf? v = some n) : 0 < n ∧ n ≤ maxWindowDays := by
  cases v with
  | num k =>
    obtain ⟨-, ⟨negative, nonzero⟩, ⟨x, double, whole⟩, within⟩ :=
      (daysClause_num k).1.mp clear
    cases k with
    | int k =>
      cases read
      simp only [Number.lt, Number.compare?, Number.isZero] at negative nonzero within
      simp [Int.compare_eq_lt] at negative nonzero within
      omega
    | dbl y =>
      cases double
      obtain ⟨k, found, bounds⟩ := toInt_of_clear negative nonzero whole within
      rw [daysOf?, found] at read
      cases read
      exact bounds
  | _ => cases read

theorem mem_of_mapM {α β : Type} {read : α → Option β} {xs : List α} {ys : List β}
    (h : xs.mapM read = some ys) : ∀ y ∈ ys, ∃ x ∈ xs, read x = some y := by
  induction xs generalizing ys with
  | nil =>
    rw [List.mapM_nil] at h
    cases h
    rintro y ⟨⟩
  | cons x xs ih =>
    rw [List.mapM_cons] at h
    obtain ⟨first, made, h⟩ := Option.bind_eq_some_iff.mp h
    obtain ⟨others, rest, h⟩ := Option.bind_eq_some_iff.mp h
    cases h
    intro y mem
    rcases List.mem_cons.mp mem with rfl | mem
    · exact ⟨x, List.mem_cons_self, made⟩
    · obtain ⟨x', mem', made'⟩ := ih rest y mem
      exact ⟨x', List.mem_cons_of_mem _ mem', made'⟩

/-- A clause on a field that is there. -/
theorem onField_of_get? {fields : Fields} {key : String} {v : Value}
    {clause : Value → List Violation} (found : Fields.get? fields key = some v) :
    onField fields key clause = clause v := by
  rw [onField, found]

theorem of_filterOf? {i : Nat} {v : Value} {f : Filter} (clear : filterClause i v = [])
    (read : filterOf? v = some f) : isFilled (.str f.field) = true ∧
      isFilled (.str f.op) = true ∧ ∀ n, f.value = .number n → n.isNan = false := by
  cases v with
  | obj fields =>
    simp only [filterOf?, Option.bind_eq_bind] at read
    obtain ⟨_, field, read⟩ := Option.bind_eq_some_iff.mp read
    split at read
    on_goal 2 => cases read
    obtain ⟨_, op, read⟩ := Option.bind_eq_some_iff.mp read
    split at read
    on_goal 2 => cases read
    simp only [filterClause, List.append_eq_nil_iff, onField_of_get? field, onField_of_get? op,
      filled_eq_nil] at clear
    obtain ⟨⟨⟨-, fieldFilled⟩, opFilled⟩, value⟩ := clear
    split at read
    · cases read
      exact ⟨fieldFilled, opFilled, by rintro n ⟨⟩⟩
    · next n found =>
      cases read
      rw [onField_of_get? found] at value
      refine ⟨fieldFilled, opFilled, ?_⟩
      rintro k ⟨⟩
      simpa [isNumber_num] using value
    · cases read
  | _ => cases read

/-- What the check lets through satisfies each of its clauses. -/
theorem valid_of_validate {candidate : Value} {p : Plan} (h : validate candidate = .ok p) :
    p.Valid := by
  obtain ⟨clear, read⟩ := of_validate h
  cases candidate with
  | obj fields =>
    obtain ⟨game, metric, breakdowns, ⟨range, n, timeRange, found, days⟩, -, xs, filters,
      collected⟩ := readFrom_of_ofValue? read
    rw [violations_obj, part_of_get? timeRange, timeRangeClause_obj, part_of_get? found] at clear
    cases counted : daysClause n with
    | error fault => rw [counted] at clear; cases clear
    | ok vs =>
      rw [counted] at clear
      have all := Except.ok.inj clear
      simp only [List.append_eq_nil_iff, onField_of_get? game, onField_of_get? filters,
        filled_eq_nil, items_eq_nil] at all
      obtain ⟨⟨⟨⟨⟨⟨⟨⟨⟨⟨-, gameFilled⟩, -⟩, -⟩, -, empty⟩, -⟩, -⟩, -⟩, filtersClear⟩, -⟩, support⟩ :=
        all
      obtain ⟨positive, limited⟩ := days_of_daysClause (by rw [counted, empty]) days
      refine ⟨gameFilled, positive, limited, ?_, ?_⟩
      · intro b mem
        rw [supportClause, metric, breakdowns] at support
        simp only [List.map_eq_nil_iff, List.filter_eq_nil_iff] at support
        simpa using support b mem
      · intro f mem
        obtain ⟨x, listed, readFilter⟩ := mem_of_mapM collected f mem
        obtain ⟨i, here⟩ := List.getElem?_of_mem listed
        exact of_filterOf? (filtersClear i x here) readFilter
  | _ => cases read

end Plan
end MetricDesk
