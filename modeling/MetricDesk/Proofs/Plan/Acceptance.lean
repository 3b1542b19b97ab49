import MetricDesk.Proofs.Plan.Grammar

/-! Which candidates become plans. Main statement: `validate_iff_grammar`, exactly those of the
grammar do, and the plan is the candidate with its days as a whole number. -/
namespace MetricDesk

namespace Fields

/-- Something done to the value under a key. -/
def change (fields : Fields) (key : String) (f : Value → Value) : Fields :=
  fields.map fun e => if e.1 = key then (e.1, f e.2) else e

theorem keys_change (fields : Fields) (key : String) (f : Value → Value) :
    (fields.change key f).keys = fields.keys := by
  rw [keys, keys, change, List.map_map]
  refine List.map_congr_left fun e _ => ?_
  simp only [Function.comp]
  split <;> rfl

theorem get?_change (fields : Fields) (key : String) (f : Value → Value) (l : String) :
    (fields.change key f).get? l = if l = key then (fields.get? l).map f else fields.get? l := by
  induction fields with
  | nil => simp [change, get?]
  | cons e fields ih =>
    obtain ⟨k, v⟩ := e
    rw [change] at ih ⊢
    rw [List.map_cons, get?_cons k v]
    by_cases here : k = key
    · simp only [here, if_true, get?_cons, ih]
      by_cases same : key = l
      · simp [same]
      · simp [same, Ne.symm same]
    · simp only [here, if_false, get?_cons, ih]
      by_cases same : k = l
      · subst same
        simp [here]
      · simp [same]

end Fields

namespace Value

/-- Something done to the value under a key of an object. -/
def change (key : String) (f : Value → Value) : Value → Value
  | .obj fields => .obj (Fields.change fields key f)
  | v => v

/-- A double as its whole part. -/
def whole : Value → Value
  | .num (.dbl x) => (x.toInt?.map int).getD (dbl x)
  | v => v

/-- A changed object is alike to one that has the changed value under the key and alike values under
all others. -/
theorem alike_change {fields gs : Fields} {keys : List String} {key : String} {f : Value → Value}
    (once : fields.keys.Nodup) (exact : fields.HasExactly keys) (keysOnce : keys.Nodup)
    (listed : gs.keys = keys)
    (each : ∀ g ∈ gs, ∃ v, fields.get? g.1 = some v ∧ Alike (if g.1 = key then f v else v) g.2) :
    Alike ((Value.obj fields).change key f) (.obj gs) := by
  have same := Fields.keys_change fields key f
  apply alike_of_lookups (by rwa [same]) _ keysOnce listed
  · intro g mem
    obtain ⟨v, found, alike⟩ := each g mem
    refine ⟨_, ?_, alike⟩
    rw [Fields.get?_change, found]
    split <;> rfl
  · intro k
    rw [Fields.has_iff_mem_keys, same, ← Fields.has_iff_mem_keys, exact k]

end Value

namespace Double

theorem toInt?_ofInt {n : Nat} (some : 0 < n) (small : n < 2 ^ 53) :
    (ofInt n).toInt? = .some (n : Int) := by
  obtain ⟨m, e, h, double, value⟩ := quotient_ofInt some small
  rw [double]
  simp [toInt?, Rounding.truncated, value, Nat.mul_div_cancel _ (quotient_pos m e)]

end Double

namespace Plan
open Clause

/-- The candidate with its number of days whole. -/
def wholeDays : Value → Value := Value.change "time_range" (Value.change "n" Value.whole)

/-! ### The parts of a candidate of the right shape -/

theorem daysOf?_of_days {v : Value} {n : Nat} (days : Days v n) (positive : 1 ≤ n)
    (limited : n ≤ maxWindowDays) : daysOf? v = some n ∧ v.whole = .nat n := by
  cases days with
  | whole => exact ⟨rfl, rfl⟩
  | double =>
    have found := Double.toInt?_ofInt positive (limited.trans_lt (by decide))
    constructor
    · simp [daysOf?, Value.dbl, found]
    · simp [Value.whole, Value.dbl, found, Value.int, Value.nat]

/-- A filter of the right shape is read as one and written as it was. -/
theorem FilterShape.read {fields : Fields} (shape : FilterShape fields) :
    ∃ f, filterOf? (.obj fields) = some f ∧
      (fields.keys.Nodup → (Value.obj fields).Alike f.toValue) := by
  obtain ⟨_, field, s, rfl, -⟩ := shape.field
  obtain ⟨_, op, t, rfl, -⟩ := shape.op
  obtain ⟨v, value, kind⟩ := shape.value
  have compared : ∃ w : FilterValue, v = w.toValue := by
    rcases kind with ⟨u, rfl⟩ | ⟨n, rfl, -⟩
    · exact ⟨.text u, rfl⟩
    · exact ⟨.number n, rfl⟩
  obtain ⟨w, rfl⟩ := compared
  refine ⟨⟨s, t, w⟩, ?_, fun once => ?_⟩
  · simp only [filterOf?, field, op, value]
    cases w <;> rfl
  · apply Value.alike_of_lookups once shape.keys (by decide) rfl
    simp only [List.forall_mem_cons]
    exact ⟨⟨_, field, .same _⟩, ⟨_, op, .same _⟩, ⟨_, value, .same _⟩, by simp⟩

theorem read_filters {xs : List Value} (each : ∀ x ∈ xs, ObjectOf FilterShape x) :
    ∃ fs, xs.mapM filterOf? = some fs ∧ ((∀ x ∈ xs, x.Distinct) →
      (Value.list xs).Alike (.list (fs.map Filter.toValue))) := by
  induction xs with
  | nil => exact ⟨[], rfl, fun _ => .same _⟩
  | cons x xs ih =>
    obtain ⟨⟨fields, rfl, shape⟩, others⟩ := List.forall_mem_cons.mp each
    obtain ⟨f, read, first⟩ := shape.read
    obtain ⟨fs, reads, rest⟩ := ih others
    refine ⟨f :: fs, by simp [read, reads], fun distinct => ?_⟩
    obtain ⟨here, there⟩ := List.forall_mem_cons.mp distinct
    exact .item (first (here fields .here)) (rest there)

/-- Fields of the grammar are read as a plan, whose wire form is what they were. -/
theorem Shape.read {fields : Fields} (shape : Shape (fun x => ∃ s, x = .str s) fields) :
    ∃ p, ofValue? (.obj fields) = some p ∧
      ((Value.obj fields).Distinct → (wholeDays (.obj fields)).Alike p.toValue) := by
  obtain ⟨_, game, s, rfl, -⟩ := shape.game
  obtain ⟨_, metric, named⟩ := shape.metric
  obtain ⟨m, rfl⟩ := exists_word named
  obtain ⟨_, granularity, named⟩ := shape.granularity
  obtain ⟨g, rfl⟩ := exists_word named
  obtain ⟨_, range, span, rfl, rangeShape⟩ := shape.range
  obtain ⟨_, type, _, last, rfl⟩ := rangeShape.kind
  obtain rfl := List.mem_singleton.mp last
  obtain ⟨n, count, k, days, positive, limited⟩ := rangeShape.days
  obtain ⟨bs, breakdowns, -⟩ := exists_breakdowns shape.breakdowns
  obtain ⟨_, comparison, compared, rfl, comparisonShape⟩ := shape.comparison
  obtain ⟨_, kind, named⟩ := comparisonShape.kind
  obtain ⟨c, rfl⟩ := exists_word named
  obtain ⟨_, analysis, xs, rfl, texts⟩ := shape.analysis
  obtain ⟨as, rfl⟩ := exists_eq_map texts
  obtain ⟨_, filters, ys, rfl, each⟩ := shape.filters
  obtain ⟨fs, reads, alike⟩ := read_filters each
  obtain ⟨_, mode, named⟩ := shape.mode
  obtain ⟨r, rfl⟩ := exists_word named
  obtain ⟨counted, whole⟩ := daysOf?_of_days days positive limited
  let p : Plan := ⟨s, m, g, k, bs, c, as, fs, r⟩
  have spelled : Spells fields p span compared :=
    { game, metric, granularity, range, breakdowns, comparison, kind, analysis, mode
      days := ⟨n, count, counted⟩, filters := ⟨ys, filters, reads⟩ }
  refine ⟨p, spelled.read, fun distinct => ?_⟩
  have spanned : ((Value.obj span).change "n" .whole).Alike
      (.obj [("type", .str timeRangeType), ("n", .nat k)]) := by
    apply Value.alike_change (distinct.field range span .here) rangeShape.keys (by decide) rfl
    simp only [List.forall_mem_cons]
    refine ⟨⟨_, type, ?_⟩, ⟨n, count, ?_⟩, by simp⟩
    · exact .same _
    · simpa [whole] using .same _
  have chosen : (Value.obj compared).Alike (.obj [("type", .str c.name)]) := by
    apply Value.alike_of_lookups (distinct.field comparison compared .here) comparisonShape.keys
      (by decide) rfl
    simp only [List.forall_mem_cons]
    exact ⟨⟨_, kind, .same _⟩, by simp⟩
  have filtered := alike (Value.distinct_list.mp (distinct.field filters))
  apply Value.alike_change (distinct fields .here) shape.keys (by decide) rfl
  simp only [toFields, List.forall_mem_cons]
  exact ⟨⟨_, game, .same _⟩, ⟨_, metric, .same _⟩, ⟨_, granularity, .same _⟩, ⟨_, range, spanned⟩,
    ⟨_, breakdowns, .same _⟩, ⟨_, comparison, chosen⟩, ⟨_, analysis, .same _⟩,
    ⟨_, filters, filtered⟩, ⟨_, mode, .same _⟩, by simp⟩

theorem Shape.mono {P Q : Value → Prop} {fields : Fields} (shape : Shape P fields)
    (weaker : ∀ v, P v → Q v) : Shape Q fields := by
  obtain ⟨v, found, xs, rfl, each⟩ := shape.analysis
  exact { shape with analysis := ⟨_, found, xs, rfl, fun x mem => weaker x (each x mem)⟩ }

theorem isSome_of_mapM {α β : Type} {read : α → Option β} {xs : List α} {ys : List β}
    (h : xs.mapM read = some ys) : ∀ x ∈ xs, ∃ y, read x = some y := by
  induction xs generalizing ys with
  | nil => rintro x ⟨⟩
  | cons x xs ih =>
    rw [List.mapM_cons] at h
    obtain ⟨first, made, h⟩ := Option.bind_eq_some_iff.mp h
    obtain ⟨others, rest, -⟩ := Option.bind_eq_some_iff.mp h
    exact List.forall_mem_cons.mpr ⟨⟨first, made⟩, ih rest⟩

/-- What has been read as a plan has strings for analyses. -/
theorem Shape.of_read {P : Value → Prop} {fields : Fields} {p : Plan} (shape : Shape P fields)
    (read : ofValue? (.obj fields) = some p) : Shape (fun x => ∃ s, x = .str s) fields := by
  obtain ⟨xs, found, texts⟩ := (readFrom_of_ofValue? read).analysis
  refine { shape with analysis := ⟨_, found, xs, rfl, fun x mem => ?_⟩ }
  obtain ⟨s, text⟩ := isSome_of_mapM texts x mem
  split at text
  · exact ⟨_, rfl⟩
  · cases text

/-! ### Acceptance -/

theorem validate_of_clear {candidate : Value} (clear : violations candidate = .ok []) :
    validate candidate = match ofValue? candidate with
      | some plan => .ok plan
      | none => .error (.schema (partViolations "" candidate)) := by
  unfold validate
  rw [clear]
  cases ofValue? candidate <;> rfl

/-- A plan that has passed the check passes it again, and is read as it was. -/
theorem validate_toValue {p : Plan} (valid : p.Valid) : validate p.toValue = .ok p := by
  rw [validate_of_clear (violations_toValue valid), ofValue?_toValue]

/-- The check lets through exactly the grammar, and checking the plan once more gives it back. The
wire form of the plan is the candidate, if that has no key twice: they differ at most in the order
of keys and in the days, which are whole. -/
theorem validate_iff_grammar (c : Value) :
    ((∃ p, validate c = .ok p) ↔ Grammar c) ∧
      ∀ p, validate c = .ok p →
        validate p.toValue = .ok p ∧ (c.Distinct → (wholeDays c).Alike p.toValue) := by
  have read (found : Grammar c) : ∃ p, validate c = .ok p ∧
      (c.Distinct → (wholeDays c).Alike p.toValue) := by
    obtain ⟨fields, rfl, shape⟩ := found
    obtain ⟨p, read, alike⟩ := shape.read
    have clear := (violations_eq_nil_iff _).mpr ⟨fields, rfl, shape.mono fun _ _ => trivial⟩
    exact ⟨p, by rw [validate_of_clear clear, read], alike⟩
  have shaped {p : Plan} (passed : validate c = .ok p) : Grammar c := by
    obtain ⟨clear, found⟩ := of_validate passed
    obtain ⟨fields, rfl, shape⟩ := (violations_eq_nil_iff c).mp clear
    exact ⟨fields, rfl, shape.of_read found⟩
  refine ⟨⟨fun ⟨p, passed⟩ => shaped passed, fun found => ?_⟩, fun p passed => ?_⟩
  · obtain ⟨p, passed, -⟩ := read found
    exact ⟨p, passed⟩
  · obtain ⟨q, again, alike⟩ := read (shaped passed)
    obtain rfl := Except.ok.inj (again.symm.trans passed)
    exact ⟨validate_toValue (valid_of_validate passed), alike⟩

/-- A week of one country's users, its days a double and its keys in an order of their own. -/
def weekCandidate : Value := .obj [
  ("response_mode", .str "short"),
  ("time_range", .obj [("n", .dbl (.ofInt 7)), ("type", .str "last_n_days")]),
  ("metric", .str "dau"),
  ("filters", .list [.obj [("value", .str "US"), ("op", .str "="), ("field", .str "country")]]),
  ("breakdowns", .list [.str "platform"]),
  ("comparison", .obj [("type", .str "none")]),
  ("analysis", .list []),
  ("granularity", .str "day"),
  ("game", .str "all")]

def weekPlan : Plan where
  game := "all"
  metric := .dau
  granularity := .day
  days := 7
  breakdowns := [.platform]
  comparison := .none
  analysis := []
  filters := [⟨"country", "=", .text "US"⟩]
  mode := .short

theorem validate_weekCandidate : Grammar weekCandidate ∧ validate weekPlan.toValue = .ok weekPlan ∧
    (wholeDays weekCandidate).Alike weekPlan.toValue := by
  have passed : validate weekCandidate = .ok weekPlan := by rfl
  have distinct : weekCandidate.Distinct := by
    simp [weekCandidate, Value.distinct_obj, Value.distinct_list, Value.distinct_str,
      Value.distinct_num, Fields.keys, Value.dbl]
  have accepted := validate_iff_grammar weekCandidate
  obtain ⟨again, alike⟩ := accepted.2 weekPlan passed
  exact ⟨accepted.1.mp ⟨weekPlan, passed⟩, again, alike distinct⟩

end Plan
end MetricDesk
