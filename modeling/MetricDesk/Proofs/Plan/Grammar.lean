import Mathlib.Data.List.TakeWhile
import Mathlib.Data.Set.List
import Mathlib.Tactic.MkIffOfInductiveProp
import MetricDesk.Proofs.Number.Whole
import MetricDesk.Proofs.Plan.Validity
import MetricDesk.Proofs.Value.Alike

/-! The grammar of plans, said without the check. Main statement: `violations_eq_nil_iff`, the
candidates without violations are those of the grammar's shape, whatever stands among the
analyses. -/
namespace MetricDesk

/-! ### Forms of values -/

/-- A string with a character other than white space. -/
def Words (v : Value) : Prop := ∃ s, v = .str s ∧ ∃ c ∈ s.toList, Text.isBlank c = false

/-- One of these names. -/
def Named (names : List String) (v : Value) : Prop := ∃ s ∈ names, v = .str s

def ListOf (P : Value → Prop) (v : Value) : Prop := ∃ xs, v = .list xs ∧ ∀ x ∈ xs, P x

def ObjectOf (P : Fields → Prop) (v : Value) : Prop := ∃ fields, v = .obj fields ∧ P fields

theorem listOf_list {P : Value → Prop} {xs : List Value} : ListOf P (.list xs) ↔ ∀ x ∈ xs, P x := by
  simp [ListOf]

theorem objectOf_obj {P : Fields → Prop} {fields : Fields} :
    ObjectOf P (.obj fields) ↔ P fields := by
  simp [ObjectOf]

/-- A list of things that are each written in one way. -/
theorem exists_eq_map {α : Type} {write : α → Value} {xs : List Value}
    (each : ∀ x ∈ xs, ∃ a, x = write a) : ∃ as : List α, xs = as.map write := by
  have inRange : xs ∈ Set.range (List.map write) := by
    rw [Set.range_list_map]
    exact fun x mem => (each x mem).imp fun _ => Eq.symm
  exact inRange.imp fun _ => Eq.symm

/-- So many days, as a whole number or as the double of one. -/
inductive Days : Value → Nat → Prop where
  | whole (n : Nat) : Days (.nat n) n
  | double (n : Nat) : Days (.dbl (.ofInt n)) n

/-- A name of a vocabulary is the name of a word in it. -/
theorem exists_word {α : Type} {words : List α} {name : α → String} {v : Value}
    (named : Named (words.map name) v) : ∃ w, v = .str (name w) := by
  obtain ⟨s, mem, rfl⟩ := named
  obtain ⟨w, -, rfl⟩ := List.mem_map.mp mem
  exact ⟨w, rfl⟩

namespace Plan

@[mk_iff]
structure RangeShape (fields : Fields) : Prop where
  keys : fields.HasExactly ["type", "n"]
  kind : fields.Under "type" (Named [timeRangeType])
  days : fields.Under "n" fun v => ∃ n, Days v n ∧ 1 ≤ n ∧ n ≤ maxWindowDays

@[mk_iff]
structure ComparisonShape (fields : Fields) : Prop where
  keys : fields.HasExactly ["type"]
  kind : fields.Under "type" (Named (Comparison.all.map (·.name)))

/-- A filter compares with a string or with a number that is one. -/
@[mk_iff]
structure FilterShape (fields : Fields) : Prop where
  keys : fields.HasExactly ["field", "op", "value"]
  field : fields.Under "field" Words
  op : fields.Under "op" Words
  value : fields.Under "value" fun v =>
    (∃ s, v = .str s) ∨ ∃ n : Number, v = .num n ∧ n.isNan = false

/-- The metric supports each of the breakdowns. -/
def Supported (fields : Fields) : Prop :=
  ∀ (m : Metric) (xs : List Value), fields.get? "metric" = some (.str m.name) →
    fields.get? "breakdowns" = some (.list xs) →
    ∀ b : Breakdown, .str b.name ∈ xs → b ∈ m.breakdowns

/-- The fields of a plan whose analyses are of a kind. -/
@[mk_iff]
structure Shape (entry : Value → Prop) (fields : Fields) : Prop where
  keys : fields.HasExactly Plan.keys
  game : fields.Under "game" Words
  metric : fields.Under "metric" (Named (Metric.all.map (·.name)))
  granularity : fields.Under "granularity" (Named (Granularity.all.map (·.name)))
  range : fields.Under "time_range" (ObjectOf RangeShape)
  breakdowns : fields.Under "breakdowns" (ListOf (Named breakdownNames))
  comparison : fields.Under "comparison" (ObjectOf ComparisonShape)
  analysis : fields.Under "analysis" (ListOf entry)
  filters : fields.Under "filters" (ListOf (ObjectOf FilterShape))
  mode : fields.Under "response_mode" (Named (ResponseMode.all.map (·.name)))
  supported : Supported fields

/-- The plan grammar: an object with the keys of a plan and the right thing under each. -/
def Grammar (v : Value) : Prop := ObjectOf (Shape fun x => ∃ s, x = .str s) v

end Plan

/-! ### What the shared clauses demand -/

namespace Text

theorem trimmed_eq_nil {cs : List Char} : trimmed cs = [] ↔ ∀ c ∈ cs, isBlank c = true := by
  rw [trimmed, List.reverse_eq_nil_iff, List.dropWhile_eq_nil_iff]
  simp only [List.mem_reverse]
  constructor
  · intro rest
    have none : cs.dropWhile isBlank = [] := by
      by_contra some
      have first := List.head_dropWhile_not isBlank some
      rw [rest _ (List.head_mem some)] at first
      cases first
    exact List.dropWhile_eq_nil_iff.mp none
  · intro all c mem
    exact all c ((List.dropWhile_sublist _).mem mem)

end Text

namespace Clause

theorem isFilled_iff {v : Value} : isFilled v = true ↔ Words v := by
  cases v with
  | str s =>
    have only : Words (.str s) ↔ ¬ ∀ c ∈ s.toList, Text.isBlank c = true := by
      simp [Words]
    rw [only, ← Text.trimmed_eq_nil, isFilled]
    simp
  | _ => exact iff_of_false (by rintro ⟨⟩) (by rintro ⟨s, ⟨⟩, -⟩)

theorem filled_eq_nil_iff {label : String} (v : Value) : filled label v = [] ↔ Words v :=
  filled_eq_nil.trans isFilled_iff

theorem isOneOf_iff {allowed : List String} {v : Value} :
    isOneOf allowed v = true ↔ Named allowed v := by
  cases v with
  | str s => simp [isOneOf, Named]
  | _ => exact iff_of_false (by rintro ⟨⟩) (by rintro ⟨s, -, ⟨⟩⟩)

theorem oneOf_eq_nil_iff {what : String} {allowed : List String} (v : Value) :
    oneOf what allowed v = [] ↔ Named allowed v := by
  rw [← isOneOf_iff, oneOf]
  split <;> simp_all

theorem isNumber_iff {v : Value} :
    isNumber v = true ↔ ∃ n : Number, v = .num n ∧ n.isNan = false := by
  cases v with
  | num n => simp [isNumber]
  | _ => exact iff_of_false (by rintro ⟨⟩) (by rintro ⟨n, ⟨⟩, -⟩)

/-- No key too many and none missing. -/
theorem keys_eq_nil_iff {fields : Fields} {allowed : List String} {label : String} :
    keys fields allowed label = [] ↔ fields.HasExactly allowed := by
  have none {xs : List String} {v : Violation} :
      (if xs.isEmpty then [] else [v]) = [] ↔ xs = [] := by
    cases xs <;> simp
  rw [keys, List.append_eq_nil_iff, none, none, List.filter_eq_nil_iff, List.filter_eq_nil_iff]
  simp only [Bool.not_eq_true', Bool.not_eq_false, List.contains_iff_mem]
  constructor
  · rintro ⟨allowedOnly, present⟩ k
    exact ⟨fun has => allowedOnly k (Fields.has_iff_mem_keys.mp has), present k⟩
  · intro exact
    exact ⟨fun k mem => (exact k).mp (Fields.has_iff_mem_keys.mpr mem),
      fun k mem => (exact k).mpr mem⟩

/-- A clause on a field that has to be there. -/
theorem onField_eq_nil_iff {fields : Fields} {key : String} {clause : Value → List Violation}
    {P : Value → Prop} (there : fields.has key = true) (means : ∀ v, clause v = [] ↔ P v) :
    onField fields key clause = [] ↔ fields.Under key P := by
  obtain ⟨v, found⟩ := Fields.has_iff_get?.mp there
  rw [Plan.onField_of_get? found, means, Fields.Under, found]
  simp

theorem items_eq_nil_iff {label : String} {clause : Nat → Value → List Violation}
    {P : Value → Prop} (means : ∀ i v, clause i v = [] ↔ P v) (v : Value) :
    items label clause v = [] ↔ ListOf P v := by
  cases v with
  | list xs =>
    rw [listOf_list, items_eq_nil]
    simp only [means]
    constructor
    · intro all x mem
      obtain ⟨i, here⟩ := List.getElem?_of_mem mem
      exact all i x here
    · exact fun all i x here => all x (List.mem_of_getElem? here)
  | _ => exact iff_of_false (by rintro ⟨⟩) (by rintro ⟨xs, ⟨⟩, -⟩)

end Clause

namespace Plan
open Clause

/-- A clause that may fail, on a field that has to be there. -/
theorem part_eq_nil_iff {fields : Fields} {key : String}
    {clause : Value → Except ArithmeticFault (List Violation)} {P : Value → Prop}
    (there : fields.has key = true) (means : ∀ v, clause v = .ok [] ↔ P v) :
    part clause fields key = .ok [] ↔ fields.Under key P := by
  obtain ⟨v, found⟩ := Fields.has_iff_get?.mp there
  rw [part_of_get? found, means, Fields.Under, found]
  simp

/-! ### What the clauses of a plan demand -/

theorem daysClause_double {n : Nat} (positive : 1 ≤ n) (limited : n ≤ maxWindowDays) :
    daysClause (.dbl (.ofInt n)) = .ok [] := by
  obtain ⟨m, e, h, double, value⟩ :=
    Double.quotient_ofInt positive (limited.trans_lt (by decide))
  have whole := Double.isWhole_ofInt positive (limited.trans_lt (by decide +kernel))
  have bPos := Double.quotient_pos m e
  have aPos : 0 < (Double.quotient m e).1 := by rw [value]; exact Nat.mul_pos positive bPos
  have mPos : m ≠ 0 := by
    rintro rfl
    have size := Double.quotient_size 0 e
    simp [Double.size] at size
    omega
  refine (daysClause_num _).1.mpr ⟨?_, ⟨?_, ?_⟩, ⟨_, rfl, whole⟩, ?_⟩ <;> rw [double]
  · rfl
  · simp [Number.lt, Number.compare?, Number.compareInt, Int.compare_eq_gt]
  · simp [Number.isZero, Double.isZero, mPos]
  · simp only [Number.lt, Number.compare?, Number.compareInt, value]
    have := Nat.mul_le_mul_right (Double.quotient m e).2 limited
    simp [Int.compare_eq_lt]
    exact_mod_cast this

/-- The days of a plan: a whole number from one to the limit. -/
theorem daysClause_iff (v : Value) :
    daysClause v = .ok [] ↔ ∃ n, Days v n ∧ 1 ≤ n ∧ n ≤ maxWindowDays := by
  constructor
  · intro clear
    cases v with
    | num k =>
      obtain ⟨-, ⟨negative, nonzero⟩, ⟨x, double, whole⟩, within⟩ :=
        (daysClause_num k).1.mp clear
      cases k with
      | int k =>
        simp only [Number.lt, Number.compare?, Number.isZero] at negative nonzero within
        simp [Int.compare_eq_lt] at negative nonzero within
        obtain ⟨n, rfl⟩ := Int.eq_ofNat_of_zero_le negative
        exact ⟨n, .whole n, by omega, by omega⟩
      | dbl y =>
        cases double
        obtain ⟨n, found, positive, limited⟩ := toInt_of_clear negative nonzero whole within
        rw [Double.eq_ofInt_of_toInt? whole found positive]
        exact ⟨n, .double n, positive, limited⟩
    | _ => cases clear
  · rintro ⟨n, days, positive, limited⟩
    cases days with
    | whole => exact daysClause_nat positive limited
    | double => exact daysClause_double positive limited

theorem timeRangeClause_iff (v : Value) : timeRangeClause v = .ok [] ↔ ObjectOf RangeShape v := by
  cases v with
  | obj fields =>
    have kind (v : Value) : (if isOneOf [timeRangeType] v then []
        else [Violation.notOneOf "time_range.type" [timeRangeType]]) = [] ↔
        Named [timeRangeType] v := by
      rw [← isOneOf_iff]
      split <;> simp_all
    have clear : timeRangeClause (.obj fields) = .ok [] ↔ Fields.HasExactly fields ["type", "n"] ∧
        (onField fields "type" fun v => if isOneOf [timeRangeType] v then []
          else [.notOneOf "time_range.type" [timeRangeType]]) = [] ∧
        part daysClause fields "n" = .ok [] := by
      rw [timeRangeClause_obj]
      cases part daysClause fields "n" with
      | error fault => simp [Except.map]
      | ok found =>
        simp only [Except.map, Except.ok.injEq, List.append_eq_nil_iff, keys_eq_nil_iff, and_assoc]
    rw [objectOf_obj, rangeShape_iff, clear]
    exact and_congr_right fun keys => and_congr (onField_eq_nil_iff (keys.has (by simp)) kind)
      (part_eq_nil_iff (keys.has (by simp)) daysClause_iff)
  | _ => exact iff_of_false (by rintro ⟨⟩) (by rintro ⟨fields, ⟨⟩, -⟩)

theorem comparisonClause_iff (v : Value) :
    comparisonClause v = [] ↔ ObjectOf ComparisonShape v := by
  cases v with
  | obj fields =>
    rw [objectOf_obj, comparisonShape_iff, comparisonClause, List.append_eq_nil_iff,
      keys_eq_nil_iff]
    exact and_congr_right fun keys => onField_eq_nil_iff (keys.has (by simp)) oneOf_eq_nil_iff
  | _ => exact iff_of_false (by rintro ⟨⟩) (by rintro ⟨fields, ⟨⟩, -⟩)

theorem filterClause_iff (i : Nat) (v : Value) :
    filterClause i v = [] ↔ ObjectOf FilterShape v := by
  cases v with
  | obj fields =>
    rw [objectOf_obj, filterShape_iff]
    simp only [filterClause, List.append_eq_nil_iff, keys_eq_nil_iff, and_assoc]
    refine and_congr_right fun keys =>
      and_congr (onField_eq_nil_iff (keys.has (by simp)) filled_eq_nil_iff)
        (and_congr (onField_eq_nil_iff (keys.has (by simp)) filled_eq_nil_iff)
          (onField_eq_nil_iff (keys.has (by simp)) fun v => ?_))
    rw [← isNumber_iff]
    cases v <;> simp
  | _ => exact iff_of_false (by rintro ⟨⟩) (by rintro ⟨fields, ⟨⟩, -⟩)

theorem breakdownsClause_iff (v : Value) :
    breakdownsClause v = [] ↔ ListOf (Named breakdownNames) v := by
  cases v with
  | list xs => simp only [breakdownsClause, List.flatMap_eq_nil_iff, oneOf_eq_nil_iff, listOf_list]
  | _ => exact iff_of_false (by rintro ⟨⟩) (by rintro ⟨xs, ⟨⟩, -⟩)

theorem analysisClause_iff (v : Value) : analysisClause v = [] ↔ ListOf (fun _ => True) v := by
  cases v with
  | list xs => exact iff_of_true rfl ⟨xs, rfl, fun _ _ => trivial⟩
  | _ => exact iff_of_false (by rintro ⟨⟩) (by rintro ⟨xs, ⟨⟩, -⟩)

theorem metricOf?_eq_some_iff {fields : Fields} {m : Metric} :
    metricOf? fields = some m ↔ fields.get? "metric" = some (.str m.name) := by
  have name {s : String} (found : Metric.ofName? s = some m) : s = m.name := by
    have same := List.find?_some found
    exact (beq_iff_eq.mp same).symm
  constructor
  · intro found
    unfold metricOf? at found
    split at found
    · next s there => rw [there, name found]
    · cases found
  · intro found
    rw [metricOf?, found]
    exact Metric.ofName?_name m

/-- The breakdowns of a list of their names. -/
theorem exists_breakdowns {fields : Fields}
    (named : fields.Under "breakdowns" (ListOf (Named breakdownNames))) :
    ∃ bs : List Breakdown,
      fields.get? "breakdowns" = some (.list (bs.map fun b => .str b.name)) ∧
      breakdownsOf? fields = some bs := by
  obtain ⟨v, found, xs, rfl, each⟩ := named
  obtain ⟨bs, rfl⟩ := exists_eq_map fun x mem => exists_word (each x mem)
  refine ⟨bs, found, ?_⟩
  rw [breakdownsOf?, found]
  exact mapM_of_inverse _ (fun b : Breakdown => Value.str b.name) Breakdown.ofName?_name bs

/-- Between a known metric and known breakdowns the clause is that each is supported. -/
theorem supportClause_eq_nil_iff {fields : Fields}
    (named : fields.Under "breakdowns" (ListOf (Named breakdownNames))) :
    supportClause fields = [] ↔ Supported fields := by
  obtain ⟨bs, found, groups⟩ := exists_breakdowns named
  have nameInjective {a b : Breakdown} (same : a.name = b.name) : a = b := by
    have read := Breakdown.ofName?_name a
    rw [same, Breakdown.ofName?_name] at read
    exact (Option.some.inj read).symm
  have listed (b : Breakdown) : Value.str b.name ∈ bs.map (fun b => Value.str b.name) ↔ b ∈ bs := by
    rw [List.mem_map]
    constructor
    · rintro ⟨a, mem, same⟩
      rwa [← nameInjective (Value.str.inj same)]
    · exact fun mem => ⟨b, mem, rfl⟩
  have only : Supported fields ↔ ∀ m, metricOf? fields = some m → ∀ b ∈ bs, b ∈ m.breakdowns := by
    unfold Supported
    rw [found]
    simp only [metricOf?_eq_some_iff, Option.some.injEq, Value.list.injEq]
    constructor
    · exact fun all m metric b mem => all m _ metric rfl b ((listed b).mpr mem)
    · rintro all m _ metric rfl b mem
      exact all m metric b ((listed b).mp mem)
  rw [only, supportClause, groups]
  cases metric : metricOf? fields with
  | none => simp
  | some m => simp [List.filter_eq_nil_iff]

/-- A candidate is without violations iff it has the shape of a plan. No clause looks at the
analyses. -/
theorem violations_eq_nil_iff (v : Value) :
    violations v = .ok [] ↔ ObjectOf (Shape fun _ => True) v := by
  cases v with
  | obj fields =>
    have clear : violations (.obj fields) = .ok [] ↔ Fields.HasExactly fields Plan.keys ∧
        onField fields "game" (filled "game") = [] ∧
        onField fields "metric" (oneOf "metric" (Metric.all.map (·.name))) = [] ∧
        onField fields "granularity" (oneOf "granularity" (Granularity.all.map (·.name))) = [] ∧
        part timeRangeClause fields "time_range" = .ok [] ∧
        onField fields "breakdowns" breakdownsClause = [] ∧
        onField fields "comparison" comparisonClause = [] ∧
        onField fields "analysis" analysisClause = [] ∧
        onField fields "filters" (items "filters" filterClause) = [] ∧
        onField fields "response_mode"
          (oneOf "response_mode" (ResponseMode.all.map (·.name))) = [] ∧
        supportClause fields = [] := by
      rw [violations_obj]
      cases part timeRangeClause fields "time_range" with
      | error fault => simp [Except.map]
      | ok found =>
        simp only [Except.map, Except.ok.injEq, List.append_eq_nil_iff, keys_eq_nil_iff, and_assoc]
    rw [objectOf_obj, shape_iff, clear]
    refine and_congr_right fun exact => ?_
    have there (key : String) (mem : key ∈ Plan.keys) : Fields.has fields key = true :=
      exact.has mem
    rw [onField_eq_nil_iff (there "game" (by decide)) filled_eq_nil_iff,
      onField_eq_nil_iff (there "metric" (by decide)) oneOf_eq_nil_iff,
      onField_eq_nil_iff (there "granularity" (by decide)) oneOf_eq_nil_iff,
      part_eq_nil_iff (there "time_range" (by decide)) timeRangeClause_iff,
      onField_eq_nil_iff (there "breakdowns" (by decide)) breakdownsClause_iff,
      onField_eq_nil_iff (there "comparison" (by decide)) comparisonClause_iff,
      onField_eq_nil_iff (there "analysis" (by decide)) analysisClause_iff,
      onField_eq_nil_iff (there "filters" (by decide)) (items_eq_nil_iff filterClause_iff),
      onField_eq_nil_iff (there "response_mode" (by decide)) oneOf_eq_nil_iff]
    refine and_congr_right fun _ => and_congr_right fun _ => and_congr_right fun _ =>
      and_congr_right fun _ => and_congr_right fun named => ?_
    rw [supportClause_eq_nil_iff named]
  | _ => exact iff_of_false (by rintro ⟨⟩) (by rintro ⟨fields, ⟨⟩, -⟩)

end Plan
end MetricDesk
