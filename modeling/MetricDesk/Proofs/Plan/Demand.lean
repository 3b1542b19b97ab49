import Mathlib.Data.List.Nodup
import Mathlib.Data.List.Sigma
import MetricDesk.Proofs.Plan.Grammar

/-! The clauses of the plan grammar one by one: demands, each with its place and the violation that
stands for it. `Tells` is what is reported of demands. Main statement: `demands_apart`, no two
demands on a candidate share a place. -/
namespace MetricDesk

/-! ### Demands -/

/-- What is looked at where a demand stands. -/
inductive Aspect where
  | unknownKeys
  | missingKeys
  | form
  | sign
  | wholeness
  | limit
  | support

/-- Where a demand stands, and for what. -/
inductive Place where
  | here (aspect : Aspect)
  | under (key : String) (place : Place)
  | item (i : Nat) (place : Place)

structure Demand where
  place : Place
  holds : Prop
  violation : Violation

namespace Demand

def form (holds : Prop) (violation : Violation) : Demand := ⟨.here .form, holds, violation⟩

def under (key : String) (d : Demand) : Demand := { d with place := .under key d.place }

def item (i : Nat) (d : Demand) : Demand := { d with place := .item i d.place }

/-- No place has two demands. -/
def Apart (ds : List Demand) : Prop := (ds.map place).Nodup

theorem apart_singleton (d : Demand) : Apart [d] := List.nodup_singleton d.place

theorem Apart.append {ds es : List Demand} (first : Apart ds) (second : Apart es)
    (elsewhere : ∀ d ∈ ds, ∀ e ∈ es, d.place ≠ e.place) : Apart (ds ++ es) := by
  rw [Apart, List.map_append]
  refine List.nodup_append.mpr ⟨first, second, fun p inFirst q inSecond => ?_⟩
  obtain ⟨d, mem, rfl⟩ := List.mem_map.mp inFirst
  obtain ⟨e, other, rfl⟩ := List.mem_map.mp inSecond
  exact elsewhere d mem e other

theorem Apart.under {ds : List Demand} (apart : Apart ds) (key : String) :
    Apart (ds.map (.under key)) := by
  have moved : (ds.map (Demand.under key)).map place = (ds.map place).map (.under key) := by
    rw [List.map_map, List.map_map]
    rfl
  rw [Apart, moved]
  exact List.Nodup.map (fun p q same => (Place.under.inj same).2) apart

theorem Apart.item {ds : List Demand} (apart : Apart ds) (i : Nat) :
    Apart (ds.map (.item i)) := by
  have moved : (ds.map (Demand.item i)).map place = (ds.map place).map (.item i) := by
    rw [List.map_map, List.map_map]
    rfl
  rw [Apart, moved]
  exact List.Nodup.map (fun p q same => (Place.item.inj same).2) apart

theorem Apart.flatMap {α : Type} {demands : α → List Demand} {xs : List α}
    (each : ∀ x ∈ xs, Apart (demands x))
    (elsewhere : xs.Pairwise fun x y => ∀ d ∈ demands x, ∀ e ∈ demands y, d.place ≠ e.place) :
    Apart (xs.flatMap demands) := by
  induction xs with
  | nil => exact List.nodup_nil
  | cons x xs ih =>
    obtain ⟨here, there⟩ := List.forall_mem_cons.mp each
    obtain ⟨first, rest⟩ := List.pairwise_cons.mp elsewhere
    refine here.append (ih there rest) fun d inFirst e inRest => ?_
    obtain ⟨y, mem, inside⟩ := List.mem_flatMap.mp inRest
    exact first y mem d inFirst e inside

end Demand

/-- What is reported of demands: the violation of each that does not hold, in their order. -/
inductive Tells : List Demand → List Violation → Prop where
  | done : Tells [] []
  | met {d : Demand} {ds : List Demand} {found : List Violation} (holds : d.holds)
    (rest : Tells ds found) : Tells (d :: ds) found
  | broken {d : Demand} {ds : List Demand} {found : List Violation} (fails : ¬ d.holds)
    (rest : Tells ds found) : Tells (d :: ds) (d.violation :: found)

namespace Tells

variable {ds es : List Demand} {found more : List Violation}

theorem append (first : Tells ds found) (second : Tells es more) :
    Tells (ds ++ es) (found ++ more) := by
  induction first with
  | done => exact second
  | met holds _ ih => exact .met holds ih
  | broken fails _ ih => exact .broken fails ih

theorem exists_of_append (tells : Tells (ds ++ es) found) :
    ∃ first second, found = first ++ second ∧ Tells ds first ∧ Tells es second := by
  induction ds generalizing found with
  | nil => exact ⟨[], found, rfl, .done, tells⟩
  | cons d ds ih =>
    cases tells with
    | met holds rest =>
      obtain ⟨first, second, rfl, inFirst, inSecond⟩ := ih rest
      exact ⟨first, second, rfl, .met holds inFirst, inSecond⟩
    | broken fails rest =>
      obtain ⟨first, second, rfl, inFirst, inSecond⟩ := ih rest
      exact ⟨d.violation :: first, second, rfl, .broken fails inFirst, inSecond⟩

/-- Demands have one report. -/
theorem unique (one : Tells ds found) (other : Tells ds more) : found = more := by
  induction one generalizing more with
  | done =>
    cases other
    rfl
  | met holds _ ih =>
    cases other with
    | met _ rest => exact ih rest
    | broken fails _ => exact absurd holds fails
  | broken fails _ ih =>
    cases other with
    | met holds _ => exact absurd holds fails
    | broken _ rest => rw [ih rest]

/-- Nothing is reported exactly where all demands hold. -/
theorem nil_iff (tells : Tells ds found) : found = [] ↔ ∀ d ∈ ds, d.holds := by
  induction tells with
  | done => simp
  | met holds _ ih => simp [ih, holds]
  | broken fails _ ih => simp [fails]

/-- Where demands stand is not reported. -/
theorem map {f : Demand → Demand}
    (same : ∀ d, (f d).holds = d.holds ∧ (f d).violation = d.violation)
    (tells : Tells ds found) : Tells (ds.map f) found := by
  induction tells with
  | done => exact .done
  | met holds _ ih => exact .met ((same _).1.mpr holds) ih
  | broken fails _ ih =>
    rw [List.map_cons, ← (same _).2]
    exact .broken (fun holds => fails ((same _).1.mp holds)) ih

theorem under (key : String) (tells : Tells ds found) : Tells (ds.map (.under key)) found :=
  tells.map fun _ => ⟨rfl, rfl⟩

theorem item (i : Nat) (tells : Tells ds found) : Tells (ds.map (.item i)) found :=
  tells.map fun _ => ⟨rfl, rfl⟩

/-- One demand that is decided. -/
theorem decided {d : Demand} {c : Prop} [Decidable c] (means : c ↔ d.holds) :
    Tells [d] (if c then [] else [d.violation]) := by
  split
  · next holds => exact .met (means.mp holds) .done
  · next fails => exact .broken (fun holds => fails (means.mpr holds)) .done

theorem flatMap {α : Type} {demands : α → List Demand} {report : α → List Violation} {xs : List α}
    (each : ∀ x ∈ xs, Tells (demands x) (report x)) :
    Tells (xs.flatMap demands) (xs.flatMap report) := by
  induction xs with
  | nil => exact .done
  | cons x xs ih =>
    obtain ⟨here, there⟩ := List.forall_mem_cons.mp each
    exact here.append (ih there)

end Tells

/-- What is reported, where a report comes about at all. -/
def Told (ds : List Demand) (report : Except ArithmeticFault (List Violation)) : Prop :=
  ∀ found, report = .ok found → Tells ds found

/-! ### The demands of the grammar -/

namespace Plan
open Demand Clause

/-- No key that is not allowed, and none of those missing. -/
def keyDemands (allowed : List String) (label : String) (fields : Fields) : List Demand :=
  [⟨.here .unknownKeys, ∀ k ∈ fields.keys, k ∈ allowed,
      .unknownFields label (fields.keys.filter (· ∉ allowed))⟩,
    ⟨.here .missingKeys, ∀ k ∈ allowed, k ∈ fields.keys,
      .missingFields label (allowed.filter (· ∉ fields.keys))⟩]

/-- A key, and what is demanded of a value under it. -/
abbrev Rule := String × (Value → List Demand)

/-- The demands of a rule. Of a missing value nothing is demanded. -/
def Rule.demands (fields : Fields) (rule : Rule) : List Demand :=
  match fields.get? rule.1 with
  | some v => (rule.2 v).map (.under rule.1)
  | none => []

/-- An object, with demands on its fields. -/
def objectDemands (label : String) (inside : Fields → List Demand) (v : Value) : List Demand :=
  form (∃ fields, v = .obj fields) (.notObject label) :: match v with
    | .obj fields => inside fields
    | _ => []

/-- A list, with demands on each of its items. -/
def listDemands (label : String) (inside : Nat → Value → List Demand) (v : Value) : List Demand :=
  form (∃ xs, v = .list xs) (.notArray label) :: match v with
    | .list xs => xs.zipIdx.flatMap fun x => (inside x.2 x.1).map (.item x.2)
    | _ => []

def wordsDemands (label : String) (v : Value) : List Demand := [form (Words v) (.blank label)]

def nameDemands (what : String) (allowed : List String) (v : Value) : List Demand :=
  [form (Named allowed v) (.unsupported what v allowed)]

def Numeric (v : Value) : Prop := ∃ k : Number, v = .num k ∧ k.isNan = false

def Positive (v : Value) : Prop := ∃ k : Number, v = .num k ∧ (Number.int 0).lt k = true

/-- A positive number of whole days. -/
def WholeDays (v : Value) : Prop := Positive v ∧ ∃ n, Days v n ∧ n < Double.beyond

/-- Each demand on the days is about those that satisfy the ones before it. -/
def dayDemands (v : Value) : List Demand :=
  [form (Numeric v) (.notNumber "time_range.n"),
    ⟨.here .sign, Numeric v → Positive v, .notPositive "time_range.n"⟩,
    ⟨.here .wholeness, Positive v → WholeDays v, .notWholeDays "time_range.n"⟩,
    ⟨.here .limit, WholeDays v → ∃ n, Days v n ∧ n ≤ maxWindowDays,
      .tooManyDays "time_range.n" maxWindowDays⟩]

def rangeRules : List Rule := [
  ("type", fun v => [form (Named [timeRangeType] v) (.notOneOf "time_range.type" [timeRangeType])]),
  ("n", dayDemands)]

def comparisonRules : List Rule :=
  [("type", nameDemands "comparison" (Comparison.all.map (·.name)))]

def filterRules (label : String) : List Rule := [
  ("field", wordsDemands (label ++ ".field")),
  ("op", wordsDemands (label ++ ".op")),
  ("value", fun v => [form ((∃ s, v = .str s) ∨ Numeric v) (.notTextOrNumber (label ++ ".value"))])]

/-- The keys of an object, and what stands under them. -/
def fieldDemands (allowed : List String) (label : String) (rules : List Rule) (fields : Fields) :
    List Demand :=
  keyDemands allowed label fields ++ rules.flatMap (Rule.demands fields)

def filterDemands (i : Nat) : Value → List Demand :=
  let label := "filters[" ++ toString i ++ "]"
  objectDemands label (fieldDemands ["field", "op", "value"] label (filterRules label))

def rules : List Rule := [
  ("game", wordsDemands "game"),
  ("metric", nameDemands "metric" (Metric.all.map (·.name))),
  ("granularity", nameDemands "granularity" (Granularity.all.map (·.name))),
  ("time_range", objectDemands "time_range" (fieldDemands ["type", "n"] "time_range" rangeRules)),
  ("breakdowns", listDemands "breakdowns" fun _ => nameDemands "breakdown" breakdownNames),
  ("comparison", objectDemands "comparison" (fieldDemands ["type"] "comparison" comparisonRules)),
  ("analysis", listDemands "analysis" fun _ _ => []),
  ("filters", listDemands "filters" filterDemands),
  ("response_mode", nameDemands "response_mode" (ResponseMode.all.map (·.name)))]

/-- A known metric has to support each breakdown of a list of known ones. -/
def supportDemands (fields : Fields) : List Demand :=
  match metricOf? fields, breakdownsOf? fields with
  | some metric, some groups => groups.zipIdx.map fun b =>
    ⟨.under "breakdowns" (.item b.2 (.here .support)), b.1 ∈ metric.breakdowns,
      .groupUnsupported b.1 metric⟩
  | _, _ => []

/-- All that the grammar demands of a candidate's fields. -/
def demands (fields : Fields) : List Demand :=
  fieldDemands Plan.keys "Plan" rules fields ++ supportDemands fields

/-- What is demanded of a value under a key, whatever stands under the others. -/
def demandsOn (key : String) (v : Value) : List Demand :=
  (rules.filter (·.1 = key)).flatMap fun rule => (rule.2 v).map (.under key)

/-! ### Every demand has its own place -/

/-- The demands of a rule stand under its key. -/
theorem place_of_mem_rule {fields : Fields} {rule : Rule} {d : Demand}
    (mem : d ∈ rule.demands fields) : ∃ v, ∃ e ∈ rule.2 v, d.place = .under rule.1 e.place := by
  unfold Rule.demands at mem
  split at mem
  · next v found =>
    obtain ⟨e, inside, rfl⟩ := List.mem_map.mp mem
    exact ⟨v, e, inside, rfl⟩
  · cases mem

/-- The demands on keys stand in front of those under them. -/
theorem place_of_mem_keys {allowed : List String} {label : String} {fields : Fields} {d : Demand}
    (mem : d ∈ keyDemands allowed label fields) :
    d.place = .here .unknownKeys ∨ d.place = .here .missingKeys := by
  rcases List.mem_cons.mp mem with rfl | last
  · exact Or.inl rfl
  · rw [List.mem_singleton.mp last]
    exact Or.inr rfl

theorem keyDemands_apart (allowed : List String) (label : String) (fields : Fields) :
    Apart (keyDemands allowed label fields) := by
  simp [Apart, keyDemands]

theorem fieldDemands_apart {rules : List Rule} (once : (rules.map (·.1)).Nodup)
    (each : ∀ rule ∈ rules, ∀ v, Apart (rule.2 v)) (allowed : List String) (label : String)
    (fields : Fields) : Apart (fieldDemands allowed label rules fields) := by
  refine (keyDemands_apart allowed label fields).append (.flatMap (fun rule mem => ?_) ?_) ?_
  · unfold Rule.demands
    split
    · exact (each rule mem _).under rule.1
    · exact List.nodup_nil
  · refine (List.pairwise_map.mp once).imp fun apart d inOne e inOther same => apart ?_
    obtain ⟨_, _, -, one⟩ := place_of_mem_rule inOne
    obtain ⟨_, _, -, other⟩ := place_of_mem_rule inOther
    rw [one, other] at same
    exact (Place.under.inj same).1
  · intro d inKeys e inRules
    obtain ⟨rule, -, mem⟩ := List.mem_flatMap.mp inRules
    obtain ⟨_, _, -, under⟩ := place_of_mem_rule mem
    rw [under]
    rcases place_of_mem_keys inKeys with here | here <;> rw [here] <;> exact nofun

theorem objectDemands_apart {inside : Fields → List Demand} {label : String}
    (each : ∀ fields, Apart (inside fields))
    (within : ∀ fields, ∀ d ∈ inside fields, d.place ≠ .here .form) (v : Value) :
    Apart (objectDemands label inside v) := by
  cases v with
  | obj fields =>
    refine List.nodup_cons.mpr ⟨fun mem => ?_, each fields⟩
    obtain ⟨d, inFields, same⟩ := List.mem_map.mp mem
    exact within fields d inFields same
  | _ => exact List.nodup_singleton _

theorem listDemands_apart {inside : Nat → Value → List Demand} {label : String}
    (each : ∀ i v, Apart (inside i v)) (v : Value) : Apart (listDemands label inside v) := by
  cases v with
  | list xs =>
    refine List.nodup_cons.mpr ⟨fun mem => ?_, ?_⟩
    · obtain ⟨d, inItems, same⟩ := List.mem_map.mp mem
      obtain ⟨x, -, inItem⟩ := List.mem_flatMap.mp inItems
      obtain ⟨e, -, rfl⟩ := List.mem_map.mp inItem
      cases same
    · have indices := List.pairwise_map.mp (List.nodup_zipIdx_map_snd xs)
      refine Apart.flatMap (fun x _ => (each x.2 x.1).item x.2)
        (indices.imp fun apart d inOne e inOther same => apart ?_)
      obtain ⟨_, -, rfl⟩ := List.mem_map.mp inOne
      obtain ⟨_, -, rfl⟩ := List.mem_map.mp inOther
      exact (Place.item.inj same).1
  | _ => exact List.nodup_singleton _

theorem fieldDemands_within {rules : List Rule} {allowed : List String} {label : String}
    {fields : Fields} {d : Demand} (mem : d ∈ fieldDemands allowed label rules fields) :
    d.place ≠ .here .form := by
  rcases List.mem_append.mp mem with inKeys | inRules
  · rcases place_of_mem_keys inKeys with here | here <;> rw [here] <;> exact nofun
  · obtain ⟨rule, -, inRule⟩ := List.mem_flatMap.mp inRules
    obtain ⟨_, _, -, under⟩ := place_of_mem_rule inRule
    rw [under]
    exact nofun

/-- An object of rules whose demands are apart. -/
theorem record_apart (rules : List Rule) (once : (rules.map (·.1)).Nodup)
    (each : ∀ rule ∈ rules, ∀ v, Apart (rule.2 v)) (allowed : List String) (label : String)
    (v : Value) : Apart (objectDemands label (fieldDemands allowed label rules) v) :=
  objectDemands_apart (fieldDemands_apart once each allowed label)
    (fun _ _ => fieldDemands_within) v

theorem rules_apart : ∀ rule ∈ rules, ∀ v, Apart (rule.2 v) := by
  have days (v : Value) : Apart (dayDemands v) := by simp [Apart, dayDemands, form]
  have range (v : Value) :=
    record_apart rangeRules (by decide) (by
      simp only [rangeRules, List.forall_mem_cons]
      exact ⟨fun v => apart_singleton _, days, by simp⟩) ["type", "n"] "time_range" v
  have comparison (v : Value) :=
    record_apart comparisonRules (by decide) (by
      simp only [comparisonRules, List.forall_mem_cons]
      exact ⟨fun v => apart_singleton _, by simp⟩) ["type"] "comparison" v
  have filters (i : Nat) (v : Value) : Apart (filterDemands i v) :=
    record_apart (filterRules _) (by simp [filterRules]) (by
      simp only [filterRules, List.forall_mem_cons]
      exact ⟨fun v => apart_singleton _, fun v => apart_singleton _, fun v => apart_singleton _,
        by simp⟩) _ _ v
  simp only [rules, List.forall_mem_cons]
  exact ⟨fun v => apart_singleton _, fun v => apart_singleton _, fun v => apart_singleton _, range,
    listDemands_apart fun _ _ => apart_singleton _, comparison,
    listDemands_apart fun _ _ => List.nodup_nil, listDemands_apart filters,
    fun v => apart_singleton _, by simp⟩

/-- No rule has a demand in the place where support is asked for. -/
theorem place_ne_support {fields : Fields} {d : Demand}
    (mem : d ∈ fieldDemands Plan.keys "Plan" rules fields) (i : Nat) :
    d.place ≠ .under "breakdowns" (.item i (.here .support)) := by
  intro same
  rcases List.mem_append.mp mem with inKeys | inRules
  · rcases place_of_mem_keys inKeys with here | here <;> rw [here] at same <;> cases same
  · obtain ⟨rule, listed, inRule⟩ := List.mem_flatMap.mp inRules
    obtain ⟨v, e, inside, under⟩ := place_of_mem_rule inRule
    rw [under, Place.under.injEq] at same
    obtain ⟨key, place⟩ := same
    have only : rule = ("breakdowns", listDemands "breakdowns" fun _ =>
        nameDemands "breakdown" breakdownNames) := by
      simp only [rules, List.mem_cons, List.not_mem_nil, or_false] at listed
      rcases listed with rfl | rfl | rfl | rfl | rfl | rfl | rfl | rfl | rfl <;>
        first | rfl | exact absurd key (by decide)
    subst only
    rcases List.mem_cons.mp inside with rfl | inItems
    · cases place
    · cases v with
      | list xs =>
        obtain ⟨x, -, inItem⟩ := List.mem_flatMap.mp inItems
        obtain ⟨_, last, rfl⟩ := List.mem_map.mp inItem
        rw [List.mem_singleton.mp last] at place
        cases place
      | _ => cases inItems

theorem demands_apart (fields : Fields) : Apart (demands fields) := by
  have support : ∀ d ∈ supportDemands fields, ∃ i,
      d.place = .under "breakdowns" (.item i (.here .support)) := by
    unfold supportDemands
    split
    · intro d mem
      obtain ⟨b, -, rfl⟩ := List.mem_map.mp mem
      exact ⟨b.2, rfl⟩
    · exact fun d mem => nomatch mem
  refine (fieldDemands_apart (by decide) rules_apart Plan.keys "Plan" fields).append ?_ ?_
  · unfold supportDemands
    split
    · next metric groups _ _ =>
      have places := List.nodup_zipIdx_map_snd groups
      rw [Apart, List.map_map]
      exact List.Nodup.of_map (fun
        | .under _ (.item i _) => i
        | _ => 0) (by rwa [List.map_map])
    · exact List.nodup_nil
  · intro d inFields e inSupport
    obtain ⟨i, place⟩ := support e inSupport
    rw [place]
    exact place_ne_support inFields i

end Plan
end MetricDesk
