import MetricDesk.Plan.Basic
import MetricDesk.Failure
import MetricDesk.Text.Blank

/-! Checking a candidate plan. Every violation is found, each by the clause of its own field, in
the order of the clauses; a candidate without violations becomes a plan. -/
namespace MetricDesk

/-! ### Clauses that plans and results share -/

namespace Clause

/-- Whole numbers and doubles that are numbers; truth values are none. -/
def isNumber : Value → Bool
  | .num n => !n.isNan
  | _ => false

/-- A string that is not all white space. -/
def isFilled : Value → Bool
  | .str s => !(Text.trimmed s.toList).isEmpty
  | _ => false

/-- One of the names of a vocabulary. -/
def isOneOf (allowed : List String) : Value → Bool
  | .str s => allowed.contains s
  | _ => false

/-- Keys that are not allowed, then keys that are missing. -/
def keys (fields : Fields) (allowed : List String) (label : String) : List Violation :=
  let extra := fields.keys.filter fun k => !allowed.contains k
  let missing := allowed.filter fun k => !fields.has k
  (if extra.isEmpty then [] else [.unknownFields label extra])
    ++ (if missing.isEmpty then [] else [.missingFields label missing])

/-- A clause on a field holds where the field is missing. -/
def onField (fields : Fields) (key : String) (clause : Value → List Violation) :
    List Violation :=
  match Fields.get? fields key with
  | some v => clause v
  | none => []

def filled (label : String) (v : Value) : List Violation :=
  if isFilled v then [] else [.blank label]

def oneOf (what : String) (allowed : List String) (v : Value) : List Violation :=
  if isOneOf allowed v then [] else [.unsupported what v allowed]

/-- Every item of a list by a clause that knows its place. -/
def items (label : String) (clause : Nat → Value → List Violation) : Value → List Violation
  | .list xs => (xs.zipIdx.map fun (x, i) => clause i x).flatten
  | _ => [.notArray label]

end Clause

namespace Plan
open Clause

/-- The number of days is a positive whole number, a double or not, within the limit. -/
def daysClause : Value → Except ArithmeticFault (List Violation)
  | .num n =>
    if n.isNan then .ok [.notNumber "time_range.n"]
    else if n.lt (.int 0) || n.isZero then .ok [.notPositive "time_range.n"]
    else do
      let x ← n.toDouble
      if !x.isWhole then return [.notWholeDays "time_range.n"]
      else if (Number.int maxWindowDays).lt n then
        return [.tooManyDays "time_range.n" maxWindowDays]
      else return []
  | _ => .ok [.notNumber "time_range.n"]

def timeRangeClause : Value → Except ArithmeticFault (List Violation)
  | .obj fields => do
    let days ← match Fields.get? fields "n" with
      | some n => daysClause n
      | none => .ok []
    return Clause.keys fields ["type", "n"] "time_range"
      ++ onField fields "type" (fun v =>
        if isOneOf [timeRangeType] v then [] else [.notOneOf "time_range.type" [timeRangeType]])
      ++ days
  | _ => .ok [.notObject "time_range"]

def breakdownNames : List String := Breakdown.all.map (·.name)

def breakdownsClause : Value → List Violation
  | .list xs => xs.flatMap (oneOf "breakdown" breakdownNames)
  | _ => [.notArray "breakdowns"]

def comparisonClause : Value → List Violation
  | .obj fields =>
    Clause.keys fields ["type"] "comparison"
      ++ onField fields "type" (oneOf "comparison" (Comparison.all.map (·.name)))
  | _ => [.notObject "comparison"]

def analysisClause : Value → List Violation
  | .list _ => []
  | _ => [.notArray "analysis"]

def filterClause (i : Nat) : Value → List Violation
  | .obj fields =>
    let label := "filters[" ++ toString i ++ "]"
    Clause.keys fields ["field", "op", "value"] label
      ++ onField fields "field" (filled (label ++ ".field"))
      ++ onField fields "op" (filled (label ++ ".op"))
      ++ onField fields "value" fun v => match v with
        | .str _ => []
        | v => if isNumber v then [] else [.notTextOrNumber (label ++ ".value")]
  | _ => [.notObject ("filters[" ++ toString i ++ "]")]

/-- The metric that a field names. -/
def metricOf? (fields : Fields) : Option Metric :=
  match Fields.get? fields "metric" with
  | some (.str s) => Metric.ofName? s
  | _ => none

/-- A list of known breakdowns, and of nothing else. -/
def breakdownsOf? (fields : Fields) : Option (List Breakdown) :=
  match Fields.get? fields "breakdowns" with
  | some (.list xs) => xs.mapM fun
    | .str s => Breakdown.ofName? s
    | _ => none
  | _ => none

/-- A known metric with known breakdowns has to support every one of them. -/
def supportClause (fields : Fields) : List Violation :=
  match metricOf? fields, breakdownsOf? fields with
  | some metric, some groups =>
    (groups.filter fun b => !metric.breakdowns.contains b).map (.groupUnsupported · metric)
  | _, _ => []

/-- Every violation in a candidate. Only the number of days can be beyond computing. -/
def violations : Value → Except ArithmeticFault (List Violation)
  | .obj fields => do
    let timeRange ← match Fields.get? fields "time_range" with
      | some v => timeRangeClause v
      | none => .ok []
    return Clause.keys fields Plan.keys "Plan"
      ++ onField fields "game" (filled "game")
      ++ onField fields "metric" (oneOf "metric" (Metric.all.map (·.name)))
      ++ onField fields "granularity" (oneOf "granularity" (Granularity.all.map (·.name)))
      ++ timeRange
      ++ onField fields "breakdowns" breakdownsClause
      ++ onField fields "comparison" comparisonClause
      ++ onField fields "analysis" analysisClause
      ++ onField fields "filters" (items "filters" filterClause)
      ++ onField fields "response_mode" (oneOf "response_mode" (ResponseMode.all.map (·.name)))
      ++ supportClause fields
  | _ => .ok [.notObject "Plan"]

/-! ### The typed form -/

/-- The items of a list that are no strings, by their places. -/
def analysisParts (path : String) : Value → List Violation
  | .list xs => (xs.zipIdx.filterMap fun (x, i) => match x with
    | .str _ => none
    | _ => some (.partNotText (path ++ "." ++ toString i)))
  | _ => []

def filterOf? : Value → Option Filter
  | .obj fields => do
    let .str field ← Fields.get? fields "field" | none
    let .str op ← Fields.get? fields "op" | none
    let value ← match Fields.get? fields "value" with
      | some (.str s) => some (.text s)
      | some (.num n) => some (.number n)
      | _ => none
    return ⟨field, op, value⟩
  | _ => none

/-- A whole number of days from a number without a fraction. -/
def daysOf? : Value → Option Nat
  | .num (.int n) => some n.toNat
  | .num (.dbl x) => x.toInt?.map Int.toNat
  | _ => none

/-- The plan of an object without violations whose parts have the right kinds. -/
def ofValue? : Value → Option Plan
  | .obj fields => do
    let .str game ← Fields.get? fields "game" | none
    let metric ← metricOf? fields
    let .str granularity ← Fields.get? fields "granularity" | none
    let .obj range ← Fields.get? fields "time_range" | none
    let days ← (Fields.get? range "n").bind daysOf?
    let breakdowns ← breakdownsOf? fields
    let .obj comparison ← Fields.get? fields "comparison" | none
    let .str kind ← Fields.get? comparison "type" | none
    let .list analysis ← Fields.get? fields "analysis" | none
    let .list filters ← Fields.get? fields "filters" | none
    let .str mode ← Fields.get? fields "response_mode" | none
    return {
      game, metric, days, breakdowns
      granularity := ← Granularity.ofName? granularity
      comparison := ← Comparison.ofName? kind
      analysis := ← analysis.mapM fun
        | .str s => some s
        | _ => none
      filters := ← filters.mapM filterOf?
      mode := ← ResponseMode.ofName? mode }
  | _ => none

/-- The parts that have the wrong kind though no clause of the grammar looks at them. -/
def partViolations (path : String) : Value → List Violation
  | .obj fields => analysisParts (path ++ "analysis") (Value.getD fields "analysis")
  | _ => []

/-- A candidate as a plan, or every violation at once. -/
def validate (candidate : Value) : Except Failure Plan := do
  let found ← arithmetic (violations candidate)
  if !found.isEmpty then throw (.schema found)
  match ofValue? candidate with
  | some plan => return plan
  | none => throw (.schema (partViolations "" candidate))

end Plan
end MetricDesk
