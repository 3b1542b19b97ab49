import MetricDesk.Plan.Validation
import MetricDesk.Result.Basic

/-! Checking a result before it is narrated or returned, clause by clause like a plan. -/
namespace MetricDesk.Result
open Clause

def contextClause : Value → Except ArithmeticFault (List Violation)
  | .obj fields => do
    let plan ← match Fields.get? fields "plan" with
      | some p => Plan.violations p
      | none => .ok []
    return Clause.keys fields ["tenant_id", "plan"] "context"
      ++ onField fields "tenant_id" (filled "context.tenant_id")
      ++ plan.map .inPlan
  | _ => .ok [.notObject "context"]

def numberClause (label : String) (v : Value) : List Violation :=
  if isNumber v then [] else [.notNumber label]

def optionalNumberClause (label : String) : Value → List Violation
  | .null => []
  | v => if isNumber v then [] else [.notNumberOrNull label]

def summaryClause : Value → List Violation
  | .obj fields =>
    Clause.keys fields ["value", "previous", "change", "changePct"] "summary"
      ++ onField fields "value" (numberClause "summary.value")
      ++ ["previous", "change", "changePct"].flatMap fun key =>
        onField fields key (optionalNumberClause ("summary." ++ key))
  | _ => [.notObject "summary"]

def pointClause (i : Nat) : Value → List Violation
  | .obj fields =>
    let label := "timeseries[" ++ toString i ++ "]"
    Clause.keys fields ["date", "value"] label
      ++ onField fields "date" (fun v => if isFilled v then [] else [.notText (label ++ ".date")])
      ++ onField fields "value" (numberClause (label ++ ".value"))
  | _ => [.notObject ("timeseries[" ++ toString i ++ "]")]

/-- A row has its numbers, and beside them only breakdowns. -/
def rowClause (label : String) (numbers : List String) (i : Nat) : Value → List Violation
  | .obj fields =>
    let place := label ++ "[" ++ toString i ++ "]"
    (numbers.flatMap fun key => numberClause (place ++ "." ++ key) (Value.getD fields key))
      ++ (Fields.keys fields).flatMap fun key =>
        if numbers.contains key || Plan.breakdownNames.contains key then []
        else [.unknownField place key]
  | _ => [.notObject (label ++ "[" ++ toString i ++ "]")]

def tableNumbers : List String := ["value"]
def attributionNumbers : List String := ["current", "previous", "delta"]

def confidenceNames : List String := Confidence.all.map (·.name)

/-- Every violation in a candidate. -/
def violations : Value → Except ArithmeticFault (List Violation)
  | .obj fields => do
    let context ← match Fields.get? fields "context" with
      | some v => contextClause v
      | none => .ok []
    return Clause.keys fields Result.keys "Result"
      ++ onField fields "question" (filled "question")
      ++ context
      ++ onField fields "summary" summaryClause
      ++ onField fields "timeseries" (items "timeseries" pointClause)
      ++ onField fields "breakdown_table"
        (items "breakdown_table" (rowClause "breakdown_table" tableNumbers))
      ++ onField fields "attribution"
        (items "attribution" (rowClause "attribution" attributionNumbers))
      ++ onField fields "confidence" fun v =>
        if isOneOf confidenceNames v then [] else [.notOneOf "confidence" confidenceNames]
  | _ => .ok [.notObject "Result"]

/-! ### The typed form -/

/-- A number as the nearest double, if it is in range. -/
def doubleOf? : Value → Option Double
  | .num n => n.toDouble.toOption
  | _ => none

/-- A number or null. -/
def optionalOf? : Value → Option (Option Double)
  | .null => some none
  | v => (doubleOf? v).map some

def summaryOf? : Value → Option Summary
  | .obj fields => do
    return {
      value := ← doubleOf? (Value.getD fields "value")
      previous := ← optionalOf? (Value.getD fields "previous")
      change := ← optionalOf? (Value.getD fields "change")
      changePercent := ← optionalOf? (Value.getD fields "changePct") }
  | _ => none

def pointOf? : Value → Option Point
  | .obj fields => do
    let .str date := Value.getD fields "date" | none
    return ⟨date, ← doubleOf? (Value.getD fields "value")⟩
  | _ => none

def rowOf? : Value → Option Fields
  | .obj fields => some fields
  | _ => none

/-- The items of a list, each by its own reading. -/
def listOf? (item : Value → Option α) : Value → Option (List α)
  | .list xs => xs.mapM item
  | _ => none

/-- The result of an object without violations whose numbers are in range. -/
def ofValue? : Value → Option Result
  | .obj fields => do
    let .str question := Value.getD fields "question" | none
    let .obj context := Value.getD fields "context" | none
    let .str tenant := Value.getD context "tenant_id" | none
    let .str confidence := Value.getD fields "confidence" | none
    return {
      question, tenant
      plan := ← Plan.ofValue? (Value.getD context "plan")
      summary := ← summaryOf? (Value.getD fields "summary")
      series := ← listOf? pointOf? (Value.getD fields "timeseries")
      table := ← listOf? rowOf? (Value.getD fields "breakdown_table")
      attribution := ← listOf? rowOf? (Value.getD fields "attribution")
      confidence := ← Confidence.ofName? confidence }
  | _ => none

/-- A number outside the range of doubles. -/
def numberPart (path : String) : Value → List Violation
  | .num n => if n.toDouble.toOption.isSome then [] else [.partNotNumber path]
  | _ => []

def seriesParts : Value → List Violation
  | .list xs => (xs.zipIdx.map fun (x, i) => match x with
    | .obj fields =>
      numberPart ("timeseries." ++ toString i ++ ".value") (Value.getD fields "value")
    | _ => []).flatten
  | _ => []

/-- The parts that have the wrong kind though no clause of the grammar looks at them. -/
def partViolations : Value → List Violation
  | .obj fields =>
    let context := match Value.getD fields "context" with
      | .obj inner => Plan.partViolations "context.plan." (Value.getD inner "plan")
      | _ => []
    let summary := match Value.getD fields "summary" with
      | .obj inner => ["value", "previous", "change", "changePct"].flatMap fun key =>
        numberPart ("summary." ++ key) (Value.getD inner key)
      | _ => []
    context ++ summary ++ seriesParts (Value.getD fields "timeseries")
  | _ => []

/-- A candidate as a result, or every violation at once. -/
def validate (candidate : Value) : Except Failure Result := do
  let found ← arithmetic (violations candidate)
  if !found.isEmpty then throw (.schema found)
  match ofValue? candidate with
  | some result => return result
  | none => throw (.schema (partViolations candidate))

end MetricDesk.Result
