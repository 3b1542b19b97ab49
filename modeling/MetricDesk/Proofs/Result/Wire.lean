import MetricDesk.Proofs.Plan.Wire
import MetricDesk.Result.Validation

/-! The wire form of a result. Main statement: `eq_wired_of_validate`, a result that passes its
check comes back as it was, with the rows of its tables in wire form. -/
namespace MetricDesk

namespace Value

mutual

theorem wire_wire (v : Value) : v.wire.wire = v.wire := by
  match v with
  | .num (.int _) => rfl
  | .num (.dbl x) =>
    rw [wire]
    split
    · next finite => rw [wire, if_pos finite]
    · rfl
  | .list xs => rw [wire, wire, wireItems_wireItems xs]
  | .obj fs => rw [wire, wire, wireFields_wireFields fs]
  | .null | .bool _ | .str _ | .day _ | .moment _ | .decimal _ | .span _ => rfl

theorem wireItems_wireItems (xs : List Value) : wireItems (wireItems xs) = wireItems xs := by
  match xs with
  | [] => rfl
  | x :: xs => rw [wireItems, wireItems, wire_wire x, wireItems_wireItems xs]

theorem wireFields_wireFields (fs : List (String × Value)) :
    wireFields (wireFields fs) = wireFields fs := by
  match fs with
  | [] => rfl
  | (k, v) :: fs => rw [wireFields, wireFields, wire_wire v, wireFields_wireFields fs]

end

end Value

namespace Result

/-- The same result, with the rows of its tables in wire form. -/
def wired (r : Result) : Result :=
  { r with
    table := r.table.map Value.wireFields
    attribution := r.attribution.map Value.wireFields }

theorem wired_toValue (r : Result) : r.wired.toValue = r.toValue := by
  have rows (rows : List Fields) : (rows.map Value.wireFields).map
      (fun row => Value.obj (Value.wireFields row)) =
      rows.map fun row => Value.obj (Value.wireFields row) := by
    rw [List.map_map]
    exact List.map_congr_left fun row _ => congrArg Value.obj (Value.wireFields_wireFields row)
  simp only [toValue, toFields, wired, rows]

theorem summaryOf?_toValue (s : Summary) : summaryOf? s.toValue = some s := by
  obtain ⟨value, previous, change, percent⟩ := s
  cases previous <;> cases change <;> cases percent <;> rfl

/-- A result is read back from its wire form, but for its tables, which stay in it. -/
theorem ofValue?_toValue (r : Result) : ofValue? r.toValue = some r.wired := by
  have question : Value.getD r.toFields "question" = .str r.question := rfl
  have context : Value.getD r.toFields "context" =
      .obj [("tenant_id", .str r.tenant), ("plan", r.plan.toValue)] := rfl
  have tenant : Value.getD [("tenant_id", .str r.tenant), ("plan", r.plan.toValue)] "tenant_id" =
      .str r.tenant := rfl
  have plan : Value.getD [("tenant_id", .str r.tenant), ("plan", r.plan.toValue)] "plan" =
      r.plan.toValue := rfl
  have summary : Value.getD r.toFields "summary" = r.summary.toValue := rfl
  have series : Value.getD r.toFields "timeseries" = .list (r.series.map Point.toValue) := rfl
  have table : Value.getD r.toFields "breakdown_table" =
      .list (r.table.map fun row => .obj (Value.wireFields row)) := rfl
  have attribution : Value.getD r.toFields "attribution" =
      .list (r.attribution.map fun row => .obj (Value.wireFields row)) := rfl
  have confidence : Value.getD r.toFields "confidence" = .str r.confidence.name := rfl
  have points := Plan.mapM_of_inverse pointOf? Point.toValue (fun _ => rfl) r.series
  have rows (rows : List Fields) := Plan.mapM_of_read rowOf?
    (fun row => .obj (Value.wireFields row)) Value.wireFields (fun _ => rfl) rows
  simp only [ofValue?, toValue, question, context, tenant, plan, summary, series, table,
    attribution, confidence, Plan.ofValue?_toValue, summaryOf?_toValue, listOf?, points, rows,
    Confidence.ofName?_name, Option.bind_some, Option.bind_eq_bind]
  rfl

/-- What checking a result comes to. -/
theorem validate_toValue (r : Result) : validate r.toValue =
    match violations r.toValue with
    | .error fault => .error (.arithmetic fault)
    | .ok [] => .ok r.wired
    | .ok found => .error (.schema found) := by
  unfold validate
  rw [ofValue?_toValue]
  cases violations r.toValue with
  | error fault => rfl
  | ok found => cases found <;> rfl

/-- A result that passes its check comes back with its tables in wire form. -/
theorem eq_wired_of_validate {r checked : Result} (h : validate r.toValue = .ok checked) :
    checked = r.wired := by
  rw [validate_toValue] at h
  split at h
  · cases h
  · exact (Except.ok.inj h).symm
  · cases h

end Result
end MetricDesk
