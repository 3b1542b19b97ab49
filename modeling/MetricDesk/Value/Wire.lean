import MetricDesk.Value.Basic

/-! The wire form of a value that no type describes: what is no finite number becomes null, and
days, moments, decimals and spans become text. -/
namespace MetricDesk.Value

/-- The text of a moment on the wire: universal time has a letter of its own, and seconds of any
other distance from it are cut off. -/
def momentWire (m : Moment) : String :=
  match m.offset with
  | none => m.iso
  | some seconds =>
    { m with offset := none }.iso ++
      if seconds = 0 then "Z"
      else String.ofList (Moment.shortZone seconds)

mutual

def wire : Value → Value
  | .num (.dbl x) => if x.isFinite then .num (.dbl x) else .null
  | .list xs => .list (wireItems xs)
  | .obj fs => .obj (wireFields fs)
  | .day d => .str d.iso
  | .moment m => .str (momentWire m)
  | .decimal x => .str x.text
  | .span micros => .str (Span.text micros)
  | v => v

def wireItems : List Value → List Value
  | [] => []
  | x :: xs => wire x :: wireItems xs

def wireFields : List (String × Value) → List (String × Value)
  | [] => []
  | (k, v) :: fs => (k, wire v) :: wireFields fs

end

end MetricDesk.Value
