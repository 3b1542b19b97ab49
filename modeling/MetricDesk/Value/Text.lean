import MetricDesk.Value.Basic
import MetricDesk.Text.Quoted

/-! The text of a value in a message: strings as they are, and inside a list or an object
quoted. -/
namespace MetricDesk.Value

def boolText (b : Bool) : String := if b then "True" else "False"

/-- Arguments that make a distance from universal time. -/
def zoneText (seconds : Int) : String :=
  if seconds = 0 then "datetime.timezone.utc"
  else
    let days := Int.fdiv seconds 86400
    let rest := Int.fmod seconds 86400
    let args := (if days = 0 then [] else [s!"days={days}"])
      ++ (if rest = 0 then [] else [s!"seconds={rest}"])
    "datetime.timezone(datetime.timedelta(" ++ ", ".intercalate args ++ "))"

/-- A day inside a list or an object. -/
def dayText (d : Date) : String :=
  let (m, n) := d.monthDay
  s!"datetime.date({d.year}, {m}, {n})"

/-- A moment inside a list or an object; trailing zero seconds are left out. -/
def momentText (t : Moment) : String :=
  let (m, n) := t.day.monthDay
  let parts := [t.day.year, m, n, t.hour, t.minute]
    ++ (if t.second = 0 && t.micro = 0 then [] else [t.second])
    ++ (if t.micro = 0 then [] else [t.micro])
  let args := parts.map toString ++ (t.offset.map fun z => "tzinfo=" ++ zoneText z).toList
  "datetime.datetime(" ++ ", ".intercalate args ++ ")"

mutual

/-- A value as it stands inside a list or an object. -/
def shown : Value → String
  | .null => "None"
  | .bool b => boolText b
  | .num n => n.text
  | .str s => Text.quoted s
  | .list xs => "[" ++ ", ".intercalate (shownItems xs) ++ "]"
  | .obj fs => "\x7b" ++ ", ".intercalate (shownFields fs) ++ "\x7d"
  | .day d => dayText d
  | .moment t => momentText t
  | .decimal x => "Decimal('" ++ x.text ++ "')"
  | .span micros => Span.shown micros

def shownItems : List Value → List String
  | [] => []
  | x :: xs => shown x :: shownItems xs

def shownFields : List (String × Value) → List String
  | [] => []
  | (k, v) :: fs => (Text.quoted k ++ ": " ++ shown v) :: shownFields fs

end

/-- A value that stands alone. -/
def text : Value → String
  | .str s => s
  | .day d => d.iso
  | .moment t => t.text ' '
  | .decimal x => x.text
  | .span micros => Span.text micros
  | v => v.shown

/-- The word for the kind of a value in a message. -/
def kind : Value → String
  | .null => "NoneType"
  | .bool _ => "bool"
  | .num (.int _) => "int"
  | .num (.dbl _) => "float"
  | .str _ => "str"
  | .list _ => "list"
  | .obj _ => "dict"
  | .day _ => "datetime.date"
  | .moment _ => "datetime.datetime"
  | .decimal _ => "decimal.Decimal"
  | .span _ => "datetime.timedelta"

end MetricDesk.Value
