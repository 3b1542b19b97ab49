import MetricDesk.Number.Exact
import MetricDesk.Calendar.Span

/-! Values: documents, and the cells of warehouse rows, which may also be days, moments, decimals,
and what lies between two days or moments. Objects keep the order of their keys. -/
namespace MetricDesk

inductive Value where
  | null
  | bool (b : Bool)
  | num (n : Number)
  | str (s : String)
  | list (items : List Value)
  | obj (fields : List (String × Value))
  | day (d : Date)
  | moment (m : Moment)
  | decimal (x : ExactDecimal)
  /-- A span of time in microseconds. -/
  | span (micros : Int)
  deriving Inhabited

/-- Named values in order. -/
abbrev Fields := List (String × Value)

namespace Fields

/-- The value under a key. -/
def get? (fields : Fields) (key : String) : Option Value :=
  (fields.find? (·.1 == key)).map (·.2)

def has (fields : Fields) (key : String) : Bool := fields.any (·.1 == key)

def keys (fields : Fields) : List String := fields.map (·.1)

/-- A key that is there keeps its place and gets the new value; another goes to the end. -/
def put (fields : Fields) (key : String) (v : Value) : Fields :=
  match fields with
  | [] => [(key, v)]
  | (k, old) :: rest => if k = key then (k, v) :: rest else (k, old) :: put rest key v

/-- Later entries overwrite earlier ones of the same key. -/
def ofEntries (entries : List (String × Value)) : Fields :=
  entries.foldl (fun fields e => put fields e.1 e.2) []

end Fields

namespace Value

def int (n : Int) : Value := .num (.int n)
def dbl (x : Double) : Value := .num (.dbl x)
def nat (n : Nat) : Value := .num (.int n)

/-- The value of a field, `null` where there is none. -/
def getD (fields : Fields) (key : String) : Value := (fields.get? key).getD .null

/-- Null, false, zeros, and what is empty. -/
def isEmpty : Value → Bool
  | .null => true
  | .bool b => !b
  | .num n => n.isZero
  | .str s => s.isEmpty
  | .list xs => xs.isEmpty
  | .obj fs => fs.isEmpty
  | .day _ | .moment _ => false
  | .decimal x => x.isZero
  | .span micros => micros == 0

end Value
end MetricDesk
