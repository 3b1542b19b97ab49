import MetricDesk.Failure
import MetricDesk.Number.Precision
import MetricDesk.Value.Text

/-! Cells as quantities: numbers and truth values, which count as one and zero, decimals, which mix
with whole numbers but not with doubles, and the spans between days or moments. Whatever else is
asked of a cell is a failure. -/
namespace MetricDesk.Value

/-- The number that a cell holds. -/
def number? : Value → Option Number
  | .num n => some n
  | .bool b => some (.int b.toNat)
  | _ => none

def isDecimal : Value → Bool
  | .decimal _ => true
  | _ => false

/-- The decimal that a cell can be computed with as, which a double cannot. -/
def decimal? : Value → Option ExactDecimal
  | .decimal x => some x
  | .num (.int n) => some (.ofInt n)
  | .bool b => some (.ofInt b.toNat)
  | _ => none

/-- The decimal that a cell is compared as; a double is one exactly. -/
def comparable? : Value → Option ExactDecimal
  | .decimal x => some x
  | v => v.number?.map .ofNumber

/-- An operation on two cells, at least one of them a decimal if not both are numbers. -/
def combine (operator : String) (onNumbers : Number → Number → Except ArithmeticFault Number)
    (onDecimals : ExactDecimal → ExactDecimal → Except ArithmeticFault ExactDecimal)
    (x y : Value) : Except Failure Value :=
  match x.number?, y.number? with
  | some a, some b => (arithmetic (onNumbers a b)).map .num
  | _, _ =>
    match x.decimal?, y.decimal? with
    | some a, some b => (arithmetic (onDecimals a b)).map .decimal
    | _, _ => .error (.operands operator x.kind y.kind)

def add : Value → Value → Except Failure Value := combine "+" Number.add ExactDecimal.add
def mul : Value → Value → Except Failure Value := combine "*" Number.mul ExactDecimal.mul
def div : Value → Value → Except Failure Value := combine "/" Number.div ExactDecimal.div

/-- Between two days or two moments lies a span. -/
def sub : Value → Value → Except Failure Value
  | .day d, .day e => .ok (.span (Span.ofDays ((d.ordinal : Int) - e.ordinal)))
  | .moment m, .moment n =>
    if m.isComparable n then .ok (.span (m.instant - n.instant))
    else .error (.zoneBesideNone "subtract")
  | x, y => combine "-" Number.sub ExactDecimal.sub x y

/-- Zero of any kind of number. -/
def isZero : Value → Except Failure Bool
  | .decimal x => arithmetic x.isZeroChecked
  | v => .ok (v.number?.any Number.isZero)

def abs : Value → Value
  | .num n => .num n.abs
  | .bool b => .nat b.toNat
  | .decimal x => .decimal x.abs
  | .span micros => .span micros.natAbs
  | v => v

/-- To so many decimal places. -/
def round (places : Nat) : Value → Except Failure Value
  | .num n => .ok (.num (n.round places))
  | .decimal x => (arithmetic (x.round places)).map .decimal
  | v => .ok v

/-! ### Order -/

mutual

/-- Equal in value: a double may equal a whole number or a decimal, a day no moment, and what is no
number not even itself. Objects may have their keys in any order. -/
def same : Value → Value → Bool
  | .null, .null => true
  | .list xs, .list ys => sameItems xs ys
  | .obj fs, .obj gs => fs.length == gs.length && sameFields fs gs
  | .str s, .str t => s == t
  | .day d, .day e => d == e
  | .moment m, .moment n => m.isComparable n && m.instant == n.instant
  | .span a, .span b => a == b
  | x, y =>
    match x.number?, y.number? with
    | some a, some b => a.same b
    | _, _ =>
      match x.comparable?, y.comparable? with
      | some a, some b => a.same b
      | _, _ => false

def sameItems : List Value → List Value → Bool
  | [], [] => true
  | x :: xs, y :: ys => same x y && sameItems xs ys
  | _, _ => false

def sameFields : List (String × Value) → Fields → Bool
  | [], _ => true
  | (k, v) :: fs, gs =>
    (match gs.get? k with
      | some w => same v w
      | none => false) && sameFields fs gs

end

mutual

/-- Texts by code point, numbers and decimals by value, days, moments and spans by time, lists by
the first items that differ. -/
def lt : Value → Value → Except Failure Bool
  | .list xs, .list ys => ltItems xs ys
  | .str s, .str t => .ok (decide (s < t))
  | .day d, .day e => .ok (decide (d.ordinal < e.ordinal))
  | .moment m, .moment n =>
    if m.isComparable n then .ok (decide (m.instant < n.instant))
    else .error (.zoneBesideNone "compare")
  | .day _, .moment _ | .moment _, .day _ => .error .dayBesideMoment
  | .span a, .span b => .ok (decide (a < b))
  | x, y =>
    match x.number?, y.number? with
    | some a, some b => .ok (a.lt b)
    | _, _ =>
      match x.comparable?, y.comparable? with
      | some a, some b => arithmetic (a.lt b)
      | _, _ => .error (.unordered x.kind y.kind)

def ltItems : List Value → List Value → Except Failure Bool
  | [], ys => .ok !ys.isEmpty
  | _ :: _, [] => .ok false
  | x :: xs, y :: ys => if same x y then ltItems xs ys else lt x y

end

/-- What can be looked up by: neither lists and objects nor what signals. -/
def keyed : Value → Except Failure Unit
  | .list _ => .error (.unhashable "list")
  | .obj _ => .error (.unhashable "dict")
  | .decimal x => if x.signals then .error .signalAsKey else .ok ()
  | _ => .ok ()

end MetricDesk.Value
