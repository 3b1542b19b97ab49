import MetricDesk.Number.Layout

/-! Numbers as documents and warehouse rows hold them: whole numbers of any size and doubles,
which stay apart. Mixed arithmetic goes through the double nearest to the whole number. -/
namespace MetricDesk

inductive Number where
  | int (n : Int)
  | dbl (x : Double)
  deriving DecidableEq, Inhabited

/-- Why a number could not be computed. -/
inductive ArithmeticFault where
  /-- A whole number beyond the range of doubles was needed as one. -/
  | intTooLarge
  /-- The quotient of two whole numbers is beyond that range. -/
  | quotientTooLarge
  /-- A whole number was divided by a whole zero. -/
  | zeroDivisor
  /-- One of the two was a double. -/
  | zeroDoubleDivisor
  /-- A whole number was needed of what is infinite. -/
  | infinityAsWhole
  /-- A whole number was needed of what is no number. -/
  | nanAsWhole
  /-- A decimal without a value was computed with, or one of too many digits was needed. -/
  | invalidDecimal
  | decimalTooLarge
  | decimalZeroDivisor
  /-- A decimal zero was divided by zero. -/
  | decimalUndefined
  /-- A double was needed of what signals. -/
  | signalAsDouble
  deriving DecidableEq, Repr

def ArithmeticFault.message : ArithmeticFault → String
  | .intTooLarge => "int too large to convert to float"
  | .quotientTooLarge => "integer division result too large for a float"
  | .zeroDivisor => "division by zero"
  | .zeroDoubleDivisor => "float division by zero"
  | .infinityAsWhole => "cannot convert float infinity to integer"
  | .nanAsWhole => "cannot convert float NaN to integer"
  | .invalidDecimal => "[<class 'decimal.InvalidOperation'>]"
  | .decimalTooLarge => "[<class 'decimal.Overflow'>]"
  | .decimalZeroDivisor => "[<class 'decimal.DivisionByZero'>]"
  | .decimalUndefined => "[<class 'decimal.DivisionUndefined'>]"
  | .signalAsDouble => "cannot convert signaling NaN to float"

/-- The whole part of a double, cut toward zero, if it has one. -/
def Double.whole (x : Double) : Except ArithmeticFault Int :=
  match x.toInt? with
  | some n => .ok n
  | none => .error (if x.isNan then .nanAsWhole else .infinityAsWhole)

namespace Number

/-- The whole part, cut toward zero, if there is one. -/
def whole : Number → Except ArithmeticFault Int
  | .int n => .ok n
  | .dbl x => x.whole

/-- The double nearest to the number, if it is in range. -/
def toDouble : Number → Except ArithmeticFault Double
  | .dbl x => .ok x
  | .int n =>
    let x := Double.ofInt n
    if x.isFinite then .ok x else .error .intTooLarge

/-- A whole operation on two whole numbers, the double one on all others. -/
def combine (onInts : Int → Int → Int) (onDoubles : Double → Double → Double) :
    Number → Number → Except ArithmeticFault Number
  | .int a, .int b => .ok (.int (onInts a b))
  | x, y => do
    let a ← x.toDouble
    let b ← y.toDouble
    .ok (.dbl (onDoubles a b))

def add : Number → Number → Except ArithmeticFault Number := combine (· + ·) Double.add
def sub : Number → Number → Except ArithmeticFault Number := combine (· - ·) Double.sub
def mul : Number → Number → Except ArithmeticFault Number := combine (· * ·) Double.mul

/-- The quotient is a double, for whole numbers the one nearest to the exact quotient. -/
def div : Number → Number → Except ArithmeticFault Number
  | .int a, .int b =>
    if b = 0 then .error .zeroDivisor
    else
      let q := Double.ofRatio (decide (a < 0) != decide (b < 0)) a.natAbs b.natAbs
      if q.isFinite then .ok (.dbl q) else .error .quotientTooLarge
  | x, y => do
    let a ← x.toDouble
    let b ← y.toDouble
    if b.isZero then .error .zeroDoubleDivisor else .ok (.dbl (a.div b))

def abs : Number → Number
  | .int n => .int n.natAbs
  | .dbl x => .dbl x.abs

def isZero : Number → Bool
  | .int n => n == 0
  | .dbl x => x.isZero

def isNan : Number → Bool
  | .int _ => false
  | .dbl x => x.isNan

/-- A whole number against a double, by exact value. -/
def compareInt (n : Int) : Double → Option Ordering
  | .nan => none
  | .infinite s => some (if s then .gt else .lt)
  | .finite s m e _ =>
    let (a, b) := Double.quotient m e
    some (compare (n * b) (if s then -(a : Int) else a))

/-- The order of exact values; nothing is comparable to what is no number. -/
def compare? : Number → Number → Option Ordering
  | .int a, .int b => some (compare a b)
  | .int a, .dbl y => compareInt a y
  | .dbl x, .int b => (compareInt b x).map Ordering.swap
  | .dbl x, .dbl y => x.compare? y

def lt (x y : Number) : Bool := compare? x y == some .lt
def le (x y : Number) : Bool := compare? x y == some .lt || compare? x y == some .eq
def same (x y : Number) : Bool := compare? x y == some .eq

/-- Rounding to decimal places leaves a whole number alone. -/
def round (places : Nat) : Number → Number
  | .int n => .int n
  | .dbl x => .dbl (x.round places)

def text : Number → String
  | .int n => toString n
  | .dbl x => x.text

end Number
end MetricDesk
