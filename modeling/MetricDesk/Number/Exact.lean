import MetricDesk.Number.Reading

/-! Decimals of any precision, as a warehouse column may hold them. -/
namespace MetricDesk

/-- A decimal keeps its exponent: `1.50` and `1.5` are two texts of one value. What is no number
may carry a payload, and may signal where it is used as one. -/
inductive ExactDecimal where
  | nan (neg signals : Bool) (payload : Nat)
  | infinite (neg : Bool)
  | finite (neg : Bool) (coefficient : Nat) (exponent : Int)
  deriving DecidableEq

namespace ExactDecimal

def quiet : ExactDecimal := .nan false false 0

def ofInt (n : Int) : ExactDecimal := .finite (decide (n < 0)) n.natAbs 0

/-- A whole number of units of a power of two. -/
def ofBinary (neg : Bool) (mant : Nat) : Int → ExactDecimal
  | .ofNat k => .finite neg (mant * Nat.pow 2 k) 0
  | .negSucc k => .finite neg (mant * Nat.pow 5 (k + 1)) (.negSucc k)

/-- Every double is a decimal, without rounding. -/
def ofDouble : Double → ExactDecimal
  | .nan => quiet
  | .infinite s => .infinite s
  | .finite s m e _ => ofBinary s m e

def ofNumber : Number → ExactDecimal
  | .int n => ofInt n
  | .dbl x => ofDouble x

/-- The nearest double, which may be infinite. -/
def toDouble : ExactDecimal → Except ArithmeticFault Double
  | .nan _ signals _ => if signals then .error .signalAsDouble else .ok .nan
  | .infinite s => .ok (.infinite s)
  | .finite s c e => .ok (Double.ofDecimal s c e)

def isZero : ExactDecimal → Bool
  | .finite _ 0 _ => true
  | _ => false

def isNan : ExactDecimal → Bool
  | .nan .. => true
  | _ => false

/-- It signals where it is used as a number. -/
def signals : ExactDecimal → Bool
  | .nan _ signals _ => signals
  | _ => false

/-! ### Order -/

/-- The place of the first digit, counted from the point. -/
def magnitude (coefficient : Nat) (exponent : Int) : Int :=
  exponent + (Digits.ofNat coefficient).length - 1

/-- A finite value in units of a power of ten that is no greater than its own. -/
def inUnits (neg : Bool) (coefficient : Nat) (exponent unit : Int) : Int :=
  let n : Int := coefficient * Nat.pow 10 (exponent - unit).toNat
  if neg then -n else n

/-- Sizes whose first digits stand at different places need no common unit. -/
def compareFinite (s : Bool) (c : Nat) (e : Int) (t : Bool) (d : Nat) (f : Int) : Ordering :=
  let apart := c ≠ 0 ∧ d ≠ 0 ∧ s = t ∧ magnitude c e ≠ magnitude d f
  if apart then
    let sizes := compare (magnitude c e) (magnitude d f)
    if s then sizes.swap else sizes
  else if c = 0 ∨ d = 0 ∨ s ≠ t then
    let sign (neg : Bool) (n : Nat) : Int := if n = 0 then 0 else if neg then -1 else 1
    compare (sign s c) (sign t d)
  else
    let unit := min e f
    compare (inUnits s c e unit) (inUnits t d f unit)

/-- The order of values; nothing is comparable to what is no number. -/
def compare? : ExactDecimal → ExactDecimal → Option Ordering
  | .nan .., _ | _, .nan .. => none
  | .infinite s, .infinite t => some (compare t.toNat s.toNat)
  | .infinite s, .finite .. => some (if s then .lt else .gt)
  | .finite .., .infinite t => some (if t then .gt else .lt)
  | .finite s c e, .finite t d f => some (compareFinite s c e t d f)

def same (x y : ExactDecimal) : Bool := compare? x y == some .eq

/-! ### Texts -/

/-- Positional down to six places after the point, behind an `E` otherwise. -/
def text : ExactDecimal → String
  | .nan s signals payload =>
    Layout.signed s ((if signals then ['s'] else []) ++ "NaN".toList
      ++ if payload = 0 then [] else Digits.ofNat payload)
  | .infinite s => Layout.signed s "Infinity".toList
  | .finite s c e =>
    let ds := Digits.ofNat c
    let left := e + ds.length
    let place : Int := if e ≤ 0 ∧ -6 < left then left else 1
    let body :=
      if place ≤ 0 then '0' :: '.' :: List.replicate (-place).toNat '0' ++ ds
      else if (ds.length : Int) ≤ place then
        ds ++ List.replicate (place - ds.length).toNat '0'
      else ds.take place.toNat ++ '.' :: ds.drop place.toNat
    let tail :=
      if left = place then []
      else
        let x := left - place
        'E' :: (if x < 0 then '-' else '+') :: Digits.ofNat x.natAbs
    Layout.signed s (body ++ tail)

/-- A word for what is no finite number, behind its sign; digits behind it are its payload. -/
def ofWord? (neg : Bool) (cs : List Char) : Option ExactDecimal :=
  let word := String.ofList ((cs.takeWhile (!·.isDigit)).map Char.toLower)
  let payload := cs.dropWhile (!·.isDigit)
  if !payload.all Char.isDigit then none
  else if word = "nan" then some (.nan neg false (Reading.naturalOf payload))
  else if word = "snan" then some (.nan neg true (Reading.naturalOf payload))
  else if (word = "inf" || word = "infinity") && payload.isEmpty then some (.infinite neg)
  else none

/-- The decimal that a text spells: digits of any script, a point, an exponent, or a word, with
white space around it and underscores anywhere. -/
def ofText? (s : String) : Option ExactDecimal :=
  let plain := (Reading.plainDigits (Text.trimmed s.toList)).filter (· != '_')
  let (neg, body) := Reading.sign plain
  let (whole, rest) := Reading.digits body
  let (part, tail) := match rest with
    | '.' :: after => Reading.digits after
    | _ => ([], rest)
  if whole.isEmpty && part.isEmpty then ofWord? neg body
  else (Reading.exponent tail).map fun e =>
    .finite neg (Reading.naturalOf (whole ++ part)) (e - part.length)

end ExactDecimal
end MetricDesk
