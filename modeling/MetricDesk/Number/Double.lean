import MetricDesk.Number.Rounding

/-! Doubles as exact values: a sign, a significand and a power of two in the one form that
sixty-four bits hold. Every operation is carried out exactly on whole numbers and rounded once,
to the nearest double and on a tie to the even significand. -/
namespace MetricDesk

/-- The significand fills fifty-three bits unless the exponent is the least one. -/
def Double.Canonical (mant : Nat) (exp : Int) : Prop :=
  mant < Nat.pow 2 53 ∧ -1074 ≤ exp ∧ exp ≤ 971 ∧ (Nat.pow 2 52 ≤ mant ∨ exp = -1074)

instance (mant : Nat) (exp : Int) : Decidable (Double.Canonical mant exp) := by
  unfold Double.Canonical; infer_instance

/-- A finite double stands for `± mant * 2 ^ exp`; zeros keep their sign. -/
inductive Double where
  | nan
  | infinite (neg : Bool)
  | finite (neg : Bool) (mant : Nat) (exp : Int) (canonical : Double.Canonical mant exp)
  deriving DecidableEq

namespace Double

instance : Inhabited Double := ⟨.nan⟩

theorem canonical_zero : Canonical 0 (-1074) := by decide

/-- Zero with a sign. -/
def zeroOf (neg : Bool) : Double := .finite neg 0 (-1074) canonical_zero

def zero : Double := zeroOf false

/-- A significand of up to fifty-three bits, or one just past them, at its exponent. Beyond the
greatest exponent stands infinity. -/
def pack (neg : Bool) (mant : Nat) (exp : Int) : Double :=
  if h : Canonical mant exp then .finite neg mant exp h
  else if h : mant = Nat.pow 2 53 ∧ Canonical (Nat.pow 2 52) (exp + 1) then
    .finite neg (Nat.pow 2 52) (exp + 1) h.2
  else .infinite neg

/-- `n / d` at the exponent `exp`, as the two sides of a quotient of naturals. -/
def scale (n d : Nat) (exp : Int) : Nat × Nat :=
  match exp with
  | .ofNat e => (n, d * Nat.pow 2 e)
  | .negSucc e => (n * Nat.pow 2 (e + 1), d)

/-- The exponent at which `n / d` has fifty-three bits, and no less than the least one. -/
def exponentFor (n d : Nat) : Int :=
  let e : Int := (n.log2 : Int) - d.log2 - 52
  let (a, b) := scale n d e
  max (if a < Nat.pow 2 52 * b then e - 1 else e) (-1074)

/-- The double nearest to `± n / d`. -/
def ofRatio (neg : Bool) (n d : Nat) : Double :=
  if n = 0 then zeroOf neg
  else
    let e := exponentFor n d
    let (a, b) := scale n d e
    pack neg (Rounding.halfEven a b) e

/-- The double nearest to `± n * 2 ^ exp`. -/
def ofScaled (neg : Bool) (n : Nat) (exp : Int) : Double :=
  match exp with
  | .ofNat e => ofRatio neg (n * Nat.pow 2 e) 1
  | .negSucc e => ofRatio neg n (Nat.pow 2 (e + 1))

/-- The double nearest to `± digits * 10 ^ exp`. Where the digits lie wholly outside the range
of doubles the power of ten is not computed. -/
def ofDecimal (neg : Bool) (digits : Nat) (exp : Int) : Double :=
  if digits = 0 then zeroOf neg
  else
    -- `digits` lies between `2 ^ log2` and `2 ^ (log2 + 1)`, and ten between `2 ^ 3` and `2 ^ 4`.
    let low : Int := digits.log2 + 3 * exp
    let high : Int := digits.log2 + 1 + (if exp < 0 then 3 else 4) * exp
    if 0 ≤ exp ∧ 1024 < low then .infinite neg
    else if exp < 0 ∧ high < -1080 then zeroOf neg
    else match exp with
      | .ofNat e => ofRatio neg (digits * Nat.pow 10 e) 1
      | .negSucc e => ofRatio neg digits (Nat.pow 10 (e + 1))

/-- The double nearest to a whole number; far too large a one becomes infinite. -/
def ofInt (n : Int) : Double := ofRatio (decide (n < 0)) n.natAbs 1

/-- The size of a finite double as a quotient of naturals. -/
def quotient (mant : Nat) (exp : Int) : Nat × Nat :=
  match exp with
  | .ofNat e => (mant * Nat.pow 2 e, 1)
  | .negSucc e => (mant, Nat.pow 2 (e + 1))

/-! ### Kinds of double -/

def isNan : Double → Bool
  | .nan => true
  | _ => false

def isFinite : Double → Bool
  | .finite .. => true
  | _ => false

/-- Zero of either sign. -/
def isZero : Double → Bool
  | .finite _ 0 _ _ => true
  | _ => false

/-- A finite double without a fractional part. -/
def isWhole : Double → Bool
  | .finite _ m e _ => let (a, b) := quotient m e; a % b == 0
  | _ => false

/-- The whole part of a finite double, cut toward zero. -/
def toInt? : Double → Option Int
  | .finite s m e _ => let (a, b) := quotient m e; some (Rounding.truncated s a b)
  | _ => none

/-! ### Arithmetic -/

def neg : Double → Double
  | .nan => .nan
  | .infinite s => .infinite !s
  | .finite s m e h => .finite (!s) m e h

def abs : Double → Double
  | .nan => .nan
  | .infinite _ => .infinite false
  | .finite _ m e h => .finite false m e h

/-- A finite double in units of `2 ^ unit`, for a unit no finer than needed. -/
def inUnits (s : Bool) (m : Nat) (e unit : Int) : Int :=
  let n : Int := m * Nat.pow 2 (e - unit).toNat
  if s then -n else n

/-- Infinities of opposite sign have no sum; an exact zero is negative only if both terms are. -/
def add : Double → Double → Double
  | .nan, _ => .nan
  | _, .nan => .nan
  | .infinite s, .infinite t => if s = t then .infinite s else .nan
  | .infinite s, .finite .. => .infinite s
  | .finite .., .infinite t => .infinite t
  | .finite s m e _, .finite t n f _ =>
    let unit := min e f
    let total := inUnits s m e unit + inUnits t n f unit
    if total = 0 then zeroOf (s && t) else ofScaled (decide (total < 0)) total.natAbs unit

def sub (x y : Double) : Double := add x (neg y)

/-- Zero times infinity is no number; the sign is negative if exactly one factor's is. -/
def mul : Double → Double → Double
  | .nan, _ => .nan
  | _, .nan => .nan
  | .infinite s, .infinite t => .infinite (s != t)
  | .infinite s, .finite t n _ _ => if n = 0 then .nan else .infinite (s != t)
  | .finite s m _ _, .infinite t => if m = 0 then .nan else .infinite (s != t)
  | .finite s m e _, .finite t n f _ => ofScaled (s != t) (m * n) (e + f)

/-- Division by zero is left to the caller, who must not ask for it: here it gives the limit. -/
def div : Double → Double → Double
  | .nan, _ => .nan
  | _, .nan => .nan
  | .infinite _, .infinite _ => .nan
  | .infinite s, .finite t _ _ _ => .infinite (s != t)
  | .finite s _ _ _, .infinite t => zeroOf (s != t)
  | .finite s m e _, .finite t n f _ =>
    if n = 0 then (if m = 0 then .nan else .infinite (s != t))
    else
      match e - f with
      | .ofNat k => ofRatio (s != t) (m * Nat.pow 2 k) n
      | .negSucc k => ofRatio (s != t) m (n * Nat.pow 2 (k + 1))

/-! ### Order -/

/-- Which of two finite doubles is the greater, exactly. -/
def compareFinite (s : Bool) (m : Nat) (e : Int) (t : Bool) (n : Nat) (f : Int) : Ordering :=
  let unit := min e f
  compare (inUnits s m e unit) (inUnits t n f unit)

/-- The order of numbers; nothing is comparable to what is no number. -/
def compare? : Double → Double → Option Ordering
  | .nan, _ => none
  | _, .nan => none
  | .infinite s, .infinite t => some (compare t.toNat s.toNat)
  | .infinite s, .finite .. => some (if s then .lt else .gt)
  | .finite .., .infinite t => some (if t then .gt else .lt)
  | .finite s m e _, .finite t n f _ => some (compareFinite s m e t n f)

def lt (x y : Double) : Bool := compare? x y == some .lt
def le (x y : Double) : Bool := compare? x y == some .lt || compare? x y == some .eq

/-- Equal as numbers: both zeros are, and what is no number equals nothing. -/
def same (x y : Double) : Bool := compare? x y == some .eq

/-! ### Rounding to decimal places -/

/-- A finite size in units of `10 ^ -places`, a tie going to the even one. -/
def placesOf (places : Nat) (m : Nat) (e : Int) : Nat :=
  let (a, b) := quotient m e
  Rounding.halfEven (a * Nat.pow 10 places) b

/-- The double nearest to the value rounded to so many decimal places. -/
def round (places : Nat) : Double → Double
  | .finite s m e _ => ofRatio s (placesOf places m e) (Nat.pow 10 places)
  | x => x

end Double
end MetricDesk
