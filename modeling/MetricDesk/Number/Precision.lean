import MetricDesk.Number.Exact

/-! Arithmetic of decimals. A result is exact and then rounded once to the digits that it may have,
a tie going to the even one; what has no result is a fault. -/
namespace MetricDesk.ExactDecimal

/-- The most digits of a result. -/
def precision : Nat := 28

/-- The greatest place that the first digit of a result may have, either side of the point. -/
def reach : Nat := 999999

/-- The exponent below which no result has digits. -/
def finest : Int := 1 - (reach : Int) - precision

/-- A value at an exponent that is at least its own, a tie going to the even digit. -/
def coarsened (coefficient : Nat) (exponent unit : Int) : Nat :=
  let shift := (unit - exponent).toNat
  if (Digits.ofNat coefficient).length + 1 < shift then 0
  else Rounding.halfEven coefficient (Nat.pow 10 shift)

/-- A result with no more digits than it may have. -/
def rounded (neg : Bool) (coefficient : Nat) (exponent : Int) :
    Except ArithmeticFault ExactDecimal :=
  if coefficient = 0 then .ok (.finite neg 0 (max finest (min exponent reach)))
  else
    let unit := max finest (magnitude coefficient exponent - (precision - 1 : Nat))
    let (c, e) := if exponent < unit then (coarsened coefficient exponent unit, unit)
      else (coefficient, exponent)
    let (c, e) := if c = Nat.pow 10 precision then (c / 10, e + 1) else (c, e)
    if (reach : Int) < magnitude c e then .error .decimalTooLarge else .ok (.finite neg c e)

/-- Nothing is computed with what signals, and what is no number stays so. -/
def onNumbers (f : ExactDecimal → ExactDecimal → Except ArithmeticFault ExactDecimal)
    (x y : ExactDecimal) : Except ArithmeticFault ExactDecimal :=
  if x.signals || y.signals then .error .invalidDecimal
  else if x.isNan then .ok x
  else if y.isNan then .ok y
  else f x y

/-- A term that lies wholly below the digits of a result counts as the least that does. -/
def nearTerm (c : Nat) (e : Int) (d : Nat) (f : Int) : Nat × Int :=
  let floor := min e (magnitude c e - (precision + 2 : Nat))
  if c ≠ 0 ∧ d ≠ 0 ∧ magnitude d f < floor - 1 then (1, floor - 1) else (d, f)

/-- A value at the exponent `unit`, or as near to it as the digits of a result allow. -/
def refined (neg : Bool) (c : Nat) (e unit : Int) : Except ArithmeticFault ExactDecimal :=
  let shift := (e - max unit (magnitude c e - (precision - 1 : Nat))).toNat
  rounded neg (c * Nat.pow 10 shift) (e - shift)

/-- A sum has the smaller of the two exponents, as far as its digits allow. -/
def addFinite (s : Bool) (c : Nat) (e : Int) (t : Bool) (d : Nat) (f : Int) :
    Except ArithmeticFault ExactDecimal :=
  if c = 0 ∧ d = 0 then rounded (s && t) 0 (min e f)
  else if c = 0 then refined t d f e
  else if d = 0 then refined s c e f
  else
    let (d, f) := nearTerm c e d f
    let (c, e) := nearTerm d f c e
    let unit := min e f
    let total := inUnits s c e unit + inUnits t d f unit
    if total = 0 then rounded (s && t) 0 unit else rounded (decide (total < 0)) total.natAbs unit

/-- Infinities of opposite sign have no sum. -/
def add : ExactDecimal → ExactDecimal → Except ArithmeticFault ExactDecimal :=
  onNumbers fun x y => match x, y with
    | .infinite s, .infinite t => if s = t then .ok (.infinite s) else .error .invalidDecimal
    | .infinite s, _ => .ok (.infinite s)
    | _, .infinite t => .ok (.infinite t)
    | .finite s c e, .finite t d f => addFinite s c e t d f
    | _, _ => .ok quiet

def neg : ExactDecimal → ExactDecimal
  | .nan s signals payload => .nan s signals payload
  | .infinite s => .infinite !s
  | .finite s c e => .finite (!s) c e

def sub (x y : ExactDecimal) : Except ArithmeticFault ExactDecimal := add x y.neg

/-- Zero times infinity has no product. -/
def mul : ExactDecimal → ExactDecimal → Except ArithmeticFault ExactDecimal :=
  onNumbers fun x y => match x, y with
    | .infinite s, .infinite t => .ok (.infinite (s != t))
    | .infinite s, .finite t d _ =>
      if d = 0 then .error .invalidDecimal else .ok (.infinite (s != t))
    | .finite s c _, .infinite t =>
      if c = 0 then .error .invalidDecimal else .ok (.infinite (s != t))
    | .finite s c e, .finite t d f => rounded (s != t) (c * d) (e + f)
    | _, _ => .ok quiet

/-- Trailing zeros given up as long as the exponent stays below `ideal`. The fuel is the number of
digits. -/
def towards (ideal : Int) : Nat → Nat → Int → Nat × Int
  | 0, c, e => (c, e)
  | fuel + 1, c, e =>
    if e < ideal ∧ c ≠ 0 ∧ c % 10 = 0 then towards ideal fuel (c / 10) (e + 1) else (c, e)

/-- A quotient with more digits than a result may have, the last of which tells whether more would
follow, and trailing zeros given up where it is exact. -/
def divFinite (s : Bool) (c : Nat) (e : Int) (t : Bool) (d : Nat) (f : Int) :
    Except ArithmeticFault ExactDecimal :=
  if d = 0 then .error (if c = 0 then .decimalUndefined else .decimalZeroDivisor)
  else if c = 0 then rounded (s != t) 0 (e - f)
  else
    let shift := (Digits.ofNat d).length + precision + 1
    let (q, r) := (c * Nat.pow 10 shift / d, c * Nat.pow 10 shift % d)
    let unit := e - f - shift
    if r = 0 then
      let (q, unit) := towards (e - f) (Digits.ofNat q).length q unit
      rounded (s != t) q unit
    else rounded (s != t) (10 * q + 1) (unit - 1)

def div : ExactDecimal → ExactDecimal → Except ArithmeticFault ExactDecimal :=
  onNumbers fun x y => match x, y with
    | .infinite _, .infinite _ => .error .invalidDecimal
    | .infinite s, .finite t _ _ => .ok (.infinite (s != t))
    | .finite s _ _, .infinite t => .ok (.finite (s != t) 0 finest)
    | .finite s c e, .finite t d f => divFinite s c e t d f
    | _, _ => .ok quiet

def abs : ExactDecimal → ExactDecimal
  | .nan _ signals payload => .nan false signals payload
  | .infinite _ => .infinite false
  | .finite _ c e => .finite false c e

/-- To so many decimal places, if that takes no more digits than a result may have. -/
def round (places : Nat) : ExactDecimal → Except ArithmeticFault ExactDecimal
  | .nan s signals payload =>
    if signals then .error .invalidDecimal else .ok (.nan s signals payload)
  | .infinite _ => .error .invalidDecimal
  | .finite s c e =>
    let unit := -(places : Int)
    if c = 0 then .ok (.finite s 0 unit)
    else if (precision : Int) ≤ magnitude c e - unit then .error .invalidDecimal
    else
      let n := if e < unit then coarsened c e unit else c * Nat.pow 10 (e - unit).toNat
      if Nat.pow 10 precision ≤ n then .error .invalidDecimal else .ok (.finite s n unit)

/-- Zero of either sign; what signals is not compared to it. -/
def isZeroChecked (x : ExactDecimal) : Except ArithmeticFault Bool :=
  if x.signals then .error .invalidDecimal else .ok x.isZero

/-- What is no number is not put in order. -/
def lt (x y : ExactDecimal) : Except ArithmeticFault Bool :=
  match compare? x y with
  | some order => .ok (order == .lt)
  | none => .error .invalidDecimal

end MetricDesk.ExactDecimal
