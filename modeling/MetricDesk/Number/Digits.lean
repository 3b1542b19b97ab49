import MetricDesk.Number.Double

/-! Decimal digits of numbers: of a natural, of the shortest decimal that reads back as a given
double, and of a value rounded to so many significant digits. -/
namespace MetricDesk.Digits

/-- The decimal digits of a natural, the most significant first. -/
def ofNat (n : Nat) : List Char := Nat.toDigits 10 n

/-- Digits filled up with zeros in front. -/
def padded (width : Nat) (n : Nat) : List Char :=
  let ds := ofNat n
  List.replicate (width - ds.length) '0' ++ ds

/-- Digits in groups of three, counted from the end. -/
def grouped (n : Nat) : List Char :=
  let ds := ofNat n
  (ds.zipIdx.map fun (d, i) =>
    if 0 < i && (ds.length - i) % 3 == 0 then [',', d] else [d]).flatten

/-- `coefficient * 10 ^ exponent`. -/
structure Decimal where
  coefficient : Nat
  exponent : Int
  deriving DecidableEq, Repr

/-- The greatest `t` with `10 ^ t ≤ n / d`, for positive `n` and `d`: an estimate from the
binary lengths, which is off by one at most, and its neighbours. -/
def magnitude (n d : Nat) : Int :=
  let reaches (t : Int) : Bool := match t with
    | .ofNat k => d * Nat.pow 10 k ≤ n
    | .negSucc k => d ≤ n * Nat.pow 10 (k + 1)
  let guess : Int := Int.fdiv (((n.log2 : Int) - d.log2) * 30103) 100000
  if reaches (guess + 1) then guess + 1
  else if reaches guess then guess
  else guess - 1

/-- The quotient `n / d` measured in units of `10 ^ p`. -/
def inUnitsOfTen (n d : Nat) (p : Int) : Nat × Nat :=
  match p with
  | .ofNat k => (n, d * Nat.pow 10 k)
  | .negSucc k => (n * Nat.pow 10 (k + 1), d)

/-- The reals that round to a double: from halfway to the neighbour below to halfway to the
neighbour above, in quarters of the unit of its significand. The ends belong to it if the
significand is even. -/
structure Interval where
  low : Nat
  value : Nat
  high : Nat
  closed : Bool

/-- The gap below the least significand of a binade is half as wide. -/
def intervalOf (mant : Nat) (exp : Int) : Interval where
  low := if mant = Nat.pow 2 52 ∧ exp ≠ -1074 then 4 * mant - 1 else 4 * mant - 2
  value := 4 * mant
  high := 4 * mant + 2
  closed := mant % 2 == 0

/-- A point of a decimal grid lies in the interval; the interval's quarters and the grid's unit
are both taken to whole numbers by `unit`, the pair of factors. -/
def Interval.holds (i : Interval) (unit : Nat × Nat) (point : Nat) : Bool :=
  let p := point * unit.2
  if i.closed then i.low * unit.1 ≤ p && p ≤ i.high * unit.1
  else i.low * unit.1 < p && p < i.high * unit.1

/-- Of the two neighbours of the value on the grid of `10 ^ p` the nearer one that reads back;
of two equally near the even one. -/
def Interval.nearest? (i : Interval) (exp p : Int) : Option Nat :=
  -- A quarter of the significand's unit is `q.1 / q.2` times `10 ^ p`.
  let q := match exp - 2 with
    | .ofNat k => inUnitsOfTen (Nat.pow 2 k) 1 p
    | .negSucc k => inUnitsOfTen 1 (Nat.pow 2 (k + 1)) p
  let below := i.value * q.1 / q.2
  let above := below + 1
  let down := i.value * q.1 - below * q.2
  let up := above * q.2 - i.value * q.1
  match i.holds q below, i.holds q above with
  | true, true =>
    if down < up then some below
    else if up < down then some above
    else some (if below % 2 == 0 then below else above)
  | true, false => some below
  | false, true => some above
  | false, false => none

/-- Trailing zeros moved into the exponent. The fuel is the number of digits. -/
def Decimal.stripped (d : Decimal) : Decimal :=
  let rec go : Nat → Nat → Int → Decimal
    | 0, c, e => ⟨c, e⟩
    | fuel + 1, c, e => if c ≠ 0 ∧ c % 10 = 0 then go fuel (c / 10) (e + 1) else ⟨c, e⟩
  go (ofNat d.coefficient).length d.coefficient d.exponent

/-- The fewest digits that read back as the double `mant * 2 ^ exp`, and of those the nearest to
it: the first of the grids of one to seventeen digits with a point that reads back. Seventeen
digits always do, so the last line is never reached. -/
def shortest (mant : Nat) (exp : Int) : Decimal :=
  let i := intervalOf mant exp
  let (n, d) := Double.quotient mant exp
  let top := magnitude n d
  let found := (List.range 17).findSome? fun (k : Nat) =>
    (i.nearest? exp (top - k)).map fun c => Decimal.mk c (top - k)
  (found.getD ⟨mant, exp⟩).stripped

/-- A positive quotient to so many significant digits, a tie going to the even one. -/
def significant (count n d : Nat) : Decimal :=
  let p := magnitude n d - ((count : Int) - 1)
  let (a, b) := inUnitsOfTen n d p
  let c := Rounding.halfEven a b
  if c = Nat.pow 10 count then ⟨Nat.pow 10 (count - 1), p + 1⟩ else ⟨c, p⟩

end MetricDesk.Digits
