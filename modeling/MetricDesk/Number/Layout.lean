import MetricDesk.Number.Digits

/-! How digits become the text of a number: the decisions of each format are one record, the
layout that follows them is one function. -/
namespace MetricDesk

/-- What a format of numbers decides. -/
structure Layout where
  /-- Exponents of the first digit from here on are written positionally. -/
  least : Int
  /-- Exponents from here on are written behind an `e`. -/
  limit : Int
  /-- A whole number written positionally ends in `.0`. -/
  point : Bool
  nan : String
  infinity : String

namespace Layout

/-- Positional from `0.0001` up to below `10 ^ 16`, with a point in every positional number. -/
def plain : Layout where
  least := -4
  limit := 16
  point := true
  nan := "nan"
  infinity := "inf"

/-- The same digits, with the words of a JSON document for what is no finite number. -/
def document : Layout where
  least := -4
  limit := 16
  point := true
  nan := "NaN"
  infinity := "Infinity"

/-- Six significant digits, with no point in a whole number. -/
def brief : Layout where
  least := -4
  limit := 6
  point := false
  nan := "nan"
  infinity := "inf"

/-- An exponent has a sign and at least two digits. -/
def exponent (e : Int) : List Char :=
  'e' :: (if e < 0 then '-' else '+') :: Digits.padded 2 e.natAbs

/-- The text of a positive decimal without trailing zeros in its coefficient. -/
def write (l : Layout) (d : Digits.Decimal) : List Char :=
  let ds := Digits.ofNat d.coefficient
  let first := d.exponent + ds.length - 1
  if l.least ≤ first ∧ first < l.limit then
    if 0 ≤ d.exponent then
      ds ++ List.replicate d.exponent.toNat '0' ++ (if l.point then ['.', '0'] else [])
    else if 0 ≤ first then
      let whole := (first + 1).toNat
      ds.take whole ++ '.' :: ds.drop whole
    else '0' :: '.' :: List.replicate (-first - 1).toNat '0' ++ ds
  else
    match ds with
    | [c] => c :: exponent first
    | c :: rest => c :: '.' :: rest ++ exponent first
    | [] => []

/-- The text of zero. -/
def zero (l : Layout) : List Char := if l.point then ['0', '.', '0'] else ['0']

def signed (neg : Bool) (text : List Char) : String :=
  String.ofList (if neg then '-' :: text else text)

/-- A double by its digits, as `digits` chooses them from a nonzero significand and exponent. -/
def double (l : Layout) (digits : Nat → Int → Digits.Decimal) : Double → String
  | .nan => l.nan
  | .infinite s => signed s l.infinity.toList
  | .finite s m e _ =>
    if m = 0 then signed s l.zero else signed s (l.write (digits m e))

end Layout

namespace Double

/-- The shortest text that reads back. -/
def text (x : Double) : String := Layout.plain.double Digits.shortest x

/-- Six significant digits. -/
def brief (x : Double) : String :=
  Layout.brief.double
    (fun m e => let (n, d) := quotient m e; (Digits.significant 6 n d).stripped) x

/-- So many decimal places, a tie going to the even digit. -/
def fixed (places : Nat) : Double → String
  | .nan => "nan"
  | .infinite s => Layout.signed s ['i', 'n', 'f']
  | .finite s m e _ =>
    let ds := Digits.padded (places + 1) (placesOf places m e)
    let whole := ds.length - places
    Layout.signed s
      (ds.take whole ++ if places = 0 then [] else '.' :: ds.drop whole)

end Double
end MetricDesk
