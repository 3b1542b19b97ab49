import MetricDesk.Number.Layout
import MetricDesk.Text.Digit

/-! Numerals in running text: a minus sign, a run of digits of any script, and a second run
behind a single point. Each is read from the left as far as it goes. -/
namespace MetricDesk

/-- A numeral as it stands in the text. Without a point the fraction is empty. -/
structure Numeral where
  negative : Bool
  whole : List Char
  fraction : List Char
  deriving DecidableEq

namespace Numeral

def chars (n : Numeral) : List Char :=
  (if n.negative then ['-'] else []) ++ n.whole
    ++ if n.fraction.isEmpty then [] else '.' :: n.fraction

def text (n : Numeral) : String := String.ofList n.chars

/-- The nearest double. -/
def value (n : Numeral) : Double :=
  Double.ofDecimal n.negative (Text.numberOf (n.whole ++ n.fraction)) (-(n.fraction.length : Int))

/-- The digits at the front. -/
def run (cs : List Char) : List Char := cs.takeWhile Text.isDigit

/-- What follows the digits at the front. -/
def afterRun (cs : List Char) : List Char := cs.dropWhile Text.isDigit

/-- The fraction at the front, a point and at least one digit, and what follows it. -/
def fractionOf : List Char → List Char × List Char
  | '.' :: cs => if (run cs).isEmpty then ([], '.' :: cs) else (run cs, afterRun cs)
  | cs => ([], cs)

/-- The minus sign at the front, and what follows it. -/
def signOf : List Char → Bool × List Char
  | '-' :: cs => (true, cs)
  | cs => (false, cs)

/-- The numeral at the front, and what follows it. -/
def front? (cs : List Char) : Option (Numeral × List Char) :=
  let (negative, body) := signOf cs
  if (run body).isEmpty then none
  else
    let (fraction, rest) := fractionOf (afterRun body)
    some (⟨negative, run body, fraction⟩, rest)

theorem length_afterRun (cs : List Char) : (run cs).length + (afterRun cs).length = cs.length := by
  rw [← List.length_append, run, afterRun, List.takeWhile_append_dropWhile]

theorem length_fractionOf (cs : List Char) : (fractionOf cs).2.length ≤ cs.length := by
  unfold fractionOf
  split
  · rename_i cs
    split
    · simp
    · have := length_afterRun cs
      simp only [List.length_cons]
      omega
  · exact Nat.le_refl _

theorem length_signOf (cs : List Char) : (signOf cs).2.length ≤ cs.length := by
  unfold signOf
  split <;> simp

/-- A numeral takes at least one character. -/
theorem length_of_front? {cs rest : List Char} {n : Numeral} (h : front? cs = some (n, rest)) :
    rest.length < cs.length := by
  simp only [front?] at h
  split at h
  · simp at h
  · rename_i found
    simp only [Option.some.injEq, Prod.mk.injEq] at h
    have taken : 0 < (run (signOf cs).2).length := by
      cases hr : run (signOf cs).2 with
      | nil => simp [hr] at found
      | cons _ _ => simp
    have := length_afterRun (signOf cs).2
    have := length_signOf cs
    have := length_fractionOf (afterRun (signOf cs).2)
    rw [← h.2]
    omega

/-- The numerals of a text in order. -/
def scan (cs : List Char) : List Numeral :=
  match h : front? cs with
  | some (n, rest) => have := length_of_front? h; n :: scan rest
  | none =>
    match cs with
    | [] => []
    | _ :: more => scan more
termination_by cs.length
decreasing_by
  · assumption
  · simp

end Numeral

/-- A double with two decimal places; zero has no sign. -/
def Double.cents (x : Double) : String :=
  let text := (x.round 2).fixed 2
  if text = "-0.00" then "0.00" else text

end MetricDesk
