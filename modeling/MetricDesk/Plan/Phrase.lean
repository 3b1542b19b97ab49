import MetricDesk.Failure
import MetricDesk.Text.Digit
import MetricDesk.Text.Scan

/-! Phrases of time: counted ones such as "last 4 weeks", and fixed ones such as "this month".
Counted phrases win over fixed ones, and among each the first kind in its list that occurs. -/
namespace MetricDesk.Phrase
open Text

/-- A counted phrase: the word in front of the number, the unit behind it, and its days. A
plural or any other ending of the unit does not matter. -/
structure Counted where
  lead : String
  unit : String
  days : Nat

def counted : List Counted := [
  ⟨"last", "day", 1⟩,
  ⟨"past", "day", 1⟩,
  ⟨"last", "week", 7⟩,
  ⟨"past", "week", 7⟩,
  ⟨"last", "month", 30⟩]

/-- The digits of a counted phrase at the front. -/
def Counted.digits? (p : Counted) (cs : List Char) : Option (List Char) := do
  let rest ← (after? p.lead.toList cs).bind afterBlanks?
  let digits := rest.takeWhile isDigit
  if digits.isEmpty then none
  else
    let unit ← afterBlanks? (rest.dropWhile isDigit)
    (after? p.unit.toList unit).map fun _ => digits

/-- A fixed phrase: one of some words, followed by a unit or by nothing, as whole words. -/
structure Fixed where
  leads : List String
  unit : Option String
  days : Nat

def fixed : List Fixed := [
  ⟨["today", "yesterday"], none, 1⟩,
  ⟨["last", "past", "this"], some "week", 7⟩,
  ⟨["last", "past", "this"], some "month", 30⟩,
  ⟨["last", "past"], some "quarter", 90⟩]

/-- A fixed phrase stands at the front. -/
def Fixed.standsAt (p : Fixed) (before : Option Char) (cs : List Char) : Option Unit :=
  if startsWord before && p.leads.any fun lead =>
    let rest := match p.unit with
      | none => after? lead.toList cs
      | some unit =>
        ((after? lead.toList cs).bind afterBlanks?).bind (after? unit.toList)
    rest.any endsWord
  then some () else none

/-- The window of a question that names none. -/
def defaultDays : Nat := 30

/-- The number of days that a question in lower case asks for, at least one. A number of too
many digits is beyond computing. -/
def days (q : List Char) : Except Failure Nat :=
  match counted.findSome? fun p => (search (fun _ => p.digits?) none q).map (p, ·) with
  | some (p, digits) =>
    if Json.maxDigits < digits.length then .error (.tooManyDigits digits.length)
    else .ok (max (numberOf digits * p.days) 1)
  | none =>
    match fixed.find? fun p => (search p.standsAt none q).isSome with
    | some p => .ok p.days
    | none => .ok defaultDays

end MetricDesk.Phrase
