import MetricDesk.Failure
import MetricDesk.Model
import MetricDesk.Number.Basic
import MetricDesk.Text.Quoted

/-! Chance: sequences of fractions, of numbers and of names, from which draws are made in order. All
that is random about seeded rows is in the draws, so equal sequences give equal rows. -/
namespace MetricDesk.Seeding

/-- What chance has in store. -/
structure Chance where
  /-- Fractions from zero up to one. -/
  fraction : Nat → Number
  /-- Numbers of 128 bits. -/
  bits : Nat → Int
  name : Nat → String

/-- How much of each sequence has been drawn. -/
structure Drawn where
  fractions : Nat
  bits : Nat
  names : Nat
  deriving DecidableEq, Repr

def Drawn.nothing : Drawn := ⟨0, 0, 0⟩

/-- Work that draws. -/
abbrev Draw (α : Type) := Dialogue Drawn α

namespace Chance

def drawFraction (c : Chance) : Draw Number := fun s =>
  (.ok (c.fraction s.fractions), { s with fractions := s.fractions + 1 })

def drawBits (c : Chance) : Draw Int := fun s =>
  (.ok (c.bits s.bits), { s with bits := s.bits + 1 })

def drawName (c : Chance) : Draw String := fun s =>
  (.ok (c.name s.names), { s with names := s.names + 1 })

/-- A place between two doubles. -/
def between (c : Chance) (low high : Double) : Draw Double := do
  let part ← c.drawFraction
  return low.add ((high.sub low).mul (← liftM (arithmetic part.toDouble)))

/-- A whole number from `low` to `high`. -/
def whole (c : Chance) (low high : Int) : Draw Int := do
  let part ← c.drawFraction
  let steps ← liftM (arithmetic (part.mul (.int (high - low + 1))))
  return low + (← liftM (arithmetic steps.whole))

/-- How many identifiers there are. -/
def identifierCount : Nat := Nat.pow 2 128

/-- Thirty-two digits in base sixteen, in five groups. -/
def identifierText (n : Nat) : String :=
  let ds := Text.hexPadded 32 n
  let group (start length : Nat) := (ds.drop start).take length
  String.ofList (group 0 8 ++ '-' :: group 8 4 ++ '-' :: group 12 4 ++ '-' :: group 16 4
    ++ '-' :: group 20 12)

/-- An identifier; a number that is none is refused. -/
def identifier (c : Chance) : Draw String := do
  let n ← c.drawBits
  if 0 ≤ n ∧ n < identifierCount then return identifierText n.toNat else throw .noIdentifier

end Chance
end MetricDesk.Seeding
