import MetricDesk.Text.Ranges

/-! Decimal digits of every script. Each script has its ten digits in a row, so that the code
point of its zero gives them all. Edition 14 of the character tables. -/
namespace MetricDesk.Text

/-- The code points of the zeros, in ascending order. -/
def zeroDigits : List Nat := [
    48, 1632, 1776, 1984, 2406, 2534, 2662, 2790, 2918, 3046, 3174, 3302, 3430, 3558, 3664, 3792,
    3872, 4160, 4240, 6112, 6160, 6470, 6608, 6784, 6800, 6992, 7088, 7232, 7248, 42528, 43216,
    43264, 43472, 43504, 43600, 44016, 65296, 66720, 68912, 69734, 69872, 69942, 70096, 70384,
    70736, 70864, 71248, 71360, 71472, 71904, 72016, 72784, 73040, 73120, 92768, 92864, 93008,
    120782, 120792, 120802, 120812, 120822, 123200, 123632, 125264, 130032]

/-- The digit that a code point stands for, if it stands for one. -/
def digitFrom : List Nat → Nat → Option Nat
  | [], _ => none
  | z :: rest, n => if n < z then none else if n < z + 10 then some (n - z) else digitFrom rest n

def digitOf? (c : Char) : Option Nat := digitFrom zeroDigits c.toNat

def isDigit (c : Char) : Bool := (digitOf? c).isSome

/-- The number that a run of digits stands for; other characters count as zero. -/
def numberOf (ds : List Char) : Nat :=
  ds.foldl (fun n c => 10 * n + (digitOf? c).getD 0) 0

theorem digitFrom_lt {zs : List Nat} {n d : Nat} (h : digitFrom zs n = some d) : d < 10 := by
  induction zs with
  | nil => simp [digitFrom] at h
  | cons z rest ih =>
    unfold digitFrom at h
    split at h
    · simp at h
    · split at h
      · simp at h; omega
      · exact ih h

theorem digitOf?_lt {c : Char} {d : Nat} (h : digitOf? c = some d) : d < 10 := digitFrom_lt h

end MetricDesk.Text
