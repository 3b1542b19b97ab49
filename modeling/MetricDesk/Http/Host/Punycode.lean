/-! Code points of every script written with small letters, digits and hyphens. The basic ones stand
in front of the last hyphen; behind it a row of numbers says which others are put in, and where.
Each number is written in base thirty-six, the lowest digit first, and ends at the first digit below
a threshold that goes with the numbers before it. -/
namespace MetricDesk.Http.Punycode

/-- The first code point that is not basic. -/
def firstOther : Nat := 0x80

def lastPoint : Nat := 0x10FFFF

def digitOf? (c : Char) : Option Nat :=
  if 'a' ≤ c ∧ c ≤ 'z' then some (c.toNat - 'a'.toNat)
  else if 'A' ≤ c ∧ c ≤ 'Z' then some (c.toNat - 'A'.toNat)
  else if c.isDigit then some (c.toNat - '0'.toNat + 26)
  else none

def digit (n : Nat) : Char :=
  if n < 26 then Char.ofNat ('a'.toNat + n) else Char.ofNat ('0'.toNat + (n - 26))

/-- What the digit at a place has to reach for the number to go on. Places count by thirty-six. -/
def threshold (place bias : Nat) : Nat := min 26 (max 1 (place - bias))

theorem threshold_pos (place bias : Nat) : 0 < threshold place bias := by
  unfold threshold
  omega

/-- The steps by which a number comes down to a small one, and what it comes down to. -/
def scaled (n : Nat) : Nat × Nat :=
  if 455 < n then
    let (steps, rest) := scaled (n / 35)
    (steps + 1, rest)
  else (0, n)
termination_by n
decreasing_by exact Nat.div_lt_self (by omega) (by omega)

/-- The bias after a number, when the text has so many code points. -/
def adapted (number count : Nat) (isFirst : Bool) : Nat :=
  let damped := if isFirst then number / 700 else number / 2
  let (steps, rest) := scaled (damped + damped / count)
  36 * steps + 36 * rest / (rest + 38)

/-! ### Reading -/

/-- A number at the front, and what follows it. -/
def number? (bias place weight sum : Nat) : List Char → Option (Nat × List Char)
  | [] => none
  | c :: cs =>
    match digitOf? c with
    | none => none
    | some d =>
      if d < threshold place bias then some (sum + d * weight, cs)
      else
        number? bias (place + 36) (weight * (36 - threshold place bias)) (sum + d * weight) cs

theorem length_of_number? {bias place weight sum : Nat} {cs : List Char} {r : Nat × List Char}
    (h : number? bias place weight sum cs = some r) : r.2.length < cs.length := by
  induction cs generalizing place weight sum with
  | nil => simp [number?] at h
  | cons c cs ih =>
    rw [number?] at h
    split at h
    · cases h
    · split at h
      · cases h
        exact Nat.lt_succ_self _
      · exact Nat.lt_succ_of_lt (ih h)

/-- A text into which code points are put one after the other, each behind the one before it or
further on. Once the end is passed the count goes on from the start with the next code point. -/
structure Filling where
  text : List Nat
  point : Nat := firstOther
  place : Nat := 0
  bias : Nat := 72
  isFirst : Bool := true

namespace Filling

/-- One code point put in, so many places on. -/
def next? (s : Filling) (number : Nat) : Option Filling :=
  let count := s.text.length + 1
  let point := s.point + (s.place + number) / count
  let place := (s.place + number) % count
  if lastPoint < point then none
  else some {
    text := s.text.insertIdx place point
    point
    place := place + 1
    bias := adapted number count s.isFirst
    isFirst := false }

/-- All code points put in that a row of numbers says. -/
def filled? (s : Filling) (cs : List Char) : Option (List Nat) :=
  match cs with
  | [] => some s.text
  | c :: rest =>
    match _h : number? s.bias 36 1 0 (c :: rest) with
    | none => none
    | some (number, after) =>
      match s.next? number with
      | none => none
      | some s => s.filled? after
termination_by cs.length
decreasing_by exact length_of_number? _h

end Filling

/-- What stands in front of the last hyphen and what stands behind it. -/
def halves (cs : List Char) : List Char × List Char :=
  let behind := cs.reverse.takeWhile (· != '-')
  (cs.take (cs.length - behind.length - 1), behind.reverse)

def read? (cs : List Char) : Option (List Nat) :=
  let (basic, numbers) := halves cs
  Filling.filled? { text := basic.map (·.toNat) } numbers

/-! ### Writing -/

/-- A number from a place on. -/
def written (bias place n : Nat) : List Char :=
  let t := threshold place bias
  if n < t then [digit n]
  else digit (t + (n - t) % (36 - t)) :: written bias (place + 36) ((n - t) / (36 - t))
termination_by n
decreasing_by
  have := threshold_pos place bias
  have : (n - threshold place bias) / (36 - threshold place bias) ≤ n - threshold place bias :=
    Nat.div_le_self _ _
  omega

/-- A text on its way out. -/
structure Writing where
  /-- The numbers so far. -/
  out : List Char
  number : Nat
  bias : Nat
  /-- How many code points have been written. -/
  count : Nat
  isFirst : Bool

/-- One code point passed, or written where it is the one in turn. -/
def Writing.past (turn : Nat) (w : Writing) (n : Nat) : Writing :=
  if n < turn then { w with number := w.number + 1 }
  else if n = turn then {
    out := w.out ++ written w.bias 36 w.number
    number := 0
    bias := adapted w.number (w.count + 1) w.isFirst
    count := w.count + 1
    isFirst := false }
  else w

/-- The code points in turn, each after the one before it. -/
def Writing.through (text : List Nat) (w : Writing) (before : Nat) : List Nat → List Char
  | [] => w.out
  | turn :: turns =>
    let w := { w with number := w.number + (turn - before) * (w.count + 1) }
    let w := text.foldl (Writing.past turn) w
    Writing.through text { w with number := w.number + 1 } (turn + 1) turns

def write (text : List Nat) : List Char :=
  let basic := text.filter (· < firstOther)
  let others := (text.filter (firstOther ≤ ·)).mergeSort.eraseDups
  let front := basic.map Char.ofNat ++ (if basic.isEmpty then [] else ['-'])
  front ++ Writing.through text ⟨[], 0, 72, basic.length, true⟩ firstOther others

end MetricDesk.Http.Punycode
