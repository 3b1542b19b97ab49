import MetricDesk.Failure
import MetricDesk.Value.Basic

/-! Marks of a template: a percent sign, a name in parentheses, flags, a width, a precision, and the
letter that says how the argument is written. Width and precision may be arguments themselves. -/
namespace MetricDesk.Template

/-- The arguments that are still to be taken. Named ones are taken one at a time. -/
structure Arguments where
  fields : Option Fields
  left : List Value

namespace Arguments

/-- Arguments in order. A single object that is not empty gives its fields by name. -/
def ofList : List Value → Arguments
  | [.obj (f :: fs)] => ⟨some (f :: fs), [.obj (f :: fs)]⟩
  | args => ⟨none, args⟩

def next (a : Arguments) : Except Failure (Value × Arguments) :=
  match a.left with
  | v :: left => .ok (v, { a with left })
  | [] => .error (.template .tooFewArguments)

/-- The field of a name becomes the only argument. -/
def named (a : Arguments) (name : String) : Except Failure Arguments :=
  match a.fields with
  | none => .error (.template .noFields)
  | some fields =>
    match fields.get? name with
    | some v => .ok { a with left := [v] }
    | none => .error (.missingKey name)

end Arguments

structure Mark where
  /-- Blanks go behind instead of in front. -/
  toLeft : Bool := false
  /-- A sign in front of what is not negative: a plus, or a blank. -/
  plus : Bool := false
  blank : Bool := false
  /-- The longer of the forms that a number has. -/
  alternate : Bool := false
  /-- A number is filled up with zeros. -/
  zeros : Bool := false
  width : Nat := 0
  precision : Option Nat := none
  letter : Char := 's'

namespace Mark

/-- The greatest width and the greatest precision. -/
def widest : Nat := Nat.pow 2 63 - 1
def finest : Nat := Nat.pow 2 31 - 1

/-- A name up to its closing parenthesis; parentheses inside it come in pairs. -/
def name? : Nat → List Char → Option (List Char × List Char)
  | _, [] => none
  | depth, c :: cs =>
    if c = ')' ∧ depth = 0 then some ([], cs)
    else
      let depth := if c = '(' then depth + 1 else if c = ')' then depth - 1 else depth
      (name? depth cs).map fun (name, rest) => (c :: name, rest)

/-- There is no room for a text of more characters. -/
def longest : Nat := Nat.pow 2 27

def fits (count : Nat) : Except Failure Unit :=
  if count ≤ longest then .ok () else .error (.template .noRoom)

/-- The flags in front of a mark's width, in any order and as often as they come. -/
def flags (m : Mark) : List Char → Mark × List Char
  | '-' :: cs => flags { m with toLeft := true } cs
  | '+' :: cs => flags { m with plus := true } cs
  | ' ' :: cs => flags { m with blank := true } cs
  | '#' :: cs => flags { m with alternate := true } cs
  | '0' :: cs => flags { m with zeros := true } cs
  | cs => (m, cs)

/-- A whole number taken from the arguments. -/
def star (a : Arguments) : Except Failure (Int × Arguments) := do
  let (v, a) ← a.next
  match v with
  | .num (.int n) => return (n, a)
  | .bool b => return (b.toNat, a)
  | _ => throw (.template .starNotWhole)

/-- A negative width is one to the left; the least of all is none. -/
def readWidth (m : Mark) (a : Arguments) (cs : List Char) :
    Except Failure (Mark × Arguments × List Char) := do
  match cs with
  | '*' :: cs =>
    let (n, a) ← star a
    if (widest : Int) < n ∨ n < -(widest + 1 : Nat) then throw (.template .starTooWide)
    let width := if n.natAbs ≤ widest then n.natAbs else 0
    return ({ m with toLeft := m.toLeft || n < 0, width }, a, cs)
  | cs =>
    let (ds, rest) := Reading.digits cs
    let n := Reading.naturalOf ds
    if widest < n then throw (.template .tooWide)
    return ({ m with width := n }, a, rest)

/-- A precision behind a point; without digits, or a negative one, it is zero. -/
def readPrecision (m : Mark) (a : Arguments) (cs : List Char) :
    Except Failure (Mark × Arguments × List Char) := do
  match cs with
  | '.' :: '*' :: cs =>
    let (n, a) ← star a
    if (finest : Int) < n ∨ n < -(finest + 1 : Nat) then throw (.template .starTooPrecise)
    return ({ m with precision := some n.toNat }, a, cs)
  | '.' :: cs =>
    let (ds, rest) := Reading.digits cs
    let n := Reading.naturalOf ds
    if finest < n then throw (.template .tooPrecise)
    return ({ m with precision := some n }, a, rest)
  | cs => return (m, a, cs)

/-- A letter for the size of an argument says nothing. -/
def withoutSize : List Char → List Char
  | 'h' :: cs | 'l' :: cs | 'L' :: cs => cs
  | cs => cs

/-- The mark behind a percent sign, the arguments that it leaves, and what follows it. -/
def read (a : Arguments) (cs : List Char) : Except Failure (Mark × Arguments × List Char) := do
  let (a, cs) ← match cs with
    | '(' :: cs =>
      if a.fields.isNone then throw (.template .noFields)
      match name? 0 cs with
      | some (name, rest) => do pure (← a.named (String.ofList name), rest)
      | none => throw (.template .incompleteName)
    | _ => pure (a, cs)
  let (m, cs) := flags {} cs
  let (m, a, cs) ← m.readWidth a cs
  let (m, a, cs) ← m.readPrecision a cs
  match withoutSize cs with
  | c :: cs => return ({ m with letter := c }, a, cs)
  | [] => throw (.template .incomplete)

end Mark
end MetricDesk.Template
