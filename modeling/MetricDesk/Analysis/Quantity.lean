import MetricDesk.Sorting.Basic
import MetricDesk.Value.Arithmetic

/-! Quantities: what series measure and analyses compute with. The same analyses run on doubles,
on cells as a caller hands them in, and on any exact numbers. -/
namespace MetricDesk

/-- Numbers whose arithmetic and order may fail. -/
class Quantity (α : Type) where
  /-- What stands for nothing measured. -/
  zero : α
  ofNat : Nat → α
  add : α → α → Except Failure α
  sub : α → α → Except Failure α
  mul : α → α → Except Failure α
  /-- Division by zero is a failure. -/
  div : α → α → Except Failure α
  isZero : α → Except Failure Bool
  lt : α → α → Except Failure Bool
  /-- Whether it has a place in one order with all others that have. -/
  isRanked : α → Bool
  abs : α → α
  /-- To so many decimal places. -/
  round : Nat → α → Except Failure α

namespace Quantity

instance : Quantity Double where
  zero := .zero
  ofNat n := .ofInt n
  add x y := .ok (x.add y)
  sub x y := .ok (x.sub y)
  mul x y := .ok (x.mul y)
  div x y := if y.isZero then .error (.arithmetic .zeroDoubleDivisor) else .ok (x.div y)
  isZero x := .ok x.isZero
  lt x y := .ok (x.lt y)
  isRanked x := !x.isNan
  abs := Double.abs
  round places x := .ok (x.round places)

instance : Quantity Value where
  zero := .dbl .zero
  ofNat n := .nat n
  add := Value.add
  sub := Value.sub
  mul := Value.mul
  div := Value.div
  isZero := Value.isZero
  lt := Value.lt
  isRanked v := v.number?.any (!·.isNan)
  abs := Value.abs
  round := Value.round

variable {α β : Type} [Quantity α]

/-- One quantity is less than another; a failure is no order. -/
def isLess (x y : α) : Bool :=
  match lt x y with
  | .ok less => less
  | .error _ => false

/-- Items by a quantity, the greatest first, equals in their order. Where all are ranked this is
the order of their quantities; otherwise it hangs on which pairs are compared. -/
def descending (key : β → α) (items : List β) : Except Failure (List β) :=
  if items.all fun b => isRanked (key b) then
    .ok (items.mergeSort fun a b => !isLess (key a) (key b))
  else Sorting.descending (fun a b => lt (key a) (key b)) items

end Quantity
end MetricDesk
