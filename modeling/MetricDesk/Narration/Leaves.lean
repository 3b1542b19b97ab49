import MetricDesk.Value.Basic

/-! The numbers in a value: whole numbers and doubles reached through lists and the values of
objects. Truth values are none, and neither is what is no number. -/
namespace MetricDesk.Leaves

/-- The double of a number, none where it is no number. -/
def ofNumber (n : Number) : Except ArithmeticFault (Option Double) :=
  if n.isNan then .ok none else n.toDouble.map some

mutual

/-- The count of a value's parts. -/
def weight : Value → Nat
  | .list xs => weightOfItems xs + 1
  | .obj fs => weightOfFields fs + 1
  | _ => 1

def weightOfItems : List Value → Nat
  | [] => 0
  | x :: xs => weight x + weightOfItems xs

def weightOfFields : List (String × Value) → Nat
  | [] => 0
  | (_, v) :: fs => weight v + weightOfFields fs

end

theorem weight_pos (v : Value) : 0 < weight v := by
  cases v <;> simp [weight]

/-- The items of a list put onto a heap one by one, so that the last is topmost. -/
def pile : List Value → List Value → List Value
  | [], heap => heap
  | x :: xs, heap => pile xs (x :: heap)

/-- The values of an object put onto a heap likewise. -/
def pileFields : List (String × Value) → List Value → List Value
  | [], heap => heap
  | (_, v) :: fs, heap => pileFields fs (v :: heap)

theorem weight_pile (xs heap : List Value) :
    weightOfItems (pile xs heap) = weightOfItems xs + weightOfItems heap := by
  induction xs generalizing heap with
  | nil => simp [pile, weightOfItems]
  | cons x xs ih => simp only [pile, ih, weightOfItems]; omega

theorem weight_pileFields (fs : List (String × Value)) (heap : List Value) :
    weightOfItems (pileFields fs heap) = weightOfFields fs + weightOfItems heap := by
  induction fs generalizing heap with
  | nil => simp [pileFields, weightOfFields]
  | cons f fs ih => simp only [pileFields, ih, weightOfFields, weightOfItems]; omega

/-- The numbers in a heap of values, the topmost first; what is taken off the top leaves its
parts there. -/
def collect : List Value → Except ArithmeticFault (List Double)
  | [] => .ok []
  | .num n :: rest => do
    let x ← ofNumber n
    return x.toList ++ (← collect rest)
  | .list xs :: rest => collect (pile xs rest)
  | .obj fs :: rest => collect (pileFields fs rest)
  | v :: rest => have := weight_pos v; collect rest
termination_by heap => weightOfItems heap
decreasing_by
  · simp [weightOfItems, weight]
  · simp only [weight_pile, weightOfItems, weight]; omega
  · simp only [weight_pileFields, weightOfItems, weight]; omega
  · simp only [weightOfItems]; omega

/-- The numbers in a value. -/
def of (v : Value) : Except ArithmeticFault (List Double) := collect [v]

mutual

/-- The numbers in a value, part by part from the last. -/
def within : Value → Except ArithmeticFault (List Double)
  | .num n => (ofNumber n).map Option.toList
  | .list xs => withinItems xs
  | .obj fs => withinFields fs
  | _ => .ok []

def withinItems : List Value → Except ArithmeticFault (List Double)
  | [] => .ok []
  | x :: xs => do return (← withinItems xs) ++ (← within x)

def withinFields : List (String × Value) → Except ArithmeticFault (List Double)
  | [] => .ok []
  | (_, v) :: fs => do return (← withinFields fs) ++ (← within v)

end

end MetricDesk.Leaves
