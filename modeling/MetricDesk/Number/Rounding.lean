/-! Rounding the quotient of two naturals. Main statements: the result is within half a unit
of the quotient, and a whole quotient is left alone. -/
namespace MetricDesk.Rounding

/-- The whole number nearest to `n / d`; a tie goes to the even neighbour. -/
def halfEven (n d : Nat) : Nat :=
  let q := n / d
  let r := n % d
  if 2 * r < d then q
  else if d < 2 * r then q + 1
  else q + q % 2

theorem halfEven_whole (q d : Nat) (positive : 0 < d) : halfEven (q * d) d = q := by
  simp [halfEven, Nat.mul_div_cancel _ positive, positive]

theorem halfEven_near (n d : Nat) (positive : 0 < d) :
    2 * n ≤ 2 * (halfEven n d * d) + d ∧ 2 * (halfEven n d * d) ≤ 2 * n + d := by
  have split := Nat.div_add_mod n d
  have small := Nat.mod_lt n positive
  have parity : n / d % 2 = 0 ∨ n / d % 2 = 1 := by omega
  rw [Nat.mul_comm] at split
  unfold halfEven
  simp only
  split
  · omega
  · split
    · rw [Nat.add_mul]; omega
    · rcases parity with h | h <;> rw [h, Nat.add_mul] <;> omega

/-- The whole part of `n / d`, sign in front, cut toward zero. -/
def truncated (neg : Bool) (n d : Nat) : Int :=
  if neg then -(n / d : Nat) else (n / d : Nat)

end MetricDesk.Rounding
