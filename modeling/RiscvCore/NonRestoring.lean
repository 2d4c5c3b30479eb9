/-!
# Non-restoring division

A division that takes one bit of the numerator at a time.  It keeps a partial remainder that may
be negative by at most one denominator: a step doubles it, appends the next bit, and adds the
denominator to a negative one and subtracts it from the others; the new bit of the quotient says
whether the result is negative.  A negative partial remainder is corrected once, at the end.
-/

namespace NonRestoring

/-- The partial remainder after one more bit of the numerator. -/
def next (denominator partialRemainder : Int) (bit : Nat) : Int :=
  if partialRemainder < 0 then 2 * partialRemainder + bit + denominator
  else 2 * partialRemainder + bit - denominator

/-- The quotient bit that belongs to a partial remainder. -/
def quotientBit (partialRemainder : Int) : Nat := if partialRemainder < 0 then 0 else 1

/-- The remainder that a partial remainder stands for. -/
def correct (denominator partialRemainder : Int) : Int :=
  if partialRemainder < 0 then partialRemainder + denominator else partialRemainder

/-- The bits of the numerator taken so far are divided. -/
structure Divides (denominator : Int) (taken quotient : Nat) (partialRemainder : Int) : Prop where
  lower : -denominator ≤ partialRemainder
  upper : partialRemainder < denominator
  split : (taken : Int) = quotient * denominator + correct denominator partialRemainder

variable {denominator partialRemainder : Int} {taken quotient bit : Nat}

theorem divides_zero (positive : 0 < denominator) : Divides denominator 0 0 0 := by
  refine ⟨by omega, positive, ?_⟩
  simp [correct]

theorem next_of_neg (negative : partialRemainder < 0) :
    next denominator partialRemainder bit = 2 * partialRemainder + bit + denominator :=
  if_pos negative

theorem next_of_nonneg (nonneg : 0 ≤ partialRemainder) :
    next denominator partialRemainder bit = 2 * partialRemainder + bit - denominator :=
  if_neg (by omega)

/-- Whatever the sign of the old partial remainder, the new one and its quotient bit stand for
twice the old remainder and the bit. -/
theorem correct_next :
    (quotientBit (next denominator partialRemainder bit) : Int) * denominator +
        correct denominator (next denominator partialRemainder bit) =
      2 * correct denominator partialRemainder + bit := by
  have total : quotientBit (next denominator partialRemainder bit) * denominator +
      correct denominator (next denominator partialRemainder bit) =
        next denominator partialRemainder bit + denominator := by
    rw [quotientBit, correct]
    split
    · simp
    · simp only [Int.natCast_one, Int.one_mul]
      omega
  rw [total, correct]
  by_cases negative : partialRemainder < 0
  · rw [next_of_neg negative, if_pos negative]
    omega
  · rw [next_of_nonneg (by omega), if_neg negative]
    omega

namespace Divides

variable (divides : Divides denominator taken quotient partialRemainder)
include divides

theorem next_lower : -denominator ≤ next denominator partialRemainder bit := by
  have lower := divides.lower
  by_cases negative : partialRemainder < 0
  · rw [next_of_neg negative]
    omega
  · rw [next_of_nonneg (by omega)]
    omega

theorem next_upper (isBit : bit ≤ 1) : next denominator partialRemainder bit < denominator := by
  have upper := divides.upper
  by_cases negative : partialRemainder < 0
  · rw [next_of_neg negative]
    omega
  · rw [next_of_nonneg (by omega)]
    omega

/-- One more bit. -/
theorem step (isBit : bit ≤ 1) :
    Divides denominator (2 * taken + bit)
      (2 * quotient + quotientBit (next denominator partialRemainder bit))
      (next denominator partialRemainder bit) := by
  refine ⟨divides.next_lower, divides.next_upper isBit, ?_⟩
  have corrected : _ = 2 * correct denominator partialRemainder + bit := correct_next
  have split := divides.split
  calc ((2 * taken + bit : Nat) : Int)
      = 2 * (quotient * denominator + correct denominator partialRemainder) + bit := by
        rw [← split]
        omega
    _ = 2 * (quotient * denominator) +
          (2 * correct denominator partialRemainder + bit) := by omega
    _ = _ := by
        rw [← corrected, Int.natCast_add, Int.natCast_mul, Int.add_mul, Int.mul_assoc]
        omega

theorem correct_nonneg : 0 ≤ correct denominator partialRemainder := by
  have lower := divides.lower
  rw [correct]
  split <;> omega

theorem correct_lt : correct denominator partialRemainder < denominator := by
  have upper := divides.upper
  rw [correct]
  split <;> omega

/-- The quotient and the corrected partial remainder are those of the bits taken. -/
theorem unique : (taken : Int) / denominator = quotient ∧
    (taken : Int) % denominator = correct denominator partialRemainder := by
  have nonneg := divides.correct_nonneg
  have below := divides.correct_lt
  rw [Int.ediv_emod_unique (by omega)]
  refine ⟨?_, nonneg, below⟩
  rw [divides.split, Int.mul_comm denominator]
  omega

end Divides

section Shared

variable {rest high low register : Nat}

/-- A register that holds `rest` above `quotient < low`, shifted by one place: the bit that leaves
it is the top bit of the rest. -/
theorem shared_top (isRegister : register = rest * low + quotient) (below : quotient < low) :
    register / (high * low) = rest / high := by
  rw [isRegister, Nat.mul_comm high, ← Nat.div_div_eq_div_mul, Nat.mul_comm rest,
    Nat.mul_add_div (by omega), Nat.div_eq_of_lt below, Nat.add_zero]

/-- What stays in the register is the rest without its top bit above the quotient. -/
theorem shared_remaining (isRegister : register = rest * low + quotient)
    (below : quotient < low) :
    register % (high * low) = rest % high * low + quotient := by
  have whole := Nat.div_add_mod register (high * low)
  rw [shared_top isRegister below] at whole
  have parts := Nat.div_add_mod rest high
  have expanded : rest * low = high * low * (rest / high) + rest % high * low := by
    rw [← congrArg (· * low) parts, Nat.add_mul, Nat.mul_right_comm]
  omega

end Shared

end NonRestoring
