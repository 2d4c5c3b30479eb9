import Mathlib.Data.List.Basic

/-!
# Saturating counters

A counter that follows a series of binary outcomes, up to its limit for the one and down to zero
for the other.  Its upper half says which outcome to expect.  Outcomes are listed from the latest
to the first.  Nothing here depends on what the outcomes are about.
-/

namespace SaturatingCounter

variable {limit length : Nat}

/-- One outcome. -/
def count (limit : Nat) (up : Bool) (value : Nat) : Nat :=
  if up then min limit (value + 1) else value - 1

/-- The counter after a series of outcomes. -/
def value (limit : Nat) : List Bool → Nat
  | [] => 0
  | up :: earlier => count limit up (value limit earlier)

/-- The counter is in its upper half. -/
def expects (limit : Nat) (outcomes : List Bool) : Bool :=
  decide (limit < 2 * value limit outcomes)

theorem value_up (earlier : List Bool) :
    value limit (true :: earlier) = min limit (value limit earlier + 1) := rfl

theorem value_down (earlier : List Bool) :
    value limit (false :: earlier) = value limit earlier - 1 := rfl

theorem value_le (outcomes : List Bool) : value limit outcomes ≤ limit := by
  induction outcomes with
  | nil => exact Nat.zero_le limit
  | cons up earlier induction =>
      cases up with
      | true => exact Nat.min_le_left limit _
      | false => exact Nat.le_trans (Nat.sub_le _ 1) induction

theorem le_value_of_ups (earlier : List Bool) :
    min limit length ≤ value limit (List.replicate length true ++ earlier) := by
  induction length with
  | zero => exact Nat.le_trans (Nat.min_le_right limit 0) (Nat.zero_le _)
  | succ length induction =>
      rw [List.replicate_succ, List.cons_append, value_up]
      omega

theorem value_le_of_downs (earlier : List Bool) :
    value limit (List.replicate length false ++ earlier) ≤ limit - length := by
  induction length with
  | zero => exact value_le earlier
  | succ length induction =>
      rw [List.replicate_succ, List.cons_append, value_down]
      omega

/-- More than half of the limit is enough to bring the counter to its side. -/
theorem expects_of_row (positive : 0 < limit) (long : limit < 2 * length) (up : Bool)
    (earlier : List Bool) :
    expects limit (List.replicate length up ++ earlier) = up := by
  cases up with
  | true =>
      have reached : min limit length ≤ value limit (List.replicate length true ++ earlier) :=
        le_value_of_ups earlier
      exact decide_eq_true (by omega)
  | false =>
      have reached : value limit (List.replicate length false ++ earlier) ≤ limit - length :=
        value_le_of_downs earlier
      exact decide_eq_false (by omega)

/-- Behind a full row one outcome to the contrary is forgiven. -/
theorem expects_of_exception (wide : 3 ≤ limit) (up : Bool) (earlier : List Bool) :
    expects limit ((!up) :: (List.replicate limit up ++ earlier)) = up := by
  cases up with
  | true =>
      have reached : min limit limit ≤ value limit (List.replicate limit true ++ earlier) :=
        le_value_of_ups earlier
      refine decide_eq_true ?_
      rw [Bool.not_true, value_down]
      omega
  | false =>
      have reached : value limit (List.replicate limit false ++ earlier) ≤ limit - limit :=
        value_le_of_downs earlier
      refine decide_eq_false ?_
      rw [Bool.not_false, value_up]
      omega

end SaturatingCounter
