/-!
# Histories of a queue

A queue that some events empty: what was put into it since the last such event is what was taken
out of it since then and what it still holds.  Nothing here depends on how the queue is stored.
-/

namespace QueueHistory

variable {Word : Type _}

/-- The words of the cycles since the last clear. -/
def since (clear : Nat → Bool) (words : Nat → List Word) : Nat → List Word
  | 0 => []
  | cycle + 1 => if clear cycle then [] else since clear words cycle ++ words cycle

theorem since_of_clear {clear : Nat → Bool} {cycle : Nat} (words : Nat → List Word)
    (clears : clear cycle = true) : since clear words (cycle + 1) = [] := by
  rw [since, if_pos clears]

theorem since_of_noClear {clear : Nat → Bool} {cycle : Nat} (words : Nat → List Word)
    (noClear : clear cycle = false) :
    since clear words (cycle + 1) = since clear words cycle ++ words cycle := by
  rw [since, noClear, if_neg Bool.false_ne_true]

/-- A clear empties the queue, and every other cycle conserves the words. -/
structure Conserves (clear : Nat → Bool) (written consumed contents : Nat → List Word) :
    Prop where
  initial : contents 0 = []
  cleared : ∀ cycle, clear cycle = true → contents (cycle + 1) = []
  conserved : ∀ cycle, clear cycle = false →
    contents cycle ++ written cycle = consumed cycle ++ contents (cycle + 1)

namespace Conserves

variable {clear : Nat → Bool} {written consumed contents : Nat → List Word}
  (conserves : Conserves clear written consumed contents)
include conserves

/-- What was written since the last clear was consumed since then or is still there, in order. -/
theorem since_eq (cycle : Nat) :
    since clear consumed cycle ++ contents cycle = since clear written cycle := by
  induction cycle with
  | zero => exact conserves.initial
  | succ cycle induction =>
      cases clears : clear cycle with
      | true =>
          rw [since_of_clear consumed clears, since_of_clear written clears,
            conserves.cleared cycle clears]
          rfl
      | false =>
          rw [since_of_noClear consumed clears, since_of_noClear written clears,
            List.append_assoc, ← conserves.conserved cycle clears, ← List.append_assoc, induction]

theorem length_since (cycle : Nat) :
    (since clear consumed cycle).length + (contents cycle).length =
      (since clear written cycle).length := by
  rw [← conserves.since_eq cycle, List.length_append]

/-- With what is taken out in the cycle itself, also in one that clears. -/
theorem isPrefix {cycle : Nat} (oldest : consumed cycle <+: contents cycle ++ written cycle) :
    since clear consumed cycle ++ consumed cycle <+:
      since clear written cycle ++ written cycle := by
  rw [← conserves.since_eq cycle, List.append_assoc]
  exact (List.prefix_append_right_inj _).mpr oldest

end Conserves

end QueueHistory
