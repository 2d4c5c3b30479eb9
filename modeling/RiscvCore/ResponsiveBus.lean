import Mathlib.Tactic.ByContra
import RiscvCore.BusProtocol

/-!
# Buses that let nobody wait

What follows when every request is granted and every grant is answered some time: a bus that
grants nothing any more runs empty, and who asks an empty bus is granted.  Nothing here depends on
what is asked and answered.
-/

namespace BusProtocol

variable {Address Data : Type _}

variable {answers : Address → Data → Prop} {bus : Nat → Cycle Address Data} {start : Nat}

/-- Without a grant the queue does not grow. -/
theorem length_pending_le_of_noGrant
    (noGrant : ∀ cycle, start ≤ cycle → (bus cycle).granted = false) {cycle : Nat}
    (ordered : start ≤ cycle) : (pending bus cycle).length ≤ (pending bus start).length := by
  induction ordered with
  | refl => exact Nat.le_refl _
  | @step cycle ordered induction =>
      refine Nat.le_trans ?_ induction
      rw [pending_succ, nextPending, noGrant cycle ordered, if_neg Bool.false_ne_true,
        List.append_nil]
      split
      · rw [List.length_tail]
        exact Nat.sub_le _ _
      · exact Nat.le_refl _

/-- A bus that grants nothing any more answers everything. -/
theorem Responsive.exists_empty (responsive : Responsive answers bus)
    (noGrant : ∀ cycle, start ≤ cycle → (bus cycle).granted = false) :
    ∃ cycle, start ≤ cycle ∧ pending bus cycle = [] := by
  -- induction on the number of requests that are still to be answered
  induction bound : (pending bus start).length using Nat.strongRecOn generalizing start with
  | ind count induction =>
      by_cases empty : pending bus start = []
      · exact ⟨start, Nat.le_refl start, empty⟩
      · obtain ⟨answer, ordered, valid⟩ := responsive.answered start empty
        have few := length_pending_le_of_noGrant noGrant ordered
        have next := pending_succ_of_answer (noGrant answer ordered) valid
        have length : (pending bus (answer + 1)).length = (pending bus answer).length - 1 := by
          rw [next, List.length_tail]
        rcases Nat.eq_zero_or_pos (pending bus answer).length with isEmpty | some
        · exact ⟨answer, ordered, List.eq_nil_of_length_eq_zero isEmpty⟩
        · obtain ⟨cycle, after, isEmpty⟩ := induction (pending bus (answer + 1)).length
            (by omega) (fun cycle after => noGrant cycle (by omega)) rfl
          exact ⟨cycle, by omega, isEmpty⟩

/-- Who asks whenever nothing is queued is granted a request. -/
theorem Responsive.exists_granted (responsive : Responsive answers bus)
    (asks : ∀ cycle, start ≤ cycle → pending bus cycle = [] → (bus cycle).req = true) :
    ∃ cycle, start ≤ cycle ∧ (bus cycle).granted = true := by
  by_contra never
  simp only [not_exists, not_and, Bool.not_eq_true] at never
  obtain ⟨cycle, ordered, empty⟩ := responsive.exists_empty never
  obtain ⟨later, after, grant⟩ := responsive.granted cycle (asks cycle ordered empty)
  have granted := never later (Nat.le_trans ordered after)
  rw [Cycle.granted, responsive.inOrder.requested later grant, grant] at granted
  cases granted

/-- A bus that grants every request at once, and answers in the next cycle. -/
theorem responsive_of_immediate {bus : Nat → Cycle Address Data}
    (requested : ∀ cycle, (bus cycle).gnt = true → (bus cycle).req = true)
    (grants : ∀ cycle, (bus cycle).req = true → (bus cycle).gnt = true)
    (quietStart : (bus 0).valid = false)
    (immediate : ∀ cycle, (bus (cycle + 1)).valid = (bus cycle).granted) :
    Responsive (fun _ _ => True) bus where
  inOrder := inOrder_of_immediate requested quietStart immediate fun _ _ => trivial
  granted := fun cycle asked => ⟨cycle, Nat.le_refl cycle, grants cycle asked⟩
  answered := fun cycle queued => by
    refine ⟨cycle, Nat.le_refl cycle, ?_⟩
    have length := length_pending_of_immediate quietStart immediate cycle
    cases valid : (bus cycle).valid with
    | true => rfl
    | false =>
        rw [valid] at length
        exact absurd (List.eq_nil_of_length_eq_zero length) queued

end BusProtocol
