import RiscvCore.SynchronousRun

/-!
# An in-order request bus

A bus on which requests are granted one at a time and answered in the order of their grants, at
least one cycle later.  The addresses granted and not yet answered form a queue, and a bus obeys
the protocol when it grants only what is requested and answers only what is queued.
-/

namespace BusProtocol

variable {Address Data : Type _}

/-- The signals of one cycle. -/
structure Cycle (Address Data : Type _) where
  req : Bool
  gnt : Bool
  addr : Address
  valid : Bool
  data : Data

/-- The request of the cycle is granted. -/
def Cycle.granted (cycle : Cycle Address Data) : Bool := cycle.req && cycle.gnt

theorem Cycle.granted_of_requested {cycle : Cycle Address Data}
    (requested : cycle.gnt = true → cycle.req = true) : cycle.granted = cycle.gnt := by
  rw [Cycle.granted]
  cases grant : cycle.gnt
  · simp
  · simp [requested grant]

/-- The queue at the next cycle: an answer removes the oldest address, a grant appends one. -/
def nextPending (queue : List Address) (cycle : Cycle Address Data) : List Address :=
  (if cycle.valid then queue.tail else queue) ++
    (if cycle.granted then [cycle.addr] else [])

/-- The addresses granted before the given cycle and not answered before it. -/
def pending (bus : Nat → Cycle Address Data) : Nat → List Address
  | 0 => []
  | cycle + 1 => nextPending (pending bus cycle) (bus cycle)

theorem pending_succ (bus : Nat → Cycle Address Data) (cycle : Nat) :
    pending bus (cycle + 1) = nextPending (pending bus cycle) (bus cycle) := rfl

/-- How many addresses are queued does not depend on what they are. -/
theorem length_pending_congr {Tag : Type _} {bus : Nat → Cycle Address Data}
    {tagged : Nat → Cycle Tag Data}
    (sameGrant : ∀ cycle, (tagged cycle).granted = (bus cycle).granted)
    (sameValid : ∀ cycle, (tagged cycle).valid = (bus cycle).valid) (cycle : Nat) :
    (pending tagged cycle).length = (pending bus cycle).length := by
  induction cycle with
  | zero => rfl
  | succ cycle induction =>
      rw [pending_succ, pending_succ, nextPending, nextPending, sameGrant, sameValid,
        List.length_append, List.length_append]
      cases (bus cycle).valid <;> cases (bus cycle).granted <;> simp [induction]

/-- The protocol, for a relation that says which data answer which address. -/
structure InOrder (answers : Address → Data → Prop) (bus : Nat → Cycle Address Data) :
    Prop where
  requested : ∀ cycle, (bus cycle).gnt = true → (bus cycle).req = true
  answered : ∀ cycle, (bus cycle).valid = true →
    ∃ addr rest, pending bus cycle = addr :: rest ∧ answers addr (bus cycle).data

/-- A bus that obeys the protocol and lets nobody wait for ever. -/
structure Responsive (answers : Address → Data → Prop) (bus : Nat → Cycle Address Data) :
    Prop where
  inOrder : InOrder answers bus
  granted : ∀ cycle, (bus cycle).req = true →
    ∃ later, cycle ≤ later ∧ (bus later).gnt = true
  answered : ∀ cycle, pending bus cycle ≠ [] →
    ∃ later, cycle ≤ later ∧ (bus later).valid = true

/-- The number of grants, and of answers, before the given cycle. -/
def grantsBefore (bus : Nat → Cycle Address Data) (cycle : Nat) : Nat :=
  SynchronousRun.occurrences (fun earlier => (bus earlier).granted) 0 cycle

def answersBefore (bus : Nat → Cycle Address Data) (cycle : Nat) : Nat :=
  SynchronousRun.occurrences (fun earlier => (bus earlier).valid) 0 cycle

theorem grantsBefore_succ (bus : Nat → Cycle Address Data) (cycle : Nat) :
    grantsBefore bus (cycle + 1) = grantsBefore bus cycle + (bus cycle).granted.toNat :=
  SynchronousRun.occurrences_succ _ (Nat.zero_le _)

theorem answersBefore_succ (bus : Nat → Cycle Address Data) (cycle : Nat) :
    answersBefore bus (cycle + 1) = answersBefore bus cycle + (bus cycle).valid.toNat :=
  SynchronousRun.occurrences_succ _ (Nat.zero_le _)

/-- On a bus that obeys the protocol the queue holds what was granted and not answered. -/
theorem InOrder.length_pending {answers : Address → Data → Prop}
    {bus : Nat → Cycle Address Data} (inOrder : InOrder answers bus) (cycle : Nat) :
    answersBefore bus cycle + (pending bus cycle).length = grantsBefore bus cycle := by
  induction cycle with
  | zero => rfl
  | succ cycle induction =>
      have nonempty : (bus cycle).valid = true → 0 < (pending bus cycle).length := by
        intro valid
        obtain ⟨addr, rest, queue, -⟩ := inOrder.answered cycle valid
        simp [queue]
      rw [answersBefore_succ, grantsBefore_succ, pending_succ, nextPending,
        List.length_append]
      cases valid : (bus cycle).valid
      · cases (bus cycle).granted <;> simp <;> omega
      · have positive := nonempty valid
        cases (bus cycle).granted <;> simp <;> omega

/-- What the answers are can be left open. -/
theorem InOrder.forget {answers : Address → Data → Prop} {bus : Nat → Cycle Address Data}
    (inOrder : InOrder answers bus) : InOrder (fun _ _ => True) bus where
  requested := inOrder.requested
  answered := by
    intro cycle valid
    obtain ⟨addr, rest, queue, -⟩ := inOrder.answered cycle valid
    exact ⟨addr, rest, queue, trivial⟩

/-- A bus that falls silent obeys the protocol if it does so up to then. -/
theorem inOrder_of_silent {bus : Nat → Cycle Address Data} (silent : Nat)
    (quiet : ∀ cycle, silent ≤ cycle → (bus cycle).gnt = false ∧ (bus cycle).valid = false)
    (requested : ∀ cycle, cycle < silent → (bus cycle).gnt = true → (bus cycle).req = true)
    (answered : ∀ cycle, cycle < silent → (bus cycle).valid = true →
      (pending bus cycle).isEmpty = false) :
    InOrder (fun _ _ => True) bus where
  requested := by
    intro cycle grant
    rcases Nat.lt_or_ge cycle silent with early | late
    · exact requested cycle early grant
    · rw [(quiet cycle late).1] at grant
      cases grant
  answered := by
    intro cycle valid
    rcases Nat.lt_or_ge cycle silent with early | late
    · have nonempty := answered cycle early valid
      cases queue : pending bus cycle with
      | nil =>
          rw [queue] at nonempty
          cases nonempty
      | cons addr rest => exact ⟨addr, rest, rfl, trivial⟩
    · rw [(quiet cycle late).2] at valid
      cases valid

section Queue

variable {bus : Nat → Cycle Address Data} {cycle : Nat}

/-- A grant that finds every other one answered is alone in the queue. -/
theorem pending_succ_of_grant (granted : (bus cycle).granted = true)
    (few : (pending bus cycle).length ≤ (bus cycle).valid.toNat) :
    pending bus (cycle + 1) = [(bus cycle).addr] := by
  rw [pending_succ, nextPending, if_pos granted]
  cases valid : (bus cycle).valid with
  | false =>
      rw [valid, Bool.toNat_false, Nat.le_zero] at few
      rw [if_neg Bool.false_ne_true, List.eq_nil_of_length_eq_zero few]
      rfl
  | true =>
      rw [valid, Bool.toNat_true] at few
      have empty : (pending bus cycle).tail = [] := by
        apply List.eq_nil_of_length_eq_zero
        rw [List.length_tail]
        omega
      rw [if_pos rfl, empty]
      rfl

theorem pending_succ_of_silent (noGrant : (bus cycle).granted = false)
    (silent : (bus cycle).valid = false) : pending bus (cycle + 1) = pending bus cycle := by
  rw [pending_succ, nextPending, noGrant, silent]
  exact List.append_nil _

theorem pending_succ_of_answer (noGrant : (bus cycle).granted = false)
    (answered : (bus cycle).valid = true) :
    pending bus (cycle + 1) = (pending bus cycle).tail := by
  rw [pending_succ, nextPending, noGrant, answered]
  exact List.append_nil _

end Queue

/-- A bus that answers every grant in the next cycle has at most one address queued. -/
theorem pending_of_immediate {bus : Nat → Cycle Address Data}
    (quietStart : (bus 0).valid = false)
    (immediate : ∀ cycle, (bus (cycle + 1)).valid = (bus cycle).granted) (cycle : Nat) :
    pending bus (cycle + 1) = if (bus cycle).granted then [(bus cycle).addr] else [] := by
  induction cycle with
  | zero => simp [pending, nextPending, quietStart]
  | succ cycle induction =>
      rw [pending_succ, induction, nextPending, immediate]
      cases (bus cycle).granted <;> rfl

theorem length_pending_of_immediate {bus : Nat → Cycle Address Data}
    (quietStart : (bus 0).valid = false)
    (immediate : ∀ cycle, (bus (cycle + 1)).valid = (bus cycle).granted) (cycle : Nat) :
    (pending bus cycle).length = (bus cycle).valid.toNat := by
  cases cycle with
  | zero =>
      rw [quietStart]
      rfl
  | succ cycle =>
      rw [pending_of_immediate quietStart immediate, immediate]
      cases (bus cycle).granted <;> rfl

/-- Such a bus obeys the protocol. -/
theorem inOrder_of_immediate {answers : Address → Data → Prop}
    {bus : Nat → Cycle Address Data}
    (requested : ∀ cycle, (bus cycle).gnt = true → (bus cycle).req = true)
    (quietStart : (bus 0).valid = false)
    (immediate : ∀ cycle, (bus (cycle + 1)).valid = (bus cycle).granted)
    (correct : ∀ cycle, (bus cycle).granted = true →
      answers (bus cycle).addr (bus (cycle + 1)).data) :
    InOrder answers bus where
  requested := requested
  answered := by
    intro cycle valid
    cases cycle with
    | zero => rw [quietStart] at valid; cases valid
    | succ cycle =>
        have granted := (immediate cycle).symm.trans valid
        refine ⟨(bus cycle).addr, [], ?_, correct cycle granted⟩
        rw [pending_of_immediate quietStart immediate, if_pos granted]

end BusProtocol
