import RiscvCore.BusProtocol
import RiscvCore.Pkg

/-!
# Marked request queues

The bookkeeping of a redirect, apart from the registers that implement it.  A queue of granted
requests consists of stale ones, none of them marked, and of those granted since the redirect,
at consecutive word addresses and with the first of them marked.  Answers are discarded until
the marked one arrives.
-/

namespace RiscvCore

namespace RedirectQueue

/-- The address of the given word after the redirect. -/
def wordAddr (base : Word) (index : Nat) : Word := base + BitVec.ofNat 32 (4 * index)

theorem wordAddr_zero (base : Word) : wordAddr base 0 = base := by
  simp [wordAddr]

theorem wordAddr_succ (base : Word) (index : Nat) :
    wordAddr base index + 4#32 = wordAddr base (index + 1) := by
  rw [wordAddr, wordAddr, Nat.mul_succ, BitVec.ofNat_add, BitVec.add_assoc]

/-- The addresses granted since the redirect, from the given word on. -/
def liveAddrs (base : Word) (accepted : Nat) : Nat → List Word
  | 0 => []
  | live + 1 => wordAddr base accepted :: liveAddrs base (accepted + 1) live

/-- Their marks: the first request of all is the marked one. -/
def liveMarks (accepted : Nat) : Nat → List Bool
  | 0 => []
  | live + 1 => decide (accepted = 0) :: liveMarks (accepted + 1) live

theorem liveAddrs_append (base : Word) : ∀ (accepted live : Nat),
    liveAddrs base accepted live ++ [wordAddr base (accepted + live)] =
      liveAddrs base accepted (live + 1) := by
  intro accepted live
  induction live generalizing accepted with
  | zero => rfl
  | succ live induction =>
      have shifted : accepted + (live + 1) = accepted + 1 + live := by omega
      rw [liveAddrs, List.cons_append, shifted, induction]
      rfl

theorem liveMarks_append : ∀ (accepted live : Nat),
    liveMarks accepted live ++ [decide (accepted + live = 0)] =
      liveMarks accepted (live + 1) := by
  intro accepted live
  induction live generalizing accepted with
  | zero => rfl
  | succ live induction =>
      have shifted : accepted + (live + 1) = accepted + 1 + live := by omega
      rw [liveMarks, List.cons_append, shifted, induction]
      rfl

/-- The registers that follow a redirect: answers are being discarded, the next request is to be
marked, and its address. -/
structure Tracker where
  discarding : Bool
  marking : Bool
  nextAddr : Word

/-- The queue, its marks and the registers follow a redirect to `base` since which `accepted`
words have been accepted; `stale` requests are older than the redirect, `live` are not. -/
structure Follows (tracker : Tracker) (queue : List Word) (marks : List Bool) (base : Word)
    (accepted stale live : Nat) : Prop where
  staleInside : stale ≤ queue.length
  liveQueue : queue.drop stale = liveAddrs base accepted live
  marks : marks = List.replicate stale false ++ liveMarks accepted live
  noStale : 0 < accepted → stale = 0
  discarding : tracker.discarding = decide (accepted = 0)
  marking : tracker.marking = decide (accepted + live = 0)
  nextAddr : tracker.nextAddr = wordAddr base (accepted + live)

variable {tracker : Tracker} {queue : List Word} {marks : List Bool} {base : Word}
  {accepted stale live : Nat}

/-- A mark that is still to be given implies that nothing has been accepted. -/
theorem Follows.marking_discarding
    (follows : Follows tracker queue marks base accepted stale live)
    (marking : tracker.marking = true) : tracker.discarding = true := by
  rw [follows.marking, decide_eq_true_iff] at marking
  rw [follows.discarding, decide_eq_true_iff]
  omega

/-- An answer is accepted when nothing is discarded or it is the marked one. -/
def accepts (tracker : Tracker) (marks : List Bool) : Bool :=
  !tracker.discarding || marks.headD false

/-- Discarding ends with the marked answer. -/
def answered (tracker : Tracker) (marks : List Bool) : Tracker :=
  { tracker with
    discarding := if marks.headD false then tracker.marking else tracker.discarding }

/-- An answer to a stale request is discarded. -/
theorem Follows.answer_stale
    (follows : Follows tracker queue marks base accepted (stale + 1) live) :
    accepts tracker marks = false ∧
      Follows (answered tracker marks) queue.tail marks.tail base accepted stale live := by
  have notYet : accepted = 0 := by
    rcases Nat.eq_zero_or_pos accepted with zero | positive
    · exact zero
    · exact absurd (follows.noStale positive) (Nat.succ_ne_zero _)
  have unmarked : marks.headD false = false := by
    rw [follows.marks, List.replicate_succ, List.cons_append, List.headD_cons]
  refine ⟨by rw [accepts, unmarked, follows.discarding, notYet]; rfl, ?_⟩
  constructor
  · have inside := follows.staleInside
    rw [List.length_tail]
    omega
  · rw [List.drop_tail]
    exact follows.liveQueue
  · rw [follows.marks, List.replicate_succ, List.cons_append, List.tail_cons]
  · exact fun positive => by omega
  · rw [answered, unmarked, follows.discarding]
    simp
  · exact follows.marking
  · exact follows.nextAddr

/-- Without stale requests an answer is the next word of the redirect, and is accepted. -/
theorem Follows.answer_live (follows : Follows tracker queue marks base accepted 0 live)
    (nonempty : queue ≠ []) :
    accepts tracker marks = true ∧ queue.head nonempty = wordAddr base accepted ∧
      ∃ rest, Follows (answered tracker marks) queue.tail marks.tail base (accepted + 1) 0
        rest := by
  have queueEq : queue = liveAddrs base accepted live := by
    simpa using follows.liveQueue
  obtain ⟨rest, rfl⟩ : ∃ rest, live = rest + 1 := by
    cases live with
    | zero => exact absurd queueEq nonempty
    | succ rest => exact ⟨rest, rfl⟩
  have marksEq : marks = decide (accepted = 0) :: liveMarks (accepted + 1) rest := by
    simpa [liveMarks] using follows.marks
  have notMarking : tracker.marking = false := by
    rw [follows.marking]
    simp
  refine ⟨?_, ?_, rest, ?_⟩
  · rw [accepts, follows.discarding, marksEq]
    cases decide (accepted = 0) <;> rfl
  · simp only [queueEq, liveAddrs, List.head_cons]
  · constructor
    · exact Nat.zero_le _
    · rw [queueEq]
      rfl
    · rw [marksEq]
      rfl
    · exact fun _ => rfl
    · simp only [answered, marksEq, List.headD_cons, notMarking, follows.discarding]
      cases decide (accepted = 0) <;> simp
    · simp [answered, notMarking]
    · rw [answered, follows.nextAddr]
      congr 1
      omega

/-- A granted request is marked if its redirect waits for one, and the address advances. -/
def granted (tracker : Tracker) : Tracker :=
  { tracker with marking := false, nextAddr := tracker.nextAddr + 4#32 }

theorem Follows.grant (follows : Follows tracker queue marks base accepted stale live) :
    Follows (granted tracker) (queue ++ [tracker.nextAddr]) (marks ++ [tracker.marking]) base
      accepted stale (live + 1) := by
  constructor
  · have inside := follows.staleInside
    rw [List.length_append]
    omega
  · rw [List.drop_append_of_le_length follows.staleInside, follows.liveQueue, follows.nextAddr,
      liveAddrs_append]
  · rw [follows.marks, follows.marking, List.append_assoc, liveMarks_append]
  · exact follows.noStale
  · exact follows.discarding
  · simp [granted]
  · rw [granted, follows.nextAddr, wordAddr_succ, Nat.add_assoc]

theorem Follows.grantIf (follows : Follows tracker queue marks base accepted stale live)
    (grants : Bool) :
    ∃ liveNext, Follows (if grants then granted tracker else tracker)
      (queue ++ (if grants then [tracker.nextAddr] else []))
      (marks ++ (if grants then [tracker.marking] else [])) base accepted stale liveNext := by
  cases grants
  · exact ⟨live, by simpa using follows⟩
  · exact ⟨live + 1, follows.grant⟩

/-- One cycle with an answer, a grant, both or none.  A word is accepted only when no stale
request is left, and it is then the next one of the redirect. -/
theorem Follows.cycle (follows : Follows tracker queue marks base accepted stale live)
    (valid grants : Bool) (nonempty : valid = true → queue ≠ []) :
    let accept := valid && accepts tracker marks
    let afterAnswer := if valid then answered tracker marks else tracker
    (accept = true → stale = 0 ∧ queue.head? = some (wordAddr base accepted)) ∧
      ∃ staleNext liveNext, stale ≤ staleNext + valid.toNat ∧
        Follows (if grants then granted afterAnswer else afterAnswer)
          ((if valid then queue.tail else queue) ++
            (if grants then [tracker.nextAddr] else []))
          ((if valid then marks.tail else marks) ++
            (if grants then [tracker.marking] else []))
          base (accepted + accept.toNat) staleNext liveNext := by
  cases valid
  · obtain ⟨liveNext, next⟩ := follows.grantIf grants
    exact ⟨fun accept => (by cases accept), stale, liveNext, (by simp), next⟩
  · cases stale with
    | succ stale =>
        obtain ⟨discarded, rest⟩ := follows.answer_stale
        obtain ⟨liveNext, next⟩ := rest.grantIf grants
        simp only [Bool.true_and, discarded, if_true, Bool.toNat_false, Nat.add_zero]
        exact ⟨fun accept => (by cases accept), stale, liveNext, (by simp), next⟩
    | zero =>
        obtain ⟨accept, head, live, rest⟩ := follows.answer_live (nonempty rfl)
        obtain ⟨liveNext, next⟩ := rest.grantIf grants
        simp only [Bool.true_and, accept, if_true, Bool.toNat_true]
        refine ⟨fun _ => ⟨trivial, ?_⟩, 0, liveNext, Nat.zero_le _, next⟩
        rw [← head]
        exact List.head?_eq_some_head (nonempty rfl)

/-- A redirect in a queue without marks makes all of its requests stale. -/
theorem follows_redirect (unmarked : ∀ mark ∈ marks, mark = false)
    (sameLength : marks.length = queue.length) (base : Word) :
    Follows { discarding := true, marking := true, nextAddr := base } queue marks base 0
      queue.length 0 where
  staleInside := Nat.le_refl _
  liveQueue := by simp [liveAddrs]
  marks := by
    rw [liveMarks, List.append_nil, ← sameLength]
    exact List.eq_replicate_of_mem unmarked
  noStale := fun positive => by omega
  discarding := rfl
  marking := rfl
  nextAddr := (wordAddr_zero base).symm

end RedirectQueue

end RiscvCore
