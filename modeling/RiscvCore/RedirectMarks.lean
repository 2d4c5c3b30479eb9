import RiscvCore.FetchCredits

/-!
# Redirects with one mark

While the fetch stage discards words there is one mark: on a granted request, or on the next one to
be granted.  A redirect that finds the stage settled keeps it so.  What was granted before such a
redirect is dropped when it is answered, whatever redirects come later.
-/

namespace RiscvCore

open BusProtocol (InOrder answersBefore grantsBefore pending)

namespace IfStage

variable {pmpEnable : Bool} {st : IfStage} {port : Input} {marks : List Bool}

/-- The marks are counted with the one that waits for a grant. -/
def OneMark (st : IfStage) (marks : List Bool) : Prop :=
  marks.count true + st.updisconQ.toNat = st.fifoFlush.toNat

theorem oneMark_reset (bootAddr : Word) : (reset bootAddr).OneMark [] := rfl

theorem OneMark.clear (one : st.OneMark marks) (settled : st.fifoFlush = false) :
    (∀ mark ∈ marks, mark = false) ∧ st.updisconQ = false := by
  rw [OneMark, settled, Bool.toNat_false] at one
  constructor
  · intro mark inside
    have absent : true ∉ marks := List.count_eq_zero.mp (by omega)
    cases mark with
    | false => rfl
    | true => exact (absent inside).elim
  · cases marking : st.updisconQ with
    | false => rfl
    | true =>
        rw [marking, Bool.toNat_true] at one
        omega

theorem count_nextMarks (nonempty : port.instrValid = true → marks ≠ []) :
    (st.nextMarks port marks).count true + (port.instrValid && marks.headD false).toNat =
      marks.count true + (st.granted port && st.updiscon port).toNat := by
  have grants : (if st.granted port then [st.updiscon port] else []).count true =
      (st.granted port && st.updiscon port).toNat := by
    cases st.granted port <;> cases st.updiscon port <;> rfl
  rw [nextMarks, List.count_append, grants]
  cases valid : port.instrValid with
  | false => simp
  | true =>
      cases marks with
      | nil => exact absurd rfl (nonempty valid)
      | cons mark rest => cases mark <;> simp <;> omega

theorem headD_le_count (marks : List Bool) : (marks.headD false).toNat ≤ marks.count true := by
  cases marks with
  | nil => exact Nat.le_refl 0
  | cons mark rest => cases mark <;> simp

theorem granted_eq_of_requested (requested : port.instrGnt = true → st.instrReq port = true) :
    st.granted port = port.instrGnt := by
  rw [granted]
  cases grant : port.instrGnt with
  | false => rw [Bool.and_false]
  | true => rw [requested grant, Bool.and_self]

/-- One cycle whose redirect, if there is one, finds the stage settled. -/
theorem OneMark.next (one : st.OneMark marks) (pmpEnable : Bool)
    (answers : st.AnswersMarks port marks)
    (nonempty : port.instrValid = true → marks ≠ [])
    (requested : port.instrGnt = true → st.instrReq port = true)
    (settled : port.setPcValid = true → st.fifoFlush = false) :
    (st.next pmpEnable port).OneMark (st.nextMarks port marks) := by
  have counted := @count_nextMarks st port marks nonempty
  have granted := granted_eq_of_requested requested
  change (st.nextMarks port marks).count true + (st.nextUpdisconQ port).toNat =
    (st.nextFifoFlush port).toNat
  rw [granted, updiscon] at counted
  rw [nextUpdisconQ, nextFifoFlush, answers.cmdUpdiscon, updiscon]
  cases redirect : port.setPcValid with
  | true =>
      have isNew : updisconNew port = true := redirect
      obtain ⟨unmarked, noMarking⟩ := one.clear (settled redirect)
      have none : marks.count true = 0 :=
        List.count_eq_zero.mpr fun inside => Bool.false_ne_true (unmarked true inside).symm
      have noHead : marks.headD false = false := by
        cases marks with
        | nil => rfl
        | cons mark rest => exact unmarked mark List.mem_cons_self
      rw [isNew, noMarking, none, noHead] at counted
      rw [isNew, noMarking, noHead]
      cases grant : port.instrGnt <;> simp [grant] at counted ⊢ <;> omega
  | false =>
      have noNew : updisconNew port = false := redirect
      have head := headD_le_count marks
      rw [OneMark] at one
      rw [noNew] at counted ⊢
      generalize (st.nextMarks port marks).count true = later at counted ⊢
      generalize marks.count true = earlier at counted one head
      revert counted one head
      cases port.instrValid <;> cases marks.headD false <;> cases st.updisconQ <;>
        cases st.fifoFlush <;> cases port.instrGnt <;> simp <;> intros <;> omega

/-- No instruction, no word and no half of one. -/
structure Emptied (st : IfStage) : Prop where
  noInstr : st.instrValueId = false
  noWord : st.prefetchFifo.Holds []
  noHold : st.holdRdataValue = false

theorem emptied_reset (bootAddr : Word) : (reset bootAddr).Emptied :=
  ⟨rfl, SyncFifo.holds_reset, rfl⟩

theorem emptied_next_redirect (pmpEnable : Bool) (redirect : port.setPcValid = true)
    (noInstr : (st.next pmpEnable port).instrValueId = false) :
    (st.next pmpEnable port).Emptied := by
  have clear : fifoClear port = true := redirect
  refine ⟨noInstr, ?_, ?_⟩
  · rw [prefetchFifo_next]
    exact SyncFifo.holds_next_clear clear
  · change (st.nextHold port).2.1 = false
    rw [nextHold, clear, if_pos rfl]

/-- Nothing comes in without a word. -/
theorem Emptied.next (emptied : st.Emptied) (pmpEnable : Bool)
    (noRedirect : port.setPcValid = false) (noWord : st.fifoWvalid port = false) :
    (st.next pmpEnable port).Emptied := by
  have noClear : fifoClear port = false := noRedirect
  have notValid : st.fifoValid port = false := by
    rw [fifoValid, PrefetchFifo.holds_fifoValid emptied.noWord, noWord]
    rfl
  have noValue : st.insnValue port = false := by
    rw [insnValue, holdDataIsCompress, emptied.noHold, notValid, Bool.and_false]
    cases st.pcUnalign <;> rfl
  refine ⟨?_, ?_, ?_⟩
  · simp only [IfStage.next, nextIfId, noValue]
    split
    · rfl
    · split
      · rfl
      · exact emptied.noInstr
  · have written : (st.prefetchFifoInput port).fifoWvalid = false := noWord
    have sameClear : (st.prefetchFifoInput port).fifoClear = false := noClear
    have stays : PrefetchFifo.nextQueue [] (st.prefetchFifoInput port) = [] := by
      rw [PrefetchFifo.nextQueue, sameClear, written]
      cases (st.prefetchFifoInput port).fifoReady <;> rfl
    rw [prefetchFifo_next, ← stays]
    apply PrefetchFifo.holds_next emptied.noWord
    intro isWritten
    rw [written] at isWritten
    cases isWritten
  · change (st.nextHold port).2.1 = false
    rw [nextHold, noClear, noValue, notValid]
    exact emptied.noHold

/-- While words are discarded the stage is empty. -/
structure Refetches (st : IfStage) (marks : List Bool) : Prop where
  one : st.OneMark marks
  emptied : st.fifoFlush = true → st.Emptied

/-- A stage that goes on discarding without a redirect has been discarding and takes no word. -/
theorem OneMark.discards_of_next (one : st.OneMark marks) (pmpEnable : Bool)
    (answers : st.AnswersMarks port marks) (noRedirect : port.setPcValid = false)
    (discards : (st.next pmpEnable port).fifoFlush = true) :
    st.fifoFlush = true ∧ st.fifoWvalid port = false := by
  have flushes : st.nextFifoFlush port = true := discards
  have noNew : updisconNew port = false := noRedirect
  have head := headD_le_count marks
  rw [nextFifoFlush, answers.cmdUpdiscon, updiscon, noNew] at flushes
  rw [fifoWvalid, answers.cmdUpdiscon, answers.written]
  rw [OneMark] at one
  generalize marks.count true = total at one head
  revert flushes one head
  cases port.instrValid <;> cases marks.headD false <;> cases st.updisconQ <;>
    cases st.fifoFlush <;> simp

theorem Refetches.next (refetches : st.Refetches marks) (pmpEnable : Bool)
    (answers : st.AnswersMarks port marks)
    (nonempty : port.instrValid = true → marks ≠ [])
    (requested : port.instrGnt = true → st.instrReq port = true)
    (settled : port.setPcValid = true → st.fifoFlush = false)
    (empties : port.setPcValid = true → (st.next pmpEnable port).instrValueId = false) :
    (st.next pmpEnable port).Refetches (st.nextMarks port marks) where
  one := refetches.one.next pmpEnable answers nonempty requested settled
  emptied := by
    intro discards
    cases redirect : port.setPcValid with
    | true => exact emptied_next_redirect pmpEnable redirect (empties redirect)
    | false =>
        obtain ⟨discarding, noWord⟩ :=
          refetches.one.discards_of_next pmpEnable answers redirect discards
        exact (refetches.emptied discarding).next pmpEnable redirect noWord

end IfStage

namespace FetchRun

variable (run : FetchRun)

/-- No request is denied, and the bus answers every grant in order, at least one cycle later. -/
structure Undenied : Prop where
  noDenial : ∀ cycle, (run.state cycle).pmpErr run.pmpEnable (run.inputs cycle) = false
  inOrder : InOrder (fun _ _ => True) run.bus

/-- How many of the requests granted before the redirect are answered in the cycle or later. -/
def stale (redirect cycle : Nat) : Nat :=
  grantsBefore run.bus redirect - answersBefore run.bus cycle

/-- The stale requests carry no mark, and the stage discards as long as there are any. -/
structure Drops (redirect cycle : Nat) (marks : List Bool) : Prop where
  aligned : run.Aligned cycle marks
  unmarked : ∀ mark ∈ marks.take (run.stale redirect cycle), mark = false
  discarding : 0 < run.stale redirect cycle → (run.state cycle).fifoFlush = true

variable {run}

theorem Undenied.queued (undenied : run.Undenied) : run.AnswersQueued := by
  intro cycle valid empty
  obtain ⟨addr, rest, pending, -⟩ := undenied.inOrder.answered cycle valid
  rw [empty] at pending
  cases pending

theorem Undenied.refetches_succ (undenied : run.Undenied) {cycle : Nat} {marks : List Bool}
    (aligned : run.Aligned cycle marks) (refetches : (run.state cycle).Refetches marks)
    (settled : run.redirects cycle = true → (run.state cycle).fifoFlush = false)
    (empties : run.redirects cycle = true → (run.state (cycle + 1)).instrValueId = false) :
    (run.state (cycle + 1)).Refetches ((run.state cycle).nextMarks (run.inputs cycle) marks) := by
  have nonempty := aligned.nonempty undenied.queued
  rw [run.state_succ]
  exact refetches.next run.pmpEnable (aligned.queue.answersMarks nonempty) nonempty
    (undenied.inOrder.requested cycle) settled empties

/-- What was granted before the redirect is queued first. -/
theorem Undenied.stale_succ_le (undenied : run.Undenied) {redirect cycle : Nat}
    {marks : List Bool} (aligned : run.Aligned cycle marks) (later : redirect ≤ cycle) :
    run.stale redirect (cycle + 1) ≤
      (if (run.inputs cycle).instrValid then marks.tail else marks).length := by
  have counted := undenied.inOrder.length_pending cycle
  have grows : grantsBefore run.bus redirect ≤ grantsBefore run.bus cycle :=
    SynchronousRun.occurrences_mono _ (Nat.zero_le redirect) later
  have answered : answersBefore run.bus (cycle + 1) =
      answersBefore run.bus cycle + (run.inputs cycle).instrValid.toNat :=
    BusProtocol.answersBefore_succ run.bus cycle
  rw [← aligned.length] at counted
  rw [stale, answered]
  cases (run.inputs cycle).instrValid with
  | false => simp; omega
  | true => simp; omega

theorem take_nextMarks {st : IfStage} {port : IfStage.Input} {marks : List Bool} {count : Nat}
    (few : count ≤ (if port.instrValid then marks.tail else marks).length) :
    (st.nextMarks port marks).take count =
      (if port.instrValid then marks.tail else marks).take count :=
  List.take_append_of_le_length few

/-- A redirect of a settled stage drops everything that has been granted. -/
theorem Undenied.drops_succ_of_settled (undenied : run.Undenied) {redirect : Nat}
    {marks : List Bool} (aligned : run.Aligned redirect marks)
    (one : (run.state redirect).OneMark marks)
    (redirects : run.redirects redirect = true)
    (settled : (run.state redirect).fifoFlush = false) :
    run.Drops redirect (redirect + 1) ((run.state redirect).nextMarks (run.inputs redirect) marks)
    where
  aligned := aligned.step (undenied.noDenial redirect) undenied.queued
  unmarked := by
    intro mark inside
    rw [take_nextMarks (undenied.stale_succ_le aligned (Nat.le_refl redirect))] at inside
    have queued := List.mem_of_mem_take inside
    apply (one.clear settled).1
    split at queued
    · exact List.mem_of_mem_tail queued
    · exact queued
  discarding := by
    intro _
    have isNew : IfStage.updisconNew (run.inputs redirect) = true := redirects
    change (run.state redirect).nextFifoFlush (run.inputs redirect) = true
    rw [IfStage.nextFifoFlush, IfStage.updiscon, isNew, Bool.true_or, if_pos rfl, ite_self]

/-- The mark of a stale request that is answered. -/
theorem Drops.head {redirect cycle : Nat} {marks : List Bool}
    (drops : run.Drops redirect cycle marks) (some : 0 < run.stale redirect cycle) :
    marks.headD false = false := by
  cases marks with
  | nil => rfl
  | cons mark rest =>
      apply drops.unmarked mark
      obtain ⟨count, isSucc⟩ := Nat.exists_eq_succ_of_ne_zero (Nat.pos_iff_ne_zero.mp some)
      rw [isSucc, List.take_succ_cons]
      exact List.mem_cons_self

theorem Drops.succ (undenied : run.Undenied) {redirect cycle : Nat} {marks : List Bool}
    (drops : run.Drops redirect cycle marks) (later : redirect ≤ cycle) :
    run.Drops redirect (cycle + 1) ((run.state cycle).nextMarks (run.inputs cycle) marks) := by
  have answered : answersBefore run.bus (cycle + 1) =
      answersBefore run.bus cycle + (run.inputs cycle).instrValid.toNat :=
    BusProtocol.answersBefore_succ run.bus cycle
  have fewer : run.stale redirect (cycle + 1) =
      run.stale redirect cycle - (run.inputs cycle).instrValid.toNat := by
    rw [stale, stale, answered, Nat.sub_add_eq]
  refine ⟨drops.aligned.step (undenied.noDenial cycle) undenied.queued, ?_, ?_⟩
  · intro mark inside
    rw [take_nextMarks (undenied.stale_succ_le drops.aligned later), fewer] at inside
    apply drops.unmarked mark
    cases valid : (run.inputs cycle).instrValid with
    | false =>
        rw [valid, if_neg Bool.false_ne_true, Bool.toNat_false, Nat.sub_zero] at inside
        exact inside
    | true =>
        rw [valid, if_pos rfl, Bool.toNat_true, ← List.drop_one, ← List.drop_take] at inside
        exact List.mem_of_mem_drop inside
  · intro some
    have before : 0 < run.stale redirect cycle := by omega
    have nonempty := drops.aligned.nonempty undenied.queued
    change (run.state cycle).nextFifoFlush (run.inputs cycle) = true
    rw [IfStage.nextFifoFlush, (drops.aligned.queue.answersMarks nonempty).cmdUpdiscon,
      drops.head before, drops.discarding before, Bool.and_false, Bool.and_false,
      if_neg Bool.false_ne_true, ite_self]

theorem Drops.later (undenied : run.Undenied) {redirect first cycle : Nat} {marks : List Bool}
    (drops : run.Drops redirect first marks) (before : redirect ≤ first) (after : first ≤ cycle) :
    ∃ marksLater, run.Drops redirect cycle marksLater := by
  induction after with
  | refl => exact ⟨marks, drops⟩
  | step after induction =>
      obtain ⟨marksLater, dropsLater⟩ := induction
      exact ⟨_, dropsLater.succ undenied (Nat.le_trans before after)⟩

/-- A word is accepted only when the stale requests have been answered. -/
theorem Drops.answered_of_accepts (undenied : run.Undenied) {redirect cycle : Nat}
    {marks : List Bool} (drops : run.Drops redirect cycle marks)
    (accepts : run.accepts cycle = true) :
    grantsBefore run.bus redirect ≤ answersBefore run.bus cycle := by
  have none : run.stale redirect cycle = 0 := by
    refine Decidable.byContradiction fun some => ?_
    have positive := Nat.pos_iff_ne_zero.mpr some
    have nonempty := drops.aligned.nonempty undenied.queued
    rw [FetchRun.accepts, IfStage.accepts, IfStage.fifoWvalid, drops.discarding positive,
      (drops.aligned.queue.answersMarks nonempty).cmdUpdiscon, drops.head positive] at accepts
    simp at accepts
  rw [stale] at none
  omega

end FetchRun

end RiscvCore
