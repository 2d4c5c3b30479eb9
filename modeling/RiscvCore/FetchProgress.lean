import RiscvCore.FetchCredits
import RiscvCore.RedirectMarks
import RiscvCore.ResponsiveBus

/-!
# Fetch goes on

A fetch stage that is not redirected any more and whose ID is ready again and again offers an
instruction at last, if the bus grants every request and answers every grant some time.  Words of
an earlier stream may have to be discarded first: the mark of the last redirect is granted, and
answered in its turn.
-/

namespace RiscvCore

open BusProtocol (Responsive pending)
open SynchronousRun (exists_event_while)

namespace IfStage

variable {pmpEnable : Bool} {st : IfStage} {port : Input} {marks : List Bool}

/-- With nothing queued and nothing stored the stage asks for a word. -/
theorem instrReq_of_empty (booted : st.isBoot = true) (enabled : port.fetchEnable = true)
    (queue : st.CommandQueue []) (holds : st.prefetchFifo.Holds []) :
    st.instrReq port = true := by
  have notFull : st.cmdFifo.fifoFull = false := SyncFifo.Holds.fifoFull queue.holds
  have notAlmostFull : st.prefetchFifo.fifoAlmostFull = false :=
    SyncFifo.Holds.fifoAlmostFull holds
  rw [instrReq, instrReqNew, booted, enabled, notFull, notAlmostFull, queue.cmdPmpErrQ]
  rfl

/-- The answer to the marked request is written. -/
theorem fifoWvalid_of_marked (answers : st.AnswersMarks port marks)
    (valid : port.instrValid = true) (marked : marks.headD false = true) :
    st.fifoWvalid port = true := by
  rw [fifoWvalid, answers.cmdUpdiscon, answers.written, valid, marked]
  exact ite_self _

theorem fifoWvalid_of_settled (answers : st.AnswersMarks port marks)
    (valid : port.instrValid = true) (settled : st.fifoFlush = false) :
    st.fifoWvalid port = true := by
  rw [fifoWvalid, settled, answers.written, valid]
  rfl

/-- A grant carries the mark that waits for it. -/
theorem updisconQ_next_of_granted (noRedirect : port.setPcValid = false)
    (granted : port.instrGnt = true) : (st.next pmpEnable port).updisconQ = false := by
  change st.nextUpdisconQ port = false
  rw [nextUpdisconQ, updisconNew, noRedirect, granted, Bool.and_true]
  cases st.updisconQ <;> rfl

/-- While ID is not ready the stage keeps its place. -/
theorem place_next_of_held (noRedirect : port.setPcValid = false) (held : readyIf port = false) :
    (st.next pmpEnable port).pcIf = st.pcIf ∧
      (st.next pmpEnable port).holdRdata = st.holdRdata ∧
      (st.next pmpEnable port).holdRdataValue = st.holdRdataValue := by
  have noFetch : st.fetchEn port = false := by
    rw [fetchEn, noRedirect, held, Bool.or_self, Bool.and_false]
  have kept : st.nextHold port = (st.holdRdata, st.holdRdataValue, st.holdRdataErr) := by
    rw [nextHold, fifoClear_eq, noRedirect, noFetch, Bool.and_false]
    rfl
  refine ⟨?_, congrArg Prod.fst kept, congrArg (fun hold => hold.2.1) kept⟩
  change (if readyIf port || port.setPcValid then st.nextPc port else st.pcIf) = st.pcIf
  rw [noRedirect, held]
  rfl

/-- The hold register takes the half that a word brings in front of an upper half. -/
theorem holdRdataValue_next_of_filling (booted : st.isBoot = true)
    (noRedirect : port.setPcValid = false) (ready : readyIf port = true)
    (unaligned : st.pcUnalign = true) (empty : st.holdRdataValue = false)
    (valid : st.fifoValid port = true) :
    (st.next pmpEnable port).holdRdataValue = true := by
  have fetches : st.fetchEn port = true := by
    rw [fetchEn, booted, ready, Bool.or_true, Bool.and_true]
  have notShort : st.holdDataIsCompress = false := by
    rw [holdDataIsCompress, empty, Bool.and_false]
  have fills : st.holdEn port = true := by
    rw [holdEn, fetches, unaligned, valid, notShort]
    rfl
  change (st.nextHold port).2.1 = true
  rw [nextHold, fifoClear_eq, noRedirect, fetches, valid, fills, Bool.or_true]
  rfl

/-- Without an instruction and a word the stage keeps its place. -/
theorem place_next_of_starved (noRedirect : port.setPcValid = false)
    (noInsn : st.insnValue port = false) :
    (st.next pmpEnable port).pcIf = st.pcIf ∧
      (st.fifoValid port = false →
        (st.next pmpEnable port).holdRdataValue = st.holdRdataValue) := by
  constructor
  · change (if readyIf port || port.setPcValid then st.nextPc port else st.pcIf) = st.pcIf
    have stays : st.nextPc port = st.pcIf := by
      rw [nextPc, noRedirect, noInsn]
      rfl
    rw [stays]
    exact ite_self _
  · intro noWord
    change (st.nextHold port).2.1 = _
    rw [nextHold, fifoClear_eq, noRedirect, noInsn, noWord]
    rfl

/-- A word without an instruction stands in front of an upper half that is not held. -/
theorem filling_of_noInsn (noInsn : st.insnValue port = false) (valid : st.fifoValid port = true) :
    st.pcUnalign = true ∧ st.holdRdataValue = false := by
  rw [insnValue, valid] at noInsn
  cases unaligned : st.pcUnalign with
  | false =>
      rw [unaligned] at noInsn
      cases noInsn
  | true =>
      rw [unaligned, if_pos rfl, Bool.and_true, Bool.or_eq_false_iff] at noInsn
      exact ⟨rfl, noInsn.2⟩

end IfStage

namespace FetchRun

variable (run : FetchRun)

/-- From the start on fetch is enabled and not redirected, and the bus lets no request wait for
ever. -/
structure Undirected (start : Nat) : Prop where
  undenied : run.Undenied
  responsive : Responsive (fun _ _ => True) run.bus
  booted : 0 < start
  marked : ∃ marks, run.Aligned start marks ∧ (run.state start).OneMark marks
  enabled : ∀ cycle, start ≤ cycle → (run.inputs cycle).fetchEnable = true
  noRedirect : ∀ cycle, start ≤ cycle → run.redirects cycle = false

/-- No word is stored or arrives. -/
structure Starves (start : Nat) : Prop where
  noWord : ∀ cycle, start ≤ cycle → (run.state cycle).fifoWvalid (run.inputs cycle) = false
  empty : ∀ cycle, start ≤ cycle → (run.state cycle).prefetchFifo.Holds []

variable {run} {start cycle : Nat}

section Undirected

variable (undirected : run.Undirected start)
include undirected

theorem Undirected.later (ordered : start ≤ cycle) : ∃ marks, run.Aligned cycle marks ∧
    (run.state cycle).OneMark marks := by
  induction ordered with
  | refl => exact undirected.marked
  | @step cycle ordered induction =>
      obtain ⟨marks, aligned, one⟩ := induction
      have nonempty := aligned.nonempty undirected.undenied.queued
      refine ⟨_, aligned.step (undirected.undenied.noDenial cycle) undirected.undenied.queued, ?_⟩
      exact one.next run.pmpEnable (aligned.queue.answersMarks nonempty) nonempty
        (undirected.undenied.inOrder.requested cycle) fun redirect =>
          absurd redirect (Bool.eq_false_iff.mp (undirected.noRedirect cycle ordered))

theorem Undirected.answersMarks {marks : List Bool} (aligned : run.Aligned cycle marks) :
    (run.state cycle).AnswersMarks (run.inputs cycle) marks :=
  aligned.queue.answersMarks (aligned.nonempty undirected.undenied.queued)

theorem Undirected.isBoot (ordered : start ≤ cycle) : (run.state cycle).isBoot = true :=
  isBoot_of_later run (Nat.lt_of_lt_of_le undirected.booted ordered)

theorem Undirected.exists_granted (starves : run.Starves start) (ordered : start ≤ cycle) :
    ∃ later, cycle ≤ later ∧ (run.bus later).granted = true := by
  apply undirected.responsive.exists_granted
  intro later after idle
  have inside : start ≤ later := Nat.le_trans ordered after
  obtain ⟨marks, aligned, -⟩ := undirected.later inside
  have noMarks : marks = [] := by
    apply List.eq_nil_of_length_eq_zero
    rw [aligned.length, idle]
    rfl
  subst noMarks
  exact IfStage.instrReq_of_empty (undirected.isBoot inside) (undirected.enabled later inside)
    aligned.queue (starves.empty later inside)

/-- Every stage asks again, so that another answer comes. -/
theorem Undirected.exists_answer (starves : run.Starves start) (ordered : start ≤ cycle) :
    ∃ later, cycle ≤ later ∧ (run.inputs later).instrValid = true := by
  obtain ⟨grant, after, granted⟩ := undirected.exists_granted starves ordered
  have queued : pending run.bus (grant + 1) ≠ [] := by
    rw [BusProtocol.pending_succ, BusProtocol.nextPending, granted, if_pos rfl]
    exact List.append_ne_nil_of_right_ne_nil _ (List.cons_ne_nil _ _)
  obtain ⟨answer, afterGrant, valid⟩ := undirected.responsive.answered (grant + 1) queued
  exact ⟨answer, by omega, valid⟩

/-- A starved stage has been discarding all along. -/
theorem Undirected.discards (starves : run.Starves start) (ordered : start ≤ cycle) :
    (run.state cycle).fifoFlush = true := by
  cases settled : (run.state cycle).fifoFlush with
  | true => rfl
  | false =>
      have stays : ∀ later, cycle ≤ later → (run.state later).fifoFlush = false := by
        intro later after
        induction after with
        | refl => exact settled
        | @step later after induction =>
            have inside : start ≤ later := Nat.le_trans ordered after
            obtain ⟨marks, aligned, one⟩ := undirected.later inside
            rw [Bool.eq_false_iff]
            intro discards
            obtain ⟨discarding, -⟩ := one.discards_of_next run.pmpEnable
              (undirected.answersMarks aligned) (undirected.noRedirect later inside) discards
            rw [induction] at discarding
            cases discarding
      obtain ⟨answer, after, valid⟩ := undirected.exists_answer starves ordered
      have inside : start ≤ answer := Nat.le_trans ordered after
      obtain ⟨marks, aligned, -⟩ := undirected.later inside
      have written := IfStage.fifoWvalid_of_settled (undirected.answersMarks aligned) valid
        (stays answer after)
      rw [starves.noWord answer inside] at written
      cases written

/-- What is queued stays in front until the next answer. -/
theorem Undirected.exists_answered {front behind : List Bool}
    (aligned : run.Aligned cycle (front ++ behind)) (some : front ≠ []) :
    ∃ answer, cycle ≤ answer ∧ (run.inputs answer).instrValid = true ∧
      ∃ behind, run.Aligned answer (front ++ behind) := by
  have queued : pending run.bus cycle ≠ [] := by
    intro empty
    have length := aligned.length
    rw [empty, List.length_append, List.length_nil] at length
    exact some (List.eq_nil_of_length_eq_zero (by omega))
  refine exists_event_while (fun cycle => ∃ behind, run.Aligned cycle (front ++ behind))
    (fun cycle => (run.inputs cycle).instrValid = true) ?_ ⟨behind, aligned⟩
    (undirected.responsive.answered cycle queued)
  rintro cycle - ⟨behind, aligned⟩ silent
  have next := aligned.step (undirected.undenied.noDenial cycle) undirected.undenied.queued
  rw [IfStage.nextMarks, if_neg silent, List.append_assoc] at next
  exact ⟨_, next⟩

/-- The marked request is not queued: it would be answered behind those in front of it. -/
theorem Undirected.notQueued (starves : run.Starves start) (before : List Bool) :
    ∀ behind cycle, start ≤ cycle → ¬ run.Aligned cycle ((before ++ [true]) ++ behind) := by
  -- induction on the marks in front of the set one, each of which leaves with an answer
  induction before with
  | nil =>
      intro behind cycle ordered aligned
      obtain ⟨answer, later, valid, behind, still⟩ :=
        undirected.exists_answered aligned (List.cons_ne_nil _ _)
      have written := IfStage.fifoWvalid_of_marked (undirected.answersMarks still) valid rfl
      rw [starves.noWord answer (Nat.le_trans ordered later)] at written
      cases written
  | cons mark before induction =>
      intro behind cycle ordered aligned
      obtain ⟨answer, later, valid, behind, still⟩ :=
        undirected.exists_answered aligned (List.cons_ne_nil _ _)
      have next := still.step (undirected.undenied.noDenial answer) undirected.undenied.queued
      rw [IfStage.nextMarks, valid, if_pos rfl, List.cons_append, List.cons_append,
        List.tail_cons, List.append_assoc] at next
      exact induction _ (answer + 1) (by omega) next

/-- No word arrives at a stage for ever: this cannot be. -/
theorem Undirected.not_starves : ¬ run.Starves start := by
  intro starves
  obtain ⟨grant, ordered, granted⟩ := undirected.exists_granted starves (Nat.le_refl start)
  have after : start ≤ grant + 1 := by omega
  obtain ⟨marks, aligned, one⟩ := undirected.later after
  rw [BusProtocol.Cycle.granted, Bool.and_eq_true] at granted
  have noWait : (run.state (grant + 1)).updisconQ = false :=
    IfStage.updisconQ_next_of_granted (undirected.noRedirect grant ordered) granted.2
  rw [IfStage.OneMark, noWait, undirected.discards starves after] at one
  have queued : true ∈ marks := List.count_pos_iff.mp (by simp at one; omega)
  obtain ⟨before, behind, rfl⟩ := List.append_of_mem queued
  rw [List.append_cons] at aligned
  exact undirected.notQueued starves before behind (grant + 1) after aligned

theorem Undirected.stored (cycle : Nat) :
    (run.state cycle).prefetchFifo.Holds (run.unread cycle) := by
  obtain ⟨marks, credited⟩ :=
    exists_credited undirected.undenied.noDenial undirected.undenied.queued cycle
  exact credited.stored

/-- A word waits until ID is ready. -/
theorem Undirected.fifoValid_succ (ordered : start ≤ cycle)
    (held : IfStage.readyIf (run.inputs cycle) = false)
    (valid : (run.state cycle).fifoValid (run.inputs cycle) = true) :
    (run.state (cycle + 1)).fifoValid (run.inputs (cycle + 1)) = true := by
  have noRedirect := undirected.noRedirect cycle ordered
  have stays : (run.state cycle).fifoReady (run.inputs cycle) = false := by
    have notNow : (run.inputs cycle).setPcValid = false := noRedirect
    rw [IfStage.fifoReady, IfStage.fetchEn, notNow, held, Bool.or_self, Bool.and_false,
      Bool.false_and]
  have kept : run.unread (cycle + 1) = run.unread cycle ++
      (if (run.state cycle).fifoWvalid (run.inputs cycle) then
        [(run.state cycle).fifoWdata (run.inputs cycle)] else []) := by
    rw [unread_succ (undirected.stored cycle), PrefetchFifo.nextQueue_of_noClear _ noRedirect]
    change (if (run.state cycle).fifoReady (run.inputs cycle) && _ then _ else _) = _
    rw [stays, Bool.false_and, if_neg Bool.false_ne_true]
    rfl
  rw [IfStage.fifoValid, PrefetchFifo.holds_fifoValid (undirected.stored cycle)] at valid
  rw [IfStage.fifoValid, PrefetchFifo.holds_fifoValid (undirected.stored (cycle + 1)), kept]
  cases written : (run.state cycle).fifoWvalid (run.inputs cycle) with
  | true => simp
  | false =>
      rw [written, Bool.or_false] at valid
      simp [valid]

/-- An offered instruction waits until ID is ready. -/
theorem Undirected.insnValue_succ (ordered : start ≤ cycle)
    (held : IfStage.readyIf (run.inputs cycle) = false)
    (offered : (run.state cycle).insnValue (run.inputs cycle) = true) :
    (run.state (cycle + 1)).insnValue (run.inputs (cycle + 1)) = true := by
  obtain ⟨pcIf, holdRdata, holdRdataValue⟩ :
      (run.state (cycle + 1)).pcIf = (run.state cycle).pcIf ∧
        (run.state (cycle + 1)).holdRdata = (run.state cycle).holdRdata ∧
        (run.state (cycle + 1)).holdRdataValue = (run.state cycle).holdRdataValue :=
    IfStage.place_next_of_held (undirected.noRedirect cycle ordered) held
  have short : (run.state (cycle + 1)).holdDataIsCompress =
      (run.state cycle).holdDataIsCompress := by
    rw [IfStage.holdDataIsCompress, IfStage.holdDataIsCompress, holdRdata, holdRdataValue]
  rw [IfStage.insnValue, IfStage.pcUnalign] at offered
  rw [IfStage.insnValue, IfStage.pcUnalign, short, pcIf, holdRdataValue]
  cases unaligned : (run.state cycle).pcIf.getLsbD 1 with
  | false =>
      rw [unaligned] at offered
      exact undirected.fifoValid_succ ordered held offered
  | true =>
      rw [unaligned, if_pos rfl, Bool.or_eq_true, Bool.and_eq_true] at offered
      rw [if_pos rfl, Bool.or_eq_true, Bool.and_eq_true]
      exact offered.imp_right fun both =>
        ⟨both.1, undirected.fifoValid_succ ordered held both.2⟩

theorem Undirected.from_later (ordered : start ≤ cycle) : run.Undirected cycle where
  undenied := undirected.undenied
  responsive := undirected.responsive
  booted := Nat.lt_of_lt_of_le undirected.booted ordered
  marked := undirected.later ordered
  enabled := fun later after => undirected.enabled later (Nat.le_trans ordered after)
  noRedirect := fun later after => undirected.noRedirect later (Nat.le_trans ordered after)

/-- Words that arrive again and again are not all kept back. -/
theorem Undirected.exists_fifoValid (ordered : start ≤ cycle) :
    ∃ later, cycle ≤ later ∧ (run.state later).fifoValid (run.inputs later) = true := by
  by_contra never
  simp only [not_exists, not_and, Bool.not_eq_true] at never
  have nothing (later : Nat) (after : cycle ≤ later) :
      (run.unread later).isEmpty = true ∧
        (run.state later).fifoWvalid (run.inputs later) = false := by
    have noWord := never later after
    rw [IfStage.fifoValid, PrefetchFifo.holds_fifoValid (undirected.stored later),
      Bool.or_eq_false_iff, Bool.not_eq_false'] at noWord
    exact noWord
  refine (undirected.from_later ordered).not_starves
    ⟨fun later after => (nothing later after).2, fun later after => ?_⟩
  exact (undirected.stored later).congr (List.isEmpty_iff.mp (nothing later after).1)

/-- A word that is no instruction fills the hold register, and the next one completes it. -/
theorem Undirected.exists_insnValue
    (readyAgain : ∀ cycle, start ≤ cycle →
      ∃ later, cycle ≤ later ∧ IfStage.readyIf (run.inputs later) = true) :
    ∃ later, start ≤ later ∧ (run.state later).insnValue (run.inputs later) = true := by
  by_contra never
  simp only [not_exists, not_and, Bool.not_eq_true] at never
  obtain ⟨first, afterStart, firstWord⟩ := undirected.exists_fifoValid (Nat.le_refl start)
  obtain ⟨fill, afterFirst, ready, valid⟩ := exists_event_while
    (fun cycle => (run.state cycle).fifoValid (run.inputs cycle) = true)
    (fun cycle => IfStage.readyIf (run.inputs cycle) = true)
    (fun cycle after valid notReady => undirected.fifoValid_succ (Nat.le_trans afterStart after)
      (Bool.eq_false_iff.mpr notReady) valid)
    firstWord (readyAgain first afterStart)
  have inside : start ≤ fill := Nat.le_trans afterStart afterFirst
  obtain ⟨unaligned, empty⟩ := IfStage.filling_of_noInsn (never fill inside) valid
  have held : ∀ cycle, fill + 1 ≤ cycle → (run.state cycle).holdRdataValue = true := by
    intro cycle after
    induction after with
    | refl =>
        exact IfStage.holdRdataValue_next_of_filling (undirected.isBoot inside)
          (undirected.noRedirect fill inside) ready unaligned empty valid
    | @step cycle after induction =>
        have later : start ≤ cycle := Nat.le_trans inside (Nat.le_of_succ_le after)
        have noWord : (run.state cycle).fifoValid (run.inputs cycle) = false := by
          rw [Bool.eq_false_iff]
          intro word
          rw [(IfStage.filling_of_noInsn (never cycle later) word).2] at induction
          cases induction
        exact ((IfStage.place_next_of_starved (undirected.noRedirect cycle later)
          (never cycle later)).2 noWord).trans induction
  obtain ⟨second, afterFill, secondWord⟩ :=
    undirected.exists_fifoValid (Nat.le_trans inside (Nat.le_succ fill))
  have full := held second afterFill
  rw [(IfStage.filling_of_noInsn (never second (by omega)) secondWord).2] at full
  cases full

/-- An instruction is passed on to ID. -/
theorem Undirected.exists_passed
    (readyAgain : ∀ cycle, start ≤ cycle →
      ∃ later, cycle ≤ later ∧ IfStage.readyIf (run.inputs later) = true) :
    ∃ later, start ≤ later ∧ IfStage.readyIf (run.inputs later) = true ∧
      (run.state later).insnValue (run.inputs later) = true := by
  obtain ⟨first, afterStart, offered⟩ := undirected.exists_insnValue readyAgain
  obtain ⟨later, after, ready, still⟩ := exists_event_while
    (fun cycle => (run.state cycle).insnValue (run.inputs cycle) = true)
    (fun cycle => IfStage.readyIf (run.inputs cycle) = true)
    (fun cycle after offered notReady => undirected.insnValue_succ
      (Nat.le_trans afterStart after) (Bool.eq_false_iff.mpr notReady) offered)
    offered (readyAgain first afterStart)
  exact ⟨later, Nat.le_trans afterStart after, ready, still⟩

end Undirected

end FetchRun

end RiscvCore
