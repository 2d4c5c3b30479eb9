import RiscvCore.OperandHistory

/-!
# Every issued writer is written

On a data bus that answers every request, each stage of an idle core becomes ready again and
again, so that the pipeline drains.
-/

namespace RiscvCore

open BusProtocol (Responsive pending)
open SynchronousRun (exists_event_while)

namespace CoreState

variable {params : Params} {st : CoreState} {port : CoreInput}

theorem div_step_work (params : Params) (port : CoreInput) (idle : st.fsm = .idle)
    (works : st.div.fsmCs = .work) :
    (st.step params port).div.fsmCs = (if st.div.cnt = 31#5 then .finish else .work) ∧
      (st.step params port).div.cnt = st.div.cnt + 1#5 := by
  have next : (st.step params port).div = st.div.next (ExStage.divInput st.idEx st.flushE) := rfl
  rw [next, flushE_of_idle idle]
  simp [Div.next, works, ExStage.divInput, Div.fsmNs]

theorem div_step_start (params : Params) (port : CoreInput) (idle : st.fsm = .idle)
    (waits : st.div.fsmCs = .idle) (enable : ExStage.divEn st.idEx = true) :
    (st.step params port).div.fsmCs = .finish ∨ (st.step params port).div.fsmCs = .work := by
  have next : (st.step params port).div.fsmCs =
      if st.flushE then .idle else st.div.fsmNs (ExStage.divInput st.idEx st.flushE) :=
    Div.fsmCs_next st.div _
  rw [next, flushE_of_idle idle]
  simp only [Bool.false_eq_true, if_false, Div.fsmNs, waits, ExStage.divInput, enable, if_true]
  split
  · exact Or.inl rfl
  · exact Or.inr rfl

theorem readyDiv_of_finish (finished : st.div.fsmCs = .finish) : st.readyDiv = true := by
  simp [readyDiv, Div.ready, finished]

/-- Without a trap no answer reports an error. -/
theorem lsuErr_of_idle (idle : st.fsm = .idle) (nextIdle : (st.step params port).fsm = .idle)
    (valid : st.lsuValidWb port = true) : st.lsuErrWb port = false := by
  cases error : st.lsuErrWb port
  · rfl
  · have trap : st.excTaken port = true := by
      cases op : st.memWb.lsuOpWb <;>
        simp [excTaken, isLsuLoadErr, isLsuStoreErr, WbStage.isLsuLoadErr,
          WbStage.isLsuStoreErr, valid, error, op]
    have flushes : (st.step params port).fsm = .excFlush := by
      change Controller.fsmControlNs st.fsm (st.controllerInput params port) = _
      rw [idle]
      exact if_pos trap
    rw [flushes] at nextIdle
    cases nextIdle

theorem readyWb_of_noAccess (noAccess : st.memWb.lsuEnWb = false) : st.readyWb port = true := by
  simp [readyWb, WbStage.readyWb, noAccess]

theorem readyMem_of_noAccess (readyWb : st.readyWb port = true)
    (noAccess : st.exMem.lsuEnMem = false) : st.readyMem port = true := by
  simp [readyMem, readyWb, lsuReady, Lsu.lsuReady, lsuAccess, MemStage.lsuAccess, noAccess,
    MemStage.excMem]

/-- WB keeps its operation while it waits for the answer. -/
theorem memWb_step_of_notReady (notReady : st.readyWb port = false) :
    (st.step params port).memWb.lsuEnWb = st.memWb.lsuEnWb ∧
      (st.step params port).memWb.rdWrEnWb = st.memWb.rdWrEnWb := by
  have operation := nextMemWbOperation_of_notReady notReady
  have access := congrArg MemWb.lsuEnWb operation
  have writes := congrArg MemWb.rdWrEnWb operation
  exact ⟨access, writes⟩

theorem memWb_step_of_bubble (readyWb : st.readyWb port = true)
    (notReady : st.readyMem port = false) :
    (st.step params port).memWb.lsuEnWb = false := by
  have notValid : st.validMem port = false := validMem_eq_readyMem.trans notReady
  simp [step, nextMemWb, MemStage.nextOperation, notValid, readyWb]

theorem memWb_step_of_readyMem (noFlush : st.flushE = false)
    (ready : st.readyMem port = true) :
    (st.step params port).memWb.lsuEnWb = st.exMem.lsuEnMem ∧
      (st.step params port).memWb.rdWrEnWb = st.exMem.rdWrEnMem := by
  have valid : st.validMem port = true := validMem_eq_readyMem.trans ready
  simp [step, nextMemWb, MemStage.nextOperation, valid, noFlush]

theorem exMem_step_of_notReady (notReady : st.readyMem port = false) :
    (st.step params port).exMem.lsuEnMem = st.exMem.lsuEnMem ∧
      (st.step params port).exMem.rdWrEnMem = st.exMem.rdWrEnMem := by
  have operation : ExStage.nextOperation _ _ _ (st.readyEx params port) _ _ _ _ = _ :=
    nextExMemOperation_of_notReady notReady
  have access := congrArg ExMem.lsuEnMem operation
  have writes := congrArg ExMem.rdWrEnMem operation
  exact ⟨access, writes⟩

theorem exMem_step_of_bubble (readyMem : st.readyMem port = true)
    (notReady : st.readyEx params port = false) :
    (st.step params port).exMem.lsuEnMem = false := by
  simp [step, nextExMem, ExStage.nextOperation, readyMem, notReady]

theorem exMem_step_of_readyEx (idle : st.fsm = .idle) (ready : st.readyEx params port = true) :
    (st.step params port).exMem.rdWrEnMem = st.idEx.rdWrEnEx := by
  have valid := validEx_of_readyEx ready
  simp [step, nextExMem, ExStage.nextOperation, ready, valid, flushE_of_idle idle]

theorem idEx_step_of_notReady (notReady : st.readyEx params port = false) :
    (st.step params port).idEx.rdWrEnEx = st.idEx.rdWrEnEx := by
  have writes := congrArg IdEx.rdWrEnEx (nextIdExOperation_of_notReady notReady)
  exact writes

theorem excTakenMem_step_of_excEx (idle : st.fsm = .idle) (valid : st.validEx port = true)
    (exception : st.excEx params = true) : (st.step params port).exMem.excTakenMem = true := by
  simp [step, nextExMem, ExStage.nextExcTakenMem, valid, exception, flushE_of_idle idle]

theorem excTakenMem_step_of_notReady (notReady : st.readyMem port = false) :
    (st.step params port).exMem.excTakenMem = st.exMem.excTakenMem := by
  have notValid : st.validEx port = false := by simp [validEx, notReady]
  simp [step, nextExMem, ExStage.nextExcTakenMem, notValid, notReady]

theorem excTakenWb_step_of_readyMem (idle : st.fsm = .idle) (ready : st.readyMem port = true) :
    (st.step params port).memWb.excTakenWb = st.exMem.excTakenMem := by
  have valid : st.validMem port = true := validMem_eq_readyMem.trans ready
  simp [step, nextMemWb, MemStage.nextExcTakenWb, valid, flushE_of_idle idle, MemStage.excMem]

theorem fsm_step_of_marker (idle : st.fsm = .idle) (marker : st.memWb.excTakenWb = true) :
    (st.step params port).fsm = .excFlush := by
  have trap : st.excTaken port = true := by simp [excTaken, marker]
  change Controller.fsmControlNs st.fsm (st.controllerInput params port) = _
  rw [idle]
  exact if_pos trap

end CoreState

namespace CoreRun

variable {run : CoreRun}

theorem exists_readyDiv_of_work (idle : run.StaysIdle) : ∀ (remaining cycle : Nat),
    (run.state cycle).div.fsmCs = .work → (run.state cycle).div.cnt.toNat + remaining = 31 →
      ∃ later, cycle ≤ later ∧ (run.state later).readyDiv = true := by
  intro remaining
  induction remaining with
  | zero =>
      intro cycle works full
      obtain ⟨fsm, -⟩ := CoreState.div_step_work run.params (run.inputs cycle) (idle cycle) works
      have last : (run.state cycle).div.cnt = 31#5 := BitVec.eq_of_toNat_eq full
      rw [if_pos last] at fsm
      exact ⟨cycle + 1, Nat.le_succ cycle, CoreState.readyDiv_of_finish fsm⟩
  | succ remaining induction =>
      intro cycle works counted
      obtain ⟨fsm, cnt⟩ := CoreState.div_step_work run.params (run.inputs cycle) (idle cycle) works
      have notLast : (run.state cycle).div.cnt ≠ 31#5 := by
        intro last
        rw [last] at counted
        simp at counted
      rw [if_neg notLast] at fsm
      have next : ((run.state (cycle + 1)).div.cnt).toNat + remaining = 31 := by
        rw [run.state_succ, cnt, BitVec.toNat_add]
        simp
        omega
      obtain ⟨later, ordered, ready⟩ := induction (cycle + 1) fsm next
      exact ⟨later, by omega, ready⟩

/-- The divider always becomes ready. -/
theorem exists_readyDiv (idle : run.StaysIdle) (cycle : Nat) :
    ∃ later, cycle ≤ later ∧ (run.state later).readyDiv = true := by
  have work (start : Nat) (works : (run.state start).div.fsmCs = .work) :
      ∃ later, start ≤ later ∧ (run.state later).readyDiv = true := by
    have small := (run.state start).div.cnt.isLt
    exact exists_readyDiv_of_work idle (31 - (run.state start).div.cnt.toNat) start works (by omega)
  cases fsm : (run.state cycle).div.fsmCs with
  | finish => exact ⟨cycle, Nat.le_refl _, CoreState.readyDiv_of_finish fsm⟩
  | work => exact work cycle fsm
  | idle =>
      cases enable : ExStage.divEn (run.state cycle).idEx with
      | false =>
          refine ⟨cycle, Nat.le_refl _, ?_⟩
          simp [CoreState.readyDiv, Div.ready, fsm, enable]
      | true =>
          rcases CoreState.div_step_start run.params (run.inputs cycle) (idle cycle) fsm enable
            with finished | works
          · exact ⟨cycle + 1, Nat.le_succ cycle, CoreState.readyDiv_of_finish finished⟩
          · obtain ⟨later, ordered, ready⟩ := work (cycle + 1) works
            exact ⟨later, by omega, ready⟩

theorem unalignQ_succ (run : CoreRun) (cycle : Nat) :
    (run.state (cycle + 1)).lsu.unalignQ =
      if (run.state cycle).lsu.unalignQ && (run.dataBus cycle).gnt then false
      else if (run.dataBus cycle).gnt then
        Lsu.reqUnalign ((run.state cycle).lsuAccess (run.inputs cycle))
      else (run.state cycle).lsu.unalignQ := rfl

theorem req_eq (idle : run.StaysIdle) (cycle : Nat) :
    (run.dataBus cycle).req =
      ((run.state cycle).exMem.lsuEnMem && (run.state cycle).readyWb (run.inputs cycle)) := by
  change ((run.state cycle).exMem.lsuEnMem && (run.state cycle).readyWb (run.inputs cycle) &&
    !(run.state cycle).flushE) = _
  rw [CoreState.flushE_of_idle (idle cycle), Bool.not_false, Bool.and_true]

/-- MEM is ready when its access, or the second half of it, is granted. -/
theorem readyMem_eq (idle : run.StaysIdle) {cycle : Nat}
    (access : (run.state cycle).exMem.lsuEnMem = true)
    (readyWb : (run.state cycle).readyWb (run.inputs cycle) = true) :
    (run.state cycle).readyMem (run.inputs cycle) =
      if Lsu.reqUnalign ((run.state cycle).lsuAccess (run.inputs cycle)) then
        (run.state cycle).lsu.unalignQ && (run.dataBus cycle).gnt
      else (run.dataBus cycle).gnt := by
  have enable : ((run.state cycle).lsuAccess (run.inputs cycle)).lsuEn = true := by
    simp [CoreState.lsuAccess, MemStage.lsuAccess, access, readyWb,
      CoreState.flushE_of_idle (idle cycle)]
  rw [CoreState.readyMem, readyWb, CoreState.lsuReady, Lsu.lsuReady, if_pos enable,
    MemStage.excMem, Bool.not_false, Bool.and_true, Bool.true_and]
  rfl

/-- A load or store that waits in WB has an answer under way, and the other half of an access
is not awaited. -/
structure AnswerDue (run : CoreRun) (cycle : Nat) : Prop where
  aligned : (run.state cycle).lsu.unalignQ = false
  queued : pending run.dataBus cycle ≠ []

theorem answer_valid {cycle : Nat} (idle : run.StaysIdle)
    (aligned : (run.state cycle).lsu.unalignQ = false)
    (valid : (run.dataBus cycle).valid = true) :
    (run.state cycle).readyWb (run.inputs cycle) = true := by
  have isValid : (run.state cycle).lsuValidWb (run.inputs cycle) = true := by
    have dataValid : (run.inputs cycle).dataValid = true := valid
    simp [CoreState.lsuValidWb, Lsu.lsuValid, aligned, CoreState.dataBus, dataValid]
  have noError : (run.state cycle).lsuErrWb (run.inputs cycle) = false :=
    CoreState.lsuErr_of_idle (idle cycle) (idle (cycle + 1)) isValid
  simp [CoreState.readyWb, WbStage.readyWb, isValid, noError]

theorem answerDue (idle : run.StaysIdle)
    (responsive : Responsive (fun _ _ => True) run.dataBus) (cycle : Nat) :
    (run.state cycle).memWb.lsuEnWb = true → run.AnswerDue cycle := by
  induction cycle with
  | zero => exact fun access => by cases access
  | succ cycle induction =>
      intro access
      have unalignQ := run.unalignQ_succ cycle
      cases readyWb : (run.state cycle).readyWb (run.inputs cycle) with
      | false =>
          rw [run.state_succ, (CoreState.memWb_step_of_notReady readyWb).1] at access
          obtain ⟨aligned, queued⟩ := induction access
          have noGrant : (run.dataBus cycle).gnt = false := by
            cases grant : (run.dataBus cycle).gnt
            · rfl
            · have requested := responsive.inOrder.requested cycle grant
              rw [req_eq idle, readyWb, Bool.and_false] at requested
              cases requested
          have noAnswer : (run.dataBus cycle).valid = false := by
            cases valid : (run.dataBus cycle).valid
            · rfl
            · rw [answer_valid idle aligned valid] at readyWb
              cases readyWb
          constructor
          · rw [unalignQ, noGrant, aligned]
            rfl
          · rw [BusProtocol.pending_succ, BusProtocol.nextPending, noAnswer]
            simp [queued]
      | true =>
          have readyMem : (run.state cycle).readyMem (run.inputs cycle) = true := by
            cases ready : (run.state cycle).readyMem (run.inputs cycle)
            · rw [run.state_succ, CoreState.memWb_step_of_bubble readyWb ready] at access
              cases access
            · rfl
          rw [run.state_succ, (CoreState.memWb_step_of_readyMem
            (CoreState.flushE_of_idle (idle cycle)) readyMem).1] at access
          rw [readyMem_eq idle access readyWb] at readyMem
          have grant : (run.dataBus cycle).gnt = true := by
            split at readyMem
            · exact (Bool.and_eq_true_iff.mp readyMem).2
            · exact readyMem
          constructor
          · rw [unalignQ, grant, Bool.and_true, if_pos rfl]
            split at readyMem
            · rw [(Bool.and_eq_true_iff.mp readyMem).1]
              rfl
            · rename_i aligned
              rw [Bool.not_eq_true] at aligned
              rw [aligned, ite_self]
          · have granted : (run.dataBus cycle).granted = true := by
              rw [BusProtocol.Cycle.granted_of_requested (responsive.inOrder.requested cycle),
                grant]
            rw [BusProtocol.pending_succ, BusProtocol.nextPending, granted]
            simp

/-- WB always becomes ready. -/
theorem exists_readyWb (idle : run.StaysIdle)
    (responsive : Responsive (fun _ _ => True) run.dataBus) (cycle : Nat) :
    ∃ later, cycle ≤ later ∧ (run.state later).readyWb (run.inputs later) = true := by
  cases access : (run.state cycle).memWb.lsuEnWb with
  | false => exact ⟨cycle, Nat.le_refl _, CoreState.readyWb_of_noAccess access⟩
  | true =>
      have due := answerDue idle responsive cycle access
      obtain ⟨later, ordered, event, waits⟩ := exists_event_while
        (fun cycle => (run.state cycle).memWb.lsuEnWb = true)
        (fun cycle => (run.dataBus cycle).valid = true ∨
          (run.state cycle).readyWb (run.inputs cycle) = true)
        (fun now _ waits nothing => by
          rw [not_or, Bool.not_eq_true, Bool.not_eq_true] at nothing
          rw [run.state_succ, (CoreState.memWb_step_of_notReady nothing.2).1, waits])
        access
        (by
          obtain ⟨later, ordered, valid⟩ := responsive.answered cycle due.queued
          exact ⟨later, ordered, Or.inl valid⟩)
      refine ⟨later, ordered, ?_⟩
      rcases event with valid | ready
      · exact answer_valid idle (answerDue idle responsive later waits).aligned valid
      · exact ready

/-- MEM holds an access that WB is ready for. -/
def Requests (run : CoreRun) (cycle : Nat) : Prop :=
  (run.state cycle).exMem.lsuEnMem = true ∧
    (run.state cycle).readyWb (run.inputs cycle) = true

theorem requests_succ {cycle : Nat} (requests : run.Requests cycle)
    (notReady : (run.state cycle).readyMem (run.inputs cycle) = false) :
    run.Requests (cycle + 1) := by
  constructor
  · rw [run.state_succ, (CoreState.exMem_step_of_notReady notReady).1, requests.1]
  · refine CoreState.readyWb_of_noAccess ?_
    rw [run.state_succ, CoreState.memWb_step_of_bubble requests.2 notReady]

theorem Requests.exists_grant (idle : run.StaysIdle)
    (responsive : Responsive (fun _ _ => True) run.dataBus) {cycle : Nat}
    (requests : run.Requests cycle) :
    ∃ later, cycle ≤ later ∧ (run.dataBus later).gnt = true := by
  refine responsive.granted cycle ?_
  rw [req_eq idle, requests.1, requests.2]
  rfl

/-- The second half of an access is granted in turn. -/
theorem exists_readyMem_of_secondHalf (idle : run.StaysIdle)
    (responsive : Responsive (fun _ _ => True) run.dataBus) {cycle : Nat}
    (requests : run.Requests cycle) (second : (run.state cycle).lsu.unalignQ = true) :
    ∃ later, cycle ≤ later ∧ (run.state later).readyMem (run.inputs later) = true := by
  obtain ⟨later, ordered, grant, still, secondHalf⟩ := exists_event_while
    (fun cycle => run.Requests cycle ∧ (run.state cycle).lsu.unalignQ = true)
    (fun cycle => (run.dataBus cycle).gnt = true)
    (fun now _ holds noGrant => by
      rw [Bool.not_eq_true] at noGrant
      have notReady : (run.state now).readyMem (run.inputs now) = false := by
        rw [readyMem_eq idle holds.1.1 holds.1.2, noGrant, Bool.and_false, ite_self]
      refine ⟨requests_succ holds.1 notReady, ?_⟩
      rw [run.unalignQ_succ, noGrant, Bool.and_false, holds.2]
      rfl)
    ⟨requests, second⟩ (requests.exists_grant idle responsive)
  refine ⟨later, ordered, ?_⟩
  rw [readyMem_eq idle still.1 still.2, secondHalf, grant, Bool.and_self, ite_self]

/-- MEM always becomes ready. -/
theorem exists_readyMem (idle : run.StaysIdle)
    (responsive : Responsive (fun _ _ => True) run.dataBus) (cycle : Nat) :
    ∃ later, cycle ≤ later ∧ (run.state later).readyMem (run.inputs later) = true := by
  obtain ⟨first, afterCycle, readyWb⟩ := exists_readyWb idle responsive cycle
  cases access : (run.state first).exMem.lsuEnMem with
  | false => exact ⟨first, afterCycle, CoreState.readyMem_of_noAccess readyWb access⟩
  | true =>
      obtain ⟨second, afterFirst, event, requests⟩ := exists_event_while
        run.Requests
        (fun cycle => (run.dataBus cycle).gnt = true ∨
          (run.state cycle).readyMem (run.inputs cycle) = true)
        (fun now _ requests nothing => by
          rw [not_or, Bool.not_eq_true, Bool.not_eq_true] at nothing
          exact requests_succ requests nothing.2)
        ⟨access, readyWb⟩
        (by
          have requests : run.Requests first := ⟨access, readyWb⟩
          obtain ⟨later, ordered, grant⟩ := requests.exists_grant idle responsive
          exact ⟨later, ordered, Or.inl grant⟩)
      cases ready : (run.state second).readyMem (run.inputs second) with
      | true => exact ⟨second, by omega, ready⟩
      | false =>
          -- The grant was that of the first half.
          have grant : (run.dataBus second).gnt = true := by
            rcases event with grant | isReady
            · exact grant
            · rw [ready] at isReady
              cases isReady
          have firstHalf := ready
          rw [readyMem_eq idle requests.1 requests.2, grant, Bool.and_true] at firstHalf
          have nextHalf : (run.state (second + 1)).lsu.unalignQ = true := by
            split at firstHalf
            · rename_i split
              rw [run.unalignQ_succ, grant, Bool.and_true, firstHalf, split]
              rfl
            · cases firstHalf
          obtain ⟨later, ordered, isReady⟩ := exists_readyMem_of_secondHalf idle responsive
            (requests_succ requests ready) nextHalf
          exact ⟨later, by omega, isReady⟩

/-- Without a trap no marker comes to MEM. -/
theorem unmarkedMem (idle : run.StaysIdle)
    (responsive : Responsive (fun _ _ => True) run.dataBus) (cycle : Nat) :
    (run.state cycle).exMem.excTakenMem = false := by
  rw [Bool.eq_false_iff]
  intro marked
  obtain ⟨later, -, ready, still⟩ := exists_event_while
    (fun cycle => (run.state cycle).exMem.excTakenMem = true)
    (fun cycle => (run.state cycle).readyMem (run.inputs cycle) = true)
    (fun now _ marked notReady => by
      rw [Bool.not_eq_true] at notReady
      rw [run.state_succ, CoreState.excTakenMem_step_of_notReady notReady, marked])
    marked (exists_readyMem idle responsive cycle)
  have inWb : (run.state (later + 1)).memWb.excTakenWb = true := by
    rw [run.state_succ, CoreState.excTakenWb_step_of_readyMem (idle later) ready, still]
  have flushes : (run.state (later + 2)).fsm = .excFlush :=
    CoreState.fsm_step_of_marker (idle (later + 1)) inWb
  rw [idle (later + 2)] at flushes
  cases flushes

/-- Without a trap no exception is raised in EX when its operation could move on. -/
theorem noException (idle : run.StaysIdle)
    (responsive : Responsive (fun _ _ => True) run.dataBus) {cycle : Nat}
    (valid : (run.state cycle).validEx (run.inputs cycle) = true) :
    (run.state cycle).excEx run.params = false := by
  rw [Bool.eq_false_iff]
  intro exception
  have marked : (run.state (cycle + 1)).exMem.excTakenMem = true :=
    CoreState.excTakenMem_step_of_excEx (idle cycle) valid exception
  rw [unmarkedMem idle responsive (cycle + 1)] at marked
  cases marked

theorem readyEx_eq_validEx (idle : run.StaysIdle)
    (responsive : Responsive (fun _ _ => True) run.dataBus) (cycle : Nat) :
    (run.state cycle).readyEx run.params (run.inputs cycle) =
      (run.state cycle).validEx (run.inputs cycle) := by
  rw [CoreState.readyEx_eq]
  cases valid : (run.state cycle).validEx (run.inputs cycle)
  · rfl
  · rw [noException idle responsive valid]
    rfl

/-- While EX does not let its operation go, MEM and WB run empty. -/
theorem exists_drained (idle : run.StaysIdle)
    (responsive : Responsive (fun _ _ => True) run.dataBus) {start : Nat}
    (blocked : ∀ cycle, start ≤ cycle →
      (run.state cycle).readyEx run.params (run.inputs cycle) = false) :
    ∃ drained, start ≤ drained ∧ ∀ cycle, drained ≤ cycle →
      (run.state cycle).readyMem (run.inputs cycle) = true := by
  obtain ⟨first, afterStart, readyFirst⟩ := exists_readyMem idle responsive start
  have emptyMem : ∀ cycle, first < cycle → (run.state cycle).exMem.lsuEnMem = false := by
    intro cycle later
    induction cycle with
    | zero => exact absurd later (Nat.not_lt_zero _)
    | succ cycle induction =>
        cases ready : (run.state cycle).readyMem (run.inputs cycle) with
        | true =>
            exact CoreState.exMem_step_of_bubble ready (blocked cycle (by omega))
        | false =>
            have below : first < cycle := by
              rcases Nat.eq_or_lt_of_le (Nat.le_of_lt_succ later) with rfl | below
              · rw [ready] at readyFirst
                cases readyFirst
              · exact below
            rw [run.state_succ, (CoreState.exMem_step_of_notReady ready).1, induction below]
  obtain ⟨second, afterFirst, readyWb⟩ := exists_readyWb idle responsive (first + 1)
  have ready : ∀ cycle, second ≤ cycle →
      (run.state cycle).readyMem (run.inputs cycle) = true := by
    intro cycle later
    have noAccess := emptyMem cycle (by omega)
    refine CoreState.readyMem_of_noAccess ?_ noAccess
    induction cycle with
    | zero =>
        obtain rfl : second = 0 := by omega
        exact readyWb
    | succ cycle induction =>
        rcases Nat.eq_or_lt_of_le later with rfl | below
        · exact readyWb
        · have before := emptyMem cycle (by omega)
          have readyMem := CoreState.readyMem_of_noAccess
            (induction (Nat.le_of_lt_succ below) before) before
          refine CoreState.readyWb_of_noAccess ?_
          rw [run.state_succ, (CoreState.memWb_step_of_readyMem
            (CoreState.flushE_of_idle (idle cycle)) readyMem).1, before]
  exact ⟨second, by omega, ready⟩

/-- EX always becomes ready. -/
theorem exists_readyEx (idle : run.StaysIdle)
    (responsive : Responsive (fun _ _ => True) run.dataBus) (cycle : Nat) :
    ∃ later, cycle ≤ later ∧
      (run.state later).readyEx run.params (run.inputs later) = true := by
  by_cases blocked : ∀ later, cycle ≤ later →
      (run.state later).readyEx run.params (run.inputs later) = false
  · obtain ⟨drained, afterCycle, readyMem⟩ := exists_drained idle responsive blocked
    obtain ⟨later, ordered, readyDiv⟩ := exists_readyDiv idle drained
    refine ⟨later, by omega, ?_⟩
    rw [readyEx_eq_validEx idle responsive, CoreState.validEx, readyMem later ordered, readyDiv,
      CoreState.stall_of_idle (idle later)]
    rfl
  · simp only [not_forall, Bool.not_eq_false] at blocked
    obtain ⟨later, ordered, ready⟩ := blocked
    exact ⟨later, ordered, ready⟩

/-! ## Writes -/

theorem exists_write_of_wb (idle : run.StaysIdle)
    (responsive : Responsive (fun _ _ => True) run.dataBus) {cycle : Nat}
    (writer : (run.state cycle).memWb.rdWrEnWb = true) :
    ∃ later, cycle ≤ later ∧ run.writes later = true := by
  obtain ⟨later, ordered, ready, still⟩ := exists_event_while
    (fun cycle => (run.state cycle).memWb.rdWrEnWb = true)
    (fun cycle => (run.state cycle).readyWb (run.inputs cycle) = true)
    (fun now _ writer notReady => by
      rw [Bool.not_eq_true] at notReady
      rw [run.state_succ, (CoreState.memWb_step_of_notReady notReady).2, writer])
    writer (exists_readyWb idle responsive cycle)
  refine ⟨later, ordered, ?_⟩
  simp [writes, CoreState.rfWr, WbStage.rfWr, ready, still, CoreState.flushE_of_idle (idle later)]

theorem exists_write_of_mem (idle : run.StaysIdle)
    (responsive : Responsive (fun _ _ => True) run.dataBus) {cycle : Nat}
    (writer : (run.state cycle).exMem.rdWrEnMem = true) :
    ∃ later, cycle ≤ later ∧ run.writes later = true := by
  obtain ⟨later, ordered, ready, still⟩ := exists_event_while
    (fun cycle => (run.state cycle).exMem.rdWrEnMem = true)
    (fun cycle => (run.state cycle).readyMem (run.inputs cycle) = true)
    (fun now _ writer notReady => by
      rw [Bool.not_eq_true] at notReady
      rw [run.state_succ, (CoreState.exMem_step_of_notReady notReady).2, writer])
    writer (exists_readyMem idle responsive cycle)
  have inWb : (run.state (later + 1)).memWb.rdWrEnWb = true := by
    rw [run.state_succ, (CoreState.memWb_step_of_readyMem
      (CoreState.flushE_of_idle (idle later)) ready).2, still]
  obtain ⟨write, afterLater, written⟩ := exists_write_of_wb idle responsive inWb
  exact ⟨write, by omega, written⟩

theorem exists_write_of_ex (idle : run.StaysIdle)
    (responsive : Responsive (fun _ _ => True) run.dataBus) {cycle : Nat}
    (writer : (run.state cycle).idEx.rdWrEnEx = true) :
    ∃ later, cycle ≤ later ∧ run.writes later = true := by
  obtain ⟨later, ordered, ready, still⟩ := exists_event_while
    (fun cycle => (run.state cycle).idEx.rdWrEnEx = true)
    (fun cycle => (run.state cycle).readyEx run.params (run.inputs cycle) = true)
    (fun now _ writer notReady => by
      rw [Bool.not_eq_true] at notReady
      rw [run.state_succ, CoreState.idEx_step_of_notReady notReady, writer])
    writer (exists_readyEx idle responsive cycle)
  have inMem : (run.state (later + 1)).exMem.rdWrEnMem = true := by
    rw [run.state_succ, CoreState.exMem_step_of_readyEx (idle later) ready, still]
  obtain ⟨write, afterLater, written⟩ := exists_write_of_mem idle responsive inMem
  exact ⟨write, by omega, written⟩

/-- While a writer is in the pipeline, another write comes. -/
theorem exists_write (idle : run.StaysIdle)
    (responsive : Responsive (fun _ _ => True) run.dataBus) {cycle : Nat}
    (nonempty : run.writers cycle ≠ []) :
    ∃ later, cycle ≤ later ∧ run.writes later = true := by
  cases inWb : (run.state cycle).memWb.rdWrEnWb with
  | true => exact exists_write_of_wb idle responsive inWb
  | false =>
      cases inMem : (run.state cycle).exMem.rdWrEnMem with
      | true => exact exists_write_of_mem idle responsive inMem
      | false =>
          cases inEx : (run.state cycle).idEx.rdWrEnEx with
          | true => exact exists_write_of_ex idle responsive inEx
          | false =>
              refine absurd ?_ nonempty
              simp [writers, CoreState.writers, MemWb.writer, ExMem.writer, IdEx.writer, inWb,
                inMem, inEx]

end CoreRun

end RiscvCore
