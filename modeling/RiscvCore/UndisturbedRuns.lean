import RiscvCore.AccessTracking
import RiscvCore.MarkerDrain
import RiscvCore.RedirectMarks
import RiscvCore.SequentialFetch
import RiscvCore.TrapDrain

/-!
# Undisturbed runs

Runs without interrupts, errors on the data bus and denied accesses.  Every trap marker has its
instruction, and a flush finds the data bus at rest.  A redirect of the fetch comes from an
instruction that was fetched, so that it finds the words of the redirect before it coming in: the
only exception is a CSR access that is refused in machine mode and traps for ever.
-/

namespace RiscvCore

open BusProtocol (InOrder pending)
open SynchronousRun (collected)

namespace CoreState

variable {params : Params} {st : CoreState} {port : CoreInput}

/-- Between two instruction streams no load or store is on its way to the data bus. -/
def NoAccessUnlessIdle (st : CoreState) : Prop :=
  st.fsm ≠ .idle → st.idEx.lsuEnEx = false ∧ st.exMem.lsuEnMem = false

theorem noAccessUnlessIdle_step (owned : st.MarkersOwned params) (calm : st.Undisturbed port)
    (oneUnit : st.ExOneUnit) (asleep : (st.step params port).NoAccessAsleep) :
    (st.step params port).NoAccessUnlessIdle := by
  intro notIdle
  cases fsm : (st.step params port).fsm with
  | idle => exact absurd fsm notIdle
  | sleep => exact ⟨(asleep (.inl fsm)).1, (asleep (.inl fsm)).2.1⟩
  | wakeup => exact ⟨(asleep (.inr fsm)).1, (asleep (.inr fsm)).2.1⟩
  | excFlush =>
      obtain ⟨idle, taken⟩ := marker_of_flush_step owned calm fsm
      have marks : st.marked = true := by rw [marked, taken, Bool.or_true]
      have noMem : st.exMem.lsuEnMem = false := (owned.noAccess.wb taken).1
      -- What enters MEM from EX is neither the trapping instruction nor behind it.
      have notEntering : (st.readyEx params port && !st.flushE && st.idEx.lsuEnEx) = false := by
        rcases owned.idle idle marks with ⟨-, empty⟩ | refused
        · rw [empty.lsu, Bool.and_false]
        · rw [readyEx_of_excEx refused]
          rfl
      constructor
      · rcases flushing_step_of_owned owned calm fsm with empty | ⟨csr, -⟩
        · exact empty.lsu
        · cases access : (st.step params port).idEx.lsuEnEx with
          | false => rfl
          | true =>
              rw [(exOneUnit_step oneUnit).csrEnEx_of_access access] at csr
              cases csr
      · rw [lsuEnMem_step, noMem, notEntering, ite_self]

theorem enteringAccess_of_noAccess (noAccess : st.idEx.lsuEnEx = false) :
    st.enteringAccess params port = none := by
  rw [enteringAccess, noAccess, Bool.and_false]
  rfl

theorem grantedRequest_of_noAccess (noAccess : st.exMem.lsuEnMem = false) :
    st.grantedRequest port = none := by
  rw [grantedRequest]
  cases request : Lsu.dataReq (st.lsuAccess port) with
  | false => rfl
  | true =>
      rw [(access_of_dataReq request).1] at noAccess
      cases noAccess

/-- Without an access in EX and MEM nothing is asked for. -/
theorem remainingRequests_step_of_noAccess (noEx : st.idEx.lsuEnEx = false)
    (noMem : st.exMem.lsuEnMem = false) :
    st.remainingRequests ++ (st.enteringAccess params port).toList.flatMap Lsu.requests =
      (st.grantedRequest port).toList ++ (st.step params port).remainingRequests := by
  have stays : (st.step params port).exMem.lsuEnMem = false := by
    rw [lsuEnMem_step, noEx, noMem, Bool.and_false, ite_self]
  rw [enteringAccess_of_noAccess noEx, grantedRequest_of_noAccess noMem, remainingRequests, noMem,
    remainingRequests, stays]
  rfl

/-- Its trap leaves the privilege mode as it is. -/
structure RefusedForGood (params : Params) (st : CoreState) : Prop where
  refused : st.excEx params = true
  mode : st.csr.privilegeModeQ ≠ privLvlU

theorem RefusedForGood.step (stuck : st.RefusedForGood params) (allowed : st.pmpErr = false) :
    (st.step params port).RefusedForGood params := by
  have held : st.readyEx params port = false := readyEx_of_excEx stuck.refused
  have noMret : st.isMret params port = false := by simp [isMret, idSignal, held]
  have sameMode : (st.step params port).csr.privilegeModeQ = st.csr.privilegeModeQ := by
    change (if st.csr.privilegeModeQ = privLvlM then
      (if st.isMret params port then _ else _) else
        if st.csr.privilegeModeQ = privLvlU then _ else _) = _
    rw [noMret, if_neg Bool.false_ne_true, if_neg stuck.mode, ite_self]
  have refused := stuck.refused
  rw [excEx_of_allowed allowed, Bool.and_eq_true] at refused
  constructor
  · rw [excEx, refused.1, if_pos rfl, illegalCsr_step_of_held held sameMode, refused.2]
    rfl
  · rw [sameMode]
    exact stuck.mode

/-- No instruction is left behind the fetch stage that could redirect it. -/
structure NoRedirector (st : CoreState) : Prop where
  noInstr : st.ifs.instrValueId = false
  noBranch : st.branchJump = false
  noCsr : st.idEx.csrEnEx = false
  noFlush : st.fsm ≠ .excFlush

/-- A redirect is that of a branch or jump in EX or of a flush. -/
theorem branchJump_of_setPcValid (awake : st.fsm ≠ .wakeup)
    (redirects : st.setPcValid params port = true) :
    st.branchJump = true ∨ st.fsm = .excFlush := by
  rw [setPcValid, Bool.or_eq_true] at redirects
  rcases redirects with branch | fetch
  · exact .inl branch
  · right
    cases fsm : st.fsm with
    | excFlush => rfl
    | idle =>
        rw [excFetch_idle fsm] at fetch
        cases fetch
    | sleep =>
        rw [excFetch_sleep fsm] at fetch
        cases fetch
    | wakeup => exact absurd fsm awake

theorem NoRedirector.noRedirect (left : st.NoRedirector) (awake : st.fsm ≠ .wakeup) :
    st.setPcValid params port = false := by
  cases redirects : st.setPcValid params port with
  | false => rfl
  | true =>
      rcases branchJump_of_setPcValid awake redirects with branch | flushing
      · rw [left.noBranch] at branch
        cases branch
      · exact absurd flushing left.noFlush

theorem ExOneUnit.branchJump_of_csr (oneUnit : st.ExOneUnit) (csr : st.idEx.csrEnEx = true) :
    st.branchJump = false := by
  obtain ⟨unit, uses⟩ := oneUnit
  rw [uses.csr, decide_eq_true_eq] at csr
  have noBranch : st.idEx.branchEx = false := by
    rw [uses.branch, csr]
    rfl
  have noJump : st.idEx.jumpEx = false := by
    rw [uses.jump, csr]
    rfl
  rw [branchJump, branchTaken, jumpTaken, ExStage.branchTaken, ExStage.jumpTaken, noBranch, noJump]
  rfl

/-- A branch redirects once, even if it is held in EX. -/
theorem branchJump_step_of_noIssue (noFlush : st.flushE = false)
    (noIssue : st.issues params port = false) : (st.step params port).branchJump = false := by
  cases ready : st.readyEx params port with
  | true =>
      apply branchJump_of_empty
      exact empty_of_operation (nextIdExOperation_of_noIssue noIssue ready).1
  | false =>
      have kept : st.nextIdExOperation params port = st.idEx := nextIdExOperation_of_notReady ready
      have branch : (st.step params port).idEx.branchEx = st.idEx.branchEx := by
        change (st.nextIdExOperation params port).branchEx = _
        rw [kept]
      have jump : (st.step params port).idEx.jumpEx = st.idEx.jumpEx := by
        change (st.nextIdExOperation params port).jumpEx = _
        rw [kept]
      have mask : (st.step params port).branchJumpMask =
          (st.idEx.branchEx || st.idEx.jumpEx) := by
        change ExStage.nextBranchJumpMask st.idEx (st.readyEx params port) st.flushE = _
        rw [ExStage.nextBranchJumpMask, ready, noFlush]
        simp
      rw [branchJump, branchTaken, jumpTaken, ExStage.branchTaken, ExStage.jumpTaken, branch, jump,
        mask]
      cases st.idEx.branchEx <;> cases st.idEx.jumpEx <;> simp

theorem flushE_of_notFlushing (notFlushing : st.fsm ≠ .excFlush) : st.flushE = false := by
  rw [flushE_eq]
  exact beq_eq_false_iff_ne.mpr notFlushing

section Step

variable (owned : st.MarkersOwned params) (calm : st.Undisturbed port)

include owned calm

/-- A flush follows an instruction that traps in ID or EX. -/
theorem trapping_of_flush_step (flush : (st.step params port).fsm = .excFlush) :
    (st.ifs.instrValueId = true ∧ st.idEx.Empty) ∨ st.idEx.csrEnEx = true := by
  obtain ⟨idle, taken⟩ := marker_of_flush_step owned calm flush
  have marks : st.marked = true := by rw [marked, taken, Bool.or_true]
  rcases owned.idle idle marks with ⟨traps, empty⟩ | refused
  · exact .inl ⟨instrValueId_of_exceptionTakenId traps, empty⟩
  · exact .inr (csrEnEx_of_excEx calm.allowed refused)

/-- Without a new instruction no redirect comes up. -/
theorem NoRedirector.step (left : st.NoRedirector)
    (noInstr : (st.step params port).ifs.instrValueId = false) :
    (st.step params port).NoRedirector := by
  have noIssue : st.issues params port = false := issues_of_noInstr left.noInstr
  have noFlush := flushE_of_notFlushing left.noFlush
  refine ⟨noInstr, branchJump_step_of_noIssue noFlush noIssue,
    csrEnEx_step_of_noIssue left.noCsr noIssue, ?_⟩
  intro flush
  rcases trapping_of_flush_step owned calm flush with ⟨valid, -⟩ | csr
  · rw [left.noInstr] at valid
    cases valid
  · rw [left.noCsr] at csr
    cases csr

/-- The redirect of a branch leaves nothing that could redirect again. -/
theorem noRedirector_step_of_branchJump (oneUnit : st.ExOneUnit) (branch : st.branchJump = true)
    (notFlushing : st.fsm ≠ .excFlush)
    (noInstr : (st.step params port).ifs.instrValueId = false) :
    (st.step params port).NoRedirector := by
  have noCsr : st.idEx.csrEnEx = false := by
    cases csr : st.idEx.csrEnEx with
    | false => rfl
    | true =>
        rw [oneUnit.branchJump_of_csr csr] at branch
        cases branch
  have noIssue : st.issues params port = false := by
    apply issues_of_flushD
    rw [flushD, branch, Bool.or_true]
  refine ⟨noInstr, branchJump_step_of_noIssue (flushE_of_notFlushing notFlushing) noIssue,
    csrEnEx_step_of_noIssue noCsr noIssue, ?_⟩
  intro flush
  rcases trapping_of_flush_step owned calm flush with ⟨-, empty⟩ | csr
  · rw [branchJump_of_empty empty] at branch
    cases branch
  · rw [noCsr] at csr
    cases csr

/-- Neither does that of a flush, unless a CSR access stays refused. -/
theorem noRedirector_step_of_flushing (divider : st.DividerOwned) (alone : st.CsrAlone)
    (flushing : st.fsm = .excFlush)
    (goesOn : ¬ (st.step params port).RefusedForGood params)
    (noInstr : (st.step params port).ifs.instrValueId = false) :
    (st.step params port).NoRedirector := by
  have ready : st.readyEx params port = true := by
    rw [owned.readyEx divider alone flushing, Bool.not_eq_true']
    cases refused : st.excEx params with
    | false => rfl
    | true =>
        refine (goesOn (RefusedForGood.step ⟨refused, ?_⟩ calm.allowed)).elim
        rcases owned.flushing flushing with empty | ⟨-, mode⟩
        · rw [excEx_of_empty empty] at refused
          cases refused
        · exact mode
  have empty : (st.step params port).idEx.Empty :=
    empty_step_of_readyEx ready (.inr (flushD_of_flushing flushing))
  refine ⟨noInstr, branchJump_of_empty empty, empty.csr, ?_⟩
  rw [fsm_step_excFlush flushing]
  split <;> simp

end Step

end CoreState

namespace CoreRun

variable (run : CoreRun)

/-- The fetch stage along the run. -/
def fetchRun : FetchRun where
  pmpEnable := run.params.pmpEnable
  bootAddr := run.bootAddr
  inputs := fun cycle => (run.state cycle).ifInput run.params (run.inputs cycle)

/-- No interrupt, no error on the data bus and no denied access, and both buses answer every grant
in order, at least one cycle later. -/
structure Calm : Prop where
  undisturbed : ∀ cycle, (run.state cycle).Undisturbed (run.inputs cycle)
  noDenial : ∀ cycle, (run.state cycle).ifs.pmpErr run.params.pmpEnable
    ((run.state cycle).ifInput run.params (run.inputs cycle)) = false
  instr : InOrder (fun _ _ => True) run.instrBus
  data : InOrder (fun _ _ => True) run.dataBus

theorem state_fetchRun (cycle : Nat) : run.fetchRun.state cycle = (run.state cycle).ifs := by
  induction cycle with
  | zero => rfl
  | succ cycle induction =>
      rw [run.fetchRun.state_succ, induction]
      rfl

theorem pending_fetchRun (cycle : Nat) :
    pending run.fetchRun.bus cycle = pending run.instrBus cycle := by
  induction cycle with
  | zero => rfl
  | succ cycle induction =>
      rw [BusProtocol.pending_succ, BusProtocol.pending_succ, induction]
      simp only [BusProtocol.nextPending, BusProtocol.Cycle.granted, FetchRun.bus, instrBus,
        state_fetchRun]
      rfl

theorem grantsBefore_fetchRun (cycle : Nat) :
    BusProtocol.grantsBefore run.fetchRun.bus cycle =
      BusProtocol.grantsBefore run.instrBus cycle := by
  have same : (fun earlier => (run.fetchRun.bus earlier).granted) =
      fun earlier => (run.instrBus earlier).granted := by
    funext earlier
    simp only [BusProtocol.Cycle.granted, FetchRun.bus, instrBus, state_fetchRun]
    rfl
  rw [BusProtocol.grantsBefore, same]
  rfl

theorem csrAlone (cycle : Nat) : (run.state cycle).CsrAlone :=
  run.invariant CoreState.CsrAlone (fun csr => by cases csr)
    (fun _ _ => CoreState.csrAlone_step) cycle

/-- Redirects are far enough apart: while words are discarded no other redirect can come. -/
structure Settles (cycle : Nat) (marks : List Bool) : Prop where
  aligned : run.fetchRun.Aligned cycle marks
  refetches : (run.state cycle).ifs.Refetches marks
  left : (run.state cycle).ifs.fifoFlush = true → (run.state cycle).NoRedirector

variable {run}

namespace Calm

variable (calm : run.Calm)

include calm

theorem markersOwned (cycle : Nat) : (run.state cycle).MarkersOwned run.params := by
  induction cycle with
  | zero => exact CoreState.markersOwned_reset run.params run.bootAddr
  | succ cycle induction =>
      rw [run.state_succ]
      exact CoreState.markersOwned_step induction (calm.undisturbed cycle)
        (calm.data.requested cycle) (run.exOneUnit cycle) (run.dividerOwned cycle)

theorem noAccessUnlessIdle (cycle : Nat) : (run.state cycle).NoAccessUnlessIdle := by
  cases cycle with
  | zero => exact fun notIdle => absurd rfl notIdle
  | succ cycle =>
      have asleep := run.noAccessAsleep (cycle + 1)
      rw [run.state_succ] at asleep ⊢
      exact CoreState.noAccessUnlessIdle_step (calm.markersOwned cycle) (calm.undisturbed cycle)
        (run.exOneUnit cycle) asleep

theorem inSequence (cycle : Nat) : (run.state cycle).InSequence :=
  run.inSequence (fun cycle waking => absurd waking (calm.markersOwned cycle).awake) cycle

/-- The granted requests and the remaining ones of MEM are those of the accesses that have entered
it, across traps as well. -/
theorem granted_append_remaining (cycle : Nat) :
    collected run.grantedRequest cycle ++ (run.state cycle).remainingRequests =
      (collected run.enteringAccess cycle).flatMap Lsu.requests := by
  refine SynchronousRun.collected_append_remaining Lsu.requests run.enteringAccess
    run.grantedRequest (fun cycle => (run.state cycle).remainingRequests) cycle rfl ?_
  intro earlier _
  by_cases idle : (run.state earlier).fsm = .idle
  · exact CoreState.remainingRequests_step idle (calm.markersOwned earlier).noAccess.owned
      (calm.data.requested earlier)
  · obtain ⟨noEx, noMem⟩ := calm.noAccessUnlessIdle earlier idle
    exact CoreState.remainingRequests_step_of_noAccess noEx noMem

/-- A flush finds every request of the accesses before it granted. -/
theorem granted_of_flushing {cycle : Nat} (flushing : (run.state cycle).fsm = .excFlush) :
    collected run.grantedRequest cycle =
      (collected run.issuedAccess cycle).flatMap Lsu.requests := by
  have notIdle : (run.state cycle).fsm ≠ .idle := by simp [flushing]
  obtain ⟨noEx, noMem⟩ := calm.noAccessUnlessIdle cycle notIdle
  have entered := run.entering_append_inEx cycle
  have granted := calm.granted_append_remaining cycle
  rw [CoreState.accessInEx, noEx, if_neg Bool.false_ne_true, List.append_nil] at entered
  rw [CoreState.remainingRequests, noMem, if_neg Bool.false_ne_true, List.append_nil] at granted
  rw [granted, entered]

theorem tracked (second : ∀ last, run.SecondAfterFirst last) (cycle : Nat) :
    run.Tracked cycle := by
  induction cycle with
  | zero => exact run.tracked_zero
  | succ cycle induction =>
      exact induction.succ calm.data second
        ((calm.markersOwned cycle).noneBehind (run.inputs cycle))
        (CoreState.busError_of_noError (calm.undisturbed cycle).noError)

/-- And answered, if no second half is granted before the first half is answered. -/
theorem answered_of_flushing (second : ∀ last, run.SecondAfterFirst last) {cycle : Nat}
    (flushing : (run.state cycle).fsm = .excFlush) : pending run.dataBus cycle = [] := by
  have tracked := calm.tracked second cycle
  obtain ⟨whole, noWb⟩ := tracked.behind.flushing flushing
  have none : run.opsInFlight cycle = [] := by
    rcases tracked.notInWb noWb with none | ⟨split, -⟩
    · exact none
    · rw [whole] at split
      cases split
  have length := length_opsInFlight run cycle
  rw [none, List.length_nil] at length
  exact List.eq_nil_of_length_eq_zero length.symm

theorem undenied : run.fetchRun.Undenied where
  noDenial := by
    intro cycle
    rw [state_fetchRun]
    exact calm.noDenial cycle
  inOrder :=
    { requested := by
        intro cycle grant
        have requested := calm.instr.requested cycle grant
        rw [FetchRun.bus, state_fetchRun]
        exact requested
      answered := by
        intro cycle valid
        obtain ⟨addr, rest, queue, -⟩ := calm.instr.answered cycle valid
        exact ⟨addr, rest, (run.pending_fetchRun cycle).trans queue, trivial⟩ }

theorem settled_of_redirect {cycle : Nat} {marks : List Bool} (settles : run.Settles cycle marks)
    (redirects : (run.state cycle).setPcValid run.params (run.inputs cycle) = true) :
    (run.state cycle).ifs.fifoFlush = false := by
  cases discards : (run.state cycle).ifs.fifoFlush with
  | false => rfl
  | true =>
      rw [(settles.left discards).noRedirect (calm.markersOwned cycle).awake] at redirects
      cases redirects

theorem settles_succ {cycle : Nat} {marks : List Bool} (settles : run.Settles cycle marks)
    (goesOn : ¬ (run.state (cycle + 1)).RefusedForGood run.params) :
    ∃ marksNext, run.Settles (cycle + 1) marksNext := by
  have owned := calm.markersOwned cycle
  have undisturbed := calm.undisturbed cycle
  have settled := calm.settled_of_redirect settles
  have empties (redirects : (run.state cycle).setPcValid run.params (run.inputs cycle) = true) :
      (run.state (cycle + 1)).ifs.instrValueId = false := by
    rw [run.state_succ]
    exact (calm.inSequence cycle).empties (fun waking => absurd waking owned.awake) redirects
  have aligned := settles.aligned.step (calm.undenied.noDenial cycle) calm.undenied.queued
  have refetches := calm.undenied.refetches_succ settles.aligned
    (by rw [state_fetchRun]; exact settles.refetches)
    (by rw [state_fetchRun]; exact settled) (by rw [state_fetchRun]; exact empties)
  rw [state_fetchRun] at refetches
  refine ⟨_, aligned, refetches, ?_⟩
  intro discards
  have noInstr := (refetches.emptied discards).noInstr
  rw [run.state_succ] at noInstr goesOn ⊢
  cases redirects : (run.state cycle).setPcValid run.params (run.inputs cycle) with
  | false =>
      have queue := settles.aligned.queue
      rw [state_fetchRun] at queue
      obtain ⟨discarding, -⟩ := settles.refetches.one.discards_of_next run.params.pmpEnable
        (queue.answersMarks (settles.aligned.nonempty calm.undenied.queued)) redirects discards
      exact (settles.left discarding).step owned undisturbed noInstr
  | true =>
      by_cases flushing : (run.state cycle).fsm = .excFlush
      · exact CoreState.noRedirector_step_of_flushing owned undisturbed (run.dividerOwned cycle)
          (run.csrAlone cycle) flushing goesOn noInstr
      · have branch : (run.state cycle).branchJump = true :=
          (CoreState.branchJump_of_setPcValid owned.awake redirects).resolve_right flushing
        exact CoreState.noRedirector_step_of_branchJump owned undisturbed (run.exOneUnit cycle)
          branch flushing noInstr

/-- Up to a CSR access that is refused for ever, every redirect finds the one before it settled. -/
theorem exists_settles {cycle : Nat}
    (goesOn : ¬ (run.state cycle).RefusedForGood run.params) :
    ∃ marks, run.Settles cycle marks := by
  induction cycle with
  | zero =>
      refine ⟨[], ⟨IfStage.commandQueue_reset run.bootAddr, rfl⟩, ?_, ?_⟩
      · exact ⟨IfStage.oneMark_reset run.bootAddr, fun _ => IfStage.emptied_reset run.bootAddr⟩
      · intro discards
        cases discards
  | succ cycle induction =>
      have before : ¬ (run.state cycle).RefusedForGood run.params := by
        intro stuck
        rw [run.state_succ] at goesOn
        exact goesOn (stuck.step (calm.undisturbed cycle).allowed)
      obtain ⟨marks, settles⟩ := induction before
      exact calm.settles_succ settles goesOn

end Calm

end CoreRun

end RiscvCore
