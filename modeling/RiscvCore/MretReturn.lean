import RiscvCore.PrivilegeLevels
import RiscvCore.TrapEntry
import RiscvCore.UserIsolation

/-!
# The return from a trap

`is_mret` is high in every cycle in which the `mret` in ID finds EX ready, so that the return is
applied to `mstatus` and to the privilege mode at least three times before the flush is over.  From
the second time on interrupts are enabled and the core is in user mode, whatever `mstatus` held.
-/

namespace RiscvCore

open Privilege (Implemented)
open SynchronousRun (FirstFrom)

/-- What an `mret` makes of `mstatus`. -/
def StatusRv.afterMret (status : StatusRv) : StatusRv where
  mpp := privLvlU
  mpie := true
  mie := status.mpie

/-- The second return sees what the first one left. -/
theorem StatusRv.afterMret_afterMret (status : StatusRv) :
    status.afterMret.afterMret = { mpp := privLvlU, mpie := true, mie := true } := rfl

namespace CoreState

variable {params : Params} {st : CoreState} {port : CoreInput}

/-- `mstatus` once the CSR instruction in EX has been applied. -/
def settledStatus (params : Params) (st : CoreState) (port : CoreInput) : StatusRv :=
  st.csr.mstatusN { st.csrInput params port with isMret := false, mcauseUpdate := false }

theorem exceptionTakenId_of_isMret (isMret : st.isMret params port = true) :
    st.exceptionTakenId = true := by
  rw [CoreState.isMret, idSignal, Bool.and_eq_true] at isMret
  rw [exceptionTakenId, IdStage.exceptionTakenId, isMret.2]
  simp

theorem readyEx_of_isMret (isMret : st.isMret params port = true) :
    st.readyEx params port = true := by
  rw [CoreState.isMret, idSignal, Bool.and_eq_true, Bool.and_eq_true] at isMret
  exact isMret.1.1

/-- The same instruction is seen whenever EX is ready. -/
theorem isMret_of_shown {other : CoreState} {later : CoreInput}
    (same : other.ifs.shown = st.ifs.shown) (ready : other.readyEx params later = true)
    (isMret : st.isMret params port = true) : other.isMret params later = true := by
  have sameDecoded : other.decoded = st.decoded := decoded_of_shown same
  have sameFault : other.ifs.instrFetchError = st.ifs.instrFetchError :=
    congrArg Shown.instrFetchError same
  rw [CoreState.isMret, idSignal, Bool.and_eq_true, Bool.and_eq_true] at isMret ⊢
  rw [sameDecoded, sameFault]
  exact ⟨⟨ready, isMret.1.2⟩, isMret.2⟩

theorem isWfi_of_isMret {later : CoreInput} (isMret : st.isMret params port = true) :
    st.isWfi params later = false ∧ st.isFence params later = false := by
  obtain ⟨kind, hasKind, -⟩ := exists_hasKind_decoder st.ifs.instrPayloadId st.ifs.instrValueId
  have mret : st.decoded.mretEn = decide (kind = some .mret) := hasKind.mret
  have wfi : st.decoded.wfiEn = decide (kind = some .wfi) := hasKind.wfi
  have fence : st.decoded.fenceEn = decide (kind = some .fence) := hasKind.fence
  rw [CoreState.isMret, idSignal, Bool.and_eq_true, mret, decide_eq_true_iff] at isMret
  rw [isWfi, isFence, idSignal, idSignal, wfi, fence, isMret.2]
  simp

/-- The status register under an `mret` and no trap. -/
theorem mstatusQ_step_of_mret (isMret : st.isMret params port = true)
    (noCause : st.mcauseUpdate params port = false) :
    (st.step params port).csr.mstatusQ =
      if Csr.enable st.csrAccess mstarus then st.settledStatus params port
      else (st.settledStatus params port).afterMret := by
  change st.csr.mstatusN (st.csrInput params port) = _
  rw [settledStatus]
  unfold Csr.mstatusN
  change (if Csr.enable st.csrAccess mstarus then _ else
    if st.mcauseUpdate params port then _ else
      if st.isMret params port then _ else _) = _
  rw [noCause, isMret]
  cases written : Csr.enable st.csrAccess mstarus with
  | true =>
      have enabled : Csr.enable (st.csrInput params port).access mstarus = true := written
      simp [enabled]
  | false =>
      have notEnabled : Csr.enable (st.csrInput params port).access mstarus = false := written
      simp [notEnabled, StatusRv.afterMret]

/-- Without a CSR instruction and a trap only an `mret` changes `mstatus`. -/
theorem mstatusQ_step_of_noCsr (noCsr : st.idEx.csrEnEx = false)
    (noCause : st.mcauseUpdate params port = false) :
    (st.step params port).csr.mstatusQ =
      if st.isMret params port then st.csr.mstatusQ.afterMret else st.csr.mstatusQ := by
  change st.csr.mstatusN (st.csrInput params port) = _
  unfold Csr.mstatusN
  change (if Csr.enable st.csrAccess mstarus then _ else
    if st.mcauseUpdate params port then _ else
      if st.isMret params port then _ else _) = _
  rw [enable_of_noCsr noCsr, noCause]
  rfl

/-- Without a trap only an `mret` in machine mode changes the privilege mode. -/
theorem privilegeModeQ_step_of_noCause (noCause : st.mcauseUpdate params port = false) :
    (st.step params port).csr.privilegeModeQ =
      if st.csr.privilegeModeQ = privLvlM ∧ st.isMret params port = true then st.csr.mstatusQ.mpp
      else st.csr.privilegeModeQ := by
  change st.csr.privilegeModeN (st.csrInput params port) = _
  unfold Csr.privilegeModeN
  change (if st.csr.privilegeModeQ = privLvlM then
    (if st.isMret params port then _ else _) else
      if _ then (if st.mcauseUpdate params port then _ else _) else _) = _
  rw [noCause]
  by_cases machine : st.csr.privilegeModeQ = privLvlM
  · cases isMret : st.isMret params port <;> simp [machine]
  · simp [machine]

/-- The return takes the mode from `mpp`, which was `old` in the first cycle and is implemented in
all later ones. -/
structure ReturnsFrom (old : Privilege) (st : CoreState) : Prop where
  mpp : Implemented st.csr.mstatusQ.mpp
  implemented : Implemented old → Implemented st.csr.privilegeModeQ
  other : ¬ Implemented old → st.csr.privilegeModeQ = old

theorem ReturnsFrom.step {old : Privilege} (returns : st.ReturnsFrom old)
    (noCsr : st.idEx.csrEnEx = false) (noCause : st.mcauseUpdate params port = false) :
    (st.step params port).ReturnsFrom old := by
  have status := mstatusQ_step_of_noCsr noCsr noCause
  have mode := privilegeModeQ_step_of_noCause noCause
  constructor
  · rw [status]
    split
    · exact .inr rfl
    · exact returns.mpp
  · intro implemented
    rw [mode]
    split
    · exact returns.mpp
    · exact returns.implemented implemented
  · intro other
    rw [mode, if_neg]
    · exact returns.other other
    · rintro ⟨machine, -⟩
      rw [returns.other other] at machine
      exact other (.inl machine)

/-- ID holds the instruction at the address, or nothing, with the fetch stage in front of it. -/
def AtAddress (pc : Word) (st : CoreState) : Prop :=
  (st.ifs.instrValueId = false ∧ st.ifs.pcIf = pc) ∨
    (st.ifs.instrValueId = true ∧ st.ifs.pcId = pc)

theorem atAddress_step_of_redirect (redirects : st.setPcValid params port = true)
    (noInstr : (st.step params port).ifs.instrValueId = false) :
    (st.step params port).AtAddress (st.setPc params port) := by
  refine .inl ⟨noInstr, ?_⟩
  have redirect : (st.ifInput params port).setPcValid = true := redirects
  change (if IfStage.readyIf (st.ifInput params port) || (st.ifInput params port).setPcValid then
    st.ifs.nextPc (st.ifInput params port) else _) = _
  rw [redirect, Bool.or_true, if_pos rfl, IfStage.nextPc, if_pos redirect]
  rfl

theorem AtAddress.step {pc : Word} (located : st.AtAddress pc)
    (noRedirect : st.setPcValid params port = false) (noFlush : st.flushD = false)
    (awake : st.stall = false) (noIssue : st.issues params port = false) :
    (st.step params port).AtAddress pc := by
  have stays : (st.ifInput params port).setPcValid = false := noRedirect
  have valid := @instrValueId_step params st port
  rw [noFlush, if_neg Bool.false_ne_true, awake, Bool.not_false, Bool.and_true] at valid
  have address : (st.step params port).ifs.pcId =
      if st.readyId params port then st.ifs.pcIf else st.ifs.pcId := rfl
  have fetch : (st.step params port).ifs.pcIf =
      if st.readyId params port && !st.stall || st.setPcValid params port then
        st.ifs.nextPc (st.ifInput params port)
      else st.ifs.pcIf := rfl
  rw [awake, noRedirect, Bool.not_false, Bool.and_true, Bool.or_false] at fetch
  rw [AtAddress, valid, address, fetch]
  rcases located with ⟨noInstr, inFront⟩ | ⟨instr, inId⟩
  · cases ready : st.readyId params port with
    | false =>
        rw [if_neg Bool.false_ne_true, if_neg Bool.false_ne_true]
        exact .inl ⟨noInstr, inFront⟩
    | true =>
        rw [if_pos rfl, if_pos rfl, if_pos rfl, IfStage.nextPc, stays, if_neg Bool.false_ne_true]
        cases value : st.ifs.insnValue (st.ifInput params port) with
        | true => exact .inr ⟨rfl, inFront⟩
        | false => exact .inl ⟨rfl, inFront⟩
  · have held : st.readyId params port = false := by
      rw [issues, instr, noFlush, Bool.not_false, Bool.true_and, Bool.and_true] at noIssue
      exact noIssue
    rw [held, if_neg Bool.false_ne_true, if_neg Bool.false_ne_true]
    exact .inr ⟨instr, inId⟩

theorem AtAddress.pcId_of_issues {pc : Word} (located : st.AtAddress pc)
    (issues : st.issues params port = true) : st.ifs.pcId = pc := by
  rcases located with ⟨noInstr, -⟩ | ⟨-, inId⟩
  · rw [issues_of_noInstr noInstr] at issues
    cases issues
  · exact inId

end CoreState

namespace CoreRun

variable (run : CoreRun)

/-- `mstatus` after the older instructions. -/
def settled (cycle : Nat) : StatusRv :=
  (run.state cycle).settledStatus run.params (run.inputs cycle)

/-- In machine mode the controller sees an `mret` that is not squashed, with no marker ahead of it;
its flush follows the given trap, which records no cause of its own, and the next instruction issues
before another trap is taken. -/
structure ExecutesMret (start taken issue : Nat) : Prop where
  idle : (run.state start).fsm = .idle
  machine : (run.state start).csr.privilegeModeQ = privLvlM
  seen : (run.state start).isMret run.params (run.inputs start) = true
  unmarked : (run.state start).marked = false
  noBranch : (run.state start).branchJump = false
  first : FirstFrom run.TakesTrap start taken
  noCause : (run.state taken).mcauseUpdate run.params (run.inputs taken) = false
  noCauseNext :
    (run.state (taken + 1)).mcauseUpdate run.params (run.inputs (taken + 1)) = false
  next : FirstFrom (fun cycle => run.issues cycle = true ∨ run.TakesTrap cycle) (taken + 2) issue
  issues : run.issues issue = true

/-- When the next instruction issues, the `mret` has been applied once, and that instruction is the
first one fetched since a redirect to `mepc`. -/
structure ReturnsOnce (start taken issue : Nat) : Prop where
  status : (run.state issue).csr.mstatusQ =
    { mpp := privLvlU, mpie := true, mie := (run.settled start).mpie }
  mode : (run.state issue).csr.privilegeModeQ = (run.settled start).mpp
  pc : (run.state issue).ifs.pcId = (run.state issue).csr.mepcQ
  redirect :
    (run.state (taken + 1)).setPcValid run.params (run.inputs (taken + 1)) = true ∧
      (run.state (taken + 1)).setPc run.params (run.inputs (taken + 1)) =
        (run.state issue).csr.mepcQ
  noRedirect : ∀ cycle, taken + 1 < cycle → cycle < issue →
    (run.state cycle).setPcValid run.params (run.inputs cycle) = false

variable {run}

/-- What ID shows before an issue does not trap, or it would not be left for an issue. -/
theorem noException_of_issues {start last : Nat}
    (drained : ∀ cycle, start ≤ cycle → cycle ≤ last →
      (run.state cycle).fsm = .idle ∧ (run.state cycle).idEx.Empty)
    (issues : run.issues last = true) {cycle : Nat} (after : start ≤ cycle)
    (before : cycle ≤ last) : (run.state cycle).exceptionTakenId = false := by
  cases traps : (run.state cycle).exceptionTakenId with
  | false => rfl
  | true =>
      have stays : ∀ later, cycle ≤ later → later ≤ last →
          (run.state later).exceptionTakenId = true := by
        intro later lower
        induction lower with
        | refl => exact fun _ => traps
        | @step later lower induction =>
            intro upper
            have still := induction (Nat.le_of_succ_le upper)
            obtain ⟨idle, empty⟩ := drained later (Nat.le_trans after lower)
              (Nat.le_of_succ_le upper)
            rw [run.state_succ, CoreState.exceptionTakenId_of_shown, still]
            exact CoreState.shown_step_of_held idle (CoreState.branchJump_of_empty empty)
              (CoreState.readyId_of_exception still)
      rw [CoreRun.issues, CoreState.issues_of_blocked
        (.inl (CoreState.readyId_of_exception (stays last before (Nat.le_refl last))))] at issues
      cases issues

namespace ExecutesMret

variable {start taken issue : Nat} (executes : run.ExecutesMret start taken issue)

include executes

theorem traps : (run.state start).exceptionTakenId = true :=
  CoreState.exceptionTakenId_of_isMret executes.seen

/-- Up to the trap the `mret` stays in ID, in front of an EX that is empty from the second cycle
on. -/
theorem waits : ∀ cycle, start ≤ cycle → cycle ≤ taken →
    (run.state cycle).fsm = .idle ∧
      (run.state cycle).ifs.shown = (run.state start).ifs.shown ∧
      (start < cycle → (run.state cycle).idEx.Empty) := by
  apply executes.first.holds_upTo fun cycle =>
    (run.state cycle).fsm = .idle ∧
      (run.state cycle).ifs.shown = (run.state start).ifs.shown ∧
      (start < cycle → (run.state cycle).idEx.Empty)
  · exact ⟨executes.idle, rfl, fun later => absurd later (Nat.lt_irrefl start)⟩
  · rintro cycle after - noTrap ⟨idle, same, empty⟩
    have traps : (run.state cycle).exceptionTakenId = true :=
      (CoreState.exceptionTakenId_of_shown same).trans executes.traps
    have noTaken := notTaken_of_noTrap idle noTrap
    rw [run.state_succ]
    have waits := @CoreState.waits_step run.params (run.state cycle) (run.inputs cycle) idle traps
    rcases Nat.eq_or_lt_of_le after with rfl | later
    · obtain ⟨shown, emptyNext⟩ := waits executes.noBranch
        (.inl (CoreState.readyEx_of_isMret executes.seen))
      refine ⟨?_, shown.trans same, fun _ => emptyNext⟩
      rw [CoreState.fsm_step_idle idle, noTaken]
      rfl
    · obtain ⟨shown, emptyNext⟩ := waits (CoreState.branchJump_of_empty (empty later))
        (.inr (empty later))
      refine ⟨?_, shown.trans same, fun _ => emptyNext⟩
      rw [CoreState.fsm_step_idle idle, noTaken]
      rfl

theorem alone (cycle : Nat) (after : start ≤ cycle) (before : cycle < taken) :
    (run.state cycle).branchJump = false ∧ (run.state cycle).excEx run.params = false := by
  rcases Nat.eq_or_lt_of_le after with rfl | later
  · refine ⟨executes.noBranch, ?_⟩
    have ready := CoreState.readyEx_of_isMret executes.seen
    rw [CoreState.readyEx_eq, Bool.and_eq_true, Bool.not_eq_true'] at ready
    exact ready.2
  · have empty := (executes.waits cycle after (Nat.le_of_lt before)).2.2 later
    exact ⟨CoreState.branchJump_of_empty empty, CoreState.excEx_of_empty empty⟩

/-- The trap is that of the marker. -/
theorem marker : (run.state taken).memWb.excTakenWb = true := by
  have isTaken : (run.state taken).excTaken (run.inputs taken) = true :=
    (takesTrap_iff.mp executes.first.happens).2
  have noError : (run.state taken).reportsError (run.inputs taken) = false := by
    cases error : (run.state taken).reportsError (run.inputs taken) with
    | false => rfl
    | true =>
        obtain ⟨cause, records⟩ :=
          CoreState.exists_recorded_of_reportsError run.params isTaken error
        have noCause := executes.noCause
        rw [CoreState.mcauseUpdate, records] at noCause
        cases noCause
  rw [← CoreState.excTaken_of_noError noError, isTaken]

theorem heldThrough : run.HeldThrough (run.state start).ifs.shown taken :=
  heldThrough_of_draining
    (draining_of_first executes.idle executes.traps executes.unmarked executes.alone executes.first)
    executes.marker

theorem later : start < taken := by
  rcases Nat.eq_or_lt_of_le executes.first.after with same | later
  · have unmarked := executes.unmarked
    rw [CoreState.marked, same, executes.marker, Bool.or_true] at unmarked
    cases unmarked
  · exact later

theorem seenAgain :
    (run.state taken).isMret run.params (run.inputs taken) = true ∧
      (run.state (taken + 1)).isMret run.params (run.inputs (taken + 1)) = true := by
  have through := executes.heldThrough
  exact ⟨CoreState.isMret_of_shown through.same through.ready executes.seen,
    CoreState.isMret_of_shown through.sameNext through.readyNext executes.seen⟩

/-- The flush leaves the status that two returns in a row leave of any other. -/
theorem status_after : (run.state (taken + 2)).csr.mstatusQ =
    { mpp := privLvlU, mpie := true, mie := true } := by
  have through := executes.heldThrough
  obtain ⟨seen, seenNext⟩ := executes.seenAgain
  rw [run.state_succ (taken + 1),
    CoreState.mstatusQ_step_of_noCsr through.emptyNext.csr executes.noCauseNext, seenNext,
    if_pos rfl, run.state_succ taken,
    CoreState.mstatusQ_step_of_noCsr through.empty.csr executes.noCause, seen, if_pos rfl,
    StatusRv.afterMret_afterMret]

theorem noCause_of_waiting {cycle : Nat} (after : start ≤ cycle) (before : cycle ≤ taken) :
    (run.state cycle).mcauseUpdate run.params (run.inputs cycle) = false := by
  rcases Nat.eq_or_lt_of_le before with rfl | earlier
  · exact executes.noCause
  · have idle := (executes.waits cycle after before).1
    exact CoreState.mcauseUpdate_of_noTrap run.params idle
      (notTaken_of_noTrap idle (executes.first.notBefore cycle after earlier))

theorem returnsFrom (implemented : Implemented (run.settled start).mpp) :
    (run.state (taken + 1)).ReturnsFrom (run.state start).csr.mstatusQ.mpp := by
  have start_succ : (run.state (start + 1)).ReturnsFrom (run.state start).csr.mstatusQ.mpp := by
    have noCause := executes.noCause_of_waiting (Nat.le_refl start) executes.first.after
    have mode := CoreState.privilegeModeQ_step_of_noCause noCause
    rw [if_pos ⟨executes.machine, executes.seen⟩, ← run.state_succ] at mode
    refine ⟨?_, fun old => ?_, fun _ => mode⟩
    · rw [run.state_succ, CoreState.mstatusQ_step_of_mret executes.seen noCause]
      split
      · exact implemented
      · exact .inr rfl
    · rw [mode]
      exact old
  have atTaken : (run.state taken).ReturnsFrom (run.state start).csr.mstatusQ.mpp := by
    apply (executes.first.from_later (Nat.le_succ start) executes.later).holds_at fun cycle =>
      (run.state cycle).ReturnsFrom (run.state start).csr.mstatusQ.mpp
    · exact start_succ
    · intro cycle after before _ returns
      have empty := (executes.waits cycle (by omega) (by omega)).2.2 (by omega)
      rw [run.state_succ]
      exact returns.step empty.csr (executes.noCause_of_waiting (by omega) (by omega))
  rw [run.state_succ]
  exact atTaken.step executes.heldThrough.empty.csr executes.noCause

/-- The flush ends in user mode, unless an older CSR instruction replaced a mode that is not
implemented. -/
theorem mode_after (implemented : Implemented (run.settled start).mpp) :
    (Implemented (run.state start).csr.mstatusQ.mpp →
        (run.state (taken + 2)).csr.privilegeModeQ = privLvlU) ∧
      (¬ Implemented (run.state start).csr.mstatusQ.mpp →
        (run.state (taken + 2)).csr.privilegeModeQ = (run.state start).csr.mstatusQ.mpp) := by
  have through := executes.heldThrough
  obtain ⟨seen, seenNext⟩ := executes.seenAgain
  have returns := executes.returnsFrom implemented
  have mode := CoreState.privilegeModeQ_step_of_noCause executes.noCauseNext
  have mpp : (run.state (taken + 1)).csr.mstatusQ.mpp = privLvlU := by
    rw [run.state_succ taken, CoreState.mstatusQ_step_of_noCsr through.empty.csr executes.noCause,
      seen, if_pos rfl]
    rfl
  rw [← run.state_succ (taken + 1), seenNext, mpp] at mode
  rw [mode]
  constructor
  · intro old
    rcases returns.implemented old with machine | user
    · rw [if_pos ⟨machine, rfl⟩]
    · rw [user, ite_self]
  · intro other
    rw [if_neg, returns.other other]
    rintro ⟨machine, -⟩
    rw [returns.other other] at machine
    exact other (.inl machine)

theorem idle_after : (run.state (taken + 2)).fsm = .idle := by
  rw [run.state_succ, CoreState.fsm_step_excFlush executes.heldThrough.flushed.flushing,
    (CoreState.isWfi_of_isMret executes.seenAgain.2).1]
  rfl

theorem empty_after : (run.state (taken + 2)).idEx.Empty := by
  rw [run.state_succ]
  exact CoreState.empty_step_of_noIssue executes.heldThrough.emptyNext
    (.inr (CoreState.flushD_of_flushing executes.heldThrough.flushed.flushing))

/-- Up to the next issue nothing is in EX. -/
theorem drained : ∀ cycle, taken + 2 ≤ cycle → cycle ≤ issue →
    (run.state cycle).fsm = .idle ∧ (run.state cycle).idEx.Empty := by
  apply executes.next.holds_upTo fun cycle =>
    (run.state cycle).fsm = .idle ∧ (run.state cycle).idEx.Empty
  · exact ⟨executes.idle_after, executes.empty_after⟩
  · rintro cycle - - notNext ⟨idle, empty⟩
    rw [not_or, Bool.not_eq_true] at notNext
    rw [run.state_succ]
    refine ⟨?_, CoreState.empty_step_of_notIssued empty notNext.1⟩
    rw [CoreState.fsm_step_idle idle, notTaken_of_noTrap idle notNext.2]
    rfl

theorem noException {cycle : Nat} (after : taken + 2 ≤ cycle) (before : cycle ≤ issue) :
    (run.state cycle).exceptionTakenId = false :=
  noException_of_issues executes.drained executes.issues after before

theorem notSeen {cycle : Nat} (after : taken + 2 ≤ cycle) (before : cycle ≤ issue) :
    (run.state cycle).isMret run.params (run.inputs cycle) = false := by
  cases seen : (run.state cycle).isMret run.params (run.inputs cycle) with
  | false => rfl
  | true =>
      have traps := CoreState.exceptionTakenId_of_isMret seen
      rw [executes.noException after before] at traps
      cases traps

theorem noRedirect {cycle : Nat} (after : taken + 2 ≤ cycle) (before : cycle ≤ issue) :
    (run.state cycle).setPcValid run.params (run.inputs cycle) = false := by
  obtain ⟨idle, empty⟩ := executes.drained cycle after before
  exact CoreState.setPcValid_of_idle idle (CoreState.branchJump_of_empty empty)

theorem redirect :
    (run.state (taken + 1)).setPcValid run.params (run.inputs (taken + 1)) = true ∧
      (run.state (taken + 1)).setPc run.params (run.inputs (taken + 1)) =
        (run.state (taken + 1)).csr.mepcQ := by
  have flushing := executes.heldThrough.flushed.flushing
  have seen := executes.seenAgain.2
  have target : (run.state (taken + 1)).excFetchAndPc run.params (run.inputs (taken + 1)) =
      (true, (run.state (taken + 1)).csr.mepcQ) := by
    rw [CoreState.excFetchAndPc, flushing, (CoreState.isWfi_of_isMret seen).2, seen]
    rfl
  have redirects :
      (run.state (taken + 1)).excFetch run.params (run.inputs (taken + 1)) = true := by
    rw [CoreState.excFetch, target]
  refine ⟨?_, ?_⟩
  · rw [CoreState.setPcValid, redirects, Bool.or_true]
  · rw [CoreState.setPc_of_excFetch redirects, target]

/-- Nothing changes the CSRs between the flush and the next issue, and ID gets the instruction at
the return address. -/
theorem kept : ∀ cycle, taken + 2 ≤ cycle → cycle ≤ issue →
    (run.state cycle).csr.mstatusQ = (run.state (taken + 2)).csr.mstatusQ ∧
      (run.state cycle).csr.privilegeModeQ = (run.state (taken + 2)).csr.privilegeModeQ ∧
      (run.state cycle).csr.mepcQ = (run.state (taken + 1)).csr.mepcQ ∧
      (run.state cycle).AtAddress (run.state (taken + 1)).csr.mepcQ := by
  have through := executes.heldThrough
  obtain ⟨redirects, target⟩ := executes.redirect
  apply executes.next.holds_upTo fun cycle =>
    (run.state cycle).csr.mstatusQ = (run.state (taken + 2)).csr.mstatusQ ∧
      (run.state cycle).csr.privilegeModeQ = (run.state (taken + 2)).csr.privilegeModeQ ∧
      (run.state cycle).csr.mepcQ = (run.state (taken + 1)).csr.mepcQ ∧
      (run.state cycle).AtAddress (run.state (taken + 1)).csr.mepcQ
  · refine ⟨rfl, rfl, ?_, ?_⟩
    · have noWfi : (run.state (taken + 1)).isWfi run.params (run.inputs (taken + 1)) = false :=
        (CoreState.isWfi_of_isMret executes.seenAgain.2).1
      rw [run.state_succ (taken + 1)]
      exact CoreState.mepcQ_step_of_spared through.emptyNext.csr
        (Controller.mepcUpdata_of_noCause executes.noCauseNext fun sleeps =>
          Bool.false_ne_true (noWfi.symm.trans sleeps.2))
    · rw [run.state_succ (taken + 1), ← target]
      apply CoreState.atAddress_step_of_redirect redirects
      rw [CoreState.instrValueId_step,
        if_pos (CoreState.flushD_of_flushing through.flushed.flushing)]
  · rintro cycle after before notNext ⟨status, mode, epc, located⟩
    rw [not_or, Bool.not_eq_true] at notNext
    obtain ⟨idle, empty⟩ := executes.drained cycle after (Nat.le_of_lt before)
    have noTaken := notTaken_of_noTrap idle notNext.2
    have noCause := CoreState.mcauseUpdate_of_noTrap run.params idle noTaken
    have notSeen := executes.notSeen after (Nat.le_of_lt before)
    have noFlush : (run.state cycle).flushD = false :=
      CoreState.flushD_of_idle idle (CoreState.branchJump_of_empty empty)
    rw [run.state_succ, CoreState.mstatusQ_step_of_noCsr empty.csr noCause, notSeen,
      if_neg Bool.false_ne_true, CoreState.privilegeModeQ_step_of_noCause noCause, notSeen,
      if_neg (fun seen => Bool.false_ne_true seen.2),
      CoreState.mepcQ_step_of_spared empty.csr (CoreState.mepcUpdata_of_notTaken noTaken)]
    exact ⟨status, mode, epc, located.step (executes.noRedirect after (Nat.le_of_lt before)) noFlush
      (CoreState.stall_of_idle idle) notNext.1⟩

end ExecutesMret

/-! ## The return -/

/-- The return is right exactly if it is to user mode with interrupts enabled. -/
theorem returnsOnce_iff (run : CoreRun) {start taken issue : Nat}
    (executes : run.ExecutesMret start taken issue)
    (implemented : Implemented (run.settled start).mpp) :
    run.ReturnsOnce start taken issue ↔
      (run.settled start).mpie = true ∧ (run.settled start).mpp = privLvlU ∧
        Implemented (run.state start).csr.mstatusQ.mpp := by
  obtain ⟨status, mode, epc, located⟩ :=
    executes.kept issue executes.next.after (Nat.le_refl issue)
  have statusAfter := executes.status_after
  obtain ⟨modeUser, modeOther⟩ := executes.mode_after implemented
  constructor
  · intro returns
    have sameStatus := returns.status
    have sameMode := returns.mode
    rw [status, statusAfter, StatusRv.mk.injEq] at sameStatus
    rw [mode] at sameMode
    by_cases old : Implemented (run.state start).csr.mstatusQ.mpp
    · rw [modeUser old] at sameMode
      exact ⟨sameStatus.2.2.symm, sameMode.symm, old⟩
    · rw [modeOther old] at sameMode
      rw [sameMode] at old
      exact (old implemented).elim
  · rintro ⟨enabled, user, old⟩
    obtain ⟨redirects, target⟩ := executes.redirect
    refine ⟨?_, ?_, ?_, ⟨redirects, target.trans epc.symm⟩, ?_⟩
    · rw [status, statusAfter, enabled]
    · rw [mode, modeUser old, user]
    · rw [epc]
      exact located.pcId_of_issues executes.issues
    · intro cycle after before
      exact executes.noRedirect (by omega) (Nat.le_of_lt before)

/-- A return in a closed system, checked cycle by cycle. -/
theorem executesMret_of_system (around : Surroundings) {start taken issue : Nat}
    (ordered : start ≤ taken ∧ taken + 2 ≤ issue)
    (starts : (around.system start).core.fsm = .idle ∧
      (around.system start).core.csr.privilegeModeQ = privLvlM ∧
        (around.system start).core.isMret defaultParams (around.portAt start) = true ∧
          (around.system start).core.marked = false ∧
            (around.system start).core.branchJump = false)
    (waits : ∀ cycle < taken, start ≤ cycle →
      (around.system cycle).core.takesTrap (around.portAt cycle) = false)
    (flushes : (around.system taken).core.takesTrap (around.portAt taken) = true ∧
      (around.system taken).core.mcauseUpdate defaultParams (around.portAt taken) = false ∧
        (around.system (taken + 1)).core.mcauseUpdate defaultParams
          (around.portAt (taken + 1)) = false)
    (fetches : ∀ cycle < issue, taken + 2 ≤ cycle →
      (around.system cycle).core.issues defaultParams (around.portAt cycle) = false ∧
        (around.system cycle).core.takesTrap (around.portAt cycle) = false)
    (issues : (around.system issue).core.issues defaultParams (around.portAt issue) = true) :
    around.coreRun.ExecutesMret start taken issue := by
  have issuesAt (cycle : Nat) : around.coreRun.issues cycle =
      (around.system cycle).core.issues defaultParams (around.portAt cycle) := by
    rw [CoreRun.issues, Surroundings.state_coreRun]
    rfl
  obtain ⟨idle, machine, seen, unmarked, noBranch⟩ := starts
  have lastIssues : around.coreRun.issues issue = true := (issuesAt issue).trans issues
  refine ⟨?_, ?_, ?_, ?_, ?_, ?_, ?_, ?_, ?_, lastIssues⟩
  · rw [Surroundings.state_coreRun]
    exact idle
  · rw [Surroundings.state_coreRun]
    exact machine
  · rw [Surroundings.state_coreRun]
    exact seen
  · rw [Surroundings.state_coreRun]
    exact unmarked
  · rw [Surroundings.state_coreRun]
    exact noBranch
  · refine ⟨ordered.1, (takesTrap_coreRun _ taken).mpr flushes.1, fun earlier lower upper => ?_⟩
    rw [takesTrap_coreRun, waits earlier upper lower]
    exact Bool.false_ne_true
  · rw [Surroundings.state_coreRun]
    exact flushes.2.1
  · rw [Surroundings.state_coreRun]
    exact flushes.2.2
  · refine ⟨ordered.2, .inl lastIssues, fun earlier lower upper => ?_⟩
    obtain ⟨noIssue, noTrap⟩ := fetches earlier upper lower
    rw [issuesAt, takesTrap_coreRun, noIssue, noTrap]
    simp

open Surroundings (userIdles)

/-- The return to user mode with `mstatus` as after reset. -/
theorem returnsOnce_userIdles : userIdles.coreRun.ReturnsOnce 6 9 12 := by
  have executes : userIdles.coreRun.ExecutesMret 6 9 12 :=
    executesMret_of_system userIdles (by decide) (by decide +kernel) (by decide +kernel)
      (by decide +kernel) (by decide +kernel) (by decide +kernel)
  refine (returnsOnce_iff userIdles.coreRun executes ?_).mpr ⟨?_, ?_, ?_⟩
  all_goals
    try rw [settled]
    rw [Surroundings.state_coreRun]
    decide +kernel

/-- An `mret` to user mode with `mpie` cleared. -/
def mpieCleared : Surroundings where
  program := Surroundings.programOf
    [ 0x08000093#32, -- addi x1, x0, 128
      0x3000B073#32, -- csrrc x0, mstatus, x1
      0x3B0FD073#32, -- csrrwi x0, pmpaddr0, 31
      0x3A07D073#32, -- csrrwi x0, pmpcfg0, 15
      0x341C5073#32, -- csrrwi x0, mepc, 24
      0x30200073#32 ] -- mret

/-- The return enables interrupts all the same. -/
theorem returnsOnce_fails :
    ¬ ∀ (run : CoreRun) (program : Word → Word × Bool), run.params = defaultParams →
      run.WellConnected program →
      (∀ cycle, (run.inputs cycle).externIrq = false ∧ (run.inputs cycle).softIrq = false ∧
        (run.inputs cycle).timerIrq = false) →
      ∀ start taken issue, run.ExecutesMret start taken issue →
        Implemented (run.settled start).mpp → run.ReturnsOnce start taken issue := by
  intro returns
  have executes : mpieCleared.coreRun.ExecutesMret 8 11 14 :=
    executesMret_of_system mpieCleared (by decide) (by decide +kernel) (by decide +kernel)
      (by decide +kernel) (by decide +kernel) (by decide +kernel)
  have returned := returns mpieCleared.coreRun _ rfl mpieCleared.wellConnected
    (fun _ => ⟨rfl, rfl, rfl⟩) 8 11 14 executes (by
      rw [settled, Surroundings.state_coreRun]
      decide +kernel)
  have status := congrArg StatusRv.mie returned.status
  rw [settled, Surroundings.state_coreRun, Surroundings.state_coreRun] at status
  revert status
  decide +kernel

end CoreRun

end RiscvCore
