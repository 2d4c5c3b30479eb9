import RiscvCore.FinishedInstructions

/-!
# The entry of a handler

From a trap, or from the sleep of a `wfi`, to the first instruction of the handler.  What is older
than the interrupted instruction has been finished, and neither that instruction nor a younger one
leaves a mark: up to the handler only the controller writes to the CSRs.
-/

namespace RiscvCore

open BusProtocol (InOrder)
open SynchronousRun (FirstFrom)

/-- Only a `wfi` updates `mepc` without a cause. -/
theorem Controller.trapUpdate_of_noWfi {fsm : ControlFsm} {port : Controller.Input}
    (taken : port.excTaken = true) (noWfi : port.isWfi = false) :
    (∃ cause, trapUpdate fsm port = recorded cause) ∨ trapUpdate fsm port = noUpdate := by
  unfold trapUpdate
  rw [if_pos taken, noWfi]
  repeat' split
  all_goals first
    | exact .inl ⟨_, rfl⟩
    | exact .inr rfl
    | contradiction

namespace CoreState

/-- The inputs of the CSRs without those of the instructions in EX and ID: what the controller
updates is left. -/
def updateInput (params : Params) (st : CoreState) (port : CoreInput) : Csr.Input :=
  { st.csrInput params port with
    isMret := false
    access := { st.csrAccess with csrEn := false } }

variable {params : Params} {st : CoreState} {port : CoreInput}

theorem csr_step_of_untouched (noCsr : st.idEx.csrEnEx = false)
    (noMret : st.isMret params port = false) :
    (st.step params port).csr = st.csr.next (st.updateInput params port) := by
  have same : st.updateInput params port = st.csrInput params port := by
    simp only [updateInput, csrInput, csrAccess, ExStage.csrAccess, noCsr, noMret]
  rw [same]
  rfl

theorem irqThreshold_step_of_kept (noMret : st.isMret params port = false)
    (awake : st.fsm ≠ .wakeup) : (st.step params port).irqThreshold = st.irqThreshold := by
  apply BitVec.eq_of_toNat_eq
  rw [irqThreshold_step, noMret, if_neg Bool.false_ne_true, if_neg]
  exact fun acknowledged => awake (irqAck_iff.mp acknowledged)

/-- Nothing is updated but in a trap and on waking up. -/
theorem trapUpdate_of_notTaken (notTaken : st.excTaken port = false) (awake : st.fsm ≠ .wakeup) :
    st.trapUpdate params port = Controller.noUpdate := by
  have noTrap : (st.controllerInput params port).excTaken = false := notTaken
  rw [trapUpdate, Controller.trapUpdate, noTrap, if_neg Bool.false_ne_true, if_neg awake]

/-- In a trap without a `wfi` an update writes the address in WB to `mepc`. -/
theorem mepcQ_step_of_trap (noCsr : st.idEx.csrEnEx = false)
    (noWfi : st.isWfi params port = false) (taken : st.excTaken port = true) :
    (st.step params port).csr.mepcQ = Csr.evenPc st.memWb.pcWb ∨
      (st.trapUpdate params port = Controller.noUpdate ∧
        (st.step params port).csr.mepcQ = st.csr.mepcQ) := by
  rcases @Controller.trapUpdate_of_noWfi st.fsm (st.controllerInput params port) taken noWfi with
    ⟨cause, records⟩ | nothing
  · exact .inl (recorded_step noCsr records).epc
  · refine .inr ⟨nothing, mepcQ_step_of_spared noCsr ?_⟩
    rw [mepcUpdata, trapUpdate, nothing]
    rfl

theorem enteredMode_enteredMode (mode : Privilege) :
    enteredMode (enteredMode mode) = enteredMode mode := by
  by_cases user : mode = privLvlU
  · rw [user]
    rfl
  · have same : enteredMode mode = mode := if_neg user
    rw [same, same]

end CoreState

namespace CoreRun

variable (run : CoreRun)

/-- A trap that is taken and recorded, with its flush, or the sleep of a `wfi`, with the wake-up
that ends it. -/
inductive RecordedTrap (start entry : Nat) : Prop
  | taken (trap : run.TakesTrap start)
      (records : (run.state start).mcauseUpdate run.params (run.inputs start) = true)
      (next : entry = start + 1)
  | woken (sleeps : run.Sleeps (start + 1) entry)

/-- The instruction at the trap vector issues, or another trap is taken. -/
def HandlerOrTrap (entry cycle : Nat) : Prop :=
  (run.issues cycle = true ∧ (run.state cycle).ifs.pcId = run.trapVector entry) ∨
    run.TakesTrap cycle

instance (entry cycle : Nat) : Decidable (run.HandlerOrTrap entry cycle) :=
  inferInstanceAs (Decidable (_ ∨ _ = true))

/-- The trap is that of the instruction in ID, which stays there through the flush and has not been
an `mret` in any cycle. -/
structure WaitsInId (start : Nat) (pc : Word) : Prop where
  back : run.HeldBack start pc
  stays : (run.state (start + 1)).ifs.shown = (run.state start).ifs.shown
  noMret : ∀ cycle, (run.state cycle).ifs.shown = (run.state start).ifs.shown →
    run.isMret cycle = false

/-- The trap is that of the access in EX, with every older instruction gone from the pipeline and
from the data bus.  Since it issued the access has stayed in EX, where it writes no CSR, nothing
has issued behind it, and no `mret` behind it has been executed, nor does the flush record anything
for the instruction in ID. -/
structure WaitsInEx (start issue : Nat) : Prop where
  denied : run.Denied issue start
  drained : run.inMem start = none ∧ run.inWb start = none
  settled : run.opsInFlight start = []
  since : ∀ cycle, issue < cycle → cycle ≤ start →
    run.inEx cycle = some issue ∧ (run.state cycle).idEx.csrEnEx = false ∧
      run.issues cycle = false ∧ run.isMret cycle = false
  silent : (run.state (start + 1)).trapUpdate run.params (run.inputs (start + 1)) =
    Controller.noUpdate

/-- Where the instruction at `pc` is when it is interrupted. -/
inductive Interrupted (start entry : Nat) (pc : Word) : Prop
  | inId (waits : run.WaitsInId start pc)
  | inEx (issue : Nat) (isPc : (run.state issue).ifs.pcId = pc) (waits : run.WaitsInEx start issue)
  | behindWfi (awake : run.AwakeBefore entry pc)

/-- In the cycle no instruction issues, writes a register, reaches a CSR or the threshold of the
PLIC, or is granted an access. -/
structure Kept (cycle : Nat) : Prop where
  noIssue : run.issues cycle = false
  registers : (run.state (cycle + 1)).rf.mem = (run.state cycle).rf.mem
  csrs : (run.state (cycle + 1)).csr =
    (run.state cycle).csr.next ((run.state cycle).updateInput run.params (run.inputs cycle))
  threshold : (run.state cycle).fsm ≠ .wakeup →
    (run.state (cycle + 1)).irqThreshold = (run.state cycle).irqThreshold
  noGrant : run.grantedRequest cycle = none

/-- What the first instruction of the handler finds, which issues in the cycle `first`: `mepc` is
the address of the interrupted instruction, the older ones are finished, and up to then nothing has
changed but through the updates of the trap, in its two cycles and on waking up. -/
structure FindsPrecise (start entry first : Nat) : Prop where
  interrupted : ∃ pc, run.Interrupted start entry pc ∧
    (run.state first).csr.mepcQ = Csr.evenPc pc
  older : ∀ issue, issue < start → run.issues issue = true → run.inEx start ≠ some issue →
    run.Finished issue start
  kept : ∀ cycle, start ≤ cycle → cycle < first → run.Kept cycle
  updates : ∀ cycle, start ≤ cycle → cycle < first →
    (run.state cycle).trapUpdate run.params (run.inputs cycle) ≠ Controller.noUpdate →
      cycle = start ∨ cycle = start + 1 ∨ cycle = entry

/-- Traps are precise. -/
def TrapsPrecise : Prop :=
  ∀ start entry first, run.RecordedTrap start entry →
    FirstFrom (run.HandlerOrTrap entry) (entry + 1) first → run.issues first = true →
      run.FindsPrecise start entry first

/-- The data bus answers in order and grants the second half of an access when the first one is
answered, an interrupt stays as long as an instruction waits for it, nothing waits for ID when the
core wakes up, a `wfi` has an even address, no trap is that of an instruction on a CSR in EX, no
`fence.i`, `mret` or `wfi` in ID diverts the flush of a recorded trap, and none of the exceptions
of ID comes up in the flush of a denied access which machine mode would allow. -/
structure PreciseGuarded : Prop where
  inOrder : InOrder (fun _ _ => True) run.dataBus
  second : ∀ last, run.SecondAfterFirst last
  held : ∀ cycle, (run.state cycle).InterruptHeld run.params (run.inputs cycle)
  wakesEmpty : run.WakesEmpty
  even : ∀ cycle, run.TakesTrap cycle →
    (run.state cycle).isWfi run.params (run.inputs cycle) = true →
      IsEven (run.state cycle).ifs.pcId
  accesses : ∀ cycle, run.RefusesOnlyAccess cycle
  vectored : ∀ cycle, run.TakesTrap cycle →
    (run.state cycle).mcauseUpdate run.params (run.inputs cycle) = true →
      run.LeavesFlush (cycle + 1)
  deniedAlone : ∀ cycle, run.TakesTrap cycle → (run.state cycle).pmpErr = true →
    (run.state (cycle + 1)).pmpErr = false →
      ∀ trap : IdTrap, trap.raisedIn (run.state (cycle + 1)) = false

variable {run}

theorem kept_of_drained {cycle : Nat} (noIssue : run.issues cycle = false)
    (drained : run.inMem cycle = none ∧ run.inWb cycle = none)
    (noCsr : (run.state cycle).idEx.csrEnEx = false) (noMret : run.isMret cycle = false) :
    run.Kept cycle where
  noIssue := noIssue
  registers := by
    rw [run.state_succ]
    exact CoreState.mem_step_of_noWriter (run.zeroRegister cycle)
      ((run.stagesHold cycle).wb drained.2).2
  csrs := by
    rw [run.state_succ]
    exact CoreState.csr_step_of_untouched noCsr noMret
  threshold := by
    intro awake
    rw [run.state_succ]
    exact CoreState.irqThreshold_step_of_kept noMret awake
  noGrant := CoreState.grantedRequest_of_noAccess ((run.stagesHold cycle).mem drained.1).1

theorem EmptyPipe.kept {cycle : Nat} (empty : run.EmptyPipe cycle)
    (noIssue : run.issues cycle = false) (noMret : run.isMret cycle = false) : run.Kept cycle :=
  kept_of_drained noIssue ⟨empty.mem, empty.wb⟩ ((run.stagesHold cycle).ex empty.ex).1.csr noMret

/-- Behind the redirect to the trap vector the pipeline is empty, and the fetch stage is in front of
the handler. -/
structure AwaitsHandler (run : CoreRun) (vector epc : Word) (cycle : Nat) : Prop where
  idle : (run.state cycle).fsm = .idle
  empty : run.EmptyPipe cycle
  located : (run.state cycle).AtAddress vector
  epc : (run.state cycle).csr.mepcQ = epc

theorem AwaitsHandler.succ {vector epc : Word} {cycle : Nat}
    (awaits : run.AwaitsHandler vector epc cycle) (noIssue : run.issues cycle = false)
    (noTrap : ¬ run.TakesTrap cycle) : run.AwaitsHandler vector epc (cycle + 1) := by
  have idle := awaits.idle
  have noTaken := notTaken_of_noTrap idle noTrap
  have noBranch := awaits.empty.noBranch
  have noCsr := ((run.stagesHold cycle).ex awaits.empty.ex).1.csr
  refine ⟨?_, awaits.empty.succ noIssue, ?_, ?_⟩
  · rw [run.state_succ, CoreState.fsm_step_idle idle, noTaken]
    rfl
  · rw [run.state_succ]
    exact awaits.located.step (CoreState.setPcValid_of_idle idle noBranch)
      (CoreState.flushD_of_idle idle noBranch) (CoreState.stall_of_idle idle) noIssue
  · rw [run.state_succ, CoreState.mepcQ_step_of_spared noCsr
      (CoreState.mepcUpdata_of_notTaken noTaken), awaits.epc]

section Handler

variable {entry first : Nat} {epc : Word}

/-- Only the instruction at the trap vector could issue. -/
theorem AwaitsHandler.quiet {cycle : Nat}
    (awaits : run.AwaitsHandler (run.trapVector entry) epc cycle)
    (notYet : ¬ run.HandlerOrTrap entry cycle) :
    run.issues cycle = false ∧ ¬ run.TakesTrap cycle := by
  rw [HandlerOrTrap, not_or] at notYet
  refine ⟨?_, notYet.2⟩
  cases issues : run.issues cycle with
  | false => rfl
  | true => exact (notYet.1 ⟨issues, awaits.located.pcId_of_issues issues⟩).elim

variable (isFirst : FirstFrom (run.HandlerOrTrap entry) (entry + 1) first)
  (begins : run.AwaitsHandler (run.trapVector entry) epc (entry + 1))

include isFirst begins

theorem awaits_upTo : ∀ cycle, entry + 1 ≤ cycle → cycle ≤ first →
    run.AwaitsHandler (run.trapVector entry) epc cycle := by
  apply isFirst.holds_upTo (run.AwaitsHandler (run.trapVector entry) epc) begins
  intro cycle _ _ notYet awaits
  obtain ⟨noIssue, noTrap⟩ := awaits.quiet notYet
  exact awaits.succ noIssue noTrap

/-- Up to the first instruction of the handler nothing changes. -/
theorem kept_upTo (issues : run.issues first = true) {cycle : Nat} (after : entry + 1 ≤ cycle)
    (before : cycle < first) :
    run.Kept cycle ∧
      (run.state cycle).trapUpdate run.params (run.inputs cycle) = Controller.noUpdate := by
  have awaits := awaits_upTo isFirst begins cycle after (Nat.le_of_lt before)
  obtain ⟨noIssue, noTrap⟩ := awaits.quiet (isFirst.notBefore cycle after before)
  have drained (later : Nat) (lower : entry + 1 ≤ later) (upper : later ≤ first) :
      (run.state later).fsm = .idle ∧ (run.state later).idEx.Empty := by
    have still := awaits_upTo isFirst begins later lower upper
    exact ⟨still.idle, ((run.stagesHold later).ex still.empty.ex).1⟩
  have noException := noException_of_issues drained issues after (Nat.le_of_lt before)
  have noMret : run.isMret cycle = false := by
    cases isMret : run.isMret cycle with
    | false => rfl
    | true =>
        rw [CoreState.exceptionTakenId_of_isMret isMret] at noException
        cases noException
  refine ⟨awaits.empty.kept noIssue noMret,
    CoreState.trapUpdate_of_notTaken (notTaken_of_noTrap awaits.idle noTrap) ?_⟩
  rw [awaits.idle]
  decide

end Handler

/-- The flush of a trap that nothing diverts goes to the handler. -/
theorem awaitsHandler_of_flush {cycle : Nat} (flushing : (run.state cycle).fsm = .excFlush)
    (leaves : run.LeavesFlush cycle) (empty : run.EmptyPipe (cycle + 1)) :
    run.AwaitsHandler (run.trapVector cycle) (run.state (cycle + 1)).csr.mepcQ (cycle + 1) := by
  obtain ⟨redirects, target, -, noInstr⟩ := run.redirects_of_flush flushing leaves
  refine ⟨?_, empty, ?_, rfl⟩
  · rw [run.state_succ, CoreState.fsm_step_excFlush flushing, leaves.noWfi]
    rfl
  · have redirect : (run.state cycle).setPcValid run.params (run.inputs cycle) = true := by
      have excFetch : (run.state cycle).excFetch run.params (run.inputs cycle) = true := redirects
      rw [CoreState.setPcValid, excFetch, Bool.or_true]
    rw [run.state_succ] at noInstr ⊢
    rw [← target]
    exact CoreState.atAddress_step_of_redirect redirect noInstr

/-- A recorded trap has the address in WB, which its flush keeps. -/
theorem mepcQ_of_recorded {taken : Nat} {pc : Word}
    (trapWb : (run.state taken).memWb.pcWb = pc)
    (flushWb : (run.state (taken + 1)).memWb.pcWb = pc)
    (noCsr : (run.state taken).idEx.csrEnEx = false)
    (noCsrNext : (run.state (taken + 1)).idEx.csrEnEx = false)
    (noWfi : (run.state taken).isWfi run.params (run.inputs taken) = false)
    (noWfiNext : (run.state (taken + 1)).isWfi run.params (run.inputs (taken + 1)) = false)
    (isTaken : (run.state taken).excTaken (run.inputs taken) = true)
    (takenNext : (run.state (taken + 1)).excTaken (run.inputs (taken + 1)) = true)
    (records : (run.state taken).mcauseUpdate run.params (run.inputs taken) = true) :
    (run.state (taken + 2)).csr.mepcQ = Csr.evenPc pc := by
  have once : (run.state (taken + 1)).csr.mepcQ = Csr.evenPc pc := by
    rw [run.state_succ]
    rcases CoreState.mepcQ_step_of_trap noCsr noWfi isTaken with recorded | ⟨nothing, -⟩
    · rw [recorded, trapWb]
    · rw [CoreState.mcauseUpdate, nothing] at records
      cases records
  rw [show taken + 2 = taken + 1 + 1 from rfl, run.state_succ]
  rcases CoreState.mepcQ_step_of_trap noCsrNext noWfiNext takenNext with recorded | ⟨-, same⟩
  · rw [recorded, flushWb]
  · rw [same, once]

namespace PreciseGuarded

variable (guarded : run.PreciseGuarded)

include guarded

theorem attached_of_issues {cycle : Nat} (issues : run.issues cycle = true) :
    run.Attached cycle := by
  rcases attached_or_stuck guarded.inOrder guarded.second guarded.held cycle with attached | stuck
  · exact attached
  · rw [noIssue_of_notReadyEx (stuck.notReadyEx guarded.inOrder)] at issues
    cases issues

theorem earlier {cycle later : Nat} (attached : run.Attached later) (before : cycle ≤ later) :
    run.Attached cycle :=
  attached.earlier guarded.inOrder guarded.second guarded.held before

theorem trapsGuarded : run.TrapsGuarded where
  inOrder := guarded.inOrder
  second := guarded.second
  held := guarded.held
  refusedAwake := by
    intro cycle trap refuses
    have isTaken := (takesTrap_iff.mp trap).2
    have attached := attached_of_taken guarded.inOrder guarded.second guarded.held isTaken
    rcases attached.trap_cases (guarded.held cycle) trap with error | ⟨-, readyMem⟩ | waiting
    · obtain ⟨cause, records⟩ :=
        CoreState.exists_recorded_of_reportsError run.params isTaken error
      apply (guarded.vectored cycle trap ?_).noWfi
      rw [CoreState.mcauseUpdate, records]
      rfl
    · exact (guarded.vectored cycle trap
        (CoreState.mcauseUpdate_of_excEx isTaken readyMem refuses)).noWfi
    · rw [CoreState.excEx_of_empty waiting.heldThrough.empty] at refuses
      cases refuses
  even := guarded.even
  wakesEmpty := guarded.wakesEmpty

/-- A trap behind which the fetch stage waits in front of the handler is precise if it has been so
up to there. -/
theorem findsPrecise_of_begins {start entry first : Nat} {pc : Word}
    (interrupted : run.Interrupted start entry pc)
    (begins : run.AwaitsHandler (run.trapVector entry) (Csr.evenPc pc) (entry + 1))
    (ordered : start ≤ entry) (drained : run.inMem start = none ∧ run.inWb start = none)
    (kept : ∀ cycle, start ≤ cycle → cycle ≤ entry → run.Kept cycle)
    (updates : ∀ cycle, start ≤ cycle → cycle ≤ entry →
      (run.state cycle).trapUpdate run.params (run.inputs cycle) ≠ Controller.noUpdate →
        cycle = start ∨ cycle = start + 1 ∨ cycle = entry)
    (isFirst : FirstFrom (run.HandlerOrTrap entry) (entry + 1) first)
    (issues : run.issues first = true) : run.FindsPrecise start entry first := by
  have awaits := awaits_upTo isFirst begins first isFirst.after (Nat.le_refl first)
  have attached := guarded.earlier (guarded.attached_of_issues issues)
    (Nat.le_trans ordered (Nat.le_of_succ_le isFirst.after))
  refine ⟨⟨pc, interrupted, awaits.epc⟩, ?_, ?_, ?_⟩
  · intro issue earlier issued other
    rcases attached.accounted guarded.inOrder guarded.second guarded.held guarded.accesses earlier
      issued with (inEx | inMem | inWb) | finished
    · exact (other inEx).elim
    · rw [drained.1] at inMem
      cases inMem
    · rw [drained.2] at inWb
      cases inWb
    · exact finished
  · intro cycle after before
    rcases Nat.lt_or_ge entry cycle with later | notLater
    · exact (kept_upTo isFirst begins issues later before).1
    · exact kept cycle after notLater
  · intro cycle after before updated
    rcases Nat.lt_or_ge entry cycle with later | notLater
    · exact (updated (kept_upTo isFirst begins issues later before).2).elim
    · exact updates cycle after notLater updated

/-! ## A trap of the instruction in ID -/

omit guarded in
/-- What ID holds through a trap, and is no `mret` there, has not been one before. -/
theorem waitsInId_of_waiting {start : Nat} (waiting : run.WaitingTrap start)
    (noMret : run.isMret start = false) : run.WaitsInId start (run.state start).ifs.pcId := by
  have held := waiting.heldThrough
  have hidden : (!(run.state start).ifs.instrFetchError && (run.state start).decoded.mretEn) =
      false := by
    have isMret : (run.state start).isMret run.params (run.inputs start) = false := noMret
    rw [CoreState.isMret, CoreState.idSignal, held.ready, Bool.true_and] at isMret
    exact isMret
  refine ⟨waiting.heldBack, held.shown_next, fun cycle same => ?_⟩
  have fault : (run.state cycle).ifs.instrFetchError = (run.state start).ifs.instrFetchError :=
    congrArg Shown.instrFetchError same
  rw [isMret, CoreState.isMret, CoreState.idSignal, Bool.and_assoc, fault,
    CoreState.decoded_of_shown same, hidden, Bool.and_false]

theorem findsPrecise_of_waiting {start first : Nat} (trap : run.TakesTrap start)
    (records : (run.state start).mcauseUpdate run.params (run.inputs start) = true)
    (waiting : run.WaitingTrap start)
    (isFirst : FirstFrom (run.HandlerOrTrap (start + 1)) (start + 2) first)
    (issues : run.issues first = true) : run.FindsPrecise start (start + 1) first := by
  have held := waiting.heldThrough
  have leaves := guarded.vectored start trap records
  have empty := waiting.empty
  have emptyNext := empty.succ waiting.notIssued.1
  have noMret : run.isMret start = false :=
    (held.idSignal_next Decoded.mretEn).symm.trans leaves.noMret
  have noWfi : (run.state start).isWfi run.params (run.inputs start) = false :=
    (held.idSignal_next Decoded.wfiEn).symm.trans leaves.noWfi
  have epc : (run.state (start + 2)).csr.mepcQ = Csr.evenPc (run.state start).ifs.pcId :=
    mepcQ_of_recorded held.arrived.pcWb held.flushed.pcWb held.empty.csr held.emptyNext.csr noWfi
      leaves.noWfi (held.arrived.excTaken (run.inputs start))
      (held.flushed.excTaken (run.inputs (start + 1))) records
  have begins := awaitsHandler_of_flush waiting.flushing leaves
    (emptyNext.succ waiting.notIssued.2)
  rw [epc] at begins
  apply guarded.findsPrecise_of_begins (.inId (waitsInId_of_waiting waiting noMret)) begins
    (Nat.le_succ start) ⟨empty.mem, empty.wb⟩ ?_ ?_ isFirst issues
  · intro cycle after upTo
    obtain rfl | rfl : cycle = start ∨ cycle = start + 1 := by omega
    · exact empty.kept waiting.notIssued.1 noMret
    · exact emptyNext.kept waiting.notIssued.2 leaves.noMret
  · intro cycle after upTo _
    omega

/-! ## A trap of the access in EX -/

section Denied

variable {start first issue : Nat}

omit guarded in
/-- A denial that lasts in machine mode is one trap after the other. -/
theorem allowed_of_issues {pc : Word} (denied : run.DeniedOnce .wr pc start)
    (isFirst : FirstFrom (run.HandlerOrTrap (start + 1)) (start + 2) first)
    (issues : run.issues first = true) : (run.state (start + 1)).pmpErr = false := by
  cases lasts : (run.state (start + 1)).pmpErr with
  | false => rfl
  | true =>
      have refuses : (run.state (start + 1)).excEx run.params = true :=
        CoreState.excEx_of_pmpErr lasts
      have sameMode : (run.state (start + 2)).csr.privilegeModeQ =
          (run.state (start + 1)).csr.privilegeModeQ := by
        rw [(denied.again lasts).mode, denied.once.mode, CoreState.enteredMode_enteredMode]
      have still : run.StillDenied (run.state (start + 2)).idEx.lsuOpEx (start + 2) := by
        refine ⟨?_, ?_, rfl⟩
        · rw [show start + 2 = start + 1 + 1 from rfl, run.state_succ,
            CoreState.fsm_step_excFlush denied.flushed.flushing, CoreState.isWfi,
            CoreState.idSignal_of_excEx refuses]
          rfl
        · rw [show start + 2 = start + 1 + 1 from rfl, run.state_succ] at sameMode ⊢
          rw [CoreState.pmpErr_step_of_sameMode (CoreState.readyEx_of_excEx refuses)
            denied.flushed.noCsr sameMode, lasts]
      have atFirst : run.StillDenied (run.state (start + 2)).idEx.lsuOpEx first := by
        apply isFirst.holds_at (run.StillDenied (run.state (start + 2)).idEx.lsuOpEx) still
        intro cycle _ _ notYet stays
        rw [HandlerOrTrap, not_or] at notYet
        exact stays.succ notYet.2
      rw [noIssue_of_notReadyEx (access_of_pmpErr atFirst.denied).2.2] at issues
      cases issues

omit guarded in
/-- Since it issued a denied access has only been waiting. -/
theorem waiting_since (inside : run.inEx start = some issue)
    (denied : (run.state start).pmpErr = true) :
    ∀ cycle, issue < cycle → cycle ≤ start →
      run.inEx cycle = some issue ∧ (run.state cycle).idEx.csrEnEx = false ∧
        run.issues cycle = false ∧ run.isMret cycle = false := by
  intro cycle after upTo
  obtain ⟨inEx, sameAccess, notReadyBefore⟩ := held_since inside after upTo
  obtain ⟨access, -, notReady⟩ := access_of_pmpErr denied
  have isNotReady : run.readyEx cycle = false := by
    rcases Nat.eq_or_lt_of_le upTo with rfl | earlier
    · exact notReady
    · exact notReadyBefore earlier
  refine ⟨inEx, (run.exOneUnit cycle).csrEnEx_of_access (sameAccess.trans access),
    noIssue_of_notReadyEx isNotReady, ?_⟩
  change (run.readyEx cycle && _ && _) = false
  rw [isNotReady]
  rfl

omit guarded in
theorem exists_inEx_of_access (access : (run.state start).idEx.lsuEnEx = true) :
    ∃ issue, run.inEx start = some issue := by
  cases inside : run.inEx start with
  | some issue => exact ⟨issue, rfl⟩
  | none =>
      rw [((run.stagesHold start).ex inside).1.lsu] at access
      cases access

theorem findsPrecise_of_refused (trap : run.TakesTrap start)
    (records : (run.state start).mcauseUpdate run.params (run.inputs start) = true)
    (refused : (run.state start).Refused (run.state start).idEx.pcEx)
    (marker : (run.state start).memWb.excTakenWb = true)
    (isFirst : FirstFrom (run.HandlerOrTrap (start + 1)) (start + 2) first)
    (issues : run.issues first = true) : run.FindsPrecise start (start + 1) first := by
  have denied := deniedOnce_of_refused .wr refused marker
  have allowed := allowed_of_issues denied isFirst issues
  have leaves := guarded.vectored start trap records
  have arrived := refused.arrived (run.exOneUnit start) marker
  have flushing := denied.flushed.flushing
  have refuses : (run.state start).excEx run.params = true :=
    CoreState.excEx_of_pmpErr refused.denied
  have notReady : run.readyEx start = false := refused.notReady
  have ordered := isFirst.after
  have attached := guarded.earlier (guarded.attached_of_issues issues)
    (show start ≤ first by omega)
  obtain ⟨drained, settled⟩ := attached.drained_of_arrived arrived
  have drainedNext := drained_succ drained (.inl notReady)
  have isFlush : run.flushE (start + 1) = true := CoreState.flushE_of_flushing flushing
  have drainedLast := drained_succ drainedNext (.inr isFlush)
  have noIssueNext : run.issues (start + 1) = false :=
    CoreState.issues_of_flushD (CoreState.flushD_of_flushing flushing)
  have empty : run.EmptyPipe (start + 2) := by
    refine ⟨?_, drainedLast.1, drainedLast.2⟩
    have ready : run.readyEx (start + 1) = true := denied.readyEx allowed
    rw [show start + 2 = start + 1 + 1 from rfl, inEx_succ, noIssueNext, ready]
    rfl
  have epc : (run.state (start + 2)).csr.mepcQ = Csr.evenPc (run.state start).idEx.pcEx :=
    mepcQ_of_recorded arrived.pcWb denied.flushed.pcWb arrived.noCsr denied.flushed.noCsr
      (CoreState.idSignal_of_excEx refuses _) leaves.noWfi
      (arrived.excTaken (run.inputs start)) (denied.flushed.excTaken (run.inputs (start + 1)))
      records
  have begins := awaitsHandler_of_flush flushing leaves empty
  rw [epc] at begins
  have silent : (run.state (start + 1)).trapUpdate run.params (run.inputs (start + 1)) =
      Controller.noUpdate := by
    have notIdle : (run.state (start + 1)).fsm ≠ .idle := by
      rw [flushing]
      decide
    rw [denied.silent_update allowed (guarded.trapsGuarded.noError_of_notIdle notIdle)
      (guarded.deniedAlone start trap refused.denied allowed), leaves.noWfi]
    rfl
  obtain ⟨issue, inside⟩ := exists_inEx_of_access refused.access
  apply guarded.findsPrecise_of_begins (.inEx issue ((run.stagesHold start).pcEx issue inside).symm
    ⟨⟨trap, inside, refused.denied⟩, drained, settled, waiting_since inside refused.denied,
      silent⟩) begins (Nat.le_succ start) drained ?_ ?_ isFirst issues
  · intro cycle after upTo
    obtain rfl | rfl : cycle = start ∨ cycle = start + 1 := by omega
    · exact kept_of_drained (noIssue_of_notReadyEx notReady) drained arrived.noCsr
        (CoreState.idSignal_of_excEx refuses _)
    · exact kept_of_drained noIssueNext drainedNext denied.flushed.noCsr leaves.noMret
  · intro cycle after upTo _
    omega

end Denied

/-! ## The interrupt of a sleeping core -/

section Sleeps

variable {start wake first : Nat} (sleeps : run.Sleeps (start + 1) wake)

include sleeps

/-- Asleep nothing is behind ID. -/
theorem emptyPipe_of_sleeps {cycle : Nat} (after : start ≤ cycle) (before : cycle ≤ wake + 1) :
    run.EmptyPipe cycle := by
  have traps := guarded.trapsGuarded
  have trap : run.TakesTrap start :=
    takesTrap_iff.mpr (CoreState.taken_of_flush_step sleeps.flushing)
  have noIssue := traps.noIssue_of_sleeps sleeps
  obtain ⟨ex, mem, wb⟩ := drained_of_noIssue after
    (traps.waitingTrap_of_wfi trap sleeps.isWfi).drained.1
    fun between lower upper => noIssue between lower (by omega)
  exact ⟨ex, mem, wb⟩

/-- ID holds the `wfi`, then nothing. -/
theorem noMret_of_sleeps {cycle : Nat} (after : start ≤ cycle) (before : cycle ≤ wake) :
    run.isMret cycle = false := by
  have traps := guarded.trapsGuarded
  have noMretNext : run.isMret (start + 1) = false :=
    (CoreState.noDiversion_of_isWfi sleeps.isWfi).2
  obtain rfl | rfl | asleep : cycle = start ∨ cycle = start + 1 ∨ start + 2 ≤ cycle := by omega
  · have trap : run.TakesTrap cycle :=
      takesTrap_iff.mpr (CoreState.taken_of_flush_step sleeps.flushing)
    exact ((traps.waitingTrap_of_wfi trap sleeps.isWfi).heldThrough.idSignal_next
      Decoded.mretEn).symm.trans noMretNext
  · exact noMretNext
  · have noInstr := (sleeps.asleep traps.wakeGuarded cycle asleep before).2.noInstr
    cases isMret : run.isMret cycle with
    | false => rfl
    | true =>
        have valid := CoreState.instrValueId_of_exceptionTakenId
          (CoreState.exceptionTakenId_of_isMret isMret)
        rw [noInstr] at valid
        cases valid

/-- The controller updates nothing while the core sleeps. -/
theorem noUpdate_of_sleeps {cycle : Nat} (after : start + 2 ≤ cycle) (before : cycle < wake) :
    (run.state cycle).trapUpdate run.params (run.inputs cycle) = Controller.noUpdate := by
  have wakeGuarded := guarded.trapsGuarded.wakeGuarded
  obtain ⟨notIdle, asleep⟩ := sleeps.asleep wakeGuarded cycle after (Nat.le_of_lt before)
  exact CoreState.trapUpdate_of_notTaken
    (asleep.notTaken ((wakeGuarded cycle).noError notIdle))
    (sleeps.wakes.notBefore cycle after before)

theorem awaitsHandler_of_wakeup :
    run.AwaitsHandler (run.trapVector wake) (run.afterWfi (start + 1)) (wake + 1) := by
  have wakeGuarded := guarded.trapsGuarded.wakeGuarded
  have woken := sleeps.wakes.after
  obtain ⟨idle, awake, located⟩ := sleeps.awake wakeGuarded
  obtain ⟨-, asleep⟩ := sleeps.asleep wakeGuarded wake woken (Nat.le_refl wake)
  have sameVector : run.trapVector (wake + 1) = run.trapVector wake := by
    rw [trapVector, run.state_succ, CoreState.mtvecQ_step_of_noCsr asleep.empty.csr]
    rfl
  rw [sameVector] at located
  exact ⟨idle, guarded.emptyPipe_of_sleeps sleeps (by omega) (Nat.le_refl _), located, awake.mepc⟩

theorem findsPrecise_of_woken (isFirst : FirstFrom (run.HandlerOrTrap wake) (wake + 1) first)
    (issues : run.issues first = true) : run.FindsPrecise start wake first := by
  have traps := guarded.trapsGuarded
  have woken := sleeps.wakes.after
  have even : IsEven (run.afterWfi (start + 1)) :=
    isEven_add (traps.sleepsAlone sleeps.flushing sleeps.isWfi).even (by decide)
  have begins := guarded.awaitsHandler_of_wakeup sleeps
  rw [← evenPc_of_isEven even] at begins
  have empty := guarded.emptyPipe_of_sleeps sleeps (Nat.le_refl start) (by omega)
  apply guarded.findsPrecise_of_begins (.behindWfi (traps.awakeBefore_of_wakeup sleeps)) begins
    (by omega) ⟨empty.mem, empty.wb⟩ ?_ ?_ isFirst issues
  · intro cycle after upTo
    exact (guarded.emptyPipe_of_sleeps sleeps after (by omega)).kept
      (traps.noIssue_of_sleeps sleeps cycle after (by omega))
      (guarded.noMret_of_sleeps sleeps after upTo)
  · intro cycle after upTo updated
    obtain rfl | rfl | rfl | asleep : cycle = start ∨ cycle = start + 1 ∨ cycle = wake ∨
        (start + 2 ≤ cycle ∧ cycle < wake) := by omega
    · exact .inl rfl
    · exact .inr (.inl rfl)
    · exact .inr (.inr rfl)
    · exact (updated (guarded.noUpdate_of_sleeps sleeps asleep.1 asleep.2)).elim

end Sleeps

end PreciseGuarded

/-- In a guarded run traps are precise. -/
theorem trapsPrecise_of_guarded (run : CoreRun) (guarded : run.PreciseGuarded) :
    run.TrapsPrecise := by
  intro start entry first recorded isFirst issues
  cases recorded with
  | taken trap records next =>
      subst next
      have attached : run.Attached (start + 1) := by
        have after := isFirst.after
        exact guarded.earlier (guarded.attached_of_issues issues) (by omega)
      rcases attached.waits_or_refused guarded.inOrder guarded.second guarded.held
        (guarded.accesses start) trap with waiting | ⟨refused, marker⟩
      · exact guarded.findsPrecise_of_waiting trap records waiting isFirst issues
      · exact guarded.findsPrecise_of_refused trap records refused marker isFirst issues
  | woken sleeps => exact guarded.findsPrecise_of_woken sleeps isFirst issues

open Surroundings (enterUser)

/-- User code that stores a word, and loads one from outside of its region. -/
def userLoadDeniedAfterStore : Surroundings where
  program := Surroundings.programOf (enterUser ++
    [ 0x00002023#32, -- sw x0, 0(x0)
      0x08002083#32, -- lw x1, 128(x0)
      0x00100113#32 ]) -- addi x2, x0, 1
  rest := 18

theorem preciseGuarded_userLoadDeniedAfterStore :
    userLoadDeniedAfterStore.coreRun.PreciseGuarded := by
  have settled := userLoadDeniedAfterStore.forall_cycles_of_settled 23 (by decide)
    (fun _ _ => rfl) (by decide +kernel)
  have quiet := settled
    (fun st port next nextPort => (st.fsm = .idle ∧ st.marked = true →
        st.exceptionTakenId = false ∧ st.readyEx defaultParams port = true →
          st.irqTaken port = true) ∧
      (st.fsm ≠ .wakeup ∧ st.isWfi defaultParams port = false) ∧
      (st.takesTrap port = true →
        (st.mcauseUpdate defaultParams port = true →
          next.isFence defaultParams nextPort = false ∧
            next.isMret defaultParams nextPort = false) ∧
        (st.pmpErr = true → next.exceptionTakenId = false)))
    (by decide +kernel)
  have awake := fun cycle => (quiet cycle).2.1
  have flushed := fun cycle => (quiet cycle).2.2
  exact
    { inOrder := userLoadDeniedAfterStore.inOrder_dataBus.forget
      second := secondAfterFirst_of_surroundings userLoadDeniedAfterStore
      held := fun cycle idle marks plain ready => (quiet cycle).1 ⟨idle, marks⟩ ⟨plain, ready⟩
      wakesEmpty := fun cycle waking => absurd waking (awake cycle).1
      even := fun cycle _ isWfi => absurd (isWfi.symm.trans (awake cycle).2) (by decide)
      accesses := fun _ _ refuses => refuses
      vectored := fun cycle trap records => by
        obtain ⟨noFence, noMret⟩ := (flushed cycle trap).1 records
        exact ⟨noFence, noMret, (awake (cycle + 1)).2⟩
      deniedAlone := fun cycle trap denied _ exception => by
        have plain := (flushed cycle trap).2 denied
        cases raised : exception.raisedIn
            (userLoadDeniedAfterStore.coreRun.state (cycle + 1)) with
        | false => rfl
        | true =>
            rw [CoreState.exceptionTakenId_of_raisedIn raised] at plain
            cases plain }

/-- The trap of the load is taken in cycle 16, with the store before it finished, and the handler
issues in cycle 19. -/
theorem trapsPrecise_userLoadDeniedAfterStore :
    userLoadDeniedAfterStore.coreRun.TrapsPrecise ∧
      userLoadDeniedAfterStore.coreRun.FindsPrecise 16 17 19 := by
  have precise := trapsPrecise_of_guarded userLoadDeniedAfterStore.coreRun
    preciseGuarded_userLoadDeniedAfterStore
  have trap : userLoadDeniedAfterStore.coreRun.TakesTrap 16 :=
    (takesTrap_coreRun _ 16).mpr (by decide +kernel)
  exact ⟨precise, precise 16 17 19 (.taken trap (by decide +kernel) rfl) (by decide +kernel)
    (by decide +kernel)⟩

/-- A `wfi` in front of an instruction that reads and clears `mie`; the handler waits for the value
that it has read. -/
def sleepsBeforeCsr : Surroundings where
  program := Surroundings.programOf
    [ 0x80010093#32, -- addi x1, x2, -2048
      0x30409073#32, -- csrrw x0, mie, x1
      0x30046073#32, -- csrrsi x0, mstatus, 8
      0x10500073#32, -- wfi
      0x30401173#32 ] -- csrrw x2, mie, x0
  externIrq := fun cycle => decide (cycle = 11) || decide (cycle = 12)

/-- The interrupt wakes the core up in cycle 12, with the address of the last instruction in `mepc`,
but that instruction issues in cycle 13 and clears `mie` in cycle 14; the handler issues in
cycle 15. -/
theorem trapsPrecise_fails :
    ¬ ∀ (run : CoreRun) (program : Word → Word × Bool), run.params = defaultParams →
      run.WellConnected program → run.TrapsPrecise := by
  intro precise
  have sleeps : sleepsBeforeCsr.coreRun.Sleeps 10 12 :=
    ⟨by decide +kernel, by decide +kernel, by decide +kernel⟩
  have first : FirstFrom (sleepsBeforeCsr.coreRun.HandlerOrTrap 12) 13 15 := by decide +kernel
  have found := precise _ _ rfl sleepsBeforeCsr.wellConnected 9 12 15 (.woken sleeps) first
    (by decide +kernel)
  have kept := congrArg Csr.mieQ (found.kept 14 (by decide) (by decide)).csrs
  rw [Surroundings.state_coreRun, Surroundings.state_coreRun] at kept
  revert kept
  decide +kernel

end CoreRun

end RiscvCore
