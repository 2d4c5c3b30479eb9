import RiscvCore.AttachedMarkers
import RiscvCore.InterruptNesting
import RiscvCore.SplitFlush
import RiscvCore.WfiWakeup

/-!
# Interrupts as a whole

The marker of an interrupt says only that a line was high.  When it reaches the controller the
lines are looked at again, and once more the instruction in ID decides where the flush goes.  An
interrupt is recorded and followed by its handler where the two looks agree.
-/

namespace RiscvCore

open BusProtocol (InOrder)
open SynchronousRun (FirstFrom)

namespace Controller

variable {fsm : ControlFsm} {port : Input} {level : IrqLevel}

end Controller

namespace CoreState

variable {params : Params} {st : CoreState} {port : CoreInput} {level : IrqLevel}

/-- A trap records an interrupt and nothing else. -/
structure RecordsInterrupt (params : Params) (st : CoreState) (port : CoreInput) : Prop where
  update : st.trapUpdate params port =
    Controller.recorded (Controller.interruptCause (st.controllerInput params port))
  ready : st.readyEx params port = true
  interrupted : st.interruptTakenId params port = true
  noWfi : st.isWfi params port = false
  noError : st.reportsError port = false
  noTrap : ∀ trap : IdTrap, trap.raisedIn st = false

/-- A flush is that of a trap taken before. -/
theorem taken_of_flush_step (flush : (st.step params port).fsm = .excFlush) :
    st.fsm = .idle ∧ st.excTaken port = true := by
  cases fsm : st.fsm with
  | idle =>
      rw [fsm_step_idle fsm] at flush
      cases taken : st.excTaken port with
      | true => exact ⟨rfl, rfl⟩
      | false =>
          rw [taken] at flush
          cases flush
  | excFlush =>
      rw [fsm_step_excFlush fsm] at flush
      split at flush <;> cases flush
  | sleep =>
      rcases @fsm_step_sleep params _ port fsm with sleeps | wakes
      · rw [sleeps] at flush
        cases flush
      · rw [wakes] at flush
        cases flush
  | wakeup =>
      rw [fsm_step_wakeup fsm] at flush
      cases flush

/-- What EX refuses is recorded when its marker finds MEM ready. -/
theorem mcauseUpdate_of_excEx (taken : st.excTaken port = true)
    (ready : st.readyMem port = true) (refused : st.excEx params = true) :
    st.mcauseUpdate params port = true := by
  apply Controller.mcauseUpdate_iff.mpr
  refine .inl ⟨taken, ?_⟩
  rcases accessOrCsr_of_excEx refused with ⟨denied, access⟩ | ⟨-, checked, illegal⟩
  · have source : st.isPmpStoreErr port = true := by
      rw [isPmpStoreErr, ExStage.isPmpStoreErr, denied, ready, access]
      rfl
    simp only [controllerInput, source, true_or, or_true]
  · have source : st.isIllegalCsr params port = true := by
      rw [isIllegalCsr, checked, illegal, ready]
      rfl
    simp only [controllerInput, source, true_or, or_true]

/-- A `wfi` is neither a `fence.i` nor an `mret`. -/
theorem noDiversion_of_isWfi (isWfi : st.isWfi params port = true) :
    st.isFence params port = false ∧ st.isMret params port = false := by
  obtain ⟨kind, hasKind, -⟩ := exists_hasKind_decoder st.ifs.instrPayloadId st.ifs.instrValueId
  have isKind : st.decoded.wfiEn = decide (kind = some .wfi) := hasKind.wfi
  rw [(decoded_of_isWfi isWfi).2.2] at isKind
  have same := of_decide_eq_true isKind.symm
  have noFence : st.decoded.fenceEn = false := by
    rw [decoded, hasKind.fence, same]
    decide
  have noMret : st.decoded.mretEn = false := by
    rw [decoded, hasKind.mret, same]
    decide
  rw [isFence, isMret, idSignal, idSignal, noFence, noMret, Bool.and_false]
  exact ⟨rfl, rfl⟩

end CoreState

/-! ## Runs -/

namespace CoreRun

variable (run : CoreRun)

/-- ID holds back the instruction at `pc`, with every older one gone from the pipeline and from
the data bus. -/
structure HeldBack (cycle : Nat) (pc : Word) : Prop where
  valid : (run.state cycle).ifs.instrValueId = true
  isPc : (run.state cycle).ifs.pcId = pc
  drained : run.inEx cycle = none ∧ run.inMem cycle = none ∧ run.inWb cycle = none
  settled : run.opsInFlight cycle = []
  noIssue : run.issues cycle = false ∧ run.issues (cycle + 1) = false

/-- The core wakes up from a `wfi` with the pipeline and the data bus empty, and nothing has issued
behind it, least of all the instruction at `pc`. -/
structure AwakeBefore (cycle : Nat) (pc : Word) : Prop where
  sleeps : ∃ flush, run.Sleeps flush cycle ∧ run.afterWfi flush = pc ∧
    ∀ between, flush ≤ between → between ≤ cycle + 1 → run.issues between = false
  drained : run.inEx cycle = none ∧ run.inMem cycle = none ∧ run.inWb cycle = none
  settled : run.opsInFlight cycle = []

/-- An interrupt stays as long as its marker is on its way and the instruction could issue, a
`uret` is interrupted, an interrupt does not come up with the marker of a `fence.i` or `mret` or
go down on waking up, and no CSR instruction in EX writes `mepc` or `mcause` in a trap. -/
structure InterruptsGuarded : Prop where
  inOrder : InOrder (fun _ _ => True) run.dataBus
  second : ∀ last, run.SecondAfterFirst last
  held : ∀ cycle, (run.state cycle).InterruptHeld run.params (run.inputs cycle)
  uretTaken : ∀ cycle, run.TakesTrap cycle →
    (run.state cycle).idSignal run.params (run.inputs cycle) (run.state cycle).decoded.uretEn =
      true → (run.state cycle).irqTaken (run.inputs cycle) = true
  notDiverted : ∀ cycle, run.TakesTrap cycle →
    (run.state cycle).isFence run.params (run.inputs cycle) = true ∨ run.isMret cycle = true →
      (run.state cycle).irqTaken (run.inputs cycle) = false
  notReplaced : ∀ cycle, run.TakesTrap cycle →
    Csr.enable (run.state cycle).csrAccess mepc = false ∧
      Csr.enable (run.state cycle).csrAccess mcause = false
  refusedAwake : ∀ cycle, run.TakesTrap cycle → (run.state cycle).excEx run.params = true →
    (run.state (cycle + 1)).isWfi run.params (run.inputs (cycle + 1)) = false
  even : ∀ cycle, run.TakesTrap cycle →
    (run.state cycle).isInterrupt run.params (run.inputs cycle) = true ∨
      (run.state cycle).isWfi run.params (run.inputs cycle) = true →
        IsEven (run.state cycle).ifs.pcId
  wakesTaken : ∀ cycle, (run.state cycle).fsm = .wakeup →
    (run.state cycle).irqTaken (run.inputs cycle) = true
  wakesEmpty : run.WakesEmpty

/-- The part of it that keeps every trap and every sleep in order, whatever they record. -/
structure TrapsGuarded : Prop where
  inOrder : InOrder (fun _ _ => True) run.dataBus
  second : ∀ last, run.SecondAfterFirst last
  held : ∀ cycle, (run.state cycle).InterruptHeld run.params (run.inputs cycle)
  refusedAwake : ∀ cycle, run.TakesTrap cycle → (run.state cycle).excEx run.params = true →
    (run.state (cycle + 1)).isWfi run.params (run.inputs (cycle + 1)) = false
  even : ∀ cycle, run.TakesTrap cycle →
    (run.state cycle).isWfi run.params (run.inputs cycle) = true →
      IsEven (run.state cycle).ifs.pcId
  wakesEmpty : run.WakesEmpty

variable {run}

theorem InterruptsGuarded.trapsGuarded (guarded : run.InterruptsGuarded) : run.TrapsGuarded where
  inOrder := guarded.inOrder
  second := guarded.second
  held := guarded.held
  refusedAwake := guarded.refusedAwake
  even cycle trap isWfi := guarded.even cycle trap (.inr isWfi)
  wakesEmpty := guarded.wakesEmpty

/-- As long as nothing issues a drained pipeline stays so. -/
theorem drained_of_noIssue {first last : Nat} (before : first ≤ last)
    (drained : run.inEx first = none ∧ run.inMem first = none ∧ run.inWb first = none)
    (noIssue : ∀ between, first ≤ between → between < last → run.issues between = false) :
    run.inEx last = none ∧ run.inMem last = none ∧ run.inWb last = none := by
  induction before with
  | refl => exact drained
  | @step cycle after induction =>
      obtain ⟨ex, mem, wb⟩ := induction fun between later upTo =>
        noIssue between later (Nat.lt_succ_of_lt upTo)
      have blocked := noIssue cycle after (Nat.lt_succ_self cycle)
      rw [inEx_succ, inMem_succ, inWb_succ, ex, mem, wb, blocked, if_neg Bool.false_ne_true]
      simp only [ite_self, and_self]

/-- A trap taken for the instruction that waits in ID, with what follows in the flush. -/
structure WaitingTrap (run : CoreRun) (taken : Nat) : Prop where
  attached : run.Attached taken
  waiting : (run.state taken).AwaitsTrap (run.inputs taken)
  noError : (run.state taken).reportsError (run.inputs taken) = false
  heldThrough : run.HeldThrough (run.state taken).ifs.shown taken
  noIssue : (run.state taken).readyId run.params (run.inputs taken) = false

theorem Attached.trap_cases {taken : Nat} (attached : run.Attached taken)
    (held : (run.state taken).InterruptHeld run.params (run.inputs taken))
    (trap : run.TakesTrap taken) :
    (run.state taken).reportsError (run.inputs taken) = true ∨
      ((run.state taken).excEx run.params = true ∧
        (run.state taken).readyMem (run.inputs taken) = true) ∨ run.WaitingTrap taken := by
  obtain ⟨idle, isTaken⟩ := takesTrap_iff.mp trap
  cases error : (run.state taken).reportsError (run.inputs taken) with
  | true => exact .inl rfl
  | false =>
      have marker : (run.state taken).memWb.excTakenWb = true :=
        (CoreState.excTaken_of_noError error).symm.trans isTaken
      have marks : (run.state taken).marked = true := by
        rw [CoreState.marked, marker, Bool.or_true]
      right
      rcases attached.markers.idle idle marks with waiting | refused
      · have noIssue := waiting.readyId held marks
        exact .inr ⟨attached, waiting, error,
          heldThrough_of_markersOf waiting.toMarkersOf noIssue marker, noIssue⟩
      · obtain ⟨noMem, noWb⟩ := attached.tracked.behind.wb marker
        exact .inl ⟨refused, CoreState.readyMem_of_noAccess (CoreState.readyWb_of_noAccess noWb)
          noMem⟩

namespace TrapsGuarded

variable (guarded : run.TrapsGuarded)

include guarded

theorem attached {cycle : Nat} (trap : run.TakesTrap cycle) : run.Attached cycle :=
  attached_of_taken guarded.inOrder guarded.second guarded.held (takesTrap_iff.mp trap).2

theorem noError_of_notIdle {cycle : Nat} (notIdle : (run.state cycle).fsm ≠ .idle) :
    (run.state cycle).reportsError (run.inputs cycle) = false :=
  CoreRun.noError_of_notIdle guarded.inOrder guarded.second guarded.held notIdle

/-- A trap is that of a bus error, of what EX refuses, or of the instruction in ID. -/
theorem trap_cases {taken : Nat} (trap : run.TakesTrap taken) :
    (run.state taken).reportsError (run.inputs taken) = true ∨
      ((run.state taken).excEx run.params = true ∧
        (run.state taken).readyMem (run.inputs taken) = true) ∨ run.WaitingTrap taken :=
  (guarded.attached trap).trap_cases (guarded.held taken) trap

end TrapsGuarded

section HeldThrough

variable {shown : Shown} {taken : Nat} (held : run.HeldThrough shown taken)

include held

theorem HeldThrough.shown_next :
    (run.state (taken + 1)).ifs.shown = (run.state taken).ifs.shown :=
  held.sameNext.trans held.same.symm

/-- In the flush ID shows the controller what it showed in the trap. -/
theorem HeldThrough.idSignal_next (enable : Decoded → Bool) :
    (run.state (taken + 1)).idSignal run.params (run.inputs (taken + 1))
        (enable (run.state (taken + 1)).decoded) =
      (run.state taken).idSignal run.params (run.inputs taken)
        (enable (run.state taken).decoded) := by
  have fault : (run.state (taken + 1)).ifs.instrFetchError =
      (run.state taken).ifs.instrFetchError :=
    congrArg Shown.instrFetchError held.shown_next
  rw [CoreState.idSignal, CoreState.idSignal, held.ready, held.readyNext, fault,
    CoreState.decoded_of_shown held.shown_next]

end HeldThrough

section WaitingTrap

variable {taken : Nat} (trap : run.WaitingTrap taken)

include trap

theorem WaitingTrap.flushing : (run.state (taken + 1)).fsm = .excFlush :=
  trap.heldThrough.flushed.flushing

/-- When the trap is taken every older instruction has left the pipeline and the data bus. -/
theorem WaitingTrap.drained :
    (run.inEx taken = none ∧ run.inMem taken = none ∧ run.inWb taken = none) ∧
      run.opsInFlight taken = [] := by
  have arrived := trap.heldThrough.arrived
  have inEx := (trap.waiting.mem arrived.inMem).1
  obtain ⟨⟨mem, wb⟩, settled⟩ := trap.attached.drained_of_arrived arrived
  exact ⟨⟨trap.attached.hollow.ex inEx, mem, wb⟩, settled⟩

/-- The instruction issues neither in the trap nor in the flush. -/
theorem WaitingTrap.notIssued : run.issues taken = false ∧ run.issues (taken + 1) = false :=
  ⟨CoreState.issues_of_blocked (.inl trap.noIssue),
    CoreState.issues_of_flushD (CoreState.flushD_of_flushing trap.flushing)⟩

theorem WaitingTrap.heldBack : run.HeldBack taken (run.state taken).ifs.pcId where
  valid := trap.waiting.valid
  isPc := rfl
  drained := trap.drained.1
  settled := trap.drained.2
  noIssue := trap.notIssued

/-- The flush behind a recorded interrupt records nothing more. -/
theorem WaitingTrap.trapUpdate_next
    (noErrorNext : (run.state (taken + 1)).reportsError (run.inputs (taken + 1)) = false)
    (records : (run.state taken).RecordsInterrupt run.params (run.inputs taken)) :
    (run.state (taken + 1)).trapUpdate run.params (run.inputs (taken + 1)) =
      CoreState.silentUpdate false := by
  have held := trap.heldThrough
  have noWfi : (run.state (taken + 1)).isWfi run.params (run.inputs (taken + 1)) = false :=
    (held.idSignal_next Decoded.wfiEn).trans records.noWfi
  have noTrap (other : IdTrap) : other.raisedIn (run.state (taken + 1)) = false :=
    (CoreState.raisedIn_of_shown held.shown_next).trans (records.noTrap other)
  rw [CoreState.trapUpdate_of_silent (held.flushed.excTaken (run.inputs (taken + 1)))
    (CoreState.flushD_of_flushing trap.flushing)
    (CoreState.pmpErr_of_noAccess held.emptyNext.lsu)
    (CoreState.isIllegalCsr_of_noCsr held.emptyNext.csr) noErrorNext noTrap, noWfi]

/-- A recorded interrupt has the address of the instruction, which the flush leaves alone. -/
theorem WaitingTrap.mepcQ_of_interrupt
    (noErrorNext : (run.state (taken + 1)).reportsError (run.inputs (taken + 1)) = false)
    (even : IsEven (run.state taken).ifs.pcId)
    (records : (run.state taken).RecordsInterrupt run.params (run.inputs taken)) :
    (run.state (taken + 2)).csr.mepcQ = (run.state taken).ifs.pcId := by
  have held := trap.heldThrough
  have updates : (run.state taken).mepcUpdata run.params (run.inputs taken) = true := by
    rw [CoreState.mepcUpdata, records.update]
    rfl
  have recorded : (run.state (taken + 1)).csr.mepcQ = (run.state taken).ifs.pcId := by
    rw [run.state_succ, CoreState.mepcQ_step_of_updated
      (CoreState.enable_of_noCsr held.empty.csr mepc) updates, records.update]
    change Csr.evenPc (run.state taken).memWb.pcWb = _
    rw [held.arrived.pcWb]
    exact evenPc_of_isEven even
  have silent : (run.state (taken + 1)).mepcUpdata run.params (run.inputs (taken + 1)) =
      false := by
    rw [CoreState.mepcUpdata, trap.trapUpdate_next noErrorNext records]
    rfl
  rw [show taken + 2 = taken + 1 + 1 from rfl, run.state_succ,
    CoreState.mepcQ_step_of_spared held.emptyNext.csr silent, recorded]

end WaitingTrap

namespace TrapsGuarded

variable (guarded : run.TrapsGuarded)

include guarded

theorem stuck_succ_of_error {cycle : Nat} (trap : run.TakesTrap cycle)
    (error : (run.state cycle).reportsError (run.inputs cycle) = true) : run.Stuck (cycle + 1) := by
  apply (guarded.attached trap).tracked.stuck_succ guarded.inOrder
  rw [CoreState.busError, (takesTrap_iff.mp trap).1]
  exact error

/-- A `wfi` goes to sleep in the flush of its own trap. -/
theorem waitingTrap_of_wfi {taken : Nat} (trap : run.TakesTrap taken)
    (isWfi : (run.state (taken + 1)).isWfi run.params (run.inputs (taken + 1)) = true) :
    run.WaitingTrap taken := by
  rcases guarded.trap_cases trap with error | ⟨refused, -⟩ | waitingTrap
  · have notReady := (guarded.stuck_succ_of_error trap error).notReadyEx guarded.inOrder
    have ready : run.readyEx (taken + 1) = true := (CoreState.decoded_of_isWfi isWfi).1
    rw [notReady] at ready
    cases ready
  · rw [guarded.refusedAwake taken trap refused] at isWfi
    cases isWfi
  · exact waitingTrap

theorem sleepsAlone {flush : Nat} (flushing : (run.state flush).fsm = .excFlush)
    (isWfi : (run.state flush).isWfi run.params (run.inputs flush) = true) :
    (run.state flush).SleepsAlone (run.inputs flush) := by
  cases flush with
  | zero => cases flushing
  | succ taken =>
      have notIdle : (run.state (taken + 1)).fsm ≠ .idle := by
        rw [flushing]
        decide
      have trap : run.TakesTrap taken := takesTrap_iff.mpr (CoreState.taken_of_flush_step flushing)
      have held := (guarded.waitingTrap_of_wfi trap isWfi).heldThrough
      have wasWfi : (run.state taken).isWfi run.params (run.inputs taken) = true :=
        (held.idSignal_next Decoded.wfiEn).symm.trans isWfi
      have even := guarded.even taken trap wasWfi
      rw [← show (run.state (taken + 1)).ifs.pcId = (run.state taken).ifs.pcId from
        congrArg Shown.pcId held.shown_next] at even
      exact ⟨held.flushed.inWb, guarded.noError_of_notIdle notIdle,
        CoreState.enable_of_noCsr held.emptyNext.csr mepc, even⟩

theorem wakeGuarded : run.WakeGuarded := by
  intro cycle
  refine ⟨fun flushing isWfi => guarded.sleepsAlone flushing isWfi, ?_, guarded.wakesEmpty cycle⟩
  intro asleep
  apply guarded.noError_of_notIdle
  rcases asleep with sleeps | wakes
  · rw [sleeps]
    decide
  · rw [wakes]
    decide

/-- From the trap of a `wfi` to its wake-up nothing issues. -/
theorem noIssue_of_sleeps {taken wake : Nat} (sleeps : run.Sleeps (taken + 1) wake) :
    ∀ between, taken ≤ between → between ≤ wake + 1 → run.issues between = false := by
  intro between after before
  have trap : run.TakesTrap taken :=
    takesTrap_iff.mpr (CoreState.taken_of_flush_step sleeps.flushing)
  have waitingTrap := guarded.waitingTrap_of_wfi trap sleeps.isWfi
  rcases Nat.eq_or_lt_of_le after with rfl | inFlush
  · exact waitingTrap.notIssued.1
  · rcases Nat.eq_or_lt_of_le inFlush with rfl | later
    · exact waitingTrap.notIssued.2
    · rcases Nat.eq_or_lt_of_le before with rfl | earlier
      · exact (sleeps.awake guarded.wakeGuarded).2.1.noIssue
      · exact (sleeps.asleep guarded.wakeGuarded between later (by omega)).2.noIssue

/-- Asleep the data bus has nothing to answer. -/
theorem opsInFlight_of_asleep {cycle : Nat}
    (asleep : (run.state cycle).fsm = .sleep ∨ (run.state cycle).fsm = .wakeup)
    (emptyMem : run.inMem cycle = none) : run.opsInFlight cycle = [] := by
  rcases attached_or_stuck guarded.inOrder guarded.second guarded.held cycle with attached | stuck
  · have noAccess : (run.state cycle).memWb.lsuEnWb = false := by
      cases access : (run.state cycle).memWb.lsuEnWb with
      | false => rfl
      | true =>
          have idle := attached.tracked.idle_of_access access
          rw [idle] at asleep
          rcases asleep with sleeps | wakes <;> contradiction
    rcases attached.tracked.notInWb noAccess with none | ⟨split, -⟩
    · exact none
    · have access := (attached.tracked.behind.owned split).1
      rw [((run.stagesHold cycle).mem emptyMem).1] at access
      cases access
  · exact stuck.none

theorem awakeBefore_of_wakeup {flush wake : Nat} (sleeps : run.Sleeps flush wake) :
    run.AwakeBefore wake (run.afterWfi flush) := by
  cases flush with
  | zero => cases sleeps.flushing
  | succ taken =>
      have trap : run.TakesTrap taken :=
        takesTrap_iff.mpr (CoreState.taken_of_flush_step sleeps.flushing)
      have noIssue := guarded.noIssue_of_sleeps sleeps
      have before : taken ≤ wake := Nat.le_of_lt (Nat.lt_of_succ_lt sleeps.wakes.after)
      have drained := drained_of_noIssue before
        (guarded.waitingTrap_of_wfi trap sleeps.isWfi).drained.1
        fun between after upTo => noIssue between after (Nat.le_succ_of_le (Nat.le_of_lt upTo))
      refine ⟨⟨taken + 1, sleeps, rfl, ?_⟩, drained,
        guarded.opsInFlight_of_asleep (.inr sleeps.wakes.happens) drained.2.1⟩
      exact fun between after => noIssue between (Nat.le_of_succ_le after)
end TrapsGuarded

namespace InterruptsGuarded

variable (guarded : run.InterruptsGuarded)

include guarded

end InterruptsGuarded

open Surroundings (heldIrq withdrawnIrq)

end CoreRun

end RiscvCore
