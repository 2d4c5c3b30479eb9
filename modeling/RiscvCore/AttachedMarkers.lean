import RiscvCore.RetireTrace
import RiscvCore.TrapEntry

/-!
# What a marker is attached to

With interrupts, denied accesses and errors on the data bus.  A marker belongs to the instruction
that waits in ID in front of an empty EX, or to the one that EX refuses.  An instruction that
waits for an interrupt is held only as long as the interrupt is there: it must be taken in every
cycle in which the instruction could issue.
-/

namespace RiscvCore

open BusProtocol (InOrder)

namespace CoreState

variable {params : Params} {st : CoreState} {port later : CoreInput}

/-- The instruction in ID waits for its trap behind an empty EX, and every marker is its own. -/
structure AwaitsTrap (st : CoreState) (port : CoreInput) : Prop
    extends MarkersOf st.ifs.shown st port where
  valid : st.ifs.instrValueId = true
  known : st.readRfBusy port = false
  empty : st.idEx.Empty

/-- Each marker is attached to an instruction in ID or EX, and none is left asleep. -/
structure MarkersAttached (params : Params) (st : CoreState) (port : CoreInput) : Prop where
  ex : st.idEx.excTakenEx = true → st.idEx.Empty
  idle : st.fsm = .idle → st.marked = true → st.AwaitsTrap port ∨ st.excEx params = true
  asleep : st.fsm = .sleep ∨ st.fsm = .wakeup → st.marked = false ∧ st.idEx.Empty

/-- An instruction that waits for an interrupt and could issue finds the interrupt taken. -/
def InterruptHeld (params : Params) (st : CoreState) (port : CoreInput) : Prop :=
  st.fsm = .idle → st.marked = true → st.exceptionTakenId = false →
    st.readyEx params port = true → st.irqTaken port = true

theorem noFetchError_of_noException (valid : st.ifs.instrValueId = true)
    (plain : st.exceptionTakenId = false) : st.ifs.instrFetchError = false := by
  cases fault : st.ifs.instrFetchError with
  | false => rfl
  | true =>
      rw [exceptionTakenId, IdStage.exceptionTakenId, IdStage.instrAcsFault, valid, fault] at plain
      simp at plain

section AwaitsTrap

variable (waiting : st.AwaitsTrap port)

include waiting

theorem AwaitsTrap.flushD : st.flushD = false :=
  flushD_of_idle waiting.idle (branchJump_of_empty waiting.empty)

theorem AwaitsTrap.validId : st.validId params port = st.readyEx params port := by
  rw [CoreState.validId, stallId, waiting.known, stall_of_idle waiting.idle, waiting.valid]
  rw [Bool.or_self, Bool.not_false, Bool.true_and, Bool.and_true]

/-- A ready EX lets an interrupt be taken. -/
theorem AwaitsTrap.interruptTakenId : st.interruptTakenId params port =
    (st.irqTaken port && st.readyEx params port && !st.ifs.instrFetchError) := by
  rw [CoreState.interruptTakenId, waiting.flushD, waiting.validId, Bool.not_false, Bool.true_and]

theorem AwaitsTrap.readyEx (divider : st.DividerOwned) :
    st.readyEx params port = st.readyMem port :=
  readyEx_of_empty divider waiting.empty (stall_of_idle waiting.idle)

/-- The instruction does not leave ID. -/
theorem AwaitsTrap.readyId (held : st.InterruptHeld params port) (marks : st.marked = true) :
    st.readyId params port = false := by
  cases plain : st.exceptionTakenId with
  | true => exact readyId_of_exception plain
  | false =>
      cases ready : st.readyEx params port with
      | false => rw [CoreState.readyId, ready, Bool.and_false, Bool.false_and]
      | true =>
          have taken : st.interruptTakenId params port = true := by
            rw [waiting.interruptTakenId, held waiting.idle marks plain ready, ready,
              noFetchError_of_noException waiting.valid plain]
            rfl
          rw [CoreState.readyId, excTakenId, taken, Bool.or_true, Bool.not_true, Bool.and_false]

end AwaitsTrap

/-- What stays in ID waits from the next cycle on. -/
theorem waiting_step (markers : st.MarkersOf st.ifs.shown port)
    (valid : st.ifs.instrValueId = true) (known : st.readRfBusy port = false)
    (empties : st.readyEx params port = true ∨ st.idEx.Empty)
    (noIssue : st.readyId params port = false) (divider : st.DividerOwned)
    (accessOnly : st.ExAccessOnly) (noBranch : st.branchJump = false)
    (noException : st.excEx params = false) (noTrap : st.excTaken port = false) :
    (st.step params port).AwaitsTrap later := by
  have held : (st.step params port).ifs.shown = st.ifs.shown :=
    shown_step_of_held markers.idle noBranch noIssue
  have next : (st.step params port).MarkersOf (st.step params port).ifs.shown later := by
    rw [held]
    exact markers.step valid noIssue divider accessOnly noBranch noException noTrap
  refine ⟨next, (congrArg Shown.instrValueId held).trans valid, ?_, ?_⟩
  · exact readRfBusy_step markers.idle next.idle noIssue noException accessOnly
      (decoded_of_shown held) known
  · rcases empties with ready | empty
    · exact empty_step_of_readyEx ready (.inl noIssue)
    · exact empty_step_of_noIssue empty (.inl noIssue)

/-- Only a load or store is denied, and only a CSR instruction illegal. -/
theorem accessOrCsr_of_excEx (refused : st.excEx params = true) :
    (st.pmpErr = true ∧ st.idEx.lsuEnEx = true) ∨
      (st.pmpErr = false ∧ params.illegalCsrEn = true ∧ st.illegalCsr = true) := by
  cases denied : st.pmpErr with
  | true =>
      refine .inl ⟨rfl, ?_⟩
      cases access : st.idEx.lsuEnEx with
      | true => rfl
      | false =>
          rw [pmpErr_of_noAccess access] at denied
          cases denied
  | false =>
      rw [excEx_of_allowed denied, Bool.and_eq_true] at refused
      exact .inr ⟨rfl, refused⟩

/-- What EX refuses it refuses up to the trap. -/
theorem excEx_step_of_refused (oneUnit : st.ExOneUnit) (idle : st.fsm = .idle)
    (noTrap : st.excTaken port = false) (refused : st.excEx params = true) :
    (st.step params port).excEx params = true := by
  have held : st.readyEx params port = false := readyEx_of_excEx refused
  rcases accessOrCsr_of_excEx refused with ⟨denied, access⟩ | ⟨-, checked, illegal⟩
  · apply excEx_of_pmpErr
    rw [pmpErr_step_of_held idle noTrap held (oneUnit.csrEnEx_of_access access), denied]
  · have stays := illegalCsr_step_of_held held (privilegeModeQ_step_of_held idle noTrap held)
    rw [excEx, if_pos checked, stays, illegal, Bool.true_or]

section Step

variable (attached : st.MarkersAttached params port) (held : st.InterruptHeld params port)

include attached held

theorem MarkersAttached.readyId (idle : st.fsm = .idle) (marks : st.marked = true) :
    st.readyId params port = false := by
  rcases attached.idle idle marks with waiting | refused
  · exact waiting.readyId held marks
  · rw [CoreState.readyId, readyEx_of_excEx refused, Bool.and_false, Bool.false_and]

variable (noInstrAsleep : st.NoInstrAsleep)

include noInstrAsleep

/-- With a marker in EX nothing issues. -/
theorem MarkersAttached.noIssue (marker : st.idEx.excTakenEx = true) :
    st.issues params port = false := by
  cases fsm : st.fsm with
  | idle =>
      have marks : st.marked = true := by rw [marked, marker, Bool.true_or, Bool.true_or]
      exact issues_of_blocked (.inl (attached.readyId held fsm marks))
  | excFlush => exact issues_of_flushD (flushD_of_flushing fsm)
  | sleep => exact issues_of_stall (stall_of_sleep fsm)
  | wakeup => exact issues_of_noInstr (noInstrAsleep (.inr fsm))

theorem MarkersAttached.noneBehind : st.accessBehindMarker params port = false := by
  cases marker : st.idEx.excTakenEx with
  | false =>
      rw [accessBehindMarker, marker]
      rfl
  | true =>
      rw [accessBehindMarker, attached.noIssue held noInstrAsleep marker, Bool.and_false,
        Bool.false_and]

theorem ex_step_of_attached (marker : (st.step params port).idEx.excTakenEx = true) :
    (st.step params port).idEx.Empty := by
  rcases marker_of_excTakenEx_step marker with ⟨-, -, was⟩ | ⟨valid, -, was | sets⟩
  · exact empty_step_of_notIssued (attached.ex was) (attached.noIssue held noInstrAsleep was)
  · exact empty_step_of_notIssued (attached.ex was) (attached.noIssue held noInstrAsleep was)
  · refine empty_step_of_readyEx (readyEx_of_validId valid) (.inl ?_)
    rw [CoreState.readyId, sets, Bool.not_true, Bool.and_false]

omit held noInstrAsleep

/-- A flush that MEM does not hold up leaves no marker. -/
theorem unmarked_step_of_attached (divider : st.DividerOwned) (flushing : st.fsm = .excFlush)
    (ready : st.readyMem port = true) : (st.step params port).marked = false := by
  apply unmarked_step_of_flushing flushing ready
  intro marker
  rw [readyEx_of_empty divider (attached.ex marker) (stall_of_flushing flushing), ready]

omit attached in
/-- The marker of an instruction in ID finds it waiting in the next cycle. -/
theorem waiting_step_of_sets (idle : st.fsm = .idle) (unmarked : st.marked = false)
    (divider : st.DividerOwned) (accessOnly : st.ExAccessOnly)
    (noTrap : st.excTaken port = false) (valid : st.validId params port = true)
    (noFlush : st.flushD = false) (sets : st.excTakenId params port = true) :
    (st.step params port).AwaitsTrap later := by
  have ready : st.readyEx params port = true := readyEx_of_validId valid
  have hasInstr : st.ifs.instrValueId = true := by
    rw [validId, Bool.and_eq_true] at valid
    exact valid.2
  have noIssue : st.readyId params port = false := by
    rw [CoreState.readyId, sets, Bool.not_true, Bool.and_false]
  rw [flushD, Bool.or_eq_false_iff] at noFlush
  have noException : st.excEx params = false := by
    rw [readyEx_eq, Bool.and_eq_true, Bool.not_eq_true'] at ready
    exact ready.2
  exact waiting_step (markersOf_of_unmarked idle unmarked port) hasInstr
    (readRfBusy_of_validId valid) (.inl ready) noIssue divider accessOnly noFlush.2 noException
    noTrap

include held noInstrAsleep

theorem idle_step_of_attached (divider : st.DividerOwned) (accessOnly : st.ExAccessOnly)
    (oneUnit : st.ExOneUnit) (readyFlush : st.fsm = .excFlush → st.readyMem port = true)
    (idleNext : (st.step params port).fsm = .idle)
    (marks : (st.step params port).marked = true) :
    (st.step params port).AwaitsTrap later ∨ (st.step params port).excEx params = true := by
  cases fsm : st.fsm with
  | idle =>
      have noTrap : st.excTaken port = false := by
        rw [fsm_step_idle fsm] at idleNext
        cases trap : st.excTaken port with
        | false => rfl
        | true =>
            rw [trap] at idleNext
            cases idleNext
      cases was : st.marked with
      | true =>
          rcases attached.idle fsm was with waiting | refused
          · exact .inl (waiting_step waiting.toMarkersOf waiting.valid waiting.known
              (.inr waiting.empty) (waiting.readyId held was) divider accessOnly
              (branchJump_of_empty waiting.empty) (excEx_of_empty waiting.empty) noTrap)
          · exact .inr (excEx_step_of_refused oneUnit fsm noTrap refused)
      | false =>
          rcases marked_of_marked_step marks with isMarked | ⟨valid, noFlush, sets⟩ | refused
          · rw [was] at isMarked
            cases isMarked
          · exact .inl (waiting_step_of_sets fsm was divider accessOnly noTrap valid noFlush sets)
          · exact .inr (excEx_step_of_refused oneUnit fsm noTrap refused)
  | excFlush =>
      rw [unmarked_step_of_attached attached divider fsm (readyFlush fsm)] at marks
      cases marks
  | sleep =>
      rcases @fsm_step_sleep params _ port fsm with sleeps | wakes
      · rw [sleeps] at idleNext
        cases idleNext
      · rw [wakes] at idleNext
        cases idleNext
  | wakeup =>
      obtain ⟨unmarked, empty⟩ := attached.asleep (.inr fsm)
      rw [unmarked_step_of_empty unmarked empty] at marks
      · cases marks
      · rw [validId, noInstrAsleep (.inr fsm), Bool.and_false]

theorem MarkersAttached.step (behind : st.NoAccessBehindMarker) (divider : st.DividerOwned)
    (accessOnly : st.ExAccessOnly) (oneUnit : st.ExOneUnit) :
    (st.step params port).MarkersAttached params later := by
  have readyFlush (flushing : st.fsm = .excFlush) : st.readyMem port = true := by
    rw [readyMem_of_flushing flushing]
    exact readyWb_of_noAccess (behind.flushing flushing).2
  exact ⟨ex_step_of_attached attached held noInstrAsleep,
    idle_step_of_attached attached held noInstrAsleep divider accessOnly oneUnit readyFlush,
    drainedAsleep_step attached.asleep⟩

end Step

theorem markersAttached_reset (params : Params) (bootAddr : Word) (port : CoreInput) :
    (reset bootAddr).MarkersAttached params port where
  ex := fun marker => by cases marker
  idle := fun _ marks => by cases marks
  asleep := fun asleep => by rcases asleep with asleep | waking <;> contradiction

end CoreState

namespace CoreRun

variable {run : CoreRun}

/-- A marker takes the place of an instruction. -/
structure MarkersHollow (run : CoreRun) (cycle : Nat) : Prop where
  ex : (run.state cycle).idEx.excTakenEx = true → run.inEx cycle = none
  mem : (run.state cycle).exMem.excTakenMem = true → run.inMem cycle = none
  wb : (run.state cycle).memWb.excTakenWb = true → run.inWb cycle = none

theorem MarkersHollow.succ {cycle : Nat} (hollow : run.MarkersHollow cycle)
    (noIssue : (run.state cycle).idEx.excTakenEx = true → run.issues cycle = false) :
    run.MarkersHollow (cycle + 1) where
  ex := by
    intro marker
    rw [run.state_succ] at marker
    rw [inEx_succ]
    rcases CoreState.marker_of_excTakenEx_step marker with ⟨-, -, was⟩ | ⟨valid, -, was | sets⟩
    · rw [noIssue was, hollow.ex was, if_neg Bool.false_ne_true, ite_self]
    · rw [noIssue was, hollow.ex was, if_neg Bool.false_ne_true, ite_self]
    · have blocked : run.issues cycle = false := by
        apply CoreState.issues_of_blocked
        left
        rw [CoreState.readyId, sets, Bool.not_true, Bool.and_false]
      have ready : run.readyEx cycle = true := CoreState.readyEx_of_validId valid
      rw [blocked, ready, if_neg Bool.false_ne_true, if_pos rfl]
  mem := by
    intro marker
    rw [run.state_succ, CoreState.excTakenMem_step] at marker
    rw [inMem_succ]
    cases readyMem : run.readyMem cycle with
    | false =>
        have notReady := readyEx_of_notReadyMem readyMem
        have isNot : (run.state cycle).readyMem (run.inputs cycle) = false := readyMem
        rw [isNot] at marker
        rw [notReady, hollow.mem marker]
        rfl
    | true =>
        have isReady : (run.state cycle).readyMem (run.inputs cycle) = true := readyMem
        rw [isReady, if_pos rfl, Bool.and_eq_true, Bool.or_eq_true] at marker
        rcases marker.2 with was | refused
        · rw [hollow.ex was, if_pos rfl, ite_self]
        · have notReady : run.readyEx cycle = false := CoreState.readyEx_of_excEx refused
          rw [notReady, if_pos rfl]
          rfl
  wb := by
    intro marker
    rw [run.state_succ, CoreState.excTakenWb_step] at marker
    rw [inWb_succ, validMem_eq_readyMem]
    cases readyWb : run.readyWb cycle with
    | false =>
        have notReady := readyMem_of_notReadyWb readyWb
        have isNot : (run.state cycle).readyWb (run.inputs cycle) = false := readyWb
        rw [isNot] at marker
        rw [notReady, hollow.wb marker]
        rfl
    | true =>
        have isReady : (run.state cycle).readyWb (run.inputs cycle) = true := readyWb
        rw [isReady, if_pos rfl, Bool.and_eq_true] at marker
        rw [hollow.mem marker.2, if_pos rfl, ite_self]

/-- What holds of the markers up to an error on the data bus. -/
structure Attached (run : CoreRun) (cycle : Nat) : Prop where
  tracked : run.Tracked cycle
  markers : (run.state cycle).MarkersAttached run.params (run.inputs cycle)
  hollow : run.MarkersHollow cycle

theorem Attached.succ (inOrder : InOrder (fun _ _ => True) run.dataBus)
    (second : ∀ last, run.SecondAfterFirst last) {cycle : Nat} (attached : run.Attached cycle)
    (held : (run.state cycle).InterruptHeld run.params (run.inputs cycle))
    (noError : (run.state cycle).busError (run.inputs cycle) = false) :
    run.Attached (cycle + 1) := by
  have asleep := run.noInstrAsleep cycle
  have noneBehind := attached.markers.noneBehind held asleep
  refine ⟨attached.tracked.succ inOrder second noneBehind noError, ?_,
    attached.hollow.succ (attached.markers.noIssue held asleep)⟩
  rw [run.state_succ]
  exact attached.markers.step held asleep attached.tracked.behind (run.dividerOwned cycle)
    (run.exAccessOnly cycle) (run.exOneUnit cycle)

/-- The markers are attached up to an error on the data bus, after which WB waits for ever. -/
theorem attached_or_stuck (inOrder : InOrder (fun _ _ => True) run.dataBus)
    (second : ∀ last, run.SecondAfterFirst last)
    (held : ∀ cycle, (run.state cycle).InterruptHeld run.params (run.inputs cycle)) (cycle : Nat) :
    run.Attached cycle ∨ run.Stuck cycle := by
  induction cycle with
  | zero =>
      refine .inl ⟨run.tracked_zero,
        CoreState.markersAttached_reset run.params run.bootAddr (run.inputs 0), ?_⟩
      exact ⟨fun _ => rfl, fun _ => rfl, fun _ => rfl⟩
  | succ cycle induction =>
      rcases induction with attached | stuck
      · cases error : (run.state cycle).busError (run.inputs cycle) with
        | true => exact .inr (attached.tracked.stuck_succ inOrder error)
        | false => exact .inl (attached.succ inOrder second (held cycle) error)
      · exact .inr (stuck.succ inOrder)

theorem Attached.notStuck {cycle : Nat} (attached : run.Attached cycle) : ¬ run.Stuck cycle := by
  intro stuck
  have inFlight := attached.tracked.inWb stuck.access
  rw [stuck.none] at inFlight
  cases inFlight

/-- A core that is not stuck has not been stuck before. -/
theorem Attached.earlier (inOrder : InOrder (fun _ _ => True) run.dataBus)
    (second : ∀ last, run.SecondAfterFirst last)
    (held : ∀ cycle, (run.state cycle).InterruptHeld run.params (run.inputs cycle))
    {cycle later : Nat} (attached : run.Attached later) (before : cycle ≤ later) :
    run.Attached cycle := by
  rcases attached_or_stuck inOrder second held cycle with isAttached | stuck
  · exact isAttached
  · exact (attached.notStuck (stuck.later inOrder before)).elim

/-- A trap is not taken while WB waits for ever. -/
theorem attached_of_taken (inOrder : InOrder (fun _ _ => True) run.dataBus)
    (second : ∀ last, run.SecondAfterFirst last)
    (held : ∀ cycle, (run.state cycle).InterruptHeld run.params (run.inputs cycle)) {cycle : Nat}
    (taken : run.excTaken cycle = true) : run.Attached cycle := by
  rcases attached_or_stuck inOrder second held cycle with attached | stuck
  · exact attached
  · rw [stuck.noTrap inOrder] at taken
    cases taken

/-- Behind the markers of a trap the pipeline and the data bus are empty. -/
theorem Attached.drained_of_arrived {taken : Nat} {pc : Word} (attached : run.Attached taken)
    (arrived : (run.state taken).Arrived pc) :
    (run.inMem taken = none ∧ run.inWb taken = none) ∧ run.opsInFlight taken = [] := by
  refine ⟨⟨attached.hollow.mem arrived.inMem, attached.hollow.wb arrived.inWb⟩, ?_⟩
  rcases attached.tracked.notInWb arrived.noAccess.1 with none | ⟨split, -⟩
  · exact none
  · have access := (attached.tracked.behind.owned split).1
    rw [arrived.noAccess.2] at access
    cases access

/-- Outside of IDLE the data bus reports no error. -/
theorem noError_of_notIdle (inOrder : InOrder (fun _ _ => True) run.dataBus)
    (second : ∀ last, run.SecondAfterFirst last)
    (held : ∀ cycle, (run.state cycle).InterruptHeld run.params (run.inputs cycle)) {cycle : Nat}
    (notIdle : (run.state cycle).fsm ≠ .idle) :
    (run.state cycle).reportsError (run.inputs cycle) = false := by
  rw [CoreState.reportsError]
  cases valid : (run.state cycle).lsuValidWb (run.inputs cycle) with
  | false => rfl
  | true =>
      rcases attached_or_stuck inOrder second held cycle with attached | stuck
      · have access := attached.tracked.access_of_lsuValid inOrder valid
        exact absurd (attached.tracked.idle_of_access access) notIdle
      · rw [stuck.noLsuValid inOrder] at valid
        cases valid

end CoreRun

end RiscvCore
