import RiscvCore.PreciseTraps

/-!
# Finished instructions

What has issued up to a trap.  An instruction goes through the pipeline and leaves WB with its
effects, or EX denies it its access and the trap is its own: no flush finds another one behind ID.
-/

namespace RiscvCore

open BusProtocol (InOrder)

namespace CoreState

variable {st : CoreState}

/-- An unmarked core has no marker of the access in EX. -/
theorem refused_of_unmarked (idle : st.fsm = .idle) (denied : st.pmpErr = true)
    (unmarked : st.marked = false) : st.Refused st.idEx.pcEx := by
  rw [marked, Bool.or_eq_false_iff, Bool.or_eq_false_iff] at unmarked
  refine ⟨idle, denied, rfl, ?_, ?_⟩
  · intro marker
    rw [unmarked.1.2] at marker
    cases marker
  · intro marker
    rw [unmarked.2] at marker
    cases marker

end CoreState

namespace CoreRun

variable (run : CoreRun)

/-- An instruction leaves WB outside of a flush: its access has been answered without an error, and
what it writes is written. -/
structure Commits (issue cycle : Nat) : Prop where
  inside : run.inWb cycle = some issue
  leaves : run.readyWb cycle = true
  answered : (run.state cycle).memWb.lsuEnWb = true →
    (run.state cycle).lsuValidWb (run.inputs cycle) = true ∧
      (run.state cycle).lsuErrWb (run.inputs cycle) = false
  written : ((run.state cycle).rfWr (run.inputs cycle)).en = (run.state cycle).memWb.rdWrEnWb

/-- A trap is taken for the access of the instruction in EX. -/
structure Denied (issue taken : Nat) : Prop where
  trap : run.TakesTrap taken
  inEx : run.inEx taken = some issue
  denied : (run.state taken).pmpErr = true

/-- The trap, if EX refuses its instruction, is that of an access, and not of an instruction on a
CSR. -/
def RefusesOnlyAccess (cycle : Nat) : Prop :=
  run.TakesTrap cycle → (run.state cycle).excEx run.params = true →
    (run.state cycle).pmpErr = true

/-- The instruction has gone through the pipeline, or a trap was its own. -/
def Finished (issue cycle : Nat) : Prop :=
  (∃ commit, commit < cycle ∧ run.Commits issue commit) ∨
    ∃ taken, taken < cycle ∧ run.Denied issue taken

variable {run}

/-- An instruction that issues finds no marker, and leaves none. -/
theorem Attached.unmarked_of_issues {cycle : Nat} (attached : run.Attached cycle)
    (held : (run.state cycle).InterruptHeld run.params (run.inputs cycle))
    (idle : (run.state cycle).fsm = .idle) (issues : run.issues cycle = true) :
    (run.state (cycle + 1)).marked = false := by
  have readyId : (run.state cycle).readyId run.params (run.inputs cycle) = true := by
    rw [CoreRun.issues, CoreState.issues, Bool.and_eq_true, Bool.and_eq_true] at issues
    exact issues.1.2
  cases marks : (run.state (cycle + 1)).marked with
  | false => rfl
  | true =>
      rw [run.state_succ] at marks
      rcases CoreState.marked_of_marked_step marks with was | ⟨-, -, sets⟩ | refuses
      · rw [attached.markers.readyId held idle was] at readyId
        cases readyId
      · rw [CoreState.readyId, sets, Bool.not_true, Bool.and_false] at readyId
        cases readyId
      · have ready := CoreState.readyEx_of_readyId readyId
        rw [CoreState.readyEx_of_excEx refuses] at ready
        cases ready

theorem Attached.unmarked_of_flush {cycle : Nat} (attached : run.Attached cycle)
    (flushing : (run.state cycle).fsm = .excFlush) : (run.state (cycle + 1)).marked = false := by
  rw [run.state_succ]
  apply CoreState.unmarked_step_of_attached attached.markers (run.dividerOwned cycle) flushing
  rw [CoreState.readyMem_of_flushing flushing]
  exact CoreState.readyWb_of_noAccess (attached.tracked.behind.flushing flushing).2

/-- A denied access that EX held in the cycle before was denied there. -/
theorem refused_succ_of_held {cycle : Nat} (idle : (run.state cycle).fsm = .idle)
    (noTrap : (run.state cycle).excTaken (run.inputs cycle) = false)
    (notReady : run.readyEx cycle = false)
    (refused : (run.state cycle).pmpErr = true →
      (run.state cycle).Refused (run.state cycle).idEx.pcEx)
    (denied : (run.state (cycle + 1)).pmpErr = true) :
    (run.state (cycle + 1)).Refused (run.state (cycle + 1)).idEx.pcEx := by
  have operation : (run.state cycle).nextIdExOperation run.params (run.inputs cycle) =
      (run.state cycle).idEx := CoreState.nextIdExOperation_of_notReady notReady
  have access : (run.state cycle).idEx.lsuEnEx = true :=
    (congrArg IdEx.lsuEnEx operation).symm.trans (access_of_pmpErr denied).1
  have noCsr := (run.exOneUnit cycle).csrEnEx_of_access access
  rw [run.state_succ, CoreState.pmpErr_step_of_held idle noTrap notReady noCsr] at denied
  have notValid : ¬ run.validId cycle = true := fun valid => by
    have isReady : run.readyEx cycle = true := CoreState.readyEx_of_validId valid
    rw [notReady] at isReady
    cases isReady
  rw [pcEx_succ, if_neg notValid, run.state_succ]
  exact (refused denied).step (run.dividerOwned cycle) (run.exAccessOnly cycle)
    (run.exOneUnit cycle) noTrap

/-- The access in EX is denied with no marker but its own behind it. -/
theorem Attached.refused_succ {cycle : Nat} (attached : run.Attached cycle)
    (held : (run.state cycle).InterruptHeld run.params (run.inputs cycle))
    (refused : (run.state cycle).fsm = .idle → (run.state cycle).pmpErr = true →
      (run.state cycle).Refused (run.state cycle).idEx.pcEx)
    (idle : (run.state (cycle + 1)).fsm = .idle) (denied : (run.state (cycle + 1)).pmpErr = true) :
    (run.state (cycle + 1)).Refused (run.state (cycle + 1)).idEx.pcEx := by
  have entered : run.inEx (cycle + 1) ≠ none := by
    intro nothing
    have access := (access_of_pmpErr denied).1
    rw [((run.stagesHold (cycle + 1)).ex nothing).1.lsu] at access
    cases access
  cases fsm : (run.state cycle).fsm with
  | idle =>
      have noTrap : (run.state cycle).excTaken (run.inputs cycle) = false := by
        rw [run.state_succ, CoreState.fsm_step_idle fsm] at idle
        cases taken : (run.state cycle).excTaken (run.inputs cycle) with
        | false => rfl
        | true =>
            rw [taken] at idle
            cases idle
      cases ready : run.readyEx cycle with
      | false => exact refused_succ_of_held fsm noTrap ready (refused fsm) denied
      | true =>
          have issues : run.issues cycle = true := by
            cases issues : run.issues cycle with
            | true => rfl
            | false =>
                rw [inEx_succ, issues, ready] at entered
                exact (entered rfl).elim
          exact CoreState.refused_of_unmarked idle denied
            (attached.unmarked_of_issues held fsm issues)
  | excFlush =>
      exact CoreState.refused_of_unmarked idle denied (attached.unmarked_of_flush fsm)
  | sleep =>
      rw [run.state_succ] at idle
      rcases @CoreState.fsm_step_sleep run.params _ (run.inputs cycle) fsm with sleeps | wakes
      · rw [sleeps] at idle
        cases idle
      · rw [wakes] at idle
        cases idle
  | wakeup =>
      have noIssue : run.issues cycle = false :=
        CoreState.issues_of_noInstr (run.noInstrAsleep cycle (.inr fsm))
      have emptyNext :=
        CoreState.empty_step_of_notIssued (attached.markers.asleep (.inr fsm)).2 noIssue
      have access := (access_of_pmpErr denied).1
      rw [run.state_succ, emptyNext.lsu] at access
      cases access

section Tracked

variable (inOrder : InOrder (fun _ _ => True) run.dataBus)
  (second : ∀ last, run.SecondAfterFirst last)
  (held : ∀ cycle, (run.state cycle).InterruptHeld run.params (run.inputs cycle))

include inOrder second held

theorem Attached.refused {cycle : Nat} (attached : run.Attached cycle)
    (idle : (run.state cycle).fsm = .idle) (denied : (run.state cycle).pmpErr = true) :
    (run.state cycle).Refused (run.state cycle).idEx.pcEx := by
  induction cycle with
  | zero => cases denied
  | succ cycle induction =>
      have before := attached.earlier inOrder second held (Nat.le_succ cycle)
      exact before.refused_succ (held cycle) (induction before) idle denied

/-- The trap is that of the instruction in ID, or of the access that EX refuses. -/
theorem Attached.waits_or_refused {taken : Nat} (accesses : run.RefusesOnlyAccess taken)
    (attached : run.Attached (taken + 1)) (trap : run.TakesTrap taken) :
    run.WaitingTrap taken ∨
      ((run.state taken).Refused (run.state taken).idEx.pcEx ∧
        (run.state taken).memWb.excTakenWb = true) := by
  obtain ⟨idle, isTaken⟩ := takesTrap_iff.mp trap
  have before := attached.earlier inOrder second held (Nat.le_succ taken)
  cases error : (run.state taken).reportsError (run.inputs taken) with
  | true =>
      have stuck : run.Stuck (taken + 1) := by
        apply before.tracked.stuck_succ inOrder
        rw [CoreState.busError, idle]
        exact error
      exact (attached.notStuck stuck).elim
  | false =>
      rcases before.trap_cases (held taken) trap with reports | ⟨refuses, -⟩ | waiting
      · rw [error] at reports
        cases reports
      · right
        have denied := accesses trap refuses
        exact ⟨before.refused inOrder second held idle denied,
          (CoreState.excTaken_of_noError error).symm.trans isTaken⟩
      · exact .inl waiting

end Tracked

/-- With MEM and WB empty, and EX blocked or flushed, they are empty in the next cycle. -/
theorem drained_succ {cycle : Nat} (drained : run.inMem cycle = none ∧ run.inWb cycle = none)
    (blocked : run.readyEx cycle = false ∨ run.flushE cycle = true) :
    run.inMem (cycle + 1) = none ∧ run.inWb (cycle + 1) = none := by
  obtain ⟨mem, wb⟩ := drained
  have stays : (run.readyEx cycle && !run.flushE cycle) = false := by
    rcases blocked with notReady | flush
    · rw [notReady, Bool.false_and]
    · rw [flush, Bool.not_true, Bool.and_false]
  rw [inMem_succ, inWb_succ, stays, mem, wb, if_neg Bool.false_ne_true]
  simp only [ite_self, and_self]

/-! ## Older instructions -/

/-- The instruction is behind ID. -/
def InPipe (run : CoreRun) (issue cycle : Nat) : Prop :=
  run.inEx cycle = some issue ∨ run.inMem cycle = some issue ∨ run.inWb cycle = some issue

theorem Finished.succ {issue cycle : Nat} (finished : run.Finished issue cycle) :
    run.Finished issue (cycle + 1) := by
  rcases finished with ⟨commit, before, commits⟩ | ⟨taken, before, denied⟩
  · exact .inl ⟨commit, Nat.lt_succ_of_lt before, commits⟩
  · exact .inr ⟨taken, Nat.lt_succ_of_lt before, denied⟩

/-- An instruction that leaves WB outside of a flush commits. -/
theorem commits_of_leaves {issue cycle : Nat} (inside : run.inWb cycle = some issue)
    (leaves : run.readyWb cycle = true) (noFlush : run.flushE cycle = false) :
    run.Commits issue cycle where
  inside := inside
  leaves := leaves
  answered := by
    intro access
    have ready : (run.state cycle).readyWb (run.inputs cycle) = true := leaves
    rw [CoreState.readyWb, WbStage.readyWb, access] at ready
    simpa using ready
  written := by
    have ready : (run.state cycle).readyWb (run.inputs cycle) = true := leaves
    have noFlushE : (run.state cycle).flushE = false := noFlush
    simp [CoreState.rfWr, WbStage.rfWr, ready, noFlushE]

/-- Outside of a flush an instruction moves on or stays, until it commits. -/
theorem inPipe_succ {issue cycle : Nat} (inside : run.InPipe issue cycle)
    (noFlush : run.flushE cycle = false) :
    run.InPipe issue (cycle + 1) ∨ run.Finished issue (cycle + 1) := by
  rw [InPipe, inEx_succ, inMem_succ, inWb_succ, validMem_eq_readyMem, noFlush, Bool.not_false,
    Bool.and_true, Bool.and_true]
  rcases inside with inEx | inMem | inWb
  · left
    cases ready : run.readyEx cycle with
    | true => exact .inr (.inl inEx)
    | false =>
        rw [noIssue_of_notReadyEx ready]
        exact .inl inEx
  · left
    cases ready : run.readyMem cycle with
    | true => exact .inr (.inr inMem)
    | false =>
        rw [readyEx_of_notReadyMem ready]
        exact .inr (.inl inMem)
  · cases ready : run.readyWb cycle with
    | true =>
        exact .inr (.inl ⟨cycle, Nat.lt_succ_self cycle, commits_of_leaves inWb ready noFlush⟩)
    | false =>
        rw [readyMem_of_notReadyWb ready]
        exact .inl (.inr (.inr inWb))

/-- As long as an instruction is in EX, EX has not been ready. -/
theorem held_since {issue cycle later : Nat} (inside : run.inEx later = some issue)
    (after : issue < cycle) (before : cycle ≤ later) :
    run.inEx cycle = some issue ∧
      (run.state cycle).idEx.lsuEnEx = (run.state later).idEx.lsuEnEx ∧
        (cycle < later → run.readyEx cycle = false) := by
  induction before with
  | refl => exact ⟨inside, rfl, fun later => absurd later (Nat.lt_irrefl _)⟩
  | @step later before induction =>
      rw [inEx_succ] at inside
      cases issues : run.issues later with
      | true =>
          rw [issues, if_pos rfl, Option.some.injEq] at inside
          have ordered : cycle ≤ later := before
          omega
      | false =>
          rw [issues, if_neg Bool.false_ne_true] at inside
          cases ready : run.readyEx later with
          | true =>
              rw [ready, if_pos rfl] at inside
              cases inside
          | false =>
              rw [ready, if_neg Bool.false_ne_true] at inside
              obtain ⟨inEx, access, notReady⟩ := induction inside
              have operation : (run.state later).nextIdExOperation run.params (run.inputs later) =
                  (run.state later).idEx := CoreState.nextIdExOperation_of_notReady ready
              refine ⟨inEx, access.trans (congrArg IdEx.lsuEnEx operation).symm, fun _ => ?_⟩
              rcases Nat.eq_or_lt_of_le before with rfl | earlier
              · exact ready
              · exact notReady earlier

section Tracked

variable (inOrder : InOrder (fun _ _ => True) run.dataBus)
  (second : ∀ last, run.SecondAfterFirst last)
  (held : ∀ cycle, (run.state cycle).InterruptHeld run.params (run.inputs cycle))
  (accesses : ∀ cycle, run.RefusesOnlyAccess cycle)

include inOrder second held accesses

/-- The flush of a trap finds nothing behind ID but the access that it is taken for. -/
theorem Attached.flush_contents {taken : Nat} (attached : run.Attached (taken + 1))
    (trap : run.TakesTrap taken) :
    (run.inMem (taken + 1) = none ∧ run.inWb (taken + 1) = none) ∧
      ∀ issue, run.inEx (taken + 1) = some issue → run.Denied issue taken := by
  have before := attached.earlier inOrder second held (Nat.le_succ taken)
  rcases attached.waits_or_refused inOrder second held (accesses taken) trap with
    waiting | ⟨refused, marker⟩
  · have emptyNext := waiting.empty.succ waiting.notIssued.1
    refine ⟨⟨emptyNext.mem, emptyNext.wb⟩, fun issue inside => ?_⟩
    rw [emptyNext.ex] at inside
    cases inside
  · have arrived := refused.arrived (run.exOneUnit taken) marker
    have notReady : run.readyEx taken = false := refused.notReady
    refine ⟨drained_succ (before.drained_of_arrived arrived).1 (.inl notReady), ?_⟩
    intro issue inside
    rw [inEx_succ, noIssue_of_notReadyEx notReady, notReady] at inside
    exact ⟨trap, inside, refused.denied⟩

/-- What has issued is in the pipeline, or finished. -/
theorem Attached.accounted {issue cycle : Nat} (attached : run.Attached cycle)
    (before : issue < cycle) (issues : run.issues issue = true) :
    run.InPipe issue cycle ∨ run.Finished issue cycle := by
  induction cycle with
  | zero => omega
  | succ cycle induction =>
      rcases Nat.eq_or_lt_of_le (Nat.le_of_lt_succ before) with rfl | earlier
      · exact .inl (.inl (by rw [inEx_succ, if_pos issues]))
      · have was := attached.earlier inOrder second held (Nat.le_succ cycle)
        rcases induction was earlier with inside | finished
        · cases flush : run.flushE cycle with
          | false => exact inPipe_succ inside flush
          | true =>
              have flushing : (run.state cycle).fsm = .excFlush := by
                have isFlush : Controller.flush (run.state cycle).fsm = true := flush
                rw [Controller.flush, beq_iff_eq] at isFlush
                exact isFlush
              cases cycle with
              | zero => cases flushing
              | succ taken =>
                  have trap : run.TakesTrap taken :=
                    takesTrap_iff.mpr (CoreState.taken_of_flush_step flushing)
                  obtain ⟨⟨mem, wb⟩, denied⟩ :=
                    was.flush_contents inOrder second held accesses trap
                  rcases inside with inEx | inMem | inWb
                  · exact .inr (.inr ⟨taken, by omega, denied issue inEx⟩)
                  · rw [mem] at inMem
                    cases inMem
                  · rw [wb] at inWb
                    cases inWb
        · exact .inr finished.succ

end Tracked

end CoreRun

end RiscvCore
