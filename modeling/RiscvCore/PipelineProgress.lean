import RiscvCore.FetchProgress
import RiscvCore.InOrderData
import RiscvCore.MemoryRefinement
import RiscvCore.TrapDrain
import RiscvCore.WrongPath

/-!
# The core goes on

A core whose buses let no request wait for ever, and whose fetches are allowed, takes a trap at
some time or goes on issuing instructions for ever.  These are then all the instructions that the
machine executes.
-/

namespace RiscvCore

open BusProtocol (Responsive)
open ByteMemory
open SynchronousRun (exists_event_while occurrences occurrences_self occurrences_succ)

namespace CoreState

variable {params : Params} {st : CoreState} {port : CoreInput}

/-- The operation in EX redirects fetch at most once. -/
theorem branchJump_step_of_notIssued (idle : st.fsm = .idle)
    (noIssue : st.issues params port = false) : (st.step params port).branchJump = false := by
  cases ready : st.readyEx params port with
  | true =>
      exact branchJump_of_empty (empty_of_operation (nextIdExOperation_of_noIssue noIssue ready).1)
  | false =>
      have operation := nextIdExOperation_of_notReady ready
      have sameBranch := congrArg IdEx.branchEx operation
      have sameJump := congrArg IdEx.jumpEx operation
      have branch : (st.step params port).idEx.branchEx = st.idEx.branchEx := sameBranch
      have jump : (st.step params port).idEx.jumpEx = st.idEx.jumpEx := sameJump
      have mask : (st.step params port).branchJumpMask = (st.idEx.branchEx || st.idEx.jumpEx) := by
        change ExStage.nextBranchJumpMask _ (st.readyEx params port) st.flushE = _
        rw [ExStage.nextBranchJumpMask, ready, flushE_of_idle idle, Bool.not_false, if_pos rfl,
          Bool.and_true]
      rw [branchJump, branchTaken, jumpTaken, ExStage.branchTaken, ExStage.jumpTaken, branch, jump,
        mask]
      cases st.idEx.branchEx <;> cases st.idEx.jumpEx <;> simp

/-- An instruction that is ready to leave ID and does not issue marks EX. -/
theorem excTakenEx_step_of_notIssued (valid : st.validId params port = true)
    (noFlush : st.flushD = false) (noIssue : st.issues params port = false) :
    (st.step params port).idEx.excTakenEx = true := by
  have traps : st.excTakenId params port = true := by
    rw [validId, Bool.and_eq_true, Bool.and_eq_true] at valid
    rw [issues, readyId, valid.1.1, valid.1.2, valid.2, noFlush] at noIssue
    simpa using noIssue
  change IdStage.nextExcTakenEx _ _ _ _ _ = true
  rw [IdStage.nextExcTakenEx, valid, noFlush, traps]
  cases st.idEx.excTakenEx <;> rfl

/-- Its marker stays in EX as long as it waits in ID. -/
theorem excTakenEx_step_of_marker (idle : st.fsm = .idle) (noFlush : st.flushD = false)
    (known : st.readRfBusy port = false) (waits : st.ifs.instrValueId = true)
    (marker : st.idEx.excTakenEx = true) : (st.step params port).idEx.excTakenEx = true := by
  have valid : st.validId params port = st.readyEx params port := by
    rw [validId, stallId, known, stall_of_idle idle, waits]
    rw [Bool.or_self, Bool.not_false, Bool.true_and, Bool.and_true]
  change IdStage.nextExcTakenEx _ _ _ _ _ = true
  rw [IdStage.nextExcTakenEx, valid, noFlush, marker]
  cases st.readyEx params port <;> rfl

/-- An empty ID is ready when EX is. -/
theorem readyId_of_noInstr (idle : st.fsm = .idle) (noInstr : st.ifs.instrValueId = false) :
    st.readyId params port = st.readyEx params port := by
  have notBusy : st.readRfBusy port = false := by
    rw [readRfBusy, decoded_of_noInstr noInstr]
    rfl
  have noException : st.exceptionTakenId = false := by
    rw [Bool.eq_false_iff]
    intro traps
    rw [instrValueId_of_exceptionTakenId traps] at noInstr
    cases noInstr
  have noInterrupt : st.interruptTakenId params port = false := by
    rw [interruptTakenId, validId, noInstr, Bool.and_false, Bool.and_false, Bool.false_and]
  rw [readyId, stallId, notBusy, stall_of_idle idle, excTakenId, noException, noInterrupt]
  rw [Bool.or_self, Bool.not_false, Bool.true_and, Bool.and_true]

end CoreState

namespace CoreRun

variable {run : CoreRun}

theorem responsive_fetchRun (responsive : Responsive (fun _ _ => True) run.instrBus) :
    Responsive (fun _ _ => True) run.fetchRun.bus where
  inOrder :=
    { requested := by
        intro cycle grant
        have requested := responsive.inOrder.requested cycle grant
        rw [FetchRun.bus, state_fetchRun]
        exact requested
      answered := by
        intro cycle valid
        obtain ⟨addr, rest, queue, -⟩ := responsive.inOrder.answered cycle valid
        exact ⟨addr, rest, (run.pending_fetchRun cycle).trans queue, trivial⟩ }
  granted := by
    intro cycle asked
    rw [FetchRun.bus, state_fetchRun] at asked
    exact responsive.granted cycle asked
  answered := by
    intro cycle queued
    rw [run.pending_fetchRun cycle] at queued
    exact responsive.answered cycle queued

/-- Fetch restarts only where it is settled. -/
structure Restarts (run : CoreRun) (cycle : Nat) : Prop where
  refetches : ∃ marks, run.fetchRun.Aligned cycle marks ∧ (run.state cycle).ifs.Refetches marks
  quiet : (run.state cycle).ifs.fifoFlush = true → (run.state cycle).branchJump = false

theorem restarts_zero (run : CoreRun) : run.Restarts 0 where
  refetches := ⟨[], ⟨IfStage.commandQueue_reset run.bootAddr, rfl⟩,
    IfStage.oneMark_reset run.bootAddr, fun _ => IfStage.emptied_reset run.bootAddr⟩
  quiet := fun _ => rfl

section Runs

variable (idle : run.StaysIdle) (undenied : run.fetchRun.Undenied)
include idle undenied

/-- Only the operation in EX redirects, and it finds fetch settled. -/
theorem Restarts.succ {cycle : Nat} (restarts : run.Restarts cycle) :
    run.Restarts (cycle + 1) := by
  obtain ⟨marks, aligned, refetches⟩ := restarts.refetches
  have isBranch : run.fetchRun.redirects cycle = (run.state cycle).branchJump :=
    (CoreState.redirect_of_idle run.params (run.inputs cycle) (idle cycle)).1
  have settled : run.fetchRun.redirects cycle = true →
      (run.fetchRun.state cycle).fifoFlush = false := by
    intro redirects
    rw [isBranch] at redirects
    rw [state_fetchRun, Bool.eq_false_iff]
    intro discards
    rw [restarts.quiet discards] at redirects
    cases redirects
  have empties : run.fetchRun.redirects cycle = true →
      (run.fetchRun.state (cycle + 1)).instrValueId = false := by
    intro redirects
    have flush := CoreState.flushD_of_branchJump (isBranch.symm.trans redirects)
    rw [state_fetchRun, run.state_succ, CoreState.instrValueId_step, if_pos flush]
  have next := undenied.refetches_succ aligned (by rw [state_fetchRun]; exact refetches) settled
    empties
  rw [state_fetchRun] at next
  refine ⟨⟨_, aligned.step (undenied.noDenial cycle) undenied.queued, next⟩, fun discards => ?_⟩
  -- while words are discarded ID is empty, so that no branch comes into EX
  rw [run.state_succ]
  apply CoreState.branchJump_step_of_notIssued (idle cycle)
  cases branch : (run.state cycle).branchJump with
  | true => exact CoreState.issues_of_blocked (.inr (CoreState.flushD_of_branchJump branch))
  | false =>
      have nonempty := aligned.nonempty undenied.queued
      have queue := aligned.queue
      rw [state_fetchRun] at queue
      have noRedirect : (run.state cycle).setPcValid run.params (run.inputs cycle) = false :=
        isBranch.trans branch
      have discarding := (refetches.one.discards_of_next run.params.pmpEnable
        (queue.answersMarks nonempty) noRedirect discards).1
      exact CoreState.issues_of_noInstr (refetches.emptied discarding).noInstr

theorem restarts (cycle : Nat) : run.Restarts cycle := by
  induction cycle with
  | zero => exact run.restarts_zero
  | succ cycle induction => exact induction.succ idle undenied

end Runs

/-- From the start on nothing issues, although neither bus lets a request wait for ever. -/
structure Silent (run : CoreRun) (start : Nat) : Prop where
  idle : run.StaysIdle
  undenied : run.fetchRun.Undenied
  instr : Responsive (fun _ _ => True) run.instrBus
  data : Responsive (fun _ _ => True) run.dataBus
  noIssue : ∀ cycle, start ≤ cycle → run.issues cycle = false

/-- EX is empty, and no writer is under way. -/
structure Spent (run : CoreRun) (cycle : Nat) : Prop where
  empty : (run.state cycle).idEx.Empty
  noWriter : run.writers cycle = []

section Silent

variable {start : Nat} (silent : run.Silent start)
include silent

theorem Silent.exists_empty : ∃ first, start ≤ first ∧
    ∀ cycle, first ≤ cycle → (run.state cycle).idEx.Empty := by
  obtain ⟨ready, after, isReady⟩ := exists_readyEx silent.idle silent.data start
  refine ⟨ready + 1, by omega, fun cycle later => ?_⟩
  induction later with
  | refl =>
      rw [run.state_succ]
      exact CoreState.empty_of_operation
        (CoreState.nextIdExOperation_of_noIssue (silent.noIssue ready after) isReady).1
  | @step cycle later induction =>
      rw [run.state_succ]
      exact CoreState.empty_step_of_notIssued induction
        (silent.noIssue cycle (Nat.le_trans after (Nat.le_of_succ_le later)))

/-- A write takes a writer away, and none comes in. -/
theorem Silent.length_writers_succ {cycle : Nat} (ordered : start ≤ cycle) :
    (run.writers (cycle + 1)).length + (run.writes cycle).toNat = (run.writers cycle).length := by
  have counts (cycle : Nat) : occurrences run.issuesWriter 0 cycle =
      occurrences run.writes 0 cycle + (run.writers cycle).length := by
    rw [← enters_eq, ← leaves_eq]
    exact (flow silent.idle).entered_eq cycle
  have noneIssued : run.issuesWriter cycle = false := by
    rw [issuesWriter, silent.noIssue cycle ordered, Bool.false_and]
  have now := counts cycle
  have next := counts (cycle + 1)
  rw [occurrences_succ _ (Nat.zero_le _), occurrences_succ _ (Nat.zero_le _), noneIssued,
    Bool.toNat_false] at next
  omega

theorem Silent.length_writers_le {cycle later : Nat} (ordered : start ≤ cycle)
    (after : cycle ≤ later) : (run.writers later).length ≤ (run.writers cycle).length := by
  induction after with
  | refl => exact Nat.le_refl _
  | @step later after induction =>
      have step := silent.length_writers_succ (Nat.le_trans ordered after)
      rw [Nat.succ_eq_add_one]
      omega

/-- The writers under way are written one after the other. -/
theorem Silent.exists_noWriter : ∀ (count cycle : Nat), start ≤ cycle →
    (run.writers cycle).length = count → ∃ last, cycle ≤ last ∧ run.writers last = [] := by
  intro count
  induction count using Nat.strongRecOn with
  | ind count induction =>
      intro cycle ordered length
      by_cases none : run.writers cycle = []
      · exact ⟨cycle, Nat.le_refl cycle, none⟩
      · obtain ⟨write, after, written⟩ := exists_write silent.idle silent.data none
        have fewer := silent.length_writers_le ordered after
        have taken := silent.length_writers_succ (Nat.le_trans ordered after)
        rw [written, Bool.toNat_true] at taken
        obtain ⟨last, later, isLast⟩ :=
          induction (run.writers (write + 1)).length (by omega) (write + 1) (by omega) rfl
        exact ⟨last, by omega, isLast⟩

theorem Silent.exists_spent : ∃ first, start ≤ first ∧
    ∀ cycle, first ≤ cycle → run.Spent cycle := by
  obtain ⟨first, after, empty⟩ := silent.exists_empty
  obtain ⟨last, later, noWriter⟩ := silent.exists_noWriter _ first after rfl
  refine ⟨last, by omega, fun cycle ordered => ⟨empty cycle (by omega), ?_⟩⟩
  have few := silent.length_writers_le (by omega : start ≤ last) ordered
  rw [noWriter] at few
  exact List.eq_nil_of_length_eq_zero (Nat.le_zero.mp few)

omit silent in
/-- Without a writer under way every operand is known. -/
theorem readRfBusy_of_noWriter (idle : run.StaysIdle) {cycle : Nat}
    (noWriter : run.writers cycle = []) :
    (run.state cycle).readRfBusy (run.inputs cycle) = false := by
  have known (rdEn : Bool) (reg : RegAddr) : ScoreBoard.rdValue (run.state cycle).rf rdEn reg
      ((run.state cycle).forwards (run.inputs cycle)) = true := by
    rw [← Bool.not_eq_false]
    intro waits
    have holds : run.HoldsWriter cycle reg := holdsWriter_of_waitsFor idle waits
    rw [writers, CoreState.writers, List.append_eq_nil_iff, List.append_eq_nil_iff] at noWriter
    obtain ⟨⟨noWb, noMem⟩, noEx⟩ := noWriter
    rcases holds with inEx | inMem | inWb
    · simp [IdEx.writer, inEx.1] at noEx
    · simp [ExMem.writer, inMem.1] at noMem
    · simp [MemWb.writer, inWb.1] at noWb
  rw [CoreState.readRfBusy, IdStage.readRfBusy, known, known, Bool.not_true, Bool.and_false,
    Bool.and_false]
  rfl

omit silent in
theorem Spent.flushD (idle : run.StaysIdle) {cycle : Nat} (spent : run.Spent cycle) :
    (run.state cycle).flushD = false :=
  CoreState.flushD_of_idle (idle cycle) (CoreState.branchJump_of_empty spent.empty)

/-- An instruction in ID would issue, or its marker would reach WB. -/
theorem Silent.noInstr {first : Nat} (after : start ≤ first)
    (spent : ∀ cycle, first ≤ cycle → run.Spent cycle) :
    (run.state first).ifs.instrValueId = false := by
  rw [Bool.eq_false_iff]
  intro valid
  have waits : ∀ cycle, first ≤ cycle → (run.state cycle).ifs.instrValueId = true := by
    intro cycle later
    induction later with
    | refl => exact valid
    | @step cycle later induction =>
        have noIssue : (run.state cycle).issues run.params (run.inputs cycle) = false :=
          silent.noIssue cycle (Nat.le_trans after later)
        have held : (run.state cycle).readyId run.params (run.inputs cycle) = false := by
          rw [CoreState.issues, induction, (spent cycle later).flushD silent.idle] at noIssue
          simpa using noIssue
        rw [run.state_succ]
        exact (congrArg Shown.instrValueId (CoreState.shown_step_of_held (silent.idle cycle)
          (CoreState.branchJump_of_empty (spent cycle later).empty) held)).trans induction
  have known (cycle : Nat) (later : first ≤ cycle) :
      (run.state cycle).readRfBusy (run.inputs cycle) = false :=
    readRfBusy_of_noWriter silent.idle (spent cycle later).noWriter
  obtain ⟨leave, afterFirst, ready⟩ := exists_readyEx silent.idle silent.data first
  have validId : (run.state leave).validId run.params (run.inputs leave) = true := by
    rw [CoreState.validId, CoreState.stallId, known leave afterFirst,
      CoreState.stall_of_idle (silent.idle leave), ready, waits leave afterFirst]
    rfl
  have marked : ∀ cycle, leave + 1 ≤ cycle → (run.state cycle).idEx.excTakenEx = true := by
    intro cycle later
    induction later with
    | refl =>
        exact CoreState.excTakenEx_step_of_notIssued validId
          ((spent leave afterFirst).flushD silent.idle) (silent.noIssue leave (by omega))
    | @step cycle later induction =>
        have inside : first ≤ cycle := Nat.le_trans afterFirst (Nat.le_of_succ_le later)
        exact CoreState.excTakenEx_step_of_marker (silent.idle cycle)
          ((spent cycle inside).flushD silent.idle) (known cycle inside) (waits cycle inside)
          induction
  obtain ⟨move, afterLeave, moves⟩ := exists_readyEx silent.idle silent.data (leave + 1)
  have inMem : (run.state (move + 1)).exMem.excTakenMem = true := by
    rw [run.state_succ, CoreState.excTakenMem_step, CoreState.readyMem_of_readyEx moves,
      CoreState.validEx_of_readyEx moves, CoreState.flushE_of_idle (silent.idle move),
      marked move afterLeave]
    rfl
  rw [unmarkedMem silent.idle silent.data (move + 1)] at inMem
  cases inMem

/-- Fetch hands an instruction to an empty ID: the core does not fall silent. -/
theorem not_silent : False := by
  obtain ⟨first, after, spent⟩ := silent.exists_spent
  have noInstr (cycle : Nat) (later : first ≤ cycle) :
      (run.state cycle).ifs.instrValueId = false :=
    silent.noInstr (Nat.le_trans after later) fun cycle beyond =>
      spent cycle (Nat.le_trans later beyond)
  have readyId (cycle : Nat) (later : first ≤ cycle) :
      IfStage.readyIf (run.fetchRun.inputs cycle) =
        (run.state cycle).readyEx run.params (run.inputs cycle) := by
    change ((run.state cycle).readyId run.params (run.inputs cycle) && !(run.state cycle).stall) = _
    rw [CoreState.readyId_of_noInstr (silent.idle cycle) (noInstr cycle later),
      CoreState.stall_of_idle (silent.idle cycle), Bool.not_false, Bool.and_true]
  have undirected : run.fetchRun.Undirected (first + 1) :=
    { undenied := silent.undenied
      responsive := responsive_fetchRun silent.instr
      booted := Nat.succ_pos first
      marked := by
        obtain ⟨marks, aligned, refetches⟩ :=
          (restarts silent.idle silent.undenied (first + 1)).refetches
        refine ⟨marks, aligned, ?_⟩
        rw [state_fetchRun]
        exact refetches.one
      enabled := fun cycle _ => by
        change Controller.fetchEnable (run.state cycle).fsm = true
        rw [silent.idle cycle]
        rfl
      noRedirect := fun cycle later =>
        CoreState.setPcValid_of_idle (silent.idle cycle)
          (CoreState.branchJump_of_empty (spent cycle (by omega)).empty) }
  obtain ⟨pass, later, ready, offered⟩ := undirected.exists_passed fun cycle later => by
    obtain ⟨next, beyond, ready⟩ := exists_readyEx silent.idle silent.data cycle
    exact ⟨next, beyond, (readyId next (by omega)).trans ready⟩
  rw [state_fetchRun] at offered
  have passed : (run.state (pass + 1)).ifs.instrValueId = true := by
    rw [run.state_succ, CoreState.instrValueId_step, (spent pass (by omega)).flushD silent.idle,
      if_neg Bool.false_ne_true]
    exact (if_pos ready).trans offered
  rw [noInstr (pass + 1) (by omega)] at passed
  cases passed

end Silent

/-! ## Progress -/

/-- A core that takes no trap issues again and again. -/
theorem exists_issue (idle : run.StaysIdle) (undenied : run.fetchRun.Undenied)
    (instr : Responsive (fun _ _ => True) run.instrBus)
    (data : Responsive (fun _ _ => True) run.dataBus) (cycle : Nat) :
    ∃ later, cycle ≤ later ∧ run.issues later = true := by
  by_contra never
  simp only [not_exists, not_and, Bool.not_eq_true] at never
  exact not_silent ⟨idle, undenied, instr, data, never⟩

/-- The next instruction comes up. -/
theorem exists_issue_of_issued (idle : run.StaysIdle) (undenied : run.fetchRun.Undenied)
    (instr : Responsive (fun _ _ => True) run.instrBus)
    (data : Responsive (fun _ _ => True) run.dataBus) {start number : Nat}
    (counted : run.issued 0 start = number) :
    ∃ cycle, run.issues cycle = true ∧ run.issued 0 cycle = number := by
  obtain ⟨cycle, -, issues, still⟩ := exists_event_while
    (fun cycle => run.issued 0 cycle = number) (fun cycle => run.issues cycle = true)
    (fun cycle _ counted noIssue => by
      rw [issued, occurrences_succ _ (Nat.zero_le _), Bool.eq_false_iff.mpr noIssue]
      exact counted)
    counted (exists_issue idle undenied instr data start)
  exact ⟨cycle, issues, still⟩

theorem exists_issue_numbered (idle : run.StaysIdle) (undenied : run.fetchRun.Undenied)
    (instr : Responsive (fun _ _ => True) run.instrBus)
    (data : Responsive (fun _ _ => True) run.dataBus) (number : Nat) :
    ∃ cycle, run.issues cycle = true ∧ run.issued 0 cycle = number := by
  induction number with
  | zero => exact exists_issue_of_issued idle undenied instr data (occurrences_self _ 0)
  | succ number induction =>
      obtain ⟨cycle, issues, counted⟩ := induction
      have next : run.issued 0 (cycle + 1) = number + 1 := by
        rw [issued, occurrences_succ _ (Nat.zero_le _), issues]
        exact congrArg (· + 1) counted
      exact exists_issue_of_issued idle undenied instr data next

/-- Nothing but a trap keeps the core from issuing one instruction after the other. -/
theorem traps_or_issues (run : CoreRun)
    (noDenial : ∀ cycle, (run.state cycle).ifs.pmpErr run.params.pmpEnable
      ((run.state cycle).ifInput run.params (run.inputs cycle)) = false)
    (instr : Responsive (fun _ _ => True) run.instrBus)
    (data : Responsive (fun _ _ => True) run.dataBus) :
    (∃ cycle, (run.state cycle).fsm ≠ .idle) ∨
      ∀ number, ∃ cycle, run.issues cycle = true ∧ run.issued 0 cycle = number := by
  by_cases idle : run.StaysIdle
  · refine .inr (exists_issue_numbered idle ⟨fun cycle => ?_, ?_⟩ instr data)
    · rw [state_fetchRun]
      exact noDenial cycle
    · exact (responsive_fetchRun instr).inOrder
  · simp only [StaysIdle, not_forall] at idle
    exact .inl idle

/-- Each instruction of the machine issues at some time, with the registers and the memory that
the machine has in front of it. -/
def ExecutesAll (run : CoreRun) (initial : Memory) (memory : Word → Word) (first : Machine) :
    Prop :=
  ∀ number, ∃ cycle, run.issues cycle = true ∧ run.issued 0 cycle = number ∧
    ∀ last machine, cycle ≤ last →
      Machine.run memory first (run.csrReads 0 last) number = some machine →
        Machine.Regular memory first (run.csrReads 0 last) number →
          run.InStepWithData initial memory first (run.csrReads 0 last) 0 cycle machine

/-- A core with its memories takes a trap or executes the whole program. -/
theorem traps_or_executes (run : CoreRun) (memory : Word → Word) (initial : Memory)
    (servedInstr : run.ServedBy memory) (served : run.ServedData initial)
    (bootAligned : run.bootAddr.toNat % 4 = 0) (second : ∀ last, run.SecondAfterFirst last)
    (instr : Responsive (fun _ _ => True) run.instrBus)
    (data : Responsive (fun _ _ => True) run.dataBus) :
    (∃ cycle, (run.state cycle).fsm ≠ .idle) ∨
      run.ExecutesAll initial memory ⟨Hart.boot run.bootAddr, initial⟩ := by
  by_cases idle : run.StaysIdle
  · refine .inr fun number => ?_
    obtain ⟨cycle, issues, counted⟩ :=
      exists_issue_numbered idle servedInstr.undenied instr data number
    refine ⟨cycle, issues, counted, fun last machine inside runs regular => ?_⟩
    rw [← counted] at runs regular
    exact (run.drained_zero memory bootAligned).inStepWithData rfl servedInstr served bootAligned
      (fun _ _ within => singleAccess (fun cycle _ => idle cycle) served.inOrder second within)
      (fun cycle _ _ => idle cycle) (Nat.zero_le cycle) inside runs regular
  · simp only [StaysIdle, not_forall] at idle
    exact .inl idle

end CoreRun

namespace Surroundings

/-- `addi x1, x0, 7`, `sw x1, 64(x0)`, `lw x2, 64(x0)` and `div x3, x2, x1`; then, for ever,
`sw x3, 68(x0)` and a `bne` back to it. -/
def storesQuotient : Surroundings where
  program := programOf [0x00700093#32, 0x04102023#32, 0x04002103#32, 0x021141B3#32,
    0x04302223#32, 0xFE019EE3#32]
  dataAnswer := fun _ => (7#32, false)
  tireless := true

theorem storesQuotient_later (statement : CoreState → CoreInput → Prop)
    (inPeriod : ∀ cycle, cycle < 49 → 45 ≤ cycle →
      statement (storesQuotient.system cycle).core (storesQuotient.portAt cycle)) (cycle : Nat)
    (later : 45 ≤ cycle) :
    statement (storesQuotient.coreRun.state cycle) (storesQuotient.coreRun.inputs cycle) :=
  @forall_cycle_of_periodic storesQuotient 45 4 rfl (fun _ _ => rfl) (by decide +kernel)
    (by decide) statement inPeriod cycle later

theorem storesQuotient_forall (statement : CoreState → CoreInput → Prop)
    (upTo : ∀ cycle, cycle < 49 →
      statement (storesQuotient.system cycle).core (storesQuotient.portAt cycle)) (cycle : Nat) :
    statement (storesQuotient.coreRun.state cycle) (storesQuotient.coreRun.inputs cycle) := by
  rcases Nat.lt_or_ge cycle 45 with early | later
  · rw [state_coreRun]
    exact upTo cycle (by omega)
  · exact storesQuotient_later statement (fun cycle inside _ => upTo cycle inside) cycle later

/-- No fetch is denied, and nothing is trapped. -/
theorem undisturbed_storesQuotient (cycle : Nat) :
    (storesQuotient.coreRun.state cycle).ifs.pmpErr defaultParams.pmpEnable
        ((storesQuotient.coreRun.state cycle).ifInput defaultParams
          (storesQuotient.coreRun.inputs cycle)) = false ∧
      (storesQuotient.coreRun.state cycle).fsm = .idle :=
  storesQuotient_forall (fun st port => st.ifs.pmpErr defaultParams.pmpEnable
    (st.ifInput defaultParams port) = false ∧ st.fsm = .idle) (by decide +kernel) cycle

theorem servedBy_storesQuotient :
    storesQuotient.coreRun.ServedBy fun addr => (storesQuotient.program addr).1 where
  noDenial := fun cycle => (undisturbed_storesQuotient cycle).1
  instr := storesQuotient.wellConnected.instr

theorem servedData_storesQuotient : storesQuotient.coreRun.ServedData fun _ => 0#8 := by
  apply @servedData_of_reads storesQuotient _ 45 (by decide +kernel)
  exact storesQuotient_later
    (fun st port => port.dataGnt = true → (st.dataRequest port).dataWr = true) (by decide +kernel)

theorem responsive_instrBus (around : Surroundings) (tireless : around.tireless = true) :
    Responsive (fun _ _ => True) around.coreRun.instrBus := by
  apply BusProtocol.responsive_of_immediate around.requested_instrBus ?_ rfl
    around.valid_instrBus_succ
  intro cycle asked
  simp only [CoreRun.instrBus, state_coreRun] at asked ⊢
  exact Bool.and_eq_true_iff.mpr ⟨asked, around.grants_of_tireless tireless cycle⟩

theorem responsive_dataBus (around : Surroundings) (tireless : around.tireless = true) :
    Responsive (fun _ _ => True) around.coreRun.dataBus := by
  apply BusProtocol.responsive_of_immediate around.requested_dataBus ?_ rfl
    around.valid_dataBus_succ
  intro cycle asked
  simp only [CoreRun.dataBus, state_coreRun] at asked ⊢
  exact Bool.and_eq_true_iff.mpr ⟨asked, around.grants_of_tireless tireless cycle⟩

theorem noTrap_storesQuotient : ¬ ∃ cycle, (storesQuotient.coreRun.state cycle).fsm ≠ .idle :=
  fun ⟨cycle, traps⟩ => traps (undisturbed_storesQuotient cycle).2

/-- No trap is taken, and one instruction after the other issues. -/
theorem traps_or_issues_storesQuotient : storesQuotient.coreRun.StaysIdle ∧ ∀ number, ∃ cycle,
    storesQuotient.coreRun.issues cycle = true ∧ storesQuotient.coreRun.issued 0 cycle = number :=
  ⟨fun cycle => (undisturbed_storesQuotient cycle).2,
    (CoreRun.traps_or_issues storesQuotient.coreRun
      (fun cycle => (undisturbed_storesQuotient cycle).1)
      (storesQuotient.responsive_instrBus rfl)
      (storesQuotient.responsive_dataBus rfl)).resolve_left noTrap_storesQuotient⟩

/-- They are the instructions of the machine, which reaches the loop and goes on. -/
theorem traps_or_executes_storesQuotient :
    storesQuotient.coreRun.ExecutesAll (fun _ => 0#8) (fun addr => (storesQuotient.program addr).1)
      ⟨Hart.boot 0#32, fun _ => 0#8⟩ ∧
    (Machine.run (fun addr => (storesQuotient.program addr).1) ⟨Hart.boot 0#32, fun _ => 0#8⟩
      (storesQuotient.coreRun.csrReads 0 49) 8).isSome = true ∧
    Machine.Regular (fun addr => (storesQuotient.program addr).1) ⟨Hart.boot 0#32, fun _ => 0#8⟩
      (storesQuotient.coreRun.csrReads 0 49) 8 :=
  ⟨(CoreRun.traps_or_executes storesQuotient.coreRun _ _ servedBy_storesQuotient
      servedData_storesQuotient rfl (CoreRun.secondAfterFirst_of_surroundings storesQuotient)
      (storesQuotient.responsive_instrBus rfl)
      (storesQuotient.responsive_dataBus rfl)).resolve_left noTrap_storesQuotient,
    by decide +kernel, Machine.regular_of_isRegular (by decide +kernel)⟩

end Surroundings

end RiscvCore
