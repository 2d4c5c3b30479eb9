import RiscvCore.MretReturn
import RiscvCore.ProgramFetch
import RiscvCore.StageContents
import RiscvCore.UndisturbedRuns

/-!
# The core executes its program

From a drained pipeline up to the next trap the core issues the instructions that the hart
executes, in its order, at its addresses and with its operands, whatever the buses make it wait
for and whatever it fetches on wrong paths.
-/

namespace RiscvCore

open BusProtocol (InOrder)

/-- What a memory holds at the address of an instruction is expanded to its machine word. -/
theorem payload_of_fetch {memory : Word → Word} {pc : Word} {instr : Instr} {compressed : Bool}
    (fetched : fetch memory pc = some (instr, compressed)) :
    (compressDecoder (instrAt memory pc)).1 = instr.encode ∧
      (!isLongAt memory pc) = compressed := by
  rw [fetch] at fetched
  cases long : isLongAt memory pc with
  | true =>
      rw [long, if_pos rfl, Option.map_eq_some_iff] at fetched
      obtain ⟨decoded, decodes, same⟩ := fetched
      rw [Prod.mk.injEq] at same
      have isFull : (instrAt memory pc).extractLsb' 0 2 = 0b11#2 := by
        have quadrant : (halfAt memory pc).quadrant = 0b11#2 := beq_iff_eq.mp long
        rw [instrAt, long, if_pos rfl, BitVec.extractLsb'_append_eq_of_add_le (by decide)]
        exact quadrant
      rw [compressDecoder_full isFull, ← same.1, ← same.2, Instr.encode_of_decode decodes]
      exact ⟨rfl, rfl⟩
  | false =>
      rw [long, if_neg Bool.false_ne_true, Option.map_eq_some_iff] at fetched
      obtain ⟨expanded, expands, same⟩ := fetched
      rw [Prod.mk.injEq] at same
      have low : lowHalf (instrAt memory pc) = halfAt memory pc := by
        rw [instrAt, long, if_neg Bool.false_ne_true]
        exact BitVec.extractLsb'_append_eq_right
      rw [← same.1, ← same.2]
      refine ⟨compressDecoder_row ?_, rfl⟩
      rw [low]
      exact Parcel.row_of_expand expands

namespace CoreState

variable {params : Params} {st : CoreState} {port : CoreInput}

theorem redirect_of_idle (params : Params) (port : CoreInput) (idle : st.fsm = .idle) :
    st.setPcValid params port = st.branchJump ∧ st.setPc params port = st.branchJumpTarget := by
  rw [setPcValid, setPc, excFetch_idle idle]
  exact ⟨Bool.or_false _, if_neg Bool.false_ne_true⟩

/-- Behind an instruction that issues fetch goes on at the next address. -/
theorem atAddress_step_of_issues (idle : st.fsm = .idle)
    (issues : st.issues params port = true) :
    (st.step params port).AtAddress st.ifs.pcIf := by
  simp only [CoreState.issues, Bool.and_eq_true, Bool.not_eq_true'] at issues
  obtain ⟨⟨instr, ready⟩, noFlush⟩ := issues
  have noBranch : st.branchJump = false := by
    rw [flushD, Bool.or_eq_false_iff] at noFlush
    exact noFlush.2
  have stays : (st.ifInput params port).setPcValid = false :=
    (redirect_of_idle params port idle).1.trans noBranch
  have valid := @instrValueId_step params st port
  rw [noFlush, if_neg Bool.false_ne_true, stall_of_idle idle, Bool.not_false, Bool.and_true,
    ready, if_pos rfl] at valid
  have address : (st.step params port).ifs.pcId = st.ifs.pcIf := by
    change (if st.readyId params port then st.ifs.pcIf else st.ifs.pcId) = _
    rw [ready, if_pos rfl]
  have fetch : (st.step params port).ifs.pcIf = st.ifs.nextPc (st.ifInput params port) := by
    change (if st.readyId params port && !st.stall || (st.ifInput params port).setPcValid then
      st.ifs.nextPc (st.ifInput params port) else st.ifs.pcIf) = _
    rw [ready, stall_of_idle idle, Bool.not_false, Bool.and_self, Bool.true_or, if_pos rfl]
  rw [AtAddress, valid, address, fetch, IfStage.nextPc, stays, if_neg Bool.false_ne_true]
  cases value : st.ifs.insnValue (st.ifInput params port) with
  | true => exact .inr ⟨rfl, rfl⟩
  | false => exact .inl ⟨rfl, rfl⟩

/-- A redirect that is not masked is the one that the operation in EX asks for. -/
theorem branchJump_of_unmasked (unmasked : st.branchJumpMask = false) :
    st.branchJump = ExStage.redirects st.idEx ∧
      st.branchJumpTarget = ExStage.redirectPc st.idEx := by
  rw [branchJump, branchJumpTarget, branchTaken, jumpTaken, unmasked]
  exact ⟨rfl, rfl⟩

/-- Fetch is at the address, or EX sends it there. -/
structure Heads (pc : Word) (st : CoreState) : Prop where
  located : st.branchJump = false → st.AtAddress pc
  target : st.branchJump = true → st.branchJumpTarget = pc

theorem Heads.step_of_noIssue {pc : Word} (heads : st.Heads pc) (idle : st.fsm = .idle)
    (noInstr : st.branchJump = true → (st.step params port).ifs.instrValueId = false)
    (noIssue : st.issues params port = false) : (st.step params port).Heads pc := by
  have noBranchNext : (st.step params port).branchJump = false :=
    branchJump_step_of_noIssue (flushE_of_idle idle) noIssue
  obtain ⟨isRedirect, redirectPc⟩ := redirect_of_idle params port idle
  constructor
  · intro _
    cases branch : st.branchJump with
    | false =>
        have noFlush : st.flushD = false := by
          rw [flushD, branch, Bool.or_false]
          exact flushE_of_idle idle
        exact (heads.located branch).step (isRedirect.trans branch) noFlush (stall_of_idle idle)
          noIssue
    | true =>
        rw [← heads.target branch, ← redirectPc]
        exact atAddress_step_of_redirect (isRedirect.trans branch) (noInstr branch)
  · intro branch
    rw [noBranchNext] at branch
    cases branch

/-- An instruction with the operands of the hart leads to its next address. -/
theorem heads_step_of_issues {hart : Hart} {instr : Instr} {compressed : Bool} {read : Outside}
    (idle : st.fsm = .idle) (follows : st.ifs.Follows) (issues : st.issues params port = true)
    (payload : st.ifs.instrPayloadId = instr.encode) (pcId : st.ifs.pcId = hart.pc)
    (length : st.ifs.compressInstrId = compressed)
    (notPredicted : st.ifs.predictTakenId = false)
    (operand1 : st.rs1RdData port = hart.operand instr.source1)
    (operand2 : st.rs2RdData port = hart.operand instr.source2)
    (even : ∀ rd rs1 imm, instr = .jalr rd rs1 imm →
      IsEven (hart.reg rs1 + imm.signExtend 32)) :
    (st.step params port).Heads (hart.execute instr compressed read).pc := by
  have instrValueId : st.ifs.instrValueId = true := by
    simp only [CoreState.issues, Bool.and_eq_true] at issues
    exact issues.1.1
  have sequential : st.ifs.pcIf = st.ifs.sequentialId := follows.pcIf instrValueId
  obtain ⟨tag, same⟩ := operation_of_issues payload issues
  have unmasked := branchJumpMask_of_ready (readyEx_of_issues issues)
  obtain ⟨branchJump, branchJumpTarget⟩ := branchJump_of_unmasked unmasked
  have goesTo := goesTo_of_operation
    (goesTo_issuedAt st.idEx st.ifs (st.rs1RdData port) (st.rs2RdData port) tag instr notPredicted
      (by
        rintro rd rs1 imm rfl
        rw [operand1]
        exact even rd rs1 imm rfl)) same
  have next : (hart.execute instr compressed read).pc =
      instr.nextPc st.ifs.pcId (st.rs1RdData port) (st.rs2RdData port) st.ifs.sequentialId := by
    rw [IfStage.sequentialId, pcId, length, operand1, operand2]
    rfl
  rw [next]
  constructor
  · intro noBranch
    rw [← goesTo.noRedirect (branchJump ▸ noBranch), ← sequential]
    exact atAddress_step_of_issues idle issues
  · intro branch
    rw [branchJumpTarget]
    exact goesTo.redirect (branchJump ▸ branch)

end CoreState

namespace CoreRun

variable (run : CoreRun) (memory : Word → Word) (first : Hart) (outside : Nat → Outside)

/-- No fetch is denied, and the instruction bus answers every grant in order, at least one cycle
later, with the word of the memory and without an error. -/
structure ServedBy : Prop where
  noDenial : ∀ cycle, (run.state cycle).ifs.pmpErr run.params.pmpEnable
    ((run.state cycle).ifInput run.params (run.inputs cycle)) = false
  instr : InOrder (fun addr answer => answer = (memory addr, false)) run.instrBus

/-- The instruction that issues in the cycle is the one the hart executes next, with the operands
that the hart has. -/
structure IssuesFor (cycle : Nat) (hart : Hart) : Prop where
  pc : (run.state cycle).ifs.pcId = hart.pc
  executes : ∀ instr compressed, fetch memory hart.pc = some (instr, compressed) →
    instr.stops = false ∧ (run.state cycle).ifs.instrPayloadId = instr.encode ∧
      (run.state cycle).ifs.compressInstrId = compressed ∧
        (run.state cycle).rs1RdData (run.inputs cycle) = hart.operand instr.source1 ∧
          (run.state cycle).rs2RdData (run.inputs cycle) = hart.operand instr.source2

/-- Fetch delivers the instructions of the memory in the order of their addresses. -/
structure FetchesAhead (cycle : Nat) : Prop where
  inSequence : (run.state cycle).InSequence
  refetches : ∃ marks, run.fetchRun.Aligned cycle marks ∧ (run.state cycle).ifs.Refetches marks
  fetching : run.fetchRun.Fetching memory cycle

/-- The core and the hart in front of the instruction that issues next. -/
structure Refining (start cycle : Nat) (hart : Hart) : Prop where
  tracks : (run.state cycle).ScoreBoardTracks
  ahead : run.FetchesAhead memory cycle
  quiet : (run.state cycle).ifs.fifoFlush = true → (run.state cycle).branchJump = false
  carry : run.StagesCarry memory first outside start cycle
  heads : (run.state cycle).Heads hart.pc

/-- A drained pipeline, with fetch in front of the hart. -/
structure Drained (start : Nat) : Prop where
  emptyEx : run.inEx start = none
  emptyMem : run.inMem start = none
  emptyWb : run.inWb start = none
  tracks : (run.state start).ScoreBoardTracks
  ahead : run.FetchesAhead memory start
  noBranch : (run.state start).branchJump = false
  located : (run.state start).AtAddress first.pc
  even : IsEven first.pc
  registers : (run.state start).rf.mem = first.reg

/-- The core in a cycle and the hart in front of the instruction that issues next. -/
structure InStep (start cycle : Nat) (hart : Hart) : Prop where
  issues : run.issues cycle = true → run.IssuesFor memory cycle hart
  inFlight : run.issued start cycle =
    run.committed start cycle + run.countWb cycle + run.countMem cycle + run.countEx cycle
  registers : ∃ behind,
    Hart.run memory first outside (run.committed start cycle) = some behind ∧
      (run.state cycle).rf.mem = behind.reg

/-- From the start up to the last cycle the core executes what the hart executes, as long as the
hart goes on. -/
def Executes (start last : Nat) : Prop :=
  ∀ cycle, start ≤ cycle → cycle ≤ last → ∀ hart,
    Hart.run memory first (run.outside start last) (run.issued start cycle) = some hart →
      run.InStep memory first (run.outside start last) start cycle hart

variable {run memory first outside} {start last cycle : Nat} {hart : Hart}

/-! ## The surroundings -/

theorem ServedBy.serves (served : run.ServedBy memory) : run.fetchRun.Serves memory where
  noDenial := by
    intro cycle
    rw [state_fetchRun]
    exact served.noDenial cycle
  inOrder :=
    { requested := by
        intro cycle grant
        have requested := served.instr.requested cycle grant
        rw [FetchRun.bus, state_fetchRun]
        exact requested
      answered := by
        intro cycle valid
        obtain ⟨addr, rest, queue, answer⟩ := served.instr.answered cycle valid
        exact ⟨addr, rest, (run.pending_fetchRun cycle).trans queue, congrArg Prod.fst answer⟩ }
  noError := by
    intro cycle valid
    obtain ⟨addr, rest, -, answer⟩ := served.instr.answered cycle valid
    exact congrArg Prod.snd answer

theorem ServedBy.undenied (served : run.ServedBy memory) : run.fetchRun.Undenied where
  noDenial := served.serves.noDenial
  inOrder :=
    { requested := served.serves.inOrder.requested
      answered := fun cycle valid => by
        obtain ⟨addr, rest, queue, -⟩ := served.serves.inOrder.answered cycle valid
        exact ⟨addr, rest, queue, trivial⟩ }

theorem FetchesAhead.succ (ahead : run.FetchesAhead memory cycle) (served : run.ServedBy memory)
    (bootAligned : run.bootAddr.toNat % 4 = 0)
    (wakesEmpty : (run.state cycle).fsm = .wakeup →
      (run.state cycle).ifs.insnValue ((run.state cycle).ifInput run.params (run.inputs cycle)) =
        false)
    (redirectable : run.fetchRun.Redirectable cycle) : run.FetchesAhead memory (cycle + 1) := by
  obtain ⟨marks, aligned, refetches⟩ := ahead.refetches
  have undenied := served.undenied
  have next := undenied.refetches_succ aligned (by rw [state_fetchRun]; exact refetches)
    redirectable.settled redirectable.empties
  rw [state_fetchRun] at next
  constructor
  · rw [run.state_succ]
    exact ahead.inSequence.step wakesEmpty
  · exact ⟨_, aligned.step (undenied.noDenial cycle) undenied.queued, next⟩
  · exact ahead.fetching.succ served.serves bootAligned redirectable

/-- While words are discarded ID is empty. -/
theorem FetchesAhead.noInstr_of_discards (ahead : run.FetchesAhead memory cycle)
    (discards : (run.state cycle).ifs.fifoFlush = true) :
    (run.state cycle).ifs.instrValueId = false := by
  obtain ⟨marks, -, refetches⟩ := ahead.refetches
  exact (refetches.emptied discards).noInstr

/-- Without a redirect no words begin to be discarded. -/
theorem FetchesAhead.discards_of_succ (ahead : run.FetchesAhead memory cycle)
    (served : run.ServedBy memory)
    (noRedirect : (run.state cycle).setPcValid run.params (run.inputs cycle) = false)
    (discards : (run.state (cycle + 1)).ifs.fifoFlush = true) :
    (run.state cycle).ifs.fifoFlush = true := by
  obtain ⟨marks, aligned, refetches⟩ := ahead.refetches
  have nonempty := aligned.nonempty served.undenied.queued
  have queue := aligned.queue
  rw [state_fetchRun] at queue
  rw [run.state_succ] at discards
  exact (refetches.one.discards_of_next run.params.pmpEnable (queue.answersMarks nonempty)
    noRedirect discards).1

/-- The instruction in ID is the one at its address. -/
theorem FetchesAhead.holds (ahead : run.FetchesAhead memory cycle)
    (valid : (run.state cycle).ifs.instrValueId = true) {instr : Instr} {compressed : Bool}
    (fetched : fetch memory (run.state cycle).ifs.pcId = some (instr, compressed)) :
    (run.state cycle).ifs.instrPayloadId = instr.encode ∧
      (run.state cycle).ifs.compressInstrId = compressed ∧
        (run.state cycle).decoded = instr.controls := by
  obtain ⟨word, length⟩ := payload_of_fetch fetched
  have holds := ahead.fetching.holds
  rw [IfStage.HoldsInstr, state_fetchRun] at holds
  obtain ⟨payload, compress⟩ := holds valid
  rw [word] at payload
  rw [length] at compress
  refine ⟨payload, compress, ?_⟩
  rw [CoreState.decoded, payload, valid, instr.decoder_encode]

theorem notPredicted (run : CoreRun) (cycle : Nat) :
    (run.state cycle).ifs.predictTakenId = false := by
  induction cycle with
  | zero => rfl
  | succ cycle induction =>
      rw [run.state_succ]
      change (IfStage.nextIfId _ _).predictTakenId = false
      rw [IfStage.nextIfId]
      split
      · rfl
      · split
        · rfl
        · exact induction

/-- An instruction that issues is the hart's next one. -/
theorem Refining.issuesFor (refining : run.Refining memory first outside start cycle hart)
    (supplied : run.SuppliedAt outside start cycle) (zero : first.reg 0#5 = 0#32)
    (ranks : run.executed start cycle =
      run.committed start cycle + run.countWb cycle + run.countMem cycle)
    (rank : run.issued start cycle = run.executed start cycle + run.countEx cycle)
    (runs : Hart.run memory first outside (run.issued start cycle) = some hart)
    (issues : run.issues cycle = true) : run.IssuesFor memory cycle hart := by
  have issuing : (run.state cycle).issues run.params (run.inputs cycle) = true := issues
  have ready := readyEx_of_issues issues
  simp only [CoreState.issues, CoreState.readyId, Bool.and_eq_true, Bool.not_eq_true'] at issuing
  obtain ⟨⟨value, ⟨noStall, -⟩, noTrap⟩, noFlush⟩ := issuing
  have noBranch : (run.state cycle).branchJump = false := by
    rw [CoreState.flushD, Bool.or_eq_false_iff] at noFlush
    exact noFlush.2
  have pcId : (run.state cycle).ifs.pcId = hart.pc :=
    (refining.heads.located noBranch).pcId_of_issues issues
  refine ⟨pcId, fun instr compressed fetched => ?_⟩
  rw [← pcId] at fetched
  obtain ⟨payload, compress, decoded⟩ := refining.ahead.holds value fetched
  have goesOn : instr.stops = false := by
    rw [← instr.waits_controls, ← decoded]
    rw [CoreState.excTakenId, Bool.or_eq_false_iff, CoreState.exceptionTakenId,
      IdStage.exceptionTakenId] at noTrap
    simp only [Bool.or_eq_false_iff] at noTrap
    obtain ⟨⟨⟨⟨⟨⟨⟨⟨ecall, ebreak⟩, -⟩, -⟩, mret⟩, -⟩, fence⟩, wfi⟩, -⟩ := noTrap
    rw [Decoded.waits, ecall, ebreak, mret, fence, wfi]
    rfl
  have available : (run.state cycle).readRfBusy (run.inputs cycle) = false := by
    rw [CoreState.stallId, Bool.or_eq_false_iff] at noStall
    exact noStall.1
  rw [CoreState.readRfBusy, IdStage.readRfBusy, Bool.or_eq_false_iff] at available
  have operand (enable : Bool) (addr : RegAddr)
      (known : (enable && !ScoreBoard.rdValue (run.state cycle).rf enable addr
        ((run.state cycle).forwards (run.inputs cycle))) = false) :
      ScoreBoard.rdData (run.state cycle).rf enable addr
        ((run.state cycle).forwards (run.inputs cycle)) =
        hart.operand (if enable then some addr else none) := by
    cases enable with
    | false => simp [ScoreBoard.rdData, ScoreBoard.rdRfDirty, ScoreBoard.rdRfData,
        ScoreBoard.bypass, ScoreBoard.gate, Hart.operand]
    | true =>
        refine refining.carry.rdData_of_available supplied zero refining.tracks ready
          ranks rank runs ?_
        simpa using known
  refine ⟨goesOn, payload, compress, ?_, ?_⟩
  · rw [← instr.source1_controls, ← decoded]
    exact operand _ _ available.1
  · rw [← instr.source2_controls, ← decoded]
    exact operand _ _ available.2

section Step

variable (refining : run.Refining memory first outside start cycle hart)
  (supplied : run.SuppliedAt outside start cycle) (ordered : start ≤ cycle)
  (idle : (run.state cycle).fsm = .idle)
  (evenFirst : IsEven first.pc) (zero : first.reg 0#5 = 0#32)
  (ranks : run.executed start cycle =
    run.committed start cycle + run.countWb cycle + run.countMem cycle)
  (rank : run.issued start cycle = run.executed start cycle + run.countEx cycle)
  (runs : Hart.run memory first outside (run.issued start cycle) = some hart)

include refining supplied ordered zero ranks rank runs

theorem Refining.ex_succ (issue : Nat) (entered : run.inEx (cycle + 1) = some issue)
    (front : Hart) (instr : Instr) (compressed : Bool)
    (runsFront : Hart.run memory first outside (run.executed start (cycle + 1)) = some front)
    (fetched : fetch memory front.pc = some (instr, compressed)) :
    (run.state (cycle + 1)).idEx.Executes front instr compressed := by
  rw [inEx_succ] at entered
  rw [executed_succ run ordered] at runsFront
  cases issues : run.issues cycle with
  | true =>
      have leaves : (run.leavesEx cycle).toNat = run.countEx cycle := by
        rw [leavesEx, readyEx_of_issues issues, Bool.and_true]
        rfl
      rw [leaves, ← rank, runs, Option.some.injEq] at runsFront
      subst runsFront
      have issuesFor := refining.issuesFor supplied zero ranks rank runs issues
      obtain ⟨-, payload, length, operand1, operand2⟩ := issuesFor.executes instr compressed fetched
      obtain ⟨tag, same⟩ := CoreState.operation_of_issues payload issues
      rw [operand1, operand2] at same
      refine ⟨(run.state cycle).idEx, _, tag, issuesFor.pc, length, run.notPredicted cycle, ?_⟩
      rw [run.state_succ]
      exact same
  | false =>
      rw [issues, if_neg Bool.false_ne_true] at entered
      cases ready : run.readyEx cycle with
      | true =>
          rw [ready, if_pos rfl] at entered
          cases entered
      | false =>
          rw [ready, if_neg Bool.false_ne_true] at entered
          have waits : (run.leavesEx cycle).toNat = 0 := by
            rw [leavesEx, ready, Bool.and_false]
            rfl
          have held : (run.state (cycle + 1)).idEx.operation =
              (run.state cycle).idEx.operation := by
            rw [run.state_succ]
            exact CoreState.operation_of_notReady ready
          rw [waits] at runsFront
          obtain ⟨idEx, ifs, tag, pcId, length, noPrediction, same⟩ :=
            refining.carry.ex issue entered front instr compressed runsFront fetched
          exact ⟨idEx, ifs, tag, pcId, length, noPrediction, held.trans same⟩

include idle

theorem Refining.carry_succ : run.StagesCarry memory first outside start (cycle + 1) where
  registers := fun hart =>
    refining.carry.registers_succ supplied ordered idle zero hart
  wb := refining.carry.wb_succ ordered idle
  mem := refining.carry.mem_succ supplied ordered idle ranks
  ex := refining.ex_succ supplied ordered zero ranks rank runs

omit supplied ordered zero ranks rank runs in
/-- A redirect leaves ID empty. -/
theorem Refining.empties
    (redirects : (run.state cycle).setPcValid run.params (run.inputs cycle) = true) :
    (run.state (cycle + 1)).ifs.instrValueId = false := by
  rw [run.state_succ]
  refine refining.ahead.inSequence.empties (fun waking => ?_) redirects
  rw [idle] at waking
  cases waking

/-- Fetch goes on where the hart goes on. -/
theorem Refining.heads_succ {next : Hart}
    (even : run.issues cycle = true → ∀ rd rs1 imm compressed,
      fetch memory hart.pc = some (.jalr rd rs1 imm, compressed) →
        IsEven (hart.reg rs1 + imm.signExtend 32))
    (runsNext : Hart.run memory first outside (run.issued start (cycle + 1)) = some next) :
    (run.state (cycle + 1)).Heads next.pc := by
  have empties := refining.empties idle
  rw [run.state_succ] at empties ⊢
  rw [issued_succ ordered] at runsNext
  cases issues : run.issues cycle with
  | true =>
      rw [issues] at runsNext
      obtain ⟨front, runsFront, steps⟩ := Hart.step_of_run runsNext
      rw [runs, Option.some.injEq] at runsFront
      subst runsFront
      obtain ⟨instr, compressed, fetched, -, rfl⟩ := Hart.execute_of_step steps
      have issuesFor := refining.issuesFor supplied zero ranks rank runs issues
      obtain ⟨-, payload, length, operand1, operand2⟩ := issuesFor.executes instr compressed fetched
      refine CoreState.heads_step_of_issues idle refining.ahead.inSequence.follows issues payload
        issuesFor.pc length (run.notPredicted cycle) operand1 operand2 ?_
      rintro rd rs1 imm rfl
      exact even issues rd rs1 imm compressed fetched
  | false =>
      rw [issues] at runsNext
      have same : hart = next := Option.some.inj (runs.symm.trans runsNext)
      subst same
      refine refining.heads.step_of_noIssue idle (fun branch => empties ?_) issues
      exact (CoreState.redirect_of_idle run.params (run.inputs cycle) idle).1.trans branch

include evenFirst

omit supplied ordered zero ranks rank in
/-- A redirect goes to the hart's address and finds fetch settled. -/
theorem Refining.redirectable : run.fetchRun.Redirectable cycle := by
  obtain ⟨isRedirect, redirectPc⟩ :=
    CoreState.redirect_of_idle run.params (run.inputs cycle) idle
  have isBranch (redirects : run.fetchRun.redirects cycle = true) :
      (run.state cycle).branchJump = true := isRedirect.symm.trans redirects
  constructor
  · intro redirects
    refine Nat.pos_of_ne_zero ?_
    rintro rfl
    cases isBranch redirects
  · intro redirects
    rw [state_fetchRun]
    cases discards : (run.state cycle).ifs.fifoFlush with
    | false => rfl
    | true =>
        rw [refining.quiet discards] at isBranch
        cases isBranch redirects
  · intro redirects
    change IsEven ((run.state cycle).setPc run.params (run.inputs cycle))
    rw [redirectPc, refining.heads.target (isBranch redirects)]
    exact Hart.isEven_of_run evenFirst runs
  · intro redirects
    rw [state_fetchRun]
    exact refining.empties idle redirects
  · intro stalled
    have awake : (run.state cycle).stall = false := CoreState.stall_of_idle idle
    rw [show (run.state cycle).stall = true from stalled] at awake
    cases awake

theorem Refining.succ (served : run.ServedBy memory) (bootAligned : run.bootAddr.toNat % 4 = 0)
    (even : run.issues cycle = true → ∀ rd rs1 imm compressed,
      fetch memory hart.pc = some (.jalr rd rs1 imm, compressed) →
        IsEven (hart.reg rs1 + imm.signExtend 32)) {next : Hart}
    (runsNext : Hart.run memory first outside (run.issued start (cycle + 1)) = some next) :
    run.Refining memory first outside start (cycle + 1) next := by
  have redirectable := refining.redirectable idle evenFirst runs
  constructor
  · rw [run.state_succ]
    exact CoreState.scoreBoardTracks_step idle refining.tracks
  · refine refining.ahead.succ served bootAligned (fun waking => ?_) redirectable
    rw [idle] at waking
    cases waking
  · intro discards
    -- fetch has been discarding with an empty ID, or the branch that redirected it was in EX
    have noIssue : run.issues cycle = false := by
      cases branch : (run.state cycle).branchJump with
      | true =>
          refine CoreState.issues_of_flushD ?_
          rw [CoreState.flushD, branch, Bool.or_true]
      | false =>
          have noRedirect : (run.state cycle).setPcValid run.params (run.inputs cycle) = false :=
            (CoreState.redirect_of_idle run.params (run.inputs cycle) idle).1.trans branch
          have discarding := refining.ahead.discards_of_succ served noRedirect discards
          exact CoreState.issues_of_noInstr (refining.ahead.noInstr_of_discards discarding)
    rw [run.state_succ]
    exact CoreState.branchJump_step_of_noIssue (CoreState.flushE_of_idle idle) noIssue
  · exact refining.carry_succ supplied ordered idle zero ranks rank runs
  · exact refining.heads_succ supplied ordered idle zero ranks rank runs even runsNext

end Step

/-! ## Runs -/

theorem Drained.zero (drained : run.Drained memory first start) : first.reg 0#5 = 0#32 := by
  rw [← drained.registers]
  exact (run.zeroRegister start).1

theorem Drained.refining (drained : run.Drained memory first start) :
    run.Refining memory first outside start start first where
  tracks := drained.tracks
  ahead := drained.ahead
  quiet := fun _ => drained.noBranch
  carry := by
    have hold := run.stagesHold start
    have noneWb : run.countWb start = 0 := by
      rw [countWb, drained.emptyWb]
      rfl
    have noneMem : run.countMem start = 0 := by
      rw [countMem, drained.emptyMem]
      rfl
    constructor
    · intro hart runs
      rw [committed, SynchronousRun.occurrences_self] at runs
      obtain rfl : first = hart := Option.some.inj runs
      exact drained.registers
    · rw [noneWb]
      exact Hart.carries_zero (hold.wb drained.emptyWb).2
    · rw [noneMem]
      exact Hart.carries_zero (hold.mem drained.emptyMem).2
    · intro issue entered
      rw [drained.emptyEx] at entered
      cases entered
  heads :=
    { located := fun _ => drained.located
      target := fun branch => by
        rw [drained.noBranch] at branch
        cases branch }

section Run

variable (drained : run.Drained memory first start) (served : run.ServedBy memory)
  (bootAligned : run.bootAddr.toNat % 4 = 0)
  (supplied : ∀ cycle, start ≤ cycle → cycle ≤ last → run.SuppliedAt outside start cycle)
  (jumps : Hart.JumpsEven memory first outside) (idle : run.IdleFrom start last)

include drained idle

theorem Drained.ranks (ordered : start ≤ cycle) (inside : cycle ≤ last) :
    run.executed start cycle =
        run.committed start cycle + run.countWb cycle + run.countMem cycle ∧
      run.issued start cycle = run.executed start cycle + run.countEx cycle :=
  ⟨executed_eq idle drained.emptyMem drained.emptyWb ordered (by omega),
    issued_eq drained.emptyEx ordered⟩

include served bootAligned supplied jumps

/-- The core stays with the hart as long as the hart goes on. -/
theorem Drained.refining_upTo (ordered : start ≤ cycle) (inside : cycle ≤ last) {hart : Hart}
    (runs : Hart.run memory first outside (run.issued start cycle) = some hart) :
    run.Refining memory first outside start cycle hart := by
  induction ordered generalizing hart with
  | refl =>
      rw [issued, SynchronousRun.occurrences_self] at runs
      obtain rfl : first = hart := Option.some.inj runs
      exact drained.refining
  | @step cycle ordered induction =>
      have before : cycle ≤ last := Nat.le_of_succ_le inside
      have later := runs
      rw [Nat.succ_eq_add_one, issued_succ ordered] at later
      obtain ⟨previous, runsBefore⟩ := Hart.exists_run_of_le later (Nat.le_add_right _ _)
      obtain ⟨ranks, rank⟩ := drained.ranks idle ordered before
      exact (induction before runsBefore).succ (supplied cycle ordered before) ordered
        (idle cycle ordered before) drained.even drained.zero ranks rank runsBefore served
        bootAligned
        (fun _ rd rs1 imm compressed => jumps _ previous rd rs1 imm compressed runsBefore)
        runs

theorem Drained.inStep (ordered : start ≤ cycle) (inside : cycle ≤ last) {hart : Hart}
    (runs : Hart.run memory first outside (run.issued start cycle) = some hart) :
    run.InStep memory first outside start cycle hart := by
  have refining := drained.refining_upTo served bootAligned supplied jumps idle ordered inside runs
  obtain ⟨ranks, rank⟩ := drained.ranks idle ordered inside
  refine ⟨?_, ?_, ?_⟩
  · exact refining.issuesFor (supplied cycle ordered inside) drained.zero ranks rank runs
  · rw [rank, ranks]
  · rw [rank, ranks, Nat.add_assoc, Nat.add_assoc] at runs
    obtain ⟨behind, runsBehind⟩ := Hart.exists_run_of_le runs (Nat.le_add_right _ _)
    exact ⟨behind, runsBehind, refining.carry.registers behind runsBehind⟩

end Run

/-- After reset the pipeline is drained and fetch is at the boot address. -/
theorem drained_zero (run : CoreRun) (memory : Word → Word)
    (bootAligned : run.bootAddr.toNat % 4 = 0) :
    run.Drained memory (Hart.boot run.bootAddr) 0 where
  emptyEx := rfl
  emptyMem := rfl
  emptyWb := rfl
  tracks := CoreState.scoreBoardTracks_reset run.bootAddr
  ahead :=
    { inSequence := CoreState.inSequence_reset run.bootAddr
      refetches := ⟨[], ⟨IfStage.commandQueue_reset run.bootAddr, rfl⟩,
        IfStage.oneMark_reset run.bootAddr, fun _ => IfStage.emptied_reset run.bootAddr⟩
      fetching := FetchRun.fetching_zero run.fetchRun memory }
  noBranch := rfl
  located := .inl ⟨rfl, rfl⟩
  even := by
    change run.bootAddr.getLsbD 0 = false
    rw [BitVec.getLsbD, Nat.testBit_zero]
    exact decide_eq_false (by omega)
  registers := rfl

/-- From reset to the first trap the core executes its program. -/
theorem executes_boot (run : CoreRun) (memory : Word → Word) {last : Nat}
    (served : run.ServedBy memory) (bootAligned : run.bootAddr.toNat % 4 = 0)
    (jumps : Hart.JumpsEven memory (Hart.boot run.bootAddr) (run.outside 0 last))
    (idle : run.IdleThrough last) : run.Executes memory (Hart.boot run.bootAddr) 0 last :=
  fun _ ordered inside _ runs =>
    (run.drained_zero memory bootAligned).inStep served bootAligned
      (fun _ => run.suppliedAt_outside) jumps (fun cycle _ => idle cycle) ordered inside runs

end CoreRun

namespace Surroundings

/-- `addi x1, x0, 1`, a taken `bne` over an instruction, and `add x2, x1, x1`. -/
def branchThenAdd : Surroundings where
  program := programOf [0x00100093#32, 0x00009463#32, 0x00200093#32, 0x00108133#32]
  rest := 12

theorem mem_programOf (words : List Word) (addr : Word) :
    (programOf words addr).1 ∈ 0x00000013#32 :: words := by
  rw [programOf, List.getD_eq_getElem?_getD]
  cases found : words[addr.toNat / 4]? with
  | none => exact List.mem_cons_self
  | some word => exact List.mem_cons_of_mem _ (List.mem_of_getElem? found)

end Surroundings

namespace CoreRun

open Surroundings (branchThenAdd)

theorem servedBy_branchThenAdd :
    branchThenAdd.coreRun.ServedBy fun addr => (branchThenAdd.program addr).1 where
  noDenial := branchThenAdd.forall_cycle_of_settled 17 (by decide) (fun _ _ => rfl)
    (by decide +kernel)
    (fun st port => st.ifs.pmpErr defaultParams.pmpEnable (st.ifInput defaultParams port) = false)
    (by decide +kernel)
  instr := branchThenAdd.wellConnected.instr

theorem executes_branchThenAdd :
    branchThenAdd.coreRun.Executes (fun addr => (branchThenAdd.program addr).1)
      (Hart.boot 0#32) 0 14 := by
  have noJump (addr : Word) :
      (Parcel.noComputedJump ((branchThenAdd.program addr).1.extractLsb' 0 16) &&
        Parcel.noComputedJump ((branchThenAdd.program addr).1.extractLsb' 16 16)) = true := by
    have words : [0x00000013#32, 0x00100093#32, 0x00009463#32, 0x00200093#32, 0x00108133#32].all
        (fun word => Parcel.noComputedJump (word.extractLsb' 0 16) &&
          Parcel.noComputedJump (word.extractLsb' 16 16)) = true := by decide +kernel
    exact List.all_eq_true.mp words _ (Surroundings.mem_programOf _ addr)
  have idle : ∀ cycle, cycle ≤ 14 → (branchThenAdd.system cycle).core.fsm = .idle := by
    decide +kernel
  refine executes_boot branchThenAdd.coreRun _ servedBy_branchThenAdd rfl ?_ ?_
  · exact Hart.jumpsEven_of_noComputedJump fun addr => Bool.and_eq_true_iff.mp (noJump addr)
  · intro cycle inside
    rw [branchThenAdd.state_coreRun]
    exact idle cycle inside

end CoreRun

end RiscvCore
