import RiscvCore.DecodedInstructions

/-!
# Branches and jumps in EX

A branch or jump is resolved in its first cycle in EX, whatever was predicted for it and however
long it has to stay there: fetch is redirected at most once, to the next PC of the instruction set.
-/

namespace RiscvCore

/-- Whether a branch with these operands is taken. -/
def BranchCond.holds (cond : BranchCond) (a b : Word) : Bool :=
  match cond with
  | beq => a == b
  | bne => a != b
  | blt => decide (a.toInt < b.toInt)
  | bge => decide (b.toInt ≤ a.toInt)
  | bltu => decide (a.toNat < b.toNat)
  | bgeu => decide (b.toNat ≤ a.toNat)

/-- A branch or jump with the values it depends on: its operands, its address and whether it is a
16-bit instruction. -/
structure Transfer where
  instr : Instr
  pc : Word
  a : Word
  b : Word
  compressed : Bool

namespace Transfer

variable (transfer : Transfer)

/-- A conditional branch or a jump. -/
def valid : Bool :=
  match transfer.instr with
  | .branch _ _ _ _ | .jal _ _ | .jalr _ _ _ => true
  | _ => false

def taken : Bool :=
  match transfer.instr with
  | .branch cond _ _ _ => cond.holds transfer.a transfer.b
  | _ => true

def target : Word :=
  match transfer.instr with
  | .branch _ _ _ offset => transfer.pc + Instr.byteOffset offset
  | .jal _ offset => transfer.pc + Instr.byteOffset offset
  | .jalr _ _ imm => transfer.a + imm.signExtend 32
  | _ => 0#32

/-- The address of the instruction that follows in memory. -/
def sequential : Word := transfer.pc + if transfer.compressed then 2#32 else 4#32

def nextPc : Word := if transfer.taken then transfer.target else transfer.sequential

/-- The register that a jump writes. -/
def link : Option RegAddr :=
  match transfer.instr with
  | .jal rd _ | .jalr rd _ _ => some rd
  | _ => none

/-- A prediction that does not lead to the next PC; for a taken branch or a direct jump the
predicted target is the right one. -/
def mispredicted (taken : Bool) (targetPc : Word) : Bool :=
  match transfer.instr with
  | .jalr _ _ _ => !taken || targetPc != transfer.target
  | _ => taken != transfer.taken

end Transfer

theorem sub_beq_zero (a b : Word) : (a - b == 0#32) = (a == b) := by
  rw [Bool.eq_iff_iff, beq_iff_eq, beq_iff_eq]
  constructor
  · intro isZero
    bv_omega
  · rintro rfl
    exact BitVec.sub_self a

theorem rvCompare_ge (sign : Bool) (adderRes a b : Word) :
    rvCompare sign .ge adderRes a b = !rvCompare sign .lt adderRes a b := by
  simp only [rvCompare, Bool.not_not]

/-- The comparator computes the condition of a branch. -/
theorem rvCompare_holds (cond : BranchCond) (a b : Word) :
    rvCompare cond.compare.2 cond.compare.1 (rvAdder .sub a b) a b = cond.holds a b := by
  rw [rvAdder_sub]
  cases cond with
  | beq => exact sub_beq_zero a b
  | bne => exact congrArg not (sub_beq_zero a b)
  | blt => exact rvCompare_lt_signed a b
  | bltu => exact rvCompare_lt_unsigned a b
  | bge =>
      refine (rvCompare_ge true (a - b) a b).trans ?_
      rw [rvCompare_lt_signed, BitVec.slt_eq_decide, ← decide_not]
      exact decide_eq_decide.mpr Int.not_lt
  | bgeu =>
      refine (rvCompare_ge false (a - b) a b).trans ?_
      rw [rvCompare_lt_unsigned, BitVec.ult_eq_decide, ← decide_not]
      exact decide_eq_decide.mpr Nat.not_lt

/-! ## Resolution in EX -/

theorem adder2Result_eq (ex : IdEx) :
    ExStage.adder2Result ex = ex.pcEx + if ex.compressInstrEx then 2#32 else 4#32 := by
  rw [ExStage.adder2Result, rvAdder_add]
  cases ex.compressInstrEx <;> rfl

/-- What EX makes of an operation: whether and where it redirects fetch unless it is masked, and
what a jump delivers. -/
structure ExStage.Resolves (ex : IdEx) (mispredicted : Bool) (transfer : Transfer) : Prop where
  transfers : (ex.branchEx || ex.jumpEx) = true
  redirects : ∀ mask,
    (ExStage.branchTaken ex mask || ExStage.jumpTaken ex mask) = (mispredicted && !mask)
  target : mispredicted = true →
    ((if ExStage.branchTaken ex false then ExStage.branchTargetAddr ex else 0#32) |||
      (if ExStage.jumpTaken ex false then ExStage.jumpTargetAddr ex else 0#32)) = transfer.nextPc
  link : ∀ rd, transfer.link = some rd → ex.rdWrEnEx = true ∧ ex.rdWrAddrEx = rd ∧
    ∀ div csrRdata, ExStage.rdWrDataEx ex div csrRdata = transfer.sequential

section Issue

variable (idEx : IdEx) (ifs : IfStage) (a b : Word) (tag : Tag) (instr : Instr)

/-- The instruction as it issues, with its operands. -/
def issuedTransfer : Transfer where
  instr := instr
  pc := ifs.pcId
  a := a
  b := b
  compressed := ifs.compressInstrId

/-- The register in front of EX after the issue. -/
def issuedAt : IdEx :=
  { IdStage.issued idEx ifs instr.controls a b tag with pcEx := ifs.pcId }

theorem resolves_branch (cond : BranchCond) (rs1 rs2 : RegAddr) (offset : BitVec 12) :
    ExStage.Resolves (issuedAt idEx ifs a b tag (.branch cond rs1 rs2 offset))
      ((issuedTransfer ifs a b (.branch cond rs1 rs2 offset)).mispredicted ifs.predictTakenId
        ifs.predictPcId)
      (issuedTransfer ifs a b (.branch cond rs1 rs2 offset)) := by
  generalize entered : issuedAt idEx ifs a b tag (.branch cond rs1 rs2 offset) = ex
  have compare : ExStage.compareResult ex = cond.holds a b := by
    subst entered
    exact rvCompare_holds cond a b
  have taken : ExStage.adder1Result ex = ifs.pcId + Instr.byteOffset offset := by
    subst entered
    rw [ExStage.adder1Result, rvAdder_add]
    exact congrArg (ifs.pcId + ·) (immBtype_bFormat rs2 rs1 cond.funct3 _ offset)
  have sequential : ExStage.adder2Result ex =
      ifs.pcId + if ifs.compressInstrId then 2#32 else 4#32 := by
    subst entered
    exact adder2Result_eq _
  have predicted : ex.predictTakenEx = ifs.predictTakenId := by
    subst entered
    rfl
  have isBranch : ex.branchEx = true ∧ ex.jumpEx = false ∧ ex.jalrEx = false := by
    subst entered
    exact ⟨rfl, rfl, rfl⟩
  obtain ⟨branch, notJump, notJalr⟩ := isBranch
  refine ⟨by rw [branch]; rfl, fun mask => ?_, fun mispredicted => ?_, fun rd noLink => ?_⟩
  · simp only [ExStage.branchTaken, ExStage.jumpTaken, ExStage.predictFail, ExStage.bhtFail,
      ExStage.btbFail, compare, branch, notJump, notJalr, predicted, Transfer.mispredicted,
      Transfer.taken, issuedTransfer]
    cases ifs.predictTakenId <;> cases cond.holds a b <;> cases mask <;> rfl
  · have outcome : cond.holds a b = !ifs.predictTakenId := by
      revert mispredicted
      change (ifs.predictTakenId != cond.holds a b) = true → _
      cases ifs.predictTakenId <;> cases cond.holds a b <;> simp
    have isTaken : (issuedTransfer ifs a b (.branch cond rs1 rs2 offset)).taken =
        !ifs.predictTakenId := outcome
    simp only [ExStage.branchTaken, ExStage.jumpTaken, ExStage.predictFail, ExStage.bhtFail,
      ExStage.btbFail, ExStage.branchTargetAddr, compare, outcome, taken, sequential, predicted,
      branch, notJump, notJalr, Transfer.nextPc, isTaken]
    cases ifs.predictTakenId <;> exact BitVec.or_zero
  · cases noLink

theorem resolves_jal (rd : RegAddr) (offset : BitVec 20) :
    ExStage.Resolves (issuedAt idEx ifs a b tag (.jal rd offset))
      ((issuedTransfer ifs a b (.jal rd offset)).mispredicted ifs.predictTakenId
        ifs.predictPcId)
      (issuedTransfer ifs a b (.jal rd offset)) := by
  have taken : ∀ mask,
      ExStage.jumpTaken (issuedAt idEx ifs a b tag (.jal rd offset)) mask =
        (!ifs.predictTakenId && !mask) := fun _ => rfl
  have target : ExStage.jumpTargetAddr (issuedAt idEx ifs a b tag (.jal rd offset)) =
      ifs.pcId + Instr.byteOffset offset := by
    change rvAdder .add ifs.pcId (Decoder.immJtype (jFormat offset rd _)) = _
    rw [rvAdder_add, immJtype_jFormat]
  refine ⟨rfl, fun mask => ?_, fun mispredicted => ?_, fun dest isLink => ?_⟩
  · change (false || ExStage.jumpTaken _ mask) = ((ifs.predictTakenId != true) && !mask)
    rw [taken]
    cases ifs.predictTakenId <;> rfl
  · have notPredicted : ifs.predictTakenId = false := by
      revert mispredicted
      change (ifs.predictTakenId != true) = true → _
      cases ifs.predictTakenId <;> simp
    rw [taken, notPredicted, target]
    exact BitVec.zero_or
  · cases isLink
    refine ⟨rfl, rd_uFormat .., fun div csrRdata => ?_⟩
    exact adder2Result_eq (issuedAt idEx ifs a b tag (.jal rd offset))

theorem resolves_jalr (rd rs1 : RegAddr) (imm : BitVec 12) :
    ExStage.Resolves (issuedAt idEx ifs a b tag (.jalr rd rs1 imm))
      ((issuedTransfer ifs a b (.jalr rd rs1 imm)).mispredicted ifs.predictTakenId
        ifs.predictPcId)
      (issuedTransfer ifs a b (.jalr rd rs1 imm)) := by
  have target : ExStage.jumpTargetAddr (issuedAt idEx ifs a b tag (.jalr rd rs1 imm)) =
      a + imm.signExtend 32 := by
    change rvAdder .add a (Decoder.immItype (iFormat imm rs1 0b000#3 rd _)) = _
    rw [rvAdder_add, immItype_iFormat]
  have compare : ExStage.compareResult (issuedAt idEx ifs a b tag (.jalr rd rs1 imm)) =
      (a + imm.signExtend 32 == ifs.predictPcId) := by
    rw [← target, ← sub_beq_zero, ← rvAdder_sub]
    rfl
  have taken : ∀ mask,
      ExStage.jumpTaken (issuedAt idEx ifs a b tag (.jalr rd rs1 imm)) mask =
        ((!ifs.predictTakenId || ifs.predictPcId != a + imm.signExtend 32) && !mask) := by
    intro mask
    change (((false || (true && ((ifs.predictTakenId && !ExStage.compareResult _) ||
      !ifs.predictTakenId))) || false) && !mask) = _
    rw [compare, bne, BEq.comm]
    cases ifs.predictTakenId <;> cases ifs.predictPcId == a + imm.signExtend 32 <;> rfl
  refine ⟨rfl, taken, fun mispredicted => ?_, fun dest isLink => ?_⟩
  · have isTaken : ExStage.jumpTaken (issuedAt idEx ifs a b tag (.jalr rd rs1 imm)) false = true :=
      (taken false).trans ((Bool.and_true _).trans mispredicted)
    rw [isTaken, target]
    exact BitVec.zero_or
  · cases isLink
    refine ⟨rfl, rd_iFormat .., fun div csrRdata => ?_⟩
    exact adder2Result_eq (issuedAt idEx ifs a b tag (.jalr rd rs1 imm))

theorem resolves_issued (valid : (issuedTransfer ifs a b instr).valid = true) :
    ExStage.Resolves (issuedAt idEx ifs a b tag instr)
      ((issuedTransfer ifs a b instr).mispredicted ifs.predictTakenId ifs.predictPcId)
      (issuedTransfer ifs a b instr) := by
  cases instr with
  | branch cond rs1 rs2 offset => exact resolves_branch idEx ifs a b tag cond rs1 rs2 offset
  | jal rd offset => exact resolves_jal idEx ifs a b tag rd offset
  | jalr rd rs1 imm => exact resolves_jalr idEx ifs a b tag rd rs1 imm
  | _ => cases valid

end Issue

/-- An instruction that issues in cycle 0 and stays in EX up to cycle `last`.  The start state and
the inputs are arbitrary. -/
structure ExStay where
  params : Params
  start : CoreState
  inputs : Nat → CoreInput
  instr : Instr
  last : Nat

namespace ExStay

variable (stay : ExStay)

def state (cycle : Nat) : CoreState :=
  SynchronousRun.run (CoreState.step stay.params) stay.start stay.inputs cycle

theorem state_succ (cycle : Nat) :
    stay.state (cycle + 1) = (stay.state cycle).step stay.params (stay.inputs cycle) := rfl

def readyEx (cycle : Nat) : Bool := (stay.state cycle).readyEx stay.params (stay.inputs cycle)

/-- `set_pc_valid` and `set_pc`. -/
def redirects (cycle : Nat) : Bool := (stay.state cycle).setPcValid stay.params (stay.inputs cycle)

def redirectPc (cycle : Nat) : Word := (stay.state cycle).setPc stay.params (stay.inputs cycle)

/-- It is in ID, leaves it in cycle 0, and no trap flushes it. -/
structure Unflushed : Prop where
  fetched : stay.start.ifs.instrPayloadId = stay.instr.encode
  issues : stay.start.issues stay.params (stay.inputs 0) = true
  stalled : ∀ cycle, 0 < cycle → cycle < stay.last → stay.readyEx cycle = false
  noFlush : ∀ cycle, 0 < cycle → cycle ≤ stay.last → (stay.state cycle).flushE = false

def transfer : Transfer :=
  issuedTransfer stay.start.ifs (stay.start.rs1RdData (stay.inputs 0))
    (stay.start.rs2RdData (stay.inputs 0)) stay.instr

def mispredicted : Bool :=
  stay.transfer.mispredicted stay.start.ifs.predictTakenId stay.start.ifs.predictPcId

end ExStay

/-- The operation in EX without the two flags that follow ID. -/
def IdEx.operation (ex : IdEx) : IdEx := { ex with iretireEx := false, excTakenEx := false }

namespace CoreState

variable {params : Params} {st : CoreState} {port : CoreInput}

theorem operation_of_notReady (notReady : st.readyEx params port = false) :
    (st.step params port).idEx.operation = st.idEx.operation := by
  have notValid : st.validId params port = false := by
    rw [validId, notReady, Bool.and_false, Bool.false_and]
  change (st.nextIdEx params port).operation = _
  rw [nextIdEx, nextIdExOperation_of_notReady notReady, notValid]
  rfl

theorem operation_of_issues {instr : Instr} (fetched : st.ifs.instrPayloadId = instr.encode)
    (issues : st.issues params port = true) :
    ∃ tag, (st.step params port).idEx.operation =
      (issuedAt st.idEx st.ifs (st.rs1RdData port) (st.rs2RdData port) tag instr).operation := by
  simp only [CoreState.issues, Bool.and_eq_true, Bool.not_eq_true'] at issues
  obtain ⟨⟨value, ready⟩, noFlush⟩ := issues
  have isValid : st.validId params port = true := by
    simp only [readyId, Bool.and_eq_true] at ready
    rw [validId, ready.1.1, ready.1.2, value]
    rfl
  have dec : st.decoded = instr.controls := by
    rw [decoded, fetched, value, instr.decoder_encode]
  refine ⟨st.rf.newTag (st.invalidPort params port), ?_⟩
  change (st.nextIdEx params port).operation = _
  rw [nextIdEx, nextIdExOperation_of_issue ready noFlush, isValid, dec]
  rfl

theorem branchJumpMask_of_ready (ready : st.readyEx params port = true) :
    (st.step params port).branchJumpMask = false := by
  change ExStage.nextBranchJumpMask st.idEx (st.readyEx params port) st.flushE = false
  rw [ExStage.nextBranchJumpMask, ready]
  rfl

/-- A branch or jump that waits is masked from then on. -/
theorem branchJumpMask_of_waits (notReady : st.readyEx params port = false)
    (transfers : (st.idEx.branchEx || st.idEx.jumpEx) = true) (noFlush : st.flushE = false) :
    (st.step params port).branchJumpMask = true := by
  change ExStage.nextBranchJumpMask st.idEx (st.readyEx params port) st.flushE = true
  rw [ExStage.nextBranchJumpMask, notReady, transfers, noFlush]
  rfl

/-- An instruction that leaves EX takes its result along. -/
theorem exMem_step_of_leaves (ready : st.readyEx params port = true)
    (noFlush : st.flushE = false) :
    (st.step params port).exMem.rdWrEnMem = st.idEx.rdWrEnEx ∧
      (st.step params port).exMem.rdWrAddrMem = st.idEx.rdWrAddrEx ∧
      (st.step params port).exMem.rdWrDataMem = st.rdWrDataEx port := by
  have valid := validEx_of_readyEx ready
  simp [step, nextExMem, ExStage.nextOperation, ready, valid, noFlush]

/-- An unflushed state that is not asleep goes to `IDLE`, or to a trap flush. -/
theorem idle_step (noFlush : st.flushE = false) (awake : st.stall = false)
    (nextUnflushed : (st.step params port).flushE = false) :
    (st.step params port).fsm = .idle := by
  have next : (st.step params port).fsm =
      Controller.fsmControlNs st.fsm (st.controllerInput params port) := rfl
  rw [flushE, next] at nextUnflushed
  rw [next]
  cases fsm : st.fsm with
  | idle =>
      rw [fsm, Controller.fsmControlNs] at nextUnflushed
      rw [Controller.fsmControlNs]
      split
      · rename_i taken
        rw [if_pos taken] at nextUnflushed
        cases nextUnflushed
      · rfl
  | excFlush =>
      rw [flushE, fsm] at noFlush
      cases noFlush
  | sleep =>
      rw [stall, fsm] at awake
      cases awake
  | wakeup => rfl

end CoreState

namespace ExStage.Resolves

variable {ex : IdEx} {mispredicted : Bool} {transfer : Transfer}

/-- Resolution reads only the operation. -/
theorem of_operation {other : IdEx} (resolves : ExStage.Resolves other mispredicted transfer)
    (same : ex.operation = other.operation) : ExStage.Resolves ex mispredicted transfer := by
  have atOperation : ExStage.Resolves ex.operation mispredicted transfer := by
    rw [same]
    exact ⟨resolves.transfers, resolves.redirects, resolves.target, resolves.link⟩
  exact ⟨atOperation.transfers, atOperation.redirects, atOperation.target, atOperation.link⟩

end ExStage.Resolves

namespace ExStay

variable {stay : ExStay}

/-- Throughout the stay the operation in EX is the one that issued. -/
theorem resolves (unflushed : stay.Unflushed) (valid : stay.transfer.valid = true) :
    ∀ cycle, 0 < cycle → cycle ≤ stay.last →
      ExStage.Resolves (stay.state cycle).idEx stay.mispredicted stay.transfer := by
  intro cycle positive inside
  induction cycle with
  | zero => omega
  | succ cycle induction =>
      rcases Nat.eq_zero_or_pos cycle with rfl | earlier
      · obtain ⟨tag, entered⟩ :=
          CoreState.operation_of_issues unflushed.fetched unflushed.issues
        exact (resolves_issued _ _ _ _ tag _ valid).of_operation entered
      · have waits := unflushed.stalled cycle earlier (by omega)
        exact (induction earlier (by omega)).of_operation
          (CoreState.operation_of_notReady waits)

theorem awake_start (unflushed : stay.Unflushed) :
    stay.start.flushE = false ∧ stay.start.stall = false ∧ stay.readyEx 0 = true := by
  have issues := unflushed.issues
  simp only [CoreState.issues, Bool.and_eq_true, Bool.not_eq_true'] at issues
  obtain ⟨⟨-, ready⟩, noFlush⟩ := issues
  have noTrap : stay.start.flushE = false := by
    rw [CoreState.flushD, Bool.or_eq_false_iff] at noFlush
    exact noFlush.1
  have readyEx := CoreState.readyEx_of_readyId ready
  have awake : stay.start.stall = false := by
    simp only [CoreState.readyEx, Bool.and_eq_true, Bool.not_eq_true'] at readyEx
    exact readyEx.1.1.1
  exact ⟨noTrap, awake, readyEx⟩

theorem idle (unflushed : stay.Unflushed) : ∀ cycle, 0 < cycle → cycle ≤ stay.last →
    (stay.state cycle).fsm = .idle := by
  intro cycle positive inside
  induction cycle with
  | zero => omega
  | succ cycle induction =>
      have nextUnflushed := unflushed.noFlush (cycle + 1) positive inside
      rcases Nat.eq_zero_or_pos cycle with rfl | earlier
      · obtain ⟨noTrap, awake, -⟩ := awake_start unflushed
        exact CoreState.idle_step noTrap awake nextUnflushed
      · have isIdle := induction earlier (by omega)
        have awake : (stay.state cycle).stall = false := by
          rw [CoreState.stall, isIdle]
          rfl
        exact CoreState.idle_step (unflushed.noFlush cycle earlier (by omega)) awake nextUnflushed

/-- The mask is open in the first cycle only. -/
theorem branchJumpMask_eq (unflushed : stay.Unflushed) (valid : stay.transfer.valid = true) :
    ∀ cycle, 0 < cycle → cycle ≤ stay.last →
      (stay.state cycle).branchJumpMask = decide (cycle ≠ 1) := by
  intro cycle positive inside
  obtain ⟨earlier, rfl⟩ : ∃ earlier, cycle = earlier + 1 := ⟨cycle - 1, by omega⟩
  rcases Nat.eq_zero_or_pos earlier with rfl | waited
  · exact CoreState.branchJumpMask_of_ready (awake_start unflushed).2.2
  · rw [decide_eq_true (by omega)]
    exact CoreState.branchJumpMask_of_waits (unflushed.stalled earlier waited (by omega))
      (resolves unflushed valid earlier waited (by omega)).transfers
      (unflushed.noFlush earlier waited (by omega))

/-- In every cycle of the stay fetch is redirected exactly if this is the first cycle and the
prediction was wrong, and then to the next PC; a jump that leaves EX hands over its link. -/
theorem resolvedOnce (unflushed : stay.Unflushed) (valid : stay.transfer.valid = true) :
    (∀ cycle, 0 < cycle → cycle ≤ stay.last →
      (stay.redirects cycle = true ↔ cycle = 1 ∧ stay.mispredicted = true) ∧
        (stay.redirects cycle = true → stay.redirectPc cycle = stay.transfer.nextPc)) ∧
      (0 < stay.last → stay.readyEx stay.last = true → ∀ rd, stay.transfer.link = some rd →
        (stay.state (stay.last + 1)).exMem.rdWrEnMem = true ∧
          (stay.state (stay.last + 1)).exMem.rdWrAddrMem = rd ∧
          (stay.state (stay.last + 1)).exMem.rdWrDataMem = stay.transfer.sequential) := by
  refine ⟨fun cycle positive inside => ?_, fun positive ready rd isLink => ?_⟩
  · have isIdle := idle unflushed cycle positive inside
    have mask := branchJumpMask_eq unflushed valid cycle positive inside
    have resolved := resolves unflushed valid cycle positive inside
    have noFetch : (stay.state cycle).excFetch stay.params (stay.inputs cycle) = false := by
      rw [CoreState.excFetch, CoreState.excFetchAndPc, isIdle]
      rfl
    have redirects : stay.redirects cycle = (stay.mispredicted && !decide (cycle ≠ 1)) := by
      rw [ExStay.redirects, CoreState.setPcValid, noFetch, Bool.or_false, CoreState.branchTaken,
        CoreState.jumpTaken, resolved.redirects, mask]
    refine ⟨?_, fun isRedirect => ?_⟩
    · rw [redirects]
      simp [and_comm]
    · rw [redirects] at isRedirect
      simp only [Bool.and_eq_true, Bool.not_eq_true', decide_eq_false_iff_not, ne_eq,
        Decidable.not_not] at isRedirect
      obtain ⟨mispredicted, isFirst⟩ := isRedirect
      have unmasked : (stay.state cycle).branchJumpMask = false := by
        rw [mask, isFirst]
        rfl
      rw [redirectPc, CoreState.setPc, noFetch, CoreState.branchJumpTarget,
        CoreState.branchTaken, CoreState.jumpTaken, unmasked]
      exact resolved.target mispredicted
  · obtain ⟨enabled, dest, value⟩ :=
      (resolves unflushed valid stay.last positive (Nat.le_refl _)).link rd isLink
    have noFlush := unflushed.noFlush stay.last positive (Nat.le_refl _)
    obtain ⟨enabledMem, destMem, valueMem⟩ := CoreState.exMem_step_of_leaves ready noFlush
    exact ⟨enabledMem.trans enabled, destMem.trans dest, valueMem.trans (value _ _)⟩

/-- A `jal` of 16 bytes at `0x100`, predicted as not taken, which leaves EX at once. -/
def jalStay : ExStay where
  params := defaultParams
  start :=
    { CoreState.reset 0#32 with
      ifs :=
        { IfStage.reset 0#32 with
          pcId := 0x100#32
          instrPayloadId := (Instr.jal 1#5 8#20).encode
          instrValueId := true } }
  inputs := fun _ =>
    { externIrq := false, softIrq := false, timerIrq := false, hartId := 0#32, instrGnt := false
      instrRdata := 0#32, instrErr := false, instrValid := false, dataGnt := false
      dataRdata := 0#32, dataValid := false, dataError := false
      undriven := { mscratchQ := 0#32, mtvalQ := 0#32 } }
  instr := .jal 1#5 8#20
  last := 1

theorem unflushed_jalStay : jalStay.Unflushed where
  fetched := rfl
  issues := by decide +kernel
  stalled := by
    intro cycle positive below
    have isOne : jalStay.last = 1 := rfl
    omega
  noFlush := by
    intro cycle positive inside
    have isOne : jalStay.last = 1 := rfl
    obtain rfl : cycle = 1 := by omega
    decide +kernel

theorem resolvedOnce_jalStay :
    jalStay.redirects 1 = true ∧
      (jalStay.state 2).exMem.rdWrDataMem = 0x104#32 :=
  ⟨((resolvedOnce unflushed_jalStay rfl).1 1 (by decide) (by decide)).1.mpr
      ⟨rfl, by decide +kernel⟩,
    ((resolvedOnce unflushed_jalStay rfl).2 (by decide) (by decide +kernel) 1#5 rfl).2.2⟩

end ExStay

end RiscvCore
