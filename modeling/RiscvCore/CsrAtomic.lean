import RiscvCore.CsrValues
import RiscvCore.DirectMemory
import RiscvCore.InstructionUnits

/-!
# CSR instructions that wait in EX

The CSR block applies the operation of the instruction in EX in every cycle it is there; the read
value is taken along in the last one.  The first application is the one that counts, since all
later ones change nothing; what can go wrong is that `rd` gets the new value.  The instruction is
atomic exactly when it writes no register, leaves at once, or shows the old value in the end.
-/

namespace RiscvCore

/-- The CSRs that an instruction can write.  Nothing assigns `mscratch` and `mtval`. -/
inductive NamedCsr where
  | mscratch | mtval
  | stored (reg : WritableCsr)
  deriving DecidableEq, Repr

namespace NamedCsr

def addr : NamedCsr → CsrAddr
  | mscratch => RiscvCore.mscratch
  | mtval => RiscvCore.mtval
  | stored reg => reg.addr

def value (csr : Csr) (undriven : Csr.Undriven) : NamedCsr → Word
  | mscratch => undriven.mscratchQ
  | mtval => undriven.mtvalQ
  | stored reg => csr.value reg

/-- The next value of a CSR that no instruction accesses: `mcycle` may count. -/
def ownStep (csr : Csr) (undriven : Csr.Undriven) : NamedCsr → Word
  | stored .mcycle => csr.mcycleCount
  | reg => reg.value csr undriven

/-- The value that one execution of a CSR instruction should leave. -/
def executed (csr : Csr) (undriven : Csr.Undriven) (op : CsrOp) (data : Word) (reg : NamedCsr) :
    Word :=
  if op = .read then reg.ownStep csr undriven
  else
    match reg with
    | mscratch => Csr.applyOp op undriven.mscratchQ data
    | mtval => Csr.applyOp op undriven.mtvalQ data
    | stored reg => csr.operate reg op data

/-- What the read port gives. -/
def shown (csr : Csr) (undriven : Csr.Undriven) : NamedCsr → Word
  | mscratch => undriven.mscratchQ
  | mtval => undriven.mtvalQ
  | stored reg => csr.shown reg

theorem readValue_addr (csr : Csr) (hartid : Word) (undriven : Csr.Undriven) (reg : NamedCsr) :
    csr.readValue hartid undriven reg.addr = reg.shown csr undriven := by
  cases reg with
  | stored reg => exact Csr.readValue_addr hartid undriven reg
  | mscratch | mtval =>
      simp [Csr.readValue, shown, addr, mhartid, mstarus, misa, mie, mtvec,
        RiscvCore.mscratch, mepc, mcause, RiscvCore.mtval]

end NamedCsr

namespace Csr

/-- What the read port gives of a CSR after an operation on it: of a configuration word one byte,
which belongs to the first word. -/
def shownAfter (csr : Csr) (op : CsrOp) (data : Word) : WritableCsr → Word
  | .pmpcfg index =>
      if index.val = 0 then (byteOf (csr.operate (.pmpcfg index) op data) index).setWidth 32
      else csr.shown (.pmpcfg index)
  | reg => csr.operate reg op data

end Csr

namespace CoreState

variable {params : Params} {st : CoreState} {port : CoreInput}

/-- The operand of a CSR instruction in ID: a register, or the immediate. -/
def csrOperand (st : CoreState) (port : CoreInput) : Word :=
  if st.decoded.srcAMux = .immRs1 then st.decoded.immRs1 else st.rs1RdData port

/-- The access that the CSR instruction in ID makes. -/
def accessId (st : CoreState) (port : CoreInput) : Csr.Access where
  csrEn := true
  csrOp := st.decoded.csrOp
  csrAddr := st.decoded.csrAddr
  csrWdata := st.csrOperand port

/-- EX holds a CSR instruction with this access and this destination. -/
structure CsrInEx (st : CoreState) (access : Csr.Access) (rd : RegAddr) : Prop where
  access : st.csrAccess = access
  noBus : st.idEx.lsuEnEx = false
  writes : st.idEx.rdWrEnEx = true
  addr : st.idEx.rdWrAddrEx = rd

/-- A writer of this result that does not use the data bus, in MEM. -/
structure ResultInMem (st : CoreState) (rd : RegAddr) (result : Word) : Prop where
  noBus : st.exMem.lsuEnMem = false
  writes : st.exMem.rdWrEnMem = true
  addr : st.exMem.rdWrAddrMem = rd
  data : st.exMem.rdWrDataMem = result

theorem csrInEx_step (issues : st.issues params port = true) (isCsr : st.decoded.csrEn = true) :
    (st.step params port).CsrInEx (st.accessId port) st.decoded.rdWrAddr := by
  rw [CoreState.issues, Bool.and_eq_true, Bool.and_eq_true, Bool.not_eq_true'] at issues
  obtain ⟨unit, uses⟩ := exists_usesUnit_decoder st.ifs.instrPayloadId st.ifs.instrValueId
  have unitCsr : unit = some .csr := of_decide_eq_true (uses.csr.symm.trans isCsr)
  obtain ⟨srcC, writes, -, srcA⟩ := uses.csrOperands unitCsr
  have noBus : st.decoded.lsuEn = false := by
    rw [decoded, uses.access, unitCsr]
    rfl
  have operand :
      IdStage.srcAId st.decoded st.ifs.pcId (st.rs1RdData port) = st.csrOperand port := by
    rw [csrOperand, decoded]
    rcases srcA with register | immediate
    · rw [IdStage.srcAId, register, if_neg (by decide)]
    · rw [IdStage.srcAId, immediate, if_pos rfl]
  have same : (st.step params port).idEx =
      { IdStage.issued st.idEx st.ifs st.decoded (st.rs1RdData port) (st.rs2RdData port)
          (st.rf.newTag (st.invalidPort params port)) with
        pcEx := (st.step params port).idEx.pcEx
        iretireEx := (st.step params port).idEx.iretireEx
        excTakenEx := (st.step params port).idEx.excTakenEx } := by
    rw [← nextIdExOperation_of_issue issues.1.2 issues.2]
    rfl
  have addr : (IdStage.srcCId st.decoded (st.rs2RdData port)).extractLsb' 0 12 =
      st.decoded.csrAddr := by
    have isAddr : st.decoded.srcCMux = .csrAddr := srcC
    rw [IdStage.srcCId, isAddr]
    exact BitVec.extractLsb'_append_eq_right
  refine ⟨?_, ?_, ?_, ?_⟩
  · rw [csrAccess, same]
    change Csr.Access.mk st.decoded.csrEn st.decoded.csrOp
      ((IdStage.srcCId st.decoded (st.rs2RdData port)).extractLsb' 0 12)
      (IdStage.srcAId st.decoded st.ifs.pcId (st.rs1RdData port)) = _
    rw [isCsr, addr, operand]
    rfl
  · rw [same]
    exact noBus
  · rw [same]
    exact writes
  · rw [same]
    rfl

theorem CsrInEx.step {access : Csr.Access} {rd : RegAddr} (inEx : st.CsrInEx access rd)
    (held : st.readyEx params port = false) : (st.step params port).CsrInEx access rd := by
  have same : (st.step params port).idEx =
      { st.idEx with
        pcEx := (st.step params port).idEx.pcEx
        iretireEx := (st.step params port).idEx.iretireEx
        excTakenEx := (st.step params port).idEx.excTakenEx } := by
    rw [← nextIdExOperation_of_notReady held]
    rfl
  refine ⟨?_, ?_, ?_, ?_⟩
  · rw [← inEx.access, csrAccess, same]
    rfl
  · rw [same]
    exact inEx.noBus
  · rw [same]
    exact inEx.writes
  · rw [same]
    exact inEx.addr

/-- When it leaves EX it takes along what the read port shows. -/
theorem resultInMem_step {access : Csr.Access} {rd : RegAddr} (inEx : st.CsrInEx access rd)
    (enabled : access.csrEn = true) (leaves : st.readyEx params port = true)
    (noFlush : st.fsm ≠ .excFlush) :
    (st.step params port).ResultInMem rd
      (st.csr.readValue port.hartId port.undriven access.csrAddr) := by
  have valid := validEx_of_readyEx leaves
  have noFlushE : st.flushE = false := decide_eq_false noFlush
  have result : st.rdWrDataEx port = st.csr.readValue port.hartId port.undriven access.csrAddr := by
    have isCsr : st.idEx.csrEnEx = true := (congrArg Csr.Access.csrEn inEx.access).trans enabled
    rw [rdWrDataEx, ExStage.rdWrDataEx, inEx.noBus, if_neg Bool.false_ne_true, if_pos isCsr,
      csrRdata, inEx.access, Csr.csrRdata, if_pos enabled]
  have mem : (st.step params port).ResultInMem st.idEx.rdWrAddrEx (st.rdWrDataEx port) := by
    refine ⟨?_, ?_, ?_, ?_⟩
    · simp [step, nextExMem, ExStage.nextOperation, leaves, valid, noFlushE, inEx.noBus]
    · simp [step, nextExMem, ExStage.nextOperation, leaves, valid, noFlushE, inEx.writes]
    · simp [step, nextExMem, ExStage.nextOperation, leaves, valid, noFlushE]
    · simp [step, nextExMem, ExStage.nextOperation, leaves, valid, noFlushE]
  rw [result, inEx.addr] at mem
  exact mem

/-- A waiting MEM keeps the result. -/
theorem ResultInMem.step {rd : RegAddr} {result : Word} (inMem : st.ResultInMem rd result)
    (held : st.readyMem port = false) : (st.step params port).ResultInMem rd result := by
  have operation : ExStage.nextOperation _ _ _ (st.readyEx params port) _ _ _ _ = _ :=
    nextExMemOperation_of_notReady held
  have noBus := congrArg ExMem.lsuEnMem operation
  have writes := congrArg ExMem.rdWrEnMem operation
  have addr := congrArg ExMem.rdWrAddrMem operation
  have data := congrArg ExMem.rdWrDataMem operation
  exact ⟨noBus.trans inMem.noBus, writes.trans inMem.writes, addr.trans inMem.addr,
    data.trans inMem.data⟩

/-- The result is written in the first cycle in WB. -/
theorem ResultInMem.written {rd : RegAddr} {result : Word} {nextPort : CoreInput}
    (inMem : st.ResultInMem rd result) (leaves : st.readyMem port = true)
    (noFlush : st.fsm ≠ .excFlush) (noFlushNext : (st.step params port).fsm ≠ .excFlush) :
    ((st.step params port).step params nextPort).rf.mem rd =
      if rd = 0#5 then 0#32 else result := by
  have valid : st.validMem port = true := validMem_eq_readyMem.trans leaves
  have noFlushE : st.flushE = false := decide_eq_false noFlush
  have noFlushW : (st.step params port).flushE = false := decide_eq_false noFlushNext
  have wb : (st.step params port).memWb.lsuEnWb = false ∧
      (st.step params port).memWb.rdWrEnWb = true ∧
      (st.step params port).memWb.rdWrAddrWb = rd ∧
      (st.step params port).memWb.rdWrDataWb = result := by
    obtain ⟨noBus, writes, addr, data⟩ := inMem
    refine ⟨?_, ?_, ?_, ?_⟩
    · simp [CoreState.step, nextMemWb, MemStage.nextOperation, valid, noFlushE, noBus]
    · simp [CoreState.step, nextMemWb, MemStage.nextOperation, valid, noFlushE, writes]
    · simp [CoreState.step, nextMemWb, MemStage.nextOperation, valid, noFlushE, addr]
    · simp [CoreState.step, nextMemWb, MemStage.nextOperation, valid, noFlushE, data]
  obtain ⟨noBus, writes, addr, data⟩ := wb
  have ready : (st.step params port).readyWb nextPort = true := by
    rw [readyWb, WbStage.readyWb, noBus, if_neg Bool.false_ne_true]
  change (if rd = 0#5 then 0#32
    else if ((st.step params port).rfWr nextPort).en &&
      ((st.step params port).rfWr nextPort).addr == rd then
        ((st.step params port).rfWr nextPort).data else _) = _
  rw [rfWr, WbStage.rfWr, ready, writes, noFlushW, addr, noBus, data]
  simp

end CoreState

namespace CoreRun

/-- The operation, the operand and the destination of the CSR instruction in ID. -/
def csrOpId (run : CoreRun) (cycle : Nat) : CsrOp := (run.state cycle).decoded.csrOp

def csrDataId (run : CoreRun) (cycle : Nat) : Word :=
  (run.state cycle).csrOperand (run.inputs cycle)

def csrRdId (run : CoreRun) (cycle : Nat) : RegAddr := (run.state cycle).decoded.rdWrAddr

/-- A CSR instruction that is not squashed: it issues to EX, waits there up to the cycle `last`
and in MEM up to the cycle `leave`, and reaches WB.  The two registers that nothing assigns keep
what they hold. -/
structure CsrPassage (run : CoreRun) (reg : NamedCsr) (issue last leave : Nat) : Prop where
  issues : (run.state issue).issues run.params (run.inputs issue) = true
  isCsr : (run.state issue).decoded.csrEn = true
  addr : (run.state issue).decoded.csrAddr = reg.addr
  machine : (run.state (issue + 1)).csr.privilegeModeQ = privLvlM
  inEx : issue < last
  heldInEx : ∀ cycle, issue < cycle → cycle < last →
    (run.state cycle).readyEx run.params (run.inputs cycle) = false
  leavesEx : (run.state last).readyEx run.params (run.inputs last) = true
  inMem : last < leave
  heldInMem : ∀ cycle, last < cycle → cycle < leave →
    (run.state cycle).readyMem (run.inputs cycle) = false
  leavesMem : (run.state leave).readyMem (run.inputs leave) = true
  notSquashed : ∀ cycle, issue < cycle → cycle ≤ leave + 1 → (run.state cycle).fsm ≠ .excFlush
  unassigned : reg = .mscratch ∨ reg = .mtval → ∀ cycle, issue < cycle → cycle ≤ last →
    (run.inputs (cycle + 1)).undriven = (run.inputs cycle).undriven

def csrValue (run : CoreRun) (reg : NamedCsr) (cycle : Nat) : Word :=
  reg.value (run.state cycle).csr (run.inputs cycle).undriven

/-- The instruction takes effect in one of its cycles in EX: it leaves the value its operation
gives there, in all other cycles the CSR goes on by itself, and `rd` gets the value from before the
effect. -/
def CsrAtomic (run : CoreRun) (reg : NamedCsr) (issue last leave : Nat) : Prop :=
  ∃ effect, issue < effect ∧ effect ≤ last ∧
    (∀ cycle, issue < cycle → cycle ≤ last → cycle ≠ effect →
      run.csrValue reg (cycle + 1) =
        reg.ownStep (run.state cycle).csr (run.inputs cycle).undriven) ∧
    run.csrValue reg (effect + 1) =
      reg.executed (run.state effect).csr (run.inputs effect).undriven (run.csrOpId issue)
        (run.csrDataId issue) ∧
    (run.state (leave + 2)).rf.mem (run.csrRdId issue) =
      if run.csrRdId issue = 0#5 then 0#32 else run.csrValue reg effect

/-- What the operation makes of the CSR as it is in the first cycle in EX. -/
def csrResult (run : CoreRun) (reg : WritableCsr) (issue : Nat) : Word :=
  (run.state (issue + 1)).csr.operate reg (run.csrOpId issue) (run.csrDataId issue)

/-- The operation would leave the CSR as it is. -/
def CsrUnmoved (run : CoreRun) (reg : WritableCsr) (issue : Nat) : Prop :=
  run.csrResult reg issue = (run.state (issue + 1)).csr.value reg

/-- Nothing is written to a register, or the read port gives the old value when the instruction
leaves EX: at once, or after its operation. -/
def ShowsOld (run : CoreRun) (reg : WritableCsr) (issue last : Nat) : Prop :=
  run.csrRdId issue = 0#5 ∨
    (if last = issue + 1 then (run.state (issue + 1)).csr.shown reg
      else (run.state (issue + 1)).csr.shownAfter (run.csrOpId issue) (run.csrDataId issue) reg) =
      (run.state (issue + 1)).csr.value reg

/-- When a CSR instruction is atomic, by the CSR, its operation, and how long it waits in EX.
`mcounteren` is never written.  A write of the running `mcycle` stops it for as long as it waits,
so that it may wait one cycle at most, in which it does what counting would have done. -/
def TakesOnce (run : CoreRun) (reg : NamedCsr) (issue last : Nat) : Prop :=
  match reg with
  | .mscratch | .mtval =>
      Csr.applyOp (run.csrOpId issue) (run.csrValue reg (issue + 1)) (run.csrDataId issue) =
        run.csrValue reg (issue + 1)
  | .stored .mcounteren => run.CsrUnmoved .mcounteren issue
  | .stored .mcycle =>
      run.csrOpId issue = .read ∨
        if (run.state (issue + 1)).csr.mcountinhitQ.getLsbD 0 then
          last = issue + 1 ∨ (last = issue + 2 ∧
            run.csrResult .mcycle issue = (run.state (issue + 1)).csr.value .mcycle + 1#32)
        else run.ShowsOld .mcycle issue last
  | .stored reg => run.ShowsOld reg issue last

variable {run : CoreRun} {issue last leave : Nat}

theorem legal (run : CoreRun) (cycle : Nat) : (run.state cycle).csr.Legal :=
  run.invariant (fun st => st.csr.Legal) Csr.legal_reset (fun _ _ legal => Csr.legal_next legal)
    cycle

namespace CsrPassage

section Passage

variable {reg : NamedCsr} (passage : run.CsrPassage reg issue last leave)

include passage

/-- The instruction is in EX from the cycle after its issue up to `last`. -/
theorem inEx_at {cycle : Nat} (entered : issue < cycle) (notLeft : cycle ≤ last) :
    (run.state cycle).CsrInEx ((run.state issue).accessId (run.inputs issue))
      (run.csrRdId issue) := by
  induction cycle with
  | zero => omega
  | succ cycle induction =>
      rw [run.state_succ]
      rcases Nat.lt_or_ge issue cycle with earlier | notEarlier
      · exact (induction earlier (by omega)).step (passage.heldInEx cycle earlier (by omega))
      · obtain rfl : issue = cycle := by omega
        exact CoreState.csrInEx_step passage.issues passage.isCsr

theorem machine_at {cycle : Nat} (entered : issue < cycle) (notLeft : cycle ≤ last) :
    (run.state cycle).csr.privilegeModeQ = privLvlM := by
  induction cycle with
  | zero => omega
  | succ cycle induction =>
      rcases Nat.lt_or_ge issue cycle with earlier | notEarlier
      · have machine := induction earlier (by omega)
        have held := passage.heldInEx cycle earlier (by omega)
        have noReturn : (run.state cycle).isMret run.params (run.inputs cycle) = false := by
          rw [CoreState.isMret, CoreState.idSignal, held]
          rfl
        rw [run.state_succ]
        change Csr.privilegeModeN _ _ = _
        rw [Csr.privilegeModeN, if_pos machine]
        change (if (run.state cycle).isMret run.params (run.inputs cycle) = true then _ else _) = _
        rw [noReturn, if_neg Bool.false_ne_true]
        exact machine
      · obtain rfl : issue = cycle := by omega
        exact passage.machine

theorem resultInMem_at {cycle : Nat} (entered : last < cycle) (notLeft : cycle ≤ leave) :
    (run.state cycle).ResultInMem (run.csrRdId issue)
      (reg.shown (run.state last).csr (run.inputs last).undriven) := by
  induction cycle with
  | zero => omega
  | succ cycle induction =>
      rw [run.state_succ]
      rcases Nat.lt_or_ge last cycle with earlier | notEarlier
      · exact (induction earlier (by omega)).step (passage.heldInMem cycle earlier (by omega))
      · obtain rfl : last = cycle := by omega
        have inEx := passage.inEx_at passage.inEx (Nat.le_refl _)
        have inMem := CoreState.resultInMem_step inEx rfl passage.leavesEx
          (passage.notSquashed last passage.inEx (by have := passage.inMem; omega))
        have addr : ((run.state issue).accessId (run.inputs issue)).csrAddr = reg.addr :=
          passage.addr
        rw [addr, NamedCsr.readValue_addr] at inMem
        exact inMem

/-- `rd` gets what the read port shows in the last cycle in EX. -/
theorem rd_written : (run.state (leave + 2)).rf.mem (run.csrRdId issue) =
    if run.csrRdId issue = 0#5 then 0#32
    else reg.shown (run.state last).csr (run.inputs last).undriven := by
  have inEx := passage.inEx
  have inMem := passage.resultInMem_at passage.inMem (Nat.le_refl _)
  have noFlushNext := passage.notSquashed (leave + 1) (by have := passage.inMem; omega)
    (Nat.le_refl _)
  rw [run.state_succ] at noFlushNext
  rw [run.state_succ, run.state_succ]
  exact inMem.written passage.leavesMem
    (passage.notSquashed leave (by have := passage.inMem; omega) (by omega)) noFlushNext

theorem enable_at {cycle : Nat} (entered : issue < cycle) (notLeft : cycle ≤ last) :
    Csr.enable (run.state cycle).csrAccess reg.addr = true := by
  rw [(passage.inEx_at entered notLeft).access, Csr.enable]
  exact beq_iff_eq.mpr passage.addr

/-- What an access to the CSR leaves alone is the same in all cycles in EX. -/
theorem held_at {Value : Type _} (observe : Csr → Value)
    (kept : ∀ (csr : Csr) (port : Csr.Input), Csr.enable port.access reg.addr = true →
      observe (csr.next port) = observe csr) {cycle : Nat} (entered : issue < cycle)
    (notLater : cycle ≤ last + 1) :
    observe (run.state cycle).csr = observe (run.state (issue + 1)).csr :=
  run.segment_constant (fun st => observe st.csr) entered fun cycle after before =>
    kept _ _ (passage.enable_at after (by omega))

/-- A CSR that keeps its value is atomic when the operation would leave it. -/
theorem csrAtomic_iff_of_constant
    (constant : ∀ cycle, issue < cycle → cycle ≤ last + 1 →
      run.csrValue reg cycle = run.csrValue reg (issue + 1))
    (own : ∀ cycle, reg.ownStep (run.state cycle).csr (run.inputs cycle).undriven =
      run.csrValue reg cycle)
    (executes : ∀ cycle,
      reg.executed (run.state cycle).csr (run.inputs cycle).undriven (run.csrOpId issue)
        (run.csrDataId issue) =
        Csr.applyOp (run.csrOpId issue) (run.csrValue reg cycle) (run.csrDataId issue))
    (shows : reg.shown (run.state last).csr (run.inputs last).undriven = run.csrValue reg last) :
    run.CsrAtomic reg issue last leave ↔
      Csr.applyOp (run.csrOpId issue) (run.csrValue reg (issue + 1)) (run.csrDataId issue) =
        run.csrValue reg (issue + 1) := by
  have inEx := passage.inEx
  constructor
  · rintro ⟨effect, entered, notLater, -, result, -⟩
    rw [executes, constant effect entered (by omega), constant _ (by omega) (by omega)] at result
    exact result.symm
  · intro unmoved
    refine ⟨last, inEx, Nat.le_refl _, ?_, ?_, ?_⟩
    · intro cycle entered notLater _
      rw [own, constant cycle entered (by omega), constant _ (by omega) (by omega)]
    · rw [executes, constant last inEx (Nat.le_succ _), constant _ (by omega) (Nat.le_refl _),
        unmoved]
    · rw [passage.rd_written, shows]

/-- Nothing assigns `mscratch` and `mtval`. -/
theorem csrAtomic_iff_of_unassigned (isFree : reg = .mscratch ∨ reg = .mtval) :
    run.CsrAtomic reg issue last leave ↔
      Csr.applyOp (run.csrOpId issue) (run.csrValue reg (issue + 1)) (run.csrDataId issue) =
        run.csrValue reg (issue + 1) := by
  have same : ∀ cycle, issue < cycle → cycle ≤ last + 1 →
      (run.inputs cycle).undriven = (run.inputs (issue + 1)).undriven := by
    intro cycle entered notLater
    induction cycle with
    | zero => omega
    | succ cycle induction =>
        rcases Nat.lt_or_ge issue cycle with earlier | notEarlier
        · exact (passage.unassigned isFree cycle earlier (by omega)).trans
            (induction earlier (by omega))
        · obtain rfl : issue = cycle := by omega
          rfl
  apply passage.csrAtomic_iff_of_constant
  · intro cycle entered notLater
    rcases isFree with rfl | rfl
    · exact congrArg Csr.Undriven.mscratchQ (same cycle entered notLater)
    · exact congrArg Csr.Undriven.mtvalQ (same cycle entered notLater)
  · intro cycle
    rcases isFree with rfl | rfl <;> rfl
  · intro cycle
    by_cases reads : run.csrOpId issue = .read
    · rw [reads]
      rcases isFree with rfl | rfl <;> rfl
    · rcases isFree with rfl | rfl <;> exact if_neg reads
  · rcases isFree with rfl | rfl <;> rfl

end Passage

/-- `mcounteren` is not written under its own address. -/
theorem csrAtomic_iff_mcounteren
    (passage : run.CsrPassage (.stored .mcounteren) issue last leave) :
    run.CsrAtomic (.stored .mcounteren) issue last leave ↔ run.CsrUnmoved .mcounteren issue := by
  have unmoved : run.CsrUnmoved .mcounteren issue ↔
      Csr.applyOp (run.csrOpId issue) (run.csrValue (.stored .mcounteren) (issue + 1))
        (run.csrDataId issue) = run.csrValue (.stored .mcounteren) (issue + 1) := by
    rw [CsrUnmoved, csrResult, ← Csr.and_ones (Csr.applyOp _ _ _)]
    exact Iff.rfl
  rw [unmoved]
  apply passage.csrAtomic_iff_of_constant
  · intro cycle entered notLater
    exact passage.held_at Csr.mcounterenQ
      (fun _ _ access => Csr.mcounterenQ_next_of_mcounteren access) entered notLater
  · exact fun _ => rfl
  · intro cycle
    rw [NamedCsr.executed]
    split
    · rename_i reads
      rw [reads]
      rfl
    · exact Csr.and_ones _
  · rfl

variable {reg : WritableCsr} (passage : run.CsrPassage (.stored reg) issue last leave)

include passage

/-- In each cycle in EX the CSR takes the operation. -/
theorem value_succ {cycle : Nat} (entered : issue < cycle) (notLeft : cycle ≤ last) :
    (run.state (cycle + 1)).csr.value reg =
      (run.state cycle).csr.written reg (run.csrOpId issue) (run.csrDataId issue) := by
  have machine : (run.state cycle).csr.isM = true :=
    beq_iff_eq.mpr (passage.machine_at entered notLeft)
  have value : (run.state (cycle + 1)).csr.value reg =
      (run.state cycle).csr.written reg (run.state cycle).csrAccess.csrOp
        (run.state cycle).csrAccess.csrWdata :=
    Csr.value_next (run.legal cycle) machine reg (passage.enable_at entered notLeft)
  rw [(passage.inEx_at entered notLeft).access] at value
  exact value

section Written

variable (notCounteren : reg ≠ .mcounteren)
  (notCounting : ¬ (reg = .mcycle ∧ run.csrOpId issue = .read))

include notCounteren notCounting

theorem value_succ_eq_operate {cycle : Nat} (entered : issue < cycle) (notLeft : cycle ≤ last) :
    (run.state (cycle + 1)).csr.value reg =
      (run.state cycle).csr.operate reg (run.csrOpId issue) (run.csrDataId issue) := by
  rw [passage.value_succ entered notLeft, Csr.written, if_neg notCounteren, if_neg notCounting]

/-- The operation is done in the first cycle in EX; all later ones leave the result alone. -/
theorem value_eq_result {cycle : Nat} (after : issue + 1 < cycle) (notLater : cycle ≤ last + 1) :
    (run.state cycle).csr.value reg = run.csrResult reg issue := by
  induction cycle with
  | zero => omega
  | succ cycle induction =>
      rw [passage.value_succ_eq_operate notCounteren notCounting (by omega) (by omega)]
      rcases Nat.lt_or_ge (issue + 1) cycle with earlier | notEarlier
      · have result := induction earlier (by omega)
        rw [Csr.operate_of_operated result, result]
        rintro entry rfl
        exact passage.held_at Csr.pmpcfgQ
          (fun _ _ access => Csr.pmpcfgQ_next_of_pmpaddr access) (by omega) (by omega)
      · obtain rfl : cycle = issue + 1 := by omega
        rfl

/-- What the read port gives in the last cycle in EX. -/
theorem shown_last (waits : last ≠ issue + 1) : (run.state last).csr.shown reg =
    (run.state (issue + 1)).csr.shownAfter (run.csrOpId issue) (run.csrDataId issue) reg := by
  have inEx := passage.inEx
  have later : issue + 1 < last := by omega
  have result := passage.value_eq_result notCounteren notCounting later (Nat.le_succ last)
  cases reg with
  | pmpcfg index =>
      rw [Csr.shownAfter]
      split
      · rename_i first
        obtain rfl : index = 0 := Fin.ext first
        have lowest := congrArg (Csr.byteOf · 0) result
        simp only [Csr.value, Csr.byteOf_pmpcfgWord] at lowest
        exact congrArg (BitVec.setWidth 32) lowest
      · rename_i notFirst
        have notZero : index ≠ 0 := fun same => notFirst (congrArg Fin.val same)
        have same := passage.held_at (fun csr => csr.pmpcfgQ (index.castLE (by decide)))
          (fun _ _ access => Csr.pmpcfgQ_next_of_laterWord notZero access index) inEx
          (Nat.le_succ last)
        exact congrArg (BitVec.setWidth 32) same
  | _ => exact result

section Still

variable (still : reg = .mcycle → (run.state (issue + 1)).csr.mcountinhitQ.getLsbD 0 = false)

include still

omit notCounteren notCounting in
/-- Nothing but a running counter changes by itself. -/
theorem ownStep_eq {cycle : Nat} (entered : issue < cycle) (notLeft : cycle ≤ last) :
    NamedCsr.ownStep (run.state cycle).csr (run.inputs cycle).undriven (.stored reg) =
      (run.state cycle).csr.value reg := by
  cases reg with
  | mcycle =>
      have same := passage.held_at Csr.mcountinhitQ
        (fun _ _ access => Csr.mcountinhitQ_next_of_mcycle access) entered (by omega)
      change (run.state cycle).csr.mcycleCount = (run.state cycle).csr.mcycleQ
      rw [Csr.mcycleCount, same, still rfl]
      exact BitVec.add_zero _
  | _ => rfl

theorem value_succ_eq_executed {cycle : Nat} (entered : issue < cycle) (notLeft : cycle ≤ last) :
    run.csrValue (.stored reg) (cycle + 1) =
      NamedCsr.executed (run.state cycle).csr (run.inputs cycle).undriven (run.csrOpId issue)
        (run.csrDataId issue) (.stored reg) := by
  have written := passage.value_succ_eq_operate notCounteren notCounting entered notLeft
  rw [NamedCsr.executed]
  split
  · rename_i reads
    rw [reads, Csr.operate_read (run.legal cycle)] at written
    rw [passage.ownStep_eq still entered notLeft]
    exact written
  · exact written

/-- Without a counter that runs meanwhile, the instruction is atomic when it shows the old
value. -/
theorem csrAtomic_iff_showsOld :
    run.CsrAtomic (.stored reg) issue last leave ↔ run.ShowsOld reg issue last := by
  have inEx := passage.inEx
  constructor
  · rintro ⟨effect, entered, notLater, own, -, rd⟩
    by_cases zero : run.csrRdId issue = 0#5
    · exact .inl zero
    · rw [passage.rd_written, if_neg zero, if_neg zero] at rd
      have old : run.csrValue (.stored reg) effect = (run.state (issue + 1)).csr.value reg := by
        rcases Nat.eq_or_lt_of_le entered with first | later
        · rw [← first]
          rfl
        · have unmoved := own (issue + 1) (Nat.lt_succ_self _) (by omega) (by omega)
          rw [passage.ownStep_eq still (Nat.lt_succ_self _) (by omega)] at unmoved
          have result := passage.value_eq_result notCounteren notCounting
            (Nat.lt_succ_self (issue + 1)) (by omega)
          have atEffect := passage.value_eq_result notCounteren notCounting later (by omega)
          exact atEffect.trans (result.symm.trans unmoved)
      right
      rw [← old, ← rd]
      split
      · rename_i atOnce
        rw [atOnce]
        rfl
      · rename_i waits
        exact (passage.shown_last notCounteren notCounting waits).symm
  · intro shows
    refine ⟨issue + 1, Nat.lt_succ_self _, inEx, ?_, ?_, ?_⟩
    · intro cycle entered notLater notFirst
      have before := passage.value_eq_result notCounteren notCounting
        (show issue + 1 < cycle by omega) (by omega)
      rw [passage.ownStep_eq still entered notLater, before]
      exact passage.value_eq_result notCounteren notCounting (by omega) (by omega)
    · exact passage.value_succ_eq_executed notCounteren notCounting still (Nat.lt_succ_self _) inEx
    · rw [passage.rd_written]
      split
      · rfl
      · rename_i notZero
        have old := shows.resolve_left notZero
        rw [csrValue, NamedCsr.value, ← old]
        split
        · rename_i atOnce
          rw [atOnce]
          rfl
        · rename_i waits
          exact passage.shown_last notCounteren notCounting waits

end Still

end Written

end CsrPassage

section Mcycle

variable (passage : run.CsrPassage (.stored .mcycle) issue last leave)

include passage

/-- A read of `mcycle` gets the count of its last cycle in EX. -/
theorem CsrPassage.csrAtomic_of_mcycle_read (reads : run.csrOpId issue = .read) :
    run.CsrAtomic (.stored .mcycle) issue last leave := by
  have counts {cycle : Nat} (entered : issue < cycle) (notLeft : cycle ≤ last) :
      (run.state (cycle + 1)).csr.value .mcycle = (run.state cycle).csr.mcycleCount := by
    have notCounteren : WritableCsr.mcycle ≠ .mcounteren := by decide
    rw [passage.value_succ entered notLeft, Csr.written, if_neg notCounteren, if_pos ⟨rfl, reads⟩]
  refine ⟨last, passage.inEx, Nat.le_refl _, fun cycle entered notLater _ =>
    counts entered notLater, ?_, ?_⟩
  · rw [NamedCsr.executed, if_pos reads]
    exact counts passage.inEx (Nat.le_refl _)
  · rw [passage.rd_written]
    rfl

/-- A write of the running `mcycle`. -/
theorem CsrPassage.csrAtomic_iff_of_counting (writes : run.csrOpId issue ≠ .read)
    (counting : (run.state (issue + 1)).csr.mcountinhitQ.getLsbD 0 = true) :
    run.CsrAtomic (.stored .mcycle) issue last leave ↔
      last = issue + 1 ∨ (last = issue + 2 ∧
        run.csrResult .mcycle issue = (run.state (issue + 1)).csr.value .mcycle + 1#32) := by
  have inEx := passage.inEx
  have notCounteren : WritableCsr.mcycle ≠ .mcounteren := by decide
  have notCounting : ¬ (WritableCsr.mcycle = .mcycle ∧ run.csrOpId issue = .read) :=
    fun reads => writes reads.2
  have ownStep {cycle : Nat} (entered : issue < cycle) (notLeft : cycle ≤ last) :
      NamedCsr.ownStep (run.state cycle).csr (run.inputs cycle).undriven (.stored .mcycle) =
        (run.state cycle).csr.value .mcycle + 1#32 := by
    have same := passage.held_at Csr.mcountinhitQ
      (fun _ _ access => Csr.mcountinhitQ_next_of_mcycle access) entered (by omega)
    change (run.state cycle).csr.mcycleCount = (run.state cycle).csr.mcycleQ + 1#32
    rw [Csr.mcycleCount, same, counting]
    rfl
  -- After the first cycle the result stands, and the counter does not move.
  have stopped {cycle : Nat} (later : issue + 1 < cycle) (notLeft : cycle ≤ last) :
      run.csrValue (.stored .mcycle) (cycle + 1) ≠
        NamedCsr.ownStep (run.state cycle).csr (run.inputs cycle).undriven (.stored .mcycle) := by
    intro moves
    rw [ownStep (by omega) notLeft,
      passage.value_eq_result notCounteren notCounting later (by omega)] at moves
    have result := passage.value_eq_result notCounteren notCounting
      (show issue + 1 < cycle + 1 by omega) (by omega)
    have fixed : run.csrResult .mcycle issue = run.csrResult .mcycle issue + 1#32 :=
      result.symm.trans moves
    bv_omega
  constructor
  · rintro ⟨effect, entered, notLater, own, -, -⟩
    rcases Nat.eq_or_lt_of_le inEx with atOnce | waits
    · exact .inl atOnce.symm
    · have onlyEffect (cycle : Nat) (later : issue + 1 < cycle) (notLeft : cycle ≤ last) :
          cycle = effect :=
        Decidable.byContradiction fun other =>
          stopped later notLeft (own cycle (by omega) notLeft other)
      have isSecond := onlyEffect (issue + 2) (by omega) waits
      have isLast := onlyEffect last waits (Nat.le_refl _)
      refine .inr ⟨by omega, ?_⟩
      have counted := own (issue + 1) (Nat.lt_succ_self _) (by omega) (by omega)
      rw [ownStep (Nat.lt_succ_self _) (by omega)] at counted
      exact (passage.value_eq_result notCounteren notCounting
        (Nat.lt_succ_self (issue + 1)) (by omega)).symm.trans counted
  · intro short
    refine ⟨last, inEx, Nat.le_refl _, ?_, ?_, ?_⟩
    · intro cycle entered notLater notLast
      obtain ⟨second, counted⟩ := short.resolve_left (by omega)
      obtain rfl : cycle = issue + 1 := by omega
      rw [ownStep entered notLater, ← counted]
      exact passage.value_eq_result notCounteren notCounting (Nat.lt_succ_self (issue + 1))
        (by omega)
    · rw [NamedCsr.executed, if_neg writes]
      exact passage.value_succ_eq_operate notCounteren notCounting inEx (Nat.le_refl _)
    · rw [passage.rd_written]
      rfl

end Mcycle

/-- A CSR instruction that is not squashed is atomic exactly when it takes effect once. -/
theorem csrAtomic_iff_takesOnce {reg : NamedCsr} (passage : run.CsrPassage reg issue last leave) :
    run.CsrAtomic reg issue last leave ↔ run.TakesOnce reg issue last := by
  cases reg with
  | mscratch => exact passage.csrAtomic_iff_of_unassigned (.inl rfl)
  | mtval => exact passage.csrAtomic_iff_of_unassigned (.inr rfl)
  | stored reg =>
      cases reg with
      | mcounteren => exact passage.csrAtomic_iff_mcounteren
      | mcycle =>
          by_cases reads : run.csrOpId issue = .read
          · exact iff_of_true (passage.csrAtomic_of_mcycle_read reads) (.inl reads)
          · cases counting : (run.state (issue + 1)).csr.mcountinhitQ.getLsbD 0 with
            | true =>
                rw [passage.csrAtomic_iff_of_counting reads counting]
                simp only [TakesOnce, reads, counting, false_or, if_true]
            | false =>
                rw [passage.csrAtomic_iff_showsOld (by decide) (fun counts => reads counts.2)
                  fun _ => counting]
                simp only [TakesOnce, reads, counting, false_or, Bool.false_eq_true, if_false]
      | mstatus | mie | mtvec | mepc | mcause | mcountinhibit | pmpcfg | pmpaddr =>
          exact passage.csrAtomic_iff_showsOld (by simp) (by simp) (by simp)

end CoreRun

namespace Surroundings

theorem csrPassage (around : Surroundings) {reg : NamedCsr} {issue last leave : Nat}
    (inEx : issue < last) (inMem : last < leave)
    (entry : (around.system issue).core.issues defaultParams (around.portAt issue) = true ∧
      (around.system issue).core.decoded.csrEn = true ∧
      (around.system issue).core.decoded.csrAddr = reg.addr ∧
      (around.system (issue + 1)).core.csr.privilegeModeQ = privLvlM)
    (stages : ∀ cycle, cycle ≤ leave + 1 → issue < cycle →
      (around.system cycle).core.fsm ≠ .excFlush ∧
      (cycle < last →
        (around.system cycle).core.readyEx defaultParams (around.portAt cycle) = false) ∧
      (cycle = last →
        (around.system cycle).core.readyEx defaultParams (around.portAt cycle) = true) ∧
      (last < cycle → cycle < leave →
        (around.system cycle).core.readyMem (around.portAt cycle) = false) ∧
      (cycle = leave → (around.system cycle).core.readyMem (around.portAt cycle) = true)) :
    around.coreRun.CsrPassage reg issue last leave := by
  obtain ⟨issues, isCsr, addr, machine⟩ := entry
  simp only [← state_coreRun] at issues isCsr addr machine stages
  exact
    { issues, isCsr, addr, machine, inEx, inMem
      heldInEx := fun cycle after before => (stages cycle (by omega) after).2.1 before
      leavesEx := (stages last (by omega) inEx).2.2.1 rfl
      heldInMem := fun cycle after before =>
        (stages cycle (by omega) (by omega)).2.2.2.1 after before
      leavesMem := (stages leave (by omega) (by omega)).2.2.2.2 rfl
      notSquashed := fun cycle after notLater => (stages cycle notLater after).1
      unassigned := fun _ _ _ _ => rfl }

/-- A CSR instruction that waits behind the split load `lw x1, 2(x0)`, with `mie` enabled
before. -/
def csrBehindSplitLoad (csrInstr : Word) : Surroundings where
  program := programOf [0x30445073#32, 0x00202083#32, csrInstr] -- csrrwi x0, mie, 8

/-- `csrrs x2, mie, x0`. -/
def readBehindSplitLoad : Surroundings := csrBehindSplitLoad 0x30402173#32

/-- `csrrci x0, mie, 8`. -/
def clearBehindSplitLoad : Surroundings := csrBehindSplitLoad 0x30447073#32

/-- `csrrci x2, mie, 8`. -/
def swapBehindSplitLoad : Surroundings := csrBehindSplitLoad 0x30447173#32

theorem csrPassage_readBehindSplitLoad :
    readBehindSplitLoad.coreRun.CsrPassage (.stored .mie) 5 7 8 :=
  readBehindSplitLoad.csrPassage (by decide) (by decide) (by decide +kernel) (by decide +kernel)

theorem csrPassage_clearBehindSplitLoad :
    clearBehindSplitLoad.coreRun.CsrPassage (.stored .mie) 5 7 8 :=
  clearBehindSplitLoad.csrPassage (by decide) (by decide) (by decide +kernel) (by decide +kernel)

theorem csrPassage_swapBehindSplitLoad :
    swapBehindSplitLoad.coreRun.CsrPassage (.stored .mie) 5 7 8 :=
  swapBehindSplitLoad.csrPassage (by decide) (by decide) (by decide +kernel) (by decide +kernel)

end Surroundings

namespace CoreRun

/-- A read that waits, and a clear that waits and has no destination. -/
theorem csrAtomic_behindSplitLoad :
    Surroundings.readBehindSplitLoad.coreRun.CsrAtomic (.stored .mie) 5 7 8 ∧
      Surroundings.clearBehindSplitLoad.coreRun.CsrAtomic (.stored .mie) 5 7 8 := by
  constructor
  · refine (csrAtomic_iff_takesOnce Surroundings.csrPassage_readBehindSplitLoad).mpr (.inr ?_)
    rw [csrOpId, csrDataId, Surroundings.state_coreRun, Surroundings.state_coreRun]
    decide +kernel
  · refine (csrAtomic_iff_takesOnce Surroundings.csrPassage_clearBehindSplitLoad).mpr (.inl ?_)
    rw [csrRdId, Surroundings.state_coreRun]
    decide +kernel

/-- With a destination the clear gives it the 0 it has written itself. -/
theorem csrAtomic_fails :
    ¬ ∀ (run : CoreRun) (program : Word → Word × Bool), run.WellConnected program →
      ∀ (reg : NamedCsr) (issue last leave : Nat), run.CsrPassage reg issue last leave →
        run.CsrAtomic reg issue last leave := by
  intro always
  obtain ⟨effect, afterIssue, notLater, own, -, rd⟩ := always _ _
    Surroundings.swapBehindSplitLoad.wellConnected _ _ _ _
    Surroundings.csrPassage_swapBehindSplitLoad
  have first : effect = 6 := by
    have moves : (Surroundings.swapBehindSplitLoad.coreRun.state 7).csr.value .mie ≠
        (Surroundings.swapBehindSplitLoad.coreRun.state 6).csr.value .mie := by
      rw [Surroundings.state_coreRun, Surroundings.state_coreRun]
      decide +kernel
    rcases Nat.eq_or_lt_of_le afterIssue with same | later
    · exact same.symm
    · exact absurd (own 6 (by decide) (by decide) (Nat.ne_of_lt later)) moves
  subst first
  rw [csrRdId, csrValue, NamedCsr.value, Surroundings.state_coreRun, Surroundings.state_coreRun,
    Surroundings.state_coreRun] at rd
  revert rd
  decide +kernel

end CoreRun

end RiscvCore
