import RiscvCore.PipelineSteps

/-!
# Registers that are not read

The address beside an empty slot of the pipeline and the word in an empty slot of the prefetch
FIFO are left over from earlier instructions.  Two states that differ only there stay so, and
nothing else in them ever differs.
-/

namespace RiscvCore

namespace SyncFifo

variable {depth dataWidth : Nat}

/-- The same slots, with other data. -/
def withData (fifo : SyncFifo depth dataWidth) (data : Fin depth → BitVec dataWidth) :
    SyncFifo depth dataWidth := { fifo with fifoDataQ := data }

/-- The data agree with those of the valid slots. -/
def Agrees (fifo : SyncFifo depth dataWidth) (data : Fin depth → BitVec dataWidth) : Prop :=
  ∀ slot, fifo.valid slot = true → data slot = fifo.fifoDataQ slot

variable {fifo : SyncFifo depth dataWidth} {data : Fin depth → BitVec dataWidth}

theorem dataAt_withData (agrees : fifo.Agrees data) {slot : Nat}
    (valid : fifo.validAt slot = true) : (fifo.withData data).dataAt slot = fifo.dataAt slot := by
  rw [validAt] at valid
  rw [dataAt, dataAt]
  split
  · rename_i inside
    rw [dif_pos inside] at valid
    exact agrees _ valid
  · rfl

theorem fifoDataD_withData (agrees : fifo.Agrees data) (wrData : BitVec dataWidth) (slot : Nat) :
    (fifo.withData data).fifoDataD wrData slot = fifo.fifoDataD wrData slot := by
  have sameValid : (fifo.withData data).validAt (slot + 1) = fifo.validAt (slot + 1) := rfl
  rw [fifoDataD, fifoDataD, sameValid]
  cases valid : fifo.validAt (slot + 1) with
  | false => rfl
  | true => rw [dataAt_withData agrees valid]

/-- A slot that is valid after the edge was written at it or was valid before. -/
theorem validAt_of_popedValid {push pop : Bool} {slot : Nat}
    (valid : fifo.popedValid push pop slot = true)
    (notWritten : fifo.entryEn push pop slot = false) : fifo.validAt slot = true := by
  rw [popedValid] at valid
  rw [entryEn] at notWritten
  cases pop with
  | true =>
      split at valid
      · rename_i inside
        rw [if_pos rfl] at valid
        rw [if_pos inside, valid] at notWritten
        cases notWritten
      · cases valid
  | false =>
      have keeps : fifo.pushedValid push slot = true := by
        split at valid <;> exact valid
      have noWrite : (fifo.wrPointer slot && push) = false := by
        split at notWritten
        · simpa using notWritten
        · simpa using notWritten
      rw [pushedValid] at keeps
      rw [wrPointer] at noWrite
      by_cases zero : slot = 0
      · rw [if_pos zero] at keeps noWrite
        cases current : fifo.validAt slot with
        | true => rfl
        | false =>
            rw [current] at keeps noWrite
            cases push <;> simp at keeps noWrite
      · rw [if_neg zero, wrPointer, if_neg zero] at keeps
        rw [if_neg zero] at noWrite
        cases current : fifo.validAt slot with
        | true => rfl
        | false =>
            rw [current, Bool.or_false, Bool.and_comm] at keeps
            rw [current, keeps] at noWrite
            cases noWrite

theorem agrees_next (agrees : fifo.Agrees data) (port : Input dataWidth) :
    (fifo.next port).Agrees ((fifo.withData data).next port).fifoDataQ := by
  intro slot valid
  change (fifo.popedValid port.wrEn port.rdEn slot && !port.fifoClear) = true at valid
  rw [Bool.and_eq_true] at valid
  change (if fifo.entryEn port.wrEn port.rdEn slot then
      (fifo.withData data).fifoDataD port.wrData slot else data slot) =
    if fifo.entryEn port.wrEn port.rdEn slot then fifo.fifoDataD port.wrData slot
      else fifo.fifoDataQ slot
  rw [fifoDataD_withData agrees]
  cases written : fifo.entryEn port.wrEn port.rdEn slot with
  | true => rfl
  | false =>
      have wasValid := validAt_of_popedValid valid.1 written
      rw [validAt, dif_pos slot.isLt] at wasValid
      exact agrees slot wasValid

end SyncFifo

namespace IfStage

def withStale (ifs : IfStage) (pcId : Word) (data : Fin 4 → BitVec 33) : IfStage :=
  { ifs with pcId, prefetchFifo := ifs.prefetchFifo.withData data }

variable {ifs : IfStage} {pcId : Word} {data : Fin 4 → BitVec 33} {port : Input}

theorem fifoRdata_withStale (agrees : ifs.prefetchFifo.Agrees data) :
    (ifs.withStale pcId data).fifoRdata port = ifs.fifoRdata port := by
  have samePop : PrefetchFifo.fifoPop (ifs.prefetchFifo.withData data) (ifs.fifoReady port) =
      PrefetchFifo.fifoPop ifs.prefetchFifo (ifs.fifoReady port) := rfl
  change (if PrefetchFifo.fifoPop (ifs.prefetchFifo.withData data) (ifs.fifoReady port) then
      (ifs.prefetchFifo.withData data).rdData else ifs.fifoWdata port) =
    if PrefetchFifo.fifoPop ifs.prefetchFifo (ifs.fifoReady port) then ifs.prefetchFifo.rdData
      else ifs.fifoWdata port
  rw [samePop]
  cases pop : PrefetchFifo.fifoPop ifs.prefetchFifo (ifs.fifoReady port) with
  | false => rfl
  | true =>
      rw [PrefetchFifo.fifoPop, Bool.and_eq_true] at pop
      exact SyncFifo.dataAt_withData agrees pop.2

theorem insnValue_withStale :
    (ifs.withStale pcId data).insnValue port = ifs.insnValue port := rfl

theorem insnPayload_withStale (agrees : ifs.prefetchFifo.Agrees data) :
    (ifs.withStale pcId data).insnPayload port = ifs.insnPayload port := by
  rw [insnPayload, insnPayload, fifoRdata_withStale agrees]
  rfl

theorem insnErr_withStale (agrees : ifs.prefetchFifo.Agrees data) :
    (ifs.withStale pcId data).insnErr port = ifs.insnErr port := by
  rw [insnErr, insnErr, fifoRdata_withStale agrees]
  rfl

theorem fifoDataIsCompress_withStale (agrees : ifs.prefetchFifo.Agrees data) :
    (ifs.withStale pcId data).fifoDataIsCompress port = ifs.fifoDataIsCompress port := by
  rw [fifoDataIsCompress, fifoDataIsCompress, fifoRdata_withStale agrees]
  rfl

theorem insnCompressIf_withStale (agrees : ifs.prefetchFifo.Agrees data) :
    (ifs.withStale pcId data).insnCompressIf port = ifs.insnCompressIf port := by
  rw [insnCompressIf, insnCompressIf, fifoDataIsCompress_withStale agrees]
  rfl

theorem nextPc_withStale (agrees : ifs.prefetchFifo.Agrees data) :
    (ifs.withStale pcId data).nextPc port = ifs.nextPc port := by
  rw [nextPc, nextPc, insnCompressIf_withStale agrees, insnValue_withStale]
  rfl

theorem nextHold_withStale (agrees : ifs.prefetchFifo.Agrees data) :
    (ifs.withStale pcId data).nextHold port = ifs.nextHold port := by
  have sameHoldEn : (ifs.withStale pcId data).holdEn port = ifs.holdEn port := by
    rw [holdEn, holdEn, fifoDataIsCompress_withStale agrees]
    rfl
  rw [nextHold, nextHold, fifoRdata_withStale agrees, sameHoldEn, insnValue_withStale]
  rfl

/-- The next state differs at most in the same places. -/
theorem next_withStale (pmpEnable : Bool) (agrees : ifs.prefetchFifo.Agrees data) :
    (ifs.withStale pcId data).next pmpEnable port =
      (ifs.next pmpEnable port).withStale (if port.readyId then ifs.pcIf else pcId)
        ((ifs.withStale pcId data).nextPrefetchFifo port).fifoDataQ := by
  have payload : (ifs.withStale pcId data).insnPayloadIf port = ifs.insnPayloadIf port := by
    rw [insnPayloadIf, insnPayloadIf, insnPayload_withStale agrees]
  rw [next, next, nextIfId, nextIfId, payload, insnErr_withStale agrees,
    insnCompressIf_withStale agrees, insnValue_withStale, nextPc_withStale agrees,
    nextHold_withStale agrees]
  cases port.flushF <;> cases readyIf port <;> rfl

theorem agrees_nextPrefetchFifo (agrees : ifs.prefetchFifo.Agrees data) :
    (ifs.nextPrefetchFifo port).Agrees
      ((ifs.withStale pcId data).nextPrefetchFifo port).fifoDataQ :=
  SyncFifo.agrees_next agrees _

end IfStage

/-! ## The core -/

/-- The registers that an empty slot leaves over. -/
structure Stale where
  pcId : Word
  pcEx : Word
  pcMem : Word
  pcWb : Word
  prefetch : Fin 4 → BitVec 33

/-- The operations of EX that look at their address, and the marker that takes it along. -/
def IdEx.readsPc (ex : IdEx) : Bool :=
  ex.branchEx || ex.jumpEx || ex.lsuEnEx || ex.csrEnEx || ex.excTakenEx

def ExMem.readsPc (mem : ExMem) : Bool := mem.lsuEnMem || mem.excTakenMem

def MemWb.readsPc (wb : MemWb) : Bool := wb.lsuEnWb || wb.excTakenWb

theorem ExStage.nextOperation_withPc (mem : ExMem) (ex : IdEx) (pcMem pcEx rdWrDataEx : Word)
    (readyEx validEx readyMem flushE pmpErr : Bool) :
    nextOperation { mem with pcMem } { ex with pcEx } rdWrDataEx readyEx validEx readyMem flushE
        pmpErr =
      { nextOperation mem ex rdWrDataEx readyEx validEx readyMem flushE pmpErr with pcMem } := by
  rw [nextOperation, nextOperation]
  split
  · rfl
  · split <;> rfl

theorem MemStage.nextOperation_withPc (wb : MemWb) (mem : ExMem) (pcWb pcMem : Word)
    (validMem readyWb flushM : Bool) :
    nextOperation { wb with pcWb } { mem with pcMem } validMem readyWb flushM =
      { nextOperation wb mem validMem readyWb flushM with pcWb } := by
  rw [nextOperation, nextOperation]
  split
  · rfl
  · split <;> rfl

namespace CoreState

def stale (st : CoreState) : Stale where
  pcId := st.ifs.pcId
  pcEx := st.idEx.pcEx
  pcMem := st.exMem.pcMem
  pcWb := st.memWb.pcWb
  prefetch := st.ifs.prefetchFifo.fifoDataQ

/-- The same state with other leftovers. -/
def withStale (st : CoreState) (stale : Stale) : CoreState :=
  { st with
    ifs := st.ifs.withStale stale.pcId stale.prefetch
    idEx := { st.idEx with pcEx := stale.pcEx }
    exMem := { st.exMem with pcMem := stale.pcMem }
    memWb := { st.memWb with pcWb := stale.pcWb } }

/-- The leftovers agree with the state wherever a slot is in use. -/
structure Agrees (st : CoreState) (stale : Stale) : Prop where
  inId : st.ifs.instrValueId = true → stale.pcId = st.ifs.pcId
  inEx : st.idEx.readsPc = true → stale.pcEx = st.idEx.pcEx
  inMem : st.exMem.readsPc = true → stale.pcMem = st.exMem.pcMem
  inWb : st.memWb.readsPc = true → stale.pcWb = st.memWb.pcWb
  prefetch : st.ifs.prefetchFifo.Agrees stale.prefetch

/-- A bus error is reported for a load or store in WB. -/
def ErrorOwned (st : CoreState) (port : CoreInput) : Prop :=
  st.isLsuLoadErr port = true ∨ st.isLsuStoreErr port = true → st.memWb.lsuEnWb = true

variable {params : Params} {st : CoreState} {port : CoreInput} {stale : Stale}

theorem rdWrDataEx_withStale (agrees : st.Agrees stale) :
    (st.withStale stale).rdWrDataEx port = st.rdWrDataEx port := by
  cases jump : st.idEx.jumpEx with
  | true =>
      have samePc := agrees.inEx (by simp [IdEx.readsPc, jump])
      change ExStage.rdWrDataEx { st.idEx with pcEx := stale.pcEx } _ _ = _
      rw [samePc]
      rfl
  | false =>
      change ExStage.rdWrDataEx { st.idEx with pcEx := stale.pcEx } _ _ = _
      rw [rdWrDataEx, ExStage.rdWrDataEx, ExStage.rdWrDataEx, jump]
      rfl

theorem forwards_withStale (agrees : st.Agrees stale) :
    (st.withStale stale).forwards port = st.forwards port := by
  rw [forwards, forwards, rdWrDataEx_withStale agrees]
  rfl

theorem branchJumpTarget_withStale (agrees : st.Agrees stale) :
    (st.withStale stale).branchJumpTarget = st.branchJumpTarget := by
  have sameTaken : (st.withStale stale).branchTaken = st.branchTaken := rfl
  rw [branchJumpTarget, branchJumpTarget, sameTaken]
  cases taken : st.branchTaken with
  | false => rfl
  | true =>
      have branch : st.idEx.branchEx = true := by
        rw [branchTaken, ExStage.branchTaken, Bool.and_eq_true, Bool.and_eq_true] at taken
        exact taken.1.1
      have samePc := agrees.inEx (by simp [IdEx.readsPc, branch])
      change ((if true = true then ExStage.branchTargetAddr { st.idEx with pcEx := stale.pcEx }
        else _) ||| _) = _
      rw [samePc]
      rfl

theorem ifInput_withStale (agrees : st.Agrees stale) :
    (st.withStale stale).ifInput params port = st.ifInput params port := by
  have sameTarget : (st.withStale stale).setPc params port = st.setPc params port := by
    rw [setPc, setPc, branchJumpTarget_withStale agrees]
    rfl
  rw [ifInput, ifInput, sameTarget]
  rfl

/-- An instruction that reads its address is valid. -/
theorem srcAId_withStale (agrees : st.Agrees stale) (data : Word) :
    IdStage.srcAId st.decoded stale.pcId data = IdStage.srcAId st.decoded st.ifs.pcId data := by
  cases valid : st.ifs.instrValueId with
  | true => rw [agrees.inId valid]
  | false =>
      rw [decoded, valid]
      rfl

/-- The address recorded by a trap belongs to a marker or to the owner of a bus error. -/
theorem mepcN_withStale (agrees : st.Agrees stale) (owned : st.ErrorOwned port) :
    st.csr.mepcN ((st.withStale stale).csrInput params port) =
      st.csr.mepcN (st.csrInput params port) := by
  cases taken : st.excTaken port with
  | true =>
      have inUse : st.memWb.readsPc = true := by
        rw [excTaken, Bool.or_assoc, Bool.or_eq_true, Bool.or_eq_true] at taken
        rw [MemWb.readsPc, Bool.or_eq_true]
        exact taken.elim Or.inr fun error => Or.inl (owned error)
      have sameInput : (st.withStale stale).csrInput params port = st.csrInput params port := by
        change { (st.csrInput params port) with pcWb := stale.pcWb } = _
        rw [agrees.inWb inUse]
        rfl
      rw [sameInput]
  | false =>
      have fromIf : (st.mepcUpdata params port) = false := by
        rw [mepcUpdata, trapUpdate, Controller.trapUpdate]
        change (if st.excTaken port = true then _ else _ : Controller.TrapUpdate).mepcUpdata = _
        rw [taken, if_neg (by decide)]
        split <;> rfl
      change st.csr.mepcN { (st.csrInput params port) with pcWb := stale.pcWb } = _
      rw [Csr.mepcN, Csr.mepcN]
      split
      · rfl
      · change (if st.mepcUpdata params port = true then _ else _) =
          if st.mepcUpdata params port = true then _ else _
        rw [fromIf]
        rfl

theorem ifs_step_withStale (params : Params) (port : CoreInput)
    (agrees : st.Agrees stale) :
    ((st.withStale stale).step params port).ifs =
      (st.step params port).ifs.withStale ((st.withStale stale).step params port).ifs.pcId
        ((st.withStale stale).step params port).ifs.prefetchFifo.fifoDataQ := by
  have next : ((st.withStale stale).step params port).ifs = _ :=
    IfStage.next_withStale params.pmpEnable agrees.prefetch
  rw [ifInput_withStale agrees] at next
  rw [next]
  rfl

theorem nextIdExOperation_withStale (params : Params) (port : CoreInput)
    (agrees : st.Agrees stale) (pc : Word) :
    { (st.withStale stale).nextIdExOperation params port with pcEx := pc } =
      { st.nextIdExOperation params port with pcEx := pc } := by
  have sameReady : (st.withStale stale).readyId params port = st.readyId params port := rfl
  have sameReadyEx : (st.withStale stale).readyEx params port = st.readyEx params port := rfl
  have sameFlush : (st.withStale stale).flushD = st.flushD := rfl
  rw [nextIdExOperation, nextIdExOperation, sameReady, sameReadyEx, sameFlush]
  split
  · rfl
  · split
    · have sameRs1 : (st.withStale stale).rs1RdData port = st.rs1RdData port := by
        rw [rs1RdData, rs1RdData, forwards_withStale agrees]
        rfl
      have sameRs2 : (st.withStale stale).rs2RdData port = st.rs2RdData port := by
        rw [rs2RdData, rs2RdData, forwards_withStale agrees]
        rfl
      have sameSrcA : IdStage.srcAId (st.withStale stale).decoded (st.withStale stale).ifs.pcId
          (st.rs1RdData port) = IdStage.srcAId st.decoded st.ifs.pcId (st.rs1RdData port) :=
        srcAId_withStale agrees _
      rw [sameRs1, sameRs2, IdStage.issued, IdStage.issued, sameSrcA]
      rfl
    · rfl

theorem nextIdEx_withStale (params : Params) (port : CoreInput)
    (agrees : st.Agrees stale) :
    (st.withStale stale).nextIdEx params port =
      { st.nextIdEx params port with
        pcEx := ((st.withStale stale).nextIdEx params port).pcEx } := by
  have sameOperation :=
    nextIdExOperation_withStale params port agrees 0#32
  rw [IdEx.mk.injEq] at sameOperation
  rw [nextIdEx, nextIdEx]
  simp only [sameOperation]
  rfl

theorem nextExMem_withStale (params : Params) (port : CoreInput)
    (agrees : st.Agrees stale) :
    (st.withStale stale).nextExMem params port =
      { st.nextExMem params port with
        pcMem := ((st.withStale stale).nextExMem params port).pcMem } := by
  have sameOperation : ExStage.nextOperation (st.withStale stale).exMem (st.withStale stale).idEx
      (st.rdWrDataEx port) ((st.withStale stale).readyEx params port)
      ((st.withStale stale).validEx port) ((st.withStale stale).readyMem port)
      (st.withStale stale).flushE (st.withStale stale).pmpErr = _ :=
    ExStage.nextOperation_withPc st.exMem st.idEx stale.pcMem stale.pcEx _ _ _ _ _ _
  rw [nextExMem, rdWrDataEx_withStale agrees, sameOperation]
  rfl

theorem nextMemWb_withStale (st : CoreState) (port : CoreInput) (stale : Stale) :
    (st.withStale stale).nextMemWb port =
      { st.nextMemWb port with pcWb := ((st.withStale stale).nextMemWb port).pcWb } := by
  have sameOperation : MemStage.nextOperation (st.withStale stale).memWb (st.withStale stale).exMem
      ((st.withStale stale).validMem port) ((st.withStale stale).readyWb port)
      (st.withStale stale).flushE = _ :=
    MemStage.nextOperation_withPc st.memWb st.exMem stale.pcWb stale.pcMem _ _ _
  rw [nextMemWb, sameOperation]
  rfl

/-- One step changes nothing but leftovers. -/
theorem step_withStale (agrees : st.Agrees stale) (owned : st.ErrorOwned port) :
    (st.withStale stale).step params port =
      (st.step params port).withStale ((st.withStale stale).step params port).stale := by
  have sameCsr : ((st.withStale stale).step params port).csr = (st.step params port).csr := by
    change { st.csr.next (st.csrInput params port) with
      mepcQ := st.csr.mepcN ((st.withStale stale).csrInput params port) } = _
    rw [mepcN_withStale agrees owned]
    rfl
  have sameIfs := ifs_step_withStale params port agrees
  have sameIdEx := nextIdEx_withStale params port agrees
  have sameExMem := nextExMem_withStale params port agrees
  have sameMemWb := nextMemWb_withStale st port stale
  change CoreState.mk _ _ _ _ _ _ _ _ _ _ _ = CoreState.mk _ _ _ _ _ _ _ _ _ _ _
  rw [CoreState.mk.injEq]
  exact ⟨sameIfs, sameIdEx, rfl, sameExMem, sameCsr, rfl, rfl, sameMemWb, rfl, rfl, rfl⟩

theorem inId_step (agrees : st.Agrees stale)
    (valid : (st.step params port).ifs.instrValueId = true) :
    ((st.withStale stale).step params port).ifs.pcId = (st.step params port).ifs.pcId := by
  change (if st.readyId params port = true then st.ifs.pcIf else stale.pcId) =
    if st.readyId params port = true then st.ifs.pcIf else st.ifs.pcId
  cases ready : st.readyId params port with
  | true => rfl
  | false =>
      refine agrees.inId ?_
      change (st.ifs.nextIfId (st.ifInput params port)).instrValueId = true at valid
      have notReady : IfStage.readyIf (st.ifInput params port) = false := by
        change (st.readyId params port && _) = false
        rw [ready]
        rfl
      rw [IfStage.nextIfId, notReady] at valid
      split at valid
      · cases valid
      · exact valid

/-- An operation that reads its address is a valid instruction of this cycle, or it was there. -/
theorem readsPc_step (reads : (st.step params port).idEx.readsPc = true) :
    st.validId params port = true ∨
      (st.validId params port = false ∧ st.idEx.readsPc = true) := by
  cases valid : st.validId params port with
  | true => exact .inl rfl
  | false =>
      refine .inr ⟨rfl, ?_⟩
      change { st.nextIdExOperation params port with
        excTakenEx := IdStage.nextExcTakenEx st.idEx.excTakenEx (st.validId params port) st.flushD
          (st.readyEx params port) (st.excTakenId params port) : IdEx }.readsPc = true at reads
      rw [valid] at reads
      cases readyEx : st.readyEx params port with
      | false =>
          rw [nextIdExOperation_of_notReady readyEx, readyEx] at reads
          exact reads
      | true =>
          rw [readyEx] at reads
          by_cases issue : st.readyId params port = true ∧ st.flushD = false
          · have empty : st.ifs.instrValueId = false := by
              have ready := issue.1
              rw [readyId, Bool.and_eq_true, Bool.and_eq_true] at ready
              rw [validId, ready.1.1, ready.1.2] at valid
              exact valid
            rw [nextIdExOperation_of_issue issue.1 issue.2, decoded, empty] at reads
            cases reads
          · have bubble : st.readyId params port = false ∨ st.flushD = true := by
              rw [Decidable.not_and_iff_not_or_not, Bool.not_eq_true, Bool.not_eq_false] at issue
              exact issue
            rw [nextIdExOperation_of_bubble readyEx bubble] at reads
            cases reads

/-- Only a load, a store or a CSR instruction raises an exception in EX. -/
theorem readsPc_of_excEx (denied : st.excEx params = true) : st.idEx.readsPc = true := by
  cases access : st.idEx.lsuEnEx with
  | true => simp [IdEx.readsPc, access]
  | false =>
      cases csr : st.idEx.csrEnEx with
      | true => simp [IdEx.readsPc, csr]
      | false =>
          rw [excEx, pmpErr_of_noAccess access, illegalCsr_of_noAccess csr] at denied
          split at denied <;> cases denied

/-- The leftovers of one step agree with it. -/
theorem agrees_step (agrees : st.Agrees stale) :
    (st.step params port).Agrees ((st.withStale stale).step params port).stale where
  inId := inId_step agrees
  inEx := by
    intro reads
    change (if st.validId params port = true then stale.pcId else stale.pcEx) =
      if st.validId params port = true then st.ifs.pcId else st.idEx.pcEx
    rcases readsPc_step reads with valid | ⟨notValid, reads⟩
    · have filled := valid
      rw [validId, Bool.and_eq_true] at filled
      rw [valid, if_pos rfl, if_pos rfl, agrees.inId filled.2]
    · rw [notValid, if_neg (by decide), if_neg (by decide), agrees.inEx reads]
  inMem := by
    intro reads
    change (if st.validEx port = true then stale.pcEx else stale.pcMem) =
      if st.validEx port = true then st.idEx.pcEx else st.exMem.pcMem
    rw [ExMem.readsPc, lsuEnMem_step, excTakenMem_step, Bool.or_eq_true] at reads
    cases readyMem : st.readyMem port with
    | false =>
        have notValid : st.validEx port = false := by simp [validEx, readyMem]
        rw [readyMem, if_neg (by decide), if_neg (by decide), ← Bool.or_eq_true] at reads
        rw [notValid, if_neg (by decide), if_neg (by decide), agrees.inMem reads]
    | true =>
        rw [readyMem, if_pos rfl, if_pos rfl] at reads
        have movesOn : st.validEx port = true ∧ st.idEx.readsPc = true := by
          rw [Bool.and_eq_true, Bool.and_eq_true, Bool.and_eq_true, Bool.and_eq_true] at reads
          rcases reads with ⟨⟨readyEx, -⟩, access⟩ | ⟨⟨valid, -⟩, marker⟩
          · exact ⟨validEx_of_readyEx readyEx, by simp [IdEx.readsPc, access]⟩
          · rw [Bool.or_eq_true] at marker
            rcases marker with marker | denied
            · exact ⟨valid, by simp [IdEx.readsPc, marker]⟩
            · exact ⟨valid, readsPc_of_excEx denied⟩
        rw [movesOn.1, if_pos rfl, if_pos rfl, agrees.inEx movesOn.2]
  inWb := by
    intro reads
    change (if st.validMem port = true then stale.pcMem else stale.pcWb) =
      if st.validMem port = true then st.exMem.pcMem else st.memWb.pcWb
    rw [validMem_eq_readyMem]
    rw [MemWb.readsPc, lsuEnWb_step, excTakenWb_step] at reads
    cases readyWb : st.readyWb port with
    | false =>
        have notReady : st.readyMem port = false := by simp [readyMem, readyWb]
        rw [readyWb, if_neg (by decide), if_neg (by decide)] at reads
        rw [notReady, if_neg (by decide), if_neg (by decide), agrees.inWb reads]
    | true =>
        rw [readyWb, if_pos rfl, if_pos rfl, ← Bool.and_or_distrib_left, Bool.and_assoc,
          Bool.and_eq_true, Bool.and_eq_true] at reads
        rw [reads.1, if_pos rfl, if_pos rfl, agrees.inMem reads.2.2]
  prefetch := by
    change (st.ifs.nextPrefetchFifo (st.ifInput params port)).Agrees
      ((st.withStale stale).ifs.nextPrefetchFifo
        ((st.withStale stale).ifInput params port)).fifoDataQ
    rw [ifInput_withStale agrees]
    exact IfStage.agrees_nextPrefetchFifo agrees.prefetch

end CoreState

end RiscvCore
