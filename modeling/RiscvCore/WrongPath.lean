import RiscvCore.DataRequests
import RiscvCore.StaleRegisters
import RiscvCore.TrapSteps

/-!
# Instructions on the wrong path

A taken branch or jump in EX empties ID and drops the words fetched behind it.  A run is compared
with the run that goes on, with the same inputs, from the state without these instructions.  The
two agree in everything but leftovers, unless the instruction in ID reaches the controller in the
cycle in which it is dropped.
-/

namespace RiscvCore

/-- The architectural state. -/
structure Architecture where
  mstatus : StatusRv
  privilegeMode : Privilege
  mepc : Word
  mcause : Word
  irqThreshold : BitVec 2
  mem : RegAddr → Word
  dirtyEn : RegAddr → Bool

/-- The requests that the core raises in one cycle. -/
structure BusRequests where
  data : Option DataRequest
  instr : Option Word

namespace CoreState

def architecture (st : CoreState) : Architecture where
  mstatus := st.csr.mstatusQ
  privilegeMode := st.csr.privilegeModeQ
  mepc := st.csr.mepcQ
  mcause := st.csr.mcauseQ
  irqThreshold := st.irqThreshold
  mem := st.rf.mem
  dirtyEn := st.rf.dirtyEn

def busRequests (params : Params) (st : CoreState) (port : CoreInput) : BusRequests where
  data := if Lsu.dataReq (st.lsuAccess port) then some (st.dataRequest port) else none
  instr :=
    if st.ifs.instrReq (st.ifInput params port) then
      some (st.ifs.instrAddr (st.ifInput params port))
    else none

end CoreState

/-- Instruction fetch with an empty ID and nothing fetched ahead. -/
def IfStage.emptied (ifs : IfStage) : IfStage :=
  { ifs with
    instrPayloadId := 0#32
    instrValueId := false
    compressInstrId := false
    instrFetchError := false
    predictTakenId := false
    predictPcId := 0#32
    holdRdata := 0#16
    holdRdataValue := false
    holdRdataErr := false
    prefetchFifo := { ifs.prefetchFifo with valid := fun _ => false } }

def CoreState.withoutWrongPath (st : CoreState) : CoreState := { st with ifs := st.ifs.emptied }

namespace IfStage

variable {ifs : IfStage} {port : Input}

theorem fifoClear_of_redirect (redirect : port.setPcValid = true) : fifoClear port = true := by
  rw [fifoClear, updisconNew, redirect, Bool.or_true]

theorem instrReqNew_emptied (redirect : port.setPcValid = true) :
    ifs.emptied.instrReqNew port = ifs.instrReqNew port := by
  rw [instrReqNew, instrReqNew, fifoClear_of_redirect redirect, Bool.or_true, Bool.or_true]
  rfl

theorem instrReq_emptied (redirect : port.setPcValid = true) :
    ifs.emptied.instrReq port = ifs.instrReq port := by
  rw [instrReq, instrReq, instrReqNew_emptied redirect]
  rfl

theorem pmpErr_emptied (pmpEnable : Bool) (redirect : port.setPcValid = true) :
    ifs.emptied.pmpErr pmpEnable port = ifs.pmpErr pmpEnable port := by
  rw [pmpErr, pmpErr, instrReqNew_emptied redirect]
  rfl

theorem nextCmdFifo_emptied (pmpEnable : Bool) (redirect : port.setPcValid = true) :
    ifs.emptied.nextCmdFifo pmpEnable port = ifs.nextCmdFifo pmpEnable port := by
  rw [nextCmdFifo, nextCmdFifo, cmdFifoPush, cmdFifoPush, cmdFifoWdata, cmdFifoWdata, reqAbort,
    reqAbort, instrReq_emptied redirect, pmpErr_emptied pmpEnable redirect]
  rfl

theorem nextInstrPrefetchAddr_emptied (redirect : port.setPcValid = true) :
    ifs.emptied.nextInstrPrefetchAddr port = ifs.nextInstrPrefetchAddr port := by
  rw [nextInstrPrefetchAddr, nextInstrPrefetchAddr, instrReq_emptied redirect]
  rfl

theorem nextReqFail_emptied (pmpEnable : Bool) (redirect : port.setPcValid = true) :
    ifs.emptied.nextReqFail pmpEnable port = ifs.nextReqFail pmpEnable port := by
  rw [nextReqFail, nextReqFail, instrReq_emptied redirect, pmpErr_emptied pmpEnable redirect]

theorem nextPc_of_redirect (redirect : port.setPcValid = true) : ifs.nextPc port = port.setPc := by
  rw [nextPc, if_pos redirect]

theorem nextHold_of_redirect (redirect : port.setPcValid = true) :
    ifs.nextHold port = (0#16, false, false) := by
  rw [nextHold, if_pos (fifoClear_of_redirect redirect)]

/-- A redirect that flushes ID leaves nothing of what was fetched. -/
theorem next_emptied (pmpEnable : Bool) (redirect : port.setPcValid = true)
    (flush : port.flushF = true) (readyId : Bool) :
    ifs.emptied.next pmpEnable { port with readyId } =
      (ifs.next pmpEnable port).withStale (if readyId then ifs.pcIf else ifs.pcId)
        (ifs.emptied.nextPrefetchFifo { port with readyId }).fifoDataQ := by
  have prefetch : ifs.emptied.nextPrefetchFifo { port with readyId } =
      (ifs.nextPrefetchFifo port).withData
        (ifs.emptied.nextPrefetchFifo { port with readyId }).fifoDataQ := by
    change SyncFifo.mk _ _ = SyncFifo.mk _ _
    congr 1
    funext slot
    change (_ && !fifoClear port) = (_ && !fifoClear port)
    rw [fifoClear_of_redirect redirect, Bool.not_true, Bool.and_false, Bool.and_false]
  have cmdFifo : ifs.emptied.nextCmdFifo pmpEnable { port with readyId } =
      ifs.nextCmdFifo pmpEnable port := nextCmdFifo_emptied pmpEnable redirect
  have prefetchAddr : ifs.emptied.nextInstrPrefetchAddr { port with readyId } =
      ifs.nextInstrPrefetchAddr port := nextInstrPrefetchAddr_emptied redirect
  have reqFail : ifs.emptied.nextReqFail pmpEnable { port with readyId } =
      ifs.nextReqFail pmpEnable port := nextReqFail_emptied pmpEnable redirect
  have otherRedirect : ({ port with readyId } : Input).setPcValid = true := redirect
  have otherFlush : ({ port with readyId } : Input).flushF = true := flush
  have pc (other : IfStage) (port : Input) (redirect : port.setPcValid = true) :
      (if readyIf port || port.setPcValid then other.nextPc port else other.pcIf) = port.setPc := by
    rw [redirect, Bool.or_true, if_pos rfl, nextPc_of_redirect redirect]
  rw [next, next, nextIfId, nextIfId, pc ifs port redirect, pc ifs.emptied _ otherRedirect,
    nextHold_of_redirect redirect, nextHold_of_redirect otherRedirect, prefetch, cmdFifo,
    prefetchAddr, reqFail, if_pos flush, if_pos otherFlush]
  rfl

end IfStage

namespace Controller

/-- The input of the controller while ID holds nothing. -/
def Input.withoutId (port : Input) : Input :=
  { port with
    isMret := false
    isEcall := false
    isEbreak := false
    isFence := false
    isIllegalInstr := false
    isInstrAcsFault := false
    isInterrupt := false
    isWfi := false }

/-- The signals of ID that a trap record looks at. -/
def Input.recordsId (port : Input) : Bool :=
  port.isEcall || port.isEbreak || port.isIllegalInstr || port.isInstrAcsFault || port.isWfi

def Input.busError (port : Input) : Bool := port.isLsuLoadErr || port.isLsuStoreErr

theorem trapUpdate_withoutId {fsm : ControlFsm} {port : Input}
    (noInterrupt : port.isInterrupt = false)
    (gated : port.excTaken = true → port.busError = true ∨ port.recordsId = false) :
    trapUpdate fsm port.withoutId = trapUpdate fsm port := by
  cases taken : port.excTaken with
  | false =>
      have sameTaken : port.withoutId.excTaken = false := taken
      rw [trapUpdate, trapUpdate, taken, sameTaken]
      rfl
  | true =>
      rcases gated taken with error | silent
      · rw [Input.busError, Bool.or_eq_true] at error
        rcases error with loadErr | storeErr
        · cases storeErr : port.isLsuStoreErr <;> cases pmpStoreErr : port.isPmpStoreErr <;>
            simp [trapUpdate, Input.withoutId, taken, loadErr, storeErr, pmpStoreErr]
        · simp [trapUpdate, Input.withoutId, taken, storeErr]
      · simp only [Input.recordsId, Bool.or_eq_false_iff] at silent
        obtain ⟨⟨⟨⟨ecall, ebreak⟩, illegal⟩, fault⟩, wfi⟩ := silent
        rw [trapUpdate, trapUpdate, ecall, ebreak, illegal, fault, wfi, noInterrupt]
        rfl

theorem mcauseUpdate_of_busError {fsm : ControlFsm} {port : Input} (taken : port.excTaken = true)
    (error : port.busError = true) : (trapUpdate fsm port).mcauseUpdate = true := by
  rw [trapUpdate, if_pos taken]
  rw [Input.busError, Bool.or_eq_true] at error
  split
  · rfl
  · rename_i noStoreErr
    rcases error with loadErr | storeErr
    · rw [if_pos (by rw [loadErr, Bool.true_or])]
      rfl
    · exact absurd (by rw [storeErr, Bool.true_or]) noStoreErr

theorem fsmControlNs_withoutId {fsm : ControlFsm} {port : Input}
    (gated : fsm = .excFlush → port.isWfi = false) :
    fsmControlNs fsm port.withoutId = fsmControlNs fsm port := by
  cases fsm with
  | excFlush =>
      rw [fsmControlNs, fsmControlNs, gated rfl]
      rfl
  | idle => rfl
  | sleep => rfl
  | wakeup => rfl

theorem excFetch_withoutId {fsm : ControlFsm} {isFence isMret isWfi : Bool}
    (gated : fsm = .excFlush → isFence = false ∧ isMret = false ∧ isWfi = false)
    (pcIf mepc mtvec : Word) :
    excFetch fsm false false false pcIf mepc mtvec =
      excFetch fsm isFence isMret isWfi pcIf mepc mtvec := by
  cases fsm with
  | excFlush =>
      obtain ⟨fence, mret, wfi⟩ := gated rfl
      rw [fence, mret, wfi]
  | idle => rfl
  | sleep => rfl
  | wakeup => rfl

end Controller

/-- What `mret` leaves of the status register when both of its enables are set. -/
def StatusRv.returned : StatusRv where
  mpp := privLvlU
  mpie := true
  mie := true

/-- A return that finds its own result changes nothing. -/
theorem Csr.next_of_returned (csr : Csr) (port : Csr.Input)
    (returned : port.isMret = true → csr.privilegeModeQ ≠ privLvlM ∧
      (port.mcauseUpdate = true ∨ csr.mstatusQ = StatusRv.returned)) :
    csr.next { port with isMret := false } = csr.next port := by
  have samePrivilege : csr.privilegeModeN { port with isMret := false } =
      csr.privilegeModeN port := by
    rw [privilegeModeN, privilegeModeN]
    split
    · rename_i machine
      cases mret : port.isMret with
      | false => rfl
      | true => exact absurd machine (returned mret).1
    · rfl
  have sameStatus : csr.mstatusN { port with isMret := false } = csr.mstatusN port := by
    rw [mstatusN, mstatusN]
    split
    · rfl
    · split
      · rfl
      · rename_i noRecord
        rw [if_neg Bool.false_ne_true]
        split
        · rename_i mret
          rw [((returned mret).2.resolve_left noRecord)]
          rfl
        · rfl
  change { csr.next port with mstatusQ := _, privilegeModeQ := _ : Csr } = _
  rw [samePrivilege, sameStatus]
  rfl

theorem RegisterFile.next_of_noInvalid (rf : RegisterFile) (port : RegisterFile.Input)
    (noInvalid : port.invalid.en = false) (addr : RegAddr) :
    rf.next { port with invalid := { en := false, addr } } = rf.next port := by
  have sameHits (reg : RegAddr) :
      AddrPort.hits { en := false, addr } reg = port.invalid.hits reg := by
    rw [AddrPort.hits, AddrPort.hits, noInvalid, Bool.false_and, Bool.false_and]
  have sameTag : rf.tagN { en := false, addr } = rf.tagN port.invalid := by
    funext reg
    rw [tagN, tagN, sameHits]
  simp only [RegisterFile.next, sameHits, sameTag]
  rfl

namespace CoreState

variable {params : Params} {st : CoreState} {port : CoreInput}

/-! ## The squash cycle -/

/-- The instruction in ID has no effect of its own in this cycle: a return leaves all that it
changes as it is, a trap records nothing of it, and a flush does not follow it. -/
structure SquashGated (params : Params) (st : CoreState) (port : CoreInput) : Prop where
  returns : st.isMret params port = true →
    st.fsm = .idle ∧ st.irqThreshold = 0#2 ∧ st.csr.privilegeModeQ ≠ privLvlM ∧
      ((st.controllerInput params port).busError = true ∨ st.csr.mstatusQ = .returned)
  records : st.excTaken port = true →
    (st.controllerInput params port).busError = true ∨
      (st.controllerInput params port).recordsId = false
  follows : st.fsm = .excFlush →
    st.isFence params port = false ∧ st.isWfi params port = false

theorem flushD_of_branchJump (taken : st.branchJump = true) : st.flushD = true := by
  rw [flushD, taken, Bool.or_true]

theorem setPcValid_of_branchJump (params : Params) (port : CoreInput)
    (taken : st.branchJump = true) :
    (st.ifInput params port).setPcValid = true := by
  rw [branchJump] at taken
  change (st.branchTaken || st.jumpTaken || st.excFetch params port) = true
  rw [taken, Bool.true_or]

theorem controllerInput_withoutWrongPath (flush : st.flushD = true) :
    st.withoutWrongPath.controllerInput params port =
      (st.controllerInput params port).withoutId := by
  have flushOther : st.withoutWrongPath.flushD = true := flush
  have noMret : st.withoutWrongPath.isMret params port = false := Bool.and_false _
  have noEcall : st.withoutWrongPath.isEcall params port = false := Bool.and_false _
  have noEbreak : st.withoutWrongPath.isEbreak params port = false := Bool.and_false _
  have noFence : st.withoutWrongPath.isFence params port = false := Bool.and_false _
  have noIllegal : st.withoutWrongPath.isIllegalInstr params port = false := Bool.and_false _
  have noFault : st.withoutWrongPath.isInstrAcsFault params port = false := Bool.and_false _
  have noWfi : st.withoutWrongPath.isWfi params port = false := Bool.and_false _
  rw [controllerInput, noMret, noEcall, noEbreak, noFence, noIllegal, noFault, noWfi,
    isInterrupt_of_flushD flushOther]
  rfl

theorem trapUpdate_withoutWrongPath (flush : st.flushD = true)
    (gated : st.SquashGated params port) :
    st.withoutWrongPath.trapUpdate params port = st.trapUpdate params port := by
  rw [trapUpdate, controllerInput_withoutWrongPath flush]
  exact Controller.trapUpdate_withoutId (isInterrupt_of_flushD flush) gated.records

theorem excFetchAndPc_withoutWrongPath (gated : st.SquashGated params port) :
    st.withoutWrongPath.excFetchAndPc params port = st.excFetchAndPc params port := by
  have noMret : st.withoutWrongPath.isMret params port = false := Bool.and_false _
  have noFence : st.withoutWrongPath.isFence params port = false := Bool.and_false _
  have noWfi : st.withoutWrongPath.isWfi params port = false := Bool.and_false _
  rw [excFetchAndPc, noMret, noFence, noWfi]
  refine Controller.excFetch_withoutId (fun flushing => ?_) _ _ _
  obtain ⟨fence, wfi⟩ := gated.follows flushing
  refine ⟨fence, ?_, wfi⟩
  cases mret : st.isMret params port with
  | false => rfl
  | true =>
      have idle : st.withoutWrongPath.fsm = .idle := (gated.returns mret).1
      rw [flushing] at idle
      cases idle

theorem ifInput_withoutWrongPath (gated : st.SquashGated params port) :
    st.withoutWrongPath.ifInput params port =
      { st.ifInput params port with readyId := st.withoutWrongPath.readyId params port } := by
  have sameFetch := excFetchAndPc_withoutWrongPath gated
  have sameSetPc : st.withoutWrongPath.setPc params port = st.setPc params port := by
    rw [setPc, setPc, excFetch, excFetch, sameFetch]
    rfl
  have sameSetPcValid : st.withoutWrongPath.setPcValid params port = st.setPcValid params port := by
    rw [setPcValid, setPcValid, excFetch, excFetch, sameFetch]
    rfl
  rw [ifInput, sameSetPc, sameSetPcValid]
  rfl

theorem nextIdExOperation_of_flushD (flush : st.flushD = true) :
    st.nextIdExOperation params port =
      if st.readyEx params port then st.idEx.flushed else st.idEx := by
  cases readyEx : st.readyEx params port with
  | false => rw [nextIdExOperation_of_notReady readyEx, if_neg (by decide)]
  | true => rw [nextIdExOperation_of_bubble readyEx (.inr flush), if_pos rfl]

theorem nextExcTakenEx_of_flushD (params : Params) (port : CoreInput)
    (flush : st.flushD = true) :
    (st.nextIdEx params port).excTakenEx =
      if st.readyEx params port then false else st.idEx.excTakenEx := by
  change IdStage.nextExcTakenEx _ _ _ _ _ = _
  rw [flush, IdStage.nextExcTakenEx]
  cases valid : st.validId params port with
  | true =>
      rw [validId, Bool.and_eq_true, Bool.and_eq_true] at valid
      rw [valid.1.2]
      rfl
  | false => cases st.readyEx params port <;> rfl

theorem csr_withoutWrongPath (flush : st.flushD = true) (gated : st.SquashGated params port) :
    (st.withoutWrongPath.step params port).csr = (st.step params port).csr := by
  have sameUpdate := trapUpdate_withoutWrongPath flush gated
  have noMret : st.withoutWrongPath.isMret params port = false := Bool.and_false _
  have sameInput : st.withoutWrongPath.csrInput params port =
      { st.csrInput params port with isMret := false } := by
    rw [csrInput, mepcUpdata, mcauseUpdate, sameUpdate, noMret]
    rfl
  change st.csr.next (st.withoutWrongPath.csrInput params port) =
    st.csr.next (st.csrInput params port)
  rw [sameInput]
  refine Csr.next_of_returned _ _ fun mret => ⟨(gated.returns mret).2.2.1, ?_⟩
  refine (gated.returns mret).2.2.2.imp_left fun error => ?_
  refine Controller.mcauseUpdate_of_busError ?_ error
  change (_ || st.isLsuLoadErr port || st.isLsuStoreErr port) = true
  rw [Bool.or_assoc, Bool.or_eq_true]
  exact Or.inr error

theorem irqThreshold_withoutWrongPath (flush : st.flushD = true)
    (gated : st.SquashGated params port) :
    (st.withoutWrongPath.step params port).irqThreshold = (st.step params port).irqThreshold := by
  have noMret : st.withoutWrongPath.isMret params port = false := Bool.and_false _
  have flushOther : st.withoutWrongPath.flushD = true := flush
  change Plic.next st.irqThreshold (st.plicInput port) (st.withoutWrongPath.isMret params port)
    (Controller.irqAck st.fsm (st.withoutWrongPath.isInterrupt params port)) =
    Plic.next st.irqThreshold (st.plicInput port) (st.isMret params port)
      (Controller.irqAck st.fsm (st.isInterrupt params port))
  rw [noMret, isInterrupt_of_flushD flush, isInterrupt_of_flushD flushOther]
  cases mret : st.isMret params port with
  | false => rfl
  | true =>
      obtain ⟨idle, threshold, -⟩ := gated.returns mret
      have noAck : Controller.irqAck .idle false = false := rfl
      rw [idle, noAck, Plic.next, Plic.next, Bool.and_false, Bool.and_false, Bool.and_false]
      exact threshold

theorem rf_withoutWrongPath (params : Params) (port : CoreInput)
    (flush : st.flushD = true) :
    (st.withoutWrongPath.step params port).rf = (st.step params port).rf := by
  have flushOther : st.withoutWrongPath.flushD = true := flush
  have noInvalid : (st.invalidPort params port).en = false := by
    rw [invalidPort, flush, Bool.not_true, Bool.and_false]
  have noInvalidOther : st.withoutWrongPath.invalidPort params port =
      { en := false, addr := st.withoutWrongPath.decoded.rdWrAddr } := by
    rw [invalidPort, flushOther, Bool.not_true, Bool.and_false]
  change st.rf.next { st.rfInput params port with
    invalid := st.withoutWrongPath.invalidPort params port } = _
  rw [noInvalidOther]
  exact RegisterFile.next_of_noInvalid st.rf (st.rfInput params port) noInvalid _

theorem idEx_withoutWrongPath (params : Params) (port : CoreInput)
    (flush : st.flushD = true) :
    (st.withoutWrongPath.step params port).idEx =
      { (st.step params port).idEx with
        pcEx := (st.withoutWrongPath.step params port).idEx.pcEx } := by
  have flushOther : st.withoutWrongPath.flushD = true := flush
  have sameOperation : st.withoutWrongPath.nextIdExOperation params port =
      st.nextIdExOperation params port := by
    rw [nextIdExOperation_of_flushD flush, nextIdExOperation_of_flushD flushOther]
    rfl
  have sameMarker : (st.withoutWrongPath.nextIdEx params port).excTakenEx =
      (st.nextIdEx params port).excTakenEx := by
    rw [nextExcTakenEx_of_flushD params port flush, nextExcTakenEx_of_flushD params port flushOther]
    rfl
  change { st.withoutWrongPath.nextIdExOperation params port with
    pcEx := (st.withoutWrongPath.nextIdEx params port).pcEx
    iretireEx := _ && !st.withoutWrongPath.flushD
    excTakenEx := (st.withoutWrongPath.nextIdEx params port).excTakenEx : IdEx } =
    { st.nextIdExOperation params port with
      pcEx := (st.withoutWrongPath.nextIdEx params port).pcEx
      iretireEx := _ && !st.flushD
      excTakenEx := (st.nextIdEx params port).excTakenEx : IdEx }
  rw [sameOperation, sameMarker, flush, flushOther, Bool.not_true, Bool.and_false, Bool.and_false]

/-- The cycle that drops the wrong path leaves leftovers of it at most. -/
theorem step_withoutWrongPath (taken : st.branchJump = true) (gated : st.SquashGated params port) :
    st.withoutWrongPath.step params port =
      (st.step params port).withStale (st.withoutWrongPath.step params port).stale := by
  have flush := flushD_of_branchJump taken
  have sameIfs : (st.withoutWrongPath.step params port).ifs =
      (st.step params port).ifs.withStale (st.withoutWrongPath.step params port).ifs.pcId
        (st.withoutWrongPath.step params port).ifs.prefetchFifo.fifoDataQ := by
    have redirect := setPcValid_of_branchJump params port taken
    have next : (st.withoutWrongPath.step params port).ifs = _ :=
      (congrArg (st.ifs.emptied.next params.pmpEnable) (ifInput_withoutWrongPath gated)).trans
        (IfStage.next_emptied params.pmpEnable redirect flush _)
    rw [next]
    rfl
  have sameIdEx := idEx_withoutWrongPath params port flush
  have sameCsr := csr_withoutWrongPath flush gated
  have sameThreshold := irqThreshold_withoutWrongPath flush gated
  have sameRf := rf_withoutWrongPath params port flush
  have sameFsm : (st.withoutWrongPath.step params port).fsm = (st.step params port).fsm := by
    change Controller.fsmControlNs st.fsm (st.withoutWrongPath.controllerInput params port) = _
    rw [controllerInput_withoutWrongPath flush]
    exact Controller.fsmControlNs_withoutId fun flushing => (gated.follows flushing).2
  change CoreState.mk _ _ _ _ _ _ _ _ _ _ _ = CoreState.mk _ _ _ _ _ _ _ _ _ _ _
  rw [CoreState.mk.injEq]
  exact ⟨sameIfs, sameIdEx, sameRf, rfl, sameCsr, rfl, rfl, rfl, rfl, sameFsm, sameThreshold⟩

theorem agrees_withoutWrongPath (taken : st.branchJump = true) :
    (st.step params port).Agrees (st.withoutWrongPath.step params port).stale where
  inId := by
    intro valid
    change (st.ifs.nextIfId (st.ifInput params port)).instrValueId = true at valid
    have flush : (st.ifInput params port).flushF = true := flushD_of_branchJump taken
    rw [IfStage.nextIfId, if_pos flush] at valid
    cases valid
  inEx := by
    intro reads
    have flush := flushD_of_branchJump taken
    have notValid : st.validId params port = false := by
      cases readyEx : st.readyEx params port with
      | false => rw [validId, readyEx, Bool.and_false, Bool.false_and]
      | true =>
          have marker := nextExcTakenEx_of_flushD params port flush
          change { st.nextIdExOperation params port with
            excTakenEx := (st.nextIdEx params port).excTakenEx : IdEx }.readsPc = true at reads
          rw [marker, nextIdExOperation_of_flushD flush, readyEx] at reads
          cases reads
    have notValidOther : st.withoutWrongPath.validId params port = false := Bool.and_false _
    change (if st.withoutWrongPath.validId params port = true then st.ifs.pcId else st.idEx.pcEx) =
      if st.validId params port = true then st.ifs.pcId else st.idEx.pcEx
    rw [notValid, notValidOther]
  inMem := fun _ => rfl
  inWb := fun _ => rfl
  prefetch := by
    intro slot valid
    have redirect := setPcValid_of_branchJump params port taken
    change (_ && !IfStage.fifoClear (st.ifInput params port)) = true at valid
    rw [IfStage.fifoClear_of_redirect redirect, Bool.not_true, Bool.and_false] at valid
    cases valid

theorem busRequests_withStale {stale : Stale} (agrees : st.Agrees stale) :
    (st.withStale stale).busRequests params port = st.busRequests params port := by
  rw [busRequests, busRequests, ifInput_withStale agrees]
  rfl

theorem busRequests_withoutWrongPath (taken : st.branchJump = true)
    (gated : st.SquashGated params port) :
    st.withoutWrongPath.busRequests params port = st.busRequests params port := by
  have redirect := setPcValid_of_branchJump params port taken
  have sameReq : st.withoutWrongPath.ifs.instrReq
      { st.ifInput params port with readyId := st.withoutWrongPath.readyId params port } =
        st.ifs.instrReq (st.ifInput params port) := IfStage.instrReq_emptied redirect
  rw [busRequests, busRequests, ifInput_withoutWrongPath gated, sameReq]
  rfl

end CoreState

/-! ## Runs -/

namespace CoreRun

/-- The run that goes on from the given cycle without the instructions in ID and behind it, with
the inputs of this run. -/
def withoutWrongPathFrom (run : CoreRun) (cycle : Nat) : Nat → CoreState :=
  SynchronousRun.run (CoreState.step run.params) (run.state cycle).withoutWrongPath
    fun later => run.inputs (cycle + later)

theorem withoutWrongPathFrom_one (run : CoreRun) (cycle : Nat) :
    run.withoutWrongPathFrom cycle 1 =
      (run.state cycle).withoutWrongPath.step run.params (run.inputs cycle) := rfl

/-- From every cycle with a taken branch or jump on, the architectural state and the requests on
both buses are those of the run in which ID and the fetch stage held nothing in that cycle. -/
def WrongPathInert (run : CoreRun) : Prop :=
  ∀ cycle, (run.state cycle).branchJump = true → ∀ later,
    (run.withoutWrongPathFrom cycle later).architecture =
        (run.state (cycle + later)).architecture ∧
      (run.withoutWrongPathFrom cycle later).busRequests run.params (run.inputs (cycle + later)) =
        (run.state (cycle + later)).busRequests run.params (run.inputs (cycle + later))

/-- After the cycle itself the two runs differ in leftovers only. -/
theorem exists_stale {run : CoreRun} {cycle : Nat}
    (taken : (run.state cycle).branchJump = true)
    (gated : (run.state cycle).SquashGated run.params (run.inputs cycle))
    (owned : ∀ cycle, (run.state cycle).ErrorOwned (run.inputs cycle)) (later : Nat) :
    ∃ stale, (run.state (cycle + 1 + later)).Agrees stale ∧
      run.withoutWrongPathFrom cycle (1 + later) =
        (run.state (cycle + 1 + later)).withStale stale := by
  have otherRun : run.withoutWrongPathFrom cycle (1 + later) = SynchronousRun.run
      (CoreState.step run.params)
      ((run.state cycle).withoutWrongPath.step run.params (run.inputs cycle))
      (fun later => run.inputs (cycle + (1 + later))) later :=
    SynchronousRun.run_add 1 later
  have sameInputs : (fun later => run.inputs (cycle + (1 + later))) =
      fun later => run.inputs (cycle + 1 + later) := by
    funext later
    rw [Nat.add_assoc]
  rw [otherRun, sameInputs, run.state_add]
  refine SynchronousRun.run_related
    (fun st other => ∃ stale, st.Agrees stale ∧ other = st.withStale stale)
    CoreState.ErrorOwned
    ⟨_, CoreState.agrees_withoutWrongPath taken, CoreState.step_withoutWrongPath taken gated⟩
    ?_ (fun later => ?_) later
  · rintro st other port ⟨stale, agrees, rfl⟩ owned
    exact ⟨_, CoreState.agrees_step agrees, CoreState.step_withStale agrees owned⟩
  · change (SynchronousRun.run _ (run.state (cycle + 1)) _ later).ErrorOwned _
    rw [← run.state_add]
    exact owned (cycle + 1 + later)

theorem wrongPathInert_of_squashGated (run : CoreRun)
    (gated : ∀ cycle, (run.state cycle).branchJump = true →
      (run.state cycle).SquashGated run.params (run.inputs cycle))
    (owned : ∀ cycle, (run.state cycle).ErrorOwned (run.inputs cycle)) :
    run.WrongPathInert := by
  intro cycle taken later
  cases later with
  | zero => exact ⟨rfl, CoreState.busRequests_withoutWrongPath taken (gated cycle taken)⟩
  | succ later =>
      obtain ⟨stale, agrees, same⟩ := exists_stale taken (gated cycle taken) owned later
      rw [Nat.add_comm later 1, ← Nat.add_assoc, same]
      exact ⟨rfl, CoreState.busRequests_withStale agrees⟩

end CoreRun

namespace Surroundings

/-- `beq x0, x0, +8` over a `nop`. -/
def branchOverNop : Surroundings where
  program := programOf [0x00000463#32]
  rest := 10

/-- `beq x0, x0, +8` over an `mret`. -/
def branchOverMret : Surroundings where
  program := programOf [0x00000463#32, 0x30200073#32]

end Surroundings

namespace CoreRun

theorem wrongPathInert_branchOverNop : Surroundings.branchOverNop.coreRun.WrongPathInert := by
  have quiet : ∀ cycle,
      (Surroundings.branchOverNop.coreRun.state cycle).isMret defaultParams
          (Surroundings.branchOverNop.coreRun.inputs cycle) = false ∧
        (Surroundings.branchOverNop.coreRun.state cycle).excTaken
          (Surroundings.branchOverNop.coreRun.inputs cycle) = false ∧
        (Surroundings.branchOverNop.coreRun.state cycle).fsm = .idle :=
    Surroundings.branchOverNop.forall_cycle_of_settled 20 (by decide) (fun _ _ => rfl)
      (by decide +kernel)
      (fun st port => st.isMret defaultParams port = false ∧ st.excTaken port = false ∧
        st.fsm = .idle) (by decide +kernel)
  refine wrongPathInert_of_squashGated _ (fun cycle _ => ?_) (fun cycle error => ?_)
  · obtain ⟨noMret, noTrap, idle⟩ := quiet cycle
    refine { returns := fun mret => ?_, records := fun trap => ?_, follows := fun flushing => ?_ }
    · exact Bool.noConfusion (noMret.symm.trans mret)
    · exact Bool.noConfusion (noTrap.symm.trans trap)
    · exact ControlFsm.noConfusion (idle.symm.trans flushing)
  · obtain ⟨-, noTrap, -⟩ := quiet cycle
    rw [CoreState.excTaken, Bool.or_eq_false_iff, Bool.or_eq_false_iff] at noTrap
    rcases error with loadErr | storeErr
    · exact Bool.noConfusion (noTrap.1.2.symm.trans loadErr)
    · exact Bool.noConfusion (noTrap.2.symm.trans storeErr)

/-- The dropped `mret` enters user mode. -/
theorem wrongPathInert_fails :
    ¬ ∀ (run : CoreRun) (program : Word → Word × Bool), run.WellConnected program →
      run.WrongPathInert := by
  intro inert
  have taken : (Surroundings.branchOverMret.coreRun.state 4).branchJump = true := by
    rw [Surroundings.state_coreRun]
    decide +kernel
  have same := (inert _ _ Surroundings.branchOverMret.wellConnected 4 taken 1).1
  rw [withoutWrongPathFrom_one, Surroundings.state_coreRun, Surroundings.state_coreRun] at same
  have samePrivilege := congrArg Architecture.privilegeMode same
  revert samePrivilege
  decide +kernel

end CoreRun

end RiscvCore
