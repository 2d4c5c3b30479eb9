import RiscvCore.Controller
import RiscvCore.MemStage
import RiscvCore.Plic

/-!
# The core

`riscv_core.v`: the registers of all stages, the nets between them as functions of the current
registers and the inputs of the cycle, and one clock edge.  The nets are listed in the order in
which they settle: write-back first, because the ready signals run from WB back to IF.
-/

namespace RiscvCore

/-- The parameters that are not fixed at their default. -/
structure Params where
  illegalCsrEn : Bool
  pmpEnable : Bool

/-- The parameters as `riscv_core` declares them. -/
def defaultParams : Params where
  illegalCsrEn := false
  pmpEnable := true

/-- The input pins of the core in one cycle, with the values of the two CSRs that nothing
drives. -/
structure CoreInput where
  externIrq : Bool
  softIrq : Bool
  timerIrq : Bool
  hartId : Word
  instrGnt : Bool
  instrRdata : Word
  instrErr : Bool
  instrValid : Bool
  dataGnt : Bool
  dataRdata : Word
  dataValid : Bool
  dataError : Bool
  undriven : Csr.Undriven

/-- All registers of the core. -/
structure CoreState where
  ifs : IfStage
  idEx : IdEx
  rf : RegisterFile
  exMem : ExMem
  csr : Csr
  div : Div
  branchJumpMask : Bool
  memWb : MemWb
  lsu : Lsu
  fsm : ControlFsm
  irqThreshold : BitVec 2

namespace CoreState

def reset (bootAddr : Word) : CoreState where
  ifs := IfStage.reset bootAddr
  idEx := IdEx.reset
  rf := RegisterFile.reset
  exMem := ExMem.reset
  csr := Csr.reset
  div := Div.reset
  branchJumpMask := false
  memWb := MemWb.reset
  lsu := Lsu.reset
  fsm := .idle
  irqThreshold := 0#2

variable (params : Params) (st : CoreState) (port : CoreInput)

/-! ## Controller state -/

/-- `flush_E`, `flush_M` and `flush_W`. -/
def flushE : Bool := Controller.flush st.fsm

/-- `stall_F` to `stall_W`. -/
def stall : Bool := Controller.stall st.fsm

/-! ## WB -/

def dataBus : Lsu.Bus where
  dataGnt := port.dataGnt
  dataRdata := port.dataRdata
  dataValid := port.dataValid
  dataError := port.dataError

def lsuValidWb : Bool := st.lsu.lsuValid (dataBus port)

def lsuErrWb : Bool := st.lsu.lsuErr (dataBus port)

def readyWb : Bool := WbStage.readyWb st.memWb (st.lsuValidWb port) (st.lsuErrWb port)

def rfWr : RegisterFile.WritePort :=
  WbStage.rfWr st.memWb (st.readyWb port) st.flushE (st.lsu.lsuRdata port.dataRdata)

def isLsuLoadErr : Bool :=
  WbStage.isLsuLoadErr st.memWb (st.lsuValidWb port) (st.lsuErrWb port)

def isLsuStoreErr : Bool :=
  WbStage.isLsuStoreErr st.memWb (st.lsuValidWb port) (st.lsuErrWb port)

/-- `exc_taken`: a marker or a bus error in WB. -/
def excTaken : Bool := st.memWb.excTakenWb || st.isLsuLoadErr port || st.isLsuStoreErr port

/-! ## MEM -/

def lsuAccess : Lsu.Access := MemStage.lsuAccess st.exMem (st.readyWb port) st.flushE

def lsuReady : Bool := st.lsu.lsuReady (st.lsuAccess port) port.dataGnt

def validMem : Bool := st.readyWb port && st.lsuReady port

def readyMem : Bool := st.readyWb port && st.lsuReady port && !MemStage.excMem

/-! ## EX -/

def csrAccess : Csr.Access := ExStage.csrAccess st.idEx

def csrRdata : Word :=
  st.csr.csrRdata port.hartId port.undriven st.csrAccess

def illegalCsr : Bool := st.csr.illegalCsr st.csrAccess

def pmpErr : Bool := ExStage.pmpErr st.idEx st.csr

def readyDiv : Bool := st.div.ready (ExStage.divEn st.idEx)

def excEx : Bool := if params.illegalCsrEn then st.illegalCsr || st.pmpErr else st.pmpErr

def isIllegalCsr : Bool := params.illegalCsrEn && (st.illegalCsr && st.readyMem port)

def isPmpLoadErr : Bool := ExStage.isPmpLoadErr st.idEx st.pmpErr (st.readyMem port)

def isPmpStoreErr : Bool := ExStage.isPmpStoreErr st.idEx st.pmpErr (st.readyMem port)

def validEx : Bool := !st.stall && st.readyMem port && st.readyDiv

def readyEx : Bool := !st.stall && st.readyMem port && st.readyDiv && !st.excEx params

def rdWrDataEx : Word := ExStage.rdWrDataEx st.idEx st.div (st.csrRdata port)

def branchTaken : Bool := ExStage.branchTaken st.idEx st.branchJumpMask

def jumpTaken : Bool := ExStage.jumpTaken st.idEx st.branchJumpMask

def branchJump : Bool := st.branchTaken || st.jumpTaken

def branchJumpTarget : Word :=
  (if st.branchTaken then ExStage.branchTargetAddr st.idEx else 0#32) |||
    (if st.jumpTaken then ExStage.jumpTargetAddr st.idEx else 0#32)

/-- `flush_F` and `flush_D`. -/
def flushD : Bool := Controller.flush st.fsm || st.branchJump

/-! ## PLIC -/

def plicInput : Plic.Input where
  externIrq := port.externIrq
  softIrq := port.softIrq
  timerIrq := port.timerIrq
  mstatusMie := st.csr.mstatusQ.mie
  mie := st.csr.mieQ

def externIrqTaken : Bool := Plic.externIrqTaken st.irqThreshold (st.plicInput port)

def softIrqTaken : Bool := Plic.softIrqTaken st.irqThreshold (st.plicInput port)

def timerIrqTaken : Bool := Plic.timerIrqTaken st.irqThreshold (st.plicInput port)

def irqTaken : Bool := st.externIrqTaken port || st.softIrqTaken port || st.timerIrqTaken port

/-! ## ID -/

def decoded : Decoded := decoder st.ifs.instrPayloadId st.ifs.instrValueId

def forwards : ScoreBoard.Forwards where
  ex := ExStage.forwardEx st.idEx (st.validEx port) (st.rdWrDataEx port)
  mem := MemStage.forwardMem st.exMem
  wb := st.rfWr port

def rs1RdData : Word :=
  ScoreBoard.rdData st.rf st.decoded.rs1RdEn st.decoded.rs1RdAddr (st.forwards port)

def rs2RdData : Word :=
  ScoreBoard.rdData st.rf st.decoded.rs2RdEn st.decoded.rs2RdAddr (st.forwards port)

def readRfBusy : Bool := IdStage.readRfBusy st.rf st.decoded (st.forwards port)

def stallId : Bool := st.readRfBusy port || st.stall

def validId : Bool := !st.stallId port && st.readyEx params port && st.ifs.instrValueId

def instrAcsFault : Bool := IdStage.instrAcsFault st.ifs

def exceptionTakenId : Bool := IdStage.exceptionTakenId st.ifs st.decoded

def interruptTakenId : Bool :=
  !st.flushD && st.irqTaken port && st.validId params port && !st.ifs.instrFetchError

def excTakenId : Bool := st.exceptionTakenId || st.interruptTakenId params port

def readyId : Bool :=
  !st.stallId port && st.readyEx params port && !st.excTakenId params port

/-- An instruction leaves ID for EX at the coming edge. -/
def issues : Bool := st.ifs.instrValueId && st.readyId params port && !st.flushD

/-- One trap or return instruction as the controller sees it: unmasked when EX is ready. -/
def idSignal (decodedEn : Bool) : Bool :=
  st.readyEx params port && !st.ifs.instrFetchError && decodedEn

def isEcall : Bool := st.idSignal params port st.decoded.ecallEn

def isEbreak : Bool := st.idSignal params port st.decoded.ebreakEn

def isMret : Bool := st.idSignal params port st.decoded.mretEn

def isWfi : Bool := st.idSignal params port st.decoded.wfiEn

def isFence : Bool := st.idSignal params port st.decoded.fenceEn

def isIllegalInstr : Bool := st.idSignal params port st.decoded.illegalInstr

def isInstrAcsFault : Bool := st.readyEx params port && st.instrAcsFault

def isInterrupt : Bool := st.readyEx params port && st.interruptTakenId params port

/-! ## Controller -/

def controllerInput : Controller.Input where
  externIrqTaken := st.externIrqTaken port
  softIrqTaken := st.softIrqTaken port
  timerIrqTaken := st.timerIrqTaken port
  excTaken := st.excTaken port
  isMret := st.isMret params port
  isEcall := st.isEcall params port
  isEbreak := st.isEbreak params port
  isFence := st.isFence params port
  isIllegalInstr := st.isIllegalInstr params port
  isInstrAcsFault := st.isInstrAcsFault params port
  isInterrupt := st.isInterrupt params port
  isWfi := st.isWfi params port
  isIllegalCsr := st.isIllegalCsr params port
  isPmpLoadErr := st.isPmpLoadErr port
  isPmpStoreErr := st.isPmpStoreErr port
  isLsuLoadErr := st.isLsuLoadErr port
  isLsuStoreErr := st.isLsuStoreErr port
  privilegeMode := st.csr.privilegeModeQ

def trapUpdate : Controller.TrapUpdate :=
  Controller.trapUpdate st.fsm (st.controllerInput params port)

def mcauseUpdate : Bool := (st.trapUpdate params port).mcauseUpdate

def mepcUpdata : Bool := (st.trapUpdate params port).mepcUpdata

def excFetchAndPc : Bool × Word :=
  Controller.excFetch st.fsm (st.isFence params port) (st.isMret params port)
    (st.isWfi params port) st.ifs.pcIf st.csr.mepcQ st.csr.mtvecQ

def excFetch : Bool := (st.excFetchAndPc params port).1

def setPcValid : Bool := st.branchTaken || st.jumpTaken || st.excFetch params port

def setPc : Word :=
  if st.excFetch params port then (st.excFetchAndPc params port).2 else st.branchJumpTarget

def irqAck : Bool := Controller.irqAck st.fsm (st.isInterrupt params port)

/-! ## IF -/

def ifInput : IfStage.Input where
  fetchEnable := Controller.fetchEnable st.fsm
  flushF := st.flushD
  stallF := st.stall
  readyId := st.readyId params port
  setPcValid := st.setPcValid params port
  setPc := st.setPc params port
  privilegeMode := st.csr.privilegeModeQ
  pmpcfg := st.csr.pmpcfgQ
  pmpaddr := st.csr.pmpaddrQ
  instrGnt := port.instrGnt
  instrRdata := port.instrRdata
  instrErr := port.instrErr
  instrValid := port.instrValid

/-! ## The clock edge -/

def csrInput : Csr.Input where
  hartid := port.hartId
  pcIf := st.ifs.pcIf
  pcWb := st.memWb.pcWb
  isMret := st.isMret params port
  mepcUpdata := st.mepcUpdata params port
  mepcMux := (st.trapUpdate params port).mepcMux
  mcauseUpdate := st.mcauseUpdate params port
  mcause := (st.trapUpdate params port).mcause
  access := st.csrAccess
  externIntr := st.externIrqTaken port
  timerIntr := st.timerIrqTaken port
  softwareIntr := st.softIrqTaken port

/-- `invalid_en` and `invalid_addr`: a writer leaves ID. -/
def invalidPort : RegisterFile.AddrPort where
  en := st.decoded.rdWrEn && st.readyId params port && !st.flushD
  addr := st.decoded.rdWrAddr

def rfInput : RegisterFile.Input where
  clrDirtyEx := ExStage.clrDirtyEx st.idEx st.flushE
  clrDirtyMem := MemStage.clrDirtyMem st.exMem st.flushE
  clrDirtyWb := WbStage.clrDirtyWb st.memWb st.flushE
  invalid := st.invalidPort params port
  wrCh0 := st.rfWr port

/-- The enables and operands of the register in front of EX. -/
def nextIdExOperation : IdEx :=
  if (st.flushD && st.readyId params port) ||
      (!st.readyId params port && st.readyEx params port) then
    st.idEx.flushed
  else if st.readyId params port then
    IdStage.issued st.idEx st.ifs st.decoded (st.rs1RdData port) (st.rs2RdData port)
      (st.rf.newTag (st.invalidPort params port))
  else st.idEx

def nextIdEx : IdEx :=
  { st.nextIdExOperation params port with
    pcEx := if st.validId params port then st.ifs.pcId else st.idEx.pcEx
    iretireEx := st.validId params port && !st.flushD
    excTakenEx :=
      IdStage.nextExcTakenEx st.idEx.excTakenEx (st.validId params port) st.flushD
        (st.readyEx params port) (st.excTakenId params port) }

def nextExMem : ExMem :=
  { ExStage.nextOperation st.exMem st.idEx (st.rdWrDataEx port) (st.readyEx params port)
      (st.validEx port) (st.readyMem port) st.flushE st.pmpErr with
    pcMem := if st.validEx port then st.idEx.pcEx else st.exMem.pcMem
    excTakenMem :=
      ExStage.nextExcTakenMem st.exMem.excTakenMem st.idEx.excTakenEx (st.excEx params)
        (st.validEx port) (st.readyMem port) st.flushE
    iretireMem := st.idEx.iretireEx && st.readyEx params port && !st.flushE }

def nextMemWb : MemWb :=
  { MemStage.nextOperation st.memWb st.exMem (st.validMem port) (st.readyWb port) st.flushE with
    pcWb := if st.validMem port then st.exMem.pcMem else st.memWb.pcWb
    iretireWb := st.exMem.iretireMem && st.validMem port && !st.flushE
    excTakenWb :=
      MemStage.nextExcTakenWb st.memWb.excTakenWb st.exMem.excTakenMem (st.validMem port)
        (st.readyWb port) st.flushE }

/-- One clock edge of the core. -/
def step : CoreState where
  ifs := st.ifs.next params.pmpEnable (st.ifInput params port)
  idEx := st.nextIdEx params port
  rf := st.rf.next (st.rfInput params port)
  exMem := st.nextExMem params port
  csr := st.csr.next (st.csrInput params port)
  div := st.div.next (ExStage.divInput st.idEx st.flushE)
  branchJumpMask :=
    ExStage.nextBranchJumpMask st.idEx (st.readyEx params port) st.flushE
  memWb := st.nextMemWb port
  lsu := st.lsu.next (st.lsuAccess port) (dataBus port)
  fsm := Controller.fsmControlNs st.fsm (st.controllerInput params port)
  irqThreshold :=
    Plic.next st.irqThreshold (st.plicInput port) (st.isMret params port)
      (st.irqAck params port)

end CoreState

end RiscvCore
