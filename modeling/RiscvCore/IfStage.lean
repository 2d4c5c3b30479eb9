import RiscvCore.CompressDecoder
import RiscvCore.Csr
import RiscvCore.Pmp
import RiscvCore.SyncFifo

/-!
# Instruction fetch

`if_stage.sv` without branch prediction (`BRANCH_PREDICTION = 0`): the fetch address and its
retries, the command FIFO of granted requests, the prefetch FIFO, the realignment of 16- and
32-bit instructions, and the register in front of ID.
-/

namespace RiscvCore

/-- The registers of `if_stage`. -/
structure IfStage where
  isBoot : Bool
  pcIf : Word
  pcId : Word
  instrPayloadId : Word
  instrValueId : Bool
  compressInstrId : Bool
  instrFetchError : Bool
  predictTakenId : Bool
  predictPcId : Word
  holdRdata : BitVec 16
  holdRdataValue : Bool
  holdRdataErr : Bool
  prefetchFifo : SyncFifo 4 33
  cmdFifo : SyncFifo 2 3
  fifoFlush : Bool
  updisconQ : Bool
  instrPrefetchAddr : Word
  reqFail : Bool

namespace IfStage

def reset (bootAddr : Word) : IfStage where
  isBoot := false
  pcIf := bootAddr
  pcId := 0#32
  instrPayloadId := 0#32
  instrValueId := false
  compressInstrId := false
  instrFetchError := false
  predictTakenId := false
  predictPcId := 0#32
  holdRdata := 0#16
  holdRdataValue := false
  holdRdataErr := false
  prefetchFifo := SyncFifo.reset
  cmdFifo := SyncFifo.reset
  fifoFlush := false
  updisconQ := false
  instrPrefetchAddr := bootAddr
  reqFail := false

/-- The input ports of `if_stage`, less those of the branch predictor. -/
structure Input where
  fetchEnable : Bool
  flushF : Bool
  stallF : Bool
  readyId : Bool
  setPcValid : Bool
  setPc : Word
  privilegeMode : Privilege
  pmpcfg : Fin pmpEntry → BitVec 8
  pmpaddr : Fin pmpEntry → Word
  instrGnt : Bool
  instrRdata : Word
  instrErr : Bool
  instrValid : Bool

/-! ## Redirects -/

/-- `predict_taken_if` and `predict_pc_if` are tied low without branch prediction. -/
def predictTakenIf : Bool := false

def predictPcIf : Word := 0#32

def updisconNew (port : Input) : Bool := predictTakenIf || port.setPcValid

def updiscon (st : IfStage) (port : Input) : Bool := updisconNew port || st.updisconQ

def fifoClear (port : Input) : Bool := updisconNew port

def setInstrAddr (port : Input) : Word := if port.setPcValid then port.setPc else predictPcIf

/-! ## Command FIFO -/

def cmdUpdisconQ (st : IfStage) : Bool := st.cmdFifo.rdData.getLsbD 0

def cmdPmpErrQ (st : IfStage) : Bool := st.cmdFifo.rdData.getLsbD 1

def cmdAbortQ (st : IfStage) : Bool := st.cmdFifo.rdData.getLsbD 2

def cmdFifoPop (st : IfStage) (port : Input) : Bool :=
  port.instrValid || (st.cmdPmpErrQ && st.cmdAbortQ)

def cmdUpdiscon (st : IfStage) (port : Input) : Bool := st.cmdFifoPop port && st.cmdUpdisconQ

def cmdPmpErr (st : IfStage) (port : Input) : Bool := st.cmdFifoPop port && st.cmdPmpErrQ

/-! ## Fetch requests -/

def instrReqNew (st : IfStage) (port : Input) : Bool :=
  st.isBoot && port.fetchEnable && !st.cmdFifo.fifoFull &&
    ((!st.prefetchFifo.fifoAlmostFull && !st.cmdPmpErrQ) || fifoClear port)

def instrReq (st : IfStage) (port : Input) : Bool := st.instrReqNew port || st.reqFail

def instrAddr (st : IfStage) (port : Input) : Word :=
  if fifoClear port then (setInstrAddr port).extractLsb' 2 30 ++ 0#2 else st.instrPrefetchAddr

/-- The execute permission is asked for as `3'b100`. -/
def fetchAcsType : BitVec 3 := 0b100#3

def pmpErr (pmpEnable : Bool) (st : IfStage) (port : Input) : Bool :=
  pmpEnable &&
    Pmp.wiredPmpErr port.pmpcfg port.pmpaddr port.privilegeMode (st.instrReqNew port)
      fetchAcsType (st.instrAddr port)

def reqAbort (pmpEnable : Bool) (st : IfStage) (port : Input) : Bool :=
  st.instrReq port && !port.instrGnt && st.pmpErr pmpEnable port

def cmdFifoPush (pmpEnable : Bool) (st : IfStage) (port : Input) : Bool :=
  (st.instrReq port && port.instrGnt) || st.pmpErr pmpEnable port

def cmdFifoWdata (pmpEnable : Bool) (st : IfStage) (port : Input) : BitVec 3 :=
  BitVec.ofBool (st.reqAbort pmpEnable port) ++ BitVec.ofBool (st.pmpErr pmpEnable port) ++
    BitVec.ofBool (st.updiscon port)

/-! ## Prefetched words and realignment -/

def fifoWvalid (st : IfStage) (port : Input) : Bool :=
  if st.fifoFlush then (port.instrValid || st.cmdPmpErr port) && st.cmdUpdiscon port
  else port.instrValid || st.cmdPmpErr port

def fifoWdata (st : IfStage) (port : Input) : BitVec 33 :=
  BitVec.ofBool (port.instrErr || st.cmdPmpErr port) ++ port.instrRdata

def readyIf (port : Input) : Bool := port.readyId && !port.stallF

def fetchEn (st : IfStage) (port : Input) : Bool :=
  st.isBoot && (port.setPcValid || readyIf port)

def pcUnalign (st : IfStage) : Bool := st.pcIf.getLsbD 1

def holdDataIsCompress (st : IfStage) : Bool :=
  st.holdRdata.extractLsb' 0 2 != 0b11#2 && st.holdRdataValue

def fifoReady (st : IfStage) (port : Input) : Bool :=
  st.fetchEn port && !st.holdDataIsCompress

def fifoValid (st : IfStage) (port : Input) : Bool :=
  PrefetchFifo.fifoValid st.prefetchFifo (st.fifoWvalid port)

def fifoRdata (st : IfStage) (port : Input) : BitVec 33 :=
  PrefetchFifo.fifoRdata st.prefetchFifo (st.fifoReady port) (st.fifoWdata port)

def fifoDataIsCompress (st : IfStage) (port : Input) : Bool :=
  (st.fifoRdata port).extractLsb' 0 2 != 0b11#2 && st.fifoValid port && !st.pcUnalign

def holdEn (st : IfStage) (port : Input) : Bool :=
  st.fetchEn port && ((st.pcUnalign && st.fifoValid port) || st.fifoDataIsCompress port) &&
    !st.holdDataIsCompress

def insnValue (st : IfStage) (port : Input) : Bool :=
  if st.pcUnalign then
    st.holdDataIsCompress || (st.holdRdataValue && st.fifoValid port)
  else st.fifoValid port

def insnPayload (st : IfStage) (port : Input) : Word :=
  if st.pcUnalign then (st.fifoRdata port).extractLsb' 0 16 ++ st.holdRdata
  else (st.fifoRdata port).extractLsb' 0 32

def insnErr (st : IfStage) (port : Input) : Bool :=
  if st.pcUnalign then st.holdRdataErr || (st.fifoRdata port).getLsbD 32
  else (st.fifoRdata port).getLsbD 32

def insnPayloadIf (st : IfStage) (port : Input) : Word :=
  (compressDecoder (st.insnPayload port)).1

def insnCompressIf (st : IfStage) (port : Input) : Bool :=
  st.holdDataIsCompress || st.fifoDataIsCompress port

/-! ## Next values -/

def nextPc (st : IfStage) (port : Input) : Word :=
  if port.setPcValid then port.setPc
  else if predictTakenIf then predictPcIf
  else if st.insnValue port && st.insnCompressIf port then st.pcIf + 2#32
  else if st.insnValue port then st.pcIf + 4#32
  else st.pcIf

/-- The register in front of ID, `pc_id` apart. -/
def nextIfId (st : IfStage) (port : Input) : IfStage :=
  if port.flushF then
    { st with
      instrPayloadId := 0#32
      instrValueId := false
      compressInstrId := false
      instrFetchError := false
      predictTakenId := false
      predictPcId := 0#32 }
  else if readyIf port then
    { st with
      instrPayloadId := st.insnPayloadIf port
      instrValueId := st.insnValue port
      compressInstrId := st.insnCompressIf port
      instrFetchError := st.insnErr port
      predictTakenId := predictTakenIf
      predictPcId := predictPcIf }
  else st

/-- The half word kept for a straddling instruction. -/
def nextHold (st : IfStage) (port : Input) : BitVec 16 × Bool × Bool :=
  if fifoClear port then (0#16, false, false)
  else if (st.insnValue port || st.fifoValid port) && st.fetchEn port then
    ((st.fifoRdata port).extractLsb' 16 16, st.holdEn port,
      st.holdEn port && (st.fifoRdata port).getLsbD 32)
  else (st.holdRdata, st.holdRdataValue, st.holdRdataErr)

def nextPrefetchFifo (st : IfStage) (port : Input) : SyncFifo 4 33 :=
  PrefetchFifo.next st.prefetchFifo
    { fifoClear := fifoClear port
      fifoReady := st.fifoReady port
      fifoWvalid := st.fifoWvalid port
      fifoWdata := st.fifoWdata port }

def nextCmdFifo (pmpEnable : Bool) (st : IfStage) (port : Input) : SyncFifo 2 3 :=
  st.cmdFifo.next
    { fifoClear := false
      wrEn := st.cmdFifoPush pmpEnable port
      wrData := st.cmdFifoWdata pmpEnable port
      rdEn := st.cmdFifoPop port }

def nextFifoFlush (st : IfStage) (port : Input) : Bool :=
  if port.instrValid && st.cmdUpdiscon port then st.updiscon port
  else if st.updiscon port then true
  else st.fifoFlush

def nextUpdisconQ (st : IfStage) (port : Input) : Bool :=
  if st.updisconQ && port.instrGnt then false
  else if updisconNew port && !port.instrGnt then true
  else st.updisconQ

def nextInstrPrefetchAddr (st : IfStage) (port : Input) : Word :=
  if st.isBoot then
    (if fifoClear port then
      (if port.instrGnt then st.instrAddr port + 4#32 else st.instrAddr port)
    else if st.instrReq port && port.instrGnt then st.instrPrefetchAddr + 4#32
    else st.instrPrefetchAddr)
  else st.instrPrefetchAddr

def nextReqFail (pmpEnable : Bool) (st : IfStage) (port : Input) : Bool :=
  st.instrReq port && !port.instrGnt && !st.pmpErr pmpEnable port

def next (pmpEnable : Bool) (st : IfStage) (port : Input) : IfStage :=
  { st.nextIfId port with
    isBoot := true
    pcIf := if readyIf port || port.setPcValid then st.nextPc port else st.pcIf
    pcId := if port.readyId then st.pcIf else st.pcId
    holdRdata := (st.nextHold port).1
    holdRdataValue := (st.nextHold port).2.1
    holdRdataErr := (st.nextHold port).2.2
    prefetchFifo := st.nextPrefetchFifo port
    cmdFifo := st.nextCmdFifo pmpEnable port
    fifoFlush := st.nextFifoFlush port
    updisconQ := st.nextUpdisconQ port
    instrPrefetchAddr := st.nextInstrPrefetchAddr port
    reqFail := st.nextReqFail pmpEnable port }

end IfStage

end RiscvCore
