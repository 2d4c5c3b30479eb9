import RiscvCore.Alu
import RiscvCore.Decoder
import RiscvCore.IfStage
import RiscvCore.RegisterFile

/-!
# Instruction decode and issue

`id_stage.v`: operand selection, issue, the exception and interrupt marker, and the register in
front of EX.
-/

namespace RiscvCore

/-- The register between ID and EX. -/
structure IdEx where
  pcEx : Word
  iretireEx : Bool
  signEx : Bool
  adderEnEx : Bool
  adderOpEx : AdderOp
  compEnEx : Bool
  compOpEx : CompOp
  logicEnEx : Bool
  logicOpEx : LogicOp
  shiftEnEx : Bool
  shiftOpEx : ShiftOp
  lsuEnEx : Bool
  lsuOpEx : LsuOp
  lsuDtypeEx : LsuDtype
  multEnEx : Bool
  multOpEx : MultOp
  csrEnEx : Bool
  csrOpEx : CsrOp
  srcAEx : Word
  srcBEx : Word
  srcCEx : Word
  compressInstrEx : Bool
  predictTakenEx : Bool
  branchEx : Bool
  jumpEx : Bool
  jalrEx : Bool
  rdWrEnEx : Bool
  rdWrTagEx : Tag
  rdWrAddrEx : RegAddr
  excTakenEx : Bool

namespace IdEx

def reset : IdEx where
  pcEx := 0#32
  iretireEx := false
  signEx := false
  adderEnEx := false
  adderOpEx := .add
  compEnEx := false
  compOpEx := .eq
  logicEnEx := false
  logicOpEx := .and
  shiftEnEx := false
  shiftOpEx := .sra
  lsuEnEx := false
  lsuOpEx := .ld
  lsuDtypeEx := lsuDtypeUByte
  multEnEx := false
  multOpEx := .mul
  csrEnEx := false
  csrOpEx := .read
  srcAEx := 0#32
  srcBEx := 0#32
  srcCEx := 0#32
  compressInstrEx := false
  predictTakenEx := false
  branchEx := false
  jumpEx := false
  jalrEx := false
  rdWrEnEx := false
  rdWrTagEx := BitVec.ofNat tagWidth 0
  rdWrAddrEx := 0#5
  excTakenEx := false

/-- The flushed register: every enable is dropped. -/
def flushed (idEx : IdEx) : IdEx :=
  { idEx with
    adderEnEx := false
    compEnEx := false
    logicEnEx := false
    shiftEnEx := false
    lsuEnEx := false
    multEnEx := false
    csrEnEx := false
    branchEx := false
    jumpEx := false
    jalrEx := false
    rdWrEnEx := false
    predictTakenEx := false }

end IdEx

namespace IdStage

def jumpTarget (dec : Decoded) (pcId rs1RdData : Word) : Word :=
  let adderOpA := match dec.adderOpAMux with
    | .pcId => pcId
    | .regRs1 => rs1RdData
  let adderOpB := match dec.adderOpBMux with
    | .immItype => dec.immItype
    | .immJtype => dec.immJtype
  rvAdder .add adderOpA adderOpB

def srcAId (dec : Decoded) (pcId rs1RdData : Word) : Word :=
  match dec.srcAMux with
  | .regRs1 => rs1RdData
  | .immUtype => dec.immUtype
  | .pcId => pcId
  | .immRs1 => dec.immRs1
  | .jump => jumpTarget dec pcId rs1RdData

def srcBId (dec : Decoded) (rs2RdData predictPcId : Word) : Word :=
  match dec.srcBMux with
  | .regRs2 => rs2RdData
  | .immItype => dec.immItype
  | .immUtype => dec.immUtype
  | .immJtype => dec.immJtype
  | .immStype => dec.immStype
  | .tbt => predictPcId
  | .zero => 0#32

def srcCId (dec : Decoded) (rs2RdData : Word) : Word :=
  match dec.srcCMux with
  | .immBtype => dec.immBtype
  | .regRs2 => rs2RdData
  | .csrAddr => 0#20 ++ dec.csrAddr
  | .immItype | .immJtype => 0#32

def readRfBusy (rf : RegisterFile) (dec : Decoded) (forwards : ScoreBoard.Forwards) : Bool :=
  (dec.rs1RdEn && !ScoreBoard.rdValue rf dec.rs1RdEn dec.rs1RdAddr forwards) ||
    (dec.rs2RdEn && !ScoreBoard.rdValue rf dec.rs2RdEn dec.rs2RdAddr forwards)

def instrAcsFault (ifs : IfStage) : Bool := ifs.instrValueId && ifs.instrFetchError

def exceptionTakenId (ifs : IfStage) (dec : Decoded) : Bool :=
  dec.ecallEn || dec.ebreakEn || dec.illegalInstr || instrAcsFault ifs || dec.mretEn ||
    dec.uretEn || dec.fenceEn || dec.wfiEn

/-- The next value of the marker `exc_taken_ex`, which keeps its first setting while ID holds
a valid instruction. -/
def nextExcTakenEx (excTakenEx validId flushD readyEx excTakenId : Bool) : Bool :=
  if (validId && flushD) || (!validId && readyEx) then false
  else if validId && !excTakenEx then excTakenId
  else excTakenEx

/-- The values an issued instruction latches. -/
def issued (idEx : IdEx) (ifs : IfStage) (dec : Decoded) (rs1RdData rs2RdData : Word)
    (rdWrTagId : Tag) : IdEx :=
  { idEx with
    signEx := dec.sign
    adderEnEx := dec.adderEn
    adderOpEx := dec.adderOp
    compEnEx := dec.compEn
    compOpEx := dec.compOp
    logicEnEx := dec.logicEn
    logicOpEx := dec.logicOp
    shiftEnEx := dec.shiftEn
    shiftOpEx := dec.shiftOp
    lsuEnEx := dec.lsuEn
    lsuOpEx := dec.lsuOp
    lsuDtypeEx := dec.lsuDtype
    multEnEx := dec.multEn
    multOpEx := dec.multOp
    csrEnEx := dec.csrEn
    csrOpEx := dec.csrOp
    srcAEx := srcAId dec ifs.pcId rs1RdData
    srcBEx := srcBId dec rs2RdData ifs.predictPcId
    srcCEx := srcCId dec rs2RdData
    compressInstrEx := ifs.compressInstrId
    predictTakenEx := ifs.predictTakenId
    branchEx := dec.branch
    jumpEx := dec.jalr || dec.jal
    jalrEx := dec.jalr
    rdWrEnEx := dec.rdWrEn
    rdWrTagEx := rdWrTagId
    rdWrAddrEx := dec.rdWrAddr }

end IdStage

end RiscvCore
