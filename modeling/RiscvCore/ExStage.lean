import RiscvCore.Csr
import RiscvCore.Div
import RiscvCore.IdStage
import RiscvCore.Pmp

/-!
# Execute

`ex_stage.v`: the arithmetic results, branch and jump resolution, the PMP check of data
accesses, and the register in front of MEM.
-/

namespace RiscvCore

/-- The register between EX and MEM. -/
structure ExMem where
  lsuEnMem : Bool
  lsuOpMem : LsuOp
  lsuDtypeMem : LsuDtype
  lsuAddrMem : Word
  rdWrEnMem : Bool
  rdWrTagMem : Tag
  rdWrAddrMem : RegAddr
  rdWrDataMem : Word
  pcMem : Word
  excTakenMem : Bool
  iretireMem : Bool

def ExMem.reset : ExMem where
  lsuEnMem := false
  lsuOpMem := .ld
  lsuDtypeMem := lsuDtypeUByte
  lsuAddrMem := 0#32
  rdWrEnMem := false
  rdWrTagMem := BitVec.ofNat tagWidth 0
  rdWrAddrMem := 0#5
  rdWrDataMem := 0#32
  pcMem := 0#32
  excTakenMem := false
  iretireMem := false

namespace ExStage

def adder0Result (ex : IdEx) : Word := rvAdder ex.adderOpEx ex.srcAEx ex.srcBEx

def adder1Result (ex : IdEx) : Word := rvAdder .add ex.pcEx ex.srcCEx

/-- `pc_ex + 2` or `pc_ex + 4`: the shift amount is the inverted one-bit flag. -/
def adder2Result (ex : IdEx) : Word :=
  rvAdder .add ex.pcEx (2#32 <<< (!ex.compressInstrEx).toNat)

def compareResult (ex : IdEx) : Bool :=
  rvCompare ex.signEx ex.compOpEx (adder0Result ex) ex.srcAEx ex.srcBEx

def aluResult (ex : IdEx) : Word :=
  RiscvCore.aluResult ex.adderEnEx ex.logicEnEx ex.compEnEx ex.shiftEnEx (adder0Result ex)
    (logicResult ex.logicOpEx ex.srcAEx ex.srcBEx) (compareResult ex)
    (rvShift ex.shiftOpEx ex.srcAEx (ex.srcBEx.extractLsb' 0 5))

def aluEn (ex : IdEx) : Bool := ex.adderEnEx || ex.compEnEx || ex.logicEnEx || ex.shiftEnEx

def isDivOp (op : MultOp) : Bool := op == .div || op == .divu || op == .rem || op == .remu

def divEn (ex : IdEx) : Bool := ex.multEnEx && isDivOp ex.multOpEx

def divSign (ex : IdEx) : Bool := ex.multOpEx == .div || ex.multOpEx == .rem

def multRes (ex : IdEx) (div : Div) : Word :=
  if ex.multEnEx then
    match ex.multOpEx with
    | .mulh | .mulhu | .mulhsu =>
        (multiplier ex.multOpEx ex.srcAEx ex.srcBEx).extractLsb' 32 32
    | .mul => (multiplier ex.multOpEx ex.srcAEx ex.srcBEx).extractLsb' 0 32
    | .div | .divu => div.quotient (divSign ex) ex.srcAEx ex.srcBEx
    | .rem | .remu => div.remainder (divSign ex) ex.srcAEx
  else 0#32

def rdWrDataEx (ex : IdEx) (div : Div) (csrRdata : Word) : Word :=
  if ex.lsuEnEx then ex.srcCEx
  else if ex.csrEnEx then csrRdata
  else if ex.multEnEx then multRes ex div
  else if ex.jumpEx then adder2Result ex
  else aluResult ex

def csrAccess (ex : IdEx) : Csr.Access where
  csrEn := ex.csrEnEx
  csrOp := ex.csrOpEx
  csrAddr := ex.srcCEx.extractLsb' 0 12
  csrWdata := ex.srcAEx

def divInput (ex : IdEx) (flushE : Bool) : Div.Input where
  flush := flushE
  en := divEn ex
  sign := divSign ex
  opA := ex.srcAEx
  opB := ex.srcBEx

def acsType (ex : IdEx) : BitVec 3 :=
  0#1 ++ BitVec.ofBool (ex.lsuOpEx != .ld) ++ BitVec.ofBool (ex.lsuOpEx == .ld)

def pmpErr (ex : IdEx) (csr : Csr) : Bool :=
  Pmp.wiredPmpErr csr.pmpcfgQ csr.pmpaddrQ csr.privilegeModeQ ex.lsuEnEx (acsType ex)
    (adder0Result ex)

/-- Both flags compare the one-bit `lsu_en_ex` with the constant `LSU_OP_LD`. -/
def isPmpLoadErr (ex : IdEx) (pmpErr readyMem : Bool) : Bool :=
  pmpErr && readyMem && ex.lsuEnEx == LsuOp.ld.toBool

def isPmpStoreErr (ex : IdEx) (pmpErr readyMem : Bool) : Bool :=
  pmpErr && readyMem && ex.lsuEnEx != LsuOp.ld.toBool

def bhtFail (ex : IdEx) : Bool :=
  ex.branchEx &&
    ((ex.predictTakenEx && !compareResult ex) || (!ex.predictTakenEx && compareResult ex))

def btbFail (ex : IdEx) : Bool :=
  ex.jalrEx && ((ex.predictTakenEx && !compareResult ex) || !ex.predictTakenEx)

def jumpFail (ex : IdEx) : Bool := ex.jumpEx && !ex.jalrEx && !ex.predictTakenEx

def predictFail (ex : IdEx) : Bool := bhtFail ex || btbFail ex

def branchTaken (ex : IdEx) (branchJumpMask : Bool) : Bool :=
  ex.branchEx && predictFail ex && !branchJumpMask

def branchTargetAddr (ex : IdEx) : Word :=
  if ex.predictTakenEx && !compareResult ex then adder2Result ex else adder1Result ex

def jumpTaken (ex : IdEx) (branchJumpMask : Bool) : Bool :=
  ex.jumpEx && (predictFail ex || jumpFail ex) && !branchJumpMask

def jumpTargetAddr (ex : IdEx) : Word := ex.srcAEx

def nextBranchJumpMask (ex : IdEx) (readyEx flushE : Bool) : Bool :=
  if !readyEx then (ex.branchEx || ex.jumpEx) && !flushE else false

def forwardEx (ex : IdEx) (validEx : Bool) (rdWrDataEx : Word) : RegisterFile.WritePort where
  en := ex.rdWrEnEx && validEx && (aluEn ex || divEn ex)
  tag := ex.rdWrTagEx
  addr := ex.rdWrAddrEx
  data := rdWrDataEx

def clrDirtyEx (ex : IdEx) (flushE : Bool) : RegisterFile.AddrPort where
  en := ex.rdWrEnEx && flushE
  addr := ex.rdWrAddrEx

/-- The operation fields of the register in front of MEM. -/
def nextOperation (mem : ExMem) (ex : IdEx) (rdWrDataEx : Word)
    (readyEx validEx readyMem flushE pmpErr : Bool) : ExMem :=
  if (readyEx && flushE) || (!readyEx && readyMem) then
    { mem with
      lsuEnMem := false
      lsuOpMem := .ld
      lsuDtypeMem := lsuDtypeUByte
      lsuAddrMem := 0#32
      rdWrEnMem := false
      rdWrAddrMem := 0#5
      rdWrDataMem := 0#32 }
  else if validEx then
    { mem with
      lsuEnMem := ex.lsuEnEx && !pmpErr
      lsuOpMem := ex.lsuOpEx
      lsuDtypeMem := ex.lsuDtypeEx
      lsuAddrMem := adder0Result ex
      rdWrEnMem := ex.rdWrEnEx
      rdWrTagMem := ex.rdWrTagEx
      rdWrAddrMem := ex.rdWrAddrEx
      rdWrDataMem := rdWrDataEx }
  else mem

def nextExcTakenMem (excTakenMem excTakenEx excEx validEx readyMem flushE : Bool) : Bool :=
  if (validEx && flushE) || (!validEx && readyMem) then false
  else if validEx then excTakenEx || excEx
  else excTakenMem

end ExStage

end RiscvCore
