import RiscvCore.Pkg

/-!
# The instruction decoder

`decoder.sv`: the instruction class and its controls.  Every output starts at its default; the
class selected by the opcode overrides the ones it needs.
-/

namespace RiscvCore

/-- The output ports of `decoder`. -/
structure Decoded where
  rs1RdEn : Bool
  rs1RdAddr : RegAddr
  rs2RdEn : Bool
  rs2RdAddr : RegAddr
  rdWrEn : Bool
  rdWrAddr : RegAddr
  srcAMux : SrcAMux
  srcBMux : SrcBMux
  srcCMux : SrcCMux
  adderOpAMux : AdderOpAMux
  adderOpBMux : AdderOpBMux
  immItype : Word
  immStype : Word
  immUtype : Word
  immBtype : Word
  immJtype : Word
  immRs1 : Word
  sign : Bool
  adderEn : Bool
  adderOp : AdderOp
  compEn : Bool
  compOp : CompOp
  logicEn : Bool
  logicOp : LogicOp
  shiftEn : Bool
  shiftOp : ShiftOp
  branch : Bool
  jal : Bool
  jalr : Bool
  lsuEn : Bool
  lsuOp : LsuOp
  lsuDtype : LsuDtype
  multEn : Bool
  multOp : MultOp
  csrEn : Bool
  csrOp : CsrOp
  csrAddr : CsrAddr
  ecallEn : Bool
  ebreakEn : Bool
  mretEn : Bool
  uretEn : Bool
  sretEn : Bool
  wfiEn : Bool
  fenceEn : Bool
  illegalInstr : Bool

namespace Decoder

def opcode (instr : Word) : BitVec 7 := instr.extractLsb' 0 7
def funct3 (instr : Word) : BitVec 3 := instr.extractLsb' 12 3
def funct7 (instr : Word) : BitVec 7 := instr.extractLsb' 25 7
def rs1 (instr : Word) : RegAddr := instr.extractLsb' 15 5
def rs2 (instr : Word) : RegAddr := instr.extractLsb' 20 5
def rd (instr : Word) : RegAddr := instr.extractLsb' 7 5

def immItype (instr : Word) : Word := (instr.extractLsb' 20 12).signExtend 32

def immStype (instr : Word) : Word :=
  (instr.extractLsb' 25 7 ++ instr.extractLsb' 7 5).signExtend 32

def immUtype (instr : Word) : Word := instr.extractLsb' 12 20 ++ 0#12

def immBtype (instr : Word) : Word :=
  (instr.extractLsb' 31 1 ++ instr.extractLsb' 7 1 ++ instr.extractLsb' 25 6 ++
    instr.extractLsb' 8 4 ++ 0#1).signExtend 32

def immJtype (instr : Word) : Word :=
  (instr.extractLsb' 31 1 ++ instr.extractLsb' 12 8 ++ instr.extractLsb' 20 1 ++
    instr.extractLsb' 21 10 ++ 0#1).signExtend 32

def immRs1 (instr : Word) : Word := (rs1 instr).setWidth 32

def csrrw (instr : Word) : Bool :=
  opcode instr == opcodeSystem && instr.extractLsb' 12 2 == 0b01#2

def csrrs (instr : Word) : Bool :=
  opcode instr == opcodeSystem && instr.extractLsb' 12 2 == 0b10#2

def csrrc (instr : Word) : Bool :=
  opcode instr == opcodeSystem && instr.extractLsb' 12 2 == 0b11#2

/-- A set or clear with a zero register field reads only, in the immediate form too. -/
def csrOp (instr : Word) (instrValue : Bool) : CsrOp :=
  if instrValue && csrrw instr then .write
  else if instrValue && (csrrs instr || csrrc instr) && rs1 instr == 0#5 then .read
  else if instrValue && csrrs instr then .set
  else if instrValue && csrrc instr then .clear
  else .read

/-- The defaults every output takes before the class is examined. -/
def defaults (instr : Word) (instrValue : Bool) : Decoded where
  rs1RdEn := false
  rs1RdAddr := rs1 instr
  rs2RdEn := false
  rs2RdAddr := rs2 instr
  rdWrEn := false
  rdWrAddr := rd instr
  srcAMux := .regRs1
  srcBMux := .regRs2
  srcCMux := .immBtype
  adderOpAMux := .pcId
  adderOpBMux := .immItype
  immItype := immItype instr
  immStype := immStype instr
  immUtype := immUtype instr
  immBtype := immBtype instr
  immJtype := immJtype instr
  immRs1 := immRs1 instr
  sign := false
  adderEn := false
  adderOp := .add
  compEn := false
  compOp := .eq
  logicEn := false
  logicOp := .and
  shiftEn := false
  shiftOp := .sra
  branch := false
  jal := false
  jalr := false
  lsuEn := false
  lsuOp := .ld
  lsuDtype := lsuDtypeUByte
  multEn := false
  multOp := .mul
  csrEn := false
  csrOp := csrOp instr instrValue
  csrAddr := instr.extractLsb' 20 12
  ecallEn := false
  ebreakEn := false
  mretEn := false
  uretEn := false
  sretEn := false
  wfiEn := false
  fenceEn := false
  illegalInstr := false

/-- The `BRANCH_DEC` macro. -/
def branchDec (out : Decoded) (compOp : CompOp) (sign : Bool) : Decoded :=
  { out with
    branch := true
    adderOp := .sub
    rs1RdEn := true
    rs2RdEn := true
    srcAMux := .regRs1
    srcBMux := .regRs2
    srcCMux := .immBtype
    compOp
    sign }

/-- The `ALU_R_DEC` macro. -/
def aluRDec (out : Decoded) : Decoded :=
  { out with
    rs1RdEn := true
    rs2RdEn := true
    srcAMux := .regRs1
    srcBMux := .regRs2
    rdWrEn := true }

/-- The `ALU_I_DEC` macro. -/
def aluIDec (out : Decoded) : Decoded :=
  { out with
    rs1RdEn := true
    srcAMux := .regRs1
    srcBMux := .immItype
    rdWrEn := true }

/-- The `MULT_DEC` macro. -/
def multDec (out : Decoded) (multOp : MultOp) : Decoded :=
  { aluRDec out with multEn := true, multOp }

def withAdder (out : Decoded) (adderOp : AdderOp) : Decoded :=
  { out with adderEn := true, adderOp }

def withLogic (out : Decoded) (logicOp : LogicOp) : Decoded :=
  { out with logicEn := true, logicOp }

def withShift (out : Decoded) (shiftOp : ShiftOp) : Decoded :=
  { out with shiftEn := true, shiftOp }

def withLess (out : Decoded) (sign : Bool) : Decoded :=
  { out with compEn := true, compOp := .lt, adderOp := .sub, sign }

def illegal (out : Decoded) : Decoded := { out with illegalInstr := true }

def branchInstr (instr : Word) (out : Decoded) : Decoded :=
  if funct3 instr = funcBeq then branchDec out .eq true
  else if funct3 instr = funcBne then branchDec out .ne true
  else if funct3 instr = funcBlt then branchDec out .lt true
  else if funct3 instr = funcBge then branchDec out .ge true
  else if funct3 instr = funcBltu then branchDec out .lt false
  else if funct3 instr = funcBgeu then branchDec out .ge false
  else illegal out

def jalrInstr (instr : Word) (out : Decoded) : Decoded :=
  if funct3 instr = 0b000#3 then
    { out with
      jalr := true
      adderOpAMux := .regRs1
      adderOpBMux := .immItype
      srcAMux := .jump
      srcBMux := .tbt
      compOp := .eq
      adderOp := .sub
      rs1RdEn := true
      rdWrEn := true }
  else illegal out

def jalInstr (out : Decoded) : Decoded :=
  { out with
    jal := true
    adderOpAMux := .pcId
    adderOpBMux := .immJtype
    srcAMux := .jump
    srcBMux := .tbt
    compOp := .eq
    adderOp := .sub
    rdWrEn := true }

def loadInstr (instr : Word) (out : Decoded) : Decoded :=
  { out with
    lsuEn := true
    lsuOp := .ld
    lsuDtype := funct3 instr
    rs1RdEn := true
    srcAMux := .regRs1
    srcBMux := .immItype
    rdWrEn := true
    adderOp := .add }

def storeInstr (instr : Word) (out : Decoded) : Decoded :=
  { out with
    lsuEn := true
    lsuOp := .wr
    lsuDtype := funct3 instr
    rs1RdEn := true
    rs2RdEn := true
    srcAMux := .regRs1
    srcBMux := .immStype
    srcCMux := .regRs2
    adderOp := .add }

def itypeInstr (instr : Word) (out : Decoded) : Decoded :=
  let f3 := funct3 instr
  let f7 := funct7 instr
  if f3 = funcAddi then withAdder (aluIDec out) .add
  else if f3 = funcXori then withLogic (aluIDec out) .xor
  else if f3 = funcOri then withLogic (aluIDec out) .or
  else if f3 = funcAndi then withLogic (aluIDec out) .and
  else if f3 = funcSlli ∧ f7 = 0b0000000#7 then withShift (aluIDec out) .sll
  else if f3 = funcSrai ∧ f7 = 0b0100000#7 then withShift (aluIDec out) .sra
  else if f3 = funcSrli ∧ f7 = 0b0000000#7 then withShift (aluIDec out) .srl
  else if f3 = funcSlti then withLess (aluIDec out) true
  else if f3 = funcSltiu then withLess (aluIDec out) false
  else illegal out

def rtypeInstr (instr : Word) (out : Decoded) : Decoded :=
  let f3 := funct3 instr
  let f7 := funct7 instr
  if f3 = funcAdd ∧ f7 = 0b0000000#7 then withAdder (aluRDec out) .add
  else if f3 = funcSub ∧ f7 = 0b0100000#7 then withAdder (aluRDec out) .sub
  else if f3 = funcXor ∧ f7 = 0b0000000#7 then withLogic (aluRDec out) .xor
  else if f3 = funcOr ∧ f7 = 0b0000000#7 then withLogic (aluRDec out) .or
  else if f3 = funcAnd ∧ f7 = 0b0000000#7 then withLogic (aluRDec out) .and
  else if f3 = funcSll ∧ f7 = 0b0000000#7 then withShift (aluRDec out) .sll
  else if f3 = funcSra ∧ f7 = 0b0100000#7 then withShift (aluRDec out) .sra
  else if f3 = funcSrl ∧ f7 = 0b0000000#7 then withShift (aluRDec out) .srl
  else if f3 = funcSlt ∧ f7 = 0b0000000#7 then withLess (aluRDec out) true
  else if f3 = funcSltu ∧ f7 = 0b0000000#7 then withLess (aluRDec out) false
  else if f7 = 0b0000001#7 ∧ f3 = 0b000#3 then multDec out .mul
  else if f7 = 0b0000001#7 ∧ f3 = 0b001#3 then multDec out .mulh
  else if f7 = 0b0000001#7 ∧ f3 = 0b010#3 then multDec out .mulhsu
  else if f7 = 0b0000001#7 ∧ f3 = 0b011#3 then multDec out .mulhu
  else if f7 = 0b0000001#7 ∧ f3 = 0b100#3 then multDec out .div
  else if f7 = 0b0000001#7 ∧ f3 = 0b101#3 then multDec out .divu
  else if f7 = 0b0000001#7 ∧ f3 = 0b110#3 then multDec out .rem
  else if f7 = 0b0000001#7 ∧ f3 = 0b111#3 then multDec out .remu
  else illegal out

/-- `csr_r_instr` and `csr_i_instr` differ in bit 2 of `funct3`. -/
def csrAny (instr : Word) : Bool := csrrw instr || csrrs instr || csrrc instr

def sysZeroFields (instr : Word) : Bool :=
  rs1 instr == 0#5 && rd instr == 0#5 && funct3 instr == 0b000#3

def sysInstr (instr : Word) (out : Decoded) : Decoded :=
  if csrAny instr ∧ (funct3 instr).getLsbD 2 = false then
    { out with
      csrEn := true
      rs1RdEn := true
      srcAMux := .regRs1
      srcCMux := .csrAddr
      rdWrEn := true }
  else if csrAny instr ∧ (funct3 instr).getLsbD 2 = true then
    { out with
      csrEn := true
      srcAMux := .immRs1
      srcCMux := .csrAddr
      rdWrEn := true }
  else if instr.extractLsb' 20 12 = 0x000#12 ∧ sysZeroFields instr then
    { out with ecallEn := true }
  else if instr.extractLsb' 20 12 = 0x001#12 ∧ sysZeroFields instr then
    { out with ebreakEn := true }
  else if funct7 instr = 0b0011000#7 ∧ rs2 instr = 2#5 ∧ sysZeroFields instr then
    { out with mretEn := true }
  else if funct7 instr = 0b0000000#7 ∧ rs2 instr = 2#5 ∧ sysZeroFields instr then
    { out with uretEn := true }
  else if funct7 instr = 0b0001000#7 ∧ rs2 instr = 2#5 ∧ sysZeroFields instr then
    illegal out
  else if funct7 instr = 0b0001000#7 ∧ rs2 instr = 5#5 ∧ sysZeroFields instr then
    { out with wfiEn := true }
  else illegal out

def mismemInstr (instr : Word) (out : Decoded) : Decoded :=
  if funct3 instr = 0b000#3 then out
  else if funct3 instr = 0b001#3 then { out with fenceEn := true }
  else illegal out

/-- The class of a valid instruction, selected by its opcode. -/
def instrClass (instr : Word) (out : Decoded) : Decoded :=
  let op := opcode instr
  if op = opcodeLui then
    { out with
      adderEn := true
      adderOp := .add
      srcAMux := .immUtype
      srcBMux := .zero
      rdWrEn := true }
  else if op = opcodeAuipc then
    { out with
      adderEn := true
      adderOp := .add
      srcAMux := .pcId
      srcBMux := .immUtype
      rdWrEn := true }
  else if op = opcodeBranch then branchInstr instr out
  else if op = opcodeJalr then jalrInstr instr out
  else if op = opcodeJal then jalInstr out
  else if op = opcodeLoad then loadInstr instr out
  else if op = opcodeStore then storeInstr instr out
  else if op = opcodeOpImm then itypeInstr instr out
  else if op = opcodeOp then rtypeInstr instr out
  else if op = opcodeSystem then sysInstr instr out
  else if op = opcodeMiscmem then mismemInstr instr out
  else illegal out

end Decoder

def decoder (instrPayload : Word) (instrValue : Bool) : Decoded :=
  let out := Decoder.defaults instrPayload instrValue
  if instrValue then Decoder.instrClass instrPayload out else out

end RiscvCore
