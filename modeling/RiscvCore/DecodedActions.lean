import RiscvCore.InstructionSet

/-!
# What the decoder asks for

The outputs of the decoder, read as one action of the execution units on registers, immediates
and the PC.  For each instruction of the set the action is the one its definition asks for.
-/

namespace RiscvCore

/-- What an operand mux selects. -/
inductive Operand where
  | reg (addr : RegAddr)
  | imm (value : Word)
  | pc
  deriving DecidableEq

/-- The operations of the units behind the ALU result. -/
inductive AluOp where
  | adder (op : AdderOp)
  | logic (op : LogicOp)
  | shift (op : ShiftOp)
  | less (signed : Bool)
  deriving DecidableEq

/-- One action of the execution units.  A branch compares two registers, a jump goes to a base plus
an offset, and both know the offset to the PC or the base. -/
inductive Action where
  | alu (op : AluOp) (a b : Operand) (rd : RegAddr)
  | mult (op : MultOp) (a b : Operand) (rd : RegAddr)
  | load (dtype : LsuDtype) (base offset : Operand) (rd : RegAddr)
  | store (dtype : LsuDtype) (base offset data : Operand)
  | csr (op : CsrOp) (addr : CsrAddr) (operand : Operand) (rd : RegAddr)
  | branch (op : CompOp) (signed : Bool) (a b : Operand) (offset : Word)
  | jump (base : Operand) (offset : Word) (rd : RegAddr)
  | ecall | ebreak | mret | uret | wfi | fence | nop
  deriving DecidableEq

namespace Decoded

variable (dec : Decoded)

/-- A register operand has to be read. -/
def rs1Operand : Option Operand := if dec.rs1RdEn then some (.reg dec.rs1RdAddr) else none

def rs2Operand : Option Operand := if dec.rs2RdEn then some (.reg dec.rs2RdAddr) else none

def srcA : Option Operand :=
  match dec.srcAMux with
  | .regRs1 => dec.rs1Operand
  | .immUtype => some (.imm dec.immUtype)
  | .pcId => some .pc
  | .immRs1 => some (.imm dec.immRs1)
  | .jump => none

def srcB : Option Operand :=
  match dec.srcBMux with
  | .regRs2 => dec.rs2Operand
  | .immItype => some (.imm dec.immItype)
  | .immUtype => some (.imm dec.immUtype)
  | .immJtype => some (.imm dec.immJtype)
  | .immStype => some (.imm dec.immStype)
  | .zero => some (.imm 0#32)
  | .tbt => none

/-- A shift looks at the low five bits of its second operand. -/
def shiftAmount : Option Operand :=
  dec.srcB.map fun
    | .imm value => .imm ((value.extractLsb' 0 5).setWidth 32)
    | operand => operand

def destination : Option RegAddr := if dec.rdWrEn then some dec.rdWrAddr else none

/-- The base of a jump target. -/
def jumpBase : Option Operand :=
  match dec.adderOpAMux with
  | .pcId => some .pc
  | .regRs1 => dec.rs1Operand

def jumpOffset : Word :=
  match dec.adderOpBMux with
  | .immItype => dec.immItype
  | .immJtype => dec.immJtype

/-- The enables that lead to the execution units, and the flags of the instructions that wait in
ID. -/
def enables : List Bool :=
  [dec.adderEn, dec.logicEn, dec.shiftEn, dec.compEn, dec.multEn, dec.lsuEn, dec.csrEn, dec.branch,
    dec.jal, dec.jalr, dec.ecallEn, dec.ebreakEn, dec.mretEn, dec.uretEn, dec.sretEn, dec.wfiEn,
    dec.fenceEn, dec.illegalInstr]

def aluAction (op : AluOp) : Option Action := do
  return .alu op (← dec.srcA) (← dec.srcB) (← dec.destination)

def shiftAction : Option Action := do
  return .alu (.shift dec.shiftOp) (← dec.srcA) (← dec.shiftAmount) (← dec.destination)

def lsuAction : Option Action := do
  match dec.lsuOp with
  | .ld => return .load dec.lsuDtype (← dec.srcA) (← dec.srcB) (← dec.destination)
  | .wr =>
      if dec.srcCMux = .regRs2 ∧ dec.rdWrEn = false then
        return .store dec.lsuDtype (← dec.srcA) (← dec.srcB) (← dec.rs2Operand)
      else none

def csrAction : Option Action := do
  if dec.srcCMux = .csrAddr then
    return .csr dec.csrOp dec.csrAddr (← dec.srcA) (← dec.destination)
  else none

def branchAction : Option Action := do
  if dec.srcCMux = .immBtype ∧ dec.rdWrEn = false then
    return .branch dec.compOp dec.sign (← dec.srcA) (← dec.srcB) dec.immBtype
  else none

/-- The target of a jump goes to EX in place of the first operand, and the predicted one, with
which it is compared, in place of the second. -/
def jumpAction : Option Action := do
  if dec.srcAMux = .jump ∧ dec.srcBMux = .tbt ∧ dec.compOp = .eq ∧ dec.adderOp = .sub then
    return .jump (← dec.jumpBase) dec.jumpOffset (← dec.destination)
  else none

/-- The action of outputs of which at most one is enabled. -/
def action : Option Action :=
  if 1 < dec.enables.count true then none
  else if dec.adderEn then dec.aluAction (.adder dec.adderOp)
  else if dec.logicEn then dec.aluAction (.logic dec.logicOp)
  else if dec.shiftEn then dec.shiftAction
  else if dec.compEn then
    if dec.compOp = .lt ∧ dec.adderOp = .sub then dec.aluAction (.less dec.sign) else none
  else if dec.multEn then
    (do return .mult dec.multOp (← dec.srcA) (← dec.srcB) (← dec.destination))
  else if dec.lsuEn then
    if dec.adderOp = .add then dec.lsuAction else none
  else if dec.csrEn then dec.csrAction
  else if dec.branch then
    if dec.adderOp = .sub then dec.branchAction else none
  else if dec.jal || dec.jalr then dec.jumpAction
  else if dec.illegalInstr || dec.rdWrEn then none
  else if dec.ecallEn then some .ecall
  else if dec.ebreakEn then some .ebreak
  else if dec.mretEn then some .mret
  else if dec.uretEn then some .uret
  else if dec.wfiEn then some .wfi
  else if dec.fenceEn then some .fence
  else some .nop

end Decoded

def ImmOp.aluOp : ImmOp → AluOp
  | .addi => .adder .add
  | .slti => .less true
  | .sltiu => .less false
  | .xori => .logic .xor
  | .ori => .logic .or
  | .andi => .logic .and

def RegOp.aluOp : RegOp → AluOp
  | .add => .adder .add
  | .sub => .adder .sub
  | .sll => .shift .sll
  | .slt => .less true
  | .sltu => .less false
  | .xor => .logic .xor
  | .srl => .shift .srl
  | .sra => .shift .sra
  | .or => .logic .or
  | .and => .logic .and

def DivOp.multOp : DivOp → MultOp
  | .div => .div
  | .divu => .divu
  | .rem => .rem
  | .remu => .remu

namespace BranchCond

/-- Equality does not depend on the sign; the decoder asks for it signed. -/
def compare : BranchCond → CompOp × Bool
  | beq => (.eq, true)
  | bne => (.ne, true)
  | blt => (.lt, true)
  | bge => (.ge, true)
  | bltu => (.lt, false)
  | bgeu => (.ge, false)

end BranchCond

/-- A set or clear with a zero source field only reads. -/
def CsrInstrOp.operation (op : CsrInstrOp) (source : BitVec 5) : CsrOp :=
  match op with
  | .rw => .write
  | .rs => if source = 0#5 then .read else .set
  | .rc => if source = 0#5 then .read else .clear

def ArithInstr.action : ArithInstr → Action
  | lui rd imm => .alu (.adder .add) (.imm (imm ++ 0#12)) (.imm 0#32) rd
  | auipc rd imm => .alu (.adder .add) .pc (.imm (imm ++ 0#12)) rd
  | opImm op rd rs1 imm => .alu op.aluOp (.reg rs1) (.imm (imm.signExtend 32)) rd
  | shiftImm op rd rs1 shamt => .alu (.shift op) (.reg rs1) (.imm (shamt.setWidth 32)) rd
  | reg op rd rs1 rs2 => .alu op.aluOp (.reg rs1) (.reg rs2) rd
  | mult op rd rs1 rs2 => .mult op.multOp (.reg rs1) (.reg rs2) rd

namespace Instr

/-- Offsets in half words become offsets in bytes. -/
def byteOffset {width : Nat} (offset : BitVec width) : Word := (offset ++ 0#1).signExtend 32

def action : Instr → Action
  | arith instr => instr.action
  | divide op rd rs1 rs2 => .mult op.multOp (.reg rs1) (.reg rs2) rd
  | branch cond rs1 rs2 offset =>
      .branch cond.compare.1 cond.compare.2 (.reg rs1) (.reg rs2) (byteOffset offset)
  | jal rd offset => .jump .pc (byteOffset offset) rd
  | jalr rd rs1 imm => .jump (.reg rs1) (imm.signExtend 32) rd
  | load width rd rs1 imm => .load width.funct3 (.reg rs1) (.imm (imm.signExtend 32)) rd
  | store width rs1 rs2 imm =>
      .store width.funct3 (.reg rs1) (.imm (imm.signExtend 32)) (.reg rs2)
  | csrReg op rd csr rs1 => .csr (op.operation rs1) csr (.reg rs1) rd
  | csrImm op rd csr uimm => .csr (op.operation uimm) csr (.imm (uimm.setWidth 32)) rd
  | fence _ _ _ => .nop
  | fenceI _ _ _ => .fence
  | ecall => .ecall
  | ebreak => .ebreak
  | mret => .mret
  | wfi => .wfi

end Instr

end RiscvCore
