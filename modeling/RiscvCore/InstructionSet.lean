import RiscvCore.ArithmeticInstructions
import RiscvCore.BitLists

/-!
# The instruction set

The instructions of RV32I with the M, Zicsr and Zifencei extensions and the two privileged
instructions `mret` and `wfi`: their fields, their 32-bit words, and the 16-bit parcels of the C
extension without its floating-point forms.  None of this mentions the decoders.
-/

namespace RiscvCore

open BitLists (Places scattered)

/-- The conditions of a branch. -/
inductive BranchCond where
  | beq | bne | blt | bge | bltu | bgeu
  deriving DecidableEq, Repr

inductive LoadWidth where
  | lb | lh | lw | lbu | lhu
  deriving DecidableEq, Repr

inductive StoreWidth where
  | sb | sh | sw
  deriving DecidableEq, Repr

inductive DivOp where
  | div | divu | rem | remu
  deriving DecidableEq, Repr

/-- The operations on a CSR: write, set and clear. -/
inductive CsrInstrOp where
  | rw | rs | rc
  deriving DecidableEq, Repr

/-- An instruction with its fields.  The offsets of branches and jumps count half words, and the
fields of the two fences are ignored. -/
inductive Instr where
  | arith (instr : ArithInstr)
  | divide (op : DivOp) (rd rs1 rs2 : RegAddr)
  | branch (cond : BranchCond) (rs1 rs2 : RegAddr) (offset : BitVec 12)
  | jal (rd : RegAddr) (offset : BitVec 20)
  | jalr (rd rs1 : RegAddr) (imm : BitVec 12)
  | load (width : LoadWidth) (rd rs1 : RegAddr) (imm : BitVec 12)
  | store (width : StoreWidth) (rs1 rs2 : RegAddr) (imm : BitVec 12)
  | csrReg (op : CsrInstrOp) (rd : RegAddr) (csr : CsrAddr) (rs1 : RegAddr)
  | csrImm (op : CsrInstrOp) (rd : RegAddr) (csr : CsrAddr) (uimm : BitVec 5)
  | fence (fields : BitVec 12) (rs1 rd : RegAddr)
  | fenceI (fields : BitVec 12) (rs1 rd : RegAddr)
  | ecall
  | ebreak
  | mret
  | wfi

namespace BranchCond

def funct3 : BranchCond → BitVec 3
  | beq => 0b000#3
  | bne => 0b001#3
  | blt => 0b100#3
  | bge => 0b101#3
  | bltu => 0b110#3
  | bgeu => 0b111#3

end BranchCond

namespace LoadWidth

def funct3 : LoadWidth → BitVec 3
  | lb => 0b000#3
  | lh => 0b001#3
  | lw => 0b010#3
  | lbu => 0b100#3
  | lhu => 0b101#3

end LoadWidth

namespace StoreWidth

def funct3 : StoreWidth → BitVec 3
  | sb => 0b000#3
  | sh => 0b001#3
  | sw => 0b010#3

end StoreWidth

namespace DivOp

def funct3 : DivOp → BitVec 3
  | div => 0b100#3
  | divu => 0b101#3
  | rem => 0b110#3
  | remu => 0b111#3

end DivOp

namespace CsrInstrOp

/-- The low two bits of `funct3`. -/
def code : CsrInstrOp → BitVec 2
  | rw => 0b01#2
  | rs => 0b10#2
  | rc => 0b11#2

end CsrInstrOp

/-- The immediate of a store is split: its high bits stand above the second source field, its low
bits in the place of the destination. -/
def sFormat (imm : BitVec 12) (rs2 rs1 : RegAddr) (funct3 : BitVec 3) (opcode : BitVec 7) : Word :=
  iFormat (imm.extractLsb' 5 7 ++ rs2) rs1 funct3 (imm.extractLsb' 0 5) opcode

/-- The same two places for the offset of a branch, of which bit 0 is not stored. -/
def bFormat (offset : BitVec 12) (rs2 rs1 : RegAddr) (funct3 : BitVec 3) (opcode : BitVec 7) :
    Word :=
  iFormat (offset.extractLsb' 11 1 ++ offset.extractLsb' 4 6 ++ rs2) rs1 funct3
    (offset.extractLsb' 0 4 ++ offset.extractLsb' 10 1) opcode

def jFormat (offset : BitVec 20) (rd : RegAddr) (opcode : BitVec 7) : Word :=
  uFormat (offset.extractLsb' 19 1 ++ offset.extractLsb' 0 10 ++ offset.extractLsb' 10 1 ++
    offset.extractLsb' 11 8) rd opcode

namespace Instr

def encode : Instr → Word
  | arith instr => instr.encode
  | divide op rd rs1 rs2 => iFormat (0b0000001#7 ++ rs2) rs1 op.funct3 rd 0b0110011#7
  | branch cond rs1 rs2 offset => bFormat offset rs2 rs1 cond.funct3 0b1100011#7
  | jal rd offset => jFormat offset rd 0b1101111#7
  | jalr rd rs1 imm => iFormat imm rs1 0b000#3 rd 0b1100111#7
  | load width rd rs1 imm => iFormat imm rs1 width.funct3 rd 0b0000011#7
  | store width rs1 rs2 imm => sFormat imm rs2 rs1 width.funct3 0b0100011#7
  | csrReg op rd csr rs1 => iFormat csr rs1 (0b0#1 ++ op.code) rd 0b1110011#7
  | csrImm op rd csr uimm => iFormat csr uimm (0b1#1 ++ op.code) rd 0b1110011#7
  | fence fields rs1 rd => iFormat fields rs1 0b000#3 rd 0b0001111#7
  | fenceI fields rs1 rd => iFormat fields rs1 0b001#3 rd 0b0001111#7
  | ecall => iFormat 0x000#12 0#5 0b000#3 0#5 0b1110011#7
  | ebreak => iFormat 0x001#12 0#5 0b000#3 0#5 0b1110011#7
  | mret => iFormat 0x302#12 0#5 0b000#3 0#5 0b1110011#7
  | wfi => iFormat 0x105#12 0#5 0b000#3 0#5 0b1110011#7

end Instr

/-! ## Compressed parcels -/

/-- A 16-bit parcel. -/
abbrev Parcel := BitVec 16

namespace Parcel

variable (parcel : Parcel)

def quadrant : BitVec 2 := parcel.extractLsb' 0 2
def funct3 : BitVec 3 := parcel.extractLsb' 13 3
def rd : RegAddr := parcel.extractLsb' 7 5
def rs2 : RegAddr := parcel.extractLsb' 2 5

/-- The three-bit register fields name `x8` to `x15`. -/
def rs1Prime : RegAddr := 0b01#2 ++ parcel.extractLsb' 7 3
def rs2Prime : RegAddr := 0b01#2 ++ parcel.extractLsb' 2 3

/-- `nzuimm[5:4|9:6|2|3]` of `c.addi4spn`. -/
def addi4spnPlaces : Places := [(12, [5, 4, 9, 8, 7, 6, 2, 3])]

/-- `uimm[5:3]` and `uimm[2|6]` of `c.lw` and `c.sw`. -/
def wordPlaces : Places := [(12, [5, 4, 3]), (6, [2, 6])]

/-- `imm[5]` and `imm[4:0]`. -/
def immPlaces : Places := [(12, [5]), (6, [4, 3, 2, 1, 0])]

/-- `nzimm[9]` and `nzimm[4|6|8:7|5]` of `c.addi16sp`. -/
def addi16spPlaces : Places := [(12, [9]), (6, [4, 6, 8, 7, 5])]

/-- `imm[11|4|9:8|10|6|7|3:1|5]` of `c.j` and `c.jal`. -/
def jumpPlaces : Places := [(12, [11, 4, 9, 8, 10, 6, 7, 3, 2, 1, 5])]

/-- `imm[8|4:3]` and `imm[7:6|2:1|5]` of `c.beqz` and `c.bnez`. -/
def branchPlaces : Places := [(12, [8, 4, 3]), (6, [7, 6, 2, 1, 5])]

/-- `uimm[5]` and `uimm[4:2|7:6]` of `c.lwsp`. -/
def lwspPlaces : Places := [(12, [5]), (6, [4, 3, 2, 7, 6])]

/-- `uimm[5:2|7:6]` of `c.swsp`. -/
def swspPlaces : Places := [(12, [5, 4, 3, 2, 7, 6])]

/-- The six-bit immediate. -/
def imm : BitVec 6 := scattered parcel immPlaces 6

/-- An unsigned offset. -/
def unsigned (places : Places) : BitVec 12 := scattered parcel places 12

def jumpOffset : BitVec 20 := ((scattered parcel jumpPlaces 12).extractLsb' 1 11).signExtend 20

def branchOffset : BitVec 12 := ((scattered parcel branchPlaces 9).extractLsb' 1 8).signExtend 12

/-- The stack pointer and the link register. -/
def sp : RegAddr := 2#5
def ra : RegAddr := 1#5

def row0 : Option Instr :=
  match parcel.funct3 with
  | 0b000#3 => some (.arith (.opImm .addi parcel.rs2Prime sp (parcel.unsigned addi4spnPlaces)))
  | 0b010#3 => some (.load .lw parcel.rs2Prime parcel.rs1Prime (parcel.unsigned wordPlaces))
  | 0b110#3 => some (.store .sw parcel.rs1Prime parcel.rs2Prime (parcel.unsigned wordPlaces))
  | _ => none

/-- The shifts and the register forms of quadrant 1. -/
def row1Alu : Option Instr :=
  match parcel.extractLsb' 10 2 with
  | 0b00#2 =>
      some (.arith (.shiftImm .srl parcel.rs1Prime parcel.rs1Prime (parcel.imm.extractLsb' 0 5)))
  | 0b01#2 =>
      some (.arith (.shiftImm .sra parcel.rs1Prime parcel.rs1Prime (parcel.imm.extractLsb' 0 5)))
  | 0b10#2 =>
      some (.arith (.opImm .andi parcel.rs1Prime parcel.rs1Prime (parcel.imm.signExtend 12)))
  | _ =>
      match parcel.extractLsb' 12 1, parcel.extractLsb' 5 2 with
      | 0#1, 0b00#2 =>
          some (.arith (.reg .sub parcel.rs1Prime parcel.rs1Prime parcel.rs2Prime))
      | 0#1, 0b01#2 =>
          some (.arith (.reg .xor parcel.rs1Prime parcel.rs1Prime parcel.rs2Prime))
      | 0#1, 0b10#2 =>
          some (.arith (.reg .or parcel.rs1Prime parcel.rs1Prime parcel.rs2Prime))
      | 0#1, 0b11#2 =>
          some (.arith (.reg .and parcel.rs1Prime parcel.rs1Prime parcel.rs2Prime))
      | _, _ => none

def row1 : Option Instr :=
  match parcel.funct3 with
  | 0b000#3 => some (.arith (.opImm .addi parcel.rd parcel.rd (parcel.imm.signExtend 12)))
  | 0b001#3 => some (.jal ra parcel.jumpOffset)
  | 0b010#3 => some (.arith (.opImm .addi parcel.rd 0#5 (parcel.imm.signExtend 12)))
  | 0b011#3 =>
      if parcel.rd = sp then
        some (.arith (.opImm .addi sp sp ((scattered parcel addi16spPlaces 10).signExtend 12)))
      else some (.arith (.lui parcel.rd (parcel.imm.signExtend 20)))
  | 0b100#3 => parcel.row1Alu
  | 0b101#3 => some (.jal 0#5 parcel.jumpOffset)
  | 0b110#3 => some (.branch .beq parcel.rs1Prime 0#5 parcel.branchOffset)
  | _ => some (.branch .bne parcel.rs1Prime 0#5 parcel.branchOffset)

/-- The jumps, `c.mv`, `c.add` and `c.ebreak`. -/
def row2Jump : Instr :=
  if parcel.extractLsb' 12 1 = 0#1 then
    if parcel.rs2 = 0#5 then .jalr 0#5 parcel.rd 0#12
    else .arith (.reg .add parcel.rd 0#5 parcel.rs2)
  else if parcel.rs2 = 0#5 then
    if parcel.rd = 0#5 then .ebreak else .jalr ra parcel.rd 0#12
  else .arith (.reg .add parcel.rd parcel.rd parcel.rs2)

def row2 : Option Instr :=
  match parcel.funct3 with
  | 0b000#3 => some (.arith (.shiftImm .sll parcel.rd parcel.rd (parcel.imm.extractLsb' 0 5)))
  | 0b010#3 => some (.load .lw parcel.rd sp (parcel.unsigned lwspPlaces))
  | 0b100#3 => some parcel.row2Jump
  | 0b110#3 => some (.store .sw sp parcel.rs2 (parcel.unsigned swspPlaces))
  | _ => none

/-- The instruction in the row of the parcel.  The rows of the floating-point forms and the
reserved rows have none. -/
def row : Option Instr :=
  match parcel.quadrant with
  | 0b00#2 => parcel.row0
  | 0b01#2 => parcel.row1
  | 0b10#2 => parcel.row2
  | _ => none

/-- The field values that are reserved within a row: a zero immediate, a sixth bit of a shift
amount, a load to `x0` and a jump to `x0`. -/
def reservedFields : Bool :=
  match parcel.quadrant, parcel.funct3 with
  | 0b00#2, 0b000#3 => parcel.unsigned addi4spnPlaces == 0#12
  | 0b01#2, 0b011#3 => parcel.imm == 0#6
  | 0b01#2, 0b100#3 =>
      parcel.extractLsb' 11 1 == 0#1 && parcel.imm.extractLsb' 5 1 == 1#1
  | 0b10#2, 0b000#3 => parcel.imm.extractLsb' 5 1 == 1#1
  | 0b10#2, 0b010#3 => parcel.rd == 0#5
  | 0b10#2, 0b100#3 =>
      parcel.extractLsb' 12 1 == 0#1 && parcel.rs2 == 0#5 && parcel.rd == 0#5
  | _, _ => false

/-- The instruction that a legal parcel abbreviates.  The hints are those of their rows. -/
def expand : Option Instr := if parcel.reservedFields then none else parcel.row

end Parcel

end RiscvCore
