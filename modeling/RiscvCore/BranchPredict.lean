import RiscvCore.CompressedForms

/-!
# Branch prediction

`branch_predict.sv`: branches and jumps are recognised from the raw fetched bits, 16- and 32-bit
ones side by side, and their target is computed before expansion and decoding.  The direction of a
branch and the target of an indirect jump come from the tables `bht` and `btb`, whose outputs are
inputs here.
-/

namespace RiscvCore

namespace BranchPredict

/-- The parameters and input ports the prediction depends on, with the outputs of the tables. -/
structure Input where
  enaJump : Bool
  enaRas : Bool
  fetchPc : Word
  fetchRdata : Word
  fetchValid : Bool
  bhtPredict : Bool
  btbPredict : Bool
  btbAddr : BitVec 31

section Predecode

variable (instr : Word)

def isRvc : Bool := instr.extractLsb' 0 2 != 0b11#2

def isJalR : Bool :=
  instr.extractLsb' 0 2 == 0b10#2 && instr.extractLsb' 13 3 == 0b100#3 &&
    instr.extractLsb' 2 5 == 0#5 && isRvc instr

def rvcJal : Bool :=
  isRvc instr && instr.extractLsb' 0 2 == 0b01#2 && instr.extractLsb' 13 3 == 0b001#3

def rvcJ : Bool :=
  isRvc instr && instr.extractLsb' 0 2 == 0b01#2 && instr.extractLsb' 13 3 == 0b101#3

def rvcJr : Bool := isJalR instr && !instr.getLsbD 12

def rvcJalr : Bool := isJalR instr && instr.getLsbD 12

def rvcJump : Bool := rvcJal instr || rvcJ instr

def rvcReturn : Bool :=
  rvcJr instr && (instr.extractLsb' 7 5 == 1#5 || instr.extractLsb' 7 5 == 5#5)

def rvcBranch : Bool :=
  isRvc instr && instr.extractLsb' 0 2 == 0b01#2 &&
    (instr.extractLsb' 13 3 == 0b110#3 || instr.extractLsb' 13 3 == 0b111#3)

def immCjType : Word :=
  (instr.extractLsb' 12 1).signExtend 20 ++ instr.extractLsb' 12 1 ++ instr.extractLsb' 8 1 ++
    instr.extractLsb' 9 2 ++ instr.extractLsb' 6 1 ++ instr.extractLsb' 7 1 ++
    instr.extractLsb' 2 1 ++ instr.extractLsb' 11 1 ++ instr.extractLsb' 3 3 ++ 0#1

def immCbType : Word :=
  (instr.extractLsb' 12 1).signExtend 23 ++ instr.extractLsb' 12 1 ++ instr.extractLsb' 5 2 ++
    instr.extractLsb' 2 1 ++ instr.extractLsb' 10 2 ++ instr.extractLsb' 3 2 ++ 0#1

def rvcImm : Word := if instr.getLsbD 14 then immCbType instr else immCjType instr

def rvBranch : Bool := instr.extractLsb' 0 7 == opcodeBranch

def rvJump : Bool := instr.extractLsb' 0 7 == opcodeJal

def rvJalr : Bool := instr.extractLsb' 0 7 == opcodeJalr

def rvReturn : Bool :=
  rvJalr instr && (instr.extractLsb' 15 5 == 1#5 || instr.extractLsb' 15 5 == 5#5) &&
    instr.extractLsb' 15 5 != instr.extractLsb' 7 5

def immJtype : Word :=
  (instr.extractLsb' 31 1).signExtend 12 ++ instr.extractLsb' 12 8 ++ instr.extractLsb' 20 1 ++
    instr.extractLsb' 21 10 ++ 0#1

def immBtype : Word :=
  (instr.extractLsb' 31 1).signExtend 19 ++ instr.extractLsb' 31 1 ++ instr.extractLsb' 7 1 ++
    instr.extractLsb' 25 6 ++ instr.extractLsb' 8 4 ++ 0#1

def rvImm : Word := if instr.getLsbD 2 then immJtype instr else immBtype instr

def imm : Word := if isRvc instr then rvcImm instr else rvImm instr

end Predecode

section Predict

variable (port : Input)

def isBranch : Bool := port.fetchValid && (rvcBranch port.fetchRdata || rvBranch port.fetchRdata)

def isJump : Bool := port.fetchValid && (rvcJump port.fetchRdata || rvJump port.fetchRdata)

def isReturn : Bool := port.fetchValid && (rvcReturn port.fetchRdata || rvReturn port.fetchRdata)

def isJalr : Bool :=
  port.fetchValid &&
    (rvcJalr port.fetchRdata || rvcJr port.fetchRdata || rvJalr port.fetchRdata) &&
    !(port.enaRas && isReturn port)

def bhtAddr : Word := port.fetchPc + imm port.fetchRdata

def jumpAddr : Word := port.fetchPc + imm port.fetchRdata

/-- `predict_taken` and `predict_pc`. -/
def predict : Bool × Word :=
  match isBranch port, isJalr port, isJump port with
  | true, false, false => (port.bhtPredict, bhtAddr port)
  | false, true, false => (port.btbPredict, port.btbAddr ++ 0#1)
  | false, false, true => (port.enaJump, jumpAddr port)
  | _, _, _ => (false, 0#32)

end Predict

end BranchPredict

end RiscvCore
