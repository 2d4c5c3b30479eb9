import RiscvCore.Pkg

/-!
# Arithmetic units

The combinational datapath of EX: `rv_adder.sv`, `rv_compare.sv`, `rv_shift.sv`, `alu.sv` and
`multiplier.sv`.
-/

namespace RiscvCore

/-- `rv_adder`: the carry-in of a subtraction travels in an extra low bit. -/
def rvAdder (op : AdderOp) (opA opB : Word) : Word :=
  let adderOpA : BitVec 33 := opA ++ 1#1
  let adderOpB : BitVec 33 := if op = .sub then ~~~opB ++ 1#1 else opB ++ 0#1
  (adderOpA + adderOpB).extractLsb' 1 32

/-- `rv_compare`: all four comparisons read the result of the subtraction. -/
def rvCompare (sign : Bool) (op : CompOp) (adderRes opA opB : Word) : Bool :=
  let isEqual := adderRes == 0#32
  let isGreatEqual :=
    if (opA.getLsbD 31 ^^ opB.getLsbD 31) = false then adderRes.getLsbD 31 == false
    else opA.getLsbD 31 ^^ sign
  match op with
  | .eq => isEqual
  | .ne => !isEqual
  | .lt => !isGreatEqual
  | .ge => isGreatEqual

/-- `rv_shift`: one arithmetic right shifter of 33 bits, used on the reversed operand for
left shifts. -/
def rvShift (op : ShiftOp) (opA : Word) (amt : BitVec 5) : Word :=
  let shiftLeft := op == .sll
  let shiftArith := op == .sra
  let shiftOperate := if shiftLeft then opA.reverse else opA
  let shiftSigned := shiftArith && opA.getLsbD 31
  let shiftRightResult :=
    ((BitVec.ofBool shiftSigned ++ shiftOperate).sshiftRight amt.toNat).extractLsb' 0 32
  if shiftLeft then shiftRightResult.reverse else shiftRightResult

def logicResult (op : LogicOp) (operatorA operatorB : Word) : Word :=
  match op with
  | .and => operatorA &&& operatorB
  | .or => operatorA ||| operatorB
  | .xor => operatorA ^^^ operatorB

/-- The result selection of `alu`: the first enabled unit wins. -/
def aluResult (adderEn logicEn compEn shiftEn : Bool)
    (adder0Result logicRes : Word) (compareResult : Bool) (shiftResult : Word) : Word :=
  if adderEn then adder0Result
  else if logicEn then logicRes
  else if compEn then 0#31 ++ BitVec.ofBool compareResult
  else if shiftEn then shiftResult
  else 0#32

/-- `multiplier`: one signed multiplication of 33-bit operands. -/
def multiplier (op : MultOp) (opA opB : Word) : BitVec 64 :=
  let signA := op == .mulhsu || op == .mulh
  let signB := op == .mulh
  let operatorA : BitVec 33 := BitVec.ofBool (signA && opA.getLsbD 31) ++ opA
  let operatorB : BitVec 33 := BitVec.ofBool (signB && opB.getLsbD 31) ++ opB
  (operatorA.signExtend 66 * operatorB.signExtend 66).extractLsb' 0 64

end RiscvCore
