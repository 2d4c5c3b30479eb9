import RiscvCore.ArithmeticUnits
import RiscvCore.PipelineSteps

/-!
# The arithmetic instructions

The register and immediate instructions of the base set and the four multiplications, with their
machine words and their results on words and integers.  Decoding a word, selecting its operands
and executing it gives the result.
-/

namespace RiscvCore

/-- The operations with a 12-bit immediate. -/
inductive ImmOp where
  | addi | slti | sltiu | xori | ori | andi
  deriving DecidableEq, Repr

/-- The operations on two registers. -/
inductive RegOp where
  | add | sub | sll | slt | sltu | xor | srl | sra | or | and
  deriving DecidableEq, Repr

inductive MulOp where
  | mul | mulh | mulhsu | mulhu
  deriving DecidableEq, Repr

/-- An arithmetic instruction with its fields. -/
inductive ArithInstr where
  | lui (rd : RegAddr) (imm : BitVec 20)
  | auipc (rd : RegAddr) (imm : BitVec 20)
  | opImm (op : ImmOp) (rd rs1 : RegAddr) (imm : BitVec 12)
  | shiftImm (op : ShiftOp) (rd rs1 : RegAddr) (shamt : BitVec 5)
  | reg (op : RegOp) (rd rs1 rs2 : RegAddr)
  | mult (op : MulOp) (rd rs1 rs2 : RegAddr)

/-- A comparison writes 1 or 0. -/
def flagWord (flag : Bool) : Word := if flag then 1#32 else 0#32

namespace ImmOp

def result (op : ImmOp) (a imm : Word) : Word :=
  match op with
  | addi => a + imm
  | slti => flagWord (decide (a.toInt < imm.toInt))
  | sltiu => flagWord (decide (a.toNat < imm.toNat))
  | xori => a ^^^ imm
  | ori => a ||| imm
  | andi => a &&& imm

def funct3 : ImmOp → BitVec 3
  | addi => 0b000#3
  | slti => 0b010#3
  | sltiu => 0b011#3
  | xori => 0b100#3
  | ori => 0b110#3
  | andi => 0b111#3

end ImmOp

namespace RegOp

/-- Shifts use the low five bits of their second operand. -/
def result (op : RegOp) (a b : Word) : Word :=
  match op with
  | add => a + b
  | sub => a - b
  | sll => a <<< (b.toNat % 32)
  | slt => flagWord (decide (a.toInt < b.toInt))
  | sltu => flagWord (decide (a.toNat < b.toNat))
  | xor => a ^^^ b
  | srl => a >>> (b.toNat % 32)
  | sra => a.sshiftRight (b.toNat % 32)
  | or => a ||| b
  | and => a &&& b

def funct3 : RegOp → BitVec 3
  | add | sub => 0b000#3
  | sll => 0b001#3
  | slt => 0b010#3
  | sltu => 0b011#3
  | xor => 0b100#3
  | srl | sra => 0b101#3
  | or => 0b110#3
  | and => 0b111#3

def funct7 : RegOp → BitVec 7
  | sub | sra => 0b0100000#7
  | _ => 0b0000000#7

end RegOp

/-- A shift by an immediate amount. -/
def shiftResult (op : ShiftOp) (a : Word) (shamt : BitVec 5) : Word :=
  match op with
  | .sll => a <<< shamt.toNat
  | .srl => a >>> shamt.toNat
  | .sra => a.sshiftRight shamt.toNat

namespace MulOp

/-- The low or the high word of the 64-bit product. -/
def result (op : MulOp) (a b : Word) : Word :=
  match op with
  | mul => a * b
  | mulh => (BitVec.ofInt 64 (a.toInt * b.toInt)).extractLsb' 32 32
  | mulhsu => (BitVec.ofInt 64 (a.toInt * b.toNat)).extractLsb' 32 32
  | mulhu => (BitVec.ofInt 64 (a.toNat * b.toNat)).extractLsb' 32 32

def funct3 : MulOp → BitVec 3
  | mul => 0b000#3
  | mulh => 0b001#3
  | mulhsu => 0b010#3
  | mulhu => 0b011#3

end MulOp

/-- Two source fields, a destination and an opcode. -/
def iFormat (imm : BitVec 12) (rs1 : RegAddr) (funct3 : BitVec 3) (rd : RegAddr)
    (opcode : BitVec 7) : Word :=
  imm ++ rs1 ++ funct3 ++ rd ++ opcode

def uFormat (imm : BitVec 20) (rd : RegAddr) (opcode : BitVec 7) : Word :=
  imm ++ rd ++ opcode

def shiftFunct3 : ShiftOp → BitVec 3
  | .sll => 0b001#3
  | .srl | .sra => 0b101#3

def shiftFunct7 : ShiftOp → BitVec 7
  | .sra => 0b0100000#7
  | .sll | .srl => 0b0000000#7

namespace ArithInstr

def encode : ArithInstr → Word
  | lui rd imm => uFormat imm rd 0b0110111#7
  | auipc rd imm => uFormat imm rd 0b0010111#7
  | opImm op rd rs1 imm => iFormat imm rs1 op.funct3 rd 0b0010011#7
  | shiftImm op rd rs1 shamt =>
      iFormat (shiftFunct7 op ++ shamt) rs1 (shiftFunct3 op) rd 0b0010011#7
  | reg op rd rs1 rs2 => iFormat (op.funct7 ++ rs2) rs1 op.funct3 rd 0b0110011#7
  | mult op rd rs1 rs2 => iFormat (0b0000001#7 ++ rs2) rs1 op.funct3 rd 0b0110011#7

def rd : ArithInstr → RegAddr
  | lui rd _ | auipc rd _ | opImm _ rd _ _ | shiftImm _ rd _ _ | reg _ rd _ _ | mult _ rd _ _ => rd

/-- The first source register, if the instruction reads one. -/
def source1 : ArithInstr → Option RegAddr
  | lui _ _ | auipc _ _ => none
  | opImm _ _ rs1 _ | shiftImm _ _ rs1 _ | reg _ _ rs1 _ | mult _ _ rs1 _ => some rs1

def source2 : ArithInstr → Option RegAddr
  | lui _ _ | auipc _ _ | opImm _ _ _ _ | shiftImm _ _ _ _ => none
  | reg _ _ _ rs2 | mult _ _ _ rs2 => some rs2

/-- What the instruction at `pc` writes, given the values of its sources. -/
def result (instr : ArithInstr) (pc a b : Word) : Word :=
  match instr with
  | lui _ imm => imm ++ 0#12
  | auipc _ imm => pc + (imm ++ 0#12)
  | opImm op _ _ imm => op.result a (imm.signExtend 32)
  | shiftImm op _ _ shamt => shiftResult op a shamt
  | reg op _ _ _ => op.result a b
  | mult op _ _ _ => op.result a b

end ArithInstr

section Fields

variable (imm : BitVec 12) (rs1 : RegAddr) (funct3 : BitVec 3) (rd : RegAddr) (opcode : BitVec 7)

@[simp]
theorem opcode_iFormat : Decoder.opcode (iFormat imm rs1 funct3 rd opcode) = opcode := by
  unfold Decoder.opcode iFormat
  rw [BitVec.extractLsb'_append_eq_of_add_le (by decide)]
  exact BitVec.extractLsb'_eq_self

@[simp]
theorem rd_iFormat : Decoder.rd (iFormat imm rs1 funct3 rd opcode) = rd := by
  unfold Decoder.rd iFormat
  rw [BitVec.extractLsb'_append_eq_of_le (by decide),
    BitVec.extractLsb'_append_eq_of_add_le (by decide)]
  exact BitVec.extractLsb'_eq_self

@[simp]
theorem funct3_iFormat : Decoder.funct3 (iFormat imm rs1 funct3 rd opcode) = funct3 := by
  unfold Decoder.funct3 iFormat
  rw [BitVec.extractLsb'_append_eq_of_le (by decide),
    BitVec.extractLsb'_append_eq_of_le (by decide),
    BitVec.extractLsb'_append_eq_of_add_le (by decide)]
  exact BitVec.extractLsb'_eq_self

@[simp]
theorem rs1_iFormat : Decoder.rs1 (iFormat imm rs1 funct3 rd opcode) = rs1 := by
  unfold Decoder.rs1 iFormat
  rw [BitVec.extractLsb'_append_eq_of_le (by decide),
    BitVec.extractLsb'_append_eq_of_le (by decide),
    BitVec.extractLsb'_append_eq_of_le (by decide),
    BitVec.extractLsb'_append_eq_of_add_le (by decide)]
  exact BitVec.extractLsb'_eq_self

/-- The bits above the first source field are those of the immediate. -/
theorem extractLsb'_iFormat (start len : Nat) (above : 20 ≤ start) :
    (iFormat imm rs1 funct3 rd opcode).extractLsb' start len =
      imm.extractLsb' (start - 20) len := by
  unfold iFormat
  rw [BitVec.extractLsb'_append_eq_of_le (by omega),
    BitVec.extractLsb'_append_eq_of_le (by omega),
    BitVec.extractLsb'_append_eq_of_le (by omega),
    BitVec.extractLsb'_append_eq_of_le (by omega)]
  congr 1

@[simp]
theorem immItype_iFormat :
    Decoder.immItype (iFormat imm rs1 funct3 rd opcode) = imm.signExtend 32 := by
  rw [Decoder.immItype, extractLsb'_iFormat _ _ _ _ _ _ _ (Nat.le_refl _)]
  exact congrArg _ BitVec.extractLsb'_eq_self

@[simp]
theorem funct7_iFormat (funct7 : BitVec 7) (rs2 : BitVec 5) :
    Decoder.funct7 (iFormat (funct7 ++ rs2) rs1 funct3 rd opcode) = funct7 := by
  rw [Decoder.funct7, extractLsb'_iFormat _ _ _ _ _ _ _ (by decide),
    BitVec.extractLsb'_append_eq_of_le (by decide)]
  exact BitVec.extractLsb'_eq_self

@[simp]
theorem rs2_iFormat (funct7 : BitVec 7) (rs2 : BitVec 5) :
    Decoder.rs2 (iFormat (funct7 ++ rs2) rs1 funct3 rd opcode) = rs2 := by
  rw [Decoder.rs2, extractLsb'_iFormat _ _ _ _ _ _ _ (by decide),
    BitVec.extractLsb'_append_eq_of_add_le (by decide)]
  exact BitVec.extractLsb'_eq_self

variable (upper : BitVec 20)

@[simp]
theorem opcode_uFormat : Decoder.opcode (uFormat upper rd opcode) = opcode := by
  unfold Decoder.opcode uFormat
  rw [BitVec.extractLsb'_append_eq_of_add_le (by decide)]
  exact BitVec.extractLsb'_eq_self

@[simp]
theorem rd_uFormat : Decoder.rd (uFormat upper rd opcode) = rd := by
  unfold Decoder.rd uFormat
  rw [BitVec.extractLsb'_append_eq_of_le (by decide),
    BitVec.extractLsb'_append_eq_of_add_le (by decide)]
  exact BitVec.extractLsb'_eq_self

@[simp]
theorem immUtype_uFormat : Decoder.immUtype (uFormat upper rd opcode) = upper ++ 0#12 := by
  unfold Decoder.immUtype uFormat
  rw [BitVec.extractLsb'_append_eq_of_le (by decide),
    BitVec.extractLsb'_append_eq_of_le (by decide)]
  exact congrArg (fun bits => bits ++ 0#12) BitVec.extractLsb'_eq_self

end Fields

/-! ## Decoding -/

/-- The controls of an operation with an immediate. -/
def ImmOp.controls (op : ImmOp) (out : Decoded) : Decoded :=
  match op with
  | addi => Decoder.withAdder out .add
  | slti => Decoder.withLess out true
  | sltiu => Decoder.withLess out false
  | xori => Decoder.withLogic out .xor
  | ori => Decoder.withLogic out .or
  | andi => Decoder.withLogic out .and

def RegOp.controls (op : RegOp) (out : Decoded) : Decoded :=
  match op with
  | add => Decoder.withAdder out .add
  | sub => Decoder.withAdder out .sub
  | sll => Decoder.withShift out .sll
  | slt => Decoder.withLess out true
  | sltu => Decoder.withLess out false
  | xor => Decoder.withLogic out .xor
  | srl => Decoder.withShift out .srl
  | sra => Decoder.withShift out .sra
  | or => Decoder.withLogic out .or
  | and => Decoder.withLogic out .and

def MulOp.multOp : MulOp → MultOp
  | mul => .mul
  | mulh => .mulh
  | mulhsu => .mulhsu
  | mulhu => .mulhu

namespace ArithInstr

/-- The controls the decoder gives the instruction. -/
def controls (instr : ArithInstr) : Decoded :=
  let out := Decoder.defaults instr.encode true
  match instr with
  | lui _ _ =>
      { out with
        adderEn := true, adderOp := .add, srcAMux := .immUtype, srcBMux := .zero, rdWrEn := true }
  | auipc _ _ =>
      { out with
        adderEn := true, adderOp := .add, srcAMux := .pcId, srcBMux := .immUtype, rdWrEn := true }
  | opImm op _ _ _ => op.controls (Decoder.aluIDec out)
  | shiftImm op _ _ _ => Decoder.withShift (Decoder.aluIDec out) op
  | reg op _ _ _ => op.controls (Decoder.aluRDec out)
  | mult op _ _ _ => Decoder.multDec out op.multOp

theorem decoder_encode (instr : ArithInstr) : decoder instr.encode true = instr.controls := by
  cases instr with
  | lui rd imm =>
      simp only [decoder, encode, Decoder.instrClass, opcode_uFormat]
      rfl
  | auipc rd imm =>
      simp only [decoder, encode, Decoder.instrClass, opcode_uFormat]
      rfl
  | opImm op rd rs1 imm =>
      simp only [decoder, encode, Decoder.instrClass, opcode_iFormat, Decoder.itypeInstr,
        funct3_iFormat]
      cases op <;> rfl
  | shiftImm op rd rs1 shamt =>
      simp only [decoder, encode, Decoder.instrClass, opcode_iFormat, Decoder.itypeInstr,
        funct3_iFormat, funct7_iFormat]
      cases op <;> rfl
  | reg op rd rs1 rs2 =>
      simp only [decoder, encode, Decoder.instrClass, opcode_iFormat, Decoder.rtypeInstr,
        funct3_iFormat, funct7_iFormat]
      cases op <;> rfl
  | mult op rd rs1 rs2 =>
      simp only [decoder, encode, Decoder.instrClass, opcode_iFormat, Decoder.rtypeInstr,
        funct3_iFormat, funct7_iFormat]
      cases op <;> rfl

end ArithInstr

/-! ## Execution -/

/-- The ALU result of a comparison. -/
theorem append_ofBool_eq_flagWord (flag : Bool) : 0#31 ++ BitVec.ofBool flag = flagWord flag := by
  cases flag <;> rfl

theorem less_signed (a b : Word) :
    0#31 ++ BitVec.ofBool (rvCompare true .lt (rvAdder .sub a b) a b) =
      flagWord (decide (a.toInt < b.toInt)) := by
  rw [rvAdder_sub, rvCompare_lt_signed, append_ofBool_eq_flagWord]
  rfl

theorem less_unsigned (a b : Word) :
    0#31 ++ BitVec.ofBool (rvCompare false .lt (rvAdder .sub a b) a b) =
      flagWord (decide (a.toNat < b.toNat)) := by
  rw [rvAdder_sub, rvCompare_lt_unsigned, append_ofBool_eq_flagWord]
  rfl

theorem rvShift_eq_shiftResult (op : ShiftOp) (a : Word) (amount : BitVec 5) :
    rvShift op a amount = shiftResult op a amount := by
  cases op with
  | sll => exact rvShift_sll a amount
  | srl => exact rvShift_srl a amount
  | sra => exact rvShift_sra a amount

/-- A sign extension keeps the low bits. -/
theorem extractLsb'_signExtend_shamt (funct7 : BitVec 7) (shamt : BitVec 5) :
    ((funct7 ++ shamt).signExtend 32).extractLsb' 0 5 = shamt := by
  ext index inside
  rw [BitVec.getElem_extractLsb', Nat.zero_add, BitVec.getLsbD_signExtend,
    decide_eq_true (by omega), Bool.true_and, if_pos (by omega), BitVec.getLsbD_append,
    if_pos inside, BitVec.getLsbD_eq_getElem]

theorem toNat_extractLsb'_five (word : Word) : (word.extractLsb' 0 5).toNat = word.toNat % 32 := by
  rw [BitVec.extractLsb'_toNat, Nat.shiftRight_zero]

theorem signExtend_eq_ofInt (word : Word) : word.signExtend 64 = BitVec.ofInt 64 word.toInt := rfl

theorem setWidth_eq_ofInt (word : Word) : word.setWidth 64 = BitVec.ofInt 64 word.toNat := by
  apply BitVec.eq_of_toNat_eq
  rw [BitVec.toNat_setWidth, BitVec.ofInt_natCast, BitVec.toNat_ofNat]

/-- The multiplier computes the product of the operands as integers, each with or without its
sign. -/
theorem multiplier_eq_ofInt (op : MultOp) (a b : Word) :
    multiplier op a b =
      BitVec.ofInt 64 ((if op == .mulhsu || op == .mulh then a.toInt else a.toNat) *
        (if op == .mulh then b.toInt else b.toNat)) := by
  rw [multiplier_eq, BitVec.ofInt_mul, apply_ite (BitVec.ofInt 64), apply_ite (BitVec.ofInt 64)]
  simp only [signExtend_eq_ofInt, setWidth_eq_ofInt]

section Execute

variable (idEx : IdEx) (ifs : IfStage) (a b : Word) (tag : Tag) (div : Div) (csrRdata : Word)

/-- What EX computes for an instruction issued with these operands. -/
def executed (dec : Decoded) : Word :=
  ExStage.rdWrDataEx (IdStage.issued idEx ifs dec a b tag) div csrRdata

namespace ArithInstr

theorem executed_lui (rd : RegAddr) (imm : BitVec 20) :
    executed idEx ifs a b tag div csrRdata (lui rd imm).controls = imm ++ 0#12 := by
  change rvAdder .add (Decoder.immUtype (uFormat imm rd _)) 0#32 = _
  rw [rvAdder_add, immUtype_uFormat, BitVec.add_zero]

theorem executed_auipc (rd : RegAddr) (imm : BitVec 20) :
    executed idEx ifs a b tag div csrRdata (auipc rd imm).controls =
      ifs.pcId + (imm ++ 0#12) := by
  change rvAdder .add ifs.pcId (Decoder.immUtype (uFormat imm rd _)) = _
  rw [rvAdder_add, immUtype_uFormat]

theorem executed_opImm (op : ImmOp) (rd rs1 : RegAddr) (imm : BitVec 12) :
    executed idEx ifs a b tag div csrRdata (opImm op rd rs1 imm).controls =
      op.result a (imm.signExtend 32) := by
  have operand : Decoder.immItype (opImm op rd rs1 imm).encode = imm.signExtend 32 :=
    immItype_iFormat imm rs1 op.funct3 rd _
  cases op with
  | addi =>
      change rvAdder .add a (Decoder.immItype _) = _
      rw [operand, rvAdder_add]
      rfl
  | slti =>
      change 0#31 ++ BitVec.ofBool (rvCompare true .lt (rvAdder .sub a (Decoder.immItype _)) a
        (Decoder.immItype _)) = _
      rw [operand, less_signed]
      rfl
  | sltiu =>
      change 0#31 ++ BitVec.ofBool (rvCompare false .lt (rvAdder .sub a (Decoder.immItype _)) a
        (Decoder.immItype _)) = _
      rw [operand, less_unsigned]
      rfl
  | xori =>
      change a ^^^ Decoder.immItype _ = _
      rw [operand]
      rfl
  | ori =>
      change a ||| Decoder.immItype _ = _
      rw [operand]
      rfl
  | andi =>
      change a &&& Decoder.immItype _ = _
      rw [operand]
      rfl

theorem executed_shiftImm (op : ShiftOp) (rd rs1 : RegAddr) (shamt : BitVec 5) :
    executed idEx ifs a b tag div csrRdata (shiftImm op rd rs1 shamt).controls =
      shiftResult op a shamt := by
  change rvShift op a ((Decoder.immItype (iFormat (shiftFunct7 op ++ shamt) rs1 _ rd _)).extractLsb'
    0 5) = _
  rw [immItype_iFormat, extractLsb'_signExtend_shamt, rvShift_eq_shiftResult]

theorem executed_reg (op : RegOp) (rd rs1 rs2 : RegAddr) :
    executed idEx ifs a b tag div csrRdata (reg op rd rs1 rs2).controls = op.result a b := by
  cases op with
  | add => exact rvAdder_add a b
  | sub => exact rvAdder_sub a b
  | slt => exact less_signed a b
  | sltu => exact less_unsigned a b
  | xor => rfl
  | or => rfl
  | and => rfl
  | sll =>
      change rvShift .sll a (b.extractLsb' 0 5) = a <<< (b.toNat % 32)
      rw [rvShift_sll, toNat_extractLsb'_five]
  | srl =>
      change rvShift .srl a (b.extractLsb' 0 5) = a >>> (b.toNat % 32)
      rw [rvShift_srl, toNat_extractLsb'_five]
  | sra =>
      change rvShift .sra a (b.extractLsb' 0 5) = a.sshiftRight (b.toNat % 32)
      rw [rvShift_sra, toNat_extractLsb'_five]

theorem executed_mult (op : MulOp) (rd rs1 rs2 : RegAddr) :
    executed idEx ifs a b tag div csrRdata (mult op rd rs1 rs2).controls = op.result a b := by
  have product := multiplier_eq_ofInt op.multOp a b
  cases op with
  | mul => exact multiplier_low a b
  | mulh => exact congrArg (BitVec.extractLsb' 32 32) product
  | mulhsu => exact congrArg (BitVec.extractLsb' 32 32) product
  | mulhu => exact congrArg (BitVec.extractLsb' 32 32) product

theorem executed_controls (instr : ArithInstr) :
    executed idEx ifs a b tag div csrRdata instr.controls = instr.result ifs.pcId a b := by
  cases instr with
  | lui rd imm => exact executed_lui idEx ifs a b tag div csrRdata rd imm
  | auipc rd imm => exact executed_auipc idEx ifs a b tag div csrRdata rd imm
  | opImm op rd rs1 imm => exact executed_opImm idEx ifs a b tag div csrRdata op rd rs1 imm
  | shiftImm op rd rs1 shamt =>
      exact executed_shiftImm idEx ifs a b tag div csrRdata op rd rs1 shamt
  | reg op rd rs1 rs2 => exact executed_reg idEx ifs a b tag div csrRdata op rd rs1 rs2
  | mult op rd rs1 rs2 => exact executed_mult idEx ifs a b tag div csrRdata op rd rs1 rs2

end ArithInstr

end Execute

/-- The enabled first source register. -/
def Decoded.source1 (dec : Decoded) : Option RegAddr :=
  if dec.rs1RdEn then some dec.rs1RdAddr else none

def Decoded.source2 (dec : Decoded) : Option RegAddr :=
  if dec.rs2RdEn then some dec.rs2RdAddr else none

namespace ArithInstr

theorem source1_controls (instr : ArithInstr) : instr.controls.source1 = instr.source1 := by
  cases instr with
  | lui rd imm => rfl
  | auipc rd imm => rfl
  | opImm op rd rs1 imm =>
      have field := rs1_iFormat imm rs1 op.funct3 rd 0b0010011#7
      cases op <;> exact congrArg some field
  | shiftImm op rd rs1 shamt =>
      exact congrArg some (rs1_iFormat (shiftFunct7 op ++ shamt) rs1 (shiftFunct3 op) rd _)
  | reg op rd rs1 rs2 =>
      have field := rs1_iFormat (op.funct7 ++ rs2) rs1 op.funct3 rd 0b0110011#7
      cases op <;> exact congrArg some field
  | mult op rd rs1 rs2 =>
      exact congrArg some (rs1_iFormat (0b0000001#7 ++ rs2) rs1 op.funct3 rd _)

theorem source2_controls (instr : ArithInstr) : instr.controls.source2 = instr.source2 := by
  cases instr with
  | lui rd imm => rfl
  | auipc rd imm => rfl
  | opImm op rd rs1 imm => cases op <;> rfl
  | shiftImm op rd rs1 shamt => rfl
  | reg op rd rs1 rs2 =>
      have field := rs2_iFormat rs1 op.funct3 rd 0b0110011#7 op.funct7 rs2
      cases op <;> exact congrArg some field
  | mult op rd rs1 rs2 =>
      exact congrArg some (rs2_iFormat rs1 op.funct3 rd _ 0b0000001#7 rs2)

theorem rdWrEn_controls (instr : ArithInstr) : instr.controls.rdWrEn = true := by
  cases instr with
  | opImm op rd rs1 imm => cases op <;> rfl
  | reg op rd rs1 rs2 => cases op <;> rfl
  | _ => rfl

theorem rdWrAddr_controls (instr : ArithInstr) : instr.controls.rdWrAddr = instr.rd := by
  cases instr with
  | lui rd imm => exact rd_uFormat rd _ imm
  | auipc rd imm => exact rd_uFormat rd _ imm
  | opImm op rd rs1 imm =>
      have field := rd_iFormat imm rs1 op.funct3 rd 0b0010011#7
      cases op <;> exact field
  | shiftImm op rd rs1 shamt =>
      exact rd_iFormat (shiftFunct7 op ++ shamt) rs1 (shiftFunct3 op) rd _
  | reg op rd rs1 rs2 =>
      have field := rd_iFormat (op.funct7 ++ rs2) rs1 op.funct3 rd 0b0110011#7
      cases op <;> exact field
  | mult op rd rs1 rs2 => exact rd_iFormat (0b0000001#7 ++ rs2) rs1 op.funct3 rd _

theorem illegalInstr_controls (instr : ArithInstr) : instr.controls.illegalInstr = false := by
  cases instr with
  | opImm op rd rs1 imm => cases op <;> rfl
  | reg op rd rs1 rs2 => cases op <;> rfl
  | _ => rfl

theorem jumpEx_issued (instr : ArithInstr) (idEx : IdEx) (ifs : IfStage) (a b : Word)
    (tag : Tag) : (IdStage.issued idEx ifs instr.controls a b tag).jumpEx = false := by
  cases instr with
  | opImm op rd rs1 imm => cases op <;> rfl
  | reg op rd rs1 rs2 => cases op <;> rfl
  | _ => rfl

/-- Decoding, operand selection and execution of the machine word of an arithmetic instruction:
the result, the destination and the sources are those of the instruction set. -/
theorem decode_execute (instr : ArithInstr) (idEx : IdEx) (ifs : IfStage) (a b : Word) (tag : Tag)
    (div : Div) (csrRdata : Word) :
    let dec := decoder instr.encode true
    let ex := IdStage.issued idEx ifs dec a b tag
    ExStage.rdWrDataEx ex div csrRdata = instr.result ifs.pcId a b ∧
      (dec.rdWrEn = true ∧ ex.rdWrEnEx = true) ∧
      (dec.rdWrAddr = instr.rd ∧ ex.rdWrAddrEx = instr.rd) ∧
      (dec.source1 = instr.source1 ∧ dec.source2 = instr.source2) ∧
      dec.illegalInstr = false := by
  dsimp only
  rw [decoder_encode]
  exact ⟨executed_controls idEx ifs a b tag div csrRdata instr,
    ⟨instr.rdWrEn_controls, instr.rdWrEn_controls⟩,
    ⟨instr.rdWrAddr_controls, instr.rdWrAddr_controls⟩,
    ⟨instr.source1_controls, instr.source2_controls⟩,
    instr.illegalInstr_controls⟩

end ArithInstr

/-- Only a jump reads the program counter in EX. -/
theorem ExStage.rdWrDataEx_of_sameOperation (ex : IdEx) (pcEx : Word) (iretireEx excTakenEx : Bool)
    (div : Div) (csrRdata : Word) (noJump : ex.jumpEx = false) :
    ExStage.rdWrDataEx { ex with pcEx, iretireEx, excTakenEx } div csrRdata =
      ExStage.rdWrDataEx ex div csrRdata := by
  simp only [ExStage.rdWrDataEx, noJump, Bool.false_eq_true, if_false]
  rfl

namespace CoreState

variable {params : Params} {st : CoreState} {port : CoreInput}

/-- In the cycle after an arithmetic instruction issues, EX computes its result from its own
address and the register values read in ID. -/
theorem rdWrDataEx_of_issues (instr : ArithInstr)
    (fetched : st.ifs.instrPayloadId = instr.encode) (issues : st.issues params port = true)
    (nextPort : CoreInput) :
    (st.step params port).rdWrDataEx nextPort =
      instr.result st.ifs.pcId (st.rs1RdData port) (st.rs2RdData port) := by
  simp only [CoreState.issues, Bool.and_eq_true, Bool.not_eq_true'] at issues
  obtain ⟨⟨valid, ready⟩, noFlush⟩ := issues
  have dec : st.decoded = instr.controls := by
    rw [decoded, fetched, valid, ArithInstr.decoder_encode]
  have operation := nextIdExOperation_of_issue ready noFlush
  rw [dec] at operation
  have result := ArithInstr.executed_controls st.idEx st.ifs (st.rs1RdData port)
    (st.rs2RdData port) (st.rf.newTag (st.invalidPort params port))
    (st.step params port).div ((st.step params port).csrRdata nextPort) instr
  rw [← result, executed, ← operation]
  refine ExStage.rdWrDataEx_of_sameOperation _ _ _ _ _ _ ?_
  rw [operation]
  exact instr.jumpEx_issued ..

end CoreState

end RiscvCore
