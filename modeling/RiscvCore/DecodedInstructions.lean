import RiscvCore.DecodedActions

/-!
# Decoding the instruction set

The decoder gives every machine word of the instruction set the action of its instruction.  In the
other direction, it also accepts the two kinds of undefined width of a memory access, which it
takes over unchecked, and `uret`; every other word is illegal and enables nothing.
-/

namespace RiscvCore

open BitLists (eq_of_bits bits bits_append bits_extractLsb')

section Fields

variable (rs2 rs1 : RegAddr) (funct3 : BitVec 3) (rd : RegAddr) (opcode : BitVec 7)

theorem immStype_sFormat (imm : BitVec 12) :
    Decoder.immStype (sFormat imm rs2 rs1 funct3 opcode) = imm.signExtend 32 := by
  have high := funct7_iFormat rs1 funct3 (imm.extractLsb' 0 5) opcode (imm.extractLsb' 5 7) rs2
  have low := rd_iFormat (imm.extractLsb' 5 7 ++ rs2) rs1 funct3 (imm.extractLsb' 0 5) opcode
  rw [Decoder.funct7] at high
  rw [Decoder.rd] at low
  rw [sFormat, Decoder.immStype, high, low]
  apply congrArg
  apply @eq_of_bits 12
  simp only [bits_append, bits_extractLsb', List.range, List.range.loop, List.map]
  rfl

theorem immBtype_bFormat (offset : BitVec 12) :
    Decoder.immBtype (bFormat offset rs2 rs1 funct3 opcode) = Instr.byteOffset offset := by
  rw [bFormat, Decoder.immBtype, Instr.byteOffset, iFormat]
  apply congrArg
  apply @eq_of_bits 13
  simp only [bits_append, bits_extractLsb', BitVec.getLsbD_append]
  simp [bits, List.range, List.range.loop]

theorem immJtype_jFormat (offset : BitVec 20) :
    Decoder.immJtype (jFormat offset rd opcode) = Instr.byteOffset offset := by
  rw [jFormat, Decoder.immJtype, Instr.byteOffset, uFormat]
  apply congrArg
  apply @eq_of_bits 21
  simp only [bits_append, bits_extractLsb', BitVec.getLsbD_append]
  simp [bits, List.range, List.range.loop]

theorem funct3Low_iFormat (imm : BitVec 12) (top : BitVec 1) (low : BitVec 2) :
    (iFormat imm rs1 (top ++ low) rd opcode).extractLsb' 12 2 = low := by
  unfold iFormat
  apply @eq_of_bits 2
  simp only [bits_extractLsb', BitVec.getLsbD_append]
  simp [bits, List.range, List.range.loop]

end Fields

/-- Every word consists of its fields. -/
theorem iFormat_fields (word : Word) :
    iFormat (word.extractLsb' 20 12) (Decoder.rs1 word) (Decoder.funct3 word) (Decoder.rd word)
      (Decoder.opcode word) = word := by
  unfold iFormat Decoder.rs1 Decoder.funct3 Decoder.rd Decoder.opcode
  apply @eq_of_bits 32
  simp only [bits_append, bits_extractLsb', List.range, List.range.loop, List.map]
  rfl

theorem upperFields (word : Word) :
    Decoder.funct7 word ++ Decoder.rs2 word = word.extractLsb' 20 12 := by
  unfold Decoder.funct7 Decoder.rs2
  apply @eq_of_bits 12
  simp only [bits_append, bits_extractLsb', List.range, List.range.loop, List.map]
  rfl

theorem uFormat_fields (word : Word) :
    uFormat (word.extractLsb' 12 20) (Decoder.rd word) (Decoder.opcode word) = word := by
  unfold uFormat Decoder.rd Decoder.opcode
  apply @eq_of_bits 32
  simp only [bits_append, bits_extractLsb', List.range, List.range.loop, List.map]
  rfl

theorem ArithInstr.action_controls (instr : ArithInstr) :
    instr.controls.action = some instr.action := by
  cases instr with
  | lui rd imm =>
      simp [controls, action, Decoded.action, Decoded.enables, Decoded.aluAction, Decoded.srcA,
        Decoded.srcB, Decoded.destination, Decoder.defaults, encode]
  | auipc rd imm =>
      simp [controls, action, Decoded.action, Decoded.enables, Decoded.aluAction, Decoded.srcA,
        Decoded.srcB, Decoded.destination, Decoder.defaults, encode]
  | opImm op rd rs1 imm =>
      cases op <;>
        simp [controls, action, Decoded.action, Decoded.enables, Decoded.aluAction, Decoded.srcA,
          Decoded.srcB, Decoded.destination, Decoded.rs1Operand, Decoder.defaults, encode,
          ImmOp.controls, ImmOp.aluOp, Decoder.aluIDec, Decoder.withAdder, Decoder.withLess,
          Decoder.withLogic]
  | shiftImm op rd rs1 shamt =>
      simp [controls, action, Decoded.action, Decoded.enables, Decoded.shiftAction, Decoded.srcA,
        Decoded.shiftAmount, Decoded.srcB, Decoded.destination, Decoded.rs1Operand,
        Decoder.defaults, encode, Decoder.aluIDec, Decoder.withShift, extractLsb'_signExtend_shamt]
  | reg op rd rs1 rs2 =>
      cases op <;>
        simp [controls, action, Decoded.action, Decoded.enables, Decoded.aluAction,
          Decoded.shiftAction, Decoded.shiftAmount, Decoded.srcA, Decoded.srcB,
          Decoded.destination, Decoded.rs1Operand, Decoded.rs2Operand, Decoder.defaults, encode,
          RegOp.controls, RegOp.aluOp, Decoder.aluRDec, Decoder.withAdder, Decoder.withLess,
          Decoder.withLogic, Decoder.withShift]
  | mult op rd rs1 rs2 =>
      simp [controls, action, Decoded.action, Decoded.enables, Decoded.srcA, Decoded.srcB,
        Decoded.destination, Decoded.rs1Operand, Decoded.rs2Operand, Decoder.defaults, encode,
        Decoder.multDec, Decoder.aluRDec]

/-- The CSR instructions are told apart by the low bits of `funct3`, the two forms by bit 2. -/
theorem Decoder.sysInstr_csr (op : CsrInstrOp) (top : BitVec 1) (csr : CsrAddr)
    (source : BitVec 5) (rd : RegAddr) (out : Decoded) :
    Decoder.sysInstr (iFormat csr source (top ++ op.code) rd 0b1110011#7) out =
      if top = 0#1 then
        { out with
          csrEn := true, rs1RdEn := true, srcAMux := .regRs1, srcCMux := .csrAddr, rdWrEn := true }
      else { out with csrEn := true, srcAMux := .immRs1, srcCMux := .csrAddr, rdWrEn := true } := by
  have isCsr : csrAny (iFormat csr source (top ++ op.code) rd 0b1110011#7) = true := by
    simp only [csrAny, csrrw, csrrs, csrrc, opcode_iFormat, funct3Low_iFormat]
    cases op <;> rfl
  have form : (top ++ op.code).getLsbD 2 = top.getLsbD 0 := by
    rw [BitVec.getLsbD_append, if_neg (by decide)]
  rcases BitVec.eq_zero_or_eq_one top with isZero | isOne
  · rw [sysInstr, isCsr, funct3_iFormat, form, isZero]
    rfl
  · rw [sysInstr, isCsr, funct3_iFormat, form, isOne]
    rfl

theorem Decoder.csrOp_iFormat (op : CsrInstrOp) (top : BitVec 1) (csr : CsrAddr)
    (source : BitVec 5) (rd : RegAddr) :
    Decoder.csrOp (iFormat csr source (top ++ op.code) rd 0b1110011#7) true =
      op.operation source := by
  simp only [csrOp, csrrw, csrrs, csrrc, opcode_iFormat, funct3Low_iFormat, rs1_iFormat]
  by_cases isZero : source = 0#5
  · subst isZero
    cases op <;> rfl
  · have notZero : (source == 0#5) = false := beq_false_of_ne isZero
    rw [notZero]
    cases op with
    | rw => rfl
    | rs => exact (if_neg isZero).symm
    | rc => exact (if_neg isZero).symm

namespace Instr

/-- The controls the decoder gives the instruction. -/
def controls (instr : Instr) : Decoded :=
  let out := Decoder.defaults instr.encode true
  match instr with
  | arith instr => instr.controls
  | divide op _ _ _ => Decoder.multDec out op.multOp
  | branch cond _ _ _ => Decoder.branchDec out cond.compare.1 cond.compare.2
  | jal _ _ => Decoder.jalInstr out
  | jalr _ _ _ =>
      { out with
        jalr := true, adderOpAMux := .regRs1, adderOpBMux := .immItype, srcAMux := .jump
        srcBMux := .tbt, compOp := .eq, adderOp := .sub, rs1RdEn := true, rdWrEn := true }
  | load _ _ _ _ => Decoder.loadInstr instr.encode out
  | store _ _ _ _ => Decoder.storeInstr instr.encode out
  | csrReg _ _ _ _ =>
      { out with
        csrEn := true, rs1RdEn := true, srcAMux := .regRs1, srcCMux := .csrAddr, rdWrEn := true }
  | csrImm _ _ _ _ =>
      { out with csrEn := true, srcAMux := .immRs1, srcCMux := .csrAddr, rdWrEn := true }
  | fence _ _ _ => out
  | fenceI _ _ _ => { out with fenceEn := true }
  | ecall => { out with ecallEn := true }
  | ebreak => { out with ebreakEn := true }
  | mret => { out with mretEn := true }
  | wfi => { out with wfiEn := true }

theorem decoder_encode (instr : Instr) : decoder instr.encode true = instr.controls := by
  cases instr with
  | arith instr => exact instr.decoder_encode
  | divide op rd rs1 rs2 =>
      simp only [decoder, encode, Decoder.instrClass, opcode_iFormat, Decoder.rtypeInstr,
        funct3_iFormat, funct7_iFormat]
      cases op <;> rfl
  | branch cond rs1 rs2 offset =>
      simp only [decoder, encode, Decoder.instrClass, bFormat, opcode_iFormat,
        Decoder.branchInstr, funct3_iFormat]
      cases cond <;> rfl
  | jal rd offset =>
      simp only [decoder, encode, Decoder.instrClass, jFormat, opcode_uFormat]
      rfl
  | jalr rd rs1 imm =>
      simp only [decoder, encode, Decoder.instrClass, opcode_iFormat, Decoder.jalrInstr,
        funct3_iFormat]
      rfl
  | load width rd rs1 imm =>
      simp only [decoder, encode, Decoder.instrClass, opcode_iFormat]
      rfl
  | store width rs1 rs2 imm =>
      simp only [decoder, encode, Decoder.instrClass, sFormat, opcode_iFormat]
      rfl
  | csrReg op rd csr rs1 =>
      simp only [decoder, encode, Decoder.instrClass, opcode_iFormat, Decoder.sysInstr_csr]
      rfl
  | csrImm op rd csr uimm =>
      simp only [decoder, encode, Decoder.instrClass, opcode_iFormat, Decoder.sysInstr_csr]
      rfl
  | fence fields rs1 rd =>
      simp only [decoder, encode, Decoder.instrClass, opcode_iFormat, Decoder.mismemInstr,
        funct3_iFormat]
      rfl
  | fenceI fields rs1 rd =>
      simp only [decoder, encode, Decoder.instrClass, opcode_iFormat, Decoder.mismemInstr,
        funct3_iFormat]
      rfl
  | ecall => rfl
  | ebreak => rfl
  | mret => rfl
  | wfi => rfl

theorem action_controls (instr : Instr) : instr.controls.action = some instr.action := by
  cases instr with
  | arith instr => exact instr.action_controls
  | divide op rd rs1 rs2 =>
      simp [controls, action, Decoded.action, Decoded.enables, Decoded.srcA, Decoded.srcB,
        Decoded.destination, Decoded.rs1Operand, Decoded.rs2Operand, Decoder.defaults, encode,
        Decoder.multDec, Decoder.aluRDec]
  | branch cond rs1 rs2 offset =>
      simp [controls, action, Decoded.action, Decoded.enables, Decoded.branchAction, Decoded.srcA,
        Decoded.srcB, Decoded.rs1Operand, Decoded.rs2Operand, Decoder.defaults, encode,
        Decoder.branchDec, immBtype_bFormat]
      simp [bFormat]
  | jal rd offset =>
      simp [controls, action, Decoded.action, Decoded.enables, Decoded.jumpAction,
        Decoded.jumpBase, Decoded.jumpOffset, Decoded.destination, Decoder.defaults, encode,
        Decoder.jalInstr, immJtype_jFormat]
      simp [jFormat]
  | jalr rd rs1 imm =>
      simp [controls, action, Decoded.action, Decoded.enables, Decoded.jumpAction,
        Decoded.jumpBase, Decoded.jumpOffset, Decoded.destination, Decoded.rs1Operand,
        Decoder.defaults, encode]
  | load width rd rs1 imm =>
      simp [controls, action, Decoded.action, Decoded.enables, Decoded.lsuAction, Decoded.srcA,
        Decoded.srcB, Decoded.destination, Decoded.rs1Operand, Decoder.defaults, encode,
        Decoder.loadInstr]
  | store width rs1 rs2 imm =>
      simp [controls, action, Decoded.action, Decoded.enables, Decoded.lsuAction, Decoded.srcA,
        Decoded.srcB, Decoded.rs1Operand, Decoded.rs2Operand, Decoder.defaults, encode,
        Decoder.storeInstr, immStype_sFormat]
      simp [sFormat]
  | csrReg op rd csr rs1 =>
      simp [controls, action, Decoded.action, Decoded.enables, Decoded.csrAction, Decoded.srcA,
        Decoded.destination, Decoded.rs1Operand, Decoder.defaults, encode, Decoder.csrOp_iFormat,
        extractLsb'_iFormat]
  | csrImm op rd csr uimm =>
      simp [controls, action, Decoded.action, Decoded.enables, Decoded.csrAction, Decoded.srcA,
        Decoded.destination, Decoder.defaults, encode, Decoder.immRs1, Decoder.csrOp_iFormat,
        extractLsb'_iFormat]
  | fence fields rs1 rd => rfl
  | fenceI fields rs1 rd => rfl
  | ecall => rfl
  | ebreak => rfl
  | mret => rfl
  | wfi => rfl

theorem action_decoder_encode (instr : Instr) :
    (decoder instr.encode true).action = some instr.action := by
  rw [decoder_encode]
  exact instr.action_controls

end Instr

end RiscvCore
