import RiscvCore.BranchPredict

/-!
# Predicted targets

The predictor and the pipeline agree on every direct branch and jump: the classes read off the
fetched bits are those the decoder finds after expansion, and the two immediates are the same.
-/

namespace RiscvCore

open BitLists (eq_of_bits bits bits_append bits_extractLsb' bits_signExtend getLsbD_scattered)

namespace BranchPredict

/-- Raw classes and an offset that agree with the outputs of the decoder.  The offset is the one
that the operand muxes select for the target. -/
structure Agrees (branch jump : Bool) (offset : Word) (dec : Decoded) : Prop where
  branch_eq : branch = dec.branch
  jump_eq : jump = dec.jal
  exclusive : dec.branch = true → dec.jal = false
  branchOffset : dec.branch = true → dec.srcCMux = .immBtype ∧ offset = dec.immBtype
  jumpOffset : dec.jal = true →
    dec.adderOpAMux = .pcId ∧ dec.adderOpBMux = .immJtype ∧ offset = dec.immJtype

namespace Agrees

variable {branch jump : Bool} {offset : Word}

/-- Nothing is asked about the offset of other instructions. -/
theorem other {dec : Decoded} (notBranch : branch = false) (notJump : jump = false)
    (decBranch : dec.branch = false) (decJal : dec.jal = false) :
    Agrees branch jump offset dec where
  branch_eq := notBranch.trans decBranch.symm
  jump_eq := notJump.trans decJal.symm
  exclusive := fun _ => decJal
  branchOffset := fun isBranch => absurd (decBranch.symm.trans isBranch) Bool.false_ne_true
  jumpOffset := fun isJal => absurd (decJal.symm.trans isJal) Bool.false_ne_true

theorem ofJal {rd : RegAddr} {places : BitVec 20} (notBranch : branch = false)
    (isJump : jump = true) (sameOffset : offset = Instr.byteOffset places) :
    Agrees branch jump offset (Instr.jal rd places).controls where
  branch_eq := notBranch
  jump_eq := isJump
  exclusive := fun isBranch => absurd isBranch Bool.false_ne_true
  branchOffset := fun isBranch => absurd isBranch Bool.false_ne_true
  jumpOffset := fun _ => ⟨rfl, rfl, sameOffset.trans (immJtype_jFormat rd _ places).symm⟩

theorem ofBranch {cond : BranchCond} {rs1 rs2 : RegAddr} {places : BitVec 12}
    (isBranch : branch = true) (notJump : jump = false)
    (sameOffset : offset = Instr.byteOffset places) :
    Agrees branch jump offset (Instr.branch cond rs1 rs2 places).controls where
  branch_eq := isBranch
  jump_eq := notJump
  exclusive := fun _ => rfl
  branchOffset := fun _ =>
    ⟨rfl, sameOffset.trans (immBtype_bFormat rs2 rs1 cond.funct3 _ places).symm⟩
  jumpOffset := fun isJal => absurd isJal Bool.false_ne_true

end Agrees

section Compressed

variable {instr : Word} {expanded : Instr}

theorem notDirect_of_quadrant (notOne : (lowHalf instr).quadrant ≠ 0b01#2) :
    rvcBranch instr = false ∧ rvcJump instr = false := by
  have other : ((lowHalf instr).quadrant == 0b01#2) = false := beq_false_of_ne notOne
  simp only [rvcBranch, rvcJump, rvcJal, rvcJ, quadrant_lowHalf, other, Bool.and_false,
    Bool.false_and, Bool.or_self, and_self]

/-- In quadrant 1 the class is that of `funct3`. -/
theorem direct_of_quadrant1 (isOne : (lowHalf instr).quadrant = 0b01#2) :
    rvcBranch instr =
        ((lowHalf instr).funct3 == 0b110#3 || (lowHalf instr).funct3 == 0b111#3) ∧
      rvcJump instr =
        ((lowHalf instr).funct3 == 0b001#3 || (lowHalf instr).funct3 == 0b101#3) := by
  simp only [rvcBranch, rvcJump, rvcJal, rvcJ, isRvc, quadrant_lowHalf, funct3_lowHalf, isOne]
  exact ⟨rfl, rfl⟩

theorem immCjType_eq : immCjType instr = Instr.byteOffset (lowHalf instr).jumpOffset := by
  unfold immCjType Instr.byteOffset Parcel.jumpOffset
  apply @eq_of_bits 32
  simp (disch := decide) only [extractLsb'_lowHalf, bits_append, bits_signExtend,
    bits_extractLsb', BitVec.msb_eq_getLsbD_last, BitVec.getLsbD_append, BitVec.getLsbD_signExtend,
    BitVec.getLsbD_extractLsb']
  simp (disch := decide) only [getLsbD_scattered, List.range, List.range.loop, List.map]
  rfl

theorem immCbType_eq : immCbType instr = Instr.byteOffset (lowHalf instr).branchOffset := by
  unfold immCbType Instr.byteOffset Parcel.branchOffset
  apply @eq_of_bits 32
  simp (disch := decide) only [extractLsb'_lowHalf, bits_append, bits_signExtend,
    bits_extractLsb', BitVec.msb_eq_getLsbD_last, BitVec.getLsbD_append, BitVec.getLsbD_signExtend,
    BitVec.getLsbD_extractLsb']
  simp (disch := decide) only [getLsbD_scattered, List.range, List.range.loop, List.map]
  rfl

/-- Bit 14 tells the branches of quadrant 1 from its jumps. -/
theorem bit14_eq : instr.getLsbD 14 = (lowHalf instr).funct3.getLsbD 1 := by
  rw [Parcel.funct3, lowHalf, BitVec.getLsbD_extractLsb', BitVec.getLsbD_extractLsb']
  rfl

theorem rvcImm_jump (isJump : (lowHalf instr).funct3.getLsbD 1 = false) :
    rvcImm instr = Instr.byteOffset (lowHalf instr).jumpOffset := by
  rw [rvcImm, bit14_eq, isJump]
  exact immCjType_eq

theorem rvcImm_branch (isBranch : (lowHalf instr).funct3.getLsbD 1 = true) :
    rvcImm instr = Instr.byteOffset (lowHalf instr).branchOffset := by
  rw [rvcImm, bit14_eq, isBranch]
  exact immCbType_eq

theorem agrees_of_row0 (isZero : (lowHalf instr).quadrant = 0b00#2)
    (found : (lowHalf instr).row0 = some expanded) :
    Agrees (rvcBranch instr) (rvcJump instr) (rvcImm instr) expanded.controls := by
  have notDirect := @notDirect_of_quadrant instr (by rw [isZero]; decide)
  unfold Parcel.row0 at found
  split at found <;> cases found <;> exact .other notDirect.1 notDirect.2 rfl rfl

theorem agrees_of_row2 (isTwo : (lowHalf instr).quadrant = 0b10#2)
    (found : (lowHalf instr).row2 = some expanded) :
    Agrees (rvcBranch instr) (rvcJump instr) (rvcImm instr) expanded.controls := by
  have notDirect := @notDirect_of_quadrant instr (by rw [isTwo]; decide)
  unfold Parcel.row2 at found
  split at found
  case h_3 =>
    cases found
    unfold Parcel.row2Jump
    (repeat' split) <;> exact .other notDirect.1 notDirect.2 rfl rfl
  all_goals cases found <;> exact .other notDirect.1 notDirect.2 rfl rfl

theorem agrees_of_row1 (isOne : (lowHalf instr).quadrant = 0b01#2)
    (found : (lowHalf instr).row1 = some expanded) :
    Agrees (rvcBranch instr) (rvcJump instr) (rvcImm instr) expanded.controls := by
  obtain ⟨branch, jump⟩ := direct_of_quadrant1 isOne
  unfold Parcel.row1 at found
  split at found
  case h_1 isAddi =>
    cases found
    rw [isAddi] at branch jump
    exact .other branch jump rfl rfl
  case h_2 isJal =>
    cases found
    rw [isJal] at branch jump
    have offset := @rvcImm_jump instr (by rw [isJal]; decide)
    exact .ofJal branch jump offset
  case h_3 isLi =>
    cases found
    rw [isLi] at branch jump
    exact .other branch jump rfl rfl
  case h_4 isLui =>
    rw [isLui] at branch jump
    split at found <;> cases found <;> exact .other branch jump rfl rfl
  case h_5 isAlu =>
    rw [isAlu] at branch jump
    unfold Parcel.row1Alu at found
    (repeat' split at found) <;> cases found <;> exact .other branch jump rfl rfl
  case h_6 isJ =>
    cases found
    rw [isJ] at branch jump
    exact .ofJal branch jump (rvcImm_jump (by rw [isJ]; decide))
  case h_7 isBeqz =>
    cases found
    rw [isBeqz] at branch jump
    exact .ofBranch branch jump (rvcImm_branch (by rw [isBeqz]; decide))
  case h_8 notAddi notJal notLi notLui notAlu notJ notBeqz =>
    have isBnez : (lowHalf instr).funct3 = 0b111#3 :=
      CompressDecoder.eq_seven notAddi notJal notLi notLui notAlu notJ notBeqz
    cases found
    rw [isBnez] at branch jump
    exact .ofBranch branch jump (rvcImm_branch (by rw [isBnez]; decide))

theorem agrees_of_row (found : (lowHalf instr).row = some expanded) :
    Agrees (rvcBranch instr) (rvcJump instr) (rvcImm instr) expanded.controls := by
  unfold Parcel.row at found
  split at found
  case h_1 isZero => exact agrees_of_row0 isZero found
  case h_2 isOne => exact agrees_of_row1 isOne found
  case h_3 isTwo => exact agrees_of_row2 isTwo found
  case h_4 => cases found

end Compressed

section Full

variable (instr : Word)

theorem immJtype_eq : immJtype instr = Decoder.immJtype instr := by
  unfold immJtype Decoder.immJtype
  apply @eq_of_bits 32
  simp (disch := decide) only [bits_append, bits_signExtend, bits_extractLsb',
    BitVec.msb_eq_getLsbD_last, BitVec.getLsbD_append, BitVec.getLsbD_extractLsb']
  rfl

theorem immBtype_eq : immBtype instr = Decoder.immBtype instr := by
  unfold immBtype Decoder.immBtype
  apply @eq_of_bits 32
  simp (disch := decide) only [bits_append, bits_signExtend, bits_extractLsb',
    BitVec.msb_eq_getLsbD_last, BitVec.getLsbD_append, BitVec.getLsbD_extractLsb']
  rfl

theorem bit2_eq : instr.getLsbD 2 = (Decoder.opcode instr).getLsbD 2 := by
  rw [Decoder.opcode, BitVec.getLsbD_extractLsb']
  rfl

theorem rvBranch_eq : rvBranch instr = (Decoder.opcode instr == opcodeBranch) := rfl

theorem rvJump_eq : rvJump instr = (Decoder.opcode instr == opcodeJal) := rfl

end Full

theorem notDirect_controls (instr : ArithInstr) :
    instr.controls.branch = false ∧ instr.controls.jal = false := by
  cases instr with
  | opImm op rd rs1 imm => cases op <;> exact ⟨rfl, rfl⟩
  | reg op rd rs1 rs2 => cases op <;> exact ⟨rfl, rfl⟩
  | _ => exact ⟨rfl, rfl⟩

theorem agrees_of_encode (expanded : Instr) :
    Agrees (rvBranch expanded.encode) (rvJump expanded.encode) (rvImm expanded.encode)
      expanded.controls := by
  cases expanded with
  | branch cond rs1 rs2 offset =>
      have isBranch : Decoder.opcode (Instr.branch cond rs1 rs2 offset).encode = opcodeBranch :=
        opcode_iFormat ..
      apply Agrees.ofBranch
      · rw [rvBranch_eq, isBranch]
        rfl
      · rw [rvJump_eq, isBranch]
        rfl
      · rw [rvImm, bit2_eq, isBranch]
        exact (immBtype_eq _).trans (immBtype_bFormat ..)
  | jal rd offset =>
      have isJal : Decoder.opcode (Instr.jal rd offset).encode = opcodeJal := opcode_uFormat ..
      apply Agrees.ofJal
      · rw [rvBranch_eq, isJal]
        rfl
      · rw [rvJump_eq, isJal]
        rfl
      · rw [rvImm, bit2_eq, isJal]
        exact (immJtype_eq _).trans (immJtype_jFormat ..)
  | arith instr =>
      apply Agrees.other
      · rw [rvBranch_eq]
        cases instr <;> simp [Instr.encode, ArithInstr.encode, opcodeBranch]
      · rw [rvJump_eq]
        cases instr <;> simp [Instr.encode, ArithInstr.encode, opcodeJal]
      · exact (notDirect_controls instr).1
      · exact (notDirect_controls instr).2
  | _ =>
      apply Agrees.other
      · rw [rvBranch_eq]
        simp [Instr.encode, sFormat, opcodeBranch]
      · rw [rvJump_eq]
        simp [Instr.encode, sFormat, opcodeJal]
      · rfl
      · rfl

/-- A fetched word that begins with a legal instruction of either length. -/
def Legal (instr : Word) : Prop :=
  (∃ expanded, (lowHalf instr).expand = some expanded) ∨ instr.Encodes

/-- The low bits of an opcode are those of the word. -/
theorem quadrant_opcode (instr : Word) :
    instr.extractLsb' 0 2 = (Decoder.opcode instr).extractLsb' 0 2 :=
  (BitVec.extractLsb'_extractLsb'_of_le (by decide)).symm

theorem isRvc_encode (expanded : Instr) : isRvc expanded.encode = false := by
  rw [isRvc, quadrant_opcode]
  cases expanded with
  | arith instr => cases instr <;> simp [Instr.encode, ArithInstr.encode]
  | _ => simp [Instr.encode, sFormat, bFormat, jFormat]

theorem isRvc_of_row {instr : Word} {expanded : Instr}
    (found : (lowHalf instr).row = some expanded) : isRvc instr = true := by
  rw [isRvc, quadrant_lowHalf]
  unfold Parcel.row at found
  split at found
  case h_4 => cases found
  all_goals rename_i isQuadrant; rw [isQuadrant]; rfl

/-- The two kinds of classes exclude each other. -/
theorem notFull_of_isRvc {instr : Word} (compressed : isRvc instr = true) :
    rvBranch instr = false ∧ rvJump instr = false ∧ rvJalr instr = false := by
  have differs : ∀ code : BitVec 7, code.extractLsb' 0 2 = 0b11#2 →
      (Decoder.opcode instr == code) = false := by
    intro code isFull
    apply beq_false_of_ne
    rintro rfl
    rw [isRvc, quadrant_opcode, isFull] at compressed
    cases compressed
  exact ⟨differs _ (by decide), differs _ (by decide), differs _ (by decide)⟩

theorem notRvc_of_full {instr : Word} (full : isRvc instr = false) :
    rvcBranch instr = false ∧ rvcJump instr = false ∧ rvcJalr instr = false ∧
      rvcJr instr = false := by
  simp [rvcBranch, rvcJump, rvcJal, rvcJ, rvcJalr, rvcJr, isJalR, full]

/-- The classes of either length against the decoder behind the expander. -/
theorem agrees_of_legal {instr : Word} (legal : Legal instr) :
    Agrees (rvcBranch instr || rvBranch instr) (rvcJump instr || rvJump instr) (imm instr)
      (decoder (compressDecoder instr).1 true) := by
  rcases legal with ⟨expanded, expands⟩ | ⟨expanded, rfl⟩
  · have found := Parcel.row_of_expand expands
    have compressed := isRvc_of_row found
    obtain ⟨notBranch, notJump, -⟩ := notFull_of_isRvc compressed
    rw [compressDecoder_row found, expanded.decoder_encode, notBranch, notJump, Bool.or_false,
      Bool.or_false, imm, compressed]
    exact agrees_of_row found
  · have full := isRvc_encode expanded
    obtain ⟨notBranch, notJump, -⟩ := notRvc_of_full full
    have isFull : expanded.encode.extractLsb' 0 2 = 0b11#2 := by
      simpa [isRvc] using full
    rw [compressDecoder_full isFull, expanded.decoder_encode, notBranch, notJump, Bool.false_or,
      Bool.false_or, imm, full]
    exact agrees_of_encode expanded

/-- The direct compressed classes are those of quadrant 1, the indirect ones of quadrant 2. -/
theorem notIndirect_of_compressed {instr : Word}
    (direct : rvcBranch instr = true ∨ rvcJump instr = true) :
    rvcJalr instr = false ∧ rvcJr instr = false := by
  have isOne : instr.extractLsb' 0 2 = 0b01#2 := by
    simp only [rvcBranch, rvcJump, rvcJal, rvcJ, Bool.or_eq_true, Bool.and_eq_true,
      beq_iff_eq] at direct
    rcases direct with branch | jal | j
    · exact branch.1.2
    · exact jal.1.2
    · exact j.1.2
  have notTwo : isJalR instr = false := by
    rw [isJalR, isOne]
    rfl
  rw [rvcJalr, rvcJr, notTwo, Bool.false_and, Bool.false_and]
  exact ⟨rfl, rfl⟩

theorem notIndirect_of_full {instr : Word}
    (direct : rvBranch instr = true ∨ rvJump instr = true) : rvJalr instr = false := by
  simp only [rvBranch, rvJump, beq_iff_eq] at direct
  rcases direct with isBranch | isJal
  · rw [rvJalr, isBranch]
    rfl
  · rw [rvJalr, isJal]
    rfl

/-- A direct branch or jump is not also taken for an indirect one. -/
theorem isJalr_of_direct {port : Input} (direct : isBranch port = true ∨ isJump port = true) :
    isJalr port = false := by
  have notIndirect : (rvcJalr port.fetchRdata || rvcJr port.fetchRdata ||
      rvJalr port.fetchRdata) = false := by
    simp only [isBranch, isJump, Bool.and_eq_true, Bool.or_eq_true] at direct
    cases compressed : isRvc port.fetchRdata with
    | true =>
        obtain ⟨notBranch, notJump, notJalr⟩ := notFull_of_isRvc compressed
        rw [notBranch, notJump] at direct
        obtain ⟨noJalr, noJr⟩ := notIndirect_of_compressed
          (direct.imp (fun branch => branch.2.resolve_right Bool.false_ne_true)
            fun jump => jump.2.resolve_right Bool.false_ne_true)
        rw [noJalr, noJr, notJalr]
        rfl
    | false =>
        obtain ⟨notBranch, notJump, noJalr, noJr⟩ := notRvc_of_full compressed
        rw [notBranch, notJump] at direct
        have notJalr := notIndirect_of_full
          (direct.imp (fun branch => branch.2.resolve_left Bool.false_ne_true)
            fun jump => jump.2.resolve_left Bool.false_ne_true)
        rw [noJalr, noJr, notJalr]
        rfl
  rw [isJalr, notIndirect, Bool.and_false, Bool.false_and]

/-- The predictor recognises exactly the conditional branches and the direct jumps among the legal
instructions of both lengths, and predicts the target that EX and ID compute for them. -/
theorem predict_agrees (port : Input) (fetched : port.fetchValid = true)
    (legal : Legal port.fetchRdata) :
    let dec := decoder (compressDecoder port.fetchRdata).1 true
    (isBranch port = dec.branch ∧ isJump port = dec.jal) ∧
      (dec.branch = true → ∀ idEx ifs rs1RdData rs2RdData tag,
        (predict port).2 = ExStage.adder1Result
          { IdStage.issued idEx ifs dec rs1RdData rs2RdData tag with pcEx := port.fetchPc }) ∧
      (dec.jal = true → ∀ rs1RdData,
        (predict port).2 = IdStage.jumpTarget dec port.fetchPc rs1RdData) := by
  intro dec
  have agrees : Agrees _ _ _ dec := agrees_of_legal legal
  have branch : isBranch port = dec.branch := by
    rw [isBranch, fetched, agrees.branch_eq, Bool.true_and]
  have jump : isJump port = dec.jal := by
    rw [isJump, fetched, agrees.jump_eq, Bool.true_and]
  refine ⟨⟨branch, jump⟩, fun decBranch idEx ifs rs1RdData rs2RdData tag => ?_,
    fun decJal rs1RdData => ?_⟩
  · obtain ⟨mux, sameOffset⟩ := agrees.branchOffset decBranch
    have notJalr := isJalr_of_direct (.inl (branch.trans decBranch))
    have isPc : (predict port).2 = port.fetchPc + dec.immBtype := by
      rw [predict, branch, jump, decBranch, agrees.exclusive decBranch, notJalr, bhtAddr,
        sameOffset]
    rw [isPc, ExStage.adder1Result, rvAdder_add, IdStage.issued, IdStage.srcCId, mux]
  · obtain ⟨muxA, muxB, sameOffset⟩ := agrees.jumpOffset decJal
    have notJalr := isJalr_of_direct (.inr (jump.trans decJal))
    have notBranch : dec.branch = false := by
      cases isBranch : dec.branch with
      | false => rfl
      | true =>
          rw [agrees.exclusive isBranch] at decJal
          cases decJal
    have isPc : (predict port).2 = port.fetchPc + dec.immJtype := by
      rw [predict, branch, jump, decJal, notBranch, notJalr, jumpAddr, sameOffset]
    rw [isPc, IdStage.jumpTarget, rvAdder_add, muxA, muxB]

/-- A `c.beqz` at `0x100`, 8 bytes back, with other bits above it. -/
def beqzBack : Input where
  enaJump := false
  enaRas := false
  fetchPc := 0x100#32
  fetchRdata := 0xabcddc65#32
  fetchValid := true
  bhtPredict := true
  btbPredict := false
  btbAddr := 0#31

theorem predict_agrees_beqzBack :
    (predict beqzBack).2 = 0xf8#32 ∧ (predict beqzBack).2 = ExStage.adder1Result
      { IdStage.issued IdEx.reset (IfStage.reset 0#32)
          (decoder (compressDecoder beqzBack.fetchRdata).1 true) 0#32 0#32 0#2 with
        pcEx := 0x100#32 } :=
  ⟨by decide, (predict_agrees beqzBack rfl (.inl ⟨_, rfl⟩)).2.1 (by decide) ..⟩

end BranchPredict

end RiscvCore
