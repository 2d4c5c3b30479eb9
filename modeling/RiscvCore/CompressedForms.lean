import RiscvCore.LegalWords

/-!
# Compressed instructions

The expansion of a legal compressed parcel is the machine word of the instruction that the parcel
abbreviates.  Each format scatters its immediate in its own way, and the 32-bit format scatters it
again; two such words are equal bit by bit.
-/

namespace RiscvCore

open BitLists (eq_of_bits bits bits_append bits_extractLsb' bits_not bits_signExtend
  bits_scattered getLsbD_scattered)

/-- The low half of a fetched word. -/
def lowHalf (instr : Word) : Parcel := instr.extractLsb' 0 16

/-- Low fields of the word are those of its low half. -/
theorem extractLsb'_lowHalf {instr : Word} {start len : Nat} (inside : start + len ≤ 16) :
    instr.extractLsb' start len = (lowHalf instr).extractLsb' start len :=
  (BitVec.extractLsb'_extractLsb'_of_le inside).symm

theorem quadrant_lowHalf {instr : Word} : instr.extractLsb' 0 2 = (lowHalf instr).quadrant :=
  extractLsb'_lowHalf (by decide)

theorem funct3_lowHalf {instr : Word} : instr.extractLsb' 13 3 = (lowHalf instr).funct3 :=
  extractLsb'_lowHalf (by decide)

namespace CompressDecoder

section Rows

variable (instr : Word)

theorem slice_eq (hi lo : Nat) (inside : lo + (hi - lo + 1) ≤ 16) :
    slice instr hi lo = (lowHalf instr).extractLsb' lo (hi - lo + 1) :=
  extractLsb'_lowHalf inside

theorem regPrime_eq {lo : Nat} (inside : lo + 3 ≤ 16) :
    regPrime instr lo = 0b01#2 ++ (lowHalf instr).extractLsb' lo 3 := by
  rw [regPrime, extractLsb'_lowHalf inside]

theorem regPrime_seven : regPrime instr 7 = (lowHalf instr).rs1Prime :=
  regPrime_eq instr (by decide)

theorem regPrime_two : regPrime instr 2 = (lowHalf instr).rs2Prime :=
  regPrime_eq instr (by decide)

theorem funct3_eq : slice instr 15 13 = (lowHalf instr).funct3 := funct3_lowHalf

theorem rd_eq : slice instr 11 7 = (lowHalf instr).rd := slice_eq instr 11 7 (by decide)

theorem rs2_eq : slice instr 6 2 = (lowHalf instr).rs2 := slice_eq instr 6 2 (by decide)

theorem bit12_eq : slice instr 12 12 = (lowHalf instr).extractLsb' 12 1 :=
  slice_eq instr 12 12 (by decide)

theorem addi4spn_imm :
    (0#2 ++ slice instr 10 7 ++ slice instr 12 11 ++ slice instr 5 5 ++ slice instr 6 6 ++
      0#2 : BitVec 12) = (lowHalf instr).unsigned Parcel.addi4spnPlaces := by
  apply @eq_of_bits 12
  simp (disch := decide) only [slice_eq, bits_append, bits_extractLsb', Parcel.unsigned,
    bits_scattered]
  rfl

theorem lw_imm :
    (0#5 ++ slice instr 5 5 ++ slice instr 12 10 ++ slice instr 6 6 ++ 0#2 : BitVec 12) =
      (lowHalf instr).unsigned Parcel.wordPlaces := by
  apply @eq_of_bits 12
  simp (disch := decide) only [slice_eq, bits_append, bits_extractLsb', Parcel.unsigned,
    bits_scattered]
  rfl

theorem lwsp_imm :
    (0#4 ++ slice instr 3 2 ++ slice instr 12 12 ++ slice instr 6 4 ++ 0#2 : BitVec 12) =
      (lowHalf instr).unsigned Parcel.lwspPlaces := by
  apply @eq_of_bits 12
  simp (disch := decide) only [slice_eq, bits_append, bits_extractLsb', Parcel.unsigned,
    bits_scattered]
  rfl

theorem signed_imm :
    (signBits instr 6 ++ slice instr 12 12 ++ slice instr 6 2 : BitVec 12) =
      (lowHalf instr).imm.signExtend 12 := by
  apply @eq_of_bits 12
  simp (disch := decide) only [signBits, slice_eq, bits_append, bits_extractLsb', Parcel.imm,
    bits_signExtend, bits_scattered, BitVec.msb_eq_getLsbD_last, getLsbD_scattered,
    BitVec.getLsbD_extractLsb']
  rfl

theorem lui_imm :
    (signBits instr 15 ++ slice instr 6 2 : BitVec 20) = (lowHalf instr).imm.signExtend 20 := by
  apply @eq_of_bits 20
  simp (disch := decide) only [signBits, slice_eq, bits_append, bits_extractLsb', Parcel.imm,
    bits_signExtend, bits_scattered, BitVec.msb_eq_getLsbD_last, getLsbD_scattered,
    BitVec.getLsbD_extractLsb']
  rfl

theorem addi16sp_imm :
    (signBits instr 3 ++ slice instr 4 3 ++ slice instr 5 5 ++ slice instr 2 2 ++
      slice instr 6 6 ++ 0#4 : BitVec 12) =
      (BitLists.scattered (lowHalf instr) Parcel.addi16spPlaces 10).signExtend 12 := by
  apply @eq_of_bits 12
  simp (disch := decide) only [signBits, slice_eq, bits_append, bits_extractLsb',
    bits_signExtend, bits_scattered, BitVec.msb_eq_getLsbD_last, getLsbD_scattered,
    BitVec.getLsbD_extractLsb']
  rfl

theorem shamt : slice instr 6 2 = (lowHalf instr).imm.extractLsb' 0 5 := by
  apply @eq_of_bits 5
  simp (disch := decide) only [slice_eq, bits_extractLsb', Parcel.imm, getLsbD_scattered,
    List.range, List.range.loop, List.map]
  rfl

theorem sw_word :
    (0#5 ++ slice instr 5 5 ++ slice instr 12 12 ++ regPrime instr 2 ++ regPrime instr 7 ++
      0b010#3 ++ slice instr 11 10 ++ slice instr 6 6 ++ 0#2 ++ opcodeStore : Word) =
      sFormat ((lowHalf instr).unsigned Parcel.wordPlaces) (lowHalf instr).rs2Prime
        (lowHalf instr).rs1Prime 0b010#3 opcodeStore := by
  unfold sFormat iFormat
  apply @eq_of_bits 32
  simp (disch := decide) only [slice_eq, regPrime_seven, regPrime_two, bits_append,
    bits_extractLsb', Parcel.unsigned]
  simp (disch := decide) only [getLsbD_scattered, List.range, List.range.loop, List.map]
  rfl

theorem swsp_word :
    (0#4 ++ slice instr 8 7 ++ slice instr 12 12 ++ slice instr 6 2 ++ 2#5 ++ 0b010#3 ++
      slice instr 11 9 ++ 0#2 ++ opcodeStore : Word) =
      sFormat ((lowHalf instr).unsigned Parcel.swspPlaces) (lowHalf instr).rs2 Parcel.sp
        0b010#3 opcodeStore := by
  unfold sFormat iFormat
  apply @eq_of_bits 32
  simp (disch := decide) only [slice_eq, bits_append, bits_extractLsb', Parcel.unsigned,
    Parcel.rs2]
  simp (disch := decide) only [getLsbD_scattered, List.range, List.range.loop, List.map]
  rfl

theorem branch_word :
    (signBits instr 4 ++ slice instr 6 5 ++ slice instr 2 2 ++ 0#5 ++ regPrime instr 7 ++
      0b00#2 ++ slice instr 13 13 ++ slice instr 11 10 ++ slice instr 4 3 ++
      slice instr 12 12 ++ opcodeBranch : Word) =
      bFormat (lowHalf instr).branchOffset 0#5 (lowHalf instr).rs1Prime
        (0b00#2 ++ (lowHalf instr).extractLsb' 13 1) opcodeBranch := by
  unfold bFormat iFormat
  apply @eq_of_bits 32
  simp (disch := decide) only [signBits, slice_eq, regPrime_seven, bits_append, bits_extractLsb',
    bits_signExtend, Parcel.branchOffset, BitVec.getLsbD_signExtend, BitVec.getLsbD_extractLsb',
    BitVec.msb_eq_getLsbD_last]
  simp (disch := decide) only [getLsbD_scattered, List.range, List.range.loop, List.map]
  rfl

theorem jump_word :
    (slice instr 12 12 ++ slice instr 8 8 ++ slice instr 10 9 ++ slice instr 6 6 ++
      slice instr 7 7 ++ slice instr 2 2 ++ slice instr 11 11 ++ slice instr 5 3 ++
      signBits instr 9 ++ 0#4 ++ ~~~slice instr 15 15 ++ opcodeJal : Word) =
      jFormat (lowHalf instr).jumpOffset (0#4 ++ ~~~(lowHalf instr).extractLsb' 15 1)
        opcodeJal := by
  unfold jFormat uFormat
  apply @eq_of_bits 32
  simp (disch := decide) only [signBits, slice_eq, bits_append, bits_not, bits_signExtend,
    bits_extractLsb', Parcel.jumpOffset, BitVec.getLsbD_signExtend, BitVec.getLsbD_extractLsb',
    BitVec.msb_eq_getLsbD_last]
  simp (disch := decide) only [getLsbD_scattered, List.range, List.range.loop, List.map]
  rfl

end Rows

/-! ## Expansion of the quadrants -/

section Quadrants

variable {instr : Word} {expanded : Instr}

theorem quadrant0_row (found : (lowHalf instr).row0 = some expanded) :
    (quadrant0 instr).1 = expanded.encode := by
  rw [quadrant0, funct3_eq]
  unfold Parcel.row0 at found
  split at found
  case h_1 isAddi4spn =>
    cases found
    rw [isAddi4spn, Instr.encode, ArithInstr.encode, iFormat, ← addi4spn_imm, ← regPrime_two]
    rfl
  case h_2 isLw =>
    cases found
    rw [isLw, Instr.encode, iFormat, ← lw_imm, ← regPrime_two, ← regPrime_seven]
    rfl
  case h_3 isSw =>
    cases found
    rw [isSw]
    exact sw_word instr
  case h_4 => cases found

/-- Bit 10 of a shift right becomes bit 30, which tells the two shifts apart. -/
theorem rightShift_word {op : ShiftOp} (right : op ≠ .sll)
    (kind : slice instr 11 10 = if op = .sra then 0b01#2 else 0b00#2) :
    (0#1 ++ slice instr 10 10 ++ 0#5 ++ slice instr 6 2 ++ regPrime instr 7 ++ 0b101#3 ++
      regPrime instr 7 ++ opcodeOpImm : Word) =
      (Instr.arith (.shiftImm op (lowHalf instr).rs1Prime (lowHalf instr).rs1Prime
        ((lowHalf instr).imm.extractLsb' 0 5))).encode := by
  have bit : slice instr 10 10 = if op = .sra then 1#1 else 0#1 := by
    have low : slice instr 10 10 = (slice instr 11 10).extractLsb' 0 1 := by
      apply @eq_of_bits 1
      simp (disch := decide) only [slice, bits_extractLsb', BitVec.getLsbD_extractLsb', List.range,
        List.range.loop, List.map]
      rfl
    rw [low, kind]
    cases op <;> rfl
  rw [bit, shamt, regPrime_seven]
  cases op with
  | sll => exact absurd rfl right
  | srl => rfl
  | sra => rfl

theorem reg_word (funct7 : BitVec 7) (funct3 : BitVec 3) :
    (funct7 ++ regPrime instr 2 ++ regPrime instr 7 ++ funct3 ++ regPrime instr 7 ++
      opcodeOp : Word) =
      iFormat (funct7 ++ (lowHalf instr).rs2Prime) (lowHalf instr).rs1Prime funct3
        (lowHalf instr).rs1Prime opcodeOp := by
  rw [regPrime_seven, regPrime_two]
  rfl

theorem quadrant1Alu_row (expands : (lowHalf instr).row1Alu = some expanded) :
    (quadrant1Alu instr).1 = expanded.encode := by
  unfold Parcel.row1Alu at expands
  rw [← slice_eq instr 11 10 (by decide), ← slice_eq instr 12 12 (by decide),
    ← slice_eq instr 6 5 (by decide)] at expands
  unfold quadrant1Alu
  dsimp only
  split at expands
  case h_1 isSrli =>
    cases expands
    rw [if_pos (.inl isSrli)]
    exact rightShift_word (by decide : ShiftOp.srl ≠ .sll) isSrli
  case h_2 isSrai =>
    cases expands
    rw [if_pos (.inr isSrai)]
    exact rightShift_word (by decide : ShiftOp.sra ≠ .sll) isSrai
  case h_3 isAndi =>
    cases expands
    rw [isAndi, Instr.encode, ArithInstr.encode, iFormat, ← signed_imm, ← regPrime_seven]
    rfl
  case h_4 notSrli notSrai notAndi =>
    rw [if_neg (not_or.mpr ⟨notSrli, notSrai⟩), if_neg notAndi]
    split at expands
    case h_1 isZero isSub =>
      cases expands
      rw [isZero, isSub]
      exact reg_word _ _
    case h_2 isZero isXor =>
      cases expands
      rw [isZero, isXor]
      exact reg_word _ _
    case h_3 isZero isOr =>
      cases expands
      rw [isZero, isOr]
      exact reg_word _ _
    case h_4 isZero isAnd =>
      cases expands
      rw [isZero, isAnd]
      exact reg_word _ _
    case h_5 => cases expands

/-- Bit 15 is the top of `funct3`; it tells `c.jal` from `c.j`. -/
theorem bit15_eq : (lowHalf instr).extractLsb' 15 1 = (lowHalf instr).funct3.extractLsb' 2 1 := by
  apply @eq_of_bits 1
  simp (disch := decide) only [bits_extractLsb', Parcel.funct3, BitVec.getLsbD_extractLsb',
    List.range, List.range.loop, List.map]
  rfl

theorem bit13_eq : (lowHalf instr).extractLsb' 13 1 = (lowHalf instr).funct3.extractLsb' 0 1 := by
  apply @eq_of_bits 1
  simp (disch := decide) only [bits_extractLsb', Parcel.funct3, BitVec.getLsbD_extractLsb',
    List.range, List.range.loop, List.map]
  rfl

theorem eq_seven {code : BitVec 3} (not0 : code ≠ 0#3) (not1 : code ≠ 1#3) (not2 : code ≠ 2#3)
    (not3 : code ≠ 3#3) (not4 : code ≠ 4#3) (not5 : code ≠ 5#3) (not6 : code ≠ 6#3) :
    code = 7#3 := by
  bv_omega

theorem quadrant1_row (expands : (lowHalf instr).row1 = some expanded) :
    (quadrant1 instr).1 = expanded.encode := by
  unfold Parcel.row1 at expands
  unfold quadrant1
  dsimp only
  rw [funct3_eq, rd_eq]
  split at expands
  case h_1 isAddi =>
    cases expands
    rw [isAddi, Instr.encode, ArithInstr.encode, iFormat, ← signed_imm]
    rfl
  case h_2 isJal =>
    cases expands
    rw [isJal, jump_word, bit15_eq, isJal]
    rfl
  case h_3 isLi =>
    cases expands
    rw [isLi, Instr.encode, ArithInstr.encode, iFormat, ← signed_imm]
    rfl
  case h_4 isLui =>
    rw [isLui]
    split at expands
    case isTrue isSp =>
      cases expands
      rw [isSp, Instr.encode, ArithInstr.encode, iFormat, ← addi16sp_imm]
      rfl
    case isFalse notSp =>
      have notTwo : (lowHalf instr).rd ≠ 2#5 := notSp
      cases expands
      rw [if_neg (by decide), if_neg (by decide), if_neg (by decide), if_pos rfl, if_neg notTwo,
        Instr.encode, ArithInstr.encode, uFormat, ← lui_imm]
      rfl
  case h_5 isAlu =>
    rw [isAlu]
    exact quadrant1Alu_row expands
  case h_6 isJ =>
    cases expands
    rw [isJ, jump_word, bit15_eq, isJ]
    rfl
  case h_7 isBeqz =>
    cases expands
    rw [isBeqz, branch_word, bit13_eq, isBeqz]
    rfl
  case h_8 notAddi notJal notLi notLui notAlu notJ notBeqz =>
    have isBnez : (lowHalf instr).funct3 = 0b111#3 :=
      eq_seven notAddi notJal notLi notLui notAlu notJ notBeqz
    cases expands
    rw [isBnez, branch_word, bit13_eq, isBnez]
    rfl

theorem quadrant2Jump_row : (quadrant2Jump instr).1 = (lowHalf instr).row2Jump.encode := by
  rw [quadrant2Jump, Parcel.row2Jump, bit12_eq, rs2_eq, rd_eq]
  by_cases isZero : (lowHalf instr).extractLsb' 12 1 = 0#1
  · rw [if_pos isZero, if_pos isZero]
    by_cases isJr : (lowHalf instr).rs2 = 0#5
    · rw [if_pos isJr, if_pos isJr]
      rfl
    · rw [if_neg isJr, if_neg isJr]
      rfl
  · rw [if_neg isZero, if_neg isZero]
    by_cases noSource : (lowHalf instr).rs2 = 0#5
    · rw [if_pos noSource, if_pos noSource]
      by_cases isEbreak : (lowHalf instr).rd = 0#5
      · rw [if_pos isEbreak, if_pos isEbreak, if_neg (fun differs => differs noSource)]
        rfl
      · rw [if_neg isEbreak, if_neg isEbreak]
        rfl
    · rw [if_neg noSource, if_neg noSource, if_pos noSource]
      -- with `x0` as destination the expander flags the hint and expands it all the same
      split <;> rfl

theorem quadrant2_row (expands : (lowHalf instr).row2 = some expanded) :
    (quadrant2 instr).1 = expanded.encode := by
  unfold Parcel.row2 at expands
  unfold quadrant2
  dsimp only
  rw [funct3_eq, rd_eq]
  split at expands
  case h_1 isSlli =>
    cases expands
    rw [isSlli, shamt]
    rfl
  case h_2 isLwsp =>
    cases expands
    rw [isLwsp, Instr.encode, iFormat, ← lwsp_imm]
    rfl
  case h_3 isJump =>
    cases expands
    rw [isJump]
    exact quadrant2Jump_row
  case h_4 isSwsp =>
    cases expands
    rw [isSwsp]
    exact swsp_word instr
  case h_5 => cases expands

theorem quadrant0_noRow (noRow : (lowHalf instr).row0 = none) :
    quadrant0 instr = (0#32, true) := by
  rw [quadrant0, funct3_eq]
  unfold Parcel.row0 at noRow
  split at noRow
  case h_4 notAddi4spn notLw notSw => rw [if_neg notAddi4spn, if_neg notLw, if_neg notSw]
  all_goals cases noRow

theorem quadrant1Alu_noRow (noRow : (lowHalf instr).row1Alu = none) :
    quadrant1Alu instr = (0#32, true) := by
  unfold Parcel.row1Alu at noRow
  rw [← slice_eq instr 11 10 (by decide), ← slice_eq instr 12 12 (by decide),
    ← slice_eq instr 6 5 (by decide)] at noRow
  unfold quadrant1Alu
  dsimp only
  split at noRow
  case h_4 notSrli notSrai notAndi =>
    rw [if_neg (not_or.mpr ⟨notSrli, notSrai⟩), if_neg notAndi]
    split at noRow
    case h_5 notSub notXor notOr notAnd =>
      rw [if_neg fun isSub => notSub isSub.1 isSub.2, if_neg fun isXor => notXor isXor.1 isXor.2,
        if_neg fun isOr => notOr isOr.1 isOr.2, if_neg fun isAnd => notAnd isAnd.1 isAnd.2]
    all_goals cases noRow
  all_goals cases noRow

/-- Only the register forms of quadrant 1 have free rows. -/
theorem quadrant1_noRow (noRow : (lowHalf instr).row1 = none) :
    quadrant1 instr = (0#32, true) := by
  rw [quadrant1, funct3_eq]
  unfold Parcel.row1 at noRow
  split at noRow
  case h_5 isAlu =>
    rw [isAlu]
    exact quadrant1Alu_noRow noRow
  case h_4 => split at noRow <;> cases noRow
  all_goals cases noRow

theorem quadrant2_noRow (noRow : (lowHalf instr).row2 = none) :
    quadrant2 instr = (0#32, true) := by
  rw [quadrant2, funct3_eq]
  unfold Parcel.row2 at noRow
  split at noRow
  case h_5 notSlli notLwsp notJump notSwsp =>
    rw [if_neg notSlli, if_neg notLwsp, if_neg notJump, if_neg notSwsp]
  all_goals cases noRow

end Quadrants

end CompressDecoder

/-- The expander turns a parcel into the machine word of the instruction of its row. -/
theorem compressDecoder_row {instr : Word} {expanded : Instr}
    (expands : (lowHalf instr).row = some expanded) :
    (compressDecoder instr).1 = expanded.encode := by
  rw [compressDecoder, quadrant_lowHalf]
  unfold Parcel.row at expands
  split at expands
  case h_1 isZero =>
    rw [isZero]
    exact CompressDecoder.quadrant0_row expands
  case h_2 isOne =>
    rw [isOne]
    exact CompressDecoder.quadrant1_row expands
  case h_3 isTwo =>
    rw [isTwo]
    exact CompressDecoder.quadrant2_row expands
  case h_4 => cases expands

theorem eq_three {code : BitVec 2} (not0 : code ≠ 0#2) (not1 : code ≠ 1#2)
    (not2 : code ≠ 2#2) : code = 3#2 := by
  bv_omega

/-- A compressed parcel without a row becomes the zero word. -/
theorem compressDecoder_noRow {instr : Word} (compressed : (lowHalf instr).quadrant ≠ 0b11#2)
    (noRow : (lowHalf instr).row = none) : compressDecoder instr = (0#32, true) := by
  rw [compressDecoder, quadrant_lowHalf]
  unfold Parcel.row at noRow
  split at noRow
  case h_1 isZero =>
    rw [isZero]
    exact CompressDecoder.quadrant0_noRow noRow
  case h_2 isOne =>
    rw [isOne]
    exact CompressDecoder.quadrant1_noRow noRow
  case h_3 isTwo =>
    rw [isTwo]
    exact CompressDecoder.quadrant2_noRow noRow
  case h_4 notZero notOne notTwo =>
    exact absurd (eq_three notZero notOne notTwo) compressed

/-- A 32-bit instruction passes unchanged. -/
theorem compressDecoder_full {instr : Word} (isFull : instr.extractLsb' 0 2 = 0b11#2) :
    compressDecoder instr = (instr, false) := by
  rw [compressDecoder, isFull]
  rfl

theorem Parcel.row_of_expand {parcel : Parcel} {expanded : Instr}
    (expands : parcel.expand = some expanded) : parcel.row = some expanded := by
  unfold Parcel.expand at expands
  split at expands
  · cases expands
  · exact expands

/-- Expansion preserves meaning: the decoder asks for the action of the instruction that a legal
parcel abbreviates, whatever follows the parcel, and a 32-bit instruction passes unchanged. -/
theorem decoder_compressDecoder (instr : Word) :
    (∀ expanded, (lowHalf instr).expand = some expanded →
      (decoder (compressDecoder instr).1 true).action = some expanded.action) ∧
      (instr.extractLsb' 0 2 = 0b11#2 → (compressDecoder instr).1 = instr) := by
  refine ⟨fun expanded expands => ?_, fun isFull => ?_⟩
  · rw [compressDecoder_row (Parcel.row_of_expand expands)]
    exact expanded.action_decoder_encode
  · rw [compressDecoder_full isFull]

/-- `c.addi a0, -1` followed by other bits, and a 32-bit `addi`. -/
theorem decoder_compressDecoder_addi :
    (decoder (compressDecoder 0xabcd157d#32).1 true).action =
        some (.alu (.adder .add) (.reg 10#5) (.imm (-1#32)) 10#5) ∧
      (compressDecoder 0xfff50513#32).1 = 0xfff50513#32 :=
  ⟨(decoder_compressDecoder 0xabcd157d#32).1 (.arith (.opImm .addi 10#5 10#5 0xfff#12)) rfl,
    (decoder_compressDecoder 0xfff50513#32).2 (by decide)⟩

/-! ## Illegal parcels -/

/-- The decoder rejects the expansion of a parcel exactly if the parcel has no row: a reserved
field value in the row of an instruction goes unnoticed. -/
theorem illegalInstr_compressDecoder {instr : Word}
    (compressed : (lowHalf instr).quadrant ≠ 0b11#2) :
    (decoder (compressDecoder instr).1 true).illegalInstr = true ↔
      (lowHalf instr).row = none := by
  constructor
  · intro rejected
    cases found : (lowHalf instr).row with
    | none => rfl
    | some expanded =>
        have accepted := Decoder.accepted_of_encodes
          ⟨expanded, (compressDecoder_row found).symm⟩
        rw [rejected] at accepted
        cases accepted
  · intro noRow
    rw [compressDecoder_noRow compressed noRow]
    decide

namespace IfStage

variable (pmpEnable : Bool) (st : IfStage) (port : Input)

/-- What the decoder says about the entry that is latched into ID. -/
def latchedIllegal : Bool :=
  (decoder (st.next pmpEnable port).instrPayloadId
    (st.next pmpEnable port).instrValueId).illegalInstr

/-- The illegal parcels that enter ID are flagged exactly if they have no row.  A reserved field
value in the row of an instruction is executed as that instruction: the flag of the expander, which
covers it, is not connected. -/
theorem latchedIllegal_iff (latches : readyIf port = true) (noFlush : port.flushF = false)
    (fetched : st.insnValue port = true)
    (compressed : (lowHalf (st.insnPayload port)).quadrant ≠ 0b11#2) :
    ((lowHalf (st.insnPayload port)).expand = none → st.latchedIllegal pmpEnable port = true) ↔
      ((lowHalf (st.insnPayload port)).reservedFields = true →
        (lowHalf (st.insnPayload port)).row = none) := by
  have payload : (st.next pmpEnable port).instrPayloadId =
      (compressDecoder (st.insnPayload port)).1 := by
    simp only [next, nextIfId, noFlush, latches, Bool.false_eq_true, if_false, if_true,
      insnPayloadIf]
  have value : (st.next pmpEnable port).instrValueId = true := by
    simp only [next, nextIfId, noFlush, latches, Bool.false_eq_true, if_false, if_true, fetched]
  rw [latchedIllegal, payload, value, illegalInstr_compressDecoder compressed]
  unfold Parcel.expand
  constructor
  · intro flagged isReserved
    exact flagged (if_pos isReserved)
  · intro noRow isIllegal
    split at isIllegal
    · exact noRow ‹_›
    · exact isIllegal

/-- After reset, when the given word arrives. -/
def arriving (word : Word) : IfStage × Input where
  fst := { reset 0#32 with isBoot := true }
  snd :=
    { fetchEnable := true, flushF := false, stallF := false, readyId := true
      setPcValid := false, setPc := 0#32, privilegeMode := privLvlM
      pmpcfg := fun _ => 0#8, pmpaddr := fun _ => 0#32, instrGnt := false
      instrRdata := word, instrErr := false, instrValid := true }

/-- The all-zero parcel stands in the row of `c.addi4spn`, with an immediate of zero; it enters ID
as `addi x8, x2, 0`. -/
theorem latchedIllegal_zero :
    ¬ ((lowHalf ((arriving 0#32).1.insnPayload (arriving 0#32).2)).expand = none →
      (arriving 0#32).1.latchedIllegal true (arriving 0#32).2 = true) := by
  intro flagged
  have isFlagged := flagged rfl
  revert isFlagged
  decide

/-- A parcel in the row of a floating-point load is flagged. -/
theorem latchedIllegal_fld :
    (arriving 0x2000#32).1.latchedIllegal true (arriving 0x2000#32).2 = true :=
  (latchedIllegal_iff true _ _ rfl rfl rfl (by decide)).mpr (fun _ => rfl) rfl

end IfStage

end RiscvCore
