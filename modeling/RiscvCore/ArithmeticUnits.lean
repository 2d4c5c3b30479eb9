import RiscvCore.Alu
import Mathlib.Algebra.Group.Nat.Defs

/-!
# What the arithmetic units compute

The adder with its carry bit, the comparator that reads a difference, the single right shifter
and the signed 33-bit multiplier compute the operations on words.
-/

namespace RiscvCore

theorem toNat_append_bit {width : Nat} (word : BitVec width) (bit : BitVec 1) :
    (word ++ bit).toNat = 2 * word.toNat + bit.toNat := by
  rw [BitVec.toNat_append, ← Nat.shiftLeft_add_eq_or_of_lt bit.isLt, Nat.shiftLeft_eq]
  omega

theorem rvAdder_add (opA opB : Word) : rvAdder .add opA opB = opA + opB := by
  apply BitVec.eq_of_toNat_eq
  have boundA := opA.isLt
  have boundB := opB.isLt
  simp only [rvAdder, reduceCtorEq, if_false, BitVec.extractLsb'_toNat, BitVec.toNat_add,
    toNat_append_bit, Nat.shiftRight_eq_div_pow, BitVec.toNat_ofNat]
  omega

theorem rvAdder_sub (opA opB : Word) : rvAdder .sub opA opB = opA - opB := by
  apply BitVec.eq_of_toNat_eq
  have boundA := opA.isLt
  have boundB := opB.isLt
  simp only [rvAdder, if_true, BitVec.extractLsb'_toNat, BitVec.toNat_add, toNat_append_bit,
    BitVec.toNat_sub, BitVec.toNat_not, Nat.shiftRight_eq_div_pow, BitVec.toNat_ofNat]
  omega

theorem getLsbD_31 (word : Word) : word.getLsbD 31 = decide (2 ^ 31 ≤ word.toNat) := by
  have msb := BitVec.msb_eq_decide word
  rw [BitVec.msb_eq_getLsbD_last] at msb
  simpa using msb

theorem rvCompare_lt_signed (opA opB : Word) :
    rvCompare true .lt (opA - opB) opA opB = opA.slt opB := by
  simp only [rvCompare, BitVec.slt, getLsbD_31, BitVec.toNat_sub, BitVec.toInt_eq_toNat_cond]
  have boundA := opA.isLt
  have boundB := opB.isLt
  rw [Bool.eq_iff_iff]
  simp
  split <;> split <;> omega

theorem rvCompare_lt_unsigned (opA opB : Word) :
    rvCompare false .lt (opA - opB) opA opB = opA.ult opB := by
  simp only [rvCompare, BitVec.ult, getLsbD_31, BitVec.toNat_sub]
  have boundA := opA.isLt
  have boundB := opB.isLt
  rw [Bool.eq_iff_iff]
  simp
  split <;> omega

/-- The bits of a word shifted right below one more copy of its sign. -/
theorem getLsbD_shifted (top : Bool) (word : Word) (amount index : Nat) (inside : index < 32) :
    ((BitVec.ofBool top ++ word).sshiftRight amount).getLsbD index =
      if amount + index < 32 then word.getLsbD (amount + index) else top := by
  have msb : (BitVec.ofBool top ++ word).msb = top := by
    rw [BitVec.msb_append]
    cases top <;> rfl
  have low : decide (1 + 32 ≤ index) = false := decide_eq_false (by omega)
  rw [BitVec.getLsbD_sshiftRight, low, msb, Bool.not_false, Bool.true_and, BitVec.getLsbD_append]
  rcases Nat.lt_trichotomy (amount + index) 32 with below | same | above
  · rw [if_pos below, if_pos (by omega), if_pos below]
  · rw [same]
    cases top <;> rfl
  · rw [if_neg (by omega), if_neg (by omega)]

theorem rvShift_srl (opA : Word) (amt : BitVec 5) :
    rvShift .srl opA amt = opA >>> amt.toNat := by
  ext index inside
  have noTop : (ShiftOp.srl == ShiftOp.sra) = false := rfl
  have noLeft : (ShiftOp.srl == ShiftOp.sll) = false := rfl
  simp only [rvShift, noTop, noLeft, Bool.false_and, Bool.false_eq_true, if_false,
    BitVec.getElem_extractLsb', Nat.zero_add, getLsbD_shifted _ _ _ _ inside,
    BitVec.getElem_ushiftRight]
  split
  · rfl
  · exact (BitVec.getLsbD_of_ge opA _ (by omega)).symm

theorem rvShift_sra (opA : Word) (amt : BitVec 5) :
    rvShift .sra opA amt = opA.sshiftRight amt.toNat := by
  ext index inside
  have isTop : (ShiftOp.sra == ShiftOp.sra) = true := rfl
  have noLeft : (ShiftOp.sra == ShiftOp.sll) = false := rfl
  simp only [rvShift, isTop, noLeft, Bool.true_and, Bool.false_eq_true, if_false,
    BitVec.getElem_extractLsb', Nat.zero_add, getLsbD_shifted _ _ _ _ inside]
  rw [BitVec.getElem_sshiftRight]
  split
  · rw [BitVec.getLsbD_eq_getElem]
  · exact (BitVec.msb_eq_getLsbD_last opA).symm

/-- The left shift reverses its operand in front of the right shifter and the result behind
it. -/
theorem rvShift_sll (opA : Word) (amt : BitVec 5) :
    rvShift .sll opA amt = opA <<< amt.toNat := by
  ext index inside
  have noTop : (ShiftOp.sll == ShiftOp.sra) = false := rfl
  have isLeft : (ShiftOp.sll == ShiftOp.sll) = true := rfl
  simp only [rvShift, noTop, isLeft, Bool.false_and, if_true]
  rw [← BitVec.getLsbD_eq_getElem, BitVec.getLsbD_reverse, BitVec.getMsbD_eq_getLsbD,
    BitVec.getLsbD_extractLsb', Nat.zero_add, getLsbD_shifted _ _ _ _ (by omega),
    BitVec.getElem_shiftLeft, decide_eq_true inside,
    decide_eq_true (by omega : 32 - 1 - index < 32), Bool.true_and, Bool.true_and]
  rcases Nat.lt_or_ge index amt.toNat with below | above
  · rw [if_neg (by omega), decide_eq_true below]
    rfl
  · rw [if_pos (by omega), decide_eq_false (by omega), BitVec.getLsbD_reverse,
      BitVec.getMsbD_eq_getLsbD, decide_eq_true (by omega), ← BitVec.getLsbD_eq_getElem,
      Bool.not_false, Bool.true_and, Bool.true_and]
    congr 1
    omega

theorem extractLsb'_zero_eq_setWidth {width : Nat} (bits : BitVec width) (count : Nat) :
    bits.extractLsb' 0 count = bits.setWidth count := by
  ext index inside
  rw [BitVec.getElem_extractLsb', BitVec.getElem_setWidth, Nat.zero_add]

/-- The low 64 bits of a multiplier operand are the word, extended with or without its sign. -/
theorem setWidth_mulOperand (signed : Bool) (word : Word) :
    ((BitVec.ofBool (signed && word.getLsbD 31) ++ word).signExtend 66).setWidth 64 =
      if signed then word.signExtend 64 else word.setWidth 64 := by
  have bit (top : Bool) (index : Nat) (inside : index < 64) :
      (((BitVec.ofBool top ++ word).signExtend 66).setWidth 64).getLsbD index =
        if index < 32 then word.getLsbD index else top := by
    have msb : (BitVec.ofBool top ++ word).msb = top := by
      rw [BitVec.msb_append]
      cases top <;> rfl
    rw [BitVec.getLsbD_setWidth, decide_eq_true inside, Bool.true_and, BitVec.getLsbD_signExtend,
      decide_eq_true (by omega), Bool.true_and, msb, BitVec.getLsbD_append]
    rcases Nat.lt_trichotomy index 32 with below | same | above
    · rw [if_pos (by omega), if_pos below, if_pos below]
    · rw [same]
      cases top <;> rfl
    · rw [if_neg (by omega), if_neg (by omega)]
  apply BitVec.eq_of_getLsbD_eq
  intro index inside
  rw [bit _ index inside]
  cases signed
  · rw [Bool.false_and, if_neg Bool.false_ne_true, BitVec.getLsbD_setWidth,
      decide_eq_true inside, Bool.true_and]
    split
    · rfl
    · exact (BitVec.getLsbD_of_ge word index (by omega)).symm
  · rw [Bool.true_and, if_pos rfl, BitVec.getLsbD_signExtend, decide_eq_true inside,
      Bool.true_and, BitVec.msb_eq_getLsbD_last]

theorem multiplier_eq (op : MultOp) (opA opB : Word) :
    multiplier op opA opB =
      (if op == .mulhsu || op == .mulh then opA.signExtend 64 else opA.setWidth 64) *
        (if op == .mulh then opB.signExtend 64 else opB.setWidth 64) := by
  simp only [multiplier]
  rw [extractLsb'_zero_eq_setWidth, BitVec.setWidth_mul _ _ (by omega), setWidth_mulOperand,
    setWidth_mulOperand]

theorem multiplier_low (opA opB : Word) :
    (multiplier .mul opA opB).extractLsb' 0 32 = opA * opB := by
  have unsignedA : (MultOp.mul == MultOp.mulhsu || MultOp.mul == MultOp.mulh) = false := rfl
  have unsignedB : (MultOp.mul == MultOp.mulh) = false := rfl
  rw [multiplier_eq, unsignedA, unsignedB, if_neg Bool.false_ne_true, if_neg Bool.false_ne_true,
    extractLsb'_zero_eq_setWidth, BitVec.setWidth_mul _ _ (by omega),
    BitVec.setWidth_setWidth_of_le _ (by omega), BitVec.setWidth_setWidth_of_le _ (by omega),
    BitVec.setWidth_eq, BitVec.setWidth_eq]

end RiscvCore
