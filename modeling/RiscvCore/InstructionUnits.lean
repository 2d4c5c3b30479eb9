import RiscvCore.PipelineSteps
import RiscvCore.SystemInstructions

/-!
# The unit an instruction uses

A decoded instruction uses at most one of the branch and jump logic, the load/store unit and the
CSR block, and the decoder then selects the operands that unit expects.
-/

namespace RiscvCore

/-- The units that act outside the arithmetic of EX. -/
inductive UnitKind where
  | branch | jal | jalr | access | csr
  deriving DecidableEq, Repr

/-- The enables of a decoded instruction are those of one unit, or all low. -/
structure Decoded.UsesUnit (dec : Decoded) (unit : Option UnitKind) : Prop where
  branch : dec.branch = decide (unit = some .branch)
  jal : dec.jal = decide (unit = some .jal)
  jalr : dec.jalr = decide (unit = some .jalr)
  access : dec.lsuEn = decide (unit = some .access)
  csr : dec.csrEn = decide (unit = some .csr)
  branchOperand : unit = some .branch → dec.srcCMux = .immBtype
  jalOperands : unit = some .jal →
    dec.srcAMux = .jump ∧ dec.adderOpAMux = .pcId ∧ dec.adderOpBMux = .immJtype
  jalrOperands : unit = some .jalr →
    dec.srcAMux = .jump ∧ dec.adderOpAMux = .regRs1 ∧ dec.adderOpBMux = .immItype
  csrOperands : unit = some .csr →
    dec.srcCMux = .csrAddr ∧ dec.rdWrEn = true ∧ dec.multEn = false ∧
      (dec.srcAMux = .regRs1 ∨ dec.srcAMux = .immRs1)

/-- The decoded instruction uses some unit, or none. -/
def Decoded.OneUnit (dec : Decoded) : Prop := ∃ unit, dec.UsesUnit unit

/-- The five enables. -/
def Decoded.units (dec : Decoded) : Bool × Bool × Bool × Bool × Bool :=
  (dec.branch, dec.jal, dec.jalr, dec.lsuEn, dec.csrEn)

theorem Decoded.oneUnit_of_units {dec : Decoded}
    (none : dec.units = (false, false, false, false, false)) : dec.OneUnit := by
  simp only [units, Prod.mk.injEq] at none
  obtain ⟨branch, jal, jalr, access, csr⟩ := none
  refine ⟨Option.none, ?_⟩
  constructor <;> simp [branch, jal, jalr, access, csr]

namespace Decoder

variable {instr : Word} {out : Decoded}

theorem oneUnit_ite {condition : Prop} [Decidable condition] {left right : Decoded}
    (isLeft : condition → left.OneUnit) (isRight : right.OneUnit) :
    (if condition then left else right).OneUnit := by
  split
  · exact isLeft ‹_›
  · exact isRight

theorem units_ite {condition : Prop} [Decidable condition] {left right out : Decoded}
    (isLeft : left.units = out.units) (isRight : right.units = out.units) :
    (if condition then left else right).units = out.units := by
  split
  · exact isLeft
  · exact isRight

/-! The arithmetic instructions enable none of the units. -/

theorem units_itypeInstr : (itypeInstr instr out).units = out.units := by
  simp only [itypeInstr]
  repeat' apply units_ite
  all_goals rfl

theorem units_rtypeInstr : (rtypeInstr instr out).units = out.units := by
  simp only [rtypeInstr]
  repeat' apply units_ite
  all_goals rfl

theorem units_mismemInstr : (mismemInstr instr out).units = out.units := by
  simp only [mismemInstr]
  repeat' apply units_ite
  all_goals rfl

variable (plain : out.units = (false, false, false, false, false))
include plain

theorem oneUnit_branchInstr : (branchInstr instr out).OneUnit := by
  simp only [Decoded.units, Prod.mk.injEq] at plain
  obtain ⟨branch, jal, jalr, access, csr⟩ := plain
  have isBranch (compOp : CompOp) (sign : Bool) : (branchDec out compOp sign).OneUnit := by
    refine ⟨some .branch, ?_⟩
    constructor <;> simp [branchDec, jal, jalr, access, csr]
  unfold branchInstr
  repeat' apply oneUnit_ite fun _ => isBranch _ _
  exact Decoded.oneUnit_of_units (by simp [illegal, Decoded.units, branch, jal, jalr, access, csr])

theorem oneUnit_jalrInstr : (jalrInstr instr out).OneUnit := by
  simp only [Decoded.units, Prod.mk.injEq] at plain
  obtain ⟨branch, jal, jalr, access, csr⟩ := plain
  refine oneUnit_ite (fun _ => ⟨some .jalr, ?_⟩) (Decoded.oneUnit_of_units ?_)
  · constructor <;> simp [branch, jal, access, csr]
  · simp [illegal, Decoded.units, branch, jal, jalr, access, csr]

theorem oneUnit_jalInstr : (jalInstr out).OneUnit := by
  simp only [Decoded.units, Prod.mk.injEq] at plain
  obtain ⟨branch, jal, jalr, access, csr⟩ := plain
  refine ⟨some .jal, ?_⟩
  constructor <;> simp [jalInstr, branch, jalr, access, csr]

theorem oneUnit_loadInstr : (loadInstr instr out).OneUnit := by
  simp only [Decoded.units, Prod.mk.injEq] at plain
  obtain ⟨branch, jal, jalr, access, csr⟩ := plain
  refine ⟨some .access, ?_⟩
  constructor <;> simp [loadInstr, branch, jal, jalr, csr]

theorem oneUnit_storeInstr : (storeInstr instr out).OneUnit := by
  simp only [Decoded.units, Prod.mk.injEq] at plain
  obtain ⟨branch, jal, jalr, access, csr⟩ := plain
  refine ⟨some .access, ?_⟩
  constructor <;> simp [storeInstr, branch, jal, jalr, csr]

theorem oneUnit_sysInstr (noMult : out.multEn = false) : (sysInstr instr out).OneUnit := by
  simp only [Decoded.units, Prod.mk.injEq] at plain
  obtain ⟨branch, jal, jalr, access, csr⟩ := plain
  unfold sysInstr
  refine oneUnit_ite (fun _ => ⟨some .csr, ?_⟩) <| oneUnit_ite (fun _ => ⟨some .csr, ?_⟩) ?_
  · constructor <;> simp [branch, jal, jalr, access, noMult]
  · constructor <;> simp [branch, jal, jalr, access, noMult]
  · refine Decoded.oneUnit_of_units ?_
    have same : out.units = (false, false, false, false, false) := by
      simp [Decoded.units, branch, jal, jalr, access, csr]
    rw [← same]
    repeat' apply units_ite
    all_goals rfl

theorem oneUnit_instrClass (noMult : out.multEn = false) : (instrClass instr out).OneUnit := by
  simp only [instrClass]
  refine oneUnit_ite (fun _ => ?_) <| oneUnit_ite (fun _ => ?_) <| oneUnit_ite (fun _ => ?_) <|
    oneUnit_ite (fun _ => ?_) <| oneUnit_ite (fun _ => ?_) <| oneUnit_ite (fun _ => ?_) <|
      oneUnit_ite (fun _ => ?_) <| oneUnit_ite (fun _ => ?_) <| oneUnit_ite (fun _ => ?_) <|
        oneUnit_ite (fun _ => ?_) <| oneUnit_ite (fun _ => ?_) ?_
  · exact Decoded.oneUnit_of_units plain
  · exact Decoded.oneUnit_of_units plain
  · exact oneUnit_branchInstr plain
  · exact oneUnit_jalrInstr plain
  · exact oneUnit_jalInstr plain
  · exact oneUnit_loadInstr plain
  · exact oneUnit_storeInstr plain
  · exact Decoded.oneUnit_of_units (units_itypeInstr.trans plain)
  · exact Decoded.oneUnit_of_units (units_rtypeInstr.trans plain)
  · exact oneUnit_sysInstr plain noMult
  · exact Decoded.oneUnit_of_units (units_mismemInstr.trans plain)
  · exact Decoded.oneUnit_of_units plain

end Decoder

theorem exists_usesUnit_decoder (instr : Word) (instrValue : Bool) :
    ∃ unit, (decoder instr instrValue).UsesUnit unit := by
  cases instrValue
  · exact Decoded.oneUnit_of_units rfl
  · exact Decoder.oneUnit_instrClass rfl rfl

/-- The immediates do not depend on the class of the instruction. -/
def Decoded.immediates (dec : Decoded) : Word × Word × Word :=
  (dec.immItype, dec.immBtype, dec.immJtype)

namespace Decoder

variable {instr : Word} {out : Decoded}

theorem immediates_ite {condition : Prop} [Decidable condition] {left right out : Decoded}
    (isLeft : left.immediates = out.immediates) (isRight : right.immediates = out.immediates) :
    (if condition then left else right).immediates = out.immediates := by
  split
  · exact isLeft
  · exact isRight

theorem immediates_instrClass : (instrClass instr out).immediates = out.immediates := by
  simp only [instrClass, branchInstr, jalrInstr, itypeInstr, rtypeInstr, sysInstr, mismemInstr]
  repeat' apply immediates_ite
  all_goals rfl

end Decoder

theorem immediates_decoder (instr : Word) (instrValue : Bool) :
    (decoder instr instrValue).immediates =
      (Decoder.immItype instr, Decoder.immBtype instr, Decoder.immJtype instr) := by
  cases instrValue
  · rfl
  · exact Decoder.immediates_instrClass

/-- The operation in EX uses one unit, or none. -/
structure IdEx.UsesUnit (ex : IdEx) (unit : Option UnitKind) : Prop where
  branch : ex.branchEx = decide (unit = some .branch)
  jump : ex.jumpEx = decide (unit = some .jal ∨ unit = some .jalr)
  access : ex.lsuEnEx = decide (unit = some .access)
  csr : ex.csrEnEx = decide (unit = some .csr)

namespace CoreState

variable {params : Params} {st : CoreState} {port : CoreInput}

def ExOneUnit (st : CoreState) : Prop := ∃ unit, st.idEx.UsesUnit unit

theorem exOneUnit_step (before : st.ExOneUnit) : (st.step params port).ExOneUnit := by
  have same (unit : Option UnitKind) (uses : (st.nextIdExOperation params port).UsesUnit unit) :
      (st.step params port).ExOneUnit := ⟨unit, uses.branch, uses.jump, uses.access, uses.csr⟩
  rcases nextIdExOperation_cases params st port with
    flushed | issued | kept
  · refine same none ?_
    rw [flushed]
    exact ⟨rfl, rfl, rfl, rfl⟩
  · obtain ⟨unit, uses⟩ := exists_usesUnit_decoder st.ifs.instrPayloadId st.ifs.instrValueId
    refine same unit ?_
    rw [issued]
    refine ⟨uses.branch, ?_, uses.access, uses.csr⟩
    change ((decoder _ _).jalr || (decoder _ _).jal) = _
    rw [uses.jalr, uses.jal, Bool.or_comm, Bool.decide_or]
  · obtain ⟨unit, uses⟩ := before
    refine same unit ?_
    rw [kept]
    exact uses

theorem ExOneUnit.csrEnEx_of_access (oneUnit : st.ExOneUnit)
    (access : st.idEx.lsuEnEx = true) : st.idEx.csrEnEx = false := by
  obtain ⟨unit, uses⟩ := oneUnit
  rw [uses.access, decide_eq_true_eq] at access
  rw [uses.csr, access]
  rfl

end CoreState

namespace CoreRun

theorem exOneUnit (run : CoreRun) (cycle : Nat) : (run.state cycle).ExOneUnit :=
  run.invariant CoreState.ExOneUnit ⟨none, rfl, rfl, rfl, rfl⟩
    (fun _ _ before => CoreState.exOneUnit_step before) cycle

end CoreRun

end RiscvCore
