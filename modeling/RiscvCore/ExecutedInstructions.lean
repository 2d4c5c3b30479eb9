import RiscvCore.DividerRuns
import RiscvCore.IsaMachine

/-!
# Instructions in EX

An instruction that issues with the operands of the hart computes in EX what the hart writes, and
redirects fetch exactly if the hart does not go on behind it.
-/

namespace RiscvCore

namespace Instr

/-- A load or a store. -/
def accesses : Instr → Bool
  | load _ _ _ _ | store _ _ _ _ => true
  | _ => false

def readsCsr : Instr → Bool
  | csrReg _ _ _ _ | csrImm _ _ _ _ => true
  | _ => false

/-- A conditional branch or a jump. -/
def transfers : Instr → Bool
  | branch _ _ _ _ | jal _ _ | jalr _ _ _ => true
  | _ => false

end Instr

/-- The flags of the instructions that wait in ID. -/
def Decoded.waits (dec : Decoded) : Bool :=
  dec.ecallEn || dec.ebreakEn || dec.mretEn || dec.fenceEn || dec.wfiEn

namespace ArithInstr

/-- The arithmetic instructions enable the arithmetic units only. -/
theorem others_controls (instr : ArithInstr) :
    instr.controls.units = (false, false, false, false, false) ∧
      instr.controls.waits = false := by
  cases instr with
  | opImm op rd rs1 imm => cases op <;> exact ⟨rfl, rfl⟩
  | reg op rd rs1 rs2 => cases op <;> exact ⟨rfl, rfl⟩
  | _ => exact ⟨rfl, rfl⟩

theorem destination_controls (instr : ArithInstr) :
    instr.controls.destination = some instr.rd := by
  rw [Decoded.destination, instr.rdWrEn_controls, instr.rdWrAddr_controls]
  rfl

end ArithInstr

namespace Instr

theorem source1_controls (instr : Instr) : instr.controls.source1 = instr.source1 := by
  cases instr with
  | arith instr => exact instr.source1_controls
  | divide op rd rs1 rs2 => exact congrArg some (rs1_iFormat ..)
  | branch cond rs1 rs2 offset => exact congrArg some (rs1_iFormat ..)
  | jalr rd rs1 imm => exact congrArg some (rs1_iFormat ..)
  | load width rd rs1 imm => exact congrArg some (rs1_iFormat ..)
  | store width rs1 rs2 imm => exact congrArg some (rs1_iFormat ..)
  | csrReg op rd csr rs1 => exact congrArg some (rs1_iFormat ..)
  | _ => rfl

theorem source2_controls (instr : Instr) : instr.controls.source2 = instr.source2 := by
  cases instr with
  | arith instr => exact instr.source2_controls
  | divide op rd rs1 rs2 => exact congrArg some (rs2_iFormat ..)
  | branch cond rs1 rs2 offset => exact congrArg some (rs2_iFormat ..)
  | store width rs1 rs2 imm => exact congrArg some (rs2_iFormat ..)
  | _ => rfl

theorem destination_controls (instr : Instr) :
    instr.controls.destination = instr.destination := by
  cases instr with
  | arith instr => exact instr.destination_controls
  | divide op rd rs1 rs2 => exact congrArg some (rd_iFormat ..)
  | jal rd offset => exact congrArg some (rd_uFormat ..)
  | jalr rd rs1 imm => exact congrArg some (rd_iFormat ..)
  | load width rd rs1 imm => exact congrArg some (rd_iFormat ..)
  | csrReg op rd csr rs1 => exact congrArg some (rd_iFormat ..)
  | csrImm op rd csr uimm => exact congrArg some (rd_iFormat ..)
  | _ => rfl

theorem lsuEn_controls (instr : Instr) : instr.controls.lsuEn = instr.accesses := by
  cases instr with
  | arith instr => exact congrArg (·.2.2.2.1) instr.others_controls.1
  | _ => rfl

theorem csrEn_controls (instr : Instr) : instr.controls.csrEn = instr.readsCsr := by
  cases instr with
  | arith instr => exact congrArg (·.2.2.2.2) instr.others_controls.1
  | _ => rfl

theorem waits_controls (instr : Instr) : instr.controls.waits = instr.stops := by
  cases instr with
  | arith instr => exact instr.others_controls.2
  | _ => rfl

/-- Of the loads and stores only a load writes a register. -/
theorem value_of_accesses {instr : Instr} (access : instr.accesses = true)
    (writes : instr.destination ≠ none) (pc a b sequential : Word) (outside : Outside) :
    instr.value pc a b sequential outside = outside.loaded := by
  cases instr with
  | load width rd rs1 imm => rfl
  | store width rs1 rs2 imm => exact absurd rfl writes
  | _ => cases access

/-- Other instructions than branches and jumps enable neither. -/
theorem branch_controls {instr : Instr} (goesOn : instr.transfers = false) :
    instr.controls.branch = false ∧ (instr.controls.jalr || instr.controls.jal) = false := by
  cases instr with
  | arith instr =>
      have units := instr.others_controls.1
      rw [Decoded.units, Prod.mk.injEq, Prod.mk.injEq, Prod.mk.injEq] at units
      obtain ⟨branch, jal, jalr, -⟩ := units
      change instr.controls.branch = false ∧ (instr.controls.jalr || instr.controls.jal) = false
      rw [branch, jal, jalr]
      exact ⟨rfl, rfl⟩
  | branch cond rs1 rs2 offset => cases goesOn
  | jal rd offset => cases goesOn
  | jalr rd rs1 imm => cases goesOn
  | _ => exact ⟨rfl, rfl⟩

end Instr

section Issue

variable (idEx : IdEx) (ifs : IfStage) (a b : Word) (tag : Tag)

/-- The address behind the instruction in ID. -/
def IfStage.sequentialId (ifs : IfStage) : Word :=
  ifs.pcId + if ifs.compressInstrId then 2#32 else 4#32

/-- The result of the divider is selected by the operation. -/
theorem rdWrDataEx_divide (op : DivOp) (rd rs1 rs2 : RegAddr) (div : Div) (csrRdata : Word)
    (flushE : Bool)
    (shows : div.Shows
      (ExStage.divInput (issuedAt idEx ifs a b tag (.divide op rd rs1 rs2)) flushE)) :
    ExStage.rdWrDataEx (issuedAt idEx ifs a b tag (.divide op rd rs1 rs2)) div csrRdata =
      op.result a b := by
  cases op with
  | div => exact shows.quotient
  | divu => exact shows.quotient
  | rem => exact shows.remainder
  | remu => exact shows.remainder

/-- EX computes the value of an instruction that writes a register without a load. -/
theorem rdWrDataEx_issuedAt (instr : Instr) {div : Div} {csrRdata : Word} {outside : Outside}
    {flushE : Bool} (writes : instr.destination ≠ none) (noAccess : instr.accesses = false)
    (csrRead : instr.readsCsr = true → csrRdata = outside.csrRead)
    (shows : ExStage.divEn (issuedAt idEx ifs a b tag instr) = true →
      div.Shows (ExStage.divInput (issuedAt idEx ifs a b tag instr) flushE)) :
    ExStage.rdWrDataEx (issuedAt idEx ifs a b tag instr) div csrRdata =
      instr.value ifs.pcId a b ifs.sequentialId outside := by
  cases instr with
  | arith instr =>
      have executed := ArithInstr.executed_controls idEx ifs a b tag div csrRdata instr
      refine Eq.trans ?_ executed
      exact ExStage.rdWrDataEx_of_sameOperation _ _ _ _ _ _ (instr.jumpEx_issued idEx ifs a b tag)
  | divide op rd rs1 rs2 =>
      refine rdWrDataEx_divide idEx ifs a b tag op rd rs1 rs2 div csrRdata flushE (shows ?_)
      cases op <;> rfl
  | jal rd offset =>
      exact ((resolves_jal idEx ifs a b tag rd offset).link rd rfl).2.2 div csrRdata
  | jalr rd rs1 imm =>
      exact ((resolves_jalr idEx ifs a b tag rd rs1 imm).link rd rfl).2.2 div csrRdata
  | csrReg op rd csr rs1 => exact csrRead rfl
  | csrImm op rd csr uimm => exact csrRead rfl
  | load width rd rs1 imm => cases noAccess
  | _ => exact absurd rfl writes

/-- The redirect that EX asks for when it has not done so before. -/
def ExStage.redirects (ex : IdEx) : Bool :=
  ExStage.branchTaken ex false || ExStage.jumpTaken ex false

def ExStage.redirectPc (ex : IdEx) : Word :=
  (if ExStage.branchTaken ex false then ExStage.branchTargetAddr ex else 0#32) |||
    (if ExStage.jumpTaken ex false then ExStage.jumpTargetAddr ex else 0#32)

/-- Fetch goes on at the given address: it is redirected there, or has gone on behind the
instruction and that is the address. -/
structure ExStage.GoesTo (ex : IdEx) (sequential next : Word) : Prop where
  redirect : ExStage.redirects ex = true → ExStage.redirectPc ex = next
  noRedirect : ExStage.redirects ex = false → sequential = next

theorem goesTo_of_operation {ex other : IdEx} {sequential next : Word}
    (goesTo : ExStage.GoesTo other sequential next) (same : ex.operation = other.operation) :
    ExStage.GoesTo ex sequential next := by
  have redirects : ExStage.redirects ex = ExStage.redirects other := by
    change ExStage.redirects ex.operation = ExStage.redirects other.operation
    rw [same]
  have redirectPc : ExStage.redirectPc ex = ExStage.redirectPc other := by
    change ExStage.redirectPc ex.operation = ExStage.redirectPc other.operation
    rw [same]
  constructor
  · rw [redirects, redirectPc]
    exact goesTo.redirect
  · rw [redirects]
    exact goesTo.noRedirect

/-- The lowest bit of an even target is clear already. -/
theorem and_of_isEven {target : Word} (even : IsEven target) : target &&& ~~~1#32 = target := by
  ext index inside
  rw [BitVec.getElem_and, BitVec.getElem_not]
  rcases Nat.eq_zero_or_pos index with rfl | positive
  · rw [← BitVec.getLsbD_eq_getElem, even]
    rfl
  · have clear : (1#32)[index] = false := by
      rw [BitVec.getElem_one]
      exact decide_eq_false (by omega)
    rw [clear, Bool.not_false, Bool.and_true]

/-- The targets of the core are those of the hart, unless a computed one is odd. -/
theorem nextPc_issuedTransfer (instr : Instr) (valid : instr.transfers = true)
    (even : ∀ rd rs1 imm, instr = .jalr rd rs1 imm → IsEven (a + imm.signExtend 32)) :
    (issuedTransfer ifs a b instr).nextPc = instr.nextPc ifs.pcId a b ifs.sequentialId := by
  cases instr with
  | branch cond rs1 rs2 offset => rfl
  | jal rd offset => rfl
  | jalr rd rs1 imm => exact (and_of_isEven (even rd rs1 imm rfl)).symm
  | _ => cases valid

theorem nextPc_of_notTaken (instr : Instr) (valid : instr.transfers = true)
    (notTaken : (issuedTransfer ifs a b instr).taken = false) :
    ifs.sequentialId = instr.nextPc ifs.pcId a b ifs.sequentialId := by
  cases instr with
  | branch cond rs1 rs2 offset =>
      have notHolds : cond.holds a b = false := notTaken
      rw [Instr.nextPc, notHolds, if_neg Bool.false_ne_true]
  | jal rd offset => cases notTaken
  | jalr rd rs1 imm => cases notTaken
  | _ => cases valid

theorem mispredicted_of_notPredicted (instr : Instr) (valid : instr.transfers = true)
    (targetPc : Word) : (issuedTransfer ifs a b instr).mispredicted false targetPc =
      (issuedTransfer ifs a b instr).taken := by
  cases instr with
  | branch cond rs1 rs2 offset => exact Bool.false_bne _
  | jal rd offset => rfl
  | jalr rd rs1 imm => rfl
  | _ => cases valid

theorem goesTo_issuedAt (instr : Instr) (notPredicted : ifs.predictTakenId = false)
    (even : ∀ rd rs1 imm, instr = .jalr rd rs1 imm → IsEven (a + imm.signExtend 32)) :
    ExStage.GoesTo (issuedAt idEx ifs a b tag instr) ifs.sequentialId
      (instr.nextPc ifs.pcId a b ifs.sequentialId) := by
  cases valid : instr.transfers with
  | true =>
      have isTransfer : (issuedTransfer ifs a b instr).valid = true := by
        cases instr <;> first | rfl | cases valid
      have resolves := resolves_issued idEx ifs a b tag instr isTransfer
      rw [notPredicted, mispredicted_of_notPredicted ifs a b instr valid] at resolves
      have redirects : ExStage.redirects (issuedAt idEx ifs a b tag instr) =
          (issuedTransfer ifs a b instr).taken :=
        (resolves.redirects false).trans (Bool.and_true _)
      constructor
      · intro redirect
        rw [redirects] at redirect
        exact (resolves.target redirect).trans (nextPc_issuedTransfer ifs a b instr valid even)
      · intro noRedirect
        rw [redirects] at noRedirect
        exact nextPc_of_notTaken ifs a b instr valid noRedirect
  | false =>
      obtain ⟨noBranch, noJump⟩ := instr.branch_controls valid
      have redirects : ExStage.redirects (issuedAt idEx ifs a b tag instr) = false := by
        have branchEx : (issuedAt idEx ifs a b tag instr).branchEx = false := noBranch
        have jumpEx : (issuedAt idEx ifs a b tag instr).jumpEx = false := noJump
        rw [ExStage.redirects, ExStage.branchTaken, ExStage.jumpTaken, branchEx, jumpEx]
        rfl
      constructor
      · intro redirect
        rw [redirects] at redirect
        cases redirect
      · intro _
        cases instr <;> first | rfl | cases valid

end Issue

end RiscvCore
