import RiscvCore.ArithmeticUnits
import RiscvCore.DirectMemory
import RiscvCore.InstructionUnits
import RiscvCore.PipelineSteps

/-!
# Parity of the program counters

Every source of the next program counter has its lowest bit clear, except a `jalr`, whose target
is the plain sum of its operands.
-/

namespace RiscvCore

/-- An even address. -/
def IsEven (pc : Word) : Prop := pc.getLsbD 0 = false

instance (pc : Word) : Decidable (IsEven pc) := inferInstanceAs (Decidable (_ = _))

theorem isEven_zero : IsEven 0#32 := by decide

theorem isEven_add {a b : Word} (evenA : IsEven a) (evenB : IsEven b) : IsEven (a + b) := by
  unfold IsEven at *
  rw [BitVec.getLsbD_add (by decide), evenA, evenB, BitVec.carry_zero]
  rfl

theorem isEven_or {a b : Word} : IsEven (a ||| b) ↔ IsEven a ∧ IsEven b := by
  unfold IsEven
  rw [BitVec.getLsbD_or, Bool.or_eq_false_iff]

theorem isEven_and_right {a b : Word} (even : IsEven a) : IsEven (a &&& b) := by
  unfold IsEven at *
  rw [BitVec.getLsbD_and, even, Bool.false_and]

theorem isEven_evenPc (pc : Word) : IsEven (Csr.evenPc pc) := by
  unfold IsEven Csr.evenPc
  rw [BitVec.getLsbD_append]
  rfl

/-- An even address is left as it is. -/
theorem evenPc_of_isEven {pc : Word} (even : IsEven pc) : Csr.evenPc pc = pc := by
  apply BitVec.eq_of_getLsbD_eq
  intro index inside
  rw [Csr.evenPc, BitVec.getLsbD_append]
  cases index with
  | zero => exact even.symm
  | succ index =>
      have below : index < 31 := by omega
      rw [if_neg (by omega), BitVec.getLsbD_extractLsb', Nat.add_sub_cancel, Nat.add_comm 1,
        decide_eq_true below, Bool.true_and]

theorem isEven_trapVector (mtvec : Word) : IsEven (Controller.trapVector mtvec) := by
  unfold IsEven Controller.trapVector
  rw [BitVec.getLsbD_append]
  rfl

theorem isEven_immBtype (instr : Word) : IsEven (Decoder.immBtype instr) := by
  unfold IsEven Decoder.immBtype
  rw [BitVec.getLsbD_signExtend, if_pos (by decide), BitVec.getLsbD_append]
  rfl

theorem isEven_immJtype (instr : Word) : IsEven (Decoder.immJtype instr) := by
  unfold IsEven Decoder.immJtype
  rw [BitVec.getLsbD_signExtend, if_pos (by decide), BitVec.getLsbD_append]
  rfl

/-- A return or link address: two or four bytes on. -/
theorem isEven_adder2Result {ex : IdEx} (even : IsEven ex.pcEx) :
    IsEven (ExStage.adder2Result ex) := by
  unfold ExStage.adder2Result
  rw [rvAdder_add]
  refine isEven_add even ?_
  cases ex.compressInstrEx <;> decide

namespace CoreState

variable {params : Params} {st : CoreState} {port : CoreInput}

/-- The five program counters are even. -/
structure EvenPcs (st : CoreState) : Prop where
  pcIf : IsEven st.ifs.pcIf
  pcId : IsEven st.ifs.pcId
  pcEx : IsEven st.idEx.pcEx
  pcMem : IsEven st.exMem.pcMem
  pcWb : IsEven st.memWb.pcWb

/-- A `jalr` in EX redirects the fetch in this cycle. -/
def jalrRedirects (params : Params) (st : CoreState) (port : CoreInput) : Bool :=
  st.jumpTaken && st.idEx.jalrEx && !st.excFetch params port

/-- What keeps the program counters even: the saved one is even, and so are the offset of a
branch and the target of a `jal` in EX. -/
structure EvenSources (st : CoreState) : Prop where
  pcs : st.EvenPcs
  mepc : IsEven st.csr.mepcQ
  branch : st.idEx.branchEx = true → IsEven st.idEx.srcCEx
  jal : st.idEx.jumpEx = true → st.idEx.jalrEx = false → IsEven st.idEx.srcAEx

theorem evenSources_reset {bootAddr : Word} (even : IsEven bootAddr) :
    (reset bootAddr).EvenSources where
  pcs := ⟨even, isEven_zero, isEven_zero, isEven_zero, isEven_zero⟩
  mepc := isEven_zero
  branch := fun isBranch => by cases isBranch
  jal := fun isJump => by cases isJump

theorem isEven_branchTargetAddr (even : st.EvenSources) (isBranch : st.idEx.branchEx = true) :
    IsEven (ExStage.branchTargetAddr st.idEx) := by
  unfold ExStage.branchTargetAddr
  split
  · exact isEven_adder2Result even.pcs.pcEx
  · unfold ExStage.adder1Result
    rw [rvAdder_add]
    exact isEven_add even.pcs.pcEx (even.branch isBranch)

theorem isEven_excFetchAndPc (even : st.EvenSources) :
    IsEven (st.excFetchAndPc params port).2 := by
  unfold excFetchAndPc Controller.excFetch
  split
  · split
    · exact even.pcs.pcIf
    · split
      · exact even.mepc
      · split
        · rfl
        · exact isEven_trapVector _
  · exact isEven_trapVector _
  · rfl
  · rfl

theorem isEven_branchJumpTarget (even : st.EvenSources)
    (jalr : st.jumpTaken = true → st.idEx.jalrEx = true → IsEven st.idEx.srcAEx) :
    IsEven st.branchJumpTarget := by
  unfold branchJumpTarget
  rw [isEven_or]
  constructor
  · split
    · rename_i taken
      simp only [branchTaken, ExStage.branchTaken, Bool.and_eq_true] at taken
      exact isEven_branchTargetAddr even taken.1.1
    · rfl
  · split
    · rename_i taken
      cases isJalr : st.idEx.jalrEx
      · have isJump := taken
        simp only [jumpTaken, ExStage.jumpTaken, Bool.and_eq_true] at isJump
        exact even.jal isJump.1.1 isJalr
      · exact jalr taken isJalr
    · rfl

theorem isEven_setPc (even : st.EvenSources)
    (jalr : st.jalrRedirects params port = true → IsEven st.idEx.srcAEx) :
    IsEven (st.setPc params port) := by
  unfold setPc
  cases fetch : st.excFetch params port
  · refine isEven_branchJumpTarget even fun taken isJalr => jalr ?_
    simp [jalrRedirects, taken, isJalr, fetch]
  · exact isEven_excFetchAndPc even

/-- A redirecting `jalr` writes its target to the program counter as it is. -/
theorem srcAEx_of_jalrRedirects (redirects : st.jalrRedirects params port = true)
    (even : IsEven (st.step params port).ifs.pcIf) : IsEven st.idEx.srcAEx := by
  simp only [jalrRedirects, Bool.and_eq_true, Bool.not_eq_true'] at redirects
  obtain ⟨⟨taken, -⟩, noFetch⟩ := redirects
  have valid : (st.ifInput params port).setPcValid = true := by
    simp [ifInput, setPcValid, taken]
  have target : (st.ifInput params port).setPc = st.branchJumpTarget := by
    simp [ifInput, setPc, noFetch]
  have pcIf : (st.step params port).ifs.pcIf = st.branchJumpTarget := by
    simp only [step, IfStage.next, IfStage.nextPc, valid, target, Bool.or_true, if_true]
  rw [pcIf, branchJumpTarget, isEven_or, if_pos taken] at even
  exact even.2

theorem isEven_nextPc (even : st.EvenSources)
    (jalr : st.jalrRedirects params port = true → IsEven st.idEx.srcAEx) :
    IsEven (st.ifs.nextPc (st.ifInput params port)) := by
  unfold IfStage.nextPc
  split
  · exact isEven_setPc even jalr
  · split
    · rfl
    · split
      · exact isEven_add even.pcs.pcIf (by decide)
      · split
        · exact isEven_add even.pcs.pcIf (by decide)
        · exact even.pcs.pcIf

theorem evenPcs_step (even : st.EvenSources)
    (jalr : st.jalrRedirects params port = true → IsEven st.idEx.srcAEx) :
    (st.step params port).EvenPcs where
  pcIf := by
    simp only [step, IfStage.next]
    split
    · exact isEven_nextPc even jalr
    · exact even.pcs.pcIf
  pcId := by
    simp only [step, IfStage.next]
    split
    · exact even.pcs.pcIf
    · exact even.pcs.pcId
  pcEx := by
    simp only [step, nextIdEx]
    split
    · exact even.pcs.pcId
    · exact even.pcs.pcEx
  pcMem := by
    simp only [step, nextExMem]
    split
    · exact even.pcs.pcEx
    · exact even.pcs.pcMem
  pcWb := by
    simp only [step, nextMemWb]
    split
    · exact even.pcs.pcMem
    · exact even.pcs.pcWb

theorem isEven_mepcN (csr : Csr) (input : Csr.Input) (even : IsEven csr.mepcQ) :
    IsEven (csr.mepcN input) := by
  unfold Csr.mepcN
  dsimp only
  split
  · split
    · exact isEven_evenPc _
    · exact isEven_or.mpr ⟨even, isEven_evenPc _⟩
    · exact isEven_and_right even
    · exact even
  · split
    · split
      · exact isEven_evenPc _
      · exact isEven_evenPc _
    · exact even

/-- The decoder selects an even offset for a branch. -/
theorem isEven_srcCId (dec : Decoded) (unit : Option UnitKind) (uses : dec.UsesUnit unit)
    (imm : IsEven dec.immBtype) (isBranch : dec.branch = true) (rs2RdData : Word) :
    IsEven (IdStage.srcCId dec rs2RdData) := by
  have isUnit : unit = some .branch := by
    rw [uses.branch] at isBranch
    exact of_decide_eq_true isBranch
  rw [IdStage.srcCId, uses.branchOperand isUnit]
  exact imm

/-- The target of a `jal` is even when its own address is. -/
theorem isEven_srcAId_jal (dec : Decoded) (unit : Option UnitKind) (uses : dec.UsesUnit unit)
    (imm : IsEven dec.immJtype) (isJal : dec.jal = true) {pcId : Word} (even : IsEven pcId)
    (rs1RdData : Word) : IsEven (IdStage.srcAId dec pcId rs1RdData) := by
  have isUnit : unit = some .jal := by
    rw [uses.jal] at isJal
    exact of_decide_eq_true isJal
  obtain ⟨srcA, opA, opB⟩ := uses.jalOperands isUnit
  simp only [IdStage.srcAId, srcA, IdStage.jumpTarget, opA, opB, rvAdder_add]
  exact isEven_add even imm

theorem immediates_decoded :
    st.decoded.immediates =
      (Decoder.immItype st.ifs.instrPayloadId, Decoder.immBtype st.ifs.instrPayloadId,
        Decoder.immJtype st.ifs.instrPayloadId) :=
  immediates_decoder _ _

theorem evenSources_step (even : st.EvenSources)
    (jalr : st.jalrRedirects params port = true → IsEven st.idEx.srcAEx) :
    (st.step params port).EvenSources where
  pcs := evenPcs_step even jalr
  mepc := isEven_mepcN _ _ even.mepc
  branch := by
    intro isBranch
    simp only [step, nextIdEx] at isBranch ⊢
    rcases nextIdExOperation_cases params st port with
      flushed | issued | kept
    · rw [flushed] at isBranch
      cases isBranch
    · rw [issued] at isBranch ⊢
      obtain ⟨unit, uses⟩ := exists_usesUnit_decoder st.ifs.instrPayloadId st.ifs.instrValueId
      refine isEven_srcCId st.decoded unit uses ?_ isBranch _
      rw [show st.decoded.immBtype = Decoder.immBtype st.ifs.instrPayloadId from
        congrArg (fun imms => imms.2.1) immediates_decoded]
      exact isEven_immBtype _
    · rw [kept] at isBranch ⊢
      exact even.branch isBranch
  jal := by
    intro isJump notJalr
    simp only [step, nextIdEx] at isJump notJalr ⊢
    rcases nextIdExOperation_cases params st port with
      flushed | issued | kept
    · rw [flushed] at isJump
      cases isJump
    · rw [issued] at isJump notJalr ⊢
      have isJal : st.decoded.jal = true := by
        have jump : (st.decoded.jalr || st.decoded.jal) = true := isJump
        rw [show st.decoded.jalr = false from notJalr, Bool.false_or] at jump
        exact jump
      obtain ⟨unit, uses⟩ := exists_usesUnit_decoder st.ifs.instrPayloadId st.ifs.instrValueId
      refine isEven_srcAId_jal st.decoded unit uses ?_ isJal even.pcs.pcId _
      rw [show st.decoded.immJtype = Decoder.immJtype st.ifs.instrPayloadId from
        congrArg (fun imms => imms.2.2) immediates_decoded]
      exact isEven_immJtype _
    · rw [kept] at isJump notJalr ⊢
      exact even.jal isJump notJalr

end CoreState

namespace CoreRun

variable (run : CoreRun)

/-- Every program counter is even in every cycle. -/
def EvenThroughout : Prop := ∀ cycle, (run.state cycle).EvenPcs

/-- Every `jalr` that redirects the fetch has an even sum of its operands. -/
def EvenJalrTargets : Prop :=
  ∀ cycle, (run.state cycle).jalrRedirects run.params (run.inputs cycle) = true →
    IsEven (run.state cycle).idEx.srcAEx

theorem evenSources (bootEven : IsEven run.bootAddr) (targets : run.EvenJalrTargets)
    (cycle : Nat) : (run.state cycle).EvenSources := by
  induction cycle with
  | zero => exact CoreState.evenSources_reset bootEven
  | succ cycle induction =>
      rw [run.state_succ]
      exact CoreState.evenSources_step induction (targets cycle)

/-- The program counters stay even exactly when no `jalr` jumps to an odd sum. -/
theorem evenPcs_iff_evenJalrTargets (bootEven : IsEven run.bootAddr) :
    run.EvenThroughout ↔ run.EvenJalrTargets := by
  constructor
  · intro even cycle redirects
    have next := (even (cycle + 1)).pcIf
    rw [run.state_succ] at next
    exact CoreState.srcAEx_of_jalrRedirects redirects next
  · intro targets cycle
    exact (run.evenSources bootEven targets cycle).pcs

end CoreRun

namespace Surroundings

/-- `jalr x0, 8(x0)`, and nothing else. -/
def evenJalr : Surroundings where
  program := Surroundings.programOf [0x00800067#32]
  rest := 12

/-- `jalr x0, 1(x0)`. -/
def oddJalr : Surroundings where
  program := Surroundings.programOf [0x00100067#32]
  rest := 12

end Surroundings

namespace CoreRun

theorem evenPcs_evenJalr : Surroundings.evenJalr.coreRun.EvenThroughout :=
  (evenPcs_iff_evenJalrTargets Surroundings.evenJalr.coreRun rfl).mpr
    (Surroundings.evenJalr.forall_cycle_of_settled 22 (by decide) (fun _ _ => rfl)
      (by decide +kernel)
      (fun st port => st.jalrRedirects defaultParams port = true → IsEven st.idEx.srcAEx)
      (by decide +kernel))

/-- The lowest bit of the target reaches the program counter. -/
theorem evenPcs_fails :
    ¬ ∀ run : CoreRun, IsEven run.bootAddr → run.EvenThroughout := by
  intro always
  have even := (always Surroundings.oddJalr.coreRun rfl 5).pcIf
  rw [Surroundings.state_coreRun] at even
  revert even
  decide +kernel

end CoreRun

end RiscvCore
