import RiscvCore.DirectMemory
import RiscvCore.PipelineSteps

/-!
# The trap flush

What is left of the pipeline after a cycle of `EXC_FLUSH`.  A stage drops its operation in that
cycle only if it could have handed it on, so the flush is complete exactly when no stage is
held and every dirty register belongs to an operation whose dirty bit the flush clears.
-/

namespace RiscvCore

namespace CoreState

/-- No stage behind ID holds a live operation, and nothing is in progress or dirty. -/
structure PipelineEmpty (st : CoreState) : Prop where
  ex : st.idEx.lsuEnEx = false ∧ st.idEx.csrEnEx = false ∧ st.idEx.multEnEx = false ∧
    st.idEx.branchEx = false ∧ st.idEx.jumpEx = false ∧ st.idEx.rdWrEnEx = false ∧
      st.idEx.excTakenEx = false
  mem : st.exMem.lsuEnMem = false ∧ st.exMem.rdWrEnMem = false ∧ st.exMem.excTakenMem = false
  wb : st.memWb.lsuEnWb = false ∧ st.memWb.rdWrEnWb = false ∧ st.memWb.excTakenWb = false
  divider : st.div.fsmCs = .idle
  writeBack : ∀ port, st.readyWb port = true
  clean : ∀ reg, st.rf.dirtyEn reg = false

/-- An operation whose dirty bit the flush clears has this destination: the one in EX, the one
in MEM unless it is a load, or the one in WB. -/
def DroppedWriter (st : CoreState) (reg : RegAddr) : Prop :=
  (st.idEx.rdWrEnEx = true ∧ st.idEx.rdWrAddrEx = reg) ∨
    (st.exMem.lsuEnMem = false ∧ st.exMem.rdWrEnMem = true ∧ st.exMem.rdWrAddrMem = reg) ∨
      (st.memWb.rdWrEnWb = true ∧ st.memWb.rdWrAddrWb = reg)

instance (st : CoreState) (reg : RegAddr) : Decidable (st.DroppedWriter reg) :=
  inferInstanceAs (Decidable (_ ∨ _))

/-- The stages can drop what they hold: WB does not wait for a load or store and has no bus
error, no division is running, EX raises no exception of its own, and every dirty register is
the destination of an operation whose dirty bit is cleared. -/
structure FlushComplete (params : Params) (st : CoreState) (port : CoreInput) : Prop where
  writeBack : st.memWb.lsuEnWb = true → st.lsuValidWb port = true ∧ st.lsuErrWb port = false
  divider : st.readyDiv = true
  noException : st.excEx params = false
  dropped : ∀ reg, st.rf.dirtyEn reg = true → st.DroppedWriter reg

variable {params : Params} {st : CoreState} {port : CoreInput}

theorem readyWb_iff : st.readyWb port = true ↔
    (st.memWb.lsuEnWb = true → st.lsuValidWb port = true ∧ st.lsuErrWb port = false) := by
  cases enable : st.memWb.lsuEnWb <;> simp [readyWb, WbStage.readyWb, enable]

/-- A WB that waits keeps its load or store. -/
theorem writeBack_of_pipelineEmpty (empty : (st.step params port).PipelineEmpty) :
    st.readyWb port = true := by
  cases ready : st.readyWb port
  · have enable : st.memWb.lsuEnWb = true := by
      cases enable : st.memWb.lsuEnWb
      · simp [readyWb, WbStage.readyWb, enable] at ready
      · rfl
    have held := nextMemWbOperation_of_notReady ready
    have cleared := empty.wb.1
    simp only [step, nextMemWb, held, enable] at cleared
    cases cleared
  · rfl

/-- An EX that is not ready keeps its operation. -/
theorem idEx_cleared_of_pipelineEmpty (empty : (st.step params port).PipelineEmpty)
    (notReady : st.readyEx params port = false) :
    st.idEx.lsuEnEx = false ∧ st.idEx.csrEnEx = false ∧ st.idEx.multEnEx = false := by
  have held := nextIdExOperation_of_notReady notReady
  have cleared := empty.ex
  simp only [step, nextIdEx, held] at cleared
  exact ⟨cleared.1, cleared.2.1, cleared.2.2.1⟩

section Flush

variable (flushing : st.fsm = .excFlush)

include flushing

theorem flushE_of_flushing : st.flushE = true := by
  simp [flushE, Controller.flush, flushing]

theorem flushD_of_flushing : st.flushD = true := by
  simp [flushD, Controller.flush, flushing]

theorem stall_of_flushing : st.stall = false := by
  simp [stall, Controller.stall, flushing]

theorem readyMem_of_flushing : st.readyMem port = st.readyWb port := by
  simp [readyMem, MemStage.excMem, lsuReady, lsuAccess, MemStage.lsuAccess, Lsu.lsuReady,
    flushE_of_flushing flushing]

theorem validEx_of_flushing : st.validEx port = (st.readyWb port && st.readyDiv) := by
  simp [validEx, stall_of_flushing flushing, readyMem_of_flushing flushing]

theorem readyEx_of_flushing :
    st.readyEx params port = (st.readyWb port && st.readyDiv && !st.excEx params) := by
  rw [readyEx_eq, validEx_of_flushing flushing]

/-- A flush changes a dirty bit only by clearing it. -/
theorem dirtyEn_step_of_flushing (reg : RegAddr) :
    (st.step params port).rf.dirtyEn reg =
      (reg != 0#5 && !RegisterFile.clrDirty (st.rfInput params port) reg &&
        st.rf.dirtyEn reg) := by
  have noIssue : (st.invalidPort params port).en = false := by
    simp [invalidPort, flushD_of_flushing flushing]
  have noWrite : (st.rfWr port).en = false := by
    simp [rfWr, WbStage.rfWr, flushE_of_flushing flushing]
  simp only [step, RegisterFile.next]
  by_cases zero : reg = 0#5
  · simp [zero]
  · cases cleared : RegisterFile.clrDirty (st.rfInput params port) reg <;>
      simp [zero, rfInput, RegisterFile.AddrPort.hits, noIssue, noWrite]

theorem clrDirty_iff_of_flushing (reg : RegAddr) :
    RegisterFile.clrDirty (st.rfInput params port) reg = true ↔ st.DroppedWriter reg := by
  simp [RegisterFile.clrDirty, RegisterFile.AddrPort.hits, rfInput, ExStage.clrDirtyEx,
    MemStage.clrDirtyMem, MemStage.forwardMem, WbStage.clrDirtyWb,
    flushE_of_flushing flushing, DroppedWriter, and_assoc, or_assoc]

theorem pipelineEmpty_of_flushComplete
    (complete : st.FlushComplete params port) : (st.step params port).PipelineEmpty := by
  have readyWb : st.readyWb port = true := readyWb_iff.mpr complete.writeBack
  have readyEx : st.readyEx params port = true := by
    simp [readyEx_of_flushing flushing, readyWb, complete.divider, complete.noException]
  have readyMem : st.readyMem port = true := readyMem_of_readyEx readyEx
  have validEx : st.validEx port = true := validEx_of_readyEx readyEx
  have flushE := flushE_of_flushing flushing
  have flushD := flushD_of_flushing flushing
  have bubble := nextIdExOperation_of_bubble readyEx (.inr flushD)
  refine ⟨?_, ?_, ?_, ?_, ?_, ?_⟩
  · cases validId : st.validId params port <;>
      simp [step, nextIdEx, bubble, IdEx.flushed, IdStage.nextExcTakenEx, flushD, readyEx,
        validId]
  · simp [step, nextExMem, ExStage.nextOperation, ExStage.nextExcTakenMem, flushE, readyEx,
      validEx]
  · simp [step, nextMemWb, MemStage.nextOperation, MemStage.nextExcTakenWb, flushE,
      validMem_eq_readyMem, readyMem]
  · simp [step, Div.fsmCs_next, ExStage.divInput, flushE]
  · intro later
    simp [CoreState.readyWb, WbStage.readyWb, step, nextMemWb, MemStage.nextOperation, flushE,
      validMem_eq_readyMem, readyMem]
  · intro reg
    rw [dirtyEn_step_of_flushing flushing]
    cases dirty : st.rf.dirtyEn reg
    · simp
    · simp [(clrDirty_iff_of_flushing flushing reg).mpr (complete.dropped reg dirty)]

theorem flushComplete_of_pipelineEmpty (owned : st.DividerOwned)
    (noDirtyZero : st.rf.dirtyEn 0#5 = false)
    (empty : (st.step params port).PipelineEmpty) : st.FlushComplete params port := by
  have readyWb := writeBack_of_pipelineEmpty empty
  have divider : st.readyDiv = true := by
    cases busy : st.readyDiv
    · have notReady : st.readyEx params port = false := by
        simp [readyEx_of_flushing flushing, busy]
      have noMult := (idEx_cleared_of_pipelineEmpty empty notReady).2.2
      have notEnabled : ExStage.divEn st.idEx = false := by simp [ExStage.divEn, noMult]
      have idle : st.div.fsmCs = .idle := by
        by_cases idle : st.div.fsmCs = .idle
        · exact idle
        · rw [owned idle] at notEnabled
          cases notEnabled
      simp [readyDiv, Div.ready, idle, notEnabled] at busy
    · rfl
  have noException : st.excEx params = false := by
    cases exception : st.excEx params
    · rfl
    · have notReady : st.readyEx params port = false := by simp [readyEx_eq, exception]
      obtain ⟨noLsu, noCsr, -⟩ := idEx_cleared_of_pipelineEmpty empty notReady
      have noDenial : st.pmpErr = false := pmpErr_of_noAccess noLsu
      have noIllegal : st.illegalCsr = false := illegalCsr_of_noAccess noCsr
      simp [excEx, noDenial, noIllegal] at exception
  refine ⟨readyWb_iff.mp readyWb, divider, noException, fun reg dirty => ?_⟩
  have clean := empty.clean reg
  rw [dirtyEn_step_of_flushing flushing, dirty] at clean
  have notZero : reg ≠ 0#5 := fun zero => by
    rw [zero, noDirtyZero] at dirty
    cases dirty
  exact (clrDirty_iff_of_flushing flushing reg).mp (by simpa [notZero] using clean)

end Flush

end CoreState

namespace CoreRun

open Surroundings (userIdles)

/-- In every reachable flush state and for every input, the pipeline is empty after the edge
exactly when the flush can be complete. -/
theorem pipelineEmpty_iff_flushComplete (run : CoreRun) (cycle : Nat)
    (flushing : (run.state cycle).fsm = .excFlush) (port : CoreInput) :
    ((run.state cycle).step run.params port).PipelineEmpty ↔
      (run.state cycle).FlushComplete run.params port :=
  ⟨CoreState.flushComplete_of_pipelineEmpty flushing (run.dividerOwned cycle)
      (run.dirtyEn_zero cycle),
    CoreState.pipelineEmpty_of_flushComplete flushing⟩

/-- The `mret` that enters user code is flushed completely. -/
theorem pipelineEmpty_userIdles :
    ((userIdles.coreRun.state 10).step defaultParams (userIdles.portAt 10)).PipelineEmpty := by
  refine (pipelineEmpty_iff_flushComplete userIdles.coreRun 10 ?_ _).mpr ⟨?_, ?_, ?_, ?_⟩
  all_goals rw [Surroundings.state_coreRun]; decide +kernel

/-- A single load, which the data memory answers with an error. -/
def loadFaults : Surroundings where
  program := Surroundings.programOf [0x00002083#32] -- lw x1, 0(x0)
  dataAnswer := fun _ => (0#32, true)

/-- The load is still in WB after the flush and waits for an answer that never comes. -/
theorem pipelineEmpty_fails :
    ¬ ∀ (run : CoreRun) (program : Word → Word × Bool), run.WellConnected program →
      ∀ cycle, (run.state cycle).fsm = .excFlush → (run.state (cycle + 1)).PipelineEmpty := by
  intro flushes
  have flushing : (loadFaults.coreRun.state 7).fsm = .excFlush := by
    rw [Surroundings.state_coreRun]
    decide +kernel
  have held : (loadFaults.coreRun.state 8).memWb.lsuEnWb = true := by
    rw [Surroundings.state_coreRun]
    decide +kernel
  have empty := flushes loadFaults.coreRun _ loadFaults.wellConnected 7 flushing
  rw [empty.wb.1] at held
  cases held

end CoreRun

end RiscvCore
