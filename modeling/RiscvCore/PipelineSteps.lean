import RiscvCore.CoreRun

/-!
# What one clock edge does to the pipeline registers

Each register of the pipeline is held, cleared or loaded, depending on three or four handshake
nets.  The lemmas of this file say so once for each register; later files do not unfold the
step function again.
-/

namespace RiscvCore

theorem Div.fsmCs_next (div : Div) (port : Div.Input) :
    (div.next port).fsmCs = if port.flush then .idle else div.fsmNs port := by
  simp only [Div.next, apply_ite Div.fsmCs, ite_self]

namespace CoreState

variable {params : Params} {st : CoreState} {port : CoreInput}

theorem readyEx_of_readyId (ready : st.readyId params port = true) :
    st.readyEx params port = true := by
  simp only [readyId, Bool.and_eq_true] at ready
  exact ready.1.2

theorem validEx_of_readyEx (ready : st.readyEx params port = true) :
    st.validEx port = true := by
  simp only [readyEx, Bool.and_eq_true] at ready
  simp only [validEx, Bool.and_eq_true]
  exact ready.1

theorem readyMem_of_validEx (valid : st.validEx port = true) : st.readyMem port = true := by
  simp only [validEx, Bool.and_eq_true] at valid
  exact valid.1.2

theorem readyWb_of_readyMem (ready : st.readyMem port = true) : st.readyWb port = true := by
  simp only [readyMem, Bool.and_eq_true] at ready
  exact ready.1.1

/-- MEM hands its operation to WB exactly when it is ready for the next one. -/
theorem validMem_eq_readyMem : st.validMem port = st.readyMem port := by
  simp [validMem, readyMem, MemStage.excMem]

theorem readyMem_of_readyEx (ready : st.readyEx params port = true) :
    st.readyMem port = true :=
  readyMem_of_validEx (validEx_of_readyEx ready)

theorem readyEx_eq : st.readyEx params port = (st.validEx port && !st.excEx params) := rfl

/-- EX keeps its operation while it is not ready. -/
theorem nextIdExOperation_of_notReady (notReady : st.readyEx params port = false) :
    st.nextIdExOperation params port = st.idEx := by
  have notReadyId : st.readyId params port = false := by
    simp [readyId, notReady]
  simp [nextIdExOperation, notReady, notReadyId]

/-- A ready EX gets an empty operation when ID is flushed or not ready. -/
theorem nextIdExOperation_of_bubble (ready : st.readyEx params port = true)
    (bubble : st.readyId params port = false ∨ st.flushD = true) :
    st.nextIdExOperation params port = st.idEx.flushed := by
  rcases bubble with notReady | flush
  · simp [nextIdExOperation, ready, notReady]
  · cases readyNow : st.readyId params port <;>
      simp [nextIdExOperation, ready, flush, readyNow]

/-- Otherwise it gets the instruction in ID. -/
theorem nextIdExOperation_of_issue (ready : st.readyId params port = true)
    (noFlush : st.flushD = false) :
    st.nextIdExOperation params port =
      IdStage.issued st.idEx st.ifs st.decoded (st.rs1RdData port) (st.rs2RdData port)
        (st.rf.newTag (st.invalidPort params port)) := by
  simp [nextIdExOperation, ready, noFlush]

/-- The operation in EX after an edge: empty, new, or the present one. -/
theorem nextIdExOperation_cases (params : Params) (st : CoreState) (port : CoreInput) :
    st.nextIdExOperation params port = st.idEx.flushed ∨
      st.nextIdExOperation params port =
        IdStage.issued st.idEx st.ifs st.decoded (st.rs1RdData port) (st.rs2RdData port)
          (st.rf.newTag (st.invalidPort params port)) ∨
      st.nextIdExOperation params port = st.idEx := by
  unfold nextIdExOperation
  split
  · exact Or.inl rfl
  · split
    · exact Or.inr (Or.inl rfl)
    · exact Or.inr (Or.inr rfl)

theorem nextExMemOperation_of_notReady (notReady : st.readyMem port = false) :
    ExStage.nextOperation st.exMem st.idEx (st.rdWrDataEx port) (st.readyEx params port)
      (st.validEx port) (st.readyMem port) st.flushE st.pmpErr = st.exMem := by
  have notValid : st.validEx port = false := by simp [validEx, notReady]
  have notReadyEx : st.readyEx params port = false := by simp [readyEx_eq, notValid]
  simp [ExStage.nextOperation, notReady, notValid, notReadyEx]

theorem nextMemWbOperation_of_notReady (notReady : st.readyWb port = false) :
    MemStage.nextOperation st.memWb st.exMem (st.validMem port) (st.readyWb port) st.flushE =
      st.memWb := by
  have notValid : st.validMem port = false := by simp [validMem, notReady]
  simp [MemStage.nextOperation, notReady, notValid]

/-- Only a load or store is denied by the access check. -/
theorem pmpErr_of_noAccess (noAccess : st.idEx.lsuEnEx = false) : st.pmpErr = false := by
  simp only [pmpErr, ExStage.pmpErr, Pmp.wiredPmpErr, Pmp.pmpErr, Pmp.Entries.pmpErrO, noAccess,
    Bool.false_and, ite_self]

theorem illegalCsr_of_noAccess (noAccess : st.idEx.csrEnEx = false) :
    st.illegalCsr = false := by
  simp [illegalCsr, Csr.illegalCsr, csrAccess, ExStage.csrAccess, noAccess]

/-! ## Loads, stores and trap markers

Where the enable of a load or store and the trap marker go in one step. -/

theorem instrValueId_of_lsuEn (access : st.decoded.lsuEn = true) : st.ifs.instrValueId = true := by
  cases valid : st.ifs.instrValueId
  · rw [decoded, valid] at access
    cases access
  · rfl

theorem lsuEnEx_step :
    (st.step params port).idEx.lsuEnEx =
      if st.readyEx params port then st.issues params port && st.decoded.lsuEn
      else st.idEx.lsuEnEx := by
  change (st.nextIdExOperation params port).lsuEnEx = _
  cases readyEx : st.readyEx params port with
  | false =>
      rw [nextIdExOperation_of_notReady readyEx]
      rfl
  | true =>
      rw [if_pos rfl, issues]
      cases readyId : st.readyId params port with
      | false =>
          rw [nextIdExOperation_of_bubble readyEx (Or.inl readyId), Bool.and_false, Bool.false_and,
            Bool.false_and]
          rfl
      | true =>
          cases flush : st.flushD with
          | true =>
              rw [nextIdExOperation_of_bubble readyEx (Or.inr flush), Bool.not_true,
                Bool.and_false, Bool.false_and]
              rfl
          | false =>
              rw [nextIdExOperation_of_issue readyId flush]
              change st.decoded.lsuEn = _
              cases access : st.decoded.lsuEn with
              | false => rw [Bool.and_false]
              | true => rw [instrValueId_of_lsuEn access]; rfl

theorem lsuEnMem_step :
    (st.step params port).exMem.lsuEnMem =
      if st.readyMem port then st.readyEx params port && !st.flushE && st.idEx.lsuEnEx
      else st.exMem.lsuEnMem := by
  change (ExStage.nextOperation st.exMem st.idEx (st.rdWrDataEx port) (st.readyEx params port)
    (st.validEx port) (st.readyMem port) st.flushE st.pmpErr).lsuEnMem = _
  cases readyMem : st.readyMem port with
  | false =>
      have held : ExStage.nextOperation _ _ _ (st.readyEx params port) _ _ _ _ = _ :=
        nextExMemOperation_of_notReady readyMem
      rw [readyMem] at held
      rw [held]
      rfl
  | true =>
      cases readyEx : st.readyEx params port with
      | false => simp [ExStage.nextOperation]
      | true =>
          have valid := validEx_of_readyEx readyEx
          have allowed : st.pmpErr = false := by
            rw [CoreState.readyEx_eq, valid, excEx] at readyEx
            cases denied : st.pmpErr
            · rfl
            · simp [denied] at readyEx
          cases flush : st.flushE <;> simp [ExStage.nextOperation, valid, allowed]

theorem lsuEnWb_step :
    (st.step params port).memWb.lsuEnWb =
      if st.readyWb port then st.readyMem port && !st.flushE && st.exMem.lsuEnMem
      else st.memWb.lsuEnWb := by
  change (MemStage.nextOperation st.memWb st.exMem (st.validMem port) (st.readyWb port)
    st.flushE).lsuEnWb = _
  rw [validMem_eq_readyMem]
  cases readyWb : st.readyWb port with
  | false =>
      have notReady : st.readyMem port = false := by simp [readyMem, readyWb]
      simp [MemStage.nextOperation, notReady]
  | true =>
      cases readyMem : st.readyMem port <;> cases flush : st.flushE <;>
        simp [MemStage.nextOperation]

theorem excTakenMem_step :
    (st.step params port).exMem.excTakenMem =
      if st.readyMem port then
        st.validEx port && !st.flushE && (st.idEx.excTakenEx || st.excEx params)
      else st.exMem.excTakenMem := by
  change ExStage.nextExcTakenMem _ _ _ _ _ _ = _
  cases readyMem : st.readyMem port with
  | false =>
      have notValid : st.validEx port = false := by simp [validEx, readyMem]
      simp [ExStage.nextExcTakenMem, notValid]
  | true =>
      cases valid : st.validEx port <;> cases flush : st.flushE <;>
        simp [ExStage.nextExcTakenMem]

theorem excTakenWb_step :
    (st.step params port).memWb.excTakenWb =
      if st.readyWb port then st.readyMem port && !st.flushE && st.exMem.excTakenMem
      else st.memWb.excTakenWb := by
  change MemStage.nextExcTakenWb _ _ _ _ _ = _
  rw [validMem_eq_readyMem]
  cases readyWb : st.readyWb port with
  | false =>
      have notReady : st.readyMem port = false := by simp [readyMem, readyWb]
      simp [MemStage.nextExcTakenWb, notReady]
  | true =>
      cases readyMem : st.readyMem port <;> cases flush : st.flushE <;>
        simp [MemStage.nextExcTakenWb, MemStage.excMem]

/-- A marker in EX was there and its instruction cannot leave ID, or EX is held. -/
theorem marker_of_excTakenEx_step (marker : (st.step params port).idEx.excTakenEx = true) :
    (st.validId params port = false ∧ st.readyEx params port = false ∧
        st.idEx.excTakenEx = true) ∨
      (st.validId params port = true ∧ st.flushD = false ∧
        (st.idEx.excTakenEx = true ∨ st.excTakenId params port = true)) := by
  change IdStage.nextExcTakenEx _ _ _ _ _ = true at marker
  revert marker
  rw [IdStage.nextExcTakenEx]
  cases st.validId params port <;> cases st.flushD <;> cases st.readyEx params port <;>
    cases st.idEx.excTakenEx <;> simp

/-- A divider that works belongs to the division in EX. -/
def DividerOwned (st : CoreState) : Prop :=
  st.div.fsmCs ≠ .idle → ExStage.divEn st.idEx = true

/-- While the divider is not ready, EX keeps its operation. -/
theorem nextIdEx_of_dividerBusy (busy : st.readyDiv = false) :
    st.nextIdExOperation params port = st.idEx := by
  have notValid : st.validEx port = false := by simp [validEx, busy]
  exact nextIdExOperation_of_notReady (by simp [readyEx_eq, notValid])

theorem divEn_nextIdEx (idEx : st.nextIdExOperation params port = st.idEx) :
    ExStage.divEn (st.step params port).idEx = ExStage.divEn st.idEx := by
  simp only [step, nextIdEx, idEx, ExStage.divEn]

theorem dividerOwned_step (owned : st.DividerOwned) : (st.step params port).DividerOwned := by
  intro notIdle
  have fsm : (st.step params port).div.fsmCs =
      if st.flushE then .idle
      else st.div.fsmNs (ExStage.divInput st.idEx st.flushE) := by
    exact Div.fsmCs_next st.div (ExStage.divInput st.idEx st.flushE)
  have noFlush : st.flushE = false := by
    cases flush : st.flushE
    · rfl
    · simp [fsm, flush] at notIdle
  have enabled : ExStage.divEn st.idEx = true := by
    by_cases idle : st.div.fsmCs = .idle
    · cases enable : ExStage.divEn st.idEx
      · simp [fsm, noFlush, Div.fsmNs, idle, ExStage.divInput, enable] at notIdle
      · rfl
    · exact owned idle
  have busy : st.readyDiv = false := by
    cases current : st.div.fsmCs
    · simp [readyDiv, Div.ready, current, enabled]
    · simp [readyDiv, Div.ready, current]
    · simp [fsm, noFlush, Div.fsmNs, current] at notIdle
  rw [divEn_nextIdEx (nextIdEx_of_dividerBusy busy)]
  exact enabled

theorem dirtyEn_zero_step : (st.step params port).rf.dirtyEn 0#5 = false := by
  simp [step, RegisterFile.next]

end CoreState

namespace CoreRun

theorem dividerOwned (run : CoreRun) (cycle : Nat) : (run.state cycle).DividerOwned :=
  run.invariant CoreState.DividerOwned (fun notIdle => absurd rfl notIdle)
    (fun _ _ owned => CoreState.dividerOwned_step owned) cycle

theorem dirtyEn_zero (run : CoreRun) (cycle : Nat) :
    (run.state cycle).rf.dirtyEn 0#5 = false :=
  run.invariant (fun st => st.rf.dirtyEn 0#5 = false) rfl
    (fun _ _ _ => CoreState.dirtyEn_zero_step) cycle

end CoreRun

end RiscvCore
