import RiscvCore.PipelineSteps
import RiscvCore.SystemInstructions

/-!
# What one clock edge does to the trap logic

The transitions of the controller, the sources that record a cause, and the masking of the
instruction in ID.
-/

namespace RiscvCore

namespace Controller

variable {fsm : ControlFsm} {port : Input}

/-- A cause is recorded by a trap that finds a source of its own, and on waking up. -/
theorem mcauseUpdate_iff : (trapUpdate fsm port).mcauseUpdate = true ↔
    (port.excTaken = true ∧
      (port.isLsuStoreErr = true ∨ port.isPmpStoreErr = true ∨ port.isLsuLoadErr = true ∨
        port.isPmpLoadErr = true ∨ port.isEcall = true ∨ port.isEbreak = true ∨
          port.isIllegalInstr = true ∨ port.isIllegalCsr = true ∨
            port.isInstrAcsFault = true ∨ (port.isWfi = false ∧ port.isInterrupt = true))) ∨
      (port.excTaken = false ∧ fsm = .wakeup) := by
  unfold trapUpdate
  repeat' split
  all_goals grind [recorded, noUpdate]

theorem excFetch_excFlush {isFence isMret isWfi : Bool} {pcIf mepc mtvec : Word} :
    (excFetch .excFlush isFence isMret isWfi pcIf mepc mtvec).1 = true ↔
      isFence = true ∨ isMret = true ∨ isWfi = false := by
  unfold excFetch
  cases isFence <;> cases isMret <;> cases isWfi <;> simp

end Controller

namespace CoreState

variable {params : Params} {st : CoreState} {port : CoreInput}

theorem fsm_step : (st.step params port).fsm =
    Controller.fsmControlNs st.fsm (st.controllerInput params port) := rfl

theorem fsm_step_idle (idle : st.fsm = .idle) :
    (st.step params port).fsm = if st.excTaken port then .excFlush else .idle := by
  rw [fsm_step, idle]
  rfl

theorem fsm_step_excFlush (flushing : st.fsm = .excFlush) :
    (st.step params port).fsm = if st.isWfi params port then .sleep else .idle := by
  rw [fsm_step, flushing]
  rfl

theorem fsm_step_sleep (asleep : st.fsm = .sleep) :
    (st.step params port).fsm = .sleep ∨ (st.step params port).fsm = .wakeup := by
  rw [fsm_step, asleep, Controller.fsmControlNs]
  split
  · exact .inr rfl
  · exact .inl rfl

theorem fsm_step_wakeup (waking : st.fsm = .wakeup) : (st.step params port).fsm = .idle := by
  rw [fsm_step, waking]
  rfl

theorem excFetch_idle (idle : st.fsm = .idle) : st.excFetch params port = false := by
  rw [excFetch, excFetchAndPc, idle]
  rfl

theorem excFetch_sleep (asleep : st.fsm = .sleep) : st.excFetch params port = false := by
  rw [excFetch, excFetchAndPc, asleep]
  rfl

theorem excFetch_wakeup (waking : st.fsm = .wakeup) : st.excFetch params port = true := by
  rw [excFetch, excFetchAndPc, waking]
  rfl

theorem setPc_of_excFetch (redirects : st.excFetch params port = true) :
    st.setPc params port = (st.excFetchAndPc params port).2 := by
  rw [setPc, if_pos redirects]

theorem setPc_wakeup (waking : st.fsm = .wakeup) :
    st.setPc params port = Controller.trapVector st.csr.mtvecQ := by
  rw [setPc_of_excFetch (excFetch_wakeup waking), excFetchAndPc, waking]
  rfl

/-- In a flush cycle the target is the trap vector unless `fence.i` or `mret` is in ID. -/
theorem setPc_excFlush (flushing : st.fsm = .excFlush) (noFence : st.isFence params port = false)
    (noMret : st.isMret params port = false) (noWfi : st.isWfi params port = false) :
    st.excFetch params port = true ∧
      st.setPc params port = Controller.trapVector st.csr.mtvecQ := by
  have target : st.excFetchAndPc params port = (true, Controller.trapVector st.csr.mtvecQ) := by
    simp [excFetchAndPc, Controller.excFetch, flushing, noFence, noMret, noWfi]
  have redirects : st.excFetch params port = true := by rw [excFetch, target]
  rw [setPc_of_excFetch redirects, target]
  exact ⟨redirects, rfl⟩

theorem excFetch_excFlush_of_wfi (flushing : st.fsm = .excFlush)
    (noFence : st.isFence params port = false) (noMret : st.isMret params port = false)
    (isWfi : st.isWfi params port = true) : st.excFetch params port = false := by
  simp [excFetch, excFetchAndPc, Controller.excFetch, flushing, noFence, noMret, isWfi]

theorem interruptTakenId_of_flushD (flush : st.flushD = true) :
    st.interruptTakenId params port = false := by
  rw [interruptTakenId, flush]
  rfl

theorem isInterrupt_of_flushD (flush : st.flushD = true) :
    st.isInterrupt params port = false := by
  rw [isInterrupt, interruptTakenId_of_flushD flush, Bool.and_false]

theorem issues_of_flushD (flush : st.flushD = true) : st.issues params port = false := by
  simp [issues, flush]

theorem issues_of_stall (stalled : st.stall = true) : st.issues params port = false := by
  simp [issues, readyId, stallId, stalled]

theorem issues_of_noInstr (noInstr : st.ifs.instrValueId = false) :
    st.issues params port = false := by
  simp [issues, noInstr]

theorem stall_of_sleep (asleep : st.fsm = .sleep) : st.stall = true := by
  simp [stall, Controller.stall, asleep]

theorem instrValueId_step : (st.step params port).ifs.instrValueId =
    if st.flushD then false
    else if st.readyId params port && !st.stall then
      st.ifs.insnValue (st.ifInput params port)
    else st.ifs.instrValueId := by
  cases flush : st.flushD
  · cases ready : st.readyId params port && !st.stall <;>
      simp [step, IfStage.next, IfStage.nextIfId, IfStage.readyIf, ifInput, flush, ready]
  · simp [step, IfStage.next, IfStage.nextIfId, ifInput, flush]

/-- ID holds no instruction while the core sleeps or wakes up. -/
def NoInstrAsleep (st : CoreState) : Prop :=
  st.fsm = .sleep ∨ st.fsm = .wakeup → st.ifs.instrValueId = false

theorem noInstrAsleep_step (before : st.NoInstrAsleep) :
    (st.step params port).NoInstrAsleep := by
  intro asleepNext
  rw [instrValueId_step]
  cases current : st.fsm with
  | idle =>
      rw [fsm_step_idle current] at asleepNext
      split at asleepNext <;> simp at asleepNext
  | excFlush => simp [flushD, Controller.flush, current]
  | sleep =>
      have noInstr := before (.inl current)
      simp [stall_of_sleep current, noInstr]
  | wakeup =>
      rw [fsm_step_wakeup current] at asleepNext
      simp at asleepNext

/-- An exception of EX masks what ID shows the controller. -/
theorem idSignal_of_excEx (exception : st.excEx params = true) (decodedEn : Bool) :
    st.idSignal params port decodedEn = false := by
  simp [idSignal, readyEx, exception]

theorem idSignal_of_fetchError (fault : st.ifs.instrFetchError = true) (decodedEn : Bool) :
    st.idSignal params port decodedEn = false := by
  simp [idSignal, fault]

theorem excEx_of_pmpErr (denied : st.pmpErr = true) : st.excEx params = true := by
  simp [excEx, denied]

/-- A cause recorded in a flush cycle without a bus error excludes the three instructions that
change where the flush goes. -/
theorem noDiversion_of_recorded (flushing : st.fsm = .excFlush)
    (records : st.mcauseUpdate params port = true)
    (noLoadErr : st.isLsuLoadErr port = false) (noStoreErr : st.isLsuStoreErr port = false) :
    st.isFence params port = false ∧ st.isMret params port = false ∧
      st.isWfi params port = false := by
  have masked (exception : st.excEx params = true) :
      st.isFence params port = false ∧ st.isMret params port = false ∧
        st.isWfi params port = false :=
    ⟨idSignal_of_excEx exception _, idSignal_of_excEx exception _, idSignal_of_excEx exception _⟩
  obtain ⟨kind, hasKind, -⟩ :=
    exists_hasKind_decoder st.ifs.instrPayloadId st.ifs.instrValueId
  -- another system instruction in ID excludes the three by its kind
  have otherKind {decodedEn : Bool} {other : SystemKind}
      (shown : st.idSignal params port decodedEn = true)
      (isOther : decodedEn = decide (kind = some other))
      (notFence : other ≠ .fence) (notMret : other ≠ .mret) (notWfi : other ≠ .wfi) :
      st.isFence params port = false ∧ st.isMret params port = false ∧
        st.isWfi params port = false := by
    have enabled : decodedEn = true := by
      simp only [idSignal, Bool.and_eq_true] at shown
      exact shown.2
    have kindEq : kind = some other := by simpa [enabled] using isOther.symm
    simp [isFence, isMret, isWfi, idSignal, decoded, hasKind.fence, hasKind.mret, hasKind.wfi,
      kindEq, notFence, notMret, notWfi]
  rcases Controller.mcauseUpdate_iff.mp records with ⟨-, source⟩ | ⟨-, waking⟩
  · rcases source with storeErr | pmpStore | loadErr | pmpLoad | ecall | ebreak | illegal |
      illegalCsr | fault | ⟨-, interrupt⟩
    · exact absurd (storeErr.symm.trans noStoreErr) (by simp)
    · refine masked (excEx_of_pmpErr ?_)
      simp only [controllerInput, isPmpStoreErr, ExStage.isPmpStoreErr, Bool.and_eq_true]
        at pmpStore
      exact pmpStore.1.1
    · exact absurd (loadErr.symm.trans noLoadErr) (by simp)
    · refine masked (excEx_of_pmpErr ?_)
      simp only [controllerInput, isPmpLoadErr, ExStage.isPmpLoadErr, Bool.and_eq_true]
        at pmpLoad
      exact pmpLoad.1.1
    · exact otherKind ecall hasKind.ecall (by decide) (by decide) (by decide)
    · exact otherKind ebreak hasKind.ebreak (by decide) (by decide) (by decide)
    · exact otherKind illegal hasKind.illegal (by decide) (by decide) (by decide)
    · refine masked ?_
      simp only [controllerInput, isIllegalCsr, Bool.and_eq_true] at illegalCsr
      simp [excEx, illegalCsr.1, illegalCsr.2.1]
    · have fetchError : st.ifs.instrFetchError = true := by
        simp only [controllerInput, isInstrAcsFault, instrAcsFault, IdStage.instrAcsFault,
          Bool.and_eq_true] at fault
        exact fault.2.2
      exact ⟨idSignal_of_fetchError fetchError _, idSignal_of_fetchError fetchError _,
        idSignal_of_fetchError fetchError _⟩
    · have flush : st.flushD = true := by simp [flushD, Controller.flush, flushing]
      simp [controllerInput, isInterrupt, interruptTakenId, flush] at interrupt
  · rw [flushing] at waking
    cases waking

end CoreState

namespace CoreRun

theorem noInstrAsleep (run : CoreRun) (cycle : Nat) : (run.state cycle).NoInstrAsleep :=
  run.invariant CoreState.NoInstrAsleep (fun _ => rfl)
    (fun _ _ before => CoreState.noInstrAsleep_step before) cycle

end CoreRun

end RiscvCore
