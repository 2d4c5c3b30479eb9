import RiscvCore.DataResponses
import RiscvCore.InstructionUnits
import RiscvCore.TrapFlush
import RiscvCore.TrapSteps

/-!
# Split accesses and trap flushes

A flush does not reset `unalign_q`.  It finds it clear as long as no load or store follows a
trap marker into MEM: the stages behind a marker hold no access, or one that the access check
still denies.  The first request after the flush then goes to its own address, and the response to
it is taken as its own when none was outstanding in the flush.
-/

namespace RiscvCore

open BusProtocol (InOrder pending)
open SynchronousRun (FirstFrom)

/-- WB holds the load or store that MEM held. -/
structure MemWb.HoldsAccess (wb : MemWb) (mem : ExMem) : Prop where
  access : wb.lsuEnWb = true
  op : wb.lsuOpWb = mem.lsuOpMem
  writes : wb.rdWrEnWb = mem.rdWrEnMem
  addr : wb.rdWrAddrWb = mem.rdWrAddrMem

namespace CoreState

variable {params : Params} {st : CoreState} {port : CoreInput}

theorem holdsAccess_step_of_readyMem (noFlush : st.flushE = false)
    (access : st.exMem.lsuEnMem = true) (ready : st.readyMem port = true) :
    (st.step params port).memWb.HoldsAccess st.exMem := by
  have valid : st.validMem port = true := validMem_eq_readyMem.trans ready
  constructor <;> simp [step, nextMemWb, MemStage.nextOperation, valid, noFlush, access]

/-- A waiting WB keeps its access, a flush notwithstanding. -/
theorem holdsAccess_step_of_waits {mem : ExMem} (holds : st.memWb.HoldsAccess mem)
    (waits : st.readyWb port = false) : (st.step params port).memWb.HoldsAccess mem := by
  have operation := nextMemWbOperation_of_notReady waits
  have access := congrArg MemWb.lsuEnWb operation
  have op := congrArg MemWb.lsuOpWb operation
  have writes := congrArg MemWb.rdWrEnWb operation
  have addr := congrArg MemWb.rdWrAddrWb operation
  exact ⟨access.trans holds.access, op.trans holds.op, writes.trans holds.writes,
    addr.trans holds.addr⟩

theorem mcauseUpdate_of_noTrap (params : Params) (idle : st.fsm = .idle)
    (noTrap : st.excTaken port = false) : st.mcauseUpdate params port = false := by
  cases records : st.mcauseUpdate params port with
  | false => rfl
  | true =>
      rcases Controller.mcauseUpdate_iff.mp records with ⟨taken, -⟩ | ⟨-, waking⟩
      · exact absurd (taken.symm.trans noTrap) (by decide)
      · rw [idle] at waking
        cases waking

/-- An EX without a CSR instruction leaves the PMP registers alone. -/
theorem pmpRegisters_step_of_noCsr (params : Params) (port : CoreInput)
    (noCsr : st.idEx.csrEnEx = false) :
    (st.step params port).csr.pmpcfgQ = st.csr.pmpcfgQ ∧
      (st.step params port).csr.pmpaddrQ = st.csr.pmpaddrQ := by
  constructor
  · funext entry
    simp [step, Csr.next, Csr.pmpcfgN, Csr.pmpcfgEnteryEn, Csr.pmpcfgEn, csrInput, csrAccess,
      ExStage.csrAccess, noCsr]
  · funext entry
    simp [step, Csr.next, Csr.pmpaddrN, Csr.pmpaddrEnteryEn, Csr.pmpaddrEn, csrInput, csrAccess,
      ExStage.csrAccess, noCsr]

/-- Without a trap and with EX held, the privilege stays. -/
theorem privilegeModeQ_step_of_held (idle : st.fsm = .idle) (noTrap : st.excTaken port = false)
    (held : st.readyEx params port = false) :
    (st.step params port).csr.privilegeModeQ = st.csr.privilegeModeQ := by
  have noMret : st.isMret params port = false := by simp [isMret, idSignal, held]
  have noCause := mcauseUpdate_of_noTrap params idle noTrap
  simp [step, Csr.next, Csr.privilegeModeN, csrInput, noMret, noCause]

/-- A held EX asks for the same access, and is denied it in the same privilege mode. -/
theorem pmpErr_step_of_sameMode (held : st.readyEx params port = false)
    (noCsr : st.idEx.csrEnEx = false)
    (sameMode : (st.step params port).csr.privilegeModeQ = st.csr.privilegeModeQ) :
    (st.step params port).pmpErr = st.pmpErr := by
  have operation : st.nextIdExOperation params port = st.idEx :=
    nextIdExOperation_of_notReady held
  obtain ⟨pmpcfg, pmpaddr⟩ := pmpRegisters_step_of_noCsr params port noCsr
  rw [pmpErr, ExStage.pmpErr, sameMode, pmpcfg, pmpaddr]
  simp only [step, nextIdEx, operation]
  rfl

theorem pmpErr_step_of_held (idle : st.fsm = .idle) (noTrap : st.excTaken port = false)
    (held : st.readyEx params port = false) (noCsr : st.idEx.csrEnEx = false) :
    (st.step params port).pmpErr = st.pmpErr :=
  pmpErr_step_of_sameMode held noCsr (privilegeModeQ_step_of_held idle noTrap held)

/-- No load or store follows a trap marker. -/
structure NoAccessBehindMarker (st : CoreState) : Prop where
  owned : st.SplitOwned
  ex : st.idEx.excTakenEx = true → st.idEx.lsuEnEx = false
  mem : st.exMem.excTakenMem = true →
    st.exMem.lsuEnMem = false ∧
      (st.idEx.lsuEnEx = true → st.pmpErr = true ∨ st.fsm = .excFlush)
  wb : st.memWb.excTakenWb = true →
    st.exMem.lsuEnMem = false ∧ st.memWb.lsuEnWb = false
  asleep : st.fsm = .sleep ∨ st.fsm = .wakeup →
    st.idEx.lsuEnEx = false ∧ st.exMem.lsuEnMem = false ∧ st.memWb.lsuEnWb = false
  flushing : st.fsm = .excFlush → st.lsu.unalignQ = false ∧ st.memWb.lsuEnWb = false

theorem noAccessBehindMarker_reset (bootAddr : Word) :
    (reset bootAddr).NoAccessBehindMarker where
  owned := fun split => by cases split
  ex := fun _ => rfl
  mem := fun marker => by cases marker
  wb := fun marker => by cases marker
  asleep := fun _ => ⟨rfl, rfl, rfl⟩
  flushing := fun _ => ⟨rfl, rfl⟩

/-- A load or store issues while a marker is in EX. -/
def accessBehindMarker (params : Params) (st : CoreState) (port : CoreInput) : Bool :=
  st.idEx.excTakenEx && st.issues params port && st.decoded.lsuEn

/-- The bus reports an error while the controller could take a trap. -/
def busError (st : CoreState) (port : CoreInput) : Bool :=
  st.fsm == .idle && st.lsuValidWb port && st.lsuErrWb port

theorem grant_of_noAccess
    (requested : port.dataGnt = true → Lsu.dataReq (st.lsuAccess port) = true)
    (noAccess : st.exMem.lsuEnMem = false) : port.dataGnt = false := by
  cases grant : port.dataGnt with
  | false => rfl
  | true =>
      rw [(access_of_dataReq (requested grant)).1] at noAccess
      cases noAccess

theorem flushE_eq : st.flushE = (st.fsm == .excFlush) := rfl

/-- While the core sleeps or wakes up, no stage holds a load or store. -/
def NoAccessAsleep (st : CoreState) : Prop :=
  st.fsm = .sleep ∨ st.fsm = .wakeup →
    st.idEx.lsuEnEx = false ∧ st.exMem.lsuEnMem = false ∧ st.memWb.lsuEnWb = false

theorem noAccessAsleep_step (before : st.NoAccessAsleep) :
    (st.step params port).NoAccessAsleep := by
  intro asleep
  rw [lsuEnEx_step, lsuEnMem_step, lsuEnWb_step]
  cases fsm : st.fsm with
  | idle =>
      rw [fsm_step_idle fsm] at asleep
      split at asleep <;> simp at asleep
  | excFlush =>
      rw [fsm_step_excFlush fsm] at asleep
      have readyEx : st.readyEx params port = true := by
        cases isWfi : st.isWfi params port with
        | false =>
            rw [isWfi] at asleep
            simp at asleep
        | true =>
            simp only [CoreState.isWfi, idSignal, Bool.and_eq_true] at isWfi
            exact isWfi.1.1
      have readyMem := readyMem_of_readyEx readyEx
      rw [readyEx, readyMem, readyWb_of_readyMem readyMem, flushE_of_flushing fsm,
        issues_of_flushD (flushD_of_flushing fsm)]
      exact ⟨rfl, rfl, rfl⟩
  | sleep =>
      obtain ⟨noEx, noMem, noWb⟩ := before (.inl fsm)
      have notReady : st.readyEx params port = false := by
        simp [readyEx, stall_of_sleep fsm]
      rw [notReady, noEx, noMem, noWb, Bool.and_false, Bool.and_false, ite_self, ite_self]
      exact ⟨rfl, rfl, rfl⟩
  | wakeup =>
      rw [fsm_step_wakeup fsm] at asleep
      simp at asleep

section Step

variable (before : st.NoAccessBehindMarker) (oneUnit : st.ExOneUnit)
  (requested : port.dataGnt = true → Lsu.dataReq (st.lsuAccess port) = true)
  (noneBehind : st.accessBehindMarker params port = false)

include before

include noneBehind

/-- A marker in EX is followed by a bubble, or EX is held. -/
theorem lsuEnEx_step_of_marker (marker : (st.step params port).idEx.excTakenEx = true) :
    (st.step params port).idEx.lsuEnEx = false := by
  rw [lsuEnEx_step]
  rcases marker_of_excTakenEx_step marker with ⟨-, notReady, wasMarked⟩ | ⟨valid, -, source⟩
  · rw [notReady]
    exact before.ex wasMarked
  · rcases source with wasMarked | trap
    · rw [accessBehindMarker, wasMarked, Bool.true_and] at noneBehind
      rw [noneBehind, before.ex wasMarked, ite_self]
    · have ready : st.readyEx params port = true := by
        simp only [validId, Bool.and_eq_true] at valid
        exact valid.1.2
      have notReadyId : st.readyId params port = false := by simp [readyId, trap]
      simp [ready, issues, notReadyId]

include oneUnit

theorem mem_step_of_marker (marker : (st.step params port).exMem.excTakenMem = true) :
    (st.step params port).exMem.lsuEnMem = false ∧
      ((st.step params port).idEx.lsuEnEx = true →
        (st.step params port).pmpErr = true ∨ (st.step params port).fsm = .excFlush) := by
  rw [excTakenMem_step] at marker
  rw [lsuEnMem_step, lsuEnEx_step]
  -- A denied access in EX keeps the denial up to the trap.
  have stillDenied (held : st.readyEx params port = false) (access : st.idEx.lsuEnEx = true)
      (denied : st.pmpErr = true) (noFlush : st.fsm ≠ .excFlush) :
      (st.step params port).pmpErr = true ∨ (st.step params port).fsm = .excFlush := by
    have idle : st.fsm = .idle := by
      cases fsm : st.fsm with
      | idle => rfl
      | excFlush => exact absurd fsm noFlush
      | sleep =>
          rw [(before.asleep (.inl fsm)).1] at access
          cases access
      | wakeup =>
          rw [(before.asleep (.inr fsm)).1] at access
          cases access
    cases trap : st.excTaken port with
    | true => exact .inr (by rw [fsm_step_idle idle, if_pos trap])
    | false =>
        refine .inl ?_
        rw [pmpErr_step_of_held idle trap held (oneUnit.csrEnEx_of_access access), denied]
  cases readyMem : st.readyMem port with
  | true =>
      rw [readyMem, if_pos rfl] at marker
      rw [if_pos rfl]
      simp only [Bool.and_eq_true, Bool.not_eq_true', Bool.or_eq_true] at marker
      obtain ⟨⟨valid, noFlush⟩, source⟩ := marker
      cases readyEx : st.readyEx params port with
      | true =>
          have wasMarked : st.idEx.excTakenEx = true := by
            rcases source with wasMarked | exception
            · exact wasMarked
            · rw [readyEx_eq, exception, Bool.not_true, Bool.and_false] at readyEx
              cases readyEx
          have noAccess := before.ex wasMarked
          rw [accessBehindMarker, wasMarked, Bool.true_and] at noneBehind
          rw [noAccess, noneBehind, Bool.and_false]
          exact ⟨rfl, fun access => by cases access⟩
      | false =>
          refine ⟨rfl, fun access => ?_⟩
          have isAccess : st.idEx.lsuEnEx = true := access
          have denied : st.pmpErr = true := by
            have exception : st.excEx params = true := by
              rw [readyEx_eq, valid, Bool.true_and, Bool.not_eq_false'] at readyEx
              exact readyEx
            have noIllegal := illegalCsr_of_noAccess (oneUnit.csrEnEx_of_access isAccess)
            rw [excEx, noIllegal, Bool.false_or, ite_self] at exception
            exact exception
          refine stillDenied readyEx isAccess denied fun flush => ?_
          rw [flushE_of_flushing flush] at noFlush
          cases noFlush
  | false =>
      rw [readyMem] at marker
      have wasMarked : st.exMem.excTakenMem = true := marker
      have notReady : st.readyEx params port = false := by
        cases ready : st.readyEx params port with
        | false => rfl
        | true =>
            rw [readyMem_of_readyEx ready] at readyMem
            cases readyMem
      rw [notReady]
      refine ⟨(before.mem wasMarked).1, fun access => ?_⟩
      have isAccess : st.idEx.lsuEnEx = true := access
      have noFlush : st.fsm ≠ .excFlush := by
        intro flush
        rw [readyMem_of_flushing flush, readyWb_of_noAccess (before.flushing flush).2] at readyMem
        cases readyMem
      rcases (before.mem wasMarked).2 isAccess with denied | flush
      · exact stillDenied notReady isAccess denied noFlush
      · exact absurd flush noFlush

omit oneUnit noneBehind

theorem wb_step_of_marker (marker : (st.step params port).memWb.excTakenWb = true) :
    (st.step params port).exMem.lsuEnMem = false ∧ (st.step params port).memWb.lsuEnWb = false := by
  rw [excTakenWb_step] at marker
  rw [lsuEnMem_step, lsuEnWb_step]
  cases readyWb : st.readyWb port with
  | true =>
      rw [readyWb, if_pos rfl] at marker
      simp only [Bool.and_eq_true, Bool.not_eq_true'] at marker
      obtain ⟨⟨readyMem, noFlush⟩, wasMarked⟩ := marker
      obtain ⟨noAccess, behind⟩ := before.mem wasMarked
      rw [readyMem, noAccess, if_pos rfl, if_pos rfl, Bool.and_false]
      refine ⟨?_, rfl⟩
      cases access : st.idEx.lsuEnEx with
      | false => rw [Bool.and_false]
      | true =>
          rcases behind access with denied | flush
          · have notReady : st.readyEx params port = false := by
              rw [readyEx_eq, excEx_of_pmpErr denied, Bool.not_true, Bool.and_false]
            rw [notReady]
            rfl
          · rw [flushE_of_flushing flush] at noFlush
            cases noFlush
  | false =>
      have notReady : st.readyMem port = false := by simp [readyMem, readyWb]
      rw [readyWb] at marker
      rw [notReady]
      exact before.wb marker

/-- The flush finds no access behind the marker that caused it. -/
theorem flushing_step
    (requested : port.dataGnt = true → Lsu.dataReq (st.lsuAccess port) = true)
    (noError : st.busError port = false) (flush : (st.step params port).fsm = .excFlush) :
    (st.step params port).lsu.unalignQ = false ∧ (st.step params port).memWb.lsuEnWb = false := by
  have idle : st.fsm = .idle := by
    cases fsm : st.fsm with
    | idle => rfl
    | excFlush =>
        rw [fsm_step_excFlush fsm] at flush
        split at flush <;> cases flush
    | sleep =>
        have next : (st.step params port).fsm = .sleep ∨ (st.step params port).fsm = .wakeup :=
          fsm_step_sleep fsm
        rcases next with sleeps | wakes
        · rw [sleeps] at flush
          cases flush
        · rw [wakes] at flush
          cases flush
    | wakeup =>
        rw [fsm_step_wakeup fsm] at flush
        cases flush
  have marker : st.memWb.excTakenWb = true := by
    have taken : st.excTaken port = true := by
      rw [fsm_step_idle idle] at flush
      cases trap : st.excTaken port with
      | true => rfl
      | false =>
          rw [trap] at flush
          cases flush
    rw [busError, idle] at noError
    have silent : (st.lsuValidWb port && st.lsuErrWb port) = false := noError
    simpa [excTaken, isLsuLoadErr, isLsuStoreErr, WbStage.isLsuLoadErr, WbStage.isLsuStoreErr,
      silent] using taken
  obtain ⟨noMem, noWb⟩ := before.wb marker
  have whole : st.lsu.unalignQ = false := by
    cases split : st.lsu.unalignQ with
    | false => rfl
    | true =>
        rw [(before.owned split).1] at noMem
        cases noMem
  constructor
  · rw [unalignQ_step, grant_of_noAccess requested noMem, whole]
    rfl
  · rw [lsuEnWb_step, noMem, noWb, Bool.and_false, ite_self]
end Step

theorem noAccessBehindMarker_step (before : st.NoAccessBehindMarker) (oneUnit : st.ExOneUnit)
    (requested : port.dataGnt = true → Lsu.dataReq (st.lsuAccess port) = true)
    (noneBehind : st.accessBehindMarker params port = false)
    (noError : st.busError port = false) :
    (st.step params port).NoAccessBehindMarker where
  owned := splitOwned_step
    (fun flush split => by
      rw [flushE_eq, beq_iff_eq] at flush
      rw [(before.flushing flush).1] at split
      cases split)
    before.owned requested
  ex := lsuEnEx_step_of_marker before noneBehind
  mem := mem_step_of_marker before oneUnit noneBehind
  wb := wb_step_of_marker before
  asleep := noAccessAsleep_step before.asleep
  flushing := flushing_step before requested noError

end CoreState

namespace CoreRun

theorem noAccessAsleep (run : CoreRun) (cycle : Nat) : (run.state cycle).NoAccessAsleep :=
  run.invariant CoreState.NoAccessAsleep
    (fun asleep => by rcases asleep with fsm | fsm <;> cases fsm)
    (fun _ _ => CoreState.noAccessAsleep_step) cycle

variable (run : CoreRun)

/-- No load or store issues while a marker is in EX, an error response finds a load or store in
WB, and no response follows it. -/
structure MarkersHold : Prop where
  noneBehind : ∀ cycle,
    (run.state cycle).accessBehindMarker run.params (run.inputs cycle) = false
  errorOwned : ∀ cycle, (run.state cycle).busError (run.inputs cycle) = true →
    (run.state cycle).memWb.lsuEnWb = true
  errorLast : ∀ cycle, (run.state cycle).busError (run.inputs cycle) = true →
    ∀ later, cycle < later → (run.dataBus later).valid = false

/-- WB waits for a response that does not come. -/
structure Frozen (cycle : Nat) : Prop where
  access : (run.state cycle).memWb.lsuEnWb = true
  whole : (run.state cycle).lsu.unalignQ = false
  silent : ∀ later, cycle ≤ later → (run.dataBus later).valid = false

variable {run}

theorem Frozen.readyWb {cycle : Nat} (frozen : run.Frozen cycle) :
    (run.state cycle).readyWb (run.inputs cycle) = false := by
  have noAnswer : (run.state cycle).lsuValidWb (run.inputs cycle) = false := by
    have silent := frozen.silent cycle (Nat.le_refl _)
    change (!_ && (run.dataBus cycle).valid) = false
    rw [silent, Bool.and_false]
  rw [CoreState.readyWb, WbStage.readyWb, if_pos frozen.access, noAnswer]
  rfl

theorem frozen_succ (grants : run.GrantsRequests) {cycle : Nat} (frozen : run.Frozen cycle) :
    run.Frozen (cycle + 1) := by
  have waits := frozen.readyWb
  have noGrant : (run.dataBus cycle).gnt = false := by
    cases grant : (run.dataBus cycle).gnt with
    | false => rfl
    | true =>
        rw [(CoreState.access_of_dataReq (grants cycle grant)).2.1] at waits
        cases waits
  refine ⟨?_, ?_, fun later after => frozen.silent later (by omega)⟩
  · rw [run.state_succ, CoreState.lsuEnWb_step, waits]
    exact frozen.access
  · rw [run.unalignQ_succ, noGrant, frozen.whole]
    rfl

/-- An error response leaves the access in WB for ever. -/
theorem frozen_of_busError (hold : run.MarkersHold) (grants : run.GrantsRequests) {cycle : Nat}
    (error : (run.state cycle).busError (run.inputs cycle) = true) : run.Frozen (cycle + 1) := by
  have access := hold.errorOwned cycle error
  have reported := error
  simp only [CoreState.busError, Bool.and_eq_true] at reported
  obtain ⟨⟨-, valid⟩, isError⟩ := reported
  have waits : (run.state cycle).readyWb (run.inputs cycle) = false := by
    rw [CoreState.readyWb, WbStage.readyWb, if_pos access, isError, Bool.not_true, Bool.and_false]
  have noGrant : (run.dataBus cycle).gnt = false := by
    cases grant : (run.dataBus cycle).gnt with
    | false => rfl
    | true =>
        rw [(CoreState.access_of_dataReq (grants cycle grant)).2.1] at waits
        cases waits
  have whole : (run.state cycle).lsu.unalignQ = false := by
    rw [CoreState.lsuValidWb_eq, Bool.and_eq_true, Bool.not_eq_true'] at valid
    exact valid.1
  refine ⟨?_, ?_, fun later after => hold.errorLast cycle error later (by omega)⟩
  · rw [run.state_succ, CoreState.lsuEnWb_step, waits]
    exact access
  · rw [run.unalignQ_succ, noGrant, whole]
    rfl

theorem noAccessBehindMarker_or_frozen (hold : run.MarkersHold) (grants : run.GrantsRequests)
    (cycle : Nat) : (run.state cycle).NoAccessBehindMarker ∨ run.Frozen cycle := by
  induction cycle with
  | zero => exact .inl (CoreState.noAccessBehindMarker_reset run.bootAddr)
  | succ cycle induction =>
      rcases induction with before | frozen
      · cases error : (run.state cycle).busError (run.inputs cycle) with
        | true => exact .inr (frozen_of_busError hold grants error)
        | false =>
            refine .inl ?_
            rw [run.state_succ]
            exact CoreState.noAccessBehindMarker_step before (run.exOneUnit cycle) (grants cycle)
              (hold.noneBehind cycle) error
      · exact .inr (frozen_succ grants frozen)

variable (run)

/-- The response to the request granted in `grant` is taken as its own: it is the only one
outstanding, nothing completes between the flush and it, and it completes the access in WB or, when
it is that to the first half of an access, is kept for the second half. -/
structure TakenAsOwn (flush grant answer : Nat) : Prop where
  alone : pending run.dataBus (grant + 1) = [(run.dataBus grant).addr]
  notBefore : ∀ between, flush ≤ between → between < answer → run.completes between = false
  taken :
    if Lsu.reqUnalign (CoreState.accessMem (run.state grant).exMem) then
      run.completes answer = false ∧
        (run.state (answer + 1)).lsu.dataRdataQ = (run.dataBus answer).data.1.extractLsb' 8 24
    else
      run.completes answer = true ∧ (run.state answer).memWb.HoldsAccess (run.state grant).exMem

/-- From a flush cycle on, up to the next grant, no split access is in progress, and a request
goes to the address of its own access; the response to the first one is taken as its own. -/
structure FlushesWhole : Prop where
  ownAddress : ∀ flush, (run.state flush).fsm = .excFlush → ∀ later, flush ≤ later →
    (∀ between, flush ≤ between → between < later → (run.dataBus between).gnt = false) →
      (run.state later).lsu.unalignQ = false ∧
        (run.dataBus later).addr = (run.state later).exMem.lsuAddrMem
  ownResponse : ∀ flush grant answer, (run.state flush).fsm = .excFlush →
    FirstFrom (fun cycle => (run.dataBus cycle).gnt = true) flush grant →
      FirstFrom (fun cycle => (run.dataBus cycle).valid = true) (grant + 1) answer →
        run.TakenAsOwn flush grant answer

/-- Besides the markers: no request is outstanding in a flush, and the second half of the first
access after it is not granted before the first half is answered. -/
structure FlushGuarded : Prop where
  markers : run.MarkersHold
  drained : ∀ cycle, (run.state cycle).fsm = .excFlush → pending run.dataBus cycle = []
  secondAfter : ∀ flush grant second, (run.state flush).fsm = .excFlush →
    FirstFrom (fun cycle => (run.dataBus cycle).gnt = true) flush grant →
      FirstFrom (fun cycle => (run.dataBus cycle).gnt = true) (grant + 1) second →
        (run.state second).lsu.unalignQ = true →
          (pending run.dataBus second).length ≤ (run.dataBus second).valid.toNat

variable {run}

theorem unalignQ_of_flush (grants : run.GrantsRequests) (hold : run.MarkersHold) {flush : Nat}
    (flushing : (run.state flush).fsm = .excFlush) {later : Nat} (after : flush ≤ later)
    (noGrant : ∀ between, flush ≤ between → between < later →
      (run.dataBus between).gnt = false) : (run.state later).lsu.unalignQ = false := by
  have atFlush : (run.state flush).lsu.unalignQ = false := by
    rcases noAccessBehindMarker_or_frozen hold grants flush with behind | frozen
    · exact (behind.flushing flushing).1
    · exact frozen.whole
  rw [← atFlush]
  refine run.segment_constant (fun st => st.lsu.unalignQ) after fun between lower upper => ?_
  have unalignQ := run.unalignQ_succ between
  rw [noGrant between lower upper, Bool.and_false] at unalignQ
  exact unalignQ

theorem completes_of_silent {cycle : Nat} (silent : (run.dataBus cycle).valid = false) :
    run.completes cycle = false := by
  have noAnswer : (run.state cycle).lsuValidWb (run.inputs cycle) = false := by
    rw [lsuValidWb_eq, silent, Bool.and_false]
  rw [completes, CoreState.completesWb, noAnswer, Bool.and_false, Bool.false_and]

theorem completes_of_split {cycle : Nat} (split : (run.state cycle).lsu.unalignQ = true) :
    run.completes cycle = false := by
  have noAnswer : (run.state cycle).lsuValidWb (run.inputs cycle) = false := by
    rw [lsuValidWb_eq, split]
    rfl
  rw [completes, CoreState.completesWb, noAnswer, Bool.and_false, Bool.false_and]

section FirstRequest

variable {flush grant answer : Nat} (inOrder : InOrder (fun _ _ => True) run.dataBus)
  (first : FirstFrom (fun cycle => (run.dataBus cycle).gnt = true) flush grant)
  (next : FirstFrom (fun cycle => (run.dataBus cycle).valid = true) (grant + 1) answer)

include inOrder

theorem silent_of_drained {cycle : Nat} (drained : pending run.dataBus cycle = []) :
    (run.dataBus cycle).valid = false := by
  cases valid : (run.dataBus cycle).valid with
  | false => rfl
  | true =>
      obtain ⟨addr, rest, queue, -⟩ := inOrder.answered cycle valid
      rw [drained] at queue
      cases queue

include first

/-- What is drained in the flush is drained up to the first grant. -/
theorem drained_upTo (drained : pending run.dataBus flush = []) :
    ∀ cycle, flush ≤ cycle → cycle ≤ grant → pending run.dataBus cycle = [] :=
  first.holds_upTo (fun cycle => pending run.dataBus cycle = []) drained
    fun cycle _ _ noGrant empty => by
      have notGranted : (run.dataBus cycle).granted = false := by
        rw [BusProtocol.Cycle.granted_of_requested (inOrder.requested cycle)]
        exact eq_false_of_ne_true noGrant
      rw [BusProtocol.pending_succ_of_silent notGranted (silent_of_drained inOrder empty), empty]

theorem pending_of_drained (drained : pending run.dataBus flush = []) :
    pending run.dataBus (grant + 1) = [(run.dataBus grant).addr] := by
  apply BusProtocol.pending_succ_of_grant
  · rw [BusProtocol.Cycle.granted_of_requested (inOrder.requested grant)]
    exact first.happens
  · rw [drained_upTo inOrder first drained grant first.after (Nat.le_refl _)]
    exact Nat.zero_le _

include next

theorem notCompletes_before (drained : pending run.dataBus flush = []) {between : Nat}
    (after : flush ≤ between) (before : between < answer) : run.completes between = false := by
  apply completes_of_silent
  rcases Nat.lt_or_ge grant between with later | notLater
  · exact eq_false_of_ne_true (next.notBefore between later before)
  · exact silent_of_drained inOrder (drained_upTo inOrder first drained between after notLater)

omit inOrder first in
/-- An access of one request waits in WB for its response. -/
theorem completes_of_whole (grants : run.GrantsRequests)
    (granted : (run.dataBus grant).gnt = true)
    (whole : (run.state grant).lsu.unalignQ = false)
    (single : Lsu.reqUnalign (CoreState.accessMem (run.state grant).exMem) = false) :
    run.completes answer = true ∧
      (run.state answer).memWb.HoldsAccess (run.state grant).exMem := by
  obtain ⟨access, -, noFlush⟩ := CoreState.access_of_dataReq (grants grant granted)
  have ready : (run.state grant).readyMem (run.inputs grant) = true := by
    rw [CoreState.readyMem_of_dataReq (grants grant granted), single,
      if_neg Bool.false_ne_true]
    exact granted
  obtain ⟨holds, notSplit⟩ := next.holds_at
    (fun cycle => (run.state cycle).memWb.HoldsAccess (run.state grant).exMem ∧
      (run.state cycle).lsu.unalignQ = false)
    (by
      have unalignQ := run.unalignQ_succ grant
      rw [whole, granted, CoreState.reqUnalign_lsuAccess, single] at unalignQ
      exact ⟨CoreState.holdsAccess_step_of_readyMem noFlush access ready, unalignQ⟩)
    (by
      rintro cycle - - silent ⟨holds, notSplit⟩
      have waits : (run.state cycle).readyWb (run.inputs cycle) = false := by
        have noAnswer : (run.state cycle).lsuValidWb (run.inputs cycle) = false := by
          rw [lsuValidWb_eq, eq_false_of_ne_true silent, Bool.and_false]
        rw [CoreState.readyWb, WbStage.readyWb, if_pos holds.access, noAnswer]
        rfl
      have noGrant : (run.dataBus cycle).gnt = false := by
        cases grant : (run.dataBus cycle).gnt with
        | false => rfl
        | true =>
            rw [(CoreState.access_of_dataReq (grants cycle grant)).2.1] at waits
            cases waits
      refine ⟨CoreState.holdsAccess_step_of_waits holds waits, ?_⟩
      rw [run.unalignQ_succ, noGrant, notSplit]
      rfl)
  refine ⟨?_, holds⟩
  have answered : (run.dataBus answer).valid = true := next.happens
  rw [completes, CoreState.completesWb_eq holds.access, lsuValidWb_eq, notSplit, answered]
  rfl

omit first in
/-- The first half of a split access waits in the load/store unit for its response. -/
theorem keeps_firstHalf
    (secondAfter : ∀ second,
      FirstFrom (fun cycle => (run.dataBus cycle).gnt = true) (grant + 1) second →
        (run.state second).lsu.unalignQ = true →
          (pending run.dataBus second).length ≤ (run.dataBus second).valid.toNat)
    (alone : pending run.dataBus (grant + 1) = [(run.dataBus grant).addr])
    (granted : (run.dataBus grant).gnt = true)
    (whole : (run.state grant).lsu.unalignQ = false)
    (splits : Lsu.reqUnalign (CoreState.accessMem (run.state grant).exMem) = true) :
    run.completes answer = false ∧
      (run.state (answer + 1)).lsu.dataRdataQ = (run.dataBus answer).data.1.extractLsb' 8 24 := by
  have waiting := next.holds_upTo
    (fun cycle => (run.state cycle).lsu.unalignQ = true ∧
      pending run.dataBus cycle = [(run.dataBus grant).addr] ∧
        ∀ between, grant + 1 ≤ between → between < cycle → ¬ (run.dataBus between).gnt = true)
    (by
      have unalignQ := run.unalignQ_succ grant
      rw [whole, granted, CoreState.reqUnalign_lsuAccess, splits] at unalignQ
      exact ⟨unalignQ, alone, fun between lower upper => by omega⟩)
    (by
      rintro cycle after - silent ⟨split, queue, noneBefore⟩
      -- the second half has to wait for this response
      have noGrant : ¬ (run.dataBus cycle).gnt = true := by
        intro grant
        have few := secondAfter cycle ⟨after, grant, noneBefore⟩ split
        rw [queue, eq_false_of_ne_true silent] at few
        cases few
      refine ⟨?_, ?_, fun between lower upper => ?_⟩
      · rw [run.unalignQ_succ, eq_false_of_ne_true noGrant, Bool.and_false, split]
        rfl
      · have notGranted : (run.dataBus cycle).granted = false := by
          rw [BusProtocol.Cycle.granted_of_requested (inOrder.requested cycle)]
          exact eq_false_of_ne_true noGrant
        rw [BusProtocol.pending_succ_of_silent notGranted (eq_false_of_ne_true silent), queue]
      · rcases Nat.lt_or_eq_of_le (Nat.le_of_lt_succ upper) with earlier | rfl
        · exact noneBefore between lower earlier
        · exact noGrant)
    answer next.after (Nat.le_refl _)
  have answered : (run.dataBus answer).valid = true := next.happens
  refine ⟨completes_of_split waiting.1, ?_⟩
  have taken : (run.state (answer + 1)).lsu.dataRdataQ =
      if (run.state answer).lsu.unalignQ && (run.dataBus answer).valid then
        (run.dataBus answer).data.1.extractLsb' 8 24
      else (run.state answer).lsu.dataRdataQ := rfl
  rw [taken, waiting.1, answered]
  rfl

end FirstRequest

/-- The traps of a guarded run cut no split access in half. -/
theorem flushesWhole_of_guarded (run : CoreRun) (inOrder : InOrder (fun _ _ => True) run.dataBus)
    (guarded : run.FlushGuarded) : run.FlushesWhole where
  ownAddress := by
    intro flush flushing later after noGrant
    have whole := unalignQ_of_flush inOrder.requested guarded.markers flushing after noGrant
    refine ⟨whole, ?_⟩
    change (if (run.state later).lsu.unalignQ then _ else _) = _
    rw [whole]
    rfl
  ownResponse := by
    intro flush grant answer flushing first next
    have drained := guarded.drained flush flushing
    have alone := pending_of_drained inOrder first drained
    have whole := unalignQ_of_flush inOrder.requested guarded.markers flushing first.after
      fun between lower upper => eq_false_of_ne_true (first.notBefore between lower upper)
    refine ⟨alone, fun between after before =>
      notCompletes_before inOrder first next drained after before, ?_⟩
    split
    · rename_i splits
      exact keeps_firstHalf inOrder next
        (fun second => guarded.secondAfter flush grant second flushing first) alone first.happens
        whole splits
    · rename_i single
      exact completes_of_whole next inOrder.requested first.happens whole
        (eq_false_of_ne_true single)

end CoreRun

namespace Surroundings

/-- Machine code that enables the external interrupt, and a split load behind it. -/
def splitLoadAfterIrq : List Word :=
  [ 0x000010B7#32,  -- lui x1, 1
    0x80008093#32,  -- addi x1, x1, -2048
    0x30409073#32,  -- csrrw x0, mie, x1
    0x30045073#32,  -- csrrwi x0, mstatus, 8
    0x00000013#32,  -- nop
    0x00202103#32 ] -- lw x2, 2(x0)

/-- The line falls when the marker is in EX. -/
def withdrawnIrq : Surroundings where
  program := programOf splitLoadAfterIrq
  externIrq := fun cycle => decide (cycle = 8)

/-- The line stays up until the trap is taken. -/
def heldIrq : Surroundings where
  program := programOf splitLoadAfterIrq
  externIrq := fun cycle => decide (8 ≤ cycle ∧ cycle ≤ 11)
  rest := 12

end Surroundings

namespace CoreRun

theorem flushesWhole_heldIrq : Surroundings.heldIrq.coreRun.FlushesWhole := by
  have settled := Surroundings.heldIrq.forall_cycle_of_settled 24 (by decide)
    (fun cycle late => decide_eq_false (by omega)) (by decide +kernel)
    (fun st port => st.busError port = false ∧
      st.accessBehindMarker defaultParams port = false ∧
        (st.fsm = .excFlush → port.dataValid = false)) (by decide +kernel)
  have answered := BusProtocol.length_pending_of_immediate rfl
    Surroundings.heldIrq.valid_dataBus_succ
  refine flushesWhole_of_guarded _ Surroundings.heldIrq.wellConnected.data
    { markers := ⟨fun cycle => (settled cycle).2.1, fun cycle error => ?_, fun cycle error => ?_⟩
      drained := fun cycle flushing => ?_
      secondAfter := fun _ _ second _ _ _ _ => Nat.le_of_eq (answered second) }
  · rw [(settled cycle).1] at error
    cases error
  · rw [(settled cycle).1] at error
    cases error
  · have silent : (Surroundings.heldIrq.coreRun.dataBus cycle).valid = false :=
      (settled cycle).2.2 flushing
    apply List.eq_nil_of_length_eq_zero
    rw [answered cycle, silent]
    rfl

/-- The load issues behind the marker, and its first half is granted in the last cycle before the
flush. -/
theorem flushesWhole_fails :
    ¬ ∀ (run : CoreRun) (program : Word → Word × Bool), run.WellConnected program →
      run.FlushesWhole := by
  intro whole
  have flushing : (Surroundings.withdrawnIrq.coreRun.state 12).fsm = .excFlush := by
    rw [Surroundings.state_coreRun]
    decide +kernel
  have clear := ((whole _ _ Surroundings.withdrawnIrq.wellConnected).ownAddress 12 flushing 12
    (Nat.le_refl _) fun between lower upper => absurd lower (by omega)).1
  rw [Surroundings.state_coreRun] at clear
  revert clear
  decide +kernel

end CoreRun

end RiscvCore
