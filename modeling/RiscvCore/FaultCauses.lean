import RiscvCore.AccessTracking
import RiscvCore.CsrFraming
import RiscvCore.MarkerDrain

/-!
# The causes of access faults

A load or store is denied in EX or answered with an error, on either half.  The cause that its
trap records should tell loads from stores and stay up to the first instruction of the handler.
After a bus error WB waits for ever, so that the cause stays unless a CSR instruction in EX names
it; a denial is always recorded as that of a store.
-/

namespace RiscvCore

open BusProtocol (InOrder pending)
open SynchronousRun (FirstFrom)

namespace CoreState

variable {params : Params} {st : CoreState} {port : CoreInput}

/-- The controller takes a trap. -/
def takesTrap (st : CoreState) (port : CoreInput) : Bool := st.fsm == .idle && st.excTaken port

/-- In the flush that follows a denied store, the denial lasts or nothing in ID has a cause of its
own. -/
def keepsCause (params : Params) (st : CoreState) (port : CoreInput) : Bool :=
  st.pmpErr || !(st.isEcall params port || st.isEbreak params port ||
    st.isIllegalInstr params port || st.isInstrAcsFault params port || st.isWfi params port)

theorem trapUpdate_of_storeErr (params : Params) (taken : st.excTaken port = true)
    (error : st.isLsuStoreErr port = true ∨ st.isPmpStoreErr port = true) :
    st.trapUpdate params port = Controller.recorded .storeAcsFault := by
  rw [trapUpdate, Controller.trapUpdate]
  have isTaken : (st.controllerInput params port).excTaken = true := taken
  have isError : ((st.controllerInput params port).isLsuStoreErr ||
      (st.controllerInput params port).isPmpStoreErr) = true := by
    rw [Bool.or_eq_true]
    exact error
  rw [if_pos isTaken, if_pos isError]

theorem trapUpdate_of_loadErr (params : Params) (taken : st.excTaken port = true)
    (error : st.isLsuLoadErr port = true) (noStoreErr : st.isLsuStoreErr port = false)
    (noDenial : st.isPmpStoreErr port = false) :
    st.trapUpdate params port = Controller.recorded .loadAcsFault := by
  rw [trapUpdate, Controller.trapUpdate]
  have isTaken : (st.controllerInput params port).excTaken = true := taken
  have noStore : ((st.controllerInput params port).isLsuStoreErr ||
      (st.controllerInput params port).isPmpStoreErr) = false := by
    change (st.isLsuStoreErr port || st.isPmpStoreErr port) = false
    rw [noStoreErr, noDenial]
    rfl
  have isError : ((st.controllerInput params port).isLsuLoadErr ||
      (st.controllerInput params port).isPmpLoadErr) = true := by
    rw [Bool.or_eq_true]
    exact .inl error
  rw [if_pos isTaken, noStore, if_neg Bool.false_ne_true, if_pos isError]

/-- Unless the CSR instruction in EX names `mcause`, it takes the cause of the update. -/
theorem mcauseQ_step_of_updated (notAccessed : Csr.enable st.csrAccess mcause = false)
    (updates : st.mcauseUpdate params port = true) :
    (st.step params port).csr.mcauseQ =
      (st.trapUpdate params port).mcause.toBits.extractLsb' 5 1 ++ 0#26 ++
        (st.trapUpdate params port).mcause.toBits.extractLsb' 0 5 := by
  change st.csr.mcauseN (st.csrInput params port) = _
  unfold Csr.mcauseN
  change (if Csr.enable st.csrAccess mcause then _ else
    if st.mcauseUpdate params port then _ else _) = _
  rw [notAccessed, updates, if_neg Bool.false_ne_true, if_pos rfl]
  rfl

theorem mcauseQ_step_of_recorded {cause : Mcause}
    (notAccessed : Csr.enable st.csrAccess mcause = false)
    (records : st.trapUpdate params port = Controller.recorded cause) :
    (st.step params port).csr.mcauseQ =
      cause.toBits.extractLsb' 5 1 ++ 0#26 ++ cause.toBits.extractLsb' 0 5 := by
  have updates : st.mcauseUpdate params port = true := by
    rw [mcauseUpdate, records]
    rfl
  rw [mcauseQ_step_of_updated notAccessed updates, records]
  rfl

theorem mcauseQ_step_of_notRecorded (params : Params)
    (notAccessed : Csr.enable st.csrAccess mcause = false)
    (silent : st.mcauseUpdate params port = false) :
    (st.step params port).csr.mcauseQ = st.csr.mcauseQ := by
  apply Csr.mcauseN_of_spared silent
  intro accessed
  exact absurd (accessed.symm.trans notAccessed) (by decide)

theorem csrEnEx_step_of_noIssue (noCsr : st.idEx.csrEnEx = false)
    (noIssue : st.issues params port = false) : (st.step params port).idEx.csrEnEx = false := by
  change (st.nextIdExOperation params port).csrEnEx = false
  cases ready : st.readyEx params port with
  | false =>
      rw [nextIdExOperation_of_notReady ready]
      exact noCsr
  | true => exact (nextIdExOperation_of_noIssue noIssue ready).1.csr

theorem csrAccess_step_of_notReady (notReady : st.readyEx params port = false) :
    (st.step params port).csrAccess = st.csrAccess := by
  have operation := nextIdExOperation_of_notReady notReady
  have same := congrArg ExStage.csrAccess operation
  exact same

theorem enable_of_noCsr (noCsr : st.idEx.csrEnEx = false) (addr : CsrAddr) :
    Csr.enable st.csrAccess addr = false := by
  change (st.idEx.csrEnEx && _) = false
  rw [noCsr]
  rfl

end CoreState

namespace CoreRun

variable {run : CoreRun}

/-- While WB is stuck, only a CSR instruction in EX can change `mcause`. -/
theorem Stuck.mcauseQ_succ (inOrder : InOrder (fun _ _ => True) run.dataBus) {cycle : Nat}
    (stuck : run.Stuck cycle)
    (notAccessed : Csr.enable (run.state cycle).csrAccess mcause = false) :
    (run.state (cycle + 1)).csrAccess = (run.state cycle).csrAccess ∧
      (run.state (cycle + 1)).csr.mcauseQ = (run.state cycle).csr.mcauseQ := by
  have silent : (run.state cycle).mcauseUpdate run.params (run.inputs cycle) = false := by
    cases records : (run.state cycle).mcauseUpdate run.params (run.inputs cycle) with
    | false => rfl
    | true =>
        rcases Controller.mcauseUpdate_iff.mp records with ⟨taken, -⟩ | ⟨-, waking⟩
        · exact absurd (taken.symm.trans (stuck.noTrap inOrder)) (by decide)
        · rcases stuck.awake with idle | flushing
          · exact absurd (idle.symm.trans waking) (by decide)
          · exact absurd (flushing.symm.trans waking) (by decide)
  rw [run.state_succ]
  exact ⟨CoreState.csrAccess_step_of_notReady (stuck.notReadyEx inOrder),
    CoreState.mcauseQ_step_of_notRecorded run.params notAccessed silent⟩

/-! ## The traps of faulting accesses -/

variable (run)

def TakesTrap (cycle : Nat) : Prop := (run.state cycle).takesTrap (run.inputs cycle) = true

/-- The access check denies the load or store in EX, and no older marker is on its way to WB. -/
structure DeniedInEx (op : LsuOp) (cycle : Nat) : Prop where
  idle : (run.state cycle).fsm = .idle
  denied : (run.state cycle).pmpErr = true
  isOp : (run.state cycle).idEx.lsuOpEx = op
  noMarker : (run.state cycle).exMem.excTakenMem = false ∧
    (run.state cycle).memWb.excTakenWb = false

/-- The response of the cycle is an error, for a request of such an access. -/
structure AnsweredWithError (op : LsuOp) (cycle : Nat) : Prop where
  valid : (run.dataBus cycle).valid = true
  error : (run.inputs cycle).dataError = true
  isOp : (run.opsInFlight cycle).head? = some op

/-- A load or store faults and the trap is taken in the given cycle. -/
inductive FaultTrap (op : LsuOp) (taken : Nat) : Prop
  | denied (denial : Nat) (inEx : run.DeniedInEx op denial)
      (first : FirstFrom run.TakesTrap denial taken)
      (marked : (run.state taken).memWb.excTakenWb = true)
  | answered (response : Nat) (faulty : run.AnsweredWithError op response)
      (first : FirstFrom run.TakesTrap response taken)

/-- The `mcause` of an access fault. -/
def faultCause : LsuOp → Word
  | .ld => 5#32
  | .wr => 7#32

/-- `mcause` is that of the fault, and the destination of a load has not been written since its
trap and is not going to be. -/
structure FaultRecorded (op : LsuOp) (taken cycle : Nat) : Prop where
  cause : (run.state cycle).csr.mcauseQ = faultCause op
  unwritten : op = .ld → ∀ between, taken ≤ between → between ≤ cycle →
    run.writes between = false
  drained : op = .ld → run.issues cycle = true →
    (run.state cycle).idEx.rdWrEnEx = false ∧ (run.state cycle).exMem.rdWrEnMem = false ∧
      (run.state cycle).memWb.rdWrEnWb = false

/-- Every access fault is recorded as that of its own kind of access, up to the cycle in which an
instruction issues again or the next trap is taken. -/
def FaultsClassified : Prop :=
  ∀ op taken, run.FaultTrap op taken → ∀ cycle, taken < cycle →
    (∀ between, taken < between → between < cycle →
      run.issues between = false ∧ ¬ run.TakesTrap between) →
    run.FaultRecorded op taken cycle

/-- Where the accesses and their responses stay together, no load is denied, nothing in ID
replaces the cause of a denied store in the flush, and a bus error finds no CSR instruction for
`mcause` in EX. -/
structure FaultsGuarded : Prop where
  noneBehind : ∀ cycle,
    (run.state cycle).accessBehindMarker run.params (run.inputs cycle) = false
  second : ∀ last, run.SecondAfterFirst last
  storesOnly : ∀ cycle, (run.state cycle).fsm = .idle →
    (run.state cycle).memWb.excTakenWb = true → (run.state cycle).pmpErr = true →
      (run.state cycle).idEx.lsuOpEx = .wr
  notReplaced : ∀ cycle, (run.state cycle).fsm = .idle →
    (run.state cycle).memWb.excTakenWb = true → (run.state cycle).pmpErr = true →
      (run.state (cycle + 1)).keepsCause run.params (run.inputs (cycle + 1)) = true
  notAccessed : ∀ cycle, (run.state cycle).busError (run.inputs cycle) = true →
    Csr.enable (run.state cycle).csrAccess mcause = false

variable {run}

theorem takesTrap_iff {cycle : Nat} : run.TakesTrap cycle ↔
    (run.state cycle).fsm = .idle ∧ run.excTaken cycle = true := by
  rw [TakesTrap, CoreState.takesTrap, Bool.and_eq_true, beq_iff_eq]
  rfl

theorem notTaken_of_noTrap {cycle : Nat} (idle : (run.state cycle).fsm = .idle)
    (noTrap : ¬ run.TakesTrap cycle) :
    (run.state cycle).excTaken (run.inputs cycle) = false := by
  cases taken : (run.state cycle).excTaken (run.inputs cycle) with
  | false => rfl
  | true => exact (noTrap (takesTrap_iff.mpr ⟨idle, taken⟩)).elim

theorem takesTrap_coreRun (around : Surroundings) (cycle : Nat) :
    around.coreRun.TakesTrap cycle ↔
      (around.system cycle).core.takesTrap (around.portAt cycle) = true := by
  rw [TakesTrap, Surroundings.state_coreRun]
  rfl

/-- A trap is taken for a marker in WB or an error response. -/
theorem excTaken_iff {cycle : Nat} : run.excTaken cycle = true ↔
    (run.state cycle).memWb.excTakenWb = true ∨
      ((run.state cycle).lsuValidWb (run.inputs cycle) = true ∧
        (run.state cycle).lsuErrWb (run.inputs cycle) = true) := by
  rw [excTaken, CoreState.excTaken, CoreState.isLsuLoadErr, CoreState.isLsuStoreErr,
    WbStage.isLsuLoadErr, WbStage.isLsuStoreErr]
  cases (run.state cycle).memWb.lsuOpWb <;> simp [Bool.or_eq_true, Bool.and_eq_true]

/-- No trap is taken while the access in MEM is half done. -/
theorem Tracked.noTrap_of_split {cycle : Nat} (tracked : run.Tracked cycle)
    (split : (run.state cycle).lsu.unalignQ = true) : run.excTaken cycle = false := by
  cases trap : run.excTaken cycle with
  | false => rfl
  | true =>
      rcases excTaken_iff.mp trap with marker | ⟨valid, -⟩
      · have noAccess := (tracked.behind.wb marker).1
        rw [(tracked.behind.owned split).1] at noAccess
        cases noAccess
      · rw [lsuValidWb_eq, split] at valid
        cases valid

/-- The final error response to an access of this kind. -/
structure FinalError (run : CoreRun) (op : LsuOp) (cycle : Nat) : Prop where
  error : (run.state cycle).busError (run.inputs cycle) = true
  access : (run.state cycle).memWb.lsuEnWb = true
  isOp : (run.state cycle).memWb.lsuOpWb = op

theorem FinalError.notReadyWb {op : LsuOp} {cycle : Nat} (final : run.FinalError op cycle) :
    (run.state cycle).readyWb (run.inputs cycle) = false := by
  obtain ⟨-, -, isError⟩ := busError_iff.mp final.error
  rw [CoreState.readyWb, WbStage.readyWb, if_pos final.access, isError, Bool.not_true,
    Bool.and_false]

theorem FinalError.notReadyMem {op : LsuOp} {cycle : Nat} (final : run.FinalError op cycle) :
    (run.state cycle).readyMem (run.inputs cycle) = false := by
  cases readyMem : (run.state cycle).readyMem (run.inputs cycle) with
  | false => rfl
  | true =>
      have readyWb := CoreState.readyWb_of_readyMem readyMem
      rw [final.notReadyWb] at readyWb
      cases readyWb

theorem Tracked.finalError_of_takesTrap {op : LsuOp} {cycle : Nat} (tracked : run.Tracked cycle)
    (trap : run.TakesTrap cycle) (access : (run.state cycle).memWb.lsuEnWb = true)
    (isOp : (run.state cycle).memWb.lsuOpWb = op) : run.FinalError op cycle := by
  refine ⟨?_, access, isOp⟩
  obtain ⟨idle, taken⟩ := takesTrap_iff.mp trap
  rcases excTaken_iff.mp taken with marker | ⟨valid, isError⟩
  · rw [(tracked.behind.wb marker).2] at access
    cases access
  · exact busError_iff.mpr ⟨idle, valid, isError⟩

/-- The split access in MEM has had its first half answered with an error, or the access in WB
had. -/
inductive Doomed (run : CoreRun) (op : LsuOp) (cycle : Nat) : Prop
  | inMem (split : (run.state cycle).lsu.unalignQ = true)
      (isOp : (run.state cycle).exMem.lsuOpMem = op)
      (error : (run.state cycle).lsu.unalignFirstErr = true)
      (none : run.opsInFlight cycle = [])
  | inWb (access : (run.state cycle).memWb.lsuEnWb = true)
      (isOp : (run.state cycle).memWb.lsuOpWb = op)
      (error : (run.state cycle).lsu.unalignFirstErr = true)
      (crosses : (run.state cycle).lsu.unalignWb = true)

/-- The cause of a bus error, in the cycle after it. -/
theorem FinalError.mcauseQ_succ {op : LsuOp} {cycle : Nat} (final : run.FinalError op cycle)
    (notAccessed : Csr.enable (run.state cycle).csrAccess mcause = false) :
    (run.state (cycle + 1)).csr.mcauseQ = faultCause op := by
  obtain ⟨-, valid, isError⟩ := busError_iff.mp final.error
  have taken : (run.state cycle).excTaken (run.inputs cycle) = true :=
    excTaken_iff.mpr (.inr ⟨valid, isError⟩)
  have isOp := final.isOp
  rw [run.state_succ]
  cases op with
  | wr =>
      have storeErr : (run.state cycle).isLsuStoreErr (run.inputs cycle) = true := by
        rw [CoreState.isLsuStoreErr, WbStage.isLsuStoreErr, valid, isError, isOp]
        rfl
      rw [CoreState.mcauseQ_step_of_recorded notAccessed
        (CoreState.trapUpdate_of_storeErr run.params taken (.inl storeErr))]
      rfl
  | ld =>
      have loadErr : (run.state cycle).isLsuLoadErr (run.inputs cycle) = true := by
        rw [CoreState.isLsuLoadErr, WbStage.isLsuLoadErr, valid, isError, isOp]
        rfl
      have noStoreErr : (run.state cycle).isLsuStoreErr (run.inputs cycle) = false := by
        rw [CoreState.isLsuStoreErr, WbStage.isLsuStoreErr, isOp]
        exact Bool.and_false _
      have noDenial : (run.state cycle).isPmpStoreErr (run.inputs cycle) = false := by
        have waits := final.notReadyMem
        rw [CoreState.isPmpStoreErr, ExStage.isPmpStoreErr, waits, Bool.and_false, Bool.false_and]
      rw [CoreState.mcauseQ_step_of_recorded notAccessed
        (CoreState.trapUpdate_of_loadErr run.params taken loadErr noStoreErr noDenial)]
      rfl

section Responses

variable (inOrder : InOrder (fun _ _ => True) run.dataBus)
include inOrder

/-- A trap that is taken finds WB not stuck, now and before. -/
theorem tracked_of_takesTrap (guarded : run.FaultsGuarded) {taken : Nat}
    (trap : run.TakesTrap taken) {cycle : Nat} (before : cycle ≤ taken) : run.Tracked cycle := by
  rcases tracked_or_stuck inOrder guarded.second guarded.noneBehind cycle with tracked | stuck
  · exact tracked
  · have noTrap := (stuck.later inOrder before).noTrap inOrder
    rw [(takesTrap_iff.mp trap).2] at noTrap
    cases noTrap

/-- The second grant moves the split access to WB. -/
theorem Tracked.doomed_of_grant {op : LsuOp} {cycle : Nat} (tracked : run.Tracked cycle)
    (split : (run.state cycle).lsu.unalignQ = true)
    (isOp : (run.state cycle).exMem.lsuOpMem = op)
    (error : (run.state (cycle + 1)).lsu.unalignFirstErr = true)
    (grant : (run.dataBus cycle).gnt = true) : run.Doomed op (cycle + 1) := by
  have request := inOrder.requested cycle grant
  obtain ⟨access, readyWb, noFlush⟩ := CoreState.access_of_dataReq request
  obtain ⟨inWb, -, second⟩ := CoreState.lsuEnWb_step_of_grant run.params tracked.behind.owned
    request grant
  rw [second split] at inWb
  have readyMem : (run.state cycle).readyMem (run.inputs cycle) = true := by
    cases readyMem : (run.state cycle).readyMem (run.inputs cycle) with
    | true => rfl
    | false =>
        rw [CoreState.memWb_step_of_bubble readyWb readyMem] at inWb
        cases inWb
  apply Doomed.inWb
  · rw [run.state_succ]
    exact inWb
  · rw [run.state_succ, CoreState.lsuOpWb_step_of_readyMem noFlush readyMem]
    exact isOp
  · exact error
  · have isGrant : (run.inputs cycle).dataGnt = true := grant
    have isRequest : Lsu.dataReq ((run.state cycle).lsuAccess (run.inputs cycle)) = true := request
    rw [run.state_succ, CoreState.unalignWb_step, isRequest, isGrant, Bool.and_self, if_pos rfl]
    exact (tracked.behind.owned split).2

theorem Doomed.succ {op : LsuOp} {cycle : Nat} (tracked : run.Tracked cycle)
    (doomed : run.Doomed op cycle) (noTrap : ¬ run.TakesTrap cycle) :
    run.Doomed op (cycle + 1) := by
  rcases doomed with ⟨split, isOp, error, none⟩ | ⟨access, isOp, error, crosses⟩
  · have noAnswer : (run.dataBus cycle).valid = false := by
      cases valid : (run.dataBus cycle).valid with
      | false => rfl
      | true => exact (opsInFlight_of_valid inOrder valid none).elim
    have staysFaulty : (run.state (cycle + 1)).lsu.unalignFirstErr = true := by
      rw [unalignFirstErr_succ, noAnswer, Bool.and_false]
      exact error
    cases grant : (run.dataBus cycle).gnt with
    | true => exact tracked.doomed_of_grant inOrder split isOp staysFaulty grant
    | false =>
        apply Doomed.inMem
        · rw [unalignQ_of_noGrant grant]
          exact split
        · rw [run.lsuOpMem_succ_of_waits (tracked.waits_of_split split grant)]
          exact isOp
        · exact staysFaulty
        · rw [opsInFlight_succ inOrder, noAnswer, grant, none]
          rfl
  · have whole := tracked.whole_of_access access
    have noAnswer : (run.dataBus cycle).valid = false := by
      cases valid : (run.dataBus cycle).valid with
      | false => rfl
      | true =>
          -- the answer would be the final one, with the error of the first half
          have isValid : (run.state cycle).lsuValidWb (run.inputs cycle) = true := by
            rw [lsuValidWb_eq, whole, valid]
            rfl
          have isError : (run.state cycle).lsuErrWb (run.inputs cycle) = true := by
            change (if (run.state cycle).lsu.unalignWb then
              (run.state cycle).lsuValidWb (run.inputs cycle) && _ else _) = true
            rw [if_pos crosses, isValid, error, Bool.or_true]
            rfl
          have idle := tracked.idle_of_access access
          have taken := excTaken_iff.mpr (.inr ⟨isValid, isError⟩)
          exact (noTrap (takesTrap_iff.mpr ⟨idle, taken⟩)).elim
    have waits : (run.state cycle).readyWb (run.inputs cycle) = false := by
      rw [CoreState.readyWb, WbStage.readyWb, if_pos access, lsuValidWb_eq]
      rw [noAnswer, Bool.and_false, Bool.false_and]
    have noGrant := noGrant_of_notReadyWb inOrder.requested waits
    apply Doomed.inWb
    · rw [run.state_succ, CoreState.lsuEnWb_step, waits]
      exact access
    · rw [run.state_succ, CoreState.lsuOpWb_step_of_notReady waits]
      exact isOp
    · rw [unalignFirstErr_succ, whole, Bool.false_and]
      exact error
    · have isNone : (run.inputs cycle).dataGnt = false := noGrant
      rw [run.state_succ, CoreState.unalignWb_step, isNone, Bool.and_false,
        if_neg Bool.false_ne_true]
      exact crosses

/-- A doomed access traps with the final response. -/
theorem finalError_of_doomed (guarded : run.FaultsGuarded) {op : LsuOp} {start taken : Nat}
    (doomed : run.Doomed op start) (first : FirstFrom run.TakesTrap start taken) :
    run.FinalError op taken := by
  have still : run.Doomed op taken := by
    apply first.holds_at (run.Doomed op) doomed
    intro cycle _ before noTrap doomed
    exact doomed.succ inOrder
      (tracked_of_takesTrap inOrder guarded first.happens (Nat.le_of_lt before)) noTrap
  have tracked := tracked_of_takesTrap inOrder guarded first.happens (Nat.le_refl taken)
  rcases still with ⟨split, -, -, -⟩ | ⟨access, isOp, -, -⟩
  · have noTrap := tracked.noTrap_of_split split
    rw [(takesTrap_iff.mp first.happens).2] at noTrap
    cases noTrap
  · exact tracked.finalError_of_takesTrap first.happens access isOp

/-- The trap after an error response is that of the access whose request was answered. -/
theorem finalError_of_answered (guarded : run.FaultsGuarded) {op : LsuOp} {response taken : Nat}
    (faulty : run.AnsweredWithError op response)
    (first : FirstFrom run.TakesTrap response taken) : run.FinalError op taken := by
  have tracked := tracked_of_takesTrap inOrder guarded first.happens first.after
  cases access : (run.state response).memWb.lsuEnWb with
  | true =>
      have isOp : (run.state response).memWb.lsuOpWb = op := by
        have head := faulty.isOp
        rw [tracked.inWb access] at head
        exact Option.some.inj head
      have valid : (run.state response).lsuValidWb (run.inputs response) = true := by
        rw [lsuValidWb_eq, tracked.whole_of_access access]
        exact faulty.valid
      have isError : (run.state response).lsuErrWb (run.inputs response) = true := by
        have error : (CoreState.dataBus (run.inputs response)).dataError = true := faulty.error
        have isValid : (run.state response).lsu.lsuValid
            (CoreState.dataBus (run.inputs response)) = true := valid
        rw [CoreState.lsuErrWb, Lsu.lsuErr, isValid, error]
        split <;> rfl
      have trap : run.TakesTrap response := takesTrap_iff.mpr
        ⟨tracked.idle_of_access access, excTaken_iff.mpr (.inr ⟨valid, isError⟩)⟩
      rw [first.eq_start trap]
      exact tracked.finalError_of_takesTrap trap access isOp
  | false =>
      rcases tracked.notInWb access with empty | ⟨split, one⟩
      · exact (opsInFlight_of_valid inOrder faulty.valid empty).elim
      · have isOp : (run.state response).exMem.lsuOpMem = op := by
          have head := faulty.isOp
          rw [one] at head
          exact Option.some.inj head
        have noTrap : ¬ run.TakesTrap response := by
          intro trap
          have none := tracked.noTrap_of_split split
          rw [(takesTrap_iff.mp trap).2] at none
          cases none
        have error : (run.state (response + 1)).lsu.unalignFirstErr = true := by
          rw [unalignFirstErr_succ, split, faulty.valid]
          exact faulty.error
        apply finalError_of_doomed inOrder guarded ?_ (first.succ noTrap)
        cases grant : (run.dataBus response).gnt with
        | true => exact tracked.doomed_of_grant inOrder split isOp error grant
        | false =>
            apply Doomed.inMem
            · rw [unalignQ_of_noGrant grant]
              exact split
            · rw [run.lsuOpMem_succ_of_waits (tracked.waits_of_split split grant)]
              exact isOp
            · exact error
            · rw [opsInFlight_succ inOrder, faulty.valid, grant, one]
              rfl

/-- After a bus error the cause stays for ever, and nothing is written. -/
theorem recorded_of_finalError {op : LsuOp} {taken cycle : Nat} (tracked : run.Tracked taken)
    (final : run.FinalError op taken)
    (notAccessed : Csr.enable (run.state taken).csrAccess mcause = false)
    (after : taken < cycle) : run.FaultRecorded op taken cycle := by
  have stuck : ∀ later, taken < later → run.Stuck later := fun later isLater =>
    (tracked.stuck_succ inOrder final.error).later inOrder isLater
  have notReadyEx : run.readyEx taken = false := by
    cases readyEx : run.readyEx taken with
    | false => rfl
    | true =>
        have readyMem := CoreState.readyMem_of_readyEx readyEx
        rw [final.notReadyMem] at readyMem
        cases readyMem
  have kept : Csr.enable (run.state cycle).csrAccess mcause = false ∧
      (run.state cycle).csr.mcauseQ = faultCause op := by
    induction cycle with
    | zero => omega
    | succ cycle induction =>
        rcases Nat.eq_or_lt_of_le (Nat.le_of_lt_succ after) with rfl | later
        · refine ⟨?_, final.mcauseQ_succ notAccessed⟩
          rw [run.state_succ, CoreState.csrAccess_step_of_notReady notReadyEx]
          exact notAccessed
        · obtain ⟨stillNot, cause⟩ := induction later
          obtain ⟨sameAccess, sameCause⟩ := (stuck cycle later).mcauseQ_succ inOrder stillNot
          rw [sameAccess, sameCause]
          exact ⟨stillNot, cause⟩
  refine ⟨kept.2, ?_, ?_⟩
  · intro _ between lower _
    have waits : (run.state between).readyWb (run.inputs between) = false := by
      rcases Nat.eq_or_lt_of_le lower with rfl | later
      · exact final.notReadyWb
      · exact (stuck between later).notReadyWb inOrder
    rw [writes, CoreState.rfWr, WbStage.rfWr, waits]
    rfl
  · intro _ issues
    have readyEx : run.readyEx cycle = true := by
      rw [CoreRun.issues, CoreState.issues, Bool.and_eq_true, Bool.and_eq_true] at issues
      exact CoreState.readyEx_of_readyId issues.1.2
    rw [(stuck cycle after).notReadyEx inOrder] at readyEx
    cases readyEx

end Responses

/-- The denied access is still in EX. -/
structure StillDenied (run : CoreRun) (op : LsuOp) (cycle : Nat) : Prop where
  idle : (run.state cycle).fsm = .idle
  denied : (run.state cycle).pmpErr = true
  isOp : (run.state cycle).idEx.lsuOpEx = op

theorem access_of_pmpErr {cycle : Nat} (denied : (run.state cycle).pmpErr = true) :
    (run.state cycle).idEx.lsuEnEx = true ∧ (run.state cycle).idEx.csrEnEx = false ∧
      run.readyEx cycle = false := by
  have access : (run.state cycle).idEx.lsuEnEx = true := by
    cases access : (run.state cycle).idEx.lsuEnEx with
    | true => rfl
    | false =>
        rw [CoreState.pmpErr_of_noAccess access] at denied
        cases denied
  refine ⟨access, (run.exOneUnit cycle).csrEnEx_of_access access, ?_⟩
  rw [readyEx, CoreState.readyEx_eq, CoreState.excEx_of_pmpErr denied]
  exact Bool.and_false _

theorem StillDenied.succ {op : LsuOp} {cycle : Nat} (still : run.StillDenied op cycle)
    (noTrap : ¬ run.TakesTrap cycle) : run.StillDenied op (cycle + 1) := by
  obtain ⟨-, noCsr, notReady⟩ := access_of_pmpErr still.denied
  have notTaken := notTaken_of_noTrap still.idle noTrap
  constructor
  · rw [run.state_succ, CoreState.fsm_step_idle still.idle, notTaken]
    rfl
  · rw [run.state_succ, CoreState.pmpErr_step_of_held still.idle notTaken notReady noCsr]
    exact still.denied
  · have operation : (run.state cycle).nextIdExOperation run.params (run.inputs cycle) =
        (run.state cycle).idEx := CoreState.nextIdExOperation_of_notReady notReady
    have same := congrArg IdEx.lsuOpEx operation
    exact same.trans still.isOp

theorem stillDenied_of_first {op : LsuOp} {denial taken : Nat}
    (inEx : run.DeniedInEx op denial) (first : FirstFrom run.TakesTrap denial taken) :
    run.StillDenied op taken := by
  apply first.holds_at (run.StillDenied op) ⟨inEx.idle, inEx.denied, inEx.isOp⟩
  intro cycle _ _ noTrap still
  exact still.succ noTrap

/-- A denial that MEM lets through to the controller counts as that of a store. -/
theorem isPmpStoreErr_of_pmpErr {cycle : Nat} (denied : (run.state cycle).pmpErr = true)
    (readyMem : (run.state cycle).readyMem (run.inputs cycle) = true) :
    (run.state cycle).isPmpStoreErr (run.inputs cycle) = true := by
  rw [CoreState.isPmpStoreErr, ExStage.isPmpStoreErr, denied, readyMem,
    (access_of_pmpErr denied).1]
  rfl

/-- A recorded denial. -/
theorem mcauseQ_succ_of_denied {cycle : Nat} (denied : (run.state cycle).pmpErr = true)
    (readyMem : (run.state cycle).readyMem (run.inputs cycle) = true)
    (taken : run.excTaken cycle = true) :
    (run.state (cycle + 1)).csr.mcauseQ = faultCause .wr := by
  have notAccessed := CoreState.enable_of_noCsr (access_of_pmpErr denied).2.1 mcause
  rw [run.state_succ, CoreState.mcauseQ_step_of_recorded notAccessed
    (CoreState.trapUpdate_of_storeErr run.params taken
      (.inr (isPmpStoreErr_of_pmpErr denied readyMem)))]
  rfl

/-- The flush after the trap of a denied store, and the cycles after it: EX holds no CSR
instruction and `mcause` is that of a store. -/
structure StoreFaultKept (run : CoreRun) (cycle : Nat) : Prop where
  noCsr : (run.state cycle).idEx.csrEnEx = false
  cause : (run.state cycle).csr.mcauseQ = faultCause .wr

theorem StoreFaultKept.succ {cycle : Nat} (kept : run.StoreFaultKept cycle)
    (noIssue : run.issues cycle = false)
    (sameCause : (run.state cycle).mcauseUpdate run.params (run.inputs cycle) = true →
      (run.state (cycle + 1)).csr.mcauseQ = faultCause .wr) : run.StoreFaultKept (cycle + 1) := by
  constructor
  · rw [run.state_succ]
    exact CoreState.csrEnEx_step_of_noIssue kept.noCsr noIssue
  · cases records : (run.state cycle).mcauseUpdate run.params (run.inputs cycle) with
    | true => exact sameCause records
    | false =>
        rw [run.state_succ, CoreState.mcauseQ_step_of_notRecorded run.params
          (CoreState.enable_of_noCsr kept.noCsr mcause) records]
        exact kept.cause

theorem noIssue_of_notReadyEx {cycle : Nat} (notReady : run.readyEx cycle = false) :
    run.issues cycle = false := by
  cases issues : run.issues cycle with
  | false => rfl
  | true =>
      rw [CoreRun.issues, CoreState.issues, Bool.and_eq_true, Bool.and_eq_true] at issues
      have readyEx : run.readyEx cycle = true := CoreState.readyEx_of_readyId issues.1.2
      rw [notReady] at readyEx
      cases readyEx

/-- The trap of a denied store. -/
theorem storeFaultKept_of_trap {cycle : Nat} (tracked : run.Tracked cycle)
    (marker : (run.state cycle).memWb.excTakenWb = true)
    (denied : (run.state cycle).pmpErr = true) : run.StoreFaultKept (cycle + 1) := by
  obtain ⟨-, noCsr, notReady⟩ := access_of_pmpErr denied
  obtain ⟨noMem, noWb⟩ := tracked.behind.wb marker
  constructor
  · rw [run.state_succ]
    exact CoreState.csrEnEx_step_of_noIssue noCsr (noIssue_of_notReadyEx notReady)
  · exact mcauseQ_succ_of_denied denied
      (CoreState.readyMem_of_noAccess (CoreState.readyWb_of_noAccess noWb) noMem)
      (excTaken_iff.mpr (.inl marker))

/-- In a flush with no bus error, what records a cause is the denial or an instruction in ID. -/
theorem source_of_flush {cycle : Nat} (tracked : run.Tracked cycle)
    (inOrder : InOrder (fun _ _ => True) run.dataBus)
    (flushing : (run.state cycle).fsm = .excFlush)
    (noCsr : (run.state cycle).idEx.csrEnEx = false)
    (records : (run.state cycle).mcauseUpdate run.params (run.inputs cycle) = true) :
    run.excTaken cycle = true ∧
      ((run.state cycle).pmpErr = true ∨
        (run.state cycle).keepsCause run.params (run.inputs cycle) = false) := by
  obtain ⟨whole, noWb⟩ := tracked.behind.flushing flushing
  have noAnswer : (run.state cycle).lsuValidWb (run.inputs cycle) = false := by
    cases valid : (run.state cycle).lsuValidWb (run.inputs cycle) with
    | false => rfl
    | true =>
        rw [tracked.access_of_lsuValid inOrder valid] at noWb
        cases noWb
  rcases Controller.mcauseUpdate_iff.mp records with ⟨taken, source⟩ | ⟨-, waking⟩
  · refine ⟨taken, ?_⟩
    cases denied : (run.state cycle).pmpErr with
    | true => exact .inl rfl
    | false =>
        apply Or.inr
        rw [CoreState.keepsCause, denied, Bool.false_or, Bool.not_eq_false']
        simp only [CoreState.controllerInput] at source
        rcases source with storeErr | pmpStore | loadErr | pmpLoad | ecall | ebreak | illegal |
          illegalCsr | fault | ⟨-, interrupt⟩
        · rw [CoreState.isLsuStoreErr, WbStage.isLsuStoreErr, noAnswer] at storeErr
          cases storeErr
        · rw [CoreState.isPmpStoreErr, ExStage.isPmpStoreErr, denied] at pmpStore
          cases pmpStore
        · rw [CoreState.isLsuLoadErr, WbStage.isLsuLoadErr, noAnswer] at loadErr
          cases loadErr
        · rw [CoreState.isPmpLoadErr, ExStage.isPmpLoadErr, denied] at pmpLoad
          cases pmpLoad
        · simp [ecall]
        · simp [ebreak]
        · simp [illegal]
        · rw [CoreState.isIllegalCsr, CoreState.illegalCsr_of_noAccess noCsr, Bool.false_and,
            Bool.and_false] at illegalCsr
          cases illegalCsr
        · simp [fault]
        · rw [CoreState.isInterrupt_of_flushD (CoreState.flushD_of_flushing flushing)] at interrupt
          cases interrupt
  · exact absurd (flushing.symm.trans waking) (by decide)

/-- The flush keeps the cause of a denied store and ends awake. -/
theorem StoreFaultKept.flush {cycle : Nat} (kept : run.StoreFaultKept cycle)
    (tracked : run.Tracked cycle) (inOrder : InOrder (fun _ _ => True) run.dataBus)
    (flushing : (run.state cycle).fsm = .excFlush)
    (keeps : (run.state cycle).keepsCause run.params (run.inputs cycle) = true) :
    run.StoreFaultKept (cycle + 1) ∧ (run.state (cycle + 1)).fsm = .idle := by
  constructor
  · apply kept.succ (CoreState.issues_of_flushD (CoreState.flushD_of_flushing flushing))
    intro records
    obtain ⟨taken, denied | replaced⟩ :=
      source_of_flush tracked inOrder flushing kept.noCsr records
    · have readyWb : (run.state cycle).readyWb (run.inputs cycle) = true :=
        CoreState.readyWb_of_noAccess (tracked.behind.flushing flushing).2
      exact mcauseQ_succ_of_denied denied
        ((CoreState.readyMem_of_flushing flushing).trans readyWb) taken
    · rw [keeps] at replaced
      cases replaced
  · have noWfi : (run.state cycle).isWfi run.params (run.inputs cycle) = false := by
      cases denied : (run.state cycle).pmpErr with
      | true => exact CoreState.idSignal_of_excEx (CoreState.excEx_of_pmpErr denied) _
      | false =>
          rw [CoreState.keepsCause, denied, Bool.false_or, Bool.not_eq_true', Bool.or_eq_false_iff]
            at keeps
          exact keeps.2
    rw [run.state_succ, CoreState.fsm_step_excFlush flushing, noWfi]
    rfl

/-- Awake and without a trap or an issue, the cause stays. -/
theorem StoreFaultKept.quiet {cycle : Nat} (kept : run.StoreFaultKept cycle)
    (idle : (run.state cycle).fsm = .idle) (noIssue : run.issues cycle = false)
    (noTrap : ¬ run.TakesTrap cycle) :
    run.StoreFaultKept (cycle + 1) ∧ (run.state (cycle + 1)).fsm = .idle := by
  have notTaken := notTaken_of_noTrap idle noTrap
  constructor
  · apply kept.succ noIssue
    intro records
    rw [CoreState.mcauseUpdate_of_noTrap run.params idle notTaken] at records
    cases records
  · rw [run.state_succ, CoreState.fsm_step_idle idle, notTaken]
    rfl

/-- After the trap of a denied store the cause stays up to the next issue or trap. -/
theorem storeFaultKept_after (inOrder : InOrder (fun _ _ => True) run.dataBus)
    (guarded : run.FaultsGuarded) {taken cycle : Nat} (still : run.StillDenied .wr taken)
    (trap : run.TakesTrap taken) (marker : (run.state taken).memWb.excTakenWb = true)
    (after : taken < cycle)
    (quiet : ∀ between, taken < between → between < cycle →
      run.issues between = false ∧ ¬ run.TakesTrap between) : run.StoreFaultKept cycle := by
  have tracked := tracked_of_takesTrap inOrder guarded trap (Nat.le_refl taken)
  have noError : (run.state taken).busError (run.inputs taken) = false := by
    cases error : (run.state taken).busError (run.inputs taken) with
    | false => rfl
    | true =>
        have access := tracked.access_of_lsuValid inOrder (busError_iff.mp error).2.1
        rw [(tracked.behind.wb marker).2] at access
        cases access
  have trackedNext := tracked.succ inOrder guarded.second (guarded.noneBehind taken) noError
  have flushing : (run.state (taken + 1)).fsm = .excFlush := by
    have isTaken : (run.state taken).excTaken (run.inputs taken) = true :=
      (takesTrap_iff.mp trap).2
    rw [run.state_succ, CoreState.fsm_step_idle still.idle, isTaken]
    rfl
  have first := storeFaultKept_of_trap tracked marker still.denied
  have keeps := guarded.notReplaced taken still.idle marker still.denied
  have later : ∀ cycle, taken + 1 < cycle →
      (∀ between, taken < between → between < cycle →
        run.issues between = false ∧ ¬ run.TakesTrap between) →
      run.StoreFaultKept cycle ∧ (run.state cycle).fsm = .idle := by
    intro cycle isLater
    induction cycle with
    | zero => omega
    | succ cycle induction =>
        intro quiet
        rcases Nat.eq_or_lt_of_le (Nat.le_of_lt_succ isLater) with rfl | below
        · exact first.flush trackedNext inOrder flushing keeps
        · obtain ⟨kept, idle⟩ := induction below fun between lower upper =>
            quiet between lower (by omega)
          obtain ⟨noIssue, noTrap⟩ := quiet cycle (by omega) (by omega)
          exact kept.quiet idle noIssue noTrap
  rcases Nat.eq_or_lt_of_le after with rfl | isLater
  · exact first
  · exact (later cycle isLater quiet).1

/-! ## Classification -/

theorem faultsClassified_of_guarded (run : CoreRun)
    (inOrder : InOrder (fun _ _ => True) run.dataBus) (guarded : run.FaultsGuarded) :
    run.FaultsClassified := by
  intro op taken fault cycle after quiet
  cases fault with
  | answered response faulty first =>
      have final := finalError_of_answered inOrder guarded faulty first
      exact recorded_of_finalError inOrder
        (tracked_of_takesTrap inOrder guarded first.happens (Nat.le_refl taken)) final
        (guarded.notAccessed taken final.error) after
  | denied denial inEx first marked =>
      have still := stillDenied_of_first inEx first
      obtain rfl : op = .wr :=
        still.isOp.symm.trans (guarded.storesOnly taken still.idle marked still.denied)
      have kept := storeFaultKept_after inOrder guarded still first.happens marked after quiet
      refine ⟨kept.cause, ?_, ?_⟩
      · intro isLoad
        cases isLoad
      · intro isLoad
        cases isLoad

open Surroundings (enterUser)

/-- A single load, which the data memory answers with an error. -/
def loadAnsweredWithError : Surroundings where
  program := Surroundings.programOf [0x00002083#32] -- lw x1, 0(x0)
  dataAnswer := fun _ => (0#32, true)
  rest := 6

theorem faultsClassified_loadAnsweredWithError :
    loadAnsweredWithError.coreRun.FaultsClassified := by
  have settled := loadAnsweredWithError.forall_cycle_of_settled 9 (by decide) (fun _ _ => rfl)
    (by decide +kernel)
  apply faultsClassified_of_guarded _ loadAnsweredWithError.wellConnected.data
  constructor
  · exact settled (fun st port => st.accessBehindMarker defaultParams port = false)
      (by decide +kernel)
  · intro last cycle inside split
    have whole := settled (fun st _ => st.lsu.unalignQ = false) (by decide +kernel) cycle
    rw [whole] at split
    cases split
  · exact settled (fun st _ => st.fsm = .idle → st.memWb.excTakenWb = true →
      st.pmpErr = true → st.idEx.lsuOpEx = .wr) (by decide +kernel)
  · intro cycle idle marker denied
    have notDenied := settled (fun st _ => st.pmpErr = false) (by decide +kernel) cycle
    rw [notDenied] at denied
    cases denied
  · exact settled (fun st port => st.busError port = true →
      Csr.enable st.csrAccess mcause = false) (by decide +kernel)

/-- User code whose first instruction is a load outside its region. -/
def userLoadRefused : Surroundings where
  program := Surroundings.programOf (enterUser ++ [0x08002083#32]) -- lw x1, 128(x0)

/-- The denied load is recorded as a store. -/
theorem faultsClassified_fails :
    ¬ ∀ (run : CoreRun) (program : Word → Word × Bool), run.params = defaultParams →
      run.WellConnected program → run.FaultsClassified := by
  intro classified
  have inEx : userLoadRefused.coreRun.DeniedInEx .ld 13 := by
    constructor
    all_goals rw [Surroundings.state_coreRun]; decide +kernel
  have first : FirstFrom userLoadRefused.coreRun.TakesTrap 13 15 := by
    refine ⟨by decide, (takesTrap_coreRun _ 15).mpr (by decide +kernel), ?_⟩
    intro earlier lower upper
    rw [takesTrap_coreRun]
    obtain rfl | rfl : earlier = 13 ∨ earlier = 14 := by omega
    · decide +kernel
    · decide +kernel
  have marked : (userLoadRefused.coreRun.state 15).memWb.excTakenWb = true := by
    rw [Surroundings.state_coreRun]
    decide +kernel
  have recorded := classified userLoadRefused.coreRun _ rfl userLoadRefused.wellConnected .ld 15
    (.denied 13 inEx first marked) 16 (by decide) fun between lower upper => by omega
  have cause := recorded.cause
  rw [Surroundings.state_coreRun] at cause
  revert cause
  decide +kernel

end CoreRun

end RiscvCore
