import RiscvCore.TrapDrain

/-!
# Trap entry

The marker of a synchronous trap is followed by one more, since its instruction waits.  The trap is
recorded when the first one reaches the controller, and again in the flush, where the second one
finds machine mode and interrupts disabled.  What the handler reads is right exactly where the
second update repeats the first, or, after a denied store of user code, where there is none.
-/

namespace RiscvCore

open SynchronousRun (FirstFrom)

/-- The exceptions that an instruction raises in ID. -/
inductive IdTrap where
  | ecall | ebreak | illegalInstr | instrAcsFault
  deriving DecidableEq, Repr

namespace IdTrap

/-- The instruction in ID raises the exception; a fetch error hides the others. -/
def raisedIn (trap : IdTrap) (st : CoreState) : Bool :=
  match trap with
  | .ecall => !st.ifs.instrFetchError && st.decoded.ecallEn
  | .ebreak => !st.ifs.instrFetchError && st.decoded.ebreakEn
  | .illegalInstr => !st.ifs.instrFetchError && st.decoded.illegalInstr
  | .instrAcsFault => st.instrAcsFault

/-- The `mcause` of the exception in the given privilege mode. -/
def cause (trap : IdTrap) (mode : Privilege) : Word :=
  match trap with
  | .ecall => if mode = privLvlU then 8#32 else 11#32
  | .ebreak => 3#32
  | .illegalInstr => 2#32
  | .instrAcsFault => 1#32

/-- What the controller records for it. -/
def recordedCause (trap : IdTrap) (mode : Privilege) : Mcause :=
  match trap with
  | .ecall => Controller.ecallCause mode
  | .ebreak => .breakpoint
  | .illegalInstr => .illegalInstr
  | .instrAcsFault => .instrAcsFault

end IdTrap

/-- The word that a cause is recorded as. -/
def Mcause.word (cause : Mcause) : Word :=
  cause.toBits.extractLsb' 5 1 ++ 0#26 ++ cause.toBits.extractLsb' 0 5

theorem IdTrap.word_recordedCause (trap : IdTrap) (mode : Privilege) :
    (trap.recordedCause mode).word = trap.cause mode := by
  cases trap with
  | ecall =>
      rw [recordedCause, cause, Controller.ecallCause]
      split <;> rfl
  | ebreak => exact show Mcause.word .breakpoint = 3#32 by decide
  | illegalInstr => exact show Mcause.word .illegalInstr = 2#32 by decide
  | instrAcsFault => exact show Mcause.word .instrAcsFault = 1#32 by decide

/-- No exception of ID has the cause of an access fault of data. -/
theorem IdTrap.cause_ne (trap : IdTrap) (mode : Privilege) (op : LsuOp) :
    trap.cause mode ≠ CoreRun.faultCause op := by
  cases trap with
  | ecall =>
      rw [cause]
      split <;> cases op <;> decide
  | ebreak => cases op <;> exact show (3#32 : Word) ≠ _ by decide
  | illegalInstr => cases op <;> exact show (2#32 : Word) ≠ _ by decide
  | instrAcsFault => cases op <;> exact show (1#32 : Word) ≠ _ by decide

namespace CoreState

variable {params : Params} {st : CoreState} {port : CoreInput} {trap : IdTrap}

theorem exceptionTakenId_of_raisedIn (raised : trap.raisedIn st = true) :
    st.exceptionTakenId = true := by
  rw [exceptionTakenId, IdStage.exceptionTakenId]
  cases trap with
  | ecall =>
      rw [IdTrap.raisedIn, Bool.and_eq_true] at raised
      simp [raised.2]
  | ebreak =>
      rw [IdTrap.raisedIn, Bool.and_eq_true] at raised
      simp [raised.2]
  | illegalInstr =>
      rw [IdTrap.raisedIn, Bool.and_eq_true] at raised
      simp [raised.2]
  | instrAcsFault =>
      have fault : IdStage.instrAcsFault st.ifs = true := raised
      simp [fault]

theorem raisedIn_of_shown {other : CoreState} (same : other.ifs.shown = st.ifs.shown) :
    trap.raisedIn other = trap.raisedIn st := by
  have sameDecoded : other.decoded = st.decoded := decoded_of_shown same
  have valid : other.ifs.instrValueId = st.ifs.instrValueId := congrArg Shown.instrValueId same
  have fault : other.ifs.instrFetchError = st.ifs.instrFetchError :=
    congrArg Shown.instrFetchError same
  cases trap with
  | ecall => rw [IdTrap.raisedIn, IdTrap.raisedIn, sameDecoded, fault]
  | ebreak => rw [IdTrap.raisedIn, IdTrap.raisedIn, sameDecoded, fault]
  | illegalInstr => rw [IdTrap.raisedIn, IdTrap.raisedIn, sameDecoded, fault]
  | instrAcsFault =>
      rw [IdTrap.raisedIn, IdTrap.raisedIn, instrAcsFault, instrAcsFault, IdStage.instrAcsFault,
        IdStage.instrAcsFault, valid, fault]

theorem isEcall_eq :
    st.isEcall params port = (st.readyEx params port && IdTrap.ecall.raisedIn st) :=
  Bool.and_assoc _ _ _

theorem isEbreak_eq :
    st.isEbreak params port = (st.readyEx params port && IdTrap.ebreak.raisedIn st) :=
  Bool.and_assoc _ _ _

theorem isIllegalInstr_eq :
    st.isIllegalInstr params port = (st.readyEx params port && IdTrap.illegalInstr.raisedIn st) :=
  Bool.and_assoc _ _ _

theorem isInstrAcsFault_eq : st.isInstrAcsFault params port =
    (st.readyEx params port && IdTrap.instrAcsFault.raisedIn st) := rfl

/-- The decoder's name for an exception that it finds. -/
def kindOf : IdTrap → Option SystemKind
  | .ecall => some .ecall
  | .ebreak => some .ebreak
  | .illegalInstr => some .illegal
  | .instrAcsFault => none

theorem eq_of_kindOf {other : IdTrap} (same : kindOf other = kindOf trap) : other = trap := by
  cases trap <;> cases other <;> first
    | rfl
    | cases same

/-- An exception is a fetch error, or the decoded instruction is of its kind. -/
theorem raisedIn_iff {kind : Option SystemKind} (hasKind : st.decoded.HasKind kind) :
    trap.raisedIn st = true ↔
      (trap = .instrAcsFault ∧ st.instrAcsFault = true) ∨
        (st.ifs.instrFetchError = false ∧ kind.isSome ∧ kind = kindOf trap) := by
  cases trap with
  | ecall => simp [IdTrap.raisedIn, hasKind.ecall, kindOf]; grind
  | ebreak => simp [IdTrap.raisedIn, hasKind.ebreak, kindOf]; grind
  | illegalInstr => simp [IdTrap.raisedIn, hasKind.illegal, kindOf]; grind
  | instrAcsFault => simp [IdTrap.raisedIn, kindOf]; grind

theorem fetchError_of_instrAcsFault (fault : st.instrAcsFault = true) :
    st.ifs.instrFetchError = true := by
  rw [instrAcsFault, IdStage.instrAcsFault, Bool.and_eq_true] at fault
  exact fault.2

/-- An instruction raises one exception at most. -/
theorem raisedIn_eq (raised : trap.raisedIn st = true) (other : IdTrap) :
    other.raisedIn st = decide (other = trap) := by
  by_cases same : other = trap
  · rw [same, raised, decide_eq_true rfl]
  · rw [decide_eq_false same]
    cases raisesOther : other.raisedIn st with
    | false => rfl
    | true =>
        obtain ⟨kind, hasKind, -⟩ :=
          exists_hasKind_decoder st.ifs.instrPayloadId st.ifs.instrValueId
        rcases (raisedIn_iff hasKind).mp raised with ⟨isFault, fault⟩ | ⟨noError, isSome, isKind⟩
        · rcases (raisedIn_iff hasKind).mp raisesOther with ⟨isOther, -⟩ | ⟨noError, -, -⟩
          · exact (same (isOther.trans isFault.symm)).elim
          · rw [fetchError_of_instrAcsFault fault] at noError
            cases noError
        · rcases (raisedIn_iff hasKind).mp raisesOther with ⟨-, fault⟩ | ⟨-, -, isOther⟩
          · rw [fetchError_of_instrAcsFault fault] at noError
            cases noError
          · exact (same (eq_of_kindOf (isOther.symm.trans isKind))).elim

/-- Nor is it an `mret`. -/
theorem isMret_of_raisedIn (raised : trap.raisedIn st = true) :
    st.isMret params port = false := by
  obtain ⟨kind, hasKind, -⟩ := exists_hasKind_decoder st.ifs.instrPayloadId st.ifs.instrValueId
  have isMret : st.decoded.mretEn = decide (kind = some .mret) := hasKind.mret
  rcases (raisedIn_iff hasKind).mp raised with ⟨-, fault⟩ | ⟨-, -, isKind⟩
  · exact idSignal_of_fetchError (fetchError_of_instrAcsFault fault) _
  · have notMret : kind ≠ some .mret := by
      rw [isKind]
      cases trap <;> simp [kindOf]
    rw [CoreState.isMret, idSignal, isMret, decide_eq_false notMret, Bool.and_false]

/-! ## Recording a trap -/

/-- The trap-entry update of `mepc`. -/
theorem mepcQ_step_of_updated (notWritten : Csr.enable st.csrAccess mepc = false)
    (updates : st.mepcUpdata params port = true) :
    (st.step params port).csr.mepcQ =
      Csr.evenPc (if (st.trapUpdate params port).mepcMux = .pcIf then st.ifs.pcIf
        else st.memWb.pcWb) := by
  change st.csr.mepcN (st.csrInput params port) = _
  unfold Csr.mepcN
  change (if Csr.enable st.csrAccess mepc then _ else
    if st.mepcUpdata params port then _ else _) = _
  rw [notWritten, updates, if_neg Bool.false_ne_true, if_pos rfl]
  rw [show (st.trapUpdate params port).mepcMux = (st.csrInput params port).mepcMux from rfl]
  cases (st.csrInput params port).mepcMux with
  | pcIf => exact congrArg Csr.evenPc (if_pos rfl).symm
  | pcWb => exact congrArg Csr.evenPc (if_neg (by decide)).symm

/-- Without a trap nothing updates `mepc`, not even on waking up. -/
theorem mepcUpdata_of_notTaken (notTaken : st.excTaken port = false) :
    st.mepcUpdata params port = false := by
  have noTrap : (st.controllerInput params port).excTaken = false := notTaken
  rw [mepcUpdata, trapUpdate, Controller.trapUpdate, noTrap, if_neg Bool.false_ne_true]
  split <;> rfl

theorem mepcQ_step_of_spared (noCsr : st.idEx.csrEnEx = false)
    (noEpc : st.mepcUpdata params port = false) :
    (st.step params port).csr.mepcQ = st.csr.mepcQ := by
  change st.csr.mepcN (st.csrInput params port) = _
  unfold Csr.mepcN
  change (if Csr.enable st.csrAccess mepc then _ else
    if st.mepcUpdata params port then _ else _) = _
  rw [enable_of_noCsr noCsr, noEpc]
  rfl

/-- The update of a trap: the old mode and interrupt enable go to `mstatus`, the address in WB to
`mepc`. -/
structure Recorded (cause : Mcause) (st next : CoreState) : Prop where
  status : next.csr.mstatusQ =
    { mpp := st.csr.privilegeModeQ, mpie := st.csr.mstatusQ.mie, mie := false }
  cause : next.csr.mcauseQ = cause.word
  epc : next.csr.mepcQ = Csr.evenPc st.memWb.pcWb

theorem recorded_step {cause : Mcause} (noCsr : st.idEx.csrEnEx = false)
    (records : st.trapUpdate params port = Controller.recorded cause) :
    st.Recorded cause (st.step params port) := by
  have updates : st.mcauseUpdate params port = true := by
    rw [mcauseUpdate, records]
    rfl
  have updatesEpc : st.mepcUpdata params port = true := by
    rw [mepcUpdata, records]
    rfl
  constructor
  · change st.csr.mstatusN (st.csrInput params port) = _
    unfold Csr.mstatusN
    change (if Csr.enable st.csrAccess mstarus then _ else
      if st.mcauseUpdate params port then _ else _) = _
    rw [enable_of_noCsr noCsr, updates, if_neg Bool.false_ne_true, if_pos rfl]
  · exact mcauseQ_step_of_recorded (enable_of_noCsr noCsr mcause) records
  · rw [mepcQ_step_of_updated (enable_of_noCsr noCsr mepc) updatesEpc, records]
    rfl

/-- User mode is left for machine mode. -/
def enteredMode (mode : Privilege) : Privilege := if mode = privLvlU then privLvlM else mode

theorem privilegeModeQ_step_of_recorded {cause : Mcause} (noMret : st.isMret params port = false)
    (records : st.trapUpdate params port = Controller.recorded cause) :
    (st.step params port).csr.privilegeModeQ = enteredMode st.csr.privilegeModeQ := by
  have updates : st.mcauseUpdate params port = true := by
    rw [mcauseUpdate, records]
    rfl
  change st.csr.privilegeModeN (st.csrInput params port) = _
  unfold Csr.privilegeModeN
  change (if st.csr.privilegeModeQ = privLvlM then
    (if st.isMret params port then _ else _) else
      if _ then (if st.mcauseUpdate params port then _ else _) else _) = _
  rw [noMret, updates, if_neg Bool.false_ne_true, if_pos rfl, enteredMode]
  by_cases machine : st.csr.privilegeModeQ = privLvlM
  · rw [if_pos machine, machine]
    rfl
  · rw [if_neg machine]

/-- The update of a trap that leaves user mode. -/
structure Entered (cause : Mcause) (st next : CoreState) : Prop extends Recorded cause st next where
  mode : next.csr.privilegeModeQ = enteredMode st.csr.privilegeModeQ

theorem entered_step {cause : Mcause} (noCsr : st.idEx.csrEnEx = false)
    (noMret : st.isMret params port = false)
    (records : st.trapUpdate params port = Controller.recorded cause) :
    st.Entered cause (st.step params port) :=
  ⟨recorded_step noCsr records, privilegeModeQ_step_of_recorded noMret records⟩

/-- An error on the data bus is recorded in place of the exception of ID. -/
def causeOf (trap : IdTrap) (st : CoreState) (port : CoreInput) : Mcause :=
  if st.isLsuStoreErr port then .storeAcsFault
  else if st.isLsuLoadErr port then .loadAcsFault
  else trap.recordedCause st.csr.privilegeModeQ

theorem isIllegalCsr_of_noCsr (noCsr : st.idEx.csrEnEx = false) :
    st.isIllegalCsr params port = false := by
  rw [isIllegalCsr, illegalCsr_of_noAccess noCsr, Bool.false_and, Bool.and_false]

/-- With EX ready and nothing denied, the exception of ID is recorded. -/
theorem trapUpdate_of_raisedIn (raised : trap.raisedIn st = true)
    (taken : st.excTaken port = true) (ready : st.readyEx params port = true)
    (allowed : st.pmpErr = false) (noCsr : st.idEx.csrEnEx = false) :
    st.trapUpdate params port = Controller.recorded (causeOf trap st port) := by
  have noStoreDenial : st.isPmpStoreErr port = false := by
    rw [isPmpStoreErr, ExStage.isPmpStoreErr, allowed]
    rfl
  have noLoadDenial : st.isPmpLoadErr port = false := by
    rw [isPmpLoadErr, ExStage.isPmpLoadErr, allowed]
    rfl
  have noIllegalCsr : st.isIllegalCsr params port = false := isIllegalCsr_of_noCsr noCsr
  have others := raisedIn_eq raised
  unfold trapUpdate Controller.trapUpdate
  simp only [controllerInput, taken, noStoreDenial, noLoadDenial, noIllegalCsr, isEcall_eq,
    isEbreak_eq, isIllegalInstr_eq, isInstrAcsFault_eq, ready, others, Bool.or_false,
    Bool.true_and, if_true, causeOf, apply_ite Controller.recorded]
  cases trap <;> simp [IdTrap.recordedCause]

/-- What is left without a source: a `wfi` in ID still updates `mepc`. -/
def silentUpdate (isWfi : Bool) : Controller.TrapUpdate :=
  if isWfi then { Controller.noUpdate with mepcUpdata := true, mepcMux := .pcIf }
  else Controller.noUpdate

/-- Without another source a `wfi` in ID updates `mepc`, and an interrupt is recorded. -/
theorem trapUpdate_of_quiet (taken : st.excTaken port = true) (allowed : st.pmpErr = false)
    (noIllegalCsr : st.isIllegalCsr params port = false)
    (noError : st.reportsError port = false) (noTrap : ∀ trap : IdTrap, trap.raisedIn st = false) :
    st.trapUpdate params port =
      if st.isWfi params port then silentUpdate true
      else if st.isInterrupt params port then
        Controller.recorded (Controller.interruptCause (st.controllerInput params port))
      else silentUpdate false := by
  have noStoreDenial : st.isPmpStoreErr port = false := by
    rw [isPmpStoreErr, ExStage.isPmpStoreErr, allowed]
    rfl
  have noLoadDenial : st.isPmpLoadErr port = false := by
    rw [isPmpLoadErr, ExStage.isPmpLoadErr, allowed]
    rfl
  obtain ⟨noLoadErr, noStoreErr⟩ := noLsuErr_of_noError noError
  unfold trapUpdate Controller.trapUpdate
  simp only [controllerInput, taken, noStoreDenial, noLoadDenial, noIllegalCsr, noLoadErr,
    noStoreErr, isEcall_eq, isEbreak_eq, isIllegalInstr_eq, isInstrAcsFault_eq, noTrap,
    Bool.or_false, Bool.and_false, if_true, silentUpdate]
  simp

/-- A flush without another source records nothing. -/
theorem trapUpdate_of_silent (taken : st.excTaken port = true) (flush : st.flushD = true)
    (allowed : st.pmpErr = false) (noIllegalCsr : st.isIllegalCsr params port = false)
    (noError : st.reportsError port = false) (noTrap : ∀ trap : IdTrap, trap.raisedIn st = false) :
    st.trapUpdate params port = silentUpdate (st.isWfi params port) := by
  rw [trapUpdate_of_quiet taken allowed noIllegalCsr noError noTrap, isInterrupt_of_flushD flush]
  cases st.isWfi params port <;> rfl

/-- An error on the data bus is recorded. -/
theorem exists_recorded_of_reportsError (params : Params) (taken : st.excTaken port = true)
    (error : st.reportsError port = true) :
    ∃ cause, st.trapUpdate params port = Controller.recorded cause := by
  cases storeErr : st.isLsuStoreErr port || st.isPmpStoreErr port with
  | true =>
      rw [Bool.or_eq_true] at storeErr
      exact ⟨_, trapUpdate_of_storeErr params taken storeErr⟩
  | false =>
      rw [Bool.or_eq_false_iff] at storeErr
      have reported : (st.lsuValidWb port && st.lsuErrWb port) = true := error
      have loadErr : st.isLsuLoadErr port = true := by
        have noStore := storeErr.1
        rw [isLsuStoreErr, WbStage.isLsuStoreErr, reported, Bool.true_and] at noStore
        rw [isLsuLoadErr, WbStage.isLsuLoadErr, reported, Bool.true_and]
        cases op : st.memWb.lsuOpWb with
        | ld => rfl
        | wr =>
            rw [op] at noStore
            cases noStore
      exact ⟨_, trapUpdate_of_loadErr params taken loadErr storeErr.1 storeErr.2⟩

/-- What a silent flush leaves of the CSRs. -/
theorem csr_step_of_silent (noCsr : st.idEx.csrEnEx = false)
    (noMret : st.isMret params port = false)
    (silent : st.trapUpdate params port = silentUpdate (st.isWfi params port)) :
    (st.step params port).csr.mstatusQ = st.csr.mstatusQ ∧
      (st.step params port).csr.mcauseQ = st.csr.mcauseQ ∧
      (st.step params port).csr.privilegeModeQ = st.csr.privilegeModeQ ∧
      (st.step params port).csr.mepcQ =
        if st.isWfi params port then Csr.evenPc st.ifs.pcIf else st.csr.mepcQ := by
  have noCause : st.mcauseUpdate params port = false := by
    rw [mcauseUpdate, silent, silentUpdate]
    split <;> rfl
  have spared (addr : CsrAddr) : Csr.Spared (st.csrInput params port).access addr := by
    intro accessed
    exact absurd (accessed.symm.trans (enable_of_noCsr noCsr addr)) (by decide)
  refine ⟨?_, Csr.mcauseN_of_spared noCause (spared mcause), ?_, ?_⟩
  · change st.csr.mstatusN (st.csrInput params port) = _
    unfold Csr.mstatusN
    change (if Csr.enable st.csrAccess mstarus then _ else
      if st.mcauseUpdate params port then _ else
        if st.isMret params port then _ else _) = _
    rw [enable_of_noCsr noCsr, noCause, noMret]
    rfl
  · change st.csr.privilegeModeN (st.csrInput params port) = _
    unfold Csr.privilegeModeN
    change (if _ then (if st.isMret params port then _ else _) else
      if _ then (if st.mcauseUpdate params port then _ else _) else _) = _
    rw [noMret, noCause]
    simp
  · cases isWfi : st.isWfi params port with
    | true =>
        have updates : st.mepcUpdata params port = true := by
          rw [mepcUpdata, silent, isWfi]
          rfl
        rw [mepcQ_step_of_updated (enable_of_noCsr noCsr mepc) updates, silent, isWfi]
        rfl
    | false =>
        have spares : st.mepcUpdata params port = false := by
          rw [mepcUpdata, silent, isWfi]
          rfl
        rw [mepcQ_step_of_spared noCsr spares]
        rfl

/-- An `mret` in machine mode takes the mode of `mstatus`. -/
theorem privilegeModeQ_step_of_mret (machine : st.csr.privilegeModeQ = privLvlM)
    (isMret : st.isMret params port = true) :
    (st.step params port).csr.privilegeModeQ = st.csr.mstatusQ.mpp := by
  change st.csr.privilegeModeN (st.csrInput params port) = _
  unfold Csr.privilegeModeN
  rw [if_pos machine]
  exact if_pos isMret

/-- Of two updates the first one is visible only to the second. -/
theorem Entered.twice_iff {first second : Mcause} {between last : CoreState}
    (once : st.Entered first between) (again : between.Entered second last) :
    (last.csr.mstatusQ =
          { mpp := st.csr.privilegeModeQ, mpie := st.csr.mstatusQ.mie, mie := false } ∧
        last.csr.privilegeModeQ = privLvlM) ↔
      st.csr.privilegeModeQ = privLvlM ∧ st.csr.mstatusQ.mie = false := by
  rw [again.status, once.status, again.mode, once.mode, enteredMode, enteredMode,
    StatusRv.mk.injEq]
  constructor
  · rintro ⟨⟨sameMode, disabled, -⟩, machine⟩
    refine ⟨?_, disabled.symm⟩
    by_cases user : st.csr.privilegeModeQ = privLvlU
    · rw [if_pos user, user] at sameMode
      exact absurd sameMode (by decide)
    · rw [if_neg user, if_neg user] at machine
      exact machine
  · rintro ⟨machine, disabled⟩
    rw [machine, disabled]
    decide

/-- Nothing changes what a denied store has recorded: the flush denies no access, the data bus
reports no error, and ID shows no exception, no `mret`, and no `wfi` but one in front of `pc`. -/
structure SilentFlush (pc : Word) (st : CoreState) (port : CoreInput) : Prop where
  allowed : st.pmpErr = false
  noError : st.reportsError port = false
  noTrap : ∀ trap : IdTrap, trap.raisedIn st = false
  noMret : (!st.ifs.instrFetchError && st.decoded.mretEn) = false
  wfiBefore : (!st.ifs.instrFetchError && st.decoded.wfiEn) = true →
    Csr.evenPc st.ifs.pcIf = Csr.evenPc pc

end CoreState

/-! ## Runs -/

/-- A synchronous trap: an exception of ID, or the denial of a load or store in EX. -/
inductive SyncTrap where
  | raised (trap : IdTrap)
  | denied (op : LsuOp)
  deriving DecidableEq, Repr

def SyncTrap.cause (trap : SyncTrap) (mode : Privilege) : Word :=
  match trap with
  | .raised trap => trap.cause mode
  | .denied op => CoreRun.faultCause op

namespace CoreRun

variable (run : CoreRun)

/-- ID shows the exception with no marker ahead of it, the older instruction in EX neither branches
nor is denied its access, and the next trap is taken with a marker in WB. -/
structure HeldTrap (trap : IdTrap) (raise taken : Nat) : Prop where
  idle : (run.state raise).fsm = .idle
  raised : trap.raisedIn (run.state raise) = true
  unmarked : (run.state raise).marked = false
  alone : ∀ cycle, raise ≤ cycle → cycle < taken →
    (run.state cycle).branchJump = false ∧ (run.state cycle).excEx run.params = false
  first : FirstFrom run.TakesTrap raise taken
  marker : (run.state taken).memWb.excTakenWb = true

/-- The trap of the instruction at the given address is taken in the given cycle. -/
inductive TakesSyncTrap (taken : Nat) : SyncTrap → Word → Prop
  | raised {trap : IdTrap} (raise : Nat) (held : run.HeldTrap trap raise taken) :
      TakesSyncTrap taken (.raised trap) (run.state raise).ifs.pcId
  | denied {op : LsuOp} (denial : Nat) (inEx : run.DeniedInEx op denial)
      (first : FirstFrom run.TakesTrap denial taken)
      (marker : (run.state taken).memWb.excTakenWb = true) :
      TakesSyncTrap taken (.denied op) (run.state denial).idEx.pcEx

/-- What the handler is to find in the first cycle after the flush. -/
structure EntersTrap (trap : SyncTrap) (pc : Word) (taken : Nat) : Prop where
  flush : (run.state (taken + 1)).fsm = .excFlush
  ended : (run.state (taken + 2)).fsm ≠ .excFlush
  epc : (run.state (taken + 2)).csr.mepcQ = Csr.evenPc pc
  cause : (run.state (taken + 2)).csr.mcauseQ =
    trap.cause (run.state taken).csr.privilegeModeQ
  status : (run.state (taken + 2)).csr.mstatusQ =
    { mpp := (run.state taken).csr.privilegeModeQ
      mpie := (run.state taken).csr.mstatusQ.mie
      mie := false }
  machine : (run.state (taken + 2)).csr.privilegeModeQ = privLvlM

/-- In machine mode with interrupts disabled. -/
def AtRest (cycle : Nat) : Prop :=
  (run.state cycle).csr.privilegeModeQ = privLvlM ∧ (run.state cycle).csr.mstatusQ.mie = false

/-- Where the second update repeats the first or does not take place. -/
def UpdatesAgree (trap : SyncTrap) (pc : Word) (taken : Nat) : Prop :=
  match trap with
  | .raised _ => run.AtRest taken ∧
      (run.state (taken + 1)).reportsError (run.inputs (taken + 1)) = false
  | .denied op => op = .wr ∧
      (run.AtRest taken ∨
        ((run.state taken).csr.privilegeModeQ = privLvlU ∧
          (run.state (taken + 1)).SilentFlush pc (run.inputs (taken + 1))))

variable {run}

theorem fsm_after_flush {pc : Word} {cycle : Nat}
    (flushed : (run.state cycle).FlushedAt pc) :
    (run.state (cycle + 1)).fsm ≠ .excFlush := by
  rw [run.state_succ, CoreState.fsm_step_excFlush flushed.flushing]
  split <;> simp

theorem HeldTrap.heldThrough {trap : IdTrap} {raise taken : Nat}
    (held : run.HeldTrap trap raise taken) :
    run.HeldThrough (run.state raise).ifs.shown taken :=
  heldThrough_of_draining
    (draining_of_first held.idle (CoreState.exceptionTakenId_of_raisedIn held.raised) held.unmarked
      held.alone held.first)
    held.marker

/-- Both updates of an exception of ID. -/
theorem HeldTrap.enteredTwice {trap : IdTrap} {raise taken : Nat}
    (held : run.HeldTrap trap raise taken) :
    (∃ first, (run.state taken).Entered first (run.state (taken + 1))) ∧
      (run.state (taken + 1)).Entered
        (CoreState.causeOf trap (run.state (taken + 1)) (run.inputs (taken + 1)))
        (run.state (taken + 2)) := by
  have through := held.heldThrough
  have raised : trap.raisedIn (run.state taken) = true :=
    (CoreState.raisedIn_of_shown through.same).trans held.raised
  have raisedNext : trap.raisedIn (run.state (taken + 1)) = true :=
    (CoreState.raisedIn_of_shown through.sameNext).trans held.raised
  refine ⟨⟨CoreState.causeOf trap (run.state taken) (run.inputs taken), ?_⟩, ?_⟩
  · rw [run.state_succ]
    exact CoreState.entered_step through.empty.csr (CoreState.isMret_of_raisedIn raised)
      (CoreState.trapUpdate_of_raisedIn raised (through.arrived.excTaken (run.inputs taken))
        through.ready (CoreState.pmpErr_of_noAccess through.empty.lsu) through.empty.csr)
  · rw [run.state_succ (taken + 1)]
    exact CoreState.entered_step through.emptyNext.csr (CoreState.isMret_of_raisedIn raisedNext)
      (CoreState.trapUpdate_of_raisedIn raisedNext
        (through.flushed.excTaken (run.inputs (taken + 1))) through.readyNext
        (CoreState.pmpErr_of_noAccess through.emptyNext.lsu) through.emptyNext.csr)

/-- The cause that is recorded last is that of the exception unless the data bus reports an
error. -/
theorem word_causeOf_iff (trap : IdTrap) {st : CoreState} {port : CoreInput} :
    (CoreState.causeOf trap st port).word = trap.cause st.csr.privilegeModeQ ↔
      st.reportsError port = false := by
  constructor
  · intro same
    cases error : st.reportsError port with
    | false => rfl
    | true =>
        have reported : (st.lsuValidWb port && st.lsuErrWb port) = true := error
        rw [CoreState.causeOf, CoreState.isLsuStoreErr, CoreState.isLsuLoadErr,
          WbStage.isLsuStoreErr, WbStage.isLsuLoadErr, reported, Bool.true_and, Bool.true_and]
          at same
        cases op : st.memWb.lsuOpWb with
        | wr =>
            rw [op, if_pos (beq_self_eq_true LsuOp.wr)] at same
            exact (trap.cause_ne _ .wr same.symm).elim
        | ld =>
            rw [op, if_neg (by decide), if_pos (beq_self_eq_true LsuOp.ld)] at same
            exact (trap.cause_ne _ .ld same.symm).elim
  · intro noError
    obtain ⟨noLoad, noStore⟩ := CoreState.noLsuErr_of_noError noError
    rw [CoreState.causeOf, noLoad, noStore, if_neg Bool.false_ne_true, if_neg Bool.false_ne_true]
    exact trap.word_recordedCause _

theorem HeldTrap.entersTrap_iff {trap : IdTrap} {raise taken : Nat}
    (held : run.HeldTrap trap raise taken) :
    run.EntersTrap (.raised trap) (run.state raise).ifs.pcId taken ↔
      run.AtRest taken ∧
        (run.state (taken + 1)).reportsError (run.inputs (taken + 1)) = false := by
  have flushed := held.heldThrough.flushed
  obtain ⟨⟨first, once⟩, again⟩ := held.enteredTwice
  have twice := once.twice_iff again
  constructor
  · intro enters
    have rest := twice.mp ⟨enters.status, enters.machine⟩
    refine ⟨rest, (word_causeOf_iff trap).mp ?_⟩
    have same := enters.cause
    rw [again.cause] at same
    rw [same, once.mode, rest.1]
    rfl
  · rintro ⟨rest, noError⟩
    obtain ⟨status, machine⟩ := twice.mpr rest
    refine ⟨flushed.flushing, fsm_after_flush flushed, ?_, ?_, status, machine⟩
    · rw [again.epc, flushed.pcWb]
      rfl
    · rw [again.cause, (word_causeOf_iff trap).mpr noError, once.mode, rest.1]
      rfl

/-- The first update of a denied access, and the flush in which it is still in EX. -/
structure DeniedOnce (run : CoreRun) (op : LsuOp) (pc : Word) (taken : Nat) : Prop where
  once : (run.state taken).Entered .storeAcsFault (run.state (taken + 1))
  epc : (run.state (taken + 1)).csr.mepcQ = Csr.evenPc pc
  flushed : (run.state (taken + 1)).FlushedAt pc
  access : (run.state (taken + 1)).idEx.lsuEnEx = true
  sameMode : (run.state (taken + 1)).csr.privilegeModeQ = (run.state taken).csr.privilegeModeQ →
    (run.state (taken + 1)).pmpErr = true

theorem deniedOnce_of_refused (op : LsuOp) {pc : Word} {taken : Nat}
    (refused : (run.state taken).Refused pc)
    (marker : (run.state taken).memWb.excTakenWb = true) : run.DeniedOnce op pc taken := by
  have arrived := refused.arrived (run.exOneUnit taken) marker
  have notReady : (run.state taken).readyEx run.params (run.inputs taken) = false :=
    refused.notReady
  have noIssue : (run.state taken).readyId run.params (run.inputs taken) = false := by
    rw [CoreState.readyId, notReady, Bool.and_false, Bool.false_and]
  have storeErr := isPmpStoreErr_of_pmpErr refused.denied (arrived.readyMem (run.inputs taken))
  have noMret : (run.state taken).isMret run.params (run.inputs taken) = false :=
    CoreState.idSignal_of_excEx (CoreState.excEx_of_pmpErr refused.denied) _
  have once : (run.state taken).Entered .storeAcsFault (run.state (taken + 1)) := by
    rw [run.state_succ]
    exact CoreState.entered_step arrived.noCsr noMret
      (CoreState.trapUpdate_of_storeErr run.params (arrived.excTaken (run.inputs taken))
        (.inr storeErr))
  refine ⟨once, ?_, ?_, ?_, ?_⟩
  · rw [once.epc, arrived.pcWb]
  · rw [run.state_succ]
    exact arrived.step run.params (run.inputs taken) noIssue
  · have operation : (run.state taken).nextIdExOperation run.params (run.inputs taken) =
        (run.state taken).idEx := CoreState.nextIdExOperation_of_notReady notReady
    have same := congrArg IdEx.lsuEnEx operation
    exact same.trans refused.access
  · intro sameMode
    rw [run.state_succ] at sameMode ⊢
    rw [CoreState.pmpErr_step_of_sameMode notReady arrived.noCsr sameMode, refused.denied]

theorem deniedOnce_of_first {op : LsuOp} {denial taken : Nat} (inEx : run.DeniedInEx op denial)
    (first : FirstFrom run.TakesTrap denial taken)
    (marker : (run.state taken).memWb.excTakenWb = true) :
    run.DeniedOnce op (run.state denial).idEx.pcEx taken :=
  deniedOnce_of_refused op (refused_of_first inEx first) marker

theorem eq_wr_of_faultCause {op : LsuOp} (same : Mcause.word .storeAcsFault = faultCause op) :
    op = .wr := by
  cases op with
  | wr => rfl
  | ld => exact absurd same (by decide)

section Denied

variable {op : LsuOp} {pc : Word} {taken : Nat} (denied : run.DeniedOnce op pc taken)

include denied

/-- A denial that lasts is recorded again. -/
theorem DeniedOnce.again (lasts : (run.state (taken + 1)).pmpErr = true) :
    (run.state (taken + 1)).Entered .storeAcsFault (run.state (taken + 2)) := by
  rw [run.state_succ (taken + 1)]
  apply CoreState.entered_step denied.flushed.noCsr
    (CoreState.idSignal_of_excEx (CoreState.excEx_of_pmpErr lasts) _)
  exact CoreState.trapUpdate_of_storeErr run.params
    (denied.flushed.excTaken (run.inputs (taken + 1)))
    (.inr (isPmpStoreErr_of_pmpErr lasts (denied.flushed.readyMem (run.inputs (taken + 1)))))

theorem DeniedOnce.entersTrap_of_lasting (lasts : (run.state (taken + 1)).pmpErr = true) :
    run.EntersTrap (.denied op) pc taken ↔ op = .wr ∧ run.AtRest taken := by
  have again := denied.again lasts
  have twice := denied.once.twice_iff again
  constructor
  · intro enters
    exact ⟨eq_wr_of_faultCause (again.cause.symm.trans enters.cause),
      twice.mp ⟨enters.status, enters.machine⟩⟩
  · rintro ⟨rfl, rest⟩
    obtain ⟨status, machine⟩ := twice.mpr rest
    refine ⟨denied.flushed.flushing, fsm_after_flush denied.flushed, ?_, ?_, status, machine⟩
    · rw [again.epc, denied.flushed.pcWb]
    · rw [again.cause]
      rfl

section Allowed

variable (allowed : (run.state (taken + 1)).pmpErr = false)

include allowed

/-- A denial that does not last was one of user mode. -/
theorem DeniedOnce.userMode :
    (run.state taken).csr.privilegeModeQ = privLvlU ∧
      (run.state (taken + 1)).csr.privilegeModeQ = privLvlM := by
  have mode := denied.once.mode
  rw [CoreState.enteredMode] at mode
  by_cases user : (run.state taken).csr.privilegeModeQ = privLvlU
  · rw [if_pos user] at mode
    exact ⟨user, mode⟩
  · rw [if_neg user] at mode
    rw [denied.sameMode mode] at allowed
    cases allowed

/-- In the flush EX is ready, so that ID shows what it holds. -/
theorem DeniedOnce.readyEx :
    (run.state (taken + 1)).readyEx run.params (run.inputs (taken + 1)) = true := by
  have noIllegal := CoreState.illegalCsr_of_noAccess denied.flushed.noCsr
  have noException : (run.state (taken + 1)).excEx run.params = false := by
    rw [CoreState.excEx, allowed, noIllegal, Bool.or_self, ite_self]
  have readyDiv : (run.state (taken + 1)).readyDiv = true :=
    CoreState.readyDiv_of_noDivision (run.dividerOwned (taken + 1))
      (run.exAccessOnly (taken + 1) denied.access).2
  rw [CoreState.readyEx, CoreState.stall_of_flushing denied.flushed.flushing,
    denied.flushed.readyMem, readyDiv, noException]
  rfl

/-- An update in the flush overwrites the mode that was interrupted. -/
theorem DeniedOnce.notRecorded (enters : run.EntersTrap (.denied op) pc taken) (cause : Mcause) :
    (run.state (taken + 1)).trapUpdate run.params (run.inputs (taken + 1)) ≠
      Controller.recorded cause := by
  intro records
  obtain ⟨user, machine⟩ := denied.userMode allowed
  have again := CoreState.recorded_step denied.flushed.noCsr records
  have status := enters.status
  rw [run.state_succ (taken + 1), again.status, machine, user, StatusRv.mk.injEq] at status
  exact absurd status.1 (by decide)

theorem DeniedOnce.silent_update (noError :
      (run.state (taken + 1)).reportsError (run.inputs (taken + 1)) = false)
    (noTrap : ∀ trap : IdTrap, trap.raisedIn (run.state (taken + 1)) = false) :
    (run.state (taken + 1)).trapUpdate run.params (run.inputs (taken + 1)) =
      CoreState.silentUpdate
        ((run.state (taken + 1)).isWfi run.params (run.inputs (taken + 1))) :=
  CoreState.trapUpdate_of_silent (denied.flushed.excTaken (run.inputs (taken + 1)))
    (CoreState.flushD_of_flushing denied.flushed.flushing) allowed
    (CoreState.isIllegalCsr_of_noCsr denied.flushed.noCsr) noError noTrap

/-- With EX ready, a signal of ID is that of the decoded instruction. -/
theorem DeniedOnce.idSignal (decodedEn : Bool) :
    (run.state (taken + 1)).idSignal run.params (run.inputs (taken + 1)) decodedEn =
      (!(run.state (taken + 1)).ifs.instrFetchError && decodedEn) := by
  rw [CoreState.idSignal, denied.readyEx allowed, Bool.true_and]

theorem DeniedOnce.silent_of_enters (enters : run.EntersTrap (.denied op) pc taken) :
    op = .wr ∧ (run.state (taken + 1)).SilentFlush pc (run.inputs (taken + 1)) := by
  obtain ⟨user, machine⟩ := denied.userMode allowed
  have ready := denied.readyEx allowed
  have noCsr := denied.flushed.noCsr
  have isTaken := denied.flushed.excTaken (run.inputs (taken + 1))
  have noError : (run.state (taken + 1)).reportsError (run.inputs (taken + 1)) = false := by
    cases error : (run.state (taken + 1)).reportsError (run.inputs (taken + 1)) with
    | false => rfl
    | true =>
        obtain ⟨cause, records⟩ :=
          CoreState.exists_recorded_of_reportsError run.params isTaken error
        exact (denied.notRecorded allowed enters cause records).elim
  have noTrap (trap : IdTrap) : trap.raisedIn (run.state (taken + 1)) = false := by
    cases raised : trap.raisedIn (run.state (taken + 1)) with
    | false => rfl
    | true =>
        exact (denied.notRecorded allowed enters _
          (CoreState.trapUpdate_of_raisedIn raised isTaken ready allowed noCsr)).elim
  have noMret : (run.state (taken + 1)).isMret run.params (run.inputs (taken + 1)) = false := by
    cases isMret : (run.state (taken + 1)).isMret run.params (run.inputs (taken + 1)) with
    | false => rfl
    | true =>
        have mode := CoreState.privilegeModeQ_step_of_mret machine isMret
        rw [← run.state_succ, denied.once.status, user, enters.machine] at mode
        exact absurd (show privLvlM = privLvlU from mode) (by decide)
  obtain ⟨-, sameCause, -, epc⟩ := CoreState.csr_step_of_silent noCsr noMret
    (denied.silent_update allowed noError noTrap)
  rw [← run.state_succ] at sameCause epc
  refine ⟨eq_wr_of_faultCause ?_, allowed, noError, noTrap, ?_, ?_⟩
  · rw [← denied.once.cause, ← sameCause]
    exact enters.cause
  · rw [← denied.idSignal allowed]
    exact noMret
  · intro isWfi
    rw [← denied.idSignal allowed] at isWfi
    have shown : (run.state (taken + 1)).isWfi run.params (run.inputs (taken + 1)) = true := isWfi
    rw [shown, if_pos rfl] at epc
    exact epc.symm.trans enters.epc

theorem DeniedOnce.enters_of_silent (isStore : op = .wr)
    (silent : (run.state (taken + 1)).SilentFlush pc (run.inputs (taken + 1))) :
    run.EntersTrap (.denied op) pc taken := by
  obtain ⟨user, machine⟩ := denied.userMode allowed
  have noMret : (run.state (taken + 1)).isMret run.params (run.inputs (taken + 1)) = false :=
    (denied.idSignal allowed _).trans silent.noMret
  obtain ⟨sameStatus, sameCause, sameMode, epc⟩ := CoreState.csr_step_of_silent
    denied.flushed.noCsr noMret (denied.silent_update allowed silent.noError silent.noTrap)
  rw [← run.state_succ] at sameStatus sameCause sameMode epc
  refine ⟨denied.flushed.flushing, fsm_after_flush denied.flushed, ?_, ?_, ?_, ?_⟩
  · rw [epc]
    cases isWfi : (run.state (taken + 1)).isWfi run.params (run.inputs (taken + 1)) with
    | true =>
        rw [CoreState.isWfi, denied.idSignal allowed] at isWfi
        exact silent.wfiBefore isWfi
    | false => exact denied.epc
  · rw [sameCause, denied.once.cause, isStore]
    rfl
  · rw [sameStatus, denied.once.status]
  · rw [sameMode, machine]

end Allowed

theorem DeniedOnce.entersTrap_iff :
    run.EntersTrap (.denied op) pc taken ↔
      op = .wr ∧ (run.AtRest taken ∨
        ((run.state taken).csr.privilegeModeQ = privLvlU ∧
          (run.state (taken + 1)).SilentFlush pc (run.inputs (taken + 1)))) := by
  cases lasts : (run.state (taken + 1)).pmpErr with
  | true =>
      rw [denied.entersTrap_of_lasting lasts]
      constructor
      · rintro ⟨isStore, rest⟩
        exact ⟨isStore, .inl rest⟩
      · rintro ⟨isStore, rest | ⟨-, silent⟩⟩
        · exact ⟨isStore, rest⟩
        · have allowed := silent.allowed
          rw [lasts] at allowed
          cases allowed
  | false =>
      obtain ⟨user, -⟩ := denied.userMode lasts
      constructor
      · intro enters
        obtain ⟨isStore, silent⟩ := denied.silent_of_enters lasts enters
        exact ⟨isStore, .inr ⟨user, silent⟩⟩
      · rintro ⟨isStore, rest | ⟨-, silent⟩⟩
        · have machine := rest.1
          rw [user] at machine
          exact absurd machine (by decide)
        · exact denied.enters_of_silent lasts isStore silent

end Denied

theorem entersTrap_iff_updatesAgree (run : CoreRun) {trap : SyncTrap} {pc : Word} {taken : Nat}
    (takes : run.TakesSyncTrap taken trap pc) :
    run.EntersTrap trap pc taken ↔ run.UpdatesAgree trap pc taken := by
  cases takes with
  | raised raise held => exact held.entersTrap_iff
  | denied denial inEx first marker => exact (deniedOnce_of_first inEx first marker).entersTrap_iff

/-- An exception of ID in a closed system, checked cycle by cycle. -/
theorem heldTrap_of_system (around : Surroundings) {trap : IdTrap} {raise taken : Nat}
    (before : raise ≤ taken)
    (starts : (around.system raise).core.fsm = .idle ∧
      trap.raisedIn (around.system raise).core = true ∧
        (around.system raise).core.marked = false)
    (waits : ∀ cycle < taken, raise ≤ cycle →
      (around.system cycle).core.branchJump = false ∧
        (around.system cycle).core.excEx defaultParams = false ∧
          (around.system cycle).core.takesTrap (around.portAt cycle) = false)
    (ends : (around.system taken).core.takesTrap (around.portAt taken) = true ∧
      (around.system taken).core.memWb.excTakenWb = true) :
    around.coreRun.HeldTrap trap raise taken := by
  constructor
  · rw [Surroundings.state_coreRun]
    exact starts.1
  · rw [Surroundings.state_coreRun]
    exact starts.2.1
  · rw [Surroundings.state_coreRun]
    exact starts.2.2
  · intro cycle lower upper
    obtain ⟨noBranch, noException, -⟩ := waits cycle upper lower
    rw [Surroundings.state_coreRun]
    exact ⟨noBranch, noException⟩
  · refine ⟨before, (takesTrap_coreRun _ taken).mpr ends.1, fun earlier lower upper => ?_⟩
    rw [takesTrap_coreRun, (waits earlier upper lower).2.2]
    exact Bool.false_ne_true
  · rw [Surroundings.state_coreRun]
    exact ends.2

open Surroundings (enterUser)

/-- An `ecall` of machine mode right after reset, with interrupts disabled. -/
def machineEcall : Surroundings where
  program := Surroundings.programOf [0x00000073#32] -- ecall

theorem entersTrap_machineEcall :
    machineEcall.coreRun.EntersTrap (.raised .ecall) (machineEcall.coreRun.state 3).ifs.pcId 6 := by
  have held : machineEcall.coreRun.HeldTrap .ecall 3 6 :=
    heldTrap_of_system machineEcall (by decide) (by decide +kernel) (by decide +kernel)
      (by decide +kernel)
  apply (entersTrap_iff_updatesAgree machineEcall.coreRun (.raised 3 held)).mpr
  refine ⟨⟨?_, ?_⟩, ?_⟩
  all_goals rw [Surroundings.state_coreRun]; decide +kernel

/-- User code whose first instruction is an `ecall`. -/
def userEcall : Surroundings where
  program := Surroundings.programOf (enterUser ++ [0x00000073#32]) -- ecall

/-- The `ecall` of user mode is recorded as one of machine mode. -/
theorem entersTrap_fails :
    ¬ ∀ (run : CoreRun) (program : Word → Word × Bool), run.params = defaultParams →
      run.WellConnected program →
      (∀ cycle, (run.inputs cycle).externIrq = false ∧ (run.inputs cycle).softIrq = false ∧
        (run.inputs cycle).timerIrq = false) →
      ∀ trap pc taken, run.TakesSyncTrap taken trap pc → run.EntersTrap trap pc taken := by
  intro enters
  have held : userEcall.coreRun.HeldTrap .ecall 12 15 :=
    heldTrap_of_system userEcall (by decide) (by decide +kernel) (by decide +kernel)
      (by decide +kernel)
  have entered := enters userEcall.coreRun _ rfl userEcall.wellConnected
    (fun _ => ⟨rfl, rfl, rfl⟩) (.raised .ecall) _ 15 (.raised 12 held)
  have cause := entered.cause
  rw [Surroundings.state_coreRun, Surroundings.state_coreRun] at cause
  revert cause
  decide +kernel

end CoreRun

end RiscvCore
