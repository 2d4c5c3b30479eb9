import RiscvCore.SplitFlush

/-!
# The way of a trap marker

An instruction that traps or returns stays in ID while its marker moves through EX, MEM and WB to
the controller.  In cycles without interrupts, bus errors and denied accesses every marker has its
instruction: it waits in ID in front of an empty EX, or it is a refused CSR access in EX.  No other
instruction is behind it, and the flush that it causes finds no load or store.
-/

namespace RiscvCore

namespace Decoder

/-- A CSR instruction does not use the multiplier or the divider. -/
def CsrNoMult (dec : Decoded) : Prop := dec.csrEn = true → dec.multEn = false

theorem csrNoMult_of_noMult {dec : Decoded} (noMult : dec.multEn = false) : CsrNoMult dec :=
  fun _ => noMult

theorem csrNoMult_of_noCsr {dec : Decoded} (noCsr : dec.csrEn = false) : CsrNoMult dec := by
  intro csr
  rw [noCsr] at csr
  cases csr

theorem csrNoMult_ite {condition : Prop} [Decidable condition] {left right : Decoded}
    (isLeft : CsrNoMult left) (isRight : CsrNoMult right) :
    CsrNoMult (if condition then left else right) := by
  split
  · exact isLeft
  · exact isRight

theorem csrNoMult_instrClass (instr : Word) :
    CsrNoMult (instrClass instr (defaults instr true)) := by
  simp only [instrClass, branchInstr, jalrInstr, itypeInstr, rtypeInstr, sysInstr, mismemInstr]
  repeat' apply csrNoMult_ite
  all_goals first
    | exact csrNoMult_of_noMult rfl
    | exact csrNoMult_of_noCsr rfl

end Decoder

theorem csrNoMult_decoder (instr : Word) (instrValue : Bool) :
    Decoder.CsrNoMult (decoder instr instrValue) := by
  cases instrValue
  · exact Decoder.csrNoMult_of_noMult rfl
  · exact Decoder.csrNoMult_instrClass instr

/-- The instruction in ID and the address of the next one. -/
structure Shown where
  pcIf : Word
  pcId : Word
  instrPayloadId : Word
  instrValueId : Bool
  instrFetchError : Bool

def IfStage.shown (ifs : IfStage) : Shown where
  pcIf := ifs.pcIf
  pcId := ifs.pcId
  instrPayloadId := ifs.instrPayloadId
  instrValueId := ifs.instrValueId
  instrFetchError := ifs.instrFetchError

/-- EX holds nothing but, maybe, a marker. -/
structure IdEx.Empty (ex : IdEx) : Prop where
  lsu : ex.lsuEnEx = false
  csr : ex.csrEnEx = false
  mult : ex.multEnEx = false
  branch : ex.branchEx = false
  jump : ex.jumpEx = false

theorem IdEx.empty_flushed (ex : IdEx) : ex.flushed.Empty := ⟨rfl, rfl, rfl, rfl, rfl⟩

namespace CoreState

/-- A trap marker behind ID. -/
def marked (st : CoreState) : Bool :=
  st.idEx.excTakenEx || st.exMem.excTakenMem || st.memWb.excTakenWb

/-- The data bus reports an error. -/
def reportsError (st : CoreState) (port : CoreInput) : Bool :=
  st.lsuValidWb port && st.lsuErrWb port

/-- A cycle without an interrupt, a bus error and a denied access. -/
structure Undisturbed (st : CoreState) (port : CoreInput) : Prop where
  noIrq : st.irqTaken port = false
  noError : st.reportsError port = false
  allowed : st.pmpErr = false

/-- The CSR instruction in EX does not use the divider. -/
def CsrAlone (st : CoreState) : Prop := st.idEx.csrEnEx = true → st.idEx.multEnEx = false

/-- Each marker has its instruction, which nothing follows, and a flush finds EX empty or, outside
of user mode, a CSR access. -/
structure MarkersOwned (params : Params) (st : CoreState) : Prop where
  noAccess : st.NoAccessBehindMarker
  ex : st.idEx.excTakenEx = true → st.idEx.Empty
  idle : st.fsm = .idle → st.marked = true →
    (st.exceptionTakenId = true ∧ st.idEx.Empty) ∨ st.excEx params = true
  flushing : st.fsm = .excFlush →
    st.idEx.Empty ∨ (st.idEx.csrEnEx = true ∧ st.csr.privilegeModeQ ≠ privLvlU)
  asleep : st.fsm = .sleep → st.marked = false ∧ st.idEx.Empty
  awake : st.fsm ≠ .wakeup

variable {params : Params} {st : CoreState} {port : CoreInput}

theorem csrAlone_step (before : st.CsrAlone) : (st.step params port).CsrAlone := by
  change (st.nextIdExOperation params port).csrEnEx = true →
    (st.nextIdExOperation params port).multEnEx = false
  rcases nextIdExOperation_cases params st port with flushed | issued | kept
  · rw [flushed]
    exact fun _ => rfl
  · rw [issued]
    exact csrNoMult_decoder st.ifs.instrPayloadId st.ifs.instrValueId
  · rw [kept]
    exact before

theorem branchJump_of_empty (empty : st.idEx.Empty) : st.branchJump = false := by
  simp [branchJump, branchTaken, jumpTaken, ExStage.branchTaken, ExStage.jumpTaken,
    empty.branch, empty.jump]

/-- An idle cycle without a branch or jump in EX goes on in sequence. -/
theorem flushD_of_idle (idle : st.fsm = .idle) (noBranch : st.branchJump = false) :
    st.flushD = false := by
  rw [flushD, noBranch, idle]
  rfl

theorem setPcValid_of_idle (idle : st.fsm = .idle) (noBranch : st.branchJump = false) :
    st.setPcValid params port = false := by
  rw [branchJump, Bool.or_eq_false_iff] at noBranch
  rw [setPcValid, noBranch.1, noBranch.2, excFetch_idle idle]
  rfl

theorem excEx_of_empty (empty : st.idEx.Empty) : st.excEx params = false := by
  simp [excEx, pmpErr_of_noAccess empty.lsu, illegalCsr_of_noAccess empty.csr]

/-- Without a division in EX the divider is ready. -/
theorem readyDiv_of_noDivision (owned : st.DividerOwned)
    (noDivision : ExStage.divEn st.idEx = false) : st.readyDiv = true := by
  have dividerIdle : st.div.fsmCs = .idle := by
    refine Decidable.byContradiction fun works => ?_
    rw [owned works] at noDivision
    cases noDivision
  simp [readyDiv, Div.ready, dividerIdle, noDivision]

theorem readyDiv_of_noMult (owned : st.DividerOwned) (noMult : st.idEx.multEnEx = false) :
    st.readyDiv = true := by
  apply readyDiv_of_noDivision owned
  rw [ExStage.divEn, noMult, Bool.false_and]

/-- An empty EX is ready with MEM. -/
theorem readyEx_of_empty (owned : st.DividerOwned) (empty : st.idEx.Empty)
    (awake : st.stall = false) : st.readyEx params port = st.readyMem port := by
  rw [readyEx, awake, readyDiv_of_noMult owned empty.mult, excEx_of_empty empty, Bool.not_false,
    Bool.true_and, Bool.and_true, Bool.and_true]

theorem decoded_of_noInstr (noInstr : st.ifs.instrValueId = false) :
    st.decoded = decoder st.ifs.instrPayloadId false := by
  rw [decoded, noInstr]

/-- Where nothing issues and EX does not hold, nothing is enabled in EX. -/
theorem nextIdExOperation_of_noIssue (noIssue : st.issues params port = false)
    (ready : st.readyEx params port = true) :
    (st.nextIdExOperation params port).Empty ∧
      (st.nextIdExOperation params port).rdWrEnEx = false := by
  cases readyId : st.readyId params port with
  | false =>
      rw [nextIdExOperation_of_bubble ready (Or.inl readyId)]
      exact ⟨IdEx.empty_flushed st.idEx, rfl⟩
  | true =>
      cases flush : st.flushD with
      | true =>
          rw [nextIdExOperation_of_bubble ready (Or.inr flush)]
          exact ⟨IdEx.empty_flushed st.idEx, rfl⟩
      | false =>
          have noInstr : st.ifs.instrValueId = false := by
            simpa [issues, readyId, flush] using noIssue
          rw [nextIdExOperation_of_issue readyId flush, decoded_of_noInstr noInstr]
          exact ⟨⟨rfl, rfl, rfl, rfl, rfl⟩, rfl⟩

theorem empty_of_operation (operation : (st.nextIdExOperation params port).Empty) :
    (st.step params port).idEx.Empty :=
  ⟨operation.lsu, operation.csr, operation.mult, operation.branch, operation.jump⟩

/-- EX stays empty as long as nothing issues. -/
theorem empty_step_of_notIssued (empty : st.idEx.Empty)
    (noIssue : st.issues params port = false) : (st.step params port).idEx.Empty := by
  apply empty_of_operation
  cases ready : st.readyEx params port with
  | false =>
      rw [nextIdExOperation_of_notReady ready]
      exact empty
  | true => exact (nextIdExOperation_of_noIssue noIssue ready).1

theorem issues_of_blocked (blocked : st.readyId params port = false ∨ st.flushD = true) :
    st.issues params port = false := by
  rcases blocked with held | flush
  · rw [issues, held, Bool.and_false, Bool.false_and]
  · rw [issues, flush, Bool.not_true, Bool.and_false]

theorem empty_step_of_noIssue (empty : st.idEx.Empty)
    (blocked : st.readyId params port = false ∨ st.flushD = true) :
    (st.step params port).idEx.Empty :=
  empty_step_of_notIssued empty (issues_of_blocked blocked)

/-- A ready EX into which nothing issues is emptied. -/
theorem empty_step_of_readyEx (ready : st.readyEx params port = true)
    (blocked : st.readyId params port = false ∨ st.flushD = true) :
    (st.step params port).idEx.Empty :=
  empty_of_operation (nextIdExOperation_of_noIssue (issues_of_blocked blocked) ready).1

theorem excTakenId_of_noIrq (noIrq : st.irqTaken port = false) :
    st.excTakenId params port = st.exceptionTakenId := by
  rw [excTakenId, interruptTakenId, noIrq, Bool.and_false, Bool.false_and, Bool.false_and,
    Bool.or_false]

theorem noLsuErr_of_noError (noError : st.reportsError port = false) :
    st.isLsuLoadErr port = false ∧ st.isLsuStoreErr port = false := by
  have silent : (st.lsuValidWb port && st.lsuErrWb port) = false := noError
  simp [isLsuLoadErr, isLsuStoreErr, WbStage.isLsuLoadErr, WbStage.isLsuStoreErr, silent]

/-- Without a bus error a trap is taken with its marker in WB. -/
theorem excTaken_of_noError (noError : st.reportsError port = false) :
    st.excTaken port = st.memWb.excTakenWb := by
  obtain ⟨noLoad, noStore⟩ := noLsuErr_of_noError noError
  rw [excTaken, noLoad, noStore, Bool.or_false, Bool.or_false]

theorem busError_of_noError (noError : st.reportsError port = false) :
    st.busError port = false := by
  have silent : (st.lsuValidWb port && st.lsuErrWb port) = false := noError
  rw [busError, Bool.and_assoc, silent, Bool.and_false]

/-- An allowed access leaves the refused CSR access as the only exception of EX. -/
theorem excEx_of_allowed (allowed : st.pmpErr = false) :
    st.excEx params = (params.illegalCsrEn && st.illegalCsr) := by
  rw [excEx, allowed, Bool.or_false]
  cases params.illegalCsrEn <;> rfl

theorem csrEnEx_of_excEx (allowed : st.pmpErr = false) (refused : st.excEx params = true) :
    st.idEx.csrEnEx = true := by
  rw [excEx_of_allowed allowed, Bool.and_eq_true] at refused
  cases csr : st.idEx.csrEnEx with
  | true => rfl
  | false =>
      rw [illegalCsr_of_noAccess csr] at refused
      exact refused.2

theorem readyId_of_exception (traps : st.exceptionTakenId = true) :
    st.readyId params port = false := by
  rw [readyId, excTakenId, traps, Bool.true_or, Bool.not_true, Bool.and_false]

/-- A held EX asks for the same CSR, and is refused it in the same privilege mode. -/
theorem illegalCsr_step_of_held (held : st.readyEx params port = false)
    (sameMode : (st.step params port).csr.privilegeModeQ = st.csr.privilegeModeQ) :
    (st.step params port).illegalCsr = st.illegalCsr := by
  have operation : st.nextIdExOperation params port = st.idEx :=
    nextIdExOperation_of_notReady held
  have access : (st.step params port).csrAccess = st.csrAccess := by
    simp only [csrAccess, ExStage.csrAccess, step, nextIdEx, operation]
  rw [illegalCsr, illegalCsr, access, Csr.illegalCsr, Csr.illegalCsr, Csr.isM, Csr.isM, sameMode]

theorem readyEx_of_excEx (refused : st.excEx params = true) :
    st.readyEx params port = false := by
  rw [readyEx_eq, refused, Bool.not_true, Bool.and_false]

/-- A refused CSR access waits for its trap. -/
theorem excEx_step (calm : st.Undisturbed port) (idle : st.fsm = .idle)
    (noTrap : st.excTaken port = false) (refused : st.excEx params = true) :
    (st.step params port).excEx params = true := by
  have held : st.readyEx params port = false := readyEx_of_excEx refused
  rw [excEx_of_allowed calm.allowed, Bool.and_eq_true] at refused
  rw [excEx, refused.1, if_pos rfl,
    illegalCsr_step_of_held held (privilegeModeQ_step_of_held idle noTrap held), refused.2]
  rfl

theorem shown_step_of_held (idle : st.fsm = .idle) (noBranch : st.branchJump = false)
    (held : st.readyId params port = false) :
    (st.step params port).ifs.shown = st.ifs.shown := by
  have noRedirect : st.setPcValid params port = false := setPcValid_of_idle idle noBranch
  have noFlush : st.flushD = false := flushD_of_idle idle noBranch
  simp [step, IfStage.next, IfStage.nextIfId, IfStage.readyIf, ifInput, IfStage.shown, held,
    noRedirect, noFlush]

theorem decoded_of_shown {other : CoreState} (same : other.ifs.shown = st.ifs.shown) :
    other.decoded = st.decoded := by
  rw [decoded, decoded]
  have payload : other.ifs.instrPayloadId = st.ifs.instrPayloadId :=
    congrArg Shown.instrPayloadId same
  have valid : other.ifs.instrValueId = st.ifs.instrValueId := congrArg Shown.instrValueId same
  rw [payload, valid]

theorem exceptionTakenId_of_shown {other : CoreState} (same : other.ifs.shown = st.ifs.shown) :
    other.exceptionTakenId = st.exceptionTakenId := by
  have valid : other.ifs.instrValueId = st.ifs.instrValueId := congrArg Shown.instrValueId same
  have fault : other.ifs.instrFetchError = st.ifs.instrFetchError :=
    congrArg Shown.instrFetchError same
  rw [exceptionTakenId, exceptionTakenId, IdStage.exceptionTakenId, IdStage.exceptionTakenId,
    decoded_of_shown same, IdStage.instrAcsFault, IdStage.instrAcsFault, valid, fault]

/-- An instruction that traps waits in ID, and EX gets empty behind it or stays so. -/
theorem waits_step (idle : st.fsm = .idle) (traps : st.exceptionTakenId = true)
    (noBranch : st.branchJump = false)
    (empties : st.readyEx params port = true ∨ st.idEx.Empty) :
    (st.step params port).ifs.shown = st.ifs.shown ∧ (st.step params port).idEx.Empty := by
  have held : st.readyId params port = false := readyId_of_exception traps
  refine ⟨shown_step_of_held idle noBranch held, ?_⟩
  rcases empties with ready | empty
  · exact empty_step_of_readyEx ready (.inl held)
  · exact empty_step_of_noIssue empty (.inl held)

/-! ## Markers -/

/-- A marker was there, is set by the instruction in ID, or by the access in EX. -/
theorem marked_of_marked_step (marks : (st.step params port).marked = true) :
    st.marked = true ∨
      (st.validId params port = true ∧ st.flushD = false ∧ st.excTakenId params port = true) ∨
        st.excEx params = true := by
  rw [marked, Bool.or_eq_true, Bool.or_eq_true] at marks
  rcases marks with (inEx | inMem) | inWb
  · rcases marker_of_excTakenEx_step inEx with ⟨-, -, was⟩ | ⟨valid, noFlush, was | sets⟩
    · exact .inl (by rw [marked, was, Bool.true_or, Bool.true_or])
    · exact .inl (by rw [marked, was, Bool.true_or, Bool.true_or])
    · exact .inr (.inl ⟨valid, noFlush, sets⟩)
  · rw [excTakenMem_step] at inMem
    split at inMem
    · rw [Bool.and_eq_true, Bool.or_eq_true] at inMem
      rcases inMem.2 with was | refused
      · exact .inl (by rw [marked, was, Bool.true_or, Bool.true_or])
      · exact .inr (.inr refused)
    · exact .inl (by rw [marked, inMem, Bool.or_true, Bool.true_or])
  · rw [excTakenWb_step] at inWb
    split at inWb
    · rw [Bool.and_eq_true] at inWb
      exact .inl (by rw [marked, inWb.2, Bool.or_true, Bool.true_or])
    · exact .inl (by rw [marked, inWb, Bool.or_true])

/-- Without a marker and with an empty EX a marker comes from ID only. -/
theorem unmarked_step_of_empty (unmarked : st.marked = false) (empty : st.idEx.Empty)
    (nothing : st.validId params port = false) : (st.step params port).marked = false := by
  cases marks : (st.step params port).marked with
  | false => rfl
  | true =>
      rcases marked_of_marked_step marks with was | ⟨valid, -, -⟩ | refused
      · rw [unmarked] at was
        cases was
      · rw [nothing] at valid
        cases valid
      · rw [excEx_of_empty empty] at refused
        cases refused

theorem readyEx_of_validId (valid : st.validId params port = true) :
    st.readyEx params port = true := by
  rw [validId, Bool.and_eq_true, Bool.and_eq_true] at valid
  exact valid.1.2

theorem idle_of_validId (owned : st.MarkersOwned params) (valid : st.validId params port = true)
    (noFlush : st.flushD = false) : st.fsm = .idle := by
  cases fsm : st.fsm with
  | idle => rfl
  | excFlush =>
      rw [flushD_of_flushing fsm] at noFlush
      cases noFlush
  | sleep =>
      rw [validId, stallId, stall_of_sleep fsm, Bool.or_true] at valid
      cases valid
  | wakeup => exact absurd fsm owned.awake

/-- Behind a marker nothing leaves ID. -/
theorem MarkersOwned.held (owned : st.MarkersOwned params) (idle : st.fsm = .idle)
    (marks : st.marked = true) : st.readyId params port = false := by
  rcases owned.idle idle marks with ⟨traps, -⟩ | refused
  · exact readyId_of_exception traps
  · rw [readyId, readyEx_of_excEx refused, Bool.and_false, Bool.false_and]

theorem MarkersOwned.noneBehind (owned : st.MarkersOwned params) (port : CoreInput) :
    st.accessBehindMarker params port = false := by
  cases marker : st.idEx.excTakenEx with
  | false =>
      rw [accessBehindMarker, marker]
      rfl
  | true =>
      have noIssue : st.issues params port = false := by
        cases fsm : st.fsm with
        | idle =>
            have marks : st.marked = true := by rw [marked, marker, Bool.true_or, Bool.true_or]
            rw [issues, owned.held fsm marks, Bool.and_false, Bool.false_and]
        | excFlush => exact issues_of_flushD (flushD_of_flushing fsm)
        | sleep => exact issues_of_stall (stall_of_sleep fsm)
        | wakeup => exact absurd fsm owned.awake
      rw [accessBehindMarker, noIssue, Bool.and_false, Bool.false_and]

theorem MarkersOwned.readyMem (owned : st.MarkersOwned params) (flushing : st.fsm = .excFlush) :
    st.readyMem port = true := by
  rw [readyMem_of_flushing flushing]
  exact readyWb_of_noAccess (owned.noAccess.flushing flushing).2

/-- A flush leaves no marker, unless one is held in EX. -/
theorem unmarked_step_of_flushing (flushing : st.fsm = .excFlush)
    (ready : st.readyMem port = true)
    (moves : st.idEx.excTakenEx = true → st.readyEx params port = true) :
    (st.step params port).marked = false := by
  have noEx : (st.step params port).idEx.excTakenEx = false := by
    cases marker : (st.step params port).idEx.excTakenEx with
    | false => rfl
    | true =>
        rcases marker_of_excTakenEx_step marker with ⟨-, notReady, was⟩ | ⟨-, noFlush, -⟩
        · rw [moves was] at notReady
          cases notReady
        · rw [flushD_of_flushing flushing] at noFlush
          cases noFlush
  rw [marked, noEx, excTakenMem_step, excTakenWb_step, flushE_of_flushing flushing, ready,
    readyWb_of_readyMem ready]
  simp

/-- A core that sleeps or wakes up has an empty EX and no marker. -/
def DrainedAsleep (st : CoreState) : Prop :=
  st.fsm = .sleep ∨ st.fsm = .wakeup → st.marked = false ∧ st.idEx.Empty

theorem drainedAsleep_step (before : st.DrainedAsleep) : (st.step params port).DrainedAsleep := by
  intro asleepNext
  cases fsm : st.fsm with
  | idle =>
      rw [fsm_step_idle fsm] at asleepNext
      split at asleepNext <;> simp at asleepNext
  | excFlush =>
      rw [fsm_step_excFlush fsm] at asleepNext
      -- the `wfi` is seen only by a ready EX
      have ready : st.readyEx params port = true := by
        cases isWfi : st.isWfi params port with
        | false =>
            rw [isWfi] at asleepNext
            simp at asleepNext
        | true =>
            rw [CoreState.isWfi, idSignal, Bool.and_eq_true, Bool.and_eq_true] at isWfi
            exact isWfi.1.1
      exact ⟨unmarked_step_of_flushing fsm (readyMem_of_readyEx ready) (fun _ => ready),
        empty_step_of_readyEx ready (.inr (flushD_of_flushing fsm))⟩
  | sleep =>
      obtain ⟨unmarked, empty⟩ := before (.inl fsm)
      have stalled : st.stallId port = true := by
        rw [stallId, stall_of_sleep fsm, Bool.or_true]
      have noIssue : st.readyId params port = false := by
        rw [readyId, stalled]
        rfl
      have nothing : st.validId params port = false := by
        rw [validId, stalled]
        rfl
      exact ⟨unmarked_step_of_empty unmarked empty nothing,
        empty_step_of_noIssue empty (.inl noIssue)⟩
  | wakeup =>
      rw [fsm_step_wakeup fsm] at asleepNext
      simp at asleepNext

theorem MarkersOwned.unmarked (owned : st.MarkersOwned params) (divider : st.DividerOwned)
    (flushing : st.fsm = .excFlush) : (st.step params port).marked = false := by
  have ready : st.readyMem port = true := owned.readyMem flushing
  apply unmarked_step_of_flushing flushing ready
  intro marker
  rw [readyEx_of_empty divider (owned.ex marker) (stall_of_flushing flushing), ready]

/-- In a flush EX is ready unless it is refused a CSR. -/
theorem MarkersOwned.readyEx (owned : st.MarkersOwned params) (divider : st.DividerOwned)
    (alone : st.CsrAlone) (flushing : st.fsm = .excFlush) :
    st.readyEx params port = !st.excEx params := by
  have noMult : st.idEx.multEnEx = false := by
    rcases owned.flushing flushing with empty | ⟨csr, -⟩
    · exact empty.mult
    · exact alone csr
  rw [CoreState.readyEx, stall_of_flushing flushing, owned.readyMem flushing,
    readyDiv_of_noMult divider noMult]
  rfl

/-! ## One step -/

section Step

variable (owned : st.MarkersOwned params) (calm : st.Undisturbed port)

include owned calm

theorem ex_step_of_owned (marker : (st.step params port).idEx.excTakenEx = true) :
    (st.step params port).idEx.Empty := by
  rcases marker_of_excTakenEx_step marker with ⟨-, notReady, was⟩ | ⟨valid, noFlush, source⟩
  · have kept : st.nextIdExOperation params port = st.idEx :=
      nextIdExOperation_of_notReady notReady
    have empty : (st.nextIdExOperation params port).Empty := by
      rw [kept]
      exact owned.ex was
    exact ⟨empty.lsu, empty.csr, empty.mult, empty.branch, empty.jump⟩
  · refine empty_step_of_readyEx (readyEx_of_validId valid) (.inl ?_)
    rcases source with was | sets
    · have marks : st.marked = true := by rw [marked, was, Bool.true_or, Bool.true_or]
      exact owned.held (idle_of_validId owned valid noFlush) marks
    · rw [excTakenId_of_noIrq calm.noIrq] at sets
      exact readyId_of_exception sets

theorem idle_step_of_owned (divider : st.DividerOwned)
    (idleNext : (st.step params port).fsm = .idle)
    (marks : (st.step params port).marked = true) :
    ((st.step params port).exceptionTakenId = true ∧ (st.step params port).idEx.Empty) ∨
      (st.step params port).excEx params = true := by
  cases fsm : st.fsm with
  | idle =>
      have noTrap : st.excTaken port = false := by
        rw [fsm_step_idle fsm] at idleNext
        cases trap : st.excTaken port with
        | false => rfl
        | true =>
            rw [trap] at idleNext
            cases idleNext
      -- The instruction that traps is still in ID in the next cycle.
      have waits (traps : st.exceptionTakenId = true) (noBranch : st.branchJump = false)
          (empties : st.readyEx params port = true ∨ st.idEx.Empty) :
          (st.step params port).exceptionTakenId = true ∧
            (st.step params port).idEx.Empty := by
        obtain ⟨shown, empty⟩ := waits_step fsm traps noBranch empties
        exact ⟨(exceptionTakenId_of_shown shown).trans traps, empty⟩
      rcases marked_of_marked_step marks with was | ⟨valid, noFlush, sets⟩ | refused
      · rcases owned.idle fsm was with ⟨traps, empty⟩ | refused
        · exact .inl (waits traps (branchJump_of_empty empty) (.inr empty))
        · exact .inr (excEx_step calm fsm noTrap refused)
      · rw [excTakenId_of_noIrq calm.noIrq] at sets
        rw [flushD, Bool.or_eq_false_iff] at noFlush
        exact .inl (waits sets noFlush.2 (.inl (readyEx_of_validId valid)))
      · exact .inr (excEx_step calm fsm noTrap refused)
  | excFlush =>
      rw [owned.unmarked divider fsm] at marks
      cases marks
  | sleep =>
      rcases @fsm_step_sleep params _ port fsm with sleeps | wakes
      · rw [sleeps] at idleNext
        cases idleNext
      · rw [wakes] at idleNext
        cases idleNext
  | wakeup => exact absurd fsm owned.awake

/-- The trap of a refused CSR access leaves user mode. -/
theorem privilegeModeQ_step_of_refused
    (taken : st.memWb.excTakenWb = true) (refused : st.excEx params = true) :
    (st.step params port).csr.privilegeModeQ ≠ privLvlU := by
  have held : st.readyEx params port = false := readyEx_of_excEx refused
  have noMret : st.isMret params port = false := by simp [isMret, idSignal, held]
  obtain ⟨noMem, noWb⟩ := owned.noAccess.wb taken
  have ready : st.readyMem port = true := readyMem_of_noAccess (readyWb_of_noAccess noWb) noMem
  have records : st.mcauseUpdate params port = true := by
    rw [excEx_of_allowed calm.allowed, Bool.and_eq_true] at refused
    apply Controller.mcauseUpdate_iff.mpr
    refine .inl ⟨(excTaken_of_noError calm.noError).trans taken, ?_⟩
    have source : st.isIllegalCsr params port = true := by
      rw [isIllegalCsr, refused.1, refused.2, ready]
      rfl
    simp only [controllerInput, source, true_or, or_true]
  change st.csr.privilegeModeN (st.csrInput params port) ≠ privLvlU
  have mret : (st.csrInput params port).isMret = false := noMret
  have update : (st.csrInput params port).mcauseUpdate = true := records
  rw [Csr.privilegeModeN, mret, update]
  split
  · rename_i machine
    rw [if_neg (by simp), machine]
    decide
  · split
    · rw [if_pos rfl]
      decide
    · assumption

/-- A flush is that of a marker in WB. -/
theorem marker_of_flush_step (flush : (st.step params port).fsm = .excFlush) :
    st.fsm = .idle ∧ st.memWb.excTakenWb = true := by
  cases fsm : st.fsm with
  | idle =>
      refine ⟨rfl, ?_⟩
      rw [fsm_step_idle fsm, excTaken_of_noError calm.noError] at flush
      cases marker : st.memWb.excTakenWb with
      | true => rfl
      | false =>
          rw [marker] at flush
          cases flush
  | excFlush =>
      rw [fsm_step_excFlush fsm] at flush
      split at flush <;> cases flush
  | sleep =>
      rcases @fsm_step_sleep params _ port fsm with sleeps | wakes
      · rw [sleeps] at flush
        cases flush
      · rw [wakes] at flush
        cases flush
  | wakeup => exact absurd fsm owned.awake

theorem flushing_step_of_owned (flush : (st.step params port).fsm = .excFlush) :
    (st.step params port).idEx.Empty ∨
      ((st.step params port).idEx.csrEnEx = true ∧
        (st.step params port).csr.privilegeModeQ ≠ privLvlU) := by
  obtain ⟨idle, taken⟩ := marker_of_flush_step owned calm flush
  have marks : st.marked = true := by rw [marked, taken, Bool.or_true]
  rcases owned.idle idle marks with ⟨traps, empty⟩ | refused
  · exact .inl (empty_step_of_noIssue empty (.inl (readyId_of_exception traps)))
  · refine .inr ⟨?_, privilegeModeQ_step_of_refused owned calm taken refused⟩
    change (st.nextIdExOperation params port).csrEnEx = true
    rw [nextIdExOperation_of_notReady (readyEx_of_excEx refused)]
    exact csrEnEx_of_excEx calm.allowed refused

omit calm in
theorem asleep_step_of_owned (asleep : (st.step params port).fsm = .sleep) :
    (st.step params port).marked = false ∧ (st.step params port).idEx.Empty :=
  drainedAsleep_step (fun asleep => owned.asleep (asleep.resolve_right owned.awake))
    (.inl asleep)

theorem awake_step_of_owned : (st.step params port).fsm ≠ .wakeup := by
  cases fsm : st.fsm with
  | idle =>
      rw [fsm_step_idle fsm]
      split <;> simp
  | excFlush =>
      rw [fsm_step_excFlush fsm]
      split <;> simp
  | sleep =>
      have noIrq : Controller.interruptTaken (st.controllerInput params port) = false := calm.noIrq
      rw [fsm_step, fsm, Controller.fsmControlNs, noIrq]
      simp
  | wakeup => exact absurd fsm owned.awake

end Step

theorem markersOwned_step (owned : st.MarkersOwned params) (calm : st.Undisturbed port)
    (requested : port.dataGnt = true → Lsu.dataReq (st.lsuAccess port) = true)
    (oneUnit : st.ExOneUnit) (divider : st.DividerOwned) :
    (st.step params port).MarkersOwned params where
  noAccess := noAccessBehindMarker_step owned.noAccess oneUnit requested (owned.noneBehind port)
    (busError_of_noError calm.noError)
  ex := ex_step_of_owned owned calm
  idle := idle_step_of_owned owned calm divider
  flushing := flushing_step_of_owned owned calm
  asleep := asleep_step_of_owned owned
  awake := awake_step_of_owned owned calm

theorem markersOwned_reset (params : Params) (bootAddr : Word) :
    (reset bootAddr).MarkersOwned params where
  noAccess := noAccessBehindMarker_reset bootAddr
  ex := fun marker => by cases marker
  idle := fun _ marks => by cases marks
  flushing := fun flush => by cases flush
  asleep := fun asleep => by cases asleep
  awake := fun waking => by cases waking

end CoreState

theorem CoreRun.drainedAsleep (run : CoreRun) (cycle : Nat) : (run.state cycle).DrainedAsleep :=
  run.invariant CoreState.DrainedAsleep
    (fun asleep => by rcases asleep with asleep | waking <;> contradiction)
    (fun _ _ before => CoreState.drainedAsleep_step before) cycle

end RiscvCore
