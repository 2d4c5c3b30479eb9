import RiscvCore.FaultCauses
import RiscvCore.OperandHistory

/-!
# The drain of one trap

From the cycle in which ID shows a trapping instruction, or EX a denied access, up to the cycle in
which the controller takes the trap.  The marker of an instruction in ID is not lost on its way:
an operand that is known once stays so while nothing issues, hence ID does not take its
instruction back.  The markers in EX, MEM and WB all carry the same address.
-/

namespace RiscvCore

namespace CoreState

variable {params : Params} {st : CoreState} {port later : CoreInput} {reg : RegAddr}

theorem rdValue_iff (rf : RegisterFile) (reg : RegAddr) (forwards : ScoreBoard.Forwards) :
    ScoreBoard.rdValue rf true reg forwards = true ↔
      rf.dirtyEn reg = false ∨ ScoreBoard.bypass rf true reg forwards.ex = true ∨
        ScoreBoard.bypass rf true reg forwards.mem = true ∨
          ScoreBoard.bypass rf true reg forwards.wb = true := by
  rw [ScoreBoard.rdValue, ScoreBoard.rdRfDirty, Bool.true_and, Bool.or_eq_true, Bool.or_eq_true,
    Bool.or_eq_true, Bool.not_eq_true', or_assoc, or_assoc]

section Known

variable (idle : st.fsm = .idle) (noIssue : st.readyId params port = false)
  (notZero : reg ≠ 0#5)

include noIssue

theorem noInvalid_of_noIssue : (st.invalidPort params port).hits reg = false := by
  rw [RegisterFile.AddrPort.hits, invalidPort, noIssue, Bool.and_false, Bool.false_and,
    Bool.false_and]

include notZero

theorem tag_step_of_noIssue : (st.step params port).rf.tag reg = st.rf.tag reg := by
  rw [tag_step notZero, noInvalid_of_noIssue noIssue, if_neg Bool.false_ne_true]

include idle

theorem dirtyEn_step_of_noIssue (clean : st.rf.dirtyEn reg = false) :
    (st.step params port).rf.dirtyEn reg = false := by
  rw [dirtyEn_step idle notZero, noInvalid_of_noIssue noIssue, if_neg Bool.false_ne_true, clean,
    ite_self]

/-- The write of the newest writer clears its dirty bit. -/
theorem dirtyEn_step_of_bypassWb
    (bypass : ScoreBoard.bypass st.rf true reg (st.forwards port).wb = true) :
    (st.step params port).rf.dirtyEn reg = false := by
  obtain ⟨enable, addr, tag⟩ := (bypass_iff st.rf notZero _).mp bypass
  have written : (st.rfWr port).en = true := enable
  have sameAddr : (st.rfWr port).addr = reg := addr
  have sameTag : (st.rfWr port).tag = st.rf.tag reg := tag
  rw [dirtyEn_step idle notZero, noInvalid_of_noIssue noIssue, if_neg Bool.false_ne_true, written,
    sameAddr, sameTag, beq_self_eq_true, beq_self_eq_true, Bool.and_self, Bool.and_self, if_pos rfl]

/-- A result that EX offers is offered by MEM next. -/
theorem bypassMem_step_of_bypassEx (noException : st.excEx params = false)
    (accessOnly : st.ExAccessOnly)
    (bypass : ScoreBoard.bypass st.rf true reg (st.forwards port).ex = true) :
    ScoreBoard.bypass (st.step params port).rf true reg
      ((st.step params port).forwards later).mem = true := by
  obtain ⟨writes, noAccess⟩ := writes_of_bypassEx port notZero accessOnly bypass
  obtain ⟨enable, -, tag⟩ := (bypass_iff st.rf notZero _).mp bypass
  have valid : st.validEx port = true := by
    change (st.idEx.rdWrEnEx && st.validEx port && _) = true at enable
    rw [Bool.and_eq_true, Bool.and_eq_true] at enable
    exact enable.1.2
  have ready : st.readyEx params port = true := by
    rw [readyEx_eq, valid, noException]
    rfl
  have moved : (st.step params port).exMem.lsuEnMem = false ∧
      (st.step params port).exMem.rdWrEnMem = true ∧
        (st.step params port).exMem.rdWrAddrMem = reg ∧
          (st.step params port).exMem.rdWrTagMem = st.idEx.rdWrTagEx := by
    simp [step, nextExMem, ExStage.nextOperation, ready, valid, flushE_of_idle idle, noAccess,
      writes.1, writes.2]
  obtain ⟨access, writer, addr, sameTag⟩ := moved
  apply (bypass_iff _ notZero _).mpr
  rw [tag_step_of_noIssue noIssue notZero]
  refine ⟨?_, addr, sameTag.trans tag⟩
  change (!(st.step params port).exMem.lsuEnMem && (st.step params port).exMem.rdWrEnMem) = true
  rw [access, writer]
  rfl

/-- A result that MEM offers is offered by WB next, unless MEM is held. -/
theorem bypass_step_of_bypassMem (idleNext : (st.step params port).fsm = .idle)
    (bypass : ScoreBoard.bypass st.rf true reg (st.forwards port).mem = true) :
    ScoreBoard.bypass (st.step params port).rf true reg
        ((st.step params port).forwards later).mem = true ∨
      ScoreBoard.bypass (st.step params port).rf true reg
        ((st.step params port).forwards later).wb = true := by
  obtain ⟨enable, addr, tag⟩ := (bypass_iff st.rf notZero _).mp bypass
  have offers : (!st.exMem.lsuEnMem && st.exMem.rdWrEnMem) = true := enable
  cases ready : st.readyMem port with
  | false =>
      have held : ((st.step params port).forwards later).mem = (st.forwards port).mem := by
        simp [forwards, MemStage.forwardMem, step, nextExMem,
          nextExMemOperation_of_notReady ready]
      apply Or.inl
      rw [held]
      apply (bypass_iff _ notZero _).mpr
      rw [tag_step_of_noIssue noIssue notZero]
      exact ⟨enable, addr, tag⟩
  | true =>
      apply Or.inr
      rw [Bool.and_eq_true, Bool.not_eq_true'] at offers
      have valid : st.validMem port = true := validMem_eq_readyMem.trans ready
      have moved : (st.step params port).memWb.lsuEnWb = false ∧
          (st.step params port).memWb.rdWrEnWb = true ∧
            (st.step params port).memWb.rdWrAddrWb = st.exMem.rdWrAddrMem ∧
              (st.step params port).memWb.rdWrTagWb = st.exMem.rdWrTagMem := by
        simp [step, nextMemWb, MemStage.nextOperation, valid, flushE_of_idle idle, offers.1,
          offers.2]
      obtain ⟨access, writer, sameAddr, sameTag⟩ := moved
      have readyWb : (st.step params port).readyWb later = true := readyWb_of_noAccess access
      apply (bypass_iff _ notZero _).mpr
      rw [tag_step_of_noIssue noIssue notZero]
      refine ⟨?_, sameAddr.trans addr, sameTag.trans tag⟩
      change ((st.step params port).readyWb later && (st.step params port).memWb.rdWrEnWb &&
        !(st.step params port).flushE) = true
      rw [readyWb, writer, flushE_of_idle idleNext]
      rfl

end Known

/-- While nothing issues, an operand that is known stays known. -/
theorem rdValue_step (idle : st.fsm = .idle) (idleNext : (st.step params port).fsm = .idle)
    (noIssue : st.readyId params port = false) (noException : st.excEx params = false)
    (accessOnly : st.ExAccessOnly)
    (known : ScoreBoard.rdValue st.rf true reg (st.forwards port) = true) :
    ScoreBoard.rdValue (st.step params port).rf true reg
      ((st.step params port).forwards later) = true := by
  apply (rdValue_iff _ _ _).mpr
  by_cases notZero : reg = 0#5
  · rw [notZero]
    exact .inl dirtyEn_zero_step
  · rcases (rdValue_iff _ _ _).mp known with clean | inEx | inMem | inWb
    · exact .inl (dirtyEn_step_of_noIssue idle noIssue notZero clean)
    · exact .inr (.inr (.inl
        (bypassMem_step_of_bypassEx idle noIssue notZero noException accessOnly inEx)))
    · rcases bypass_step_of_bypassMem idle noIssue notZero idleNext inMem with held | moved
      · exact .inr (.inr (.inl held))
      · exact .inr (.inr (.inr moved))
    · exact .inl (dirtyEn_step_of_bypassWb idle noIssue notZero inWb)

/-- The instruction in ID keeps its operands. -/
theorem readRfBusy_step (idle : st.fsm = .idle) (idleNext : (st.step params port).fsm = .idle)
    (noIssue : st.readyId params port = false) (noException : st.excEx params = false)
    (accessOnly : st.ExAccessOnly) (same : (st.step params port).decoded = st.decoded)
    (known : st.readRfBusy port = false) :
    (st.step params port).readRfBusy later = false := by
  have operand (readEn : Bool) (addr : RegAddr)
      (before : (readEn && !ScoreBoard.rdValue st.rf readEn addr (st.forwards port)) = false) :
      (readEn && !ScoreBoard.rdValue (st.step params port).rf readEn addr
        ((st.step params port).forwards later)) = false := by
    cases readEn with
    | false => rfl
    | true =>
        rw [Bool.true_and, Bool.not_eq_false'] at before ⊢
        exact rdValue_step idle idleNext noIssue noException accessOnly before
  rw [readRfBusy, IdStage.readRfBusy, Bool.or_eq_false_iff] at known
  rw [readRfBusy, IdStage.readRfBusy, same, Bool.or_eq_false_iff]
  exact ⟨operand _ _ known.1, operand _ _ known.2⟩

/-- The markers behind ID are those of the instruction that it holds. -/
structure MarkersOf (shown : Shown) (st : CoreState) (port : CoreInput) : Prop where
  idle : st.fsm = .idle
  same : st.ifs.shown = shown
  ex : st.idEx.excTakenEx = true →
    st.idEx.Empty ∧ st.idEx.pcEx = shown.pcId ∧ st.readRfBusy port = false
  mem : st.exMem.excTakenMem = true →
    st.idEx.excTakenEx = true ∧ st.exMem.lsuEnMem = false ∧ st.exMem.pcMem = shown.pcId
  wb : st.memWb.excTakenWb = true →
    st.exMem.excTakenMem = true ∧ st.memWb.lsuEnWb = false ∧ st.memWb.pcWb = shown.pcId

theorem markersOf_of_unmarked (idle : st.fsm = .idle) (unmarked : st.marked = false)
    (port : CoreInput) : st.MarkersOf st.ifs.shown port := by
  rw [marked, Bool.or_eq_false_iff, Bool.or_eq_false_iff] at unmarked
  refine ⟨idle, rfl, ?_, ?_, ?_⟩
  · intro marker
    rw [unmarked.1.1] at marker
    cases marker
  · intro marker
    rw [unmarked.1.2] at marker
    cases marker
  · intro marker
    rw [unmarked.2] at marker
    cases marker

/-- An instruction that could leave ID has its operands. -/
theorem readRfBusy_of_validId (valid : st.validId params port = true) :
    st.readRfBusy port = false := by
  rw [validId, Bool.and_eq_true, Bool.and_eq_true, Bool.not_eq_true', stallId,
    Bool.or_eq_false_iff] at valid
  exact valid.1.1.1

section MarkersOf

variable {shown : Shown} (markers : st.MarkersOf shown port)
  (valid : st.ifs.instrValueId = true)

include markers valid

/-- A ready EX keeps the marker, and takes the address along. -/
theorem MarkersOf.validId (marker : st.idEx.excTakenEx = true) :
    st.validId params port = st.readyEx params port := by
  obtain ⟨-, -, known⟩ := markers.ex marker
  rw [CoreState.validId, stallId, known, stall_of_idle markers.idle, valid]
  rw [Bool.or_self, Bool.not_false, Bool.true_and, Bool.and_true]

/-- The marker in EX stays there. -/
theorem MarkersOf.excTakenEx_step (noBranch : st.branchJump = false)
    (marker : st.idEx.excTakenEx = true) :
    (st.step params port).idEx.excTakenEx = true := by
  have noFlush : st.flushD = false := flushD_of_idle markers.idle noBranch
  change IdStage.nextExcTakenEx _ _ _ _ _ = true
  rw [IdStage.nextExcTakenEx, markers.validId valid marker, noFlush, marker]
  cases st.readyEx params port <;> rfl

/-- As long as the instruction does not issue, its markers follow one another. -/
theorem MarkersOf.step (noIssue : st.readyId params port = false) (divider : st.DividerOwned)
    (accessOnly : st.ExAccessOnly) (noBranch : st.branchJump = false)
    (noException : st.excEx params = false) (noTrap : st.excTaken port = false) :
    (st.step params port).MarkersOf shown later := by
  have idleNext : (st.step params port).fsm = .idle := by
    rw [fsm_step_idle markers.idle, noTrap]
    rfl
  have held : (st.step params port).ifs.shown = st.ifs.shown :=
    shown_step_of_held markers.idle noBranch noIssue
  have knows (known : st.readRfBusy port = false) :
      (st.step params port).readRfBusy later = false :=
    readRfBusy_step markers.idle idleNext noIssue noException accessOnly
      (decoded_of_shown held) known
  constructor
  · exact idleNext
  · exact held.trans markers.same
  · intro marker
    rcases marker_of_excTakenEx_step marker with ⟨notValid, notReady, was⟩ | ⟨isValid, -, -⟩
    · obtain ⟨empty, pc, known⟩ := markers.ex was
      refine ⟨empty_step_of_noIssue empty (.inl noIssue), ?_, knows known⟩
      change (if st.validId params port then st.ifs.pcId else st.idEx.pcEx) = _
      rw [notValid, if_neg Bool.false_ne_true, pc]
    · refine ⟨empty_step_of_readyEx (readyEx_of_validId isValid) (.inl noIssue), ?_, ?_⟩
      · change (if st.validId params port then st.ifs.pcId else st.idEx.pcEx) = _
        rw [isValid, if_pos rfl]
        exact congrArg Shown.pcId markers.same
      · exact knows (readRfBusy_of_validId isValid)
  · intro marker
    rw [excTakenMem_step] at marker
    cases readyMem : st.readyMem port with
    | true =>
        rw [readyMem, if_pos rfl, noException, Bool.or_false, Bool.and_eq_true, Bool.and_eq_true]
          at marker
        obtain ⟨⟨isValid, -⟩, was⟩ := marker
        obtain ⟨empty, pc, -⟩ := markers.ex was
        refine ⟨markers.excTakenEx_step valid noBranch was, ?_, ?_⟩
        · rw [lsuEnMem_step, readyMem, if_pos rfl, empty.lsu, Bool.and_false]
        · change (if st.validEx port then st.idEx.pcEx else st.exMem.pcMem) = _
          rw [isValid, if_pos rfl, pc]
    | false =>
        rw [readyMem, if_neg Bool.false_ne_true] at marker
        obtain ⟨was, noAccess, pc⟩ := markers.mem marker
        refine ⟨markers.excTakenEx_step valid noBranch was, ?_, ?_⟩
        · rw [lsuEnMem_step, readyMem, if_neg Bool.false_ne_true, noAccess]
        · change (if st.validEx port then st.idEx.pcEx else st.exMem.pcMem) = _
          rw [validEx, readyMem, Bool.and_false, Bool.false_and, if_neg Bool.false_ne_true, pc]
  · intro marker
    rw [excTakenWb_step] at marker
    cases readyWb : st.readyWb port with
    | true =>
        rw [readyWb, if_pos rfl, Bool.and_eq_true, Bool.and_eq_true] at marker
        obtain ⟨⟨readyMem, -⟩, was⟩ := marker
        obtain ⟨inEx, noAccess, pc⟩ := markers.mem was
        have isValid : st.validEx port = true := by
          rw [validEx, stall_of_idle markers.idle, readyMem,
            readyDiv_of_noMult divider (markers.ex inEx).1.mult]
          rfl
        refine ⟨?_, ?_, ?_⟩
        · rw [excTakenMem_step, readyMem, if_pos rfl, isValid, flushE_of_idle markers.idle, inEx]
          rfl
        · rw [lsuEnWb_step, readyWb, if_pos rfl, noAccess, Bool.and_false]
        · change (if st.validMem port then st.exMem.pcMem else st.memWb.pcWb) = _
          rw [validMem_eq_readyMem, readyMem, if_pos rfl, pc]
    | false =>
        rw [readyWb, if_neg Bool.false_ne_true] at marker
        rw [readyWb_of_noAccess (markers.wb marker).2.1] at readyWb
        cases readyWb

end MarkersOf

/-! ## The trap of an instruction in ID -/

/-- ID holds an instruction that traps, and each marker behind it is its own. -/
structure Draining (shown : Shown) (st : CoreState) (port : CoreInput) : Prop where
  idle : st.fsm = .idle
  same : st.ifs.shown = shown
  traps : st.exceptionTakenId = true
  ex : st.idEx.excTakenEx = true →
    st.idEx.Empty ∧ st.idEx.pcEx = shown.pcId ∧ st.readRfBusy port = false
  mem : st.exMem.excTakenMem = true →
    st.idEx.excTakenEx = true ∧ st.exMem.lsuEnMem = false ∧ st.exMem.pcMem = shown.pcId
  wb : st.memWb.excTakenWb = true →
    st.exMem.excTakenMem = true ∧ st.memWb.lsuEnWb = false ∧ st.memWb.pcWb = shown.pcId

theorem MarkersOf.draining {shown : Shown} (markers : st.MarkersOf shown port)
    (traps : st.exceptionTakenId = true) : st.Draining shown port :=
  ⟨markers.idle, markers.same, traps, markers.ex, markers.mem, markers.wb⟩

theorem instrValueId_of_exceptionTakenId (traps : st.exceptionTakenId = true) :
    st.ifs.instrValueId = true := by
  cases valid : st.ifs.instrValueId with
  | true => rfl
  | false =>
      rw [exceptionTakenId, IdStage.exceptionTakenId, IdStage.instrAcsFault, decoded, valid]
        at traps
      cases traps

section Draining

variable {shown : Shown} (draining : st.Draining shown port)

include draining

theorem Draining.markersOf : st.MarkersOf shown port :=
  ⟨draining.idle, draining.same, draining.ex, draining.mem, draining.wb⟩

theorem Draining.readyId : st.readyId params port = false := readyId_of_exception draining.traps

theorem Draining.step (divider : st.DividerOwned) (accessOnly : st.ExAccessOnly)
    (noBranch : st.branchJump = false) (noException : st.excEx params = false)
    (noTrap : st.excTaken port = false) : (st.step params port).Draining shown later := by
  have held : (st.step params port).ifs.shown = st.ifs.shown :=
    shown_step_of_held draining.idle noBranch draining.readyId
  have markers : (st.step params port).MarkersOf shown later :=
    draining.markersOf.step (instrValueId_of_exceptionTakenId draining.traps) draining.readyId
      divider accessOnly noBranch noException noTrap
  exact markers.draining ((exceptionTakenId_of_shown held).trans draining.traps)

end Draining

/-! ## The trap of a denied access -/

/-- EX holds a denied access, and the markers behind it are its own. -/
structure Refused (pc : Word) (st : CoreState) : Prop where
  idle : st.fsm = .idle
  denied : st.pmpErr = true
  pcEx : st.idEx.pcEx = pc
  mem : st.exMem.excTakenMem = true → st.exMem.lsuEnMem = false ∧ st.exMem.pcMem = pc
  wb : st.memWb.excTakenWb = true →
    st.exMem.excTakenMem = true ∧ st.memWb.lsuEnWb = false ∧ st.memWb.pcWb = pc

section Refused

variable {pc : Word} (refused : st.Refused pc)

include refused

theorem Refused.access : st.idEx.lsuEnEx = true := by
  cases access : st.idEx.lsuEnEx with
  | true => rfl
  | false =>
      have denied := refused.denied
      rw [pmpErr_of_noAccess access] at denied
      cases denied

theorem Refused.notReady : st.readyEx params port = false :=
  readyEx_of_excEx (excEx_of_pmpErr refused.denied)

theorem Refused.readyDiv (divider : st.DividerOwned) (accessOnly : st.ExAccessOnly) :
    st.readyDiv = true :=
  readyDiv_of_noDivision divider (accessOnly refused.access).2

theorem Refused.step (divider : st.DividerOwned) (accessOnly : st.ExAccessOnly)
    (oneUnit : st.ExOneUnit) (noTrap : st.excTaken port = false) :
    (st.step params port).Refused pc := by
  have notReady : st.readyEx params port = false := refused.notReady
  have noCsr : st.idEx.csrEnEx = false := oneUnit.csrEnEx_of_access refused.access
  constructor
  · rw [fsm_step_idle refused.idle, noTrap]
    rfl
  · rw [pmpErr_step_of_held refused.idle noTrap notReady noCsr, refused.denied]
  · change (if st.validId params port then st.ifs.pcId else st.idEx.pcEx) = _
    rw [validId, notReady, Bool.and_false, Bool.false_and, if_neg Bool.false_ne_true, refused.pcEx]
  · intro marker
    rw [excTakenMem_step] at marker
    rw [lsuEnMem_step, notReady]
    change _ ∧ (if st.validEx port then st.idEx.pcEx else st.exMem.pcMem) = _
    cases readyMem : st.readyMem port with
    | true =>
        rw [readyMem, if_pos rfl, Bool.and_eq_true, Bool.and_eq_true] at marker
        rw [marker.1.1, if_pos rfl, if_pos rfl, refused.pcEx]
        exact ⟨rfl, rfl⟩
    | false =>
        have notValid : st.validEx port = false := by
          rw [validEx, readyMem, Bool.and_false, Bool.false_and]
        rw [readyMem, if_neg Bool.false_ne_true] at marker
        rw [notValid, if_neg Bool.false_ne_true, if_neg Bool.false_ne_true]
        exact refused.mem marker
  · intro marker
    rw [excTakenWb_step] at marker
    cases readyWb : st.readyWb port with
    | true =>
        rw [readyWb, if_pos rfl, Bool.and_eq_true, Bool.and_eq_true] at marker
        obtain ⟨⟨readyMem, -⟩, was⟩ := marker
        obtain ⟨noAccess, pcMem⟩ := refused.mem was
        have valid : st.validEx port = true := by
          rw [validEx, stall_of_idle refused.idle, readyMem, refused.readyDiv divider accessOnly]
          rfl
        refine ⟨?_, ?_, ?_⟩
        · rw [excTakenMem_step, readyMem, if_pos rfl, valid, flushE_of_idle refused.idle,
            excEx_of_pmpErr refused.denied, Bool.or_true]
          rfl
        · rw [lsuEnWb_step, readyWb, if_pos rfl, noAccess, Bool.and_false]
        · change (if st.validMem port then st.exMem.pcMem else st.memWb.pcWb) = _
          rw [validMem_eq_readyMem, readyMem, if_pos rfl, pcMem]
    | false =>
        rw [readyWb, if_neg Bool.false_ne_true] at marker
        rw [readyWb_of_noAccess (refused.wb marker).2.1] at readyWb
        cases readyWb

end Refused

/-- The trap of the instruction at `pc` is taken, with one more marker in MEM. -/
structure Arrived (pc : Word) (st : CoreState) : Prop where
  idle : st.fsm = .idle
  inWb : st.memWb.excTakenWb = true
  inMem : st.exMem.excTakenMem = true
  noAccess : st.memWb.lsuEnWb = false ∧ st.exMem.lsuEnMem = false
  noCsr : st.idEx.csrEnEx = false
  pcWb : st.memWb.pcWb = pc
  pcMem : st.exMem.pcMem = pc

/-- The flush of that trap, with the second marker in WB. -/
structure FlushedAt (pc : Word) (st : CoreState) : Prop where
  flushing : st.fsm = .excFlush
  inWb : st.memWb.excTakenWb = true
  noAccess : st.memWb.lsuEnWb = false
  noCsr : st.idEx.csrEnEx = false
  pcWb : st.memWb.pcWb = pc

theorem MarkersOf.arrived {shown : Shown} (markers : st.MarkersOf shown port)
    (marker : st.memWb.excTakenWb = true) : st.Arrived shown.pcId := by
  obtain ⟨inMem, noAccessWb, pcWb⟩ := markers.wb marker
  obtain ⟨inEx, noAccessMem, pcMem⟩ := markers.mem inMem
  exact ⟨markers.idle, marker, inMem, ⟨noAccessWb, noAccessMem⟩, (markers.ex inEx).1.csr, pcWb,
    pcMem⟩

theorem Draining.arrived {shown : Shown} (draining : st.Draining shown port)
    (marker : st.memWb.excTakenWb = true) : st.Arrived shown.pcId :=
  draining.markersOf.arrived marker

theorem Refused.arrived {pc : Word} (refused : st.Refused pc) (oneUnit : st.ExOneUnit)
    (marker : st.memWb.excTakenWb = true) : st.Arrived pc := by
  obtain ⟨inMem, noAccessWb, pcWb⟩ := refused.wb marker
  obtain ⟨noAccessMem, pcMem⟩ := refused.mem inMem
  exact ⟨refused.idle, marker, inMem, ⟨noAccessWb, noAccessMem⟩,
    oneUnit.csrEnEx_of_access refused.access, pcWb, pcMem⟩

section Arrived

variable {pc : Word} (arrived : st.Arrived pc)

include arrived

theorem Arrived.excTaken (port : CoreInput) : st.excTaken port = true := by
  rw [CoreState.excTaken, arrived.inWb, Bool.true_or, Bool.true_or]

theorem Arrived.readyMem (port : CoreInput) : st.readyMem port = true :=
  readyMem_of_noAccess (readyWb_of_noAccess arrived.noAccess.1) arrived.noAccess.2

theorem Arrived.step (params : Params) (port : CoreInput)
    (noIssue : st.readyId params port = false) : (st.step params port).FlushedAt pc := by
  have readyMem := arrived.readyMem port
  have readyWb : st.readyWb port = true := readyWb_of_noAccess arrived.noAccess.1
  constructor
  · rw [fsm_step_idle arrived.idle, arrived.excTaken port]
    rfl
  · rw [excTakenWb_step, readyWb, if_pos rfl, readyMem, flushE_of_idle arrived.idle, arrived.inMem]
    rfl
  · rw [lsuEnWb_step, readyWb, if_pos rfl, arrived.noAccess.2, Bool.and_false]
  · change (st.nextIdExOperation params port).csrEnEx = false
    cases ready : st.readyEx params port with
    | true =>
        rw [nextIdExOperation_of_bubble ready (.inl noIssue)]
        rfl
    | false =>
        rw [nextIdExOperation_of_notReady ready]
        exact arrived.noCsr
  · change (if st.validMem port then st.exMem.pcMem else st.memWb.pcWb) = _
    rw [validMem_eq_readyMem, readyMem, if_pos rfl, arrived.pcMem]

end Arrived

theorem FlushedAt.excTaken {pc : Word} (flushed : st.FlushedAt pc) (port : CoreInput) :
    st.excTaken port = true := by
  rw [CoreState.excTaken, flushed.inWb, Bool.true_or, Bool.true_or]

theorem FlushedAt.readyMem {pc : Word} (flushed : st.FlushedAt pc) (port : CoreInput) :
    st.readyMem port = true :=
  (readyMem_of_flushing flushed.flushing).trans (readyWb_of_noAccess flushed.noAccess)

end CoreState

namespace CoreRun

open SynchronousRun (FirstFrom)

variable {run : CoreRun}

/-- When the trap is taken, the instruction that traps is still in ID. -/
theorem draining_of_first {raise taken : Nat} (idle : (run.state raise).fsm = .idle)
    (traps : (run.state raise).exceptionTakenId = true)
    (unmarked : (run.state raise).marked = false)
    (alone : ∀ cycle, raise ≤ cycle → cycle < taken →
      (run.state cycle).branchJump = false ∧ (run.state cycle).excEx run.params = false)
    (first : FirstFrom run.TakesTrap raise taken) :
    (run.state taken).Draining (run.state raise).ifs.shown (run.inputs taken) := by
  apply first.holds_at fun cycle =>
    (run.state cycle).Draining (run.state raise).ifs.shown (run.inputs cycle)
  · exact (CoreState.markersOf_of_unmarked idle unmarked (run.inputs raise)).draining traps
  · intro cycle after before noTrap draining
    obtain ⟨noBranch, noException⟩ := alone cycle after before
    rw [run.state_succ]
    exact draining.step (run.dividerOwned cycle) (run.exAccessOnly cycle) noBranch noException
      (notTaken_of_noTrap draining.idle noTrap)

/-- When the trap of a denied access is taken, the access is still in EX. -/
theorem refused_of_first {op : LsuOp} {denial taken : Nat} (inEx : run.DeniedInEx op denial)
    (first : FirstFrom run.TakesTrap denial taken) :
    (run.state taken).Refused (run.state denial).idEx.pcEx := by
  apply first.holds_at fun cycle => (run.state cycle).Refused (run.state denial).idEx.pcEx
  · refine ⟨inEx.idle, inEx.denied, rfl, ?_, ?_⟩
    · intro marker
      rw [inEx.noMarker.1] at marker
      cases marker
    · intro marker
      rw [inEx.noMarker.2] at marker
      cases marker
  · intro cycle _ _ noTrap refused
    rw [run.state_succ]
    exact refused.step (run.dividerOwned cycle) (run.exAccessOnly cycle) (run.exOneUnit cycle)
      (notTaken_of_noTrap refused.idle noTrap)

/-- The cycle of the trap and the flush after it, with the instruction still in ID in front of an
empty, ready EX. -/
structure HeldThrough (run : CoreRun) (shown : Shown) (taken : Nat) : Prop where
  arrived : (run.state taken).Arrived shown.pcId
  flushed : (run.state (taken + 1)).FlushedAt shown.pcId
  empty : (run.state taken).idEx.Empty
  emptyNext : (run.state (taken + 1)).idEx.Empty
  same : (run.state taken).ifs.shown = shown
  sameNext : (run.state (taken + 1)).ifs.shown = shown
  ready : (run.state taken).readyEx run.params (run.inputs taken) = true
  readyNext : (run.state (taken + 1)).readyEx run.params (run.inputs (taken + 1)) = true

theorem heldThrough_of_markersOf {shown : Shown} {taken : Nat}
    (markers : (run.state taken).MarkersOf shown (run.inputs taken))
    (noIssue : (run.state taken).readyId run.params (run.inputs taken) = false)
    (marker : (run.state taken).memWb.excTakenWb = true) : run.HeldThrough shown taken := by
  have arrived := markers.arrived marker
  have empty := (markers.ex (markers.mem arrived.inMem).1).1
  have flushed : (run.state (taken + 1)).FlushedAt shown.pcId := by
    rw [run.state_succ]
    exact arrived.step run.params (run.inputs taken) noIssue
  have emptyNext : (run.state (taken + 1)).idEx.Empty := by
    rw [run.state_succ]
    exact CoreState.empty_step_of_noIssue empty (.inl noIssue)
  refine ⟨arrived, flushed, empty, emptyNext, markers.same, ?_, ?_, ?_⟩
  · refine Eq.trans ?_ markers.same
    rw [run.state_succ]
    exact CoreState.shown_step_of_held markers.idle (CoreState.branchJump_of_empty empty) noIssue
  · rw [CoreState.readyEx_of_empty (run.dividerOwned taken) empty
      (CoreState.stall_of_idle markers.idle), arrived.readyMem]
  · rw [CoreState.readyEx_of_empty (run.dividerOwned (taken + 1)) emptyNext
      (CoreState.stall_of_flushing flushed.flushing), flushed.readyMem]

theorem heldThrough_of_draining {shown : Shown} {taken : Nat}
    (draining : (run.state taken).Draining shown (run.inputs taken))
    (marker : (run.state taken).memWb.excTakenWb = true) : run.HeldThrough shown taken :=
  heldThrough_of_markersOf draining.markersOf draining.readyId marker

end CoreRun

end RiscvCore
