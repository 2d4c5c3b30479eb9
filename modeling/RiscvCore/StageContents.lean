import RiscvCore.IssueRanks

/-!
# The registers of the hart in the pipeline

The register file holds the registers of the hart after the instructions that have left WB, and
each stage behind ID holds what its instruction writes.  An instruction that issues therefore reads
the registers of the hart in front of it.
-/

namespace RiscvCore

open SynchronousRun (collected occurrences)

namespace Hart

/-- The instructions from the given number on write the register with the data, or, unless
enabled, none. -/
def Carries (harts : Nat → Option Hart) (number count : Nat) (en : Bool) (addr : RegAddr)
    (data : Word) : Prop :=
  ∀ before after, harts number = some before → harts (number + count) = some after →
    after.reg = before.written (if en then some addr else none) data

variable {harts : Nat → Option Hart} {number : Nat} {en : Bool} {addr : RegAddr} {data : Word}

theorem written_none (hart : Hart) (value : Word) : hart.written none value = hart.reg := by
  funext reg
  exact if_neg fun both => by cases both.1

theorem written_of_other {hart : Hart} {reg : RegAddr} (other : ¬ (en = true ∧ addr = reg)) :
    hart.written (if en then some addr else none) data reg = hart.reg reg := by
  refine if_neg fun both => ?_
  cases enabled : en with
  | false =>
      rw [enabled] at both
      cases both.1
  | true =>
      rw [enabled] at both
      exact other ⟨enabled, Option.some.inj both.1⟩

theorem written_same {hart : Hart} {reg : RegAddr} (enabled : en = true) (same : addr = reg)
    (notZero : reg ≠ 0#5) : hart.written (if en then some addr else none) data reg = data := by
  rw [enabled, same]
  exact if_pos ⟨rfl, notZero⟩

/-- An empty stage carries nothing. -/
theorem carries_zero (disabled : en = false) : Carries harts number 0 en addr data := by
  intro before after runsBefore runsAfter
  obtain rfl : before = after := Option.some.inj (runsBefore.symm.trans runsAfter)
  rw [disabled]
  exact (written_none before data).symm

end Hart

namespace CoreRun

variable (run : CoreRun)

/-- What an instruction takes along from EX, and what it writes from WB. -/
def resultEx (cycle : Nat) : Option Word :=
  if run.leavesEx cycle then some ((run.state cycle).rdWrDataEx (run.inputs cycle)) else none

def resultWb (cycle : Nat) : Option Word :=
  if run.leavesWb cycle then some (run.writtenData cycle) else none

/-- The reads that the instructions issued from `start` on make outside the hart, as far as they
have been made in cycle `last`. -/
def outside (start last number : Nat) : Outside where
  loaded := (collected run.resultWb (last + 1))[run.committed 0 start + number]?.getD 0#32
  csrRead := (collected run.resultEx (last + 1))[run.executed 0 start + number]?.getD 0#32

/-- What a load writes and what a CSR instruction takes along is what the hart reads outside. -/
structure SuppliedAt (outside : Nat → Outside) (start cycle : Nat) : Prop where
  loaded : run.leavesWb cycle = true → (run.state cycle).memWb.lsuEnWb = true →
    (run.state cycle).memWb.rdWrEnWb = true →
      (outside (run.committed start cycle)).loaded = run.writtenData cycle
  csrRead : run.leavesEx cycle = true → (run.state cycle).idEx.csrEnEx = true →
    (outside (run.executed start cycle)).csrRead =
      (run.state cycle).rdWrDataEx (run.inputs cycle)

theorem isSome_resultEx : (fun cycle => (run.resultEx cycle).isSome) = run.leavesEx := by
  funext cycle
  rw [resultEx]
  cases run.leavesEx cycle <;> rfl

theorem isSome_resultWb : (fun cycle => (run.resultWb cycle).isSome) = run.leavesWb := by
  funext cycle
  rw [resultWb]
  cases run.leavesWb cycle <;> rfl

theorem suppliedAt_outside {start last cycle : Nat} (ordered : start ≤ cycle)
    (inside : cycle ≤ last) : run.SuppliedAt (run.outside start last) start cycle where
  loaded := by
    intro leaves _ _
    have result : run.resultWb cycle = some (run.writtenData cycle) := if_pos leaves
    have found := SynchronousRun.getElem?_collected result (Nat.lt_succ_of_le inside)
    rw [isSome_resultWb, ← SynchronousRun.occurrences_add run.leavesWb ordered] at found
    rw [outside, committed, committed, found, Option.getD_some]
  csrRead := by
    intro leaves _
    have result : run.resultEx cycle =
      some ((run.state cycle).rdWrDataEx (run.inputs cycle)) := if_pos leaves
    have found := SynchronousRun.getElem?_collected result (Nat.lt_succ_of_le inside)
    rw [isSome_resultEx, ← SynchronousRun.occurrences_add run.leavesEx ordered] at found
    rw [outside, executed, executed, found, Option.getD_some]

end CoreRun

/-! ## The stages -/

/-- The operation in front of EX is the instruction with the operands of the hart. -/
def IdEx.Executes (ex : IdEx) (hart : Hart) (instr : Instr) (compressed : Bool) : Prop :=
  ∃ idEx ifs tag, ifs.pcId = hart.pc ∧ ifs.compressInstrId = compressed ∧
    ifs.predictTakenId = false ∧
      ex.operation = (issuedAt idEx ifs (hart.operand instr.source1)
        (hart.operand instr.source2) tag instr).operation

namespace CoreRun

variable (run : CoreRun) (memory : Word → Word) (first : Hart) (outside : Nat → Outside)

/-- What the register file and the stages hold. -/
structure StagesCarry (start cycle : Nat) : Prop where
  registers : ∀ hart, Hart.run memory first outside (run.committed start cycle) = some hart →
    (run.state cycle).rf.mem = hart.reg
  wb : Hart.Carries (Hart.run memory first outside) (run.committed start cycle) (run.countWb cycle)
    (run.state cycle).memWb.rdWrEnWb (run.state cycle).memWb.rdWrAddrWb
    (if (run.state cycle).memWb.lsuEnWb then (outside (run.committed start cycle)).loaded
      else (run.state cycle).memWb.rdWrDataWb)
  mem : Hart.Carries (Hart.run memory first outside)
    (run.committed start cycle + run.countWb cycle) (run.countMem cycle)
    (run.state cycle).exMem.rdWrEnMem (run.state cycle).exMem.rdWrAddrMem
    (if (run.state cycle).exMem.lsuEnMem then
      (outside (run.committed start cycle + run.countWb cycle)).loaded
      else (run.state cycle).exMem.rdWrDataMem)
  ex : ∀ issue, run.inEx cycle = some issue → ∀ hart instr compressed,
    Hart.run memory first outside (run.executed start cycle) = some hart →
      fetch memory hart.pc = some (instr, compressed) →
        (run.state cycle).idEx.Executes hart instr compressed

variable {run memory first outside} {start cycle : Nat}

theorem executes_operation {ex : IdEx} {hart : Hart} {instr : Instr} {compressed : Bool}
    (executes : ex.Executes hart instr compressed) :
    (if ex.rdWrEnEx then some ex.rdWrAddrEx else none) = instr.destination ∧
      ex.lsuEnEx = instr.accesses ∧ ex.csrEnEx = instr.readsCsr := by
  obtain ⟨idEx, ifs, tag, -, -, -, same⟩ := executes
  refine ⟨?_, ?_, ?_⟩
  · change (if ex.operation.rdWrEnEx then some ex.operation.rdWrAddrEx else none) = _
    rw [same]
    exact instr.destination_controls
  · change ex.operation.lsuEnEx = _
    rw [same]
    exact instr.lsuEn_controls
  · change ex.operation.csrEnEx = _
    rw [same]
    exact instr.csrEn_controls

theorem rdWrDataEx_of_executes {st : CoreState} {port : CoreInput} {hart : Hart} {instr : Instr}
    {compressed : Bool} {read : Outside} (executes : st.idEx.Executes hart instr compressed)
    (computes : st.DividerComputes) (ready : st.readyDiv = true)
    (writes : instr.destination ≠ none) (noAccess : instr.accesses = false)
    (csrRead : st.idEx.csrEnEx = true → read.csrRead = st.rdWrDataEx port) :
    st.rdWrDataEx port = instr.value hart.pc (hart.operand instr.source1)
      (hart.operand instr.source2) (hart.sequential compressed) read := by
  have operation := executes_operation executes
  obtain ⟨idEx, ifs, tag, pcId, length, -, same⟩ := executes
  have result : st.rdWrDataEx port =
      ExStage.rdWrDataEx st.idEx.operation st.div (st.csrRdata port) := rfl
  have sequential : hart.sequential compressed = ifs.sequentialId := by
    rw [Hart.sequential, IfStage.sequentialId, pcId, length]
  have isCsr : instr.readsCsr = true → st.csrRdata port = read.csrRead := by
    intro isCsr
    rw [csrRead (operation.2.2.trans isCsr), CoreState.rdWrDataEx, ExStage.rdWrDataEx,
      operation.2.1, noAccess, operation.2.2, isCsr]
    rfl
  rw [result, same, sequential, ← pcId]
  have shows (divides : ExStage.divEn (issuedAt idEx ifs (hart.operand instr.source1)
      (hart.operand instr.source2) tag instr).operation = true) :
      st.div.Shows (ExStage.divInput (issuedAt idEx ifs (hart.operand instr.source1)
        (hart.operand instr.source2) tag instr).operation st.flushE) := by
    rw [← same] at divides ⊢
    exact computes.shows ready divides
  exact rdWrDataEx_issuedAt idEx ifs _ _ tag instr writes noAccess isCsr shows

/-- What an instruction that leaves EX takes along. -/
theorem StagesCarry.carries_ex (carry : run.StagesCarry memory first outside start cycle)
    (supplied : run.SuppliedAt outside start cycle) (ready : run.readyEx cycle = true) :
    Hart.Carries (Hart.run memory first outside) (run.executed start cycle) (run.countEx cycle)
      (run.state cycle).idEx.rdWrEnEx (run.state cycle).idEx.rdWrAddrEx
      (if (run.state cycle).idEx.lsuEnEx then (outside (run.executed start cycle)).loaded
        else (run.state cycle).rdWrDataEx (run.inputs cycle)) := by
  rw [countEx]
  cases entered : run.inEx cycle with
  | none => exact Hart.carries_zero ((run.stagesHold cycle).ex entered).2
  | some issue =>
      intro before after runsBefore runsAfter
      obtain ⟨hart, runs, steps⟩ := Hart.step_of_run runsAfter
      obtain rfl : hart = before := Option.some.inj (runs.symm.trans runsBefore)
      obtain ⟨instr, compressed, fetched, -, rfl⟩ := Hart.execute_of_step steps
      have executes := carry.ex issue entered hart instr compressed runs fetched
      obtain ⟨destination, access, -⟩ := executes_operation executes
      have leaves : run.leavesEx cycle = true := by
        rw [leavesEx, entered, ready]
        rfl
      rw [destination, access]
      change hart.written instr.destination _ = _
      by_cases writes : instr.destination = none
      · rw [writes, Hart.written_none, Hart.written_none]
      · congr 1
        cases noAccess : instr.accesses with
        | true => exact instr.value_of_accesses noAccess writes _ _ _ _ _
        | false =>
            have readyDiv : (run.state cycle).readyDiv = true := by
              have isReady : (run.state cycle).readyEx run.params (run.inputs cycle) = true := ready
              rw [CoreState.readyEx, Bool.and_eq_true, Bool.and_eq_true] at isReady
              exact isReady.1.2
            exact (rdWrDataEx_of_executes executes (run.dividerComputes cycle) readyDiv writes
              noAccess (supplied.csrRead leaves)).symm

/-- What WB writes is what it carries. -/
theorem carried_of_written (supplied : run.SuppliedAt outside start cycle)
    (ready : run.readyWb cycle = true) (writes : (run.state cycle).memWb.rdWrEnWb = true) :
    (if (run.state cycle).memWb.lsuEnWb then (outside (run.committed start cycle)).loaded
      else (run.state cycle).memWb.rdWrDataWb) = run.writtenData cycle := by
  have leaves : run.leavesWb cycle = true := by
    rw [leavesWb, ready, Bool.and_true]
    cases entered : run.inWb cycle with
    | some issue => rfl
    | none =>
        rw [((run.stagesHold cycle).wb entered).2] at writes
        cases writes
  have data : run.writtenData cycle =
      if (run.state cycle).memWb.lsuEnWb && (run.state cycle).memWb.lsuOpWb == .ld then
        (run.state cycle).lsu.lsuRdata (run.inputs cycle).dataRdata
      else (run.state cycle).memWb.rdWrDataWb := rfl
  cases access : (run.state cycle).memWb.lsuEnWb with
  | true => exact supplied.loaded leaves access writes
  | false =>
      rw [data, access]
      rfl

section Step

variable (carry : run.StagesCarry memory first outside start cycle)
  (supplied : run.SuppliedAt outside start cycle) (ordered : start ≤ cycle)
  (idle : (run.state cycle).fsm = .idle)

theorem committed_succ (run : CoreRun) (ordered : start ≤ cycle) :
    run.committed start (cycle + 1) = run.committed start cycle + (run.leavesWb cycle).toNat :=
  SynchronousRun.occurrences_succ _ ordered

theorem executed_succ (run : CoreRun) (ordered : start ≤ cycle) :
    run.executed start (cycle + 1) = run.executed start cycle + (run.leavesEx cycle).toNat :=
  SynchronousRun.occurrences_succ _ ordered

/-- A ready WB passes its instruction on. -/
theorem committed_succ_of_ready (ordered : start ≤ cycle) (ready : run.readyWb cycle = true) :
    run.committed start (cycle + 1) = run.committed start cycle + run.countWb cycle := by
  rw [committed_succ run ordered, leavesWb, ready, Bool.and_true]
  rfl

theorem committed_succ_of_waits (ordered : start ≤ cycle) (waits : run.readyWb cycle = false) :
    run.committed start (cycle + 1) = run.committed start cycle := by
  rw [committed_succ run ordered, leavesWb, waits, Bool.and_false]
  rfl

include carry supplied ordered idle

theorem StagesCarry.registers_succ (zero : first.reg 0#5 = 0#32) (hart : Hart)
    (runs : Hart.run memory first outside (run.committed start (cycle + 1)) = some hart) :
    (run.state (cycle + 1)).rf.mem = hart.reg := by
  have next : ∀ reg, (run.state (cycle + 1)).rf.mem reg =
      if reg = 0#5 then 0#32
      else if run.writes cycle && run.writtenReg cycle == reg then run.writtenData cycle
      else (run.state cycle).rf.mem reg := fun _ => rfl
  have noFlush : (run.state cycle).flushE = false := CoreState.flushE_of_idle idle
  have writes : run.writes cycle = (run.readyWb cycle && (run.state cycle).memWb.rdWrEnWb) := by
    change (_ && !(run.state cycle).flushE) = _
    rw [noFlush, Bool.not_false, Bool.and_true]
    rfl
  funext reg
  rw [next, writes]
  by_cases isZero : reg = 0#5
  · rw [if_pos isZero, isZero, Hart.reg_zero_of_run zero runs]
  · rw [if_neg isZero]
    cases ready : run.readyWb cycle with
    | false =>
        rw [committed_succ_of_waits ordered ready] at runs
        rw [Bool.false_and, Bool.false_and, if_neg Bool.false_ne_true, carry.registers hart runs]
    | true =>
        rw [committed_succ_of_ready ordered ready] at runs
        obtain ⟨before, runsBefore⟩ := Hart.exists_run_of_le runs (Nat.le_add_right _ _)
        rw [carry.wb before hart runsBefore runs, Bool.true_and, carry.registers before runsBefore]
        by_cases written : (run.state cycle).memWb.rdWrEnWb = true ∧
            (run.state cycle).memWb.rdWrAddrWb = reg
        · have sameReg : run.writtenReg cycle = reg := written.2
          rw [Hart.written_same written.1 written.2 isZero, written.1, sameReg, beq_self_eq_true,
            Bool.and_true, if_pos rfl, carried_of_written supplied ready written.1]
        · rw [Hart.written_of_other written]
          refine if_neg fun both => written ?_
          rw [Bool.and_eq_true, beq_iff_eq] at both
          exact both

omit supplied in
theorem StagesCarry.wb_succ :
    Hart.Carries (Hart.run memory first outside) (run.committed start (cycle + 1))
      (run.countWb (cycle + 1)) (run.state (cycle + 1)).memWb.rdWrEnWb
      (run.state (cycle + 1)).memWb.rdWrAddrWb
      (if (run.state (cycle + 1)).memWb.lsuEnWb then
        (outside (run.committed start (cycle + 1))).loaded
        else (run.state (cycle + 1)).memWb.rdWrDataWb) := by
  have noFlush : run.flushE cycle = false := CoreState.flushE_of_idle idle
  have isIdle : (run.state cycle).flushE = false := noFlush
  have entered := inWb_succ run cycle
  rw [validMem_eq_readyMem, noFlush, Bool.not_false, Bool.and_true] at entered
  cases ready : run.readyMem cycle with
  | true =>
      have readyWb : run.readyWb cycle = true := CoreState.readyWb_of_readyMem ready
      have valid : (run.state cycle).validMem (run.inputs cycle) = true :=
        (validMem_eq_readyMem run cycle).trans ready
      rw [ready, if_pos rfl] at entered
      have next : (run.state (cycle + 1)).memWb.rdWrEnWb = (run.state cycle).exMem.rdWrEnMem ∧
          (run.state (cycle + 1)).memWb.rdWrAddrWb = (run.state cycle).exMem.rdWrAddrMem ∧
          (run.state (cycle + 1)).memWb.lsuEnWb = (run.state cycle).exMem.lsuEnMem ∧
          (run.state (cycle + 1)).memWb.rdWrDataWb = (run.state cycle).exMem.rdWrDataMem := by
        rw [run.state_succ]
        simp [CoreState.step, CoreState.nextMemWb, MemStage.nextOperation, valid, isIdle]
      obtain ⟨enable, addr, access, data⟩ := next
      have count : run.countWb (cycle + 1) = run.countMem cycle := by
        rw [countWb, entered]
        rfl
      rw [committed_succ_of_ready ordered readyWb, count, enable, addr, access, data]
      exact carry.mem
  | false =>
      have valid : (run.state cycle).validMem (run.inputs cycle) = false :=
        (validMem_eq_readyMem run cycle).trans ready
      rw [ready, if_neg Bool.false_ne_true] at entered
      cases readyWb : run.readyWb cycle with
      | true =>
          have bubble : (run.state (cycle + 1)).memWb.rdWrEnWb = false := by
            have isReady : (run.state cycle).readyWb (run.inputs cycle) = true := readyWb
            rw [run.state_succ]
            simp [CoreState.step, CoreState.nextMemWb, MemStage.nextOperation, valid, isReady]
          rw [readyWb, if_pos rfl] at entered
          rw [countWb, entered]
          exact Hart.carries_zero bubble
      | false =>
          have held : (run.state (cycle + 1)).memWb.rdWrEnWb = (run.state cycle).memWb.rdWrEnWb ∧
              (run.state (cycle + 1)).memWb.rdWrAddrWb = (run.state cycle).memWb.rdWrAddrWb ∧
              (run.state (cycle + 1)).memWb.lsuEnWb = (run.state cycle).memWb.lsuEnWb ∧
              (run.state (cycle + 1)).memWb.rdWrDataWb =
                (run.state cycle).memWb.rdWrDataWb := by
            have waits : (run.state cycle).readyWb (run.inputs cycle) = false := readyWb
            rw [run.state_succ]
            simp [CoreState.step, CoreState.nextMemWb, MemStage.nextOperation, valid, waits]
          obtain ⟨enable, addr, access, data⟩ := held
          rw [readyWb, if_neg Bool.false_ne_true] at entered
          have count : run.countWb (cycle + 1) = run.countWb cycle := by
            rw [countWb, entered]
            rfl
          rw [committed_succ_of_waits ordered readyWb, count, enable, addr, access, data]
          exact carry.wb

theorem StagesCarry.mem_succ
    (ranks : run.executed start cycle =
      run.committed start cycle + run.countWb cycle + run.countMem cycle) :
    Hart.Carries (Hart.run memory first outside)
      (run.committed start (cycle + 1) + run.countWb (cycle + 1)) (run.countMem (cycle + 1))
      (run.state (cycle + 1)).exMem.rdWrEnMem (run.state (cycle + 1)).exMem.rdWrAddrMem
      (if (run.state (cycle + 1)).exMem.lsuEnMem then
        (outside (run.committed start (cycle + 1) + run.countWb (cycle + 1))).loaded
        else (run.state (cycle + 1)).exMem.rdWrDataMem) := by
  have noFlush : run.flushE cycle = false := CoreState.flushE_of_idle idle
  have enteredWb := inWb_succ run cycle
  have enteredMem := inMem_succ run cycle
  rw [validMem_eq_readyMem, noFlush, Bool.not_false, Bool.and_true] at enteredWb
  rw [noFlush, Bool.not_false, Bool.and_true] at enteredMem
  cases ready : run.readyMem cycle with
  | true =>
      have readyWb : run.readyWb cycle = true := CoreState.readyWb_of_readyMem ready
      have countWb : run.countWb (cycle + 1) = run.countMem cycle := by
        rw [countWb, enteredWb, ready]
        rfl
      rw [committed_succ_of_ready ordered readyWb, countWb, ← ranks]
      cases readyEx : run.readyEx cycle with
      | true =>
          have count : run.countMem (cycle + 1) = run.countEx cycle := by
            rw [countMem, enteredMem, readyEx]
            rfl
          obtain ⟨enable, addr, data⟩ :=
            @CoreState.exMem_step_of_leaves run.params (run.state cycle) (run.inputs cycle)
              readyEx noFlush
          have access : (run.state (cycle + 1)).exMem.lsuEnMem =
              (run.state cycle).idEx.lsuEnEx := by
            have isReady : (run.state cycle).readyMem (run.inputs cycle) = true := ready
            have isReadyEx : (run.state cycle).readyEx run.params (run.inputs cycle) = true :=
              readyEx
            have isIdle : (run.state cycle).flushE = false := noFlush
            rw [run.state_succ, CoreState.lsuEnMem_step, isReady, isReadyEx, isIdle]
            rfl
          rw [← run.state_succ] at enable addr data
          rw [count, enable, addr, data, access]
          exact carry.carries_ex supplied readyEx
      | false =>
          have bubble : (run.state (cycle + 1)).exMem.rdWrEnMem = false := by
            have isReady : (run.state cycle).readyMem (run.inputs cycle) = true := ready
            have notReady : (run.state cycle).readyEx run.params (run.inputs cycle) = false :=
              readyEx
            rw [run.state_succ, CoreState.rdWrEnMem_step, isReady, notReady]
            rfl
          rw [readyEx, if_neg Bool.false_ne_true, ready, if_pos rfl] at enteredMem
          rw [countMem, enteredMem]
          exact Hart.carries_zero bubble
  | false =>
      have notReady : (run.state cycle).readyMem (run.inputs cycle) = false := ready
      have readyEx : run.readyEx cycle = false := by
        cases readyEx : run.readyEx cycle with
        | false => rfl
        | true =>
            have isReady : run.readyMem cycle = true := CoreState.readyMem_of_readyEx readyEx
            rw [ready] at isReady
            cases isReady
      have behind : run.committed start (cycle + 1) + run.countWb (cycle + 1) =
          run.committed start cycle + run.countWb cycle := by
        rw [ready, if_neg Bool.false_ne_true] at enteredWb
        rw [countWb, enteredWb]
        cases readyWb : run.readyWb cycle with
        | true => rw [committed_succ_of_ready ordered readyWb, if_pos rfl]; rfl
        | false =>
            rw [committed_succ_of_waits ordered readyWb, if_neg Bool.false_ne_true]
            rfl
      have count : run.countMem (cycle + 1) = run.countMem cycle := by
        rw [countMem, enteredMem, readyEx, ready]
        rfl
      have held : (run.state (cycle + 1)).exMem.rdWrEnMem = (run.state cycle).exMem.rdWrEnMem ∧
          (run.state (cycle + 1)).exMem.rdWrAddrMem = (run.state cycle).exMem.rdWrAddrMem ∧
          (run.state (cycle + 1)).exMem.lsuEnMem = (run.state cycle).exMem.lsuEnMem ∧
          (run.state (cycle + 1)).exMem.rdWrDataMem = (run.state cycle).exMem.rdWrDataMem := by
        have operation := @CoreState.nextExMemOperation_of_notReady run.params _ _ notReady
        rw [run.state_succ]
        simp [CoreState.step, CoreState.nextExMem, operation]
      obtain ⟨enable, addr, access, data⟩ := held
      rw [behind, count, enable, addr, access, data]
      exact carry.mem

omit ordered idle in
/-- An available operand of an instruction that may enter EX is that of the hart in front of it. -/
theorem StagesCarry.rdData_of_available (zero : first.reg 0#5 = 0#32)
    (tracks : (run.state cycle).ScoreBoardTracks) (ready : run.readyEx cycle = true)
    (ranks : run.executed start cycle =
      run.committed start cycle + run.countWb cycle + run.countMem cycle)
    (rank : run.issued start cycle = run.executed start cycle + run.countEx cycle)
    {hart : Hart} (runs : Hart.run memory first outside (run.issued start cycle) = some hart)
    {reg : RegAddr} (available : ScoreBoard.rdValue (run.state cycle).rf true reg
      ((run.state cycle).forwards (run.inputs cycle)) = true) :
    ScoreBoard.rdData (run.state cycle).rf true reg
      ((run.state cycle).forwards (run.inputs cycle)) = hart.reg reg := by
  by_cases isZero : reg = 0#5
  · rw [isZero, Hart.reg_zero_of_run zero runs]
    exact CoreState.rdData_zero _ (run.zeroRegister cycle) true
  rw [rank] at runs
  obtain ⟨behindMem, runsMem⟩ := Hart.exists_run_of_le runs (Nat.le_add_right _ _)
  have inFront := runsMem
  rw [ranks] at inFront
  obtain ⟨behindWb, runsWb⟩ := Hart.exists_run_of_le inFront (Nat.le_add_right _ _)
  obtain ⟨behind, runsBehind⟩ := Hart.exists_run_of_le runsWb (Nat.le_add_right _ _)
  have readyWb : run.readyWb cycle = true :=
    CoreState.readyWb_of_readyMem (CoreState.readyMem_of_readyEx ready)
  have atEx := carry.carries_ex supplied ready behindMem hart runsMem runs
  have atMem := carry.mem behindWb behindMem runsWb inFront
  have atWb := carry.wb behind behindWb runsBehind runsWb
  have atRf := carry.registers behind runsBehind
  have source := @CoreState.operandFrom_rdData _ (run.inputs cycle) _ isZero
    (run.exAccessOnly cycle) (tracks reg isZero) available
  rw [atEx]
  cases source with
  | ex writes known same => rw [Hart.written_same writes.1 writes.2 isZero, known, same]; rfl
  | mem noEx writes known same =>
      rw [Hart.written_of_other noEx, atMem, Hart.written_same writes.1 writes.2 isZero, known,
        same]
      rfl
  | wb noEx noMem writes same =>
      rw [Hart.written_of_other noEx, atMem, Hart.written_of_other noMem, atWb,
        Hart.written_same writes.1 writes.2 isZero,
        carried_of_written supplied readyWb writes.1, same]
      rfl
  | rf noEx noMem noWb same =>
      rw [Hart.written_of_other noEx, atMem, Hart.written_of_other noMem, atWb,
        Hart.written_of_other noWb, ← atRf, same]

end Step

end CoreRun

end RiscvCore
