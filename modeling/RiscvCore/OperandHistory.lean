import RiscvCore.OperandForwarding

/-!
# Operands along a run

Runs in which the controller stays idle.  The operand an issued instruction reads is the value
written by the newest older instruction that writes the register, whatever the bus does.
-/

namespace RiscvCore

open InOrderHistory (IsNewest completed history)
open SynchronousRun (occurrences)
open WriterTags (Writer)

namespace CoreRun

variable (run : CoreRun)

/-- No trap is taken. -/
def StaysIdle : Prop := ∀ cycle, (run.state cycle).fsm = .idle

/-- An instruction that writes a register is issued. -/
def issuesWriter (cycle : Nat) : Bool := run.issues cycle && (run.state cycle).decoded.rdWrEn

def issuedReg (cycle : Nat) : RegAddr := (run.state cycle).decoded.rdWrAddr

/-- The register file is written. -/
def writes (cycle : Nat) : Bool := ((run.state cycle).rfWr (run.inputs cycle)).en

def writtenReg (cycle : Nat) : RegAddr := ((run.state cycle).rfWr (run.inputs cycle)).addr

def writtenData (cycle : Nat) : Word := ((run.state cycle).rfWr (run.inputs cycle)).data

/-- The n-th write belongs to the n-th instruction issued that writes a register. -/
structure WriteOf (issue write : Nat) : Prop where
  issued : run.issuesWriter issue = true
  written : run.writes write = true
  sameRank : occurrences run.issuesWriter 0 issue = occurrences run.writes 0 write

/-- The most recently issued instruction before the cycle that writes the register. -/
structure NewestWriter (reg : RegAddr) (older cycle : Nat) : Prop where
  issued : run.issuesWriter older = true
  sameReg : run.issuedReg older = reg
  before : older < cycle
  newest : ∀ between, older < between → between < cycle →
    ¬ (run.issuesWriter between = true ∧ run.issuedReg between = reg)

/-- The operand read in a cycle is the value of the newest older writer, and zero for register 0
and for a register without a writer. -/
structure InOrderOperand (cycle : Nat) (reg : RegAddr) (data : Word) : Prop where
  zero : reg = 0#5 → data = 0#32
  unwritten : (∀ older, older < cycle →
    ¬ (run.issuesWriter older = true ∧ run.issuedReg older = reg)) → data = 0#32
  written : reg ≠ 0#5 → ∀ older, run.NewestWriter reg older cycle →
    ∀ write, run.WriteOf older write → data = run.writtenData write

variable {run}

/-- The writers issued and written. -/
def writerTrace (run : CoreRun) (cycle : Nat) :
    InOrderHistory.Cycle (Writer RegAddr tagWidth) Word :=
  (run.state cycle).writerCycle run.params (run.inputs cycle)

def writers (run : CoreRun) (cycle : Nat) : List WriterEntry := (run.state cycle).writers

theorem flow (idle : run.StaysIdle) : InOrderHistory.Flow run.writerTrace run.writers where
  start := rfl
  step := fun cycle => CoreState.writers_step run.params (run.inputs cycle) (idle cycle)

theorem entering_eq (run : CoreRun) (cycle : Nat) :
    (run.writerTrace cycle).entering =
      if ((run.state cycle).invalidPort run.params (run.inputs cycle)).en then
        some ⟨run.issuedReg cycle,
          (run.state cycle).rf.newTag
            ((run.state cycle).invalidPort run.params (run.inputs cycle))⟩
      else none := rfl

theorem leaving_eq (run : CoreRun) (cycle : Nat) :
    (run.writerTrace cycle).leaving =
      if run.writes cycle then
        some (⟨run.writtenReg cycle, ((run.state cycle).rfWr (run.inputs cycle)).tag⟩,
          run.writtenData cycle)
      else none := rfl

theorem enters_eq (run : CoreRun) : InOrderHistory.enters run.writerTrace = run.issuesWriter := by
  funext cycle
  have enters : InOrderHistory.enters run.writerTrace cycle =
      ((run.state cycle).invalidPort run.params (run.inputs cycle)).en := by
    rw [InOrderHistory.enters, entering_eq]
    split <;> simp [*]
  rw [enters, issuesWriter, issues, CoreState.issues, CoreState.invalidPort]
  cases writes : (run.state cycle).decoded.rdWrEn
  · simp
  · simp [instrValue_of_rdWrEn writes]

theorem leaves_eq (run : CoreRun) : InOrderHistory.leaves run.writerTrace = run.writes := by
  funext cycle
  rw [InOrderHistory.leaves, leaving_eq]
  cases run.writes cycle <;> rfl

theorem entering_of_issuesWriter {cycle : Nat} (issued : run.issuesWriter cycle = true) :
    ∃ tag, (run.writerTrace cycle).entering = some ⟨run.issuedReg cycle, tag⟩ := by
  rw [← enters_eq, InOrderHistory.enters, entering_eq] at issued
  rw [entering_eq]
  split at issued
  · exact ⟨_, if_pos ‹_›⟩
  · cases issued

theorem issuesWriter_of_entering {cycle : Nat} {writer : Writer RegAddr tagWidth}
    (entering : (run.writerTrace cycle).entering = some writer) :
    run.issuesWriter cycle = true ∧ run.issuedReg cycle = writer.reg := by
  have issued : run.issuesWriter cycle = true := by
    rw [← enters_eq, InOrderHistory.enters, entering]
    rfl
  obtain ⟨tag, same⟩ := entering_of_issuesWriter issued
  rw [entering, Option.some.injEq] at same
  exact ⟨issued, by rw [same]⟩

theorem leaving_of_writes {cycle : Nat} (written : run.writes cycle = true) :
    ∃ tag, (run.writerTrace cycle).leaving =
      some (⟨run.writtenReg cycle, tag⟩, run.writtenData cycle) := by
  rw [leaving_eq, if_pos written]
  exact ⟨_, rfl⟩

theorem passes_iff {issue write : Nat} :
    InOrderHistory.Passes run.writerTrace issue write ↔ run.WriteOf issue write := by
  constructor
  · intro passes
    have sameRank := passes.sameRank
    rw [enters_eq, leaves_eq] at sameRank
    exact ⟨enters_eq run ▸ passes.enters, leaves_eq run ▸ passes.leaves, sameRank⟩
  · intro writeOf
    have sameRank := writeOf.sameRank
    rw [← enters_eq, ← leaves_eq] at sameRank
    exact ⟨enters_eq run ▸ writeOf.issued, leaves_eq run ▸ writeOf.written, sameRank⟩

theorem scoreBoardTracks (idle : run.StaysIdle) (cycle : Nat) :
    (run.state cycle).ScoreBoardTracks := by
  induction cycle with
  | zero => exact CoreState.scoreBoardTracks_reset run.bootAddr
  | succ cycle induction => exact CoreState.scoreBoardTracks_step (idle cycle) induction

theorem exAccessOnly (run : CoreRun) (cycle : Nat) : (run.state cycle).ExAccessOnly :=
  run.invariant CoreState.ExAccessOnly (fun access => by cases access)
    (fun _ _ => CoreState.exAccessOnly_step) cycle

theorem zeroRegister (run : CoreRun) (cycle : Nat) : (run.state cycle).ZeroRegister :=
  run.invariant CoreState.ZeroRegister ⟨rfl, rfl⟩ (fun _ _ _ => CoreState.zeroRegister_step) cycle

/-- The register file holds the value written last. -/
theorem mem_eq_latest (run : CoreRun) {reg : RegAddr} (notZero : reg ≠ 0#5) (cycle : Nat) :
    (run.state cycle).rf.mem reg =
      InOrderHistory.latest (·.reg = reg) 0#32 (completed run.writerTrace cycle) := by
  induction cycle with
  | zero => rfl
  | succ cycle induction =>
      have next : (run.state (cycle + 1)).rf.mem reg =
          if run.writes cycle && run.writtenReg cycle == reg then run.writtenData cycle
          else (run.state cycle).rf.mem reg := by
        change (if reg = 0#5 then _ else _) = _
        rw [if_neg notZero]
        rfl
      rw [next, completed, InOrderHistory.Cycle.left]
      cases written : run.writes cycle with
      | false =>
          have nothing : (run.writerTrace cycle).leaving = none := by
            rw [leaving_eq, if_neg (Bool.eq_false_iff.mp written)]
          rw [nothing, Option.map_none, Option.toList_none, List.append_nil, induction]
          rfl
      | true =>
          obtain ⟨tag, leaving⟩ := leaving_of_writes written
          rw [leaving, Option.map_some, Option.toList_some, InOrderHistory.latest_concat, induction]
          simp

/-- When an instruction is issued, the newest writer of an operand is written with the value it
reads, or carries that value from then on. -/
theorem operand_known (idle : run.StaysIdle) {cycle : Nat}
    (ready : (run.state cycle).readyEx run.params (run.inputs cycle) = true) {reg : RegAddr}
    (notZero : reg ≠ 0#5) {data : Word}
    (source : (run.state cycle).OperandFrom (run.inputs cycle) reg data) {index : Nat}
    (newest : IsNewest (·.reg = reg) (history run.writerTrace run.writers cycle) index) :
    ∃ entry, (history run.writerTrace run.writers (cycle + 1))[index]? = some entry ∧
      entry.result = some data := by
  have isIdle := idle cycle
  have readyMem := CoreState.readyMem_of_readyEx ready
  have readyWb := CoreState.readyWb_of_readyMem readyMem
  let st := run.state cycle
  let port := run.inputs cycle
  let before := completed run.writerTrace cycle
  let left := (run.writerTrace cycle).left
  have now : history run.writerTrace run.writers cycle =
      before ++ st.memWb.writer ++ st.exMem.writer ++ st.idEx.writer := by
    simp [history, writers, CoreState.writers, before, st]
  have next : history run.writerTrace run.writers (cycle + 1) =
      before ++ left ++ st.exMem.writer ++ (st.nextExMem run.params port).writer ++
        (st.nextIdEx run.params port).writer := by
    have intoWb : (st.nextMemWb port).writer = st.exMem.writer :=
      CoreState.nextMemWb_of_readyMem isIdle readyMem
    have inside : run.writers (cycle + 1) = (st.nextMemWb port).writer ++
        (st.nextExMem run.params port).writer ++ (st.nextIdEx run.params port).writer := rfl
    rw [history, completed, inside, intoWb]
    simp only [before, left, List.append_assoc]
  have sameLength : left.length = st.memWb.writer.length :=
    (CoreState.left_of_readyWb isIdle readyWb).length_eq.symm
  have noneEx (noEx : ¬ st.ExWrites reg) : ∀ entry ∈ st.idEx.writer, ¬ entry.key.reg = reg := by
    intro entry inside same
    exact noEx (CoreState.writersOf_ex.mp (WriterTags.writersOf_pos.mpr
      ⟨entry.key, List.mem_map_of_mem inside, same⟩))
  have noneMem (noMem : ¬ st.MemWrites reg) : ∀ entry ∈ st.exMem.writer, ¬ entry.key.reg = reg := by
    intro entry inside same
    exact noMem (CoreState.writersOf_mem.mp (WriterTags.writersOf_pos.mpr
      ⟨entry.key, List.mem_map_of_mem inside, same⟩))
  have noneWb (noWb : ¬ st.WbWrites reg) : ∀ entry ∈ st.memWb.writer, ¬ entry.key.reg = reg := by
    intro entry inside same
    exact noWb (CoreState.writersOf_wb.mp (WriterTags.writersOf_pos.mpr
      ⟨entry.key, List.mem_map_of_mem inside, same⟩))
  rw [now] at newest
  rw [next]
  cases source with
  | ex writes known same =>
      have intoMem : (st.nextExMem run.params port).writer = _ :=
        CoreState.nextExMem_of_readyEx isIdle ready
      rw [if_pos writes.1, known] at intoMem
      rw [IdEx.writer, if_pos writes.1] at newest
      have place := newest.eq_last writes.2
      rw [intoMem, List.append_assoc, List.singleton_append]
      refine ⟨_, InOrderHistory.getElem?_middle _ _ _ ?_, ?_⟩
      · simp only [place, List.length_append, sameLength]
      · rw [same]
        rfl
  | mem noEx writes known same =>
      have older := newest.init (noneEx noEx)
      rw [ExMem.writer, if_pos writes.1] at older
      have place := older.eq_last writes.2
      rw [ExMem.writer, if_pos writes.1, List.append_assoc, List.append_assoc,
        List.singleton_append]
      refine ⟨_, InOrderHistory.getElem?_middle _ _ _ ?_, ?_⟩
      · simp only [place, List.length_append, sameLength]
      · rw [same]
        exact if_neg (by rw [known]; exact Bool.false_ne_true)
  | wb noEx noMem writes same =>
      have older := (newest.init (noneEx noEx)).init (noneMem noMem)
      rw [MemWb.writer, if_pos writes.1] at older
      have place := older.eq_last writes.2
      have isLeft : left = _ := CoreState.left_of_written isIdle readyWb writes.1
      rw [isLeft, List.append_assoc, List.append_assoc, List.append_assoc, List.singleton_append]
      exact ⟨_, InOrderHistory.getElem?_middle _ _ _ place, by rw [same]⟩
  | rf noEx noMem noWb same =>
      have older := ((newest.init (noneEx noEx)).init (noneMem noMem)).init (noneWb noWb)
      obtain ⟨entry, isEntry, result⟩ :=
        older.latest 0#32 (InOrderHistory.known_completed run.writerTrace cycle)
      refine ⟨entry, ?_, ?_⟩
      · simp only [List.append_assoc]
        rw [List.getElem?_append_left (List.getElem?_eq_some_iff.mp isEntry).1, isEntry]
      · rw [result, same, mem_eq_latest run notZero]

/-- A register without an earlier writer has none in the pipeline and still holds zero. -/
theorem operand_unwritten (idle : run.StaysIdle) {cycle : Nat} {reg : RegAddr}
    (notZero : reg ≠ 0#5) {data : Word}
    (source : (run.state cycle).OperandFrom (run.inputs cycle) reg data)
    (none : ∀ older, older < cycle →
      ¬ (run.issuesWriter older = true ∧ run.issuedReg older = reg)) : data = 0#32 := by
  have unwanted : ∀ entry ∈ history run.writerTrace run.writers cycle, ¬ entry.key.reg = reg :=
    (flow idle).unwanted fun older writer before entering same => by
      obtain ⟨issued, sameReg⟩ := issuesWriter_of_entering entering
      exact none older before ⟨issued, sameReg.trans same⟩
  have tracks := scoreBoardTracks idle cycle reg notZero
  have notWritten : ¬ ((run.state cycle).ExWrites reg ∨ (run.state cycle).MemWrites reg ∨
      (run.state cycle).WbWrites reg) := by
    rw [← CoreState.dirtyEn_iff tracks, tracks.dirty, decide_eq_true_iff,
      WriterTags.writersOf_pos]
    rintro ⟨writer, inside, same⟩
    obtain ⟨entry, isInside, rfl⟩ := List.mem_map.mp inside
    exact unwanted entry (List.mem_append_right _ isInside) same
  cases source with
  | ex writes known same => exact absurd (Or.inl writes) notWritten
  | mem noEx writes known same => exact absurd (Or.inr (Or.inl writes)) notWritten
  | wb noEx noMem writes same => exact absurd (Or.inr (Or.inr writes)) notWritten
  | rf noEx noMem noWb same =>
      rw [same, mem_eq_latest run notZero]
      exact InOrderHistory.latest_of_unwanted 0#32 fun entry inside =>
        unwanted entry (List.mem_append_left _ inside)

/-- Every operand of an issued instruction is in order. -/
theorem inOrderOperand (idle : run.StaysIdle) {cycle : Nat}
    (ready : (run.state cycle).readyEx run.params (run.inputs cycle) = true) {reg : RegAddr}
    (available : ScoreBoard.rdValue (run.state cycle).rf true reg
      ((run.state cycle).forwards (run.inputs cycle)) = true) :
    run.InOrderOperand cycle reg (ScoreBoard.rdData (run.state cycle).rf true reg
      ((run.state cycle).forwards (run.inputs cycle))) := by
  by_cases isZero : reg = 0#5
  · have zero := CoreState.rdData_zero (run.inputs cycle) (run.zeroRegister cycle) true
    rw [isZero]
    exact ⟨fun _ => zero, fun _ => zero, fun notZero => absurd rfl notZero⟩
  · have source := CoreState.operandFrom_rdData isZero (run.exAccessOnly cycle)
      (scoreBoardTracks idle cycle reg isZero) available
    refine ⟨fun zero => absurd zero isZero, fun none => ?_, fun _ older newest write writeOf => ?_⟩
    · exact operand_unwritten idle isZero source none
    · obtain ⟨tag, entering⟩ := entering_of_issuesWriter newest.issued
      have place : IsNewest (·.reg = reg) (history run.writerTrace run.writers cycle) _ :=
        (flow idle).isNewest entering newest.sameReg newest.before
          fun between writer after before isEntering same => by
            obtain ⟨issued, sameReg⟩ := issuesWriter_of_entering isEntering
            exact newest.newest between after before ⟨issued, sameReg.trans same⟩
      obtain ⟨entry, isEntry, known⟩ := operand_known idle ready isZero source place
      obtain ⟨writtenTag, leaving⟩ := leaving_of_writes writeOf.written
      exact ((flow idle).passes_result (passes_iff.mpr writeOf) leaving isEntry known).symm

end CoreRun

end RiscvCore
