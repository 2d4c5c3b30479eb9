import RiscvCore.DirectMemory
import RiscvCore.WriteProgress

/-!
# In-order data semantics

What a program sees of issue, forwarding and write-back while no trap is taken: operands in
program order, stalls only for writers under way, and one write for each issued writer.
-/

namespace RiscvCore

open BusProtocol (Responsive)
open SynchronousRun (occurrences)

namespace CoreRun

/-- EX, MEM or WB holds an issued and unwritten writer of the register. -/
def HoldsWriter (run : CoreRun) (cycle : Nat) (reg : RegAddr) : Prop :=
  (run.state cycle).ExWrites reg ∨ (run.state cycle).MemWrites reg ∨
    (run.state cycle).WbWrites reg

/-- The operand of a read port is not available: its register is dirty and not bypassed. -/
def WaitsFor (run : CoreRun) (cycle : Nat) (rdEn : Bool) (reg : RegAddr) : Prop :=
  ScoreBoard.rdValue (run.state cycle).rf rdEn reg
    ((run.state cycle).forwards (run.inputs cycle)) = false

/-- Every issued instruction reads the values of the newest older writers, ID waits only for a
writer in EX, MEM or WB, and the writes are those of the issued writers: an issued writer that
is not written yet is in EX, MEM or WB, none is written twice, and each is written if the data
bus answers. -/
structure InOrderData (run : CoreRun) : Prop where
  rs1 : ∀ cycle, run.issues cycle = true → (run.state cycle).decoded.rs1RdEn = true →
    run.InOrderOperand cycle (run.state cycle).decoded.rs1RdAddr
      ((run.state cycle).rs1RdData (run.inputs cycle))
  rs2 : ∀ cycle, run.issues cycle = true → (run.state cycle).decoded.rs2RdEn = true →
    run.InOrderOperand cycle (run.state cycle).decoded.rs2RdAddr
      ((run.state cycle).rs2RdData (run.inputs cycle))
  waits : ∀ cycle rdEn reg, run.WaitsFor cycle rdEn reg → run.HoldsWriter cycle reg
  inFlight : ∀ cycle, occurrences run.issuesWriter 0 cycle =
    occurrences run.writes 0 cycle + (run.writers cycle).length
  sameReg : ∀ issue write, run.WriteOf issue write →
    issue < write ∧ run.writtenReg write = run.issuedReg issue
  onlyIssued : ∀ write, run.writes write = true → ∃! issue, run.WriteOf issue write
  atMostOnce : ∀ issue write other, run.WriteOf issue write → run.WriteOf issue other →
    write = other
  once : Responsive (fun _ _ => True) run.dataBus →
    ∀ issue, run.issuesWriter issue = true → ∃! write, run.WriteOf issue write

variable {run : CoreRun}

/-- An issued instruction finds EX ready and its operands available. -/
theorem available_of_issues {cycle : Nat} (issues : run.issues cycle = true) :
    (run.state cycle).readyEx run.params (run.inputs cycle) = true ∧
      (run.state cycle).readRfBusy (run.inputs cycle) = false := by
  rw [CoreRun.issues, CoreState.issues, Bool.and_eq_true, Bool.and_eq_true] at issues
  have ready := issues.1.2
  refine ⟨CoreState.readyEx_of_readyId ready, ?_⟩
  rw [CoreState.readyId, Bool.and_eq_true, Bool.and_eq_true, CoreState.stallId] at ready
  simpa using (Bool.or_eq_false_iff.mp (Bool.not_eq_true' _ ▸ ready.1.1)).1

theorem inOrder_rs1 (idle : run.StaysIdle) {cycle : Nat} (issues : run.issues cycle = true)
    (reads : (run.state cycle).decoded.rs1RdEn = true) :
    run.InOrderOperand cycle (run.state cycle).decoded.rs1RdAddr
      ((run.state cycle).rs1RdData (run.inputs cycle)) := by
  obtain ⟨ready, notBusy⟩ := available_of_issues issues
  rw [CoreState.readRfBusy, IdStage.readRfBusy, reads, Bool.or_eq_false_iff] at notBusy
  rw [CoreState.rs1RdData, reads]
  exact inOrderOperand idle ready (by simpa using notBusy.1)

theorem inOrder_rs2 (idle : run.StaysIdle) {cycle : Nat} (issues : run.issues cycle = true)
    (reads : (run.state cycle).decoded.rs2RdEn = true) :
    run.InOrderOperand cycle (run.state cycle).decoded.rs2RdAddr
      ((run.state cycle).rs2RdData (run.inputs cycle)) := by
  obtain ⟨ready, notBusy⟩ := available_of_issues issues
  rw [CoreState.readRfBusy, IdStage.readRfBusy, reads, Bool.or_eq_false_iff] at notBusy
  rw [CoreState.rs2RdData, reads]
  exact inOrderOperand idle ready (by simpa using notBusy.2)

/-- An unavailable operand is dirty, and a dirty register has a writer in the pipeline. -/
theorem holdsWriter_of_waitsFor (idle : run.StaysIdle) {cycle : Nat} {rdEn : Bool}
    {reg : RegAddr} (waits : run.WaitsFor cycle rdEn reg) : run.HoldsWriter cycle reg := by
  have dirty : (run.state cycle).rf.dirtyEn reg = true := by
    simp only [WaitsFor, ScoreBoard.rdValue, Bool.or_eq_false_iff, Bool.not_eq_false',
      ScoreBoard.rdRfDirty, Bool.and_eq_true] at waits
    exact waits.1.1.1.2
  have notZero : reg ≠ 0#5 := by
    rintro rfl
    rw [(run.zeroRegister cycle).2] at dirty
    cases dirty
  exact (CoreState.dirtyEn_iff (scoreBoardTracks idle cycle reg notZero)).mp dirty

theorem inOrderData_of_staysIdle (run : CoreRun) (idle : run.StaysIdle) : run.InOrderData where
  rs1 := fun _ => inOrder_rs1 idle
  rs2 := fun _ => inOrder_rs2 idle
  waits := fun _ _ _ => holdsWriter_of_waitsFor idle
  inFlight := fun cycle => by
    rw [← enters_eq, ← leaves_eq]
    exact (flow idle).entered_eq cycle
  sameReg := fun issue write writeOf => by
    have passes := passes_iff.mpr writeOf
    obtain ⟨tag, entering⟩ := entering_of_issuesWriter writeOf.issued
    obtain ⟨writtenTag, leaving⟩ := leaving_of_writes writeOf.written
    have sameKey := (flow idle).passes_key passes entering leaving
    exact ⟨(flow idle).enter_lt_leave passes, congrArg WriterTags.Writer.reg sameKey⟩
  onlyIssued := fun write written => by
    rw [← leaves_eq] at written
    obtain ⟨issue, passes⟩ := (flow idle).exists_enter written
    exact ⟨issue, passes_iff.mp passes,
      fun other writeOf => (passes_iff.mpr writeOf).enter_unique passes⟩
  atMostOnce := fun issue write other first second =>
    (passes_iff.mpr first).leave_unique (passes_iff.mpr second)
  once := fun responsive issue issued => by
    rw [← enters_eq] at issued
    obtain ⟨write, passes⟩ := (flow idle).exists_leave
      (fun cycle nonempty => by
        rw [leaves_eq]
        exact exists_write idle responsive nonempty)
      issued
    exact ⟨write, passes_iff.mp passes,
      fun other writeOf => (passes_iff.mpr writeOf).leave_unique passes⟩

/-- Two additions, the second of which reads the result of the first. -/
def dependentAdds : Surroundings where
  program := Surroundings.programOf [0x00500093#32, 0x00108133#32] -- addi x1, x0, 5; add x2, x1, x1
  rest := 8

theorem inOrderData_dependentAdds : dependentAdds.coreRun.InOrderData :=
  inOrderData_of_staysIdle dependentAdds.coreRun
    (dependentAdds.forall_cycle_of_settled 14 (by decide) (fun _ _ => rfl) (by decide +kernel)
      (fun st _ => st.fsm = .idle) (by decide +kernel))

end CoreRun

end RiscvCore
