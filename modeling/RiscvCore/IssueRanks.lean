import RiscvCore.DataRequests
import RiscvCore.ExecutedInstructions
import RiscvCore.OperandHistory
import RiscvCore.RetireTrace

/-!
# Instructions in the order of issue

From an empty pipeline on, the instructions are counted where they enter and leave the stages.
While no trap is taken, those that have issued and not yet left WB are the ones in EX, MEM and WB,
in this order.
-/

namespace RiscvCore

open SynchronousRun (collected occurrences)

namespace CoreRun

variable (run : CoreRun)

/-- No trap flush in the given cycles. -/
def IdleFrom (start last : Nat) : Prop :=
  ∀ cycle, start ≤ cycle → cycle ≤ last → (run.state cycle).fsm = .idle

/-- An instruction leaves EX, or WB. -/
def leavesEx (cycle : Nat) : Bool := (run.inEx cycle).isSome && run.readyEx cycle

def leavesWb (cycle : Nat) : Bool := (run.inWb cycle).isSome && run.readyWb cycle

/-- How many instructions have issued since the start. -/
def issued (start cycle : Nat) : Nat := occurrences run.issues start cycle

def executed (start cycle : Nat) : Nat := occurrences run.leavesEx start cycle

def committed (start cycle : Nat) : Nat := occurrences run.leavesWb start cycle

def countEx (cycle : Nat) : Nat := (run.inEx cycle).isSome.toNat

def countMem (cycle : Nat) : Nat := (run.inMem cycle).isSome.toNat

def countWb (cycle : Nat) : Nat := (run.inWb cycle).isSome.toNat

variable {run} {start cycle : Nat}

theorem issued_succ (ordered : start ≤ cycle) :
    run.issued start (cycle + 1) = run.issued start cycle + (run.issues cycle).toNat :=
  SynchronousRun.occurrences_succ run.issues ordered

theorem readyEx_of_issues (issues : run.issues cycle = true) : run.readyEx cycle = true :=
  CoreState.readyEx_of_issues issues

/-- The next instruction to leave EX is the one in EX, or has yet to issue. -/
theorem issued_eq (empty : run.inEx start = none) (ordered : start ≤ cycle) :
    run.issued start cycle = run.executed start cycle + run.countEx cycle := by
  induction ordered with
  | refl =>
      rw [issued, executed, SynchronousRun.occurrences_self, SynchronousRun.occurrences_self,
        countEx, empty]
      rfl
  | @step cycle ordered induction =>
      rw [Nat.succ_eq_add_one, issued_succ ordered, induction, executed, executed,
        SynchronousRun.occurrences_succ _ ordered, countEx, countEx, inEx_succ, leavesEx]
      cases issues : run.issues cycle with
      | true =>
          rw [readyEx_of_issues issues, if_pos rfl]
          cases run.inEx cycle <;> rfl
      | false =>
          cases run.readyEx cycle <;> cases run.inEx cycle <;> rfl

/-- Between EX and the end are the instructions in MEM and WB. -/
theorem executed_eq {last : Nat} (idle : run.IdleFrom start last)
    (emptyMem : run.inMem start = none) (emptyWb : run.inWb start = none)
    (ordered : start ≤ cycle) (inside : cycle ≤ last + 1) :
    run.executed start cycle =
      run.committed start cycle + run.countWb cycle + run.countMem cycle := by
  induction ordered with
  | refl =>
      rw [executed, committed, SynchronousRun.occurrences_self, SynchronousRun.occurrences_self,
        countWb, countMem, emptyMem, emptyWb]
      rfl
  | @step cycle ordered induction =>
      have noFlush : run.flushE cycle = false :=
        CoreState.flushE_of_idle (idle cycle ordered (by omega))
      have readyMem : run.readyEx cycle = true → run.readyMem cycle = true :=
        CoreState.readyMem_of_readyEx
      have readyWb : run.readyMem cycle = true → run.readyWb cycle = true :=
        CoreState.readyWb_of_readyMem
      have before := induction (by omega)
      rw [Nat.succ_eq_add_one, executed, SynchronousRun.occurrences_succ _ ordered, ← executed,
        before, committed,
        committed, SynchronousRun.occurrences_succ _ ordered, countWb, countWb, countMem, countMem,
        inMem_succ, inWb_succ, validMem_eq_readyMem, noFlush, leavesEx, leavesWb]
      cases ex : run.readyEx cycle with
      | true =>
          rw [readyMem ex, readyWb (readyMem ex)]
          cases run.inEx cycle <;> cases run.inMem cycle <;> cases run.inWb cycle <;> simp
      | false =>
          cases mem : run.readyMem cycle with
          | true =>
              rw [readyWb mem]
              cases run.inMem cycle <;> cases run.inWb cycle <;> simp
          | false =>
              cases run.readyWb cycle <;> cases run.inMem cycle <;> cases run.inWb cycle <;> simp

end CoreRun

end RiscvCore
