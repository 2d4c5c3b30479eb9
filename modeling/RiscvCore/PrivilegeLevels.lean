import RiscvCore.DirectMemory
import RiscvCore.TrapSteps

/-!
# The implemented privilege levels

`privilege_mode` has transitions out of M and U only, and takes its value from `mstatus.mpp`, which
a CSR instruction can set to any encoding.  The levels stay within M and U exactly as long as no
CSR instruction writes another one, and a recorded trap leads to M exactly as long as no `mret` is
applied in the same cycle.
-/

namespace RiscvCore

/-- The two implemented levels. -/
def Privilege.Implemented (level : Privilege) : Prop := level = privLvlM ∨ level = privLvlU

instance (level : Privilege) : Decidable (Privilege.Implemented level) :=
  inferInstanceAs (Decidable (_ ∨ _))

namespace Csr

open Privilege (Implemented)

variable {csr : Csr} {port : Input}

/-- The CSR instruction in EX, if it addresses `mstatus`, leaves an implemented level in `mpp`. -/
def WritesImplemented (csr : Csr) (access : Access) : Prop :=
  enable access mstarus = true →
    Implemented (applyOp access.csrOp csr.mstatusQ.mpp (access.csrWdata.extractLsb' 11 2))

instance (csr : Csr) (access : Access) : Decidable (csr.WritesImplemented access) :=
  inferInstanceAs (Decidable (_ → _))

/-- `mpp` after an edge: written by the CSR instruction, or an implemented level. -/
theorem mpp_next (privilege : Implemented csr.privilegeModeQ)
    (mpp : Implemented csr.mstatusQ.mpp) :
    Implemented (csr.next port).mstatusQ.mpp ↔ csr.WritesImplemented port.access := by
  change Implemented (csr.mstatusN port).mpp ↔ _
  rw [WritesImplemented, mstatusN]
  cases enabled : enable port.access mstarus with
  | true => simp
  | false =>
      cases port.mcauseUpdate with
      | true => simpa using privilege
      | false =>
          cases port.isMret with
          | true => simp [Implemented]
          | false => simpa using mpp

theorem privilege_next (privilege : Implemented csr.privilegeModeQ)
    (mpp : Implemented csr.mstatusQ.mpp) : Implemented (csr.next port).privilegeModeQ := by
  change Implemented (csr.privilegeModeN port)
  rw [privilegeModeN]
  rcases privilege with machine | user
  · rw [if_pos machine]
    split
    · exact mpp
    · exact .inl machine
  · have notMachine : ¬ privLvlU = privLvlM := by decide
    rw [user, if_neg notMachine, if_pos rfl]
    split
    · exact .inl rfl
    · exact .inr rfl

/-- A recorded trap leads to M mode unless an `mret` leads elsewhere. -/
theorem machine_next_iff (privilege : Implemented csr.privilegeModeQ)
    (records : port.mcauseUpdate = true) :
    (csr.next port).privilegeModeQ = privLvlM ↔
      (port.isMret = true → csr.privilegeModeQ = privLvlM → csr.mstatusQ.mpp = privLvlM) := by
  change csr.privilegeModeN port = privLvlM ↔ _
  rw [privilegeModeN, records]
  rcases privilege with machine | user
  · cases port.isMret <;> simp [machine]
  · have notMachine : ¬ privLvlU = privLvlM := by decide
    simp [user, notMachine]

end Csr

namespace CoreRun

variable (run : CoreRun)

/-- Privilege and `mpp` are M or U in every cycle, and every recorded trap leads to M mode. -/
structure LevelsImplemented : Prop where
  privilege : ∀ cycle, Privilege.Implemented (run.state cycle).csr.privilegeModeQ
  mpp : ∀ cycle, Privilege.Implemented (run.state cycle).csr.mstatusQ.mpp
  trap : ∀ cycle, (run.state cycle).mcauseUpdate run.params (run.inputs cycle) = true →
    (run.state (cycle + 1)).csr.privilegeModeQ = privLvlM

/-- No CSR instruction leaves another level in `mpp`, and no trap is recorded while an `mret` in
ID takes M mode to another level. -/
structure LevelsGuarded : Prop where
  written : ∀ cycle, (run.state cycle).csr.WritesImplemented (run.state cycle).csrAccess
  noReturn : ∀ cycle, (run.state cycle).mcauseUpdate run.params (run.inputs cycle) = true →
    (run.state cycle).isMret run.params (run.inputs cycle) = true →
      (run.state cycle).csr.privilegeModeQ = privLvlM →
        (run.state cycle).csr.mstatusQ.mpp = privLvlM

variable {run}

theorem implemented_of_written
    (written : ∀ cycle, (run.state cycle).csr.WritesImplemented (run.state cycle).csrAccess)
    (cycle : Nat) :
    Privilege.Implemented (run.state cycle).csr.privilegeModeQ ∧
      Privilege.Implemented (run.state cycle).csr.mstatusQ.mpp := by
  induction cycle with
  | zero => exact ⟨.inl rfl, .inr rfl⟩
  | succ cycle induction =>
      obtain ⟨privilege, mpp⟩ := induction
      exact ⟨Csr.privilege_next privilege mpp,
        (Csr.mpp_next privilege mpp).mpr (written cycle)⟩

/-- A run keeps to the implemented levels exactly when each of its steps is guarded. -/
theorem levelsImplemented_iff_levelsGuarded (run : CoreRun) :
    run.LevelsImplemented ↔ run.LevelsGuarded := by
  constructor
  · intro levels
    refine ⟨fun cycle => ?_, fun cycle records => ?_⟩
    · exact (Csr.mpp_next (levels.privilege cycle) (levels.mpp cycle)).mp (levels.mpp (cycle + 1))
    · exact (Csr.machine_next_iff (levels.privilege cycle) records).mp (levels.trap cycle records)
  · intro guarded
    have implemented := implemented_of_written guarded.written
    refine ⟨fun cycle => (implemented cycle).1, fun cycle => (implemented cycle).2,
      fun cycle records => ?_⟩
    exact (Csr.machine_next_iff (implemented cycle).1 records).mpr (guarded.noReturn cycle records)

/-- Machine code that sets `mpp` to the encoding of S mode. -/
def writesSupervisor : Surroundings where
  program := Surroundings.programOf
    [ 0x000010B7#32,  -- lui x1, 1
      0x80008093#32,  -- addi x1, x1, -2048
      0x30009073#32 ] -- csrrw x0, mstatus, x1

theorem levelsImplemented_fails :
    ¬ ∀ (run : CoreRun) (program : Word → Word × Bool), run.params = defaultParams →
      run.WellConnected program → run.LevelsImplemented := by
  intro levels
  have implemented := (levels writesSupervisor.coreRun _ rfl writesSupervisor.wellConnected).mpp 7
  rw [Surroundings.state_coreRun] at implemented
  revert implemented
  decide +kernel

end CoreRun

end RiscvCore
