import RiscvCore.DirectMemory

/-!
# Isolation of user mode from the machine-mode registers

What a cycle in U mode can do to the machine-mode CSRs.  The PMP registers are safe whatever the
cycle does.  The write enables of all other registers ignore the privilege, `mret` has a path of
its own into `mstatus`, and a recorded `wfi` writes `mepc`; a run keeps the registers in U mode
as long as none of these paths is used.
-/

namespace RiscvCore

namespace Csr

variable (csr : Csr) (port : Input)

/-- The machine-mode registers that isolation is about. -/
structure MachineCsrs where
  mstatus : StatusRv
  mie : Word
  mtvec : Word
  mepc : Word
  mcause : Word
  mcounteren : Word
  mcountinhibit : Word
  pmpcfg : Fin pmpEntry → BitVec 8
  pmpaddr : Fin pmpEntry → Word

def machineCsrs : MachineCsrs where
  mstatus := csr.mstatusQ
  mie := csr.mieQ
  mtvec := csr.mtvecQ
  mepc := csr.mepcQ
  mcause := csr.mcauseQ
  mcounteren := csr.mcounterenQ
  mcountinhibit := csr.mcountinhitQ
  pmpcfg := csr.pmpcfgQ
  pmpaddr := csr.pmpaddrQ

@[simp]
theorem mtvec_machineCsrs : csr.machineCsrs.mtvec = csr.mtvecQ := rfl

theorem isM_of_user (user : csr.privilegeModeQ = privLvlU) : csr.isM = false := by
  rw [isM, user]
  decide

theorem pmpcfgN_of_user (user : csr.privilegeModeQ = privLvlU) (access : Access) :
    csr.pmpcfgN access = csr.pmpcfgQ := by
  funext entry
  simp [pmpcfgN, pmpcfgEnteryEn, pmpcfgEn, csr.isM_of_user user]

theorem pmpaddrN_of_user (user : csr.privilegeModeQ = privLvlU) (access : Access) :
    csr.pmpaddrN access = csr.pmpaddrQ := by
  funext entry
  simp [pmpaddrN, pmpaddrEnteryEn, pmpaddrEn, csr.isM_of_user user]

/-- The addresses whose enable reaches a machine-mode register or `mcycle`. -/
def writableAddrs : List CsrAddr :=
  [mstarus, mie, mtvec, mepc, mcause, mcountinhibit, mcycle]

/-- The CSR instruction in EX, if there is one, only reads these registers. -/
def ReadsOnly (access : Access) : Prop :=
  access.csrEn = true → access.csrAddr ∈ writableAddrs → access.csrOp = .read

instance (access : Access) : Decidable (ReadsOnly access) :=
  inferInstanceAs (Decidable (_ → _ → _))

theorem ReadsOnly.op_eq_read {access : Access} (readsOnly : ReadsOnly access) {addr : CsrAddr}
    (writable : addr ∈ writableAddrs) (enabled : enable access addr = true) :
    access.csrOp = .read := by
  rw [enable, Bool.and_eq_true, beq_iff_eq] at enabled
  exact readsOnly enabled.1 (enabled.2 ▸ writable)

/-- `mret` leaves a status register unchanged that it has already been applied to twice. -/
def ReturnedStatus (status : StatusRv) : Prop :=
  status.mpp = privLvlU ∧ status.mpie = true ∧ status.mie = true

instance (status : StatusRv) : Decidable (ReturnedStatus status) :=
  inferInstanceAs (Decidable (_ ∧ _))

variable {csr port}

theorem mstatusN_eq (readsOnly : ReadsOnly port.access) (noTrap : port.mcauseUpdate = false)
    (noReturn : port.isMret = true → ReturnedStatus csr.mstatusQ) :
    csr.mstatusN port = csr.mstatusQ := by
  rw [mstatusN]
  by_cases enabled : enable port.access mstarus = true
  · have read := readsOnly.op_eq_read (by decide) enabled
    simp [enabled, read, applyOp, applyOpBit]
  · by_cases returns : port.isMret = true
    · obtain ⟨mpp, mpie, mie⟩ := noReturn returns
      rcases status : csr.mstatusQ with ⟨oldMpp, oldMpie, oldMie⟩
      simp_all
    · simp [enabled, noTrap, returns]

theorem mcauseN_eq (readsOnly : ReadsOnly port.access) (noTrap : port.mcauseUpdate = false) :
    csr.mcauseN port = csr.mcauseQ := by
  rw [mcauseN]
  by_cases enabled : enable port.access mcause = true
  · simp [enabled, readsOnly.op_eq_read (by decide) enabled, applyOp]
  · simp [enabled, noTrap]

theorem mieN_eq (readsOnly : ReadsOnly port.access) : csr.mieN port = csr.mieQ := by
  rw [mieN]
  by_cases enabled : enable port.access RiscvCore.mie = true
  · simp only [enabled, readsOnly.op_eq_read (by decide) enabled, applyOp, if_true]
    rw [← BitVec.and_or_distrib_left, BitVec.or_comm, BitVec.or_not_self, BitVec.and_allOnes]
  · simp [enabled]

theorem mtvecN_eq (readsOnly : ReadsOnly port.access) : csr.mtvecN port = csr.mtvecQ := by
  rw [mtvecN]
  by_cases enabled : enable port.access mtvec = true
  · simp [enabled, readsOnly.op_eq_read (by decide) enabled, applyOp]
  · simp [enabled]

theorem mepcN_eq (readsOnly : ReadsOnly port.access) (noUpdate : port.mepcUpdata = false) :
    csr.mepcN port = csr.mepcQ := by
  rw [mepcN]
  by_cases enabled : enable port.access mepc = true
  · simp [enabled, readsOnly.op_eq_read (by decide) enabled]
  · simp [enabled, noUpdate]

theorem mcounterenN_eq (readsOnly : ReadsOnly port.access) :
    csr.mcounterenN port.access = csr.mcounterenQ := by
  rw [mcounterenN]
  by_cases enabled : enable port.access mepc = true
  · simp [enabled, readsOnly.op_eq_read (by decide) enabled, applyOp]
  · simp [enabled]

theorem mcountinhitN_eq (readsOnly : ReadsOnly port.access) :
    csr.mcountinhitN port.access = csr.mcountinhitQ := by
  rw [mcountinhitN]
  by_cases enabled : enable port.access mcountinhibit = true
  · simp [enabled, readsOnly.op_eq_read (by decide) enabled, applyOp]
  · simp [enabled]

theorem mcycleN_eq {access : Access} (readsOnly : ReadsOnly access) :
    csr.mcycleN access = csr.mcycleCount := by
  rw [mcycleN]
  by_cases enabled : enable access mcycle = true
  · simp [enabled, readsOnly.op_eq_read (by decide) enabled]
  · simp [enabled]

/-- One edge in U mode without a trap, a return or a write keeps every machine-mode register. -/
theorem machineCsrs_next (user : csr.privilegeModeQ = privLvlU)
    (readsOnly : ReadsOnly port.access) (noTrap : port.mcauseUpdate = false)
    (noUpdate : port.mepcUpdata = false)
    (noReturn : port.isMret = true → ReturnedStatus csr.mstatusQ) :
    (csr.next port).machineCsrs = csr.machineCsrs := by
  simp only [machineCsrs, next, mstatusN_eq readsOnly noTrap noReturn,
    mcauseN_eq readsOnly noTrap, mieN_eq readsOnly, mtvecN_eq readsOnly,
    mepcN_eq readsOnly noUpdate, mcounterenN_eq readsOnly, mcountinhitN_eq readsOnly,
    csr.pmpcfgN_of_user user, csr.pmpaddrN_of_user user]

end Csr

namespace Controller

/-- Without an update of `mcause`, only a recorded `wfi` updates `mepc`. -/
theorem mepcUpdata_of_noCause {fsm : ControlFsm} {port : Input}
    (noCause : (trapUpdate fsm port).mcauseUpdate = false)
    (noSleep : ¬ (port.excTaken = true ∧ port.isWfi = true)) :
    (trapUpdate fsm port).mepcUpdata = false := by
  by_cases taken : port.excTaken = true
  · have noWfi : port.isWfi = false := by simpa [taken] using noSleep
    revert noCause
    simp only [trapUpdate, taken, noWfi, if_true, Bool.false_eq_true, if_false]
    repeat' split
    all_goals simp [recorded, noUpdate]
  · simp only [trapUpdate, taken, Bool.false_eq_true, if_false]
    split <;> rfl

end Controller

namespace CoreState

/-- A cycle of U mode that uses none of the unguarded paths: the CSR instruction in EX is a read
or addresses none of the writable registers, `mret` is not in ID with EX ready unless it changes
nothing any more, and no `wfi` in ID has its trap recorded. -/
structure UserCycleGuarded (params : Params) (st : CoreState) (port : CoreInput) : Prop where
  readsOnly : Csr.ReadsOnly st.csrAccess
  noReturn : st.isMret params port = true → Csr.ReturnedStatus st.csr.mstatusQ
  noSleep : ¬ (st.excTaken port = true ∧ st.isWfi params port = true)

instance (params : Params) (st : CoreState) (port : CoreInput) :
    Decidable (st.UserCycleGuarded params port) :=
  decidable_of_iff
    (Csr.ReadsOnly st.csrAccess ∧
      (st.isMret params port = true → Csr.ReturnedStatus st.csr.mstatusQ) ∧
        ¬ (st.excTaken port = true ∧ st.isWfi params port = true))
    ⟨fun ⟨readsOnly, noReturn, noSleep⟩ => ⟨readsOnly, noReturn, noSleep⟩,
      fun guarded => ⟨guarded.readsOnly, guarded.noReturn, guarded.noSleep⟩⟩

/-- One guarded cycle in U mode in which no trap is recorded. -/
theorem machineCsrs_step {params : Params} {st : CoreState} {port : CoreInput}
    (user : st.csr.privilegeModeQ = privLvlU) (noTrap : st.mcauseUpdate params port = false)
    (guarded : st.UserCycleGuarded params port) :
    (st.step params port).csr.machineCsrs = st.csr.machineCsrs :=
  Csr.machineCsrs_next user guarded.readsOnly noTrap
    (Controller.mepcUpdata_of_noCause noTrap guarded.noSleep) guarded.noReturn

theorem mcycleQ_step {params : Params} {st : CoreState} {port : CoreInput}
    (guarded : st.UserCycleGuarded params port) :
    (st.step params port).csr.mcycleQ = st.csr.mcycleCount :=
  Csr.mcycleN_eq guarded.readsOnly

end CoreState

namespace CoreRun

open Surroundings (enterUser)

/-- A segment of U-mode cycles in which no trap is recorded. -/
structure UserSegment (run : CoreRun) (first last : Nat) : Prop where
  ordered : first ≤ last
  user : ∀ cycle, first ≤ cycle → cycle < last →
    (run.state cycle).csr.privilegeModeQ = privLvlU
  noTrap : ∀ cycle, first ≤ cycle → cycle < last →
    (run.state cycle).mcauseUpdate run.params (run.inputs cycle) = false

/-- Over every such segment the machine-mode registers keep their values, and `mcycle` makes no
step but its own. -/
def UserIsolation (run : CoreRun) : Prop :=
  ∀ first last, run.UserSegment first last →
    (run.state last).csr.machineCsrs = (run.state first).csr.machineCsrs ∧
      ∀ cycle, first ≤ cycle → cycle < last →
        (run.state (cycle + 1)).csr.mcycleQ = (run.state cycle).csr.mcycleCount

/-- A run isolates user mode when each of its U-mode cycles without a recorded trap is
guarded. -/
theorem userIsolation_of_guarded (run : CoreRun)
    (guarded : ∀ cycle, (run.state cycle).csr.privilegeModeQ = privLvlU →
      (run.state cycle).mcauseUpdate run.params (run.inputs cycle) = false →
        (run.state cycle).UserCycleGuarded run.params (run.inputs cycle)) :
    run.UserIsolation := by
  intro first last segment
  refine ⟨?_, fun cycle lower upper => ?_⟩
  · refine run.segment_constant (fun st => st.csr.machineCsrs) segment.ordered
      fun cycle lower upper => ?_
    exact CoreState.machineCsrs_step (segment.user cycle lower upper)
      (segment.noTrap cycle lower upper)
      (guarded cycle (segment.user cycle lower upper) (segment.noTrap cycle lower upper))
  · exact CoreState.mcycleQ_step
      (guarded cycle (segment.user cycle lower upper) (segment.noTrap cycle lower upper))

/-- User code that reads `mtvec`. -/
def userReadsMtvec : Surroundings where
  program := Surroundings.programOf (enterUser ++ [0x305020F3#32]) -- csrrs x1, mtvec, x0
  rest := 13

/-- The read is in EX in cycle 13. -/
theorem userIsolation_userReadsMtvec : userReadsMtvec.coreRun.UserIsolation ∧
    (userReadsMtvec.coreRun.state 13).csr.privilegeModeQ = privLvlU ∧
      Csr.enable (userReadsMtvec.coreRun.state 13).csrAccess mtvec = true := by
  refine ⟨userIsolation_of_guarded userReadsMtvec.coreRun ?_, ?_⟩
  · exact userReadsMtvec.forall_cycle_of_settled 18 (by decide) (fun _ _ => rfl)
      (by decide +kernel)
      (fun st port => st.csr.privilegeModeQ = privLvlU →
        st.mcauseUpdate defaultParams port = false → st.UserCycleGuarded defaultParams port)
      (by decide +kernel)
  · rw [Surroundings.state_coreRun]
    decide +kernel

/-- User code that writes 1 to `mtvec`. -/
def userWritesMtvec : Surroundings where
  program := Surroundings.programOf (enterUser ++ [0x3050D073#32]) -- csrrwi x0, mtvec, 1

/-- The write takes effect in U mode without a trap, at the edge after cycle 13. -/
theorem userIsolation_fails :
    ¬ ∀ (run : CoreRun) (program : Word → Word × Bool), run.params = defaultParams →
      run.WellConnected program → run.UserIsolation := by
  intro isolation
  have kept := isolation userWritesMtvec.coreRun _ rfl userWritesMtvec.wellConnected 13 14
  have segment : userWritesMtvec.coreRun.UserSegment 13 14 :=
    { ordered := by decide
      user := fun cycle lower upper => by
        obtain rfl : cycle = 13 := by omega
        rw [Surroundings.state_coreRun]
        decide +kernel
      noTrap := fun cycle lower upper => by
        obtain rfl : cycle = 13 := by omega
        rw [Surroundings.state_coreRun]
        decide +kernel }
  have unwritten : (userWritesMtvec.coreRun.state 13).csr.mtvecQ = 0#32 := by
    rw [Surroundings.state_coreRun]
    decide +kernel
  have written : (userWritesMtvec.coreRun.state 14).csr.mtvecQ = 1#32 := by
    rw [Surroundings.state_coreRun]
    decide +kernel
  have same := congrArg Csr.MachineCsrs.mtvec (kept segment).1
  rw [Csr.mtvec_machineCsrs, Csr.mtvec_machineCsrs, unwritten, written] at same
  cases same

end CoreRun

end RiscvCore
