import RiscvCore.MarkerDrain

/-!
# The privilege gate

Where fetch goes after the privilege rises from U to M.  The privilege rises with the recorded
cause, usually one cycle before the flush that redirects fetch; the target of the flush is
computed from the instruction that then sits in ID, and that is what can divert it or, when it
is a `wfi`, put the core to sleep with interrupts off.  A core that wakes up redirects without a
flush, and what the fetch stage holds by then goes on to ID.
-/

namespace RiscvCore

open SynchronousRun (FirstFrom)

namespace CoreState

variable {params : Params} {st : CoreState} {port : CoreInput}

/-- The privilege rises only with a recorded cause. -/
theorem mcauseUpdate_of_raise (user : st.csr.privilegeModeQ = privLvlU)
    (machine : (st.step params port).csr.privilegeModeQ = privLvlM) :
    st.mcauseUpdate params port = true := by
  have notMachine : ¬ privLvlU = privLvlM := by decide
  cases records : st.mcauseUpdate params port
  · have stays : (st.step params port).csr.privilegeModeQ = privLvlU := by
      simp [step, Csr.next, Csr.privilegeModeN, user, notMachine, csrInput, records]
    exact absurd (stays.symm.trans machine) notMachine
  · rfl

/-- A sleeping core records a cause only for a bus error. -/
theorem mcauseUpdate_of_asleep (drained : st.DrainedAsleep) (asleep : st.fsm = .sleep)
    (noError : st.reportsError port = false) : st.mcauseUpdate params port = false := by
  have unmarked := (drained (.inl asleep)).1
  rw [marked, Bool.or_eq_false_iff] at unmarked
  have notTaken : st.excTaken port = false := by
    rw [excTaken_of_noError noError, unmarked.2]
  cases records : st.mcauseUpdate params port with
  | false => rfl
  | true =>
      rcases Controller.mcauseUpdate_iff.mp records with ⟨taken, -⟩ | ⟨-, waking⟩
      · exact absurd (taken.symm.trans notTaken) (by simp)
      · rw [asleep] at waking
        cases waking

/-- A flush leaves no instruction in ID. -/
theorem noInstr_step_of_flushing (flushing : st.fsm = .excFlush) :
    (st.step params port).ifs.instrValueId = false := by
  rw [instrValueId_step, if_pos (flushD_of_flushing flushing)]

end CoreState

namespace CoreRun

variable (run : CoreRun)

def privilege (cycle : Nat) : Privilege := (run.state cycle).csr.privilegeModeQ

/-- The controller redirects fetch: `exc_fetch`, which also selects `set_pc`. -/
def Redirects (cycle : Nat) : Prop :=
  (run.state cycle).excFetch run.params (run.inputs cycle) = true

def redirectTarget (cycle : Nat) : Word :=
  (run.state cycle).setPc run.params (run.inputs cycle)

def trapVector (cycle : Nat) : Word := Controller.trapVector (run.state cycle).csr.mtvecQ

/-- An instruction leaves ID for EX at the end of the cycle. -/
def Issues (cycle : Nat) : Prop :=
  (run.state cycle).issues run.params (run.inputs cycle) = true

/-- The privilege goes from U to M at the edge that ends the cycle. -/
def Raises (cycle : Nat) : Prop :=
  run.privilege cycle = privLvlU ∧ run.privilege (cycle + 1) = privLvlM

/-- The redirect that delivers the trap which raised the privilege in the given cycle: the first
one from that cycle on, at once or in the next cycle, to the trap vector.  Nothing issues up to it,
and it leaves no instruction in ID.  (A trap recorded in the flush itself, or on waking up, is
redirected in the cycle whose edge raises the privilege.) -/
structure DeliveredBy (cycle redirect : Nat) : Prop where
  first : FirstFrom run.Redirects cycle redirect
  prompt : redirect ≤ cycle + 1
  target : run.redirectTarget redirect = run.trapVector redirect
  quiet : ∀ between, cycle < between → between ≤ redirect → ¬ run.Issues between
  emptied : (run.state (redirect + 1)).ifs.instrValueId = false

/-- Whenever the privilege rises, the trap is delivered. -/
def PrivilegeGate : Prop :=
  ∀ cycle, run.Raises cycle → ∃ redirect, run.DeliveredBy cycle redirect

/-- The instruction in ID leaves the redirect of a flush alone. -/
structure LeavesFlush (cycle : Nat) : Prop where
  noFence : (run.state cycle).isFence run.params (run.inputs cycle) = false
  noMret : (run.state cycle).isMret run.params (run.inputs cycle) = false
  noWfi : (run.state cycle).isWfi run.params (run.inputs cycle) = false

/-- What could come between a rise of the privilege and the vector: a diverted flush just after
the rise, or one in U mode in which a bus error is recorded; a bus error while user code sleeps;
and an instruction that the fetch stage holds when user code wakes up. -/
structure Undiverted : Prop where
  afterRaise : ∀ cycle, run.Raises cycle → (run.state (cycle + 1)).fsm = .excFlush →
    run.LeavesFlush (cycle + 1)
  onBusError : ∀ cycle, run.privilege cycle = privLvlU → (run.state cycle).fsm = .excFlush →
    (run.state cycle).reportsError (run.inputs cycle) = true → run.LeavesFlush cycle
  asleep : ∀ cycle, run.privilege cycle = privLvlU → (run.state cycle).fsm = .sleep →
    (run.state cycle).reportsError (run.inputs cycle) = false
  onWakeup : ∀ cycle, run.privilege cycle = privLvlU → (run.state cycle).fsm = .wakeup →
    (run.state cycle).ifs.insnValue ((run.state cycle).ifInput run.params (run.inputs cycle)) =
      false

/-- A flush that is left alone redirects to the trap vector, issues nothing and empties ID. -/
theorem redirects_of_flush {cycle : Nat} (flushing : (run.state cycle).fsm = .excFlush)
    (alone : run.LeavesFlush cycle) :
    run.Redirects cycle ∧ run.redirectTarget cycle = run.trapVector cycle ∧
      ¬ run.Issues cycle ∧ (run.state (cycle + 1)).ifs.instrValueId = false := by
  obtain ⟨redirects, target⟩ :=
    CoreState.setPc_excFlush flushing alone.noFence alone.noMret alone.noWfi
  refine ⟨redirects, target, ?_, ?_⟩
  · rw [Issues, CoreState.issues_of_flushD (CoreState.flushD_of_flushing flushing)]
    simp
  · rw [run.state_succ]
    exact CoreState.noInstr_step_of_flushing flushing

/-- The redirect of the same cycle delivers the trap. -/
theorem deliveredBy_now {cycle : Nat} (redirects : run.Redirects cycle)
    (target : run.redirectTarget cycle = run.trapVector cycle)
    (emptied : (run.state (cycle + 1)).ifs.instrValueId = false) :
    run.DeliveredBy cycle cycle where
  first :=
    { after := Nat.le_refl cycle
      happens := redirects
      notBefore := fun earlier lower upper => by omega }
  prompt := Nat.le_succ cycle
  target := target
  quiet := fun between lower upper => by omega
  emptied := emptied

/-- A trap taken in IDLE is delivered by the flush of the next cycle. -/
theorem delivered_of_idle {cycle : Nat} (idle : (run.state cycle).fsm = .idle)
    (flushing : (run.state (cycle + 1)).fsm = .excFlush) (alone : run.LeavesFlush (cycle + 1)) :
    run.DeliveredBy cycle (cycle + 1) := by
  obtain ⟨redirects, target, noIssue, emptied⟩ := run.redirects_of_flush flushing alone
  refine ⟨⟨Nat.le_succ cycle, redirects, ?_⟩, Nat.le_refl _, target, ?_, emptied⟩
  · intro earlier lower upper
    obtain rfl : earlier = cycle := by omega
    rw [Redirects, CoreState.excFetch_idle idle]
    simp
  · intro between lower upper
    obtain rfl : between = cycle + 1 := by omega
    exact noIssue

/-- In a flush cycle that records a cause itself, nothing but a bus error leaves room for a
diversion. -/
theorem leavesFlush_of_raise {cycle : Nat} (undiverted : run.Undiverted)
    (raises : run.Raises cycle) (flushing : (run.state cycle).fsm = .excFlush) :
    run.LeavesFlush cycle := by
  have records := CoreState.mcauseUpdate_of_raise raises.1 raises.2
  cases error : (run.state cycle).reportsError (run.inputs cycle) with
  | true => exact undiverted.onBusError cycle raises.1 flushing error
  | false =>
      obtain ⟨noLoadErr, noStoreErr⟩ := CoreState.noLsuErr_of_noError error
      obtain ⟨noFence, noMret, noWfi⟩ :=
        CoreState.noDiversion_of_recorded flushing records noLoadErr noStoreErr
      exact ⟨noFence, noMret, noWfi⟩

/-- Waking up empties ID when the fetch stage has nothing for it. -/
theorem noInstr_of_wakeup {cycle : Nat} (waking : (run.state cycle).fsm = .wakeup)
    (nothing : (run.state cycle).ifs.insnValue
      ((run.state cycle).ifInput run.params (run.inputs cycle)) = false) :
    (run.state (cycle + 1)).ifs.instrValueId = false := by
  rw [run.state_succ, CoreState.instrValueId_step, nothing, run.noInstrAsleep cycle (.inr waking),
    ite_self, ite_self]

/-- The privilege gate holds in every run in which nothing comes between a rise of the privilege
and the vector. -/
theorem privilegeGate_of_undiverted (undiverted : run.Undiverted) : run.PrivilegeGate := by
  intro cycle raises
  have records := CoreState.mcauseUpdate_of_raise raises.1 raises.2
  cases fsm : (run.state cycle).fsm with
  | idle =>
      -- the trap is taken now, and the flush of the next cycle redirects
      have taken : (run.state cycle).excTaken (run.inputs cycle) = true := by
        rcases Controller.mcauseUpdate_iff.mp records with ⟨taken, -⟩ | ⟨-, waking⟩
        · exact taken
        · rw [fsm] at waking
          cases waking
      have flushing : (run.state (cycle + 1)).fsm = .excFlush := by
        rw [state_succ, CoreState.fsm_step_idle fsm, if_pos taken]
      exact ⟨cycle + 1, run.delivered_of_idle fsm flushing
        (undiverted.afterRaise cycle raises flushing)⟩
  | excFlush =>
      obtain ⟨redirects, target, -, emptied⟩ :=
        run.redirects_of_flush fsm (run.leavesFlush_of_raise undiverted raises fsm)
      exact ⟨cycle, run.deliveredBy_now redirects target emptied⟩
  | sleep =>
      have silent := @CoreState.mcauseUpdate_of_asleep run.params _ _
        (run.drainedAsleep cycle) fsm (undiverted.asleep cycle raises.1 fsm)
      exact absurd (records.symm.trans silent) (by simp)
  | wakeup =>
      exact ⟨cycle, run.deliveredBy_now (CoreState.excFetch_wakeup fsm)
        (CoreState.setPc_wakeup fsm)
        (run.noInstr_of_wakeup fsm (undiverted.onWakeup cycle raises.1 fsm))⟩

open Surroundings (enterUser)

/-- User code whose first instruction is a load outside its region. -/
def userLoadDenied : Surroundings where
  program := Surroundings.programOf (enterUser ++ [0x08002083#32]) -- lw x1, 128(x0)
  rest := 17

/-- With nothing but `nop` behind the load, the trap is delivered. -/
theorem privilegeGate_userLoadDenied : userLoadDenied.coreRun.PrivilegeGate := by
  have raised := userLoadDenied.forall_cycles_of_settled 22 (by decide) (fun _ _ => rfl)
    (by decide +kernel)
    (fun st _ next nextPort =>
      st.csr.privilegeModeQ = privLvlU ∧ next.csr.privilegeModeQ = privLvlM →
        next.fsm = .excFlush →
          next.isFence defaultParams nextPort = false ∧
            next.isMret defaultParams nextPort = false ∧
              next.isWfi defaultParams nextPort = false)
    (by decide +kernel)
  have quiet := userLoadDenied.forall_cycle_of_settled 22 (by decide) (fun _ _ => rfl)
    (by decide +kernel)
    (fun st port => st.reportsError port = false ∧ st.fsm ≠ .wakeup)
    (by decide +kernel)
  refine privilegeGate_of_undiverted userLoadDenied.coreRun
    ⟨fun cycle raises flushing => ?_, fun cycle _ _ error => ?_, fun cycle _ _ => (quiet cycle).1,
      fun cycle _ waking => absurd waking (quiet cycle).2⟩
  · obtain ⟨noFence, noMret, noWfi⟩ := raised cycle raises flushing
    exact ⟨noFence, noMret, noWfi⟩
  · exact absurd (error.symm.trans (quiet cycle).1) (by simp)

/-- The same load with `mret` behind it. -/
def userLoadDeniedThenMret : Surroundings where
  program := Surroundings.programOf (enterUser ++ [0x08002083#32, 0x30200073#32])

/-- The `mret` in ID sends the flush to `mepc`, the address of the load, and not to the trap
vector. -/
theorem privilegeGate_fails :
    ¬ ∀ (run : CoreRun) (program : Word → Word × Bool), run.params = defaultParams →
      run.WellConnected program → run.PrivilegeGate := by
  intro gate
  have gated := gate userLoadDeniedThenMret.coreRun _ rfl userLoadDeniedThenMret.wellConnected
  have raises : userLoadDeniedThenMret.coreRun.Raises 15 := by
    simp only [Raises, privilege, Surroundings.state_coreRun]
    decide +kernel
  have first : FirstFrom userLoadDeniedThenMret.coreRun.Redirects 15 16 :=
    { after := by decide
      happens := by
        simp only [Redirects, Surroundings.state_coreRun]
        decide +kernel
      notBefore := fun earlier lower upper => by
        obtain rfl : earlier = 15 := by omega
        simp only [Redirects, Surroundings.state_coreRun]
        decide +kernel }
  have target : userLoadDeniedThenMret.coreRun.redirectTarget 16 = 16#32 := by
    simp only [redirectTarget, Surroundings.state_coreRun]
    decide +kernel
  have vector : userLoadDeniedThenMret.coreRun.trapVector 16 = 0#32 := by
    simp only [trapVector, Surroundings.state_coreRun]
    decide +kernel
  obtain ⟨redirect, delivered⟩ := gated 15 raises
  obtain rfl : redirect = 16 := delivered.first.unique first
  have same := delivered.target
  rw [target, vector] at same
  cases same

end CoreRun

end RiscvCore
