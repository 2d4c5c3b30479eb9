import RiscvCore.MretReturn
import RiscvCore.PcParity
import RiscvCore.PrivilegeGate
import RiscvCore.SequentialFetch

/-!
# Waking up from `wfi`

The flush of a `wfi` keeps the prefetched words, and the cycle in which the core wakes up redirects
the fetch without a flush.  A word that is there by then goes on to ID and issues ahead of the
handler, which returns to the same instruction.
-/

namespace RiscvCore

open SynchronousRun (FirstFrom)

namespace CoreState

variable {params : Params} {st : CoreState} {port : CoreInput}

/-- What goes to sleep with a `wfi`: a marker in WB, and no bus error and no CSR instruction that
writes `mepc`. -/
structure SleepsAlone (st : CoreState) (port : CoreInput) : Prop where
  marker : st.memWb.excTakenWb = true
  noError : st.reportsError port = false
  noWrite : Csr.enable st.csrAccess mepc = false
  even : IsEven st.ifs.pcId

/-- The core sleeps or wakes up behind an empty pipeline, with `mepc` as given. -/
structure Asleep (epc : Word) (st : CoreState) : Prop where
  noInstr : st.ifs.instrValueId = false
  empty : st.idEx.Empty
  unmarked : st.marked = false
  mepc : st.csr.mepcQ = epc

theorem decoded_of_isWfi (isWfi : st.isWfi params port = true) :
    st.readyEx params port = true ∧ st.ifs.instrFetchError = false ∧ st.decoded.wfiEn = true := by
  rw [CoreState.isWfi, idSignal, Bool.and_eq_true, Bool.and_eq_true, Bool.not_eq_true'] at isWfi
  exact ⟨isWfi.1.1, isWfi.1.2, isWfi.2⟩

/-- A `wfi` raises no exception. -/
theorem raisedIn_of_isWfi (isWfi : st.isWfi params port = true) (trap : IdTrap) :
    trap.raisedIn st = false := by
  obtain ⟨-, noFault, wfi⟩ := decoded_of_isWfi isWfi
  obtain ⟨kind, hasKind, -⟩ := exists_hasKind_decoder st.ifs.instrPayloadId st.ifs.instrValueId
  have isKind : st.decoded.wfiEn = decide (kind = some .wfi) := hasKind.wfi
  rw [wfi] at isKind
  cases raised : trap.raisedIn st with
  | false => rfl
  | true =>
      rcases (raisedIn_iff hasKind).mp raised with ⟨-, fault⟩ | ⟨-, -, sameKind⟩
      · rw [fetchError_of_instrAcsFault fault] at noFault
        cases noFault
      · rw [of_decide_eq_true isKind.symm] at sameKind
        cases trap <;> cases sameKind

theorem noException_of_readyEx (ready : st.readyEx params port = true) :
    st.excEx params = false := by
  rw [readyEx, Bool.and_eq_true, Bool.not_eq_true'] at ready
  exact ready.2

/-- The flush of a `wfi` updates `mepc` and nothing else. -/
theorem trapUpdate_of_isWfi (isWfi : st.isWfi params port = true) (flushing : st.fsm = .excFlush)
    (alone : st.SleepsAlone port) : st.trapUpdate params port = silentUpdate true := by
  have noException := noException_of_readyEx (decoded_of_isWfi isWfi).1
  have allowed : st.pmpErr = false := by
    cases denied : st.pmpErr with
    | false => rfl
    | true =>
        rw [excEx_of_pmpErr denied] at noException
        cases noException
  have noIllegalCsr : st.isIllegalCsr params port = false := by
    rw [excEx_of_allowed allowed] at noException
    rw [isIllegalCsr, ← Bool.and_assoc, noException, Bool.false_and]
  have taken : st.excTaken port = true := by
    rw [excTaken_of_noError alone.noError, alone.marker]
  have silent := trapUpdate_of_silent taken (flushD_of_flushing flushing) allowed noIllegalCsr
    alone.noError (raisedIn_of_isWfi isWfi)
  rw [silent, isWfi]

theorem mepcQ_step_of_isWfi (isWfi : st.isWfi params port = true) (flushing : st.fsm = .excFlush)
    (alone : st.SleepsAlone port) :
    (st.step params port).csr.mepcQ = Csr.evenPc st.ifs.pcIf := by
  have update := trapUpdate_of_isWfi isWfi flushing alone
  have updates : st.mepcUpdata params port = true := by
    rw [mepcUpdata, update]
    rfl
  rw [mepcQ_step_of_updated alone.noWrite updates, update]
  rfl

theorem asleep_of_flush (isWfi : st.isWfi params port = true) (flushing : st.fsm = .excFlush)
    (alone : st.SleepsAlone port) :
    (st.step params port).Asleep (Csr.evenPc st.ifs.pcIf) := by
  have flush := flushD_of_flushing flushing
  have ready := (decoded_of_isWfi isWfi).1
  refine ⟨?_, empty_step_of_readyEx ready (.inr flush),
    unmarked_step_of_flushing flushing (readyMem_of_readyEx ready) (fun _ => ready),
    mepcQ_step_of_isWfi isWfi flushing alone⟩
  rw [instrValueId_step, if_pos flush]

section Asleep

variable {epc : Word} (asleep : st.Asleep epc)

include asleep

theorem Asleep.noIssue : st.issues params port = false := issues_of_noInstr asleep.noInstr

theorem Asleep.unmarked_step : (st.step params port).marked = false := by
  apply unmarked_step_of_empty asleep.unmarked asleep.empty
  rw [validId, asleep.noInstr, Bool.and_false]

theorem Asleep.notTaken (noError : st.reportsError port = false) : st.excTaken port = false := by
  have unmarked := asleep.unmarked
  rw [marked, Bool.or_eq_false_iff] at unmarked
  rw [excTaken_of_noError noError, unmarked.2]

theorem Asleep.step (noError : st.reportsError port = false)
    (noInstr : (st.step params port).ifs.instrValueId = false) :
    (st.step params port).Asleep epc := by
  refine ⟨noInstr, empty_step_of_notIssued asleep.empty asleep.noIssue, asleep.unmarked_step, ?_⟩
  rw [mepcQ_step_of_spared asleep.empty.csr (mepcUpdata_of_notTaken (asleep.notTaken noError)),
    asleep.mepc]

end Asleep

theorem mtvecQ_step_of_noCsr (noCsr : st.idEx.csrEnEx = false) :
    (st.step params port).csr.mtvecQ = st.csr.mtvecQ := by
  apply Csr.mtvecN_of_spared
  intro accessed
  exact absurd (accessed.symm.trans (enable_of_noCsr noCsr mtvec)) (by decide)

/-- A `wfi` goes to sleep alone, the data bus reports no error while the core sleeps or wakes up,
and no instruction is ready for ID when it wakes up. -/
structure WakeGuarded (params : Params) (st : CoreState) (port : CoreInput) : Prop where
  alone : st.fsm = .excFlush → st.isWfi params port = true → st.SleepsAlone port
  noError : st.fsm = .sleep ∨ st.fsm = .wakeup → st.reportsError port = false
  wakesEmpty : st.fsm = .wakeup → st.ifs.insnValue (st.ifInput params port) = false

theorem WakeGuarded.noInstr_step (guarded : st.WakeGuarded params port)
    (notIdle : st.fsm = .sleep ∨ st.fsm = .wakeup) (noInstr : st.ifs.instrValueId = false) :
    (st.step params port).ifs.instrValueId = false := by
  rw [instrValueId_step, noInstr]
  rcases notIdle with asleep | waking
  · rw [stall_of_sleep asleep, Bool.not_true, Bool.and_false]
    exact ite_self _
  · rw [guarded.wakesEmpty waking, ite_self, ite_self]

end CoreState

namespace CoreRun

variable (run : CoreRun)

/-- The core goes to sleep after the flush of a `wfi`, and wakes up in the given cycle. -/
structure Sleeps (flush wake : Nat) : Prop where
  flushing : (run.state flush).fsm = .excFlush
  isWfi : (run.state flush).isWfi run.params (run.inputs flush) = true
  wakes : FirstFrom (fun cycle => (run.state cycle).fsm = .wakeup) (flush + 1) wake

/-- An instruction issues, or a trap is taken. -/
def IssuesOrTraps (cycle : Nat) : Prop := run.issues cycle = true ∨ run.TakesTrap cycle

instance (cycle : Nat) : Decidable (run.IssuesOrTraps cycle) :=
  inferInstanceAs (Decidable (_ = true ∨ _ = true))

/-- The address of the instruction after the `wfi` that is flushed. -/
def afterWfi (flush : Nat) : Word := (run.state flush).ifs.pcId + 4#32

/-- Every cycle is guarded. -/
def WakeGuarded : Prop := ∀ cycle, (run.state cycle).WakeGuarded run.params (run.inputs cycle)

variable {run}

theorem WakeGuarded.wakesEmpty (guarded : run.WakeGuarded) : run.WakesEmpty :=
  fun cycle => (guarded cycle).wakesEmpty

section Sleeps

variable {flush wake : Nat} (guarded : run.WakeGuarded) (sleeps : run.Sleeps flush wake)

include guarded sleeps

theorem Sleeps.evenPc_eq :
    Csr.evenPc (run.state flush).ifs.pcIf = run.afterWfi flush := by
  have alone := (guarded flush).alone sleeps.flushing sleeps.isWfi
  have pauses := (CoreState.decoded_of_isWfi sleeps.isWfi).2.2
  rw [(run.inSequence guarded.wakesEmpty flush).pcIf_eq (.inl pauses), afterWfi]
  exact evenPc_of_isEven (isEven_add alone.even (by decide))

/-- From the flush to the cycle in which the core wakes up. -/
theorem Sleeps.asleep : ∀ cycle, flush + 1 ≤ cycle → cycle ≤ wake →
    ((run.state cycle).fsm = .sleep ∨ (run.state cycle).fsm = .wakeup) ∧
      (run.state cycle).Asleep (run.afterWfi flush) := by
  apply sleeps.wakes.holds_upTo fun cycle =>
    ((run.state cycle).fsm = .sleep ∨ (run.state cycle).fsm = .wakeup) ∧
      (run.state cycle).Asleep (run.afterWfi flush)
  · rw [← sleeps.evenPc_eq guarded, run.state_succ]
    refine ⟨.inl ?_, CoreState.asleep_of_flush sleeps.isWfi sleeps.flushing
      ((guarded flush).alone sleeps.flushing sleeps.isWfi)⟩
    rw [CoreState.fsm_step_excFlush sleeps.flushing, if_pos sleeps.isWfi]
  · rintro cycle - - notWaking ⟨notIdle, asleep⟩
    have isAsleep : (run.state cycle).fsm = .sleep := notIdle.resolve_right notWaking
    rw [run.state_succ]
    exact ⟨CoreState.fsm_step_sleep isAsleep, asleep.step ((guarded cycle).noError notIdle)
      ((guarded cycle).noInstr_step notIdle asleep.noInstr)⟩

/-- Nothing happens before the core is awake. -/
theorem Sleeps.woken {first : Nat} (isFirst : FirstFrom run.IssuesOrTraps (flush + 1) first) :
    wake < first := by
  rcases Nat.lt_or_ge wake first with later | notLater
  · exact later
  · obtain ⟨notIdle, asleep⟩ := sleeps.asleep guarded first isFirst.after notLater
    rcases isFirst.happens with issues | traps
    · rw [CoreRun.issues, asleep.noIssue] at issues
      cases issues
    · have idle := (takesTrap_iff.mp traps).1
      rw [idle] at notIdle
      rcases notIdle with asleep | waking
      · cases asleep
      · cases waking

/-- The state behind the wake-up: the fetch stage is in front of the handler. -/
theorem Sleeps.awake :
    (run.state (wake + 1)).fsm = .idle ∧
      (run.state (wake + 1)).Asleep (run.afterWfi flush) ∧
        (run.state (wake + 1)).AtAddress (run.trapVector (wake + 1)) := by
  have waking : (run.state wake).fsm = .wakeup := sleeps.wakes.happens
  obtain ⟨notIdle, asleep⟩ := sleeps.asleep guarded wake sleeps.wakes.after (Nat.le_refl wake)
  have noInstr := (guarded wake).noInstr_step notIdle asleep.noInstr
  have redirects :
      (run.state wake).setPcValid run.params (run.inputs wake) = true := by
    rw [CoreState.setPcValid, CoreState.excFetch_wakeup waking, Bool.or_true]
  have target : (run.state wake).setPc run.params (run.inputs wake) =
      run.trapVector (wake + 1) := by
    rw [CoreState.setPc_wakeup waking, trapVector, run.state_succ,
      CoreState.mtvecQ_step_of_noCsr asleep.empty.csr]
  rw [← target, run.state_succ]
  exact ⟨CoreState.fsm_step_wakeup waking, asleep.step ((guarded wake).noError notIdle) noInstr,
    CoreState.atAddress_step_of_redirect redirects noInstr⟩

end Sleeps

end CoreRun

end RiscvCore
