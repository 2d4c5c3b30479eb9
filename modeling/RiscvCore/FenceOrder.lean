import RiscvCore.MretReturn
import RiscvCore.UndisturbedRuns

/-!
# Stores before a `fence.i` and fetches behind it

The flush of a `fence.i` waits until WB is done with the stores before it, throws away every word
that has been fetched and goes on behind itself.  The words that come in then answer requests that
were granted in the flush or later.  WB is done too early with a store whose second half is granted
before the first half is answered.
-/

namespace RiscvCore

open BusProtocol (InOrder answersBefore grantsBefore pending)
open SynchronousRun (FirstFrom collected)

namespace CoreState

variable {params : Params} {st : CoreState} {port : CoreInput}

theorem readyEx_of_isFence (isFence : st.isFence params port = true) :
    st.readyEx params port = true := by
  rw [CoreState.isFence, idSignal, Bool.and_eq_true, Bool.and_eq_true] at isFence
  exact isFence.1.1

theorem fenceEn_of_isFence (isFence : st.isFence params port = true) :
    st.decoded.fenceEn = true := by
  rw [CoreState.isFence, idSignal, Bool.and_eq_true] at isFence
  exact isFence.2

theorem isWfi_of_isFence (isFence : st.isFence params port = true) :
    st.isWfi params port = false := by
  obtain ⟨kind, hasKind, -⟩ := exists_hasKind_decoder st.ifs.instrPayloadId st.ifs.instrValueId
  have fence : st.decoded.fenceEn = decide (kind = some .fence) := hasKind.fence
  have wfi : st.decoded.wfiEn = decide (kind = some .wfi) := hasKind.wfi
  rw [fenceEn_of_isFence isFence] at fence
  rw [CoreState.isWfi, idSignal, wfi, of_decide_eq_true fence.symm]
  exact Bool.and_false _

/-- The flush of a `fence.i` goes on behind it. -/
theorem redirect_of_isFence (flushing : st.fsm = .excFlush)
    (isFence : st.isFence params port = true) :
    st.setPcValid params port = true ∧ st.setPc params port = st.ifs.pcIf := by
  have target : st.excFetchAndPc params port = (true, st.ifs.pcIf) := by
    rw [excFetchAndPc, flushing, isFence]
    rfl
  have redirects : st.excFetch params port = true := by rw [excFetch, target]
  constructor
  · rw [setPcValid, redirects, Bool.or_true]
  · rw [setPc_of_excFetch redirects, target]

/-- After a flush, up to the next instruction, the pipeline is empty in front of the fetch stage. -/
structure Waiting (pc : Word) (st : CoreState) : Prop where
  idle : st.fsm = .idle
  empty : st.idEx.Empty
  unmarked : st.marked = false
  located : st.AtAddress pc

theorem Waiting.step {pc : Word} (waiting : st.Waiting pc)
    (noError : st.reportsError port = false) (noInstr : st.ifs.instrValueId = false) :
    (st.step params port).Waiting pc := by
  have noBranch := branchJump_of_empty waiting.empty
  have noIssue : st.issues params port = false := issues_of_noInstr noInstr
  have unmarked := waiting.unmarked
  rw [marked, Bool.or_eq_false_iff] at unmarked
  refine ⟨?_, empty_step_of_notIssued waiting.empty noIssue, ?_, ?_⟩
  · rw [fsm_step_idle waiting.idle, excTaken_of_noError noError, unmarked.2]
    rfl
  · apply unmarked_step_of_empty waiting.unmarked waiting.empty
    rw [validId, noInstr, Bool.and_false]
  · exact waiting.located.step (setPcValid_of_idle waiting.idle noBranch)
      (flushD_of_idle waiting.idle noBranch) (stall_of_idle waiting.idle) noIssue

end CoreState

namespace CoreRun

variable (run : CoreRun)

/-- The `fence.i` in ID is executed: the cycle is that of its flush. -/
def ExecutesFence (cycle : Nat) : Prop :=
  (run.state cycle).fsm = .excFlush ∧
    (run.state cycle).isFence run.params (run.inputs cycle) = true

/-- The prefetch FIFO takes the word of the cycle. -/
def acceptsWord (cycle : Nat) : Bool :=
  (run.state cycle).ifs.accepts ((run.state cycle).ifInput run.params (run.inputs cycle))

/-- What the flush of a `fence.i` leaves behind and what follows it. -/
structure FenceVisible (flush : Nat) : Prop where
  /-- The next instruction of ID is the one behind the `fence.i`. -/
  next : ∀ first,
    FirstFrom (fun cycle => (run.state cycle).ifs.instrValueId = true) (flush + 1) first →
      (run.state first).ifs.pcId = (run.state flush).ifs.pcId + 4#32
  /-- Every request of the loads and stores before the `fence.i` has been granted ... -/
  granted : collected run.grantedRequest flush =
    (collected run.issuedAccess flush).flatMap Lsu.requests
  /-- ... and answered. -/
  answered : pending run.dataBus flush = []
  /-- Nothing that was fetched before is kept ... -/
  emptied : (run.state (flush + 1)).ifs.Emptied
  /-- ... and no word comes in whose request was granted before the flush. -/
  fresh : ∀ cycle, flush < cycle → run.acceptsWord cycle = true →
    grantsBefore run.instrBus flush ≤ answersBefore run.instrBus cycle

variable {run}

section Fence

variable {flush : Nat} (fence : run.ExecutesFence flush)

include fence

theorem ExecutesFence.redirects :
    (run.state flush).setPcValid run.params (run.inputs flush) = true :=
  (CoreState.redirect_of_isFence fence.1 fence.2).1

theorem ExecutesFence.noInstr_succ : (run.state (flush + 1)).ifs.instrValueId = false := by
  rw [run.state_succ, CoreState.instrValueId_step,
    if_pos (CoreState.flushD_of_flushing fence.1)]

theorem ExecutesFence.emptied_succ : (run.state (flush + 1)).ifs.Emptied := by
  have noInstr := fence.noInstr_succ
  rw [run.state_succ] at noInstr ⊢
  exact IfStage.emptied_next_redirect run.params.pmpEnable fence.redirects noInstr

end Fence

namespace Calm

variable (calm : run.Calm) {flush : Nat} (fence : run.ExecutesFence flush)

include calm fence

theorem waiting_after_fence :
    (run.state (flush + 1)).Waiting ((run.state flush).ifs.pcId + 4#32) := by
  have owned := calm.markersOwned flush
  have ready := CoreState.readyEx_of_isFence fence.2
  have noInstr := fence.noInstr_succ
  obtain ⟨redirects, target⟩ := CoreState.redirect_of_isFence fence.1 fence.2
  have behind : (run.state flush).setPc run.params (run.inputs flush) =
      (run.state flush).ifs.pcId + 4#32 := by
    rw [target, (calm.inSequence flush).pcIf_eq (.inr (CoreState.fenceEn_of_isFence fence.2))]
  rw [run.state_succ] at noInstr ⊢
  refine ⟨?_, ?_, ?_, ?_⟩
  · rw [CoreState.fsm_step_excFlush fence.1, CoreState.isWfi_of_isFence fence.2]
    rfl
  · exact CoreState.empty_step_of_readyEx ready (.inr (CoreState.flushD_of_flushing fence.1))
  · exact owned.unmarked (run.dividerOwned flush) fence.1
  · rw [← behind]
    exact CoreState.atAddress_step_of_redirect redirects noInstr

theorem pcId_after_fence {first : Nat}
    (isFirst : FirstFrom (fun cycle => (run.state cycle).ifs.instrValueId = true) (flush + 1)
      first) : (run.state first).ifs.pcId = (run.state flush).ifs.pcId + 4#32 := by
  have waiting : (run.state first).Waiting ((run.state flush).ifs.pcId + 4#32) := by
    apply isFirst.holds_at fun cycle =>
      (run.state cycle).Waiting ((run.state flush).ifs.pcId + 4#32)
    · exact calm.waiting_after_fence fence
    · intro cycle _ _ noInstr waiting
      rw [Bool.not_eq_true] at noInstr
      rw [run.state_succ]
      exact waiting.step (calm.undisturbed cycle).noError noInstr
  rcases waiting.located with ⟨noInstr, -⟩ | ⟨-, inId⟩
  · rw [isFirst.happens] at noInstr
    cases noInstr
  · exact inId

/-- A `fence.i` in ID was fetched, so that no earlier redirect is still waiting for its word. -/
theorem settled_of_fence : ∃ marks, run.Settles flush marks ∧
    (run.state flush).ifs.fifoFlush = false := by
  have goesOn : ¬ (run.state flush).RefusedForGood run.params := by
    intro stuck
    have ready := CoreState.readyEx_of_isFence fence.2
    rw [CoreState.readyEx_of_excEx stuck.refused] at ready
    cases ready
  obtain ⟨marks, settles⟩ := calm.exists_settles goesOn
  exact ⟨marks, settles, calm.settled_of_redirect settles fence.redirects⟩

theorem fresh_after_fence {cycle : Nat} (later : flush < cycle)
    (accepts : run.acceptsWord cycle = true) :
    grantsBefore run.instrBus flush ≤ answersBefore run.instrBus cycle := by
  obtain ⟨marks, settles, settled⟩ := calm.settled_of_fence fence
  have atFlush := calm.undenied.drops_succ_of_settled settles.aligned
    (by rw [state_fetchRun]; exact settles.refetches.one) fence.redirects
    (by rw [state_fetchRun]; exact settled)
  obtain ⟨marksLater, drops⟩ := atFlush.later calm.undenied (Nat.le_succ flush) later
  rw [← run.grantsBefore_fetchRun]
  apply drops.answered_of_accepts calm.undenied
  rw [FetchRun.accepts, state_fetchRun]
  exact accepts

end Calm

/-- In an undisturbed run in which no second half of an access is granted before the first half is
answered, every `fence.i` makes the stores before it visible. -/
theorem fenceVisible_of_secondAfterFirst (run : CoreRun) (calm : run.Calm)
    (second : ∀ last, run.SecondAfterFirst last) (flush : Nat) (fence : run.ExecutesFence flush) :
    run.FenceVisible flush where
  next := fun _ isFirst => calm.pcId_after_fence fence isFirst
  granted := calm.granted_of_flushing fence.1
  answered := calm.answered_of_flushing second fence.1
  emptied := fence.emptied_succ
  fresh := fun _ later accepts => calm.fresh_after_fence fence later accepts

/-- `sw x0, 2(x0)` and `fence.i` in memories that answer in the next cycle. -/
def storeThenFence : Surroundings where
  program := Surroundings.programOf [0x00002123#32, 0x0000100F#32]
  rest := 14

theorem calm_storeThenFence : storeThenFence.coreRun.Calm := by
  have quiet := storeThenFence.forall_cycle_of_settled 19 (by decide) (fun _ _ => rfl)
    (by decide +kernel)
    (fun st port => st.irqTaken port = false ∧ st.reportsError port = false ∧
      st.pmpErr = false ∧ st.ifs.pmpErr defaultParams.pmpEnable (st.ifInput defaultParams port) =
        false)
    (by decide +kernel)
  constructor
  · intro cycle
    obtain ⟨noIrq, noError, allowed, -⟩ := quiet cycle
    exact ⟨noIrq, noError, allowed⟩
  · intro cycle
    exact (quiet cycle).2.2.2
  · exact storeThenFence.wellConnected.instr.forget
  · exact storeThenFence.wellConnected.data

theorem fenceVisible_storeThenFence : storeThenFence.coreRun.FenceVisible 9 :=
  fenceVisible_of_secondAfterFirst _ calm_storeThenFence (secondAfterFirst_of_surroundings _) 9
    ⟨by decide +kernel, by decide +kernel⟩

/-- The same program, but the two halves of the store are granted in cycles 5 and 6 and answered in
cycles 8 and 20. -/
def lateStore : CoreRun where
  params := defaultParams
  bootAddr := 0#32
  inputs := fun cycle =>
    { externIrq := false
      softIrq := false
      timerIrq := false
      hartId := 0#32
      instrGnt := decide (cycle = 1) || decide (cycle = 2) || decide (cycle = 10)
      instrRdata :=
        if cycle = 2 then 0x00002123#32 else if cycle = 3 then 0x0000100F#32 else 0x00000013#32
      instrErr := false
      instrValid := decide (cycle = 2) || decide (cycle = 3) || decide (cycle = 12)
      dataGnt := decide (cycle = 5) || decide (cycle = 6)
      dataRdata := 0#32
      dataValid := decide (cycle = 8) || decide (cycle = 20)
      dataError := false
      undriven := { mscratchQ := 0#32, mtvalQ := 0#32 } }

theorem calm_lateStore : lateStore.Calm := by
  have constant (cycle : Nat) (late : 21 ≤ cycle) :
      lateStore.inputs cycle = lateStore.inputs 21 := by
    obtain ⟨more, rfl⟩ := Nat.exists_eq_add_of_le' late
    simp [lateStore]
  have quiet := lateStore.forall_cycle_of_settled constant (by decide +kernel)
    (fun st port => st.irqTaken port = false ∧ st.reportsError port = false ∧
      st.pmpErr = false ∧ st.ifs.pmpErr defaultParams.pmpEnable (st.ifInput defaultParams port) =
        false)
    (by decide +kernel)
  constructor
  · intro cycle
    obtain ⟨noIrq, noError, allowed, -⟩ := quiet cycle
    exact ⟨noIrq, noError, allowed⟩
  · intro cycle
    exact (quiet cycle).2.2.2
  · refine BusProtocol.inOrder_of_silent 21 (fun cycle late => ?_) (by decide +kernel)
      (by decide +kernel)
    change (decide (cycle = 1) || decide (cycle = 2) || decide (cycle = 10)) = false ∧
      (decide (cycle = 2) || decide (cycle = 3) || decide (cycle = 12)) = false
    simp
    omega
  · refine BusProtocol.inOrder_of_silent 21 (fun cycle late => ?_) (by decide +kernel)
      (by decide +kernel)
    change (decide (cycle = 5) || decide (cycle = 6)) = false ∧
      (decide (cycle = 8) || decide (cycle = 20)) = false
    simp
    omega

/-- The flush in cycle 10 does not wait for the answer to the second half. -/
theorem fenceVisible_fails :
    ¬ ∀ run : CoreRun, run.params = defaultParams → run.Calm →
      ∀ flush, run.ExecutesFence flush → run.FenceVisible flush := by
  intro visible
  have fence : lateStore.ExecutesFence 10 := ⟨by decide +kernel, by decide +kernel⟩
  have answered := (visible lateStore rfl calm_lateStore 10 fence).answered
  revert answered
  decide +kernel

end CoreRun

end RiscvCore
