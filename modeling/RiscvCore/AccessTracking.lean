import RiscvCore.DataTransfers
import RiscvCore.SplitFlush

/-!
# Which access a response is for

Up to a bus error, what is in flight on the data bus is a request of the access in WB, or the first
one of the access in MEM.  After a bus error WB waits for ever, with nothing in flight.
-/

namespace RiscvCore

open BusProtocol (InOrder pending)

namespace CoreState

variable {params : Params} {st : CoreState} {port : CoreInput}

theorem lsuOpWb_step_of_readyMem (noFlush : st.flushE = false)
    (readyMem : st.readyMem port = true) :
    (st.step params port).memWb.lsuOpWb = st.exMem.lsuOpMem := by
  have valid : st.validMem port = true := validMem_eq_readyMem.trans readyMem
  simp [step, nextMemWb, MemStage.nextOperation, valid, noFlush]

theorem lsuOpWb_step_of_notReady (notReady : st.readyWb port = false) :
    (st.step params port).memWb.lsuOpWb = st.memWb.lsuOpWb := by
  have operation := nextMemWbOperation_of_notReady notReady
  have same := congrArg MemWb.lsuOpWb operation
  exact same

/-- The unit remembers with each grant whether the access is split. -/
theorem unalignWb_step (params : Params) (st : CoreState) (port : CoreInput) :
    (st.step params port).lsu.unalignWb =
      if Lsu.dataReq (st.lsuAccess port) && port.dataGnt then
        Lsu.reqUnalign (accessMem st.exMem)
      else st.lsu.unalignWb := by
  change Lsu.crossesWord (if Lsu.dataReq (st.lsuAccess port) && port.dataGnt then _ else _)
    (if Lsu.dataReq (st.lsuAccess port) && port.dataGnt then _ else _) = _
  cases Lsu.dataReq (st.lsuAccess port) && port.dataGnt <;> rfl

end CoreState

namespace CoreRun

variable (run : CoreRun)

/-- The data bus with each request marked as that of a load or a store. -/
def opBus (cycle : Nat) : BusProtocol.Cycle LsuOp (Word × Bool) where
  req := (run.dataBus cycle).req
  gnt := (run.dataBus cycle).gnt
  addr := (run.state cycle).exMem.lsuOpMem
  valid := (run.dataBus cycle).valid
  data := (run.dataBus cycle).data

/-- The granted requests without an answer. -/
def opsInFlight (cycle : Nat) : List LsuOp := pending run.opBus cycle

/-- No marker is passed by an access, and what is in flight belongs to the access in WB, or to the
first half of the one in MEM. -/
structure Tracked (cycle : Nat) : Prop where
  behind : (run.state cycle).NoAccessBehindMarker
  splitBefore : (run.state cycle).lsu.unalignQ = true → (run.state cycle).memWb.lsuEnWb = false
  inWb : (run.state cycle).memWb.lsuEnWb = true →
    run.opsInFlight cycle = [(run.state cycle).memWb.lsuOpWb]
  notInWb : (run.state cycle).memWb.lsuEnWb = false →
    run.opsInFlight cycle = [] ∨
      ((run.state cycle).lsu.unalignQ = true ∧
        run.opsInFlight cycle = [(run.state cycle).exMem.lsuOpMem])

/-- WB waits for a response, but none is due. -/
structure Stuck (cycle : Nat) : Prop where
  access : (run.state cycle).memWb.lsuEnWb = true
  whole : (run.state cycle).lsu.unalignQ = false
  noMarker : (run.state cycle).memWb.excTakenWb = false
  awake : (run.state cycle).fsm = .idle ∨ (run.state cycle).fsm = .excFlush
  none : run.opsInFlight cycle = []

variable {run}

theorem length_opsInFlight (run : CoreRun) (cycle : Nat) :
    (run.opsInFlight cycle).length = (pending run.dataBus cycle).length :=
  @BusProtocol.length_pending_congr _ _ _ run.dataBus run.opBus (fun _ => rfl) (fun _ => rfl) cycle

theorem opsInFlight_succ (inOrder : InOrder (fun _ _ => True) run.dataBus) (cycle : Nat) :
    run.opsInFlight (cycle + 1) =
      (if (run.dataBus cycle).valid then (run.opsInFlight cycle).tail
        else run.opsInFlight cycle) ++
        (if (run.dataBus cycle).gnt then [(run.state cycle).exMem.lsuOpMem] else []) := by
  have granted : (run.opBus cycle).granted = (run.dataBus cycle).gnt :=
    BusProtocol.Cycle.granted_of_requested (inOrder.requested cycle)
  rw [opsInFlight, BusProtocol.pending_succ, BusProtocol.nextPending, granted]
  rfl

theorem opsInFlight_of_valid (inOrder : InOrder (fun _ _ => True) run.dataBus) {cycle : Nat}
    (valid : (run.dataBus cycle).valid = true) : run.opsInFlight cycle ≠ [] := by
  intro empty
  have length := length_opsInFlight run cycle
  have some := valid_le_pending inOrder cycle
  rw [valid, Bool.toNat_true, ← length, empty] at some
  cases some

theorem lsuOpMem_succ_of_waits (run : CoreRun) {cycle : Nat}
    (waits : (run.state cycle).readyMem (run.inputs cycle) = false) :
    (run.state (cycle + 1)).exMem.lsuOpMem = (run.state cycle).exMem.lsuOpMem := by
  obtain ⟨-, sameAccess, -⟩ := CoreState.exMem_step_of_waits run.params waits
  rw [run.state_succ]
  exact congrArg Lsu.Access.lsuOp sameAccess

/-- An access between its two requests waits for the second one to be granted. -/
theorem Tracked.waits_of_split {cycle : Nat} (tracked : run.Tracked cycle)
    (split : (run.state cycle).lsu.unalignQ = true) (noGrant : (run.dataBus cycle).gnt = false) :
    (run.state cycle).readyMem (run.inputs cycle) = false := by
  apply CoreState.readyMem_of_noGrant ?_ (tracked.behind.owned split).1 noGrant
  cases flush : (run.state cycle).flushE with
  | false => rfl
  | true =>
      rw [CoreState.flushE_eq, beq_iff_eq] at flush
      rw [(tracked.behind.flushing flush).1] at split
      cases split

/-- A grant finds every earlier request answered. -/
theorem Tracked.remaining_of_grant {cycle : Nat} (tracked : run.Tracked cycle)
    (inOrder : InOrder (fun _ _ => True) run.dataBus) (second : ∀ last, run.SecondAfterFirst last)
    (grant : (run.dataBus cycle).gnt = true) :
    (if (run.dataBus cycle).valid then (run.opsInFlight cycle).tail
      else run.opsInFlight cycle) = [] := by
  cases access : (run.state cycle).memWb.lsuEnWb with
  | true =>
      obtain ⟨-, readyWb, -⟩ := CoreState.access_of_dataReq (inOrder.requested cycle grant)
      rw [CoreState.readyWb, WbStage.readyWb, if_pos access, Bool.and_eq_true, lsuValidWb_eq,
        Bool.and_eq_true] at readyWb
      rw [readyWb.1.2, if_pos rfl, tracked.inWb access]
      rfl
  | false =>
      rcases tracked.notInWb access with empty | ⟨split, one⟩
      · rw [empty, List.tail_nil, ite_self]
      · have few := second (cycle + 1) cycle (by omega) split grant
        rw [← length_opsInFlight, one, List.length_singleton] at few
        cases valid : (run.dataBus cycle).valid with
        | true => rw [if_pos rfl, one]; rfl
        | false =>
            rw [valid] at few
            cases few

theorem Stuck.noAnswer {cycle : Nat} (stuck : run.Stuck cycle)
    (inOrder : InOrder (fun _ _ => True) run.dataBus) : (run.dataBus cycle).valid = false := by
  cases valid : (run.dataBus cycle).valid with
  | false => rfl
  | true => exact (opsInFlight_of_valid inOrder valid stuck.none).elim

theorem Stuck.noLsuValid {cycle : Nat} (stuck : run.Stuck cycle)
    (inOrder : InOrder (fun _ _ => True) run.dataBus) :
    (run.state cycle).lsuValidWb (run.inputs cycle) = false := by
  rw [lsuValidWb_eq, stuck.noAnswer inOrder, Bool.and_false]

theorem Stuck.notReadyWb {cycle : Nat} (stuck : run.Stuck cycle)
    (inOrder : InOrder (fun _ _ => True) run.dataBus) :
    (run.state cycle).readyWb (run.inputs cycle) = false := by
  rw [CoreState.readyWb, WbStage.readyWb, if_pos stuck.access, stuck.noLsuValid inOrder,
    Bool.false_and]

theorem Stuck.notReadyEx {cycle : Nat} (stuck : run.Stuck cycle)
    (inOrder : InOrder (fun _ _ => True) run.dataBus) : run.readyEx cycle = false := by
  cases ready : run.readyEx cycle with
  | false => rfl
  | true =>
      have readyWb := CoreState.readyWb_of_readyMem (CoreState.readyMem_of_readyEx ready)
      rw [stuck.notReadyWb inOrder] at readyWb
      cases readyWb

theorem Stuck.noTrap {cycle : Nat} (stuck : run.Stuck cycle)
    (inOrder : InOrder (fun _ _ => True) run.dataBus) : run.excTaken cycle = false := by
  rw [excTaken, CoreState.excTaken, stuck.noMarker, CoreState.isLsuLoadErr,
    CoreState.isLsuStoreErr, WbStage.isLsuLoadErr, WbStage.isLsuStoreErr,
    stuck.noLsuValid inOrder]
  rfl

/-- A WB that is not ready grants MEM no request. -/
theorem noGrant_of_notReadyWb (grants : run.GrantsRequests) {cycle : Nat}
    (waits : (run.state cycle).readyWb (run.inputs cycle) = false) :
    (run.dataBus cycle).gnt = false := by
  cases grant : (run.dataBus cycle).gnt with
  | false => rfl
  | true =>
      rw [(CoreState.access_of_dataReq (grants cycle grant)).2.1] at waits
      cases waits

/-- WB stays as it is while it is not ready. -/
theorem stuck_succ_of_notReadyWb (inOrder : InOrder (fun _ _ => True) run.dataBus) {cycle : Nat}
    (access : (run.state cycle).memWb.lsuEnWb = true)
    (whole : (run.state cycle).lsu.unalignQ = false)
    (noMarker : (run.state cycle).memWb.excTakenWb = false)
    (waits : (run.state cycle).readyWb (run.inputs cycle) = false)
    (awake : (run.state (cycle + 1)).fsm = .idle ∨ (run.state (cycle + 1)).fsm = .excFlush)
    (none : (if (run.dataBus cycle).valid then (run.opsInFlight cycle).tail
      else run.opsInFlight cycle) = []) : run.Stuck (cycle + 1) := by
  have noGrant := noGrant_of_notReadyWb inOrder.requested waits
  constructor
  · rw [run.state_succ, CoreState.lsuEnWb_step, waits]
    exact access
  · rw [unalignQ_of_noGrant noGrant]
    exact whole
  · rw [run.state_succ, CoreState.excTakenWb_step, waits]
    exact noMarker
  · exact awake
  · rw [opsInFlight_succ inOrder, none, noGrant]
    rfl

theorem Stuck.succ (inOrder : InOrder (fun _ _ => True) run.dataBus) {cycle : Nat}
    (stuck : run.Stuck cycle) : run.Stuck (cycle + 1) := by
  apply stuck_succ_of_notReadyWb inOrder stuck.access stuck.whole stuck.noMarker
    (stuck.notReadyWb inOrder)
  · rcases stuck.awake with idle | flushing
    · rw [run.state_succ, CoreState.fsm_step_idle idle]
      split
      · exact .inr rfl
      · exact .inl rfl
    · have notReady := stuck.notReadyEx inOrder
      have noWfi : (run.state cycle).isWfi run.params (run.inputs cycle) = false := by
        change (run.readyEx cycle && _ && _) = false
        rw [notReady]
        rfl
      rw [run.state_succ, CoreState.fsm_step_excFlush flushing, noWfi]
      exact .inl rfl
  · rw [stuck.noAnswer inOrder]
    exact stuck.none

theorem Stuck.later (inOrder : InOrder (fun _ _ => True) run.dataBus) {cycle later : Nat}
    (stuck : run.Stuck cycle) (after : cycle ≤ later) : run.Stuck later := by
  induction later with
  | zero =>
      obtain rfl : cycle = 0 := by omega
      exact stuck
  | succ later induction =>
      rcases Nat.eq_or_lt_of_le after with rfl | below
      · exact stuck
      · exact (induction (by omega)).succ inOrder

theorem unalignFirstErr_succ (run : CoreRun) (cycle : Nat) :
    (run.state (cycle + 1)).lsu.unalignFirstErr =
      if (run.state cycle).lsu.unalignQ && (run.dataBus cycle).valid then
        (run.inputs cycle).dataError
      else (run.state cycle).lsu.unalignFirstErr := rfl

theorem Tracked.idle_of_access {cycle : Nat} (tracked : run.Tracked cycle)
    (access : (run.state cycle).memWb.lsuEnWb = true) : (run.state cycle).fsm = .idle := by
  cases fsm : (run.state cycle).fsm with
  | idle => rfl
  | excFlush => rw [(tracked.behind.flushing fsm).2] at access; cases access
  | sleep => rw [(tracked.behind.asleep (.inl fsm)).2.2] at access; cases access
  | wakeup => rw [(tracked.behind.asleep (.inr fsm)).2.2] at access; cases access

theorem Tracked.whole_of_access {cycle : Nat} (tracked : run.Tracked cycle)
    (access : (run.state cycle).memWb.lsuEnWb = true) :
    (run.state cycle).lsu.unalignQ = false := by
  cases split : (run.state cycle).lsu.unalignQ with
  | false => rfl
  | true =>
      rw [tracked.splitBefore split] at access
      cases access

/-- A response finds the access in WB, or the first half of the one in MEM. -/
theorem Tracked.access_of_lsuValid {cycle : Nat} (tracked : run.Tracked cycle)
    (inOrder : InOrder (fun _ _ => True) run.dataBus)
    (valid : (run.state cycle).lsuValidWb (run.inputs cycle) = true) :
    (run.state cycle).memWb.lsuEnWb = true := by
  rw [lsuValidWb_eq, Bool.and_eq_true, Bool.not_eq_true'] at valid
  cases access : (run.state cycle).memWb.lsuEnWb with
  | true => rfl
  | false =>
      rcases tracked.notInWb access with empty | ⟨split, -⟩
      · exact (opsInFlight_of_valid inOrder valid.2 empty).elim
      · rw [valid.1] at split
        cases split

theorem busError_iff {cycle : Nat} :
    (run.state cycle).busError (run.inputs cycle) = true ↔
      (run.state cycle).fsm = .idle ∧ (run.state cycle).lsuValidWb (run.inputs cycle) = true ∧
        (run.state cycle).lsuErrWb (run.inputs cycle) = true := by
  rw [CoreState.busError, Bool.and_eq_true, Bool.and_eq_true, beq_iff_eq, and_assoc]

/-- A final error response leaves the access in WB for ever. -/
theorem Tracked.stuck_succ {cycle : Nat} (tracked : run.Tracked cycle)
    (inOrder : InOrder (fun _ _ => True) run.dataBus)
    (error : (run.state cycle).busError (run.inputs cycle) = true) : run.Stuck (cycle + 1) := by
  obtain ⟨idle, valid, isError⟩ := busError_iff.mp error
  have access := tracked.access_of_lsuValid inOrder valid
  have answered := valid
  rw [lsuValidWb_eq, Bool.and_eq_true] at answered
  apply stuck_succ_of_notReadyWb inOrder access (tracked.whole_of_access access)
  · cases marker : (run.state cycle).memWb.excTakenWb with
    | false => rfl
    | true =>
        rw [(tracked.behind.wb marker).2] at access
        cases access
  · rw [CoreState.readyWb, WbStage.readyWb, if_pos access, isError, Bool.not_true, Bool.and_false]
  · rw [run.state_succ, CoreState.fsm_step_idle idle]
    split
    · exact .inr rfl
    · exact .inl rfl
  · rw [answered.2, if_pos rfl, tracked.inWb access]
    rfl

/-- Without a final error, WB lets the next access in with the response. -/
theorem Tracked.readyWb_of_valid {cycle : Nat} (tracked : run.Tracked cycle)
    (noError : (run.state cycle).busError (run.inputs cycle) = false)
    (access : (run.state cycle).memWb.lsuEnWb = true)
    (valid : (run.dataBus cycle).valid = true) :
    (run.state cycle).readyWb (run.inputs cycle) = true := by
  have lsuValid : (run.state cycle).lsuValidWb (run.inputs cycle) = true := by
    rw [lsuValidWb_eq, tracked.whole_of_access access, valid]
    rfl
  rw [CoreState.busError, tracked.idle_of_access access, lsuValid] at noError
  have isNone : (run.state cycle).lsuErrWb (run.inputs cycle) = false := noError
  rw [CoreState.readyWb, WbStage.readyWb, if_pos access, lsuValid, isNone]
  rfl

theorem Tracked.succ_of_grant {cycle : Nat} (tracked : run.Tracked cycle)
    (inOrder : InOrder (fun _ _ => True) run.dataBus) (second : ∀ last, run.SecondAfterFirst last)
    (behind : (run.state (cycle + 1)).NoAccessBehindMarker)
    (grant : (run.dataBus cycle).gnt = true) : run.Tracked (cycle + 1) := by
  have request := inOrder.requested cycle grant
  obtain ⟨access, readyWb, noFlush⟩ := CoreState.access_of_dataReq request
  obtain ⟨inWb, -, -⟩ := CoreState.lsuEnWb_step_of_grant run.params tracked.behind.owned
    request grant
  rw [← run.state_succ] at inWb
  have one := opsInFlight_succ inOrder cycle
  rw [tracked.remaining_of_grant inOrder second grant, grant, if_pos rfl, List.nil_append] at one
  refine ⟨behind, ?_, ?_, ?_⟩
  · intro split
    rw [inWb, split, Bool.not_true]
  · intro entered
    cases readyMem : (run.state cycle).readyMem (run.inputs cycle) with
    | true =>
        rw [one, run.state_succ, CoreState.lsuOpWb_step_of_readyMem noFlush readyMem]
    | false =>
        rw [run.state_succ, CoreState.memWb_step_of_bubble readyWb readyMem] at entered
        cases entered
  · intro notEntered
    have split := notEntered
    rw [inWb, Bool.not_eq_false'] at split
    refine .inr ⟨split, ?_⟩
    cases readyMem : (run.state cycle).readyMem (run.inputs cycle) with
    | true =>
        rw [run.state_succ, (CoreState.memWb_step_of_readyMem noFlush readyMem).1, access]
          at notEntered
        cases notEntered
    | false => rw [one, run.lsuOpMem_succ_of_waits readyMem]

theorem Tracked.succ_of_noGrant {cycle : Nat} (tracked : run.Tracked cycle)
    (inOrder : InOrder (fun _ _ => True) run.dataBus)
    (behind : (run.state (cycle + 1)).NoAccessBehindMarker)
    (noError : (run.state cycle).busError (run.inputs cycle) = false)
    (noGrant : (run.dataBus cycle).gnt = false) : run.Tracked (cycle + 1) := by
  have stays := CoreState.lsuEnWb_step_of_noGrant run.params (run.state cycle) noGrant
  rw [← run.state_succ] at stays
  have sameHalf := unalignQ_of_noGrant noGrant
  have next := opsInFlight_succ inOrder cycle
  rw [noGrant, if_neg Bool.false_ne_true, List.append_nil] at next
  refine ⟨behind, ?_, ?_, ?_⟩
  · intro split
    rw [stays, tracked.splitBefore (sameHalf ▸ split), Bool.false_and]
  · intro kept
    rw [stays, Bool.and_eq_true, Bool.not_eq_true'] at kept
    have noAnswer : (run.dataBus cycle).valid = false := by
      cases valid : (run.dataBus cycle).valid with
      | false => rfl
      | true =>
          rw [tracked.readyWb_of_valid noError kept.1 valid] at kept
          cases kept.2
    rw [next, noAnswer, if_neg (by decide), tracked.inWb kept.1, run.state_succ,
      CoreState.lsuOpWb_step_of_notReady kept.2]
  · intro noAccess
    cases access : (run.state cycle).memWb.lsuEnWb with
    | true =>
        rw [stays, access, Bool.true_and, Bool.not_eq_false', CoreState.readyWb, WbStage.readyWb,
          if_pos access, Bool.and_eq_true, lsuValidWb_eq, Bool.and_eq_true] at noAccess
        rw [next, noAccess.1.2, if_pos rfl, tracked.inWb access]
        exact .inl rfl
    | false =>
        rcases tracked.notInWb access with empty | ⟨split, one⟩
        · rw [next, empty, List.tail_nil, ite_self]
          exact .inl rfl
        · cases valid : (run.dataBus cycle).valid with
          | true =>
              rw [next, valid, if_pos rfl, one]
              exact .inl rfl
          | false =>
              rw [next, valid, if_neg (by decide), one, sameHalf]
              refine .inr ⟨split, ?_⟩
              rw [run.lsuOpMem_succ_of_waits (tracked.waits_of_split split noGrant)]

/-- The requests in flight stay those of the accesses in the pipeline up to a bus error. -/
theorem Tracked.succ {cycle : Nat} (tracked : run.Tracked cycle)
    (inOrder : InOrder (fun _ _ => True) run.dataBus) (second : ∀ last, run.SecondAfterFirst last)
    (noneBehind : (run.state cycle).accessBehindMarker run.params (run.inputs cycle) = false)
    (noError : (run.state cycle).busError (run.inputs cycle) = false) :
    run.Tracked (cycle + 1) := by
  have behind : (run.state (cycle + 1)).NoAccessBehindMarker := by
    rw [run.state_succ]
    exact CoreState.noAccessBehindMarker_step tracked.behind (run.exOneUnit cycle)
      (inOrder.requested cycle) noneBehind noError
  cases grant : (run.dataBus cycle).gnt with
  | true => exact tracked.succ_of_grant inOrder second behind grant
  | false => exact tracked.succ_of_noGrant inOrder behind noError grant

theorem tracked_zero (run : CoreRun) : run.Tracked 0 where
  behind := CoreState.noAccessBehindMarker_reset run.bootAddr
  splitBefore := fun _ => rfl
  inWb := fun access => by cases access
  notInWb := fun _ => .inl rfl

theorem tracked_or_stuck (inOrder : InOrder (fun _ _ => True) run.dataBus)
    (second : ∀ last, run.SecondAfterFirst last)
    (noneBehind : ∀ cycle,
      (run.state cycle).accessBehindMarker run.params (run.inputs cycle) = false) (cycle : Nat) :
    run.Tracked cycle ∨ run.Stuck cycle := by
  induction cycle with
  | zero => exact .inl run.tracked_zero
  | succ cycle induction =>
      rcases induction with tracked | stuck
      · cases error : (run.state cycle).busError (run.inputs cycle) with
        | true => exact .inr (tracked.stuck_succ inOrder error)
        | false => exact .inl (tracked.succ inOrder second (noneBehind cycle) error)
      · exact .inr (stuck.succ inOrder)

end CoreRun

end RiscvCore
