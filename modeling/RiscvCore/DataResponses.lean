import RiscvCore.DataRequests

/-!
# Responses on the data bus

The load/store unit takes a response for the first half of a split access while `unalign_q` is
set, and for the final response of the access in WB otherwise.  That is right as long as the
second half is not granted before the first half is answered.
-/

namespace RiscvCore

open BusProtocol (InOrder pending answersBefore grantsBefore)
open SynchronousRun (collected occurrences)

namespace CoreState

variable (st : CoreState) (port : CoreInput)

/-- The load or store in WB completes. -/
def completesWb : Bool :=
  st.memWb.lsuEnWb && st.lsuValidWb port && (st.readyWb port || st.lsuErrWb port)

variable {params : Params} {st : CoreState} {port : CoreInput}

theorem lsuValidWb_eq : st.lsuValidWb port = (!st.lsu.unalignQ && port.dataValid) := rfl

theorem lsuEnWb_step_of_flush (params : Params) (flush : st.flushE = true)
    (readyWb : st.readyWb port = true) : (st.step params port).memWb.lsuEnWb = false := by
  simp [step, nextMemWb, MemStage.nextOperation, flush, readyWb]

/-- Without a grant nothing enters WB. -/
theorem lsuEnWb_step_of_noGrant (params : Params) (st : CoreState)
    (noGrant : port.dataGnt = false) :
    (st.step params port).memWb.lsuEnWb = (st.memWb.lsuEnWb && !st.readyWb port) := by
  cases readyWb : st.readyWb port with
  | false => rw [(memWb_step_of_notReady readyWb).1, Bool.not_false, Bool.and_true]
  | true =>
      rw [Bool.not_true, Bool.and_false]
      cases flush : st.flushE with
      | true => exact lsuEnWb_step_of_flush params flush readyWb
      | false =>
          cases access : st.exMem.lsuEnMem with
          | true => exact memWb_step_of_bubble readyWb (readyMem_of_noGrant flush access noGrant)
          | false =>
              have ready := readyMem_of_noAccess readyWb access
              rw [(memWb_step_of_readyMem flush ready).1, access]

theorem leavingAccess_of_noGrant (noFlush : st.flushE = false)
    (noGrant : port.dataGnt = false) : st.leavingAccess port = none := by
  cases access : st.exMem.lsuEnMem with
  | true =>
      rw [leavingAccess, readyMem_of_noGrant noFlush access noGrant]
      rfl
  | false =>
      rw [leavingAccess, access, Bool.and_false]
      rfl

/-- A grant moves the access to WB, unless it is the first of two. -/
theorem lsuEnWb_step_of_grant (params : Params) (owned : st.SplitOwned)
    (request : Lsu.dataReq (st.lsuAccess port) = true) (grant : port.dataGnt = true) :
    (st.step params port).memWb.lsuEnWb = !(st.step params port).lsu.unalignQ ∧
      (st.leavingAccess port).isSome = !(st.step params port).lsu.unalignQ ∧
      (st.lsu.unalignQ = true → (st.step params port).lsu.unalignQ = false) := by
  obtain ⟨access, readyWb, noFlush⟩ := access_of_dataReq request
  have ready := readyMem_of_dataReq request
  have unalignQ := unalignQ_step params st port
  rw [grant, Bool.and_true] at ready unalignQ
  have leaves : st.readyMem port = !(st.step params port).lsu.unalignQ := by
    rw [ready, unalignQ]
    cases second : st.lsu.unalignQ with
    | false => cases Lsu.reqUnalign (accessMem st.exMem) <;> rfl
    | true =>
        rw [(owned second).2]
        rfl
  refine ⟨?_, ?_, ?_⟩
  · cases readyMem : st.readyMem port with
    | false => rw [memWb_step_of_bubble readyWb readyMem, ← leaves, readyMem]
    | true => rw [(memWb_step_of_readyMem noFlush readyMem).1, access, ← leaves, readyMem]
  · rw [leavingAccess, access, Bool.and_true, ← leaves]
    cases st.readyMem port <;> rfl
  · intro second
    rw [unalignQ, second]
    rfl

/-- A load or store in WB lets the next one in with its response. -/
theorem completesWb_of_readyWb (readyWb : st.readyWb port = true) :
    st.completesWb port = st.memWb.lsuEnWb := by
  cases access : st.memWb.lsuEnWb with
  | false => simp [completesWb, access]
  | true =>
      have ready := readyWb
      rw [CoreState.readyWb, WbStage.readyWb, if_pos access, Bool.and_eq_true] at ready
      rw [completesWb, access, ready.1, readyWb]
      rfl

theorem completesWb_of_notReadyWb (noError : st.lsuValidWb port = true → st.lsuErrWb port = false)
    (notReady : st.readyWb port = false) : st.completesWb port = false := by
  cases access : st.memWb.lsuEnWb with
  | false => simp [completesWb, access]
  | true =>
      have waits := notReady
      rw [CoreState.readyWb, WbStage.readyWb, if_pos access] at waits
      cases valid : st.lsuValidWb port with
      | false => simp [completesWb, valid]
      | true =>
          rw [valid, noError valid] at waits
          cases waits

/-- A response completes the load or store in WB, with or without an error. -/
theorem completesWb_eq (access : st.memWb.lsuEnWb = true) :
    st.completesWb port = st.lsuValidWb port := by
  rw [completesWb, access, CoreState.readyWb, WbStage.readyWb, if_pos access]
  cases st.lsuValidWb port <;> cases st.lsuErrWb port <;> rfl

end CoreState

namespace CoreRun

variable (run : CoreRun)

/-- The response of a cycle is that to the last request of the newest access that has left MEM. -/
def AnswersFinal (cycle : Nat) : Prop :=
  (run.dataBus cycle).valid = true ∧
    answersBefore run.dataBus cycle + 1 =
      ((collected run.leavingAccess cycle).flatMap Lsu.requests).length

/-- It is that to the first request of the access in MEM. -/
def AnswersFirst (cycle : Nat) : Prop :=
  (run.dataBus cycle).valid = true ∧
    answersBefore run.dataBus cycle =
      ((collected run.leavingAccess cycle).flatMap Lsu.requests).length

def completes (cycle : Nat) : Bool := (run.state cycle).completesWb (run.inputs cycle)

/-- Whenever the second half of an access is granted, the first half has been answered or is
answered in that cycle. -/
def SecondAfterFirst (last : Nat) : Prop :=
  ∀ cycle, cycle < last → (run.state cycle).lsu.unalignQ = true →
    (run.dataBus cycle).gnt = true →
      (pending run.dataBus cycle).length ≤ (run.dataBus cycle).valid.toNat

/-- The requests in flight: one while a load or store is in WB, and otherwise at most the first
half of the access in MEM. -/
structure InFlight (cycle : Nat) : Prop where
  inWb : (run.state cycle).memWb.lsuEnWb = true →
    (run.state cycle).lsu.unalignQ = false ∧ (pending run.dataBus cycle).length = 1
  notInWb : (run.state cycle).memWb.lsuEnWb = false →
    (pending run.dataBus cycle).length ≤ (run.state cycle).lsu.unalignQ.toNat

variable {run}

theorem lsuValidWb_eq (cycle : Nat) :
    (run.state cycle).lsuValidWb (run.inputs cycle) =
      (!(run.state cycle).lsu.unalignQ && (run.dataBus cycle).valid) := rfl

theorem valid_le_pending (inOrder : InOrder (fun _ _ => True) run.dataBus) (cycle : Nat) :
    (run.dataBus cycle).valid.toNat ≤ (pending run.dataBus cycle).length := by
  cases valid : (run.dataBus cycle).valid with
  | false => exact Nat.zero_le _
  | true =>
      obtain ⟨addr, rest, queue, -⟩ := inOrder.answered cycle valid
      rw [queue]
      exact Nat.succ_le_succ (Nat.zero_le _)

theorem length_pending_succ (inOrder : InOrder (fun _ _ => True) run.dataBus) (cycle : Nat) :
    (pending run.dataBus (cycle + 1)).length + (run.dataBus cycle).valid.toNat =
      (pending run.dataBus cycle).length + (run.dataBus cycle).gnt.toNat := by
  have nonempty := valid_le_pending inOrder cycle
  rw [BusProtocol.pending_succ, BusProtocol.nextPending,
    BusProtocol.Cycle.granted_of_requested (inOrder.requested cycle), List.length_append]
  cases valid : (run.dataBus cycle).valid
  · cases (run.dataBus cycle).gnt <;> simp
  · rw [valid, Bool.toNat_true] at nonempty
    rw [if_pos rfl, List.length_tail]
    cases (run.dataBus cycle).gnt <;> simp <;> omega

theorem noError {cycle : Nat} (idle : (run.state cycle).fsm = .idle)
    (nextIdle : (run.state (cycle + 1)).fsm = .idle)
    (valid : (run.state cycle).lsuValidWb (run.inputs cycle) = true) :
    (run.state cycle).lsuErrWb (run.inputs cycle) = false := by
  rw [run.state_succ] at nextIdle
  exact CoreState.lsuErr_of_idle idle nextIdle valid

/-- A load or store in WB waits exactly for a response. -/
theorem readyWb_of_access {cycle : Nat} (idle : (run.state cycle).fsm = .idle)
    (nextIdle : (run.state (cycle + 1)).fsm = .idle)
    (access : (run.state cycle).memWb.lsuEnWb = true) :
    (run.state cycle).readyWb (run.inputs cycle) =
      (run.state cycle).lsuValidWb (run.inputs cycle) := by
  rw [CoreState.readyWb, WbStage.readyWb, if_pos access]
  cases valid : (run.state cycle).lsuValidWb (run.inputs cycle) with
  | false => rfl
  | true =>
      rw [noError idle nextIdle valid]
      rfl

/-- A grant finds every earlier request answered. -/
theorem length_pending_of_grant {last cycle : Nat}
    (inOrder : InOrder (fun _ _ => True) run.dataBus) (second : run.SecondAfterFirst last)
    (inside : cycle < last) (inFlight : run.InFlight cycle)
    (grant : (run.dataBus cycle).gnt = true) :
    (pending run.dataBus cycle).length ≤ (run.dataBus cycle).valid.toNat := by
  cases split : (run.state cycle).lsu.unalignQ with
  | true => exact second cycle inside split grant
  | false =>
      cases access : (run.state cycle).memWb.lsuEnWb with
      | false =>
          have none := inFlight.notInWb access
          rw [split, Bool.toNat_false] at none
          omega
      | true =>
          obtain ⟨-, one⟩ := inFlight.inWb access
          obtain ⟨-, readyWb, -⟩ := CoreState.access_of_dataReq (inOrder.requested cycle grant)
          have answered : (run.state cycle).lsuValidWb (run.inputs cycle) = true := by
            rw [CoreState.readyWb, WbStage.readyWb, if_pos access, Bool.and_eq_true] at readyWb
            exact readyWb.1
          rw [lsuValidWb_eq, split, Bool.not_false, Bool.true_and] at answered
          rw [answered, one]
          exact Nat.le_refl 1

theorem inFlight {last : Nat} (idle : run.IdleThrough last)
    (inOrder : InOrder (fun _ _ => True) run.dataBus) (second : run.SecondAfterFirst last)
    {cycle : Nat} (inside : cycle ≤ last) : run.InFlight cycle := by
  induction cycle with
  | zero => exact ⟨(fun access => by cases access), fun _ => Nat.le_refl _⟩
  | succ cycle induction =>
      have before := induction (by omega)
      have idleNow := idle cycle (by omega)
      have count := length_pending_succ inOrder cycle
      cases grant : (run.dataBus cycle).gnt with
      | false =>
          have stays := CoreState.lsuEnWb_step_of_noGrant run.params (run.state cycle) grant
          have unalignQ := run.unalignQ_succ cycle
          rw [← run.state_succ] at stays
          rw [grant, Bool.and_false] at unalignQ
          have sameHalf : (run.state (cycle + 1)).lsu.unalignQ = (run.state cycle).lsu.unalignQ :=
            unalignQ
          rw [grant, Bool.toNat_false] at count
          cases access : (run.state cycle).memWb.lsuEnWb with
          | false =>
              have few := before.notInWb access
              rw [access, Bool.false_and] at stays
              refine ⟨fun inWb => ?_, fun _ => ?_⟩
              · rw [stays] at inWb
                cases inWb
              · rw [sameHalf]
                omega
          | true =>
              obtain ⟨whole, one⟩ := before.inWb access
              have ready := readyWb_of_access idleNow (idle (cycle + 1) inside) access
              rw [lsuValidWb_eq, whole, Bool.not_false, Bool.true_and] at ready
              rw [access, ready, Bool.true_and] at stays
              rw [one] at count
              refine ⟨fun inWb => ⟨sameHalf.trans whole, ?_⟩, fun notInWb => ?_⟩
              · rw [stays, Bool.not_eq_true'] at inWb
                rw [inWb, Bool.toNat_false] at count
                exact count
              · rw [stays, Bool.not_eq_false'] at notInWb
                rw [notInWb, Bool.toNat_true] at count
                omega
      | true =>
          have ownedNow : (run.state cycle).SplitOwned :=
            splitOwned idle inOrder.requested (by omega)
          obtain ⟨inWb, -, -⟩ := CoreState.lsuEnWb_step_of_grant run.params ownedNow
            (inOrder.requested cycle grant) grant
          rw [← run.state_succ] at inWb
          have few := length_pending_of_grant inOrder second (by omega) before grant
          rw [grant, Bool.toNat_true] at count
          refine ⟨fun access => ⟨?_, ?_⟩, fun noAccess => ?_⟩
          · rw [inWb, Bool.not_eq_true'] at access
            exact access
          · have some := valid_le_pending inOrder cycle
            omega
          · rw [inWb, Bool.not_eq_false'] at noAccess
            rw [noAccess, Bool.toNat_true]
            omega

/-- The requests granted before a cycle are the answered ones and those in flight. -/
theorem answersBefore_add_pending {last : Nat} (idle : run.IdleThrough last)
    (inOrder : InOrder (fun _ _ => True) run.dataBus) {cycle : Nat} (inside : cycle ≤ last) :
    answersBefore run.dataBus cycle + (pending run.dataBus cycle).length =
      ((collected run.leavingAccess cycle).flatMap Lsu.requests).length +
        (run.state cycle).lsu.unalignQ.toNat := by
  have grants : grantsBefore run.dataBus cycle = (collected run.grantedRequest cycle).length := by
    clear inside
    induction cycle with
    | zero => rfl
    | succ cycle induction =>
        rw [BusProtocol.grantsBefore_succ, SynchronousRun.collected_succ, List.length_append,
          induction]
        have same : (run.dataBus cycle).granted = (run.grantedRequest cycle).isSome := by
          change (_ && _) = Option.isSome (ite _ _ _)
          split
          · assumption
          · rename_i notGranted
            rw [Bool.not_eq_true] at notGranted
            exact notGranted
        rw [same]
        cases run.grantedRequest cycle <;> rfl
  rw [inOrder.length_pending, grants, granted_eq idle inOrder.requested (by omega),
    List.length_append, CoreState.grantedInMem]
  cases (run.state cycle).lsu.unalignQ <;> rfl

/-- Every access that has left MEM has completed, except the one in WB. -/
theorem completions {last : Nat} (idle : run.IdleThrough last)
    (inOrder : InOrder (fun _ _ => True) run.dataBus) {cycle : Nat} (inside : cycle ≤ last) :
    occurrences run.completes 0 cycle + (run.state cycle).memWb.lsuEnWb.toNat =
      (collected run.leavingAccess cycle).length := by
  induction cycle with
  | zero => rfl
  | succ cycle induction =>
      have before := induction (by omega)
      have idleNow := idle cycle (by omega)
      have nextIdle := idle (cycle + 1) inside
      rw [SynchronousRun.occurrences_succ _ (Nat.zero_le cycle), SynchronousRun.collected_succ,
        List.length_append, ← before]
      cases grant : (run.dataBus cycle).gnt with
      | false =>
          have stays := CoreState.lsuEnWb_step_of_noGrant run.params (run.state cycle) grant
          have leaves := CoreState.leavingAccess_of_noGrant
            (CoreState.flushE_of_idle idleNow) grant
          rw [run.state_succ, stays, leavingAccess, leaves]
          cases readyWb : (run.state cycle).readyWb (run.inputs cycle) with
          | true =>
              rw [completes, CoreState.completesWb_of_readyWb readyWb]
              simp
          | false =>
              rw [completes, CoreState.completesWb_of_notReadyWb (noError idleNow nextIdle) readyWb]
              simp
      | true =>
          have request := inOrder.requested cycle grant
          obtain ⟨inWb, leaves, -⟩ := CoreState.lsuEnWb_step_of_grant run.params
            (splitOwned idle inOrder.requested (by omega)) request grant
          obtain ⟨-, readyWb, -⟩ := CoreState.access_of_dataReq request
          rw [run.state_succ, inWb, ← leaves, leavingAccess, completes,
            CoreState.completesWb_of_readyWb readyWb]
          cases (run.state cycle).leavingAccess (run.inputs cycle) <;> simp

/-! ## Every response is credited to its own request -/

/-- The loads and stores up to the given cycle and the responses. -/
structure ResponsesCredited (run : CoreRun) (last : Nat) : Prop where
  /-- Every access that leaves MEM completes once, in order. -/
  inTurn : ∀ cycle, cycle ≤ last →
    occurrences run.completes 0 cycle + (run.state cycle).memWb.lsuEnWb.toNat =
      (collected run.leavingAccess cycle).length
  /-- It completes in the cycle of its final response. -/
  onFinal : ∀ cycle, cycle ≤ last → (run.state cycle).memWb.lsuEnWb = true →
    (run.completes cycle = true ↔ run.AnswersFinal cycle)
  /-- Every response is that final one, or the first one of the access in MEM. -/
  own : ∀ cycle, cycle ≤ last → (run.dataBus cycle).valid = true →
    ((run.state cycle).memWb.lsuEnWb = true ∧ run.AnswersFinal cycle) ∨
      ((run.state cycle).memWb.lsuEnWb = false ∧ (run.state cycle).lsu.unalignQ = true ∧
        run.AnswersFirst cycle)
  /-- While a split access is in WB, the unit holds the upper bytes of its first response. -/
  firstBytes : ∀ cycle, cycle ≤ last → (run.state cycle).memWb.lsuEnWb = true →
    ∀ access, (collected run.leavingAccess cycle).getLast? = some access →
      4 < (Lsu.addrOffset access).toNat + Lsu.accessBytes access.lsuDtype →
        ∀ first, first < cycle → (run.dataBus first).valid = true →
          answersBefore run.dataBus first + 2 =
            ((collected run.leavingAccess cycle).flatMap Lsu.requests).length →
          (run.state cycle).lsu.dataRdataQ = (run.dataBus first).data.1.extractLsb' 8 24

theorem answersBefore_of_inWb {last : Nat} (idle : run.IdleThrough last)
    (inOrder : InOrder (fun _ _ => True) run.dataBus) (second : run.SecondAfterFirst last)
    {cycle : Nat} (inside : cycle ≤ last) (access : (run.state cycle).memWb.lsuEnWb = true) :
    answersBefore run.dataBus cycle + 1 =
      ((collected run.leavingAccess cycle).flatMap Lsu.requests).length := by
  have count := answersBefore_add_pending idle inOrder inside
  obtain ⟨whole, one⟩ := (inFlight idle inOrder second inside).inWb access
  rw [one, whole] at count
  exact count

theorem completes_iff_answersFinal {last : Nat} (idle : run.IdleThrough last)
    (inOrder : InOrder (fun _ _ => True) run.dataBus) (second : run.SecondAfterFirst last)
    {cycle : Nat} (inside : cycle ≤ last) (access : (run.state cycle).memWb.lsuEnWb = true) :
    run.completes cycle = true ↔ run.AnswersFinal cycle := by
  have whole := ((inFlight idle inOrder second inside).inWb access).1
  rw [completes, CoreState.completesWb_eq access, lsuValidWb_eq, whole, Bool.not_false,
    Bool.true_and, AnswersFinal]
  exact ⟨fun valid => ⟨valid, answersBefore_of_inWb idle inOrder second inside access⟩,
    fun final => final.1⟩

/-- A response while no load or store is in WB is that of a first half. -/
theorem answersFirst_of_notInWb {last : Nat} (idle : run.IdleThrough last)
    (inOrder : InOrder (fun _ _ => True) run.dataBus) (second : run.SecondAfterFirst last)
    {cycle : Nat} (inside : cycle ≤ last) (noAccess : (run.state cycle).memWb.lsuEnWb = false)
    (valid : (run.dataBus cycle).valid = true) :
    (run.state cycle).lsu.unalignQ = true ∧ run.AnswersFirst cycle := by
  have count := answersBefore_add_pending idle inOrder inside
  have few := (inFlight idle inOrder second inside).notInWb noAccess
  have some := valid_le_pending inOrder cycle
  rw [valid, Bool.toNat_true] at some
  cases split : (run.state cycle).lsu.unalignQ with
  | false =>
      rw [split, Bool.toNat_false] at few
      omega
  | true =>
      rw [split, Bool.toNat_true] at few count
      exact ⟨rfl, valid, by omega⟩

/-- Between the responses to the two halves there is none. -/
theorem noAnswer_between {first cycle : Nat} (valid : (run.dataBus first).valid = true)
    (next : answersBefore run.dataBus cycle = answersBefore run.dataBus first + 1) {between : Nat}
    (after : first < between) (below : between < cycle) :
    (run.dataBus between).valid = false := by
  cases another : (run.dataBus between).valid with
  | false => rfl
  | true =>
      have firstCounts := SynchronousRun.occurrences_lt (fun earlier => (run.dataBus earlier).valid)
        (Nat.zero_le first) valid after
      have secondCounts := SynchronousRun.occurrences_lt
        (fun earlier => (run.dataBus earlier).valid) (Nat.zero_le between) another below
      rw [answersBefore, answersBefore] at next
      omega

theorem dataRdataQ_of_first {first cycle : Nat} (before : first < cycle)
    (valid : (run.dataBus first).valid = true)
    (split : (run.state first).lsu.unalignQ = true)
    (next : answersBefore run.dataBus cycle = answersBefore run.dataBus first + 1) :
    (run.state cycle).lsu.dataRdataQ = (run.dataBus first).data.1.extractLsb' 8 24 := by
  have taken : (run.state (first + 1)).lsu.dataRdataQ =
      if (run.state first).lsu.unalignQ && (run.dataBus first).valid then
        (run.dataBus first).data.1.extractLsb' 8 24
      else (run.state first).lsu.dataRdataQ := rfl
  rw [split, valid, Bool.and_self, if_pos rfl] at taken
  rw [← taken]
  refine run.segment_constant (fun st => st.lsu.dataRdataQ) before fun between after below => ?_
  have kept : (run.state (between + 1)).lsu.dataRdataQ =
      if (run.state between).lsu.unalignQ && (run.dataBus between).valid then
        (run.dataBus between).data.1.extractLsb' 8 24
      else (run.state between).lsu.dataRdataQ := rfl
  rw [noAnswer_between valid next after below, Bool.and_false] at kept
  exact kept

theorem length_requests_le {access : Lsu.Access} {accesses : List Lsu.Access}
    (inside : access ∈ accesses) :
    (Lsu.requests access).length ≤ (accesses.flatMap Lsu.requests).length := by
  obtain ⟨older, younger, rfl⟩ := List.append_of_mem inside
  rw [List.flatMap_append, List.flatMap_cons, List.length_append, List.length_append]
  omega

/-- The last but one response to the requests so far, when the newest access is split, is that
to its first request. -/
theorem unalignQ_of_first {last : Nat} (idle : run.IdleThrough last)
    (inOrder : InOrder (fun _ _ => True) run.dataBus) (second : run.SecondAfterFirst last)
    {first cycle : Nat} (before : first < cycle) (inside : cycle ≤ last) {access : Lsu.Access}
    (newest : (collected run.leavingAccess cycle).getLast? = some access)
    (splits : (Lsu.requests access).length = 2) (valid : (run.dataBus first).valid = true)
    (rank : answersBefore run.dataBus first + 2 =
      ((collected run.leavingAccess cycle).flatMap Lsu.requests).length) :
    (run.state first).lsu.unalignQ = true := by
  cases inWb : (run.state first).memWb.lsuEnWb with
  | false => exact (answersFirst_of_notInWb idle inOrder second (by omega) inWb valid).1
  | true =>
      have count := answersBefore_of_inWb idle inOrder second (by omega) inWb
      obtain ⟨more, longer⟩ := SynchronousRun.collected_prefix run.leavingAccess
        (Nat.le_of_lt before)
      rw [← longer] at newest rank
      rw [List.flatMap_append, List.length_append] at rank
      cases more with
      | nil =>
          rw [List.flatMap_nil, List.length_nil] at rank
          omega
      | cons head tail =>
          rw [List.getLast?_append_of_ne_nil _ (List.cons_ne_nil head tail)] at newest
          have isLast := length_requests_le (List.mem_of_getLast? newest)
          omega

theorem responsesCredited_of_secondAfterFirst (run : CoreRun) (last : Nat)
    (idle : run.IdleThrough last) (inOrder : InOrder (fun _ _ => True) run.dataBus)
    (second : run.SecondAfterFirst last) : run.ResponsesCredited last where
  inTurn := fun cycle inside => completions idle inOrder inside
  onFinal := fun cycle inside access => completes_iff_answersFinal idle inOrder second inside access
  own := by
    intro cycle inside valid
    cases access : (run.state cycle).memWb.lsuEnWb with
    | true =>
        exact Or.inl ⟨rfl, valid, answersBefore_of_inWb idle inOrder second inside access⟩
    | false =>
        exact Or.inr ⟨rfl, answersFirst_of_notInWb idle inOrder second inside access valid⟩
  firstBytes := by
    intro cycle inside inWb access newest splits first before valid rank
    have twoRequests : (Lsu.requests access).length = 2 := by
      rw [Lsu.requests, if_pos splits]
      rfl
    have count := answersBefore_of_inWb idle inOrder second inside inWb
    have split := unalignQ_of_first idle inOrder second before inside newest twoRequests valid rank
    exact dataRdataQ_of_first before valid split (by omega)

/-- A memory that answers in the next cycle answers every first half in time. -/
theorem secondAfterFirst_of_surroundings (around : Surroundings) (last : Nat) :
    around.coreRun.SecondAfterFirst last := by
  intro cycle _ _ _
  exact Nat.le_of_eq (BusProtocol.length_pending_of_immediate rfl around.valid_dataBus_succ cycle)

/-- The responses to the two halves of a load. -/
theorem responsesCredited_splitLoad : Surroundings.splitLoad.coreRun.ResponsesCredited 12 := by
  refine responsesCredited_of_secondAfterFirst _ 12 ?_ Surroundings.splitLoad.wellConnected.data ?_
  · intro cycle inside
    rw [Surroundings.state_coreRun]
    revert cycle
    decide +kernel
  · unfold SecondAfterFirst
    decide +kernel

/-- One fetched word, `lw x1, 2(x0)`: the data bus grants its two requests in cycles 5 and 6 and
answers them in cycles 8 and 9. -/
def lateResponses : CoreRun where
  params := defaultParams
  bootAddr := 0#32
  inputs := fun cycle =>
    { externIrq := false
      softIrq := false
      timerIrq := false
      hartId := 0#32
      instrGnt := decide (cycle = 1)
      instrRdata := 0x00202083#32
      instrErr := false
      instrValid := decide (cycle = 2)
      dataGnt := decide (cycle = 5) || decide (cycle = 6)
      dataRdata := 0#32
      dataValid := decide (cycle = 8) || decide (cycle = 9)
      dataError := false
      undriven := { mscratchQ := 0#32, mtvalQ := 0#32 } }

theorem inOrder_lateResponses : InOrder (fun _ _ => True) lateResponses.dataBus := by
  refine BusProtocol.inOrder_of_silent 10 (fun cycle late => ?_) ?_ ?_
  · change (decide (cycle = 5) || decide (cycle = 6)) = false ∧
      (decide (cycle = 8) || decide (cycle = 9)) = false
    simp
    omega
  · decide +kernel
  · decide +kernel

/-- The response to the first half completes the load. -/
theorem responsesCredited_fails :
    ¬ ∀ (run : CoreRun) (last : Nat), run.IdleThrough last →
      InOrder (fun _ _ => True) run.dataBus → run.ResponsesCredited last := by
  intro credited
  have idle : lateResponses.IdleThrough 8 := by
    unfold IdleThrough
    decide +kernel
  have inWb : (lateResponses.state 8).memWb.lsuEnWb = true := by decide +kernel
  have completes : lateResponses.completes 8 = true := by decide +kernel
  have final := (credited lateResponses 8 idle inOrder_lateResponses).onFinal 8 (Nat.le_refl 8) inWb
  have rank := (final.mp completes).2
  revert rank
  decide +kernel

end CoreRun

end RiscvCore
