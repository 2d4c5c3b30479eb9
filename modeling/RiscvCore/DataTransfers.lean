import RiscvCore.ByteMemory
import RiscvCore.DataResponses

/-!
# Transfers on the data bus

One access of MEM from the cycle in which it enters MEM to the one in which it leaves it, with the
one or two requests granted in between.  As long as no flush finds an access between its two
requests, each access starts with its own word, whatever traps the run takes.
-/

namespace RiscvCore

open BusProtocol (InOrder pending)
open ByteMemory (Memory)
open SynchronousRun (FirstFrom)

/-- What a granted request does to the memory behind the bus. -/
def DataRequest.apply (memory : Memory) (request : DataRequest) : Memory :=
  if request.dataWr then
    ByteMemory.writeLanes memory request.dataAddr request.dataBe request.dataWdata
  else memory

theorem Lsu.toNat_addrOffset (access : Lsu.Access) :
    (Lsu.addrOffset access).toNat = ByteMemory.lane access.lsuAddr := by
  rw [Lsu.addrOffset, BitVec.extractLsb'_toNat, Nat.shiftRight_zero, ByteMemory.lane]

namespace CoreRun

variable (run : CoreRun)

/-- The memory behind the data bus, written by the granted requests. -/
def memory (initial : Memory) : Nat → Memory
  | 0 => initial
  | cycle + 1 => (run.grantedRequest cycle).toList.foldl DataRequest.apply (memory initial cycle)

/-- No flush finds an access between its two requests. -/
def SplitsUncut : Prop :=
  ∀ cycle, (run.state cycle).flushE = true → (run.state cycle).lsu.unalignQ = false

/-- What is in flight in a cycle.  An access in WB that received an error waits for ever with
nothing in flight. -/
structure AtMostOne (cycle : Nat) : Prop where
  owned : (run.state cycle).SplitOwned
  splitBefore : (run.state cycle).lsu.unalignQ = true → (run.state cycle).memWb.lsuEnWb = false
  inWb : (run.state cycle).memWb.lsuEnWb = true → (pending run.dataBus cycle).length ≤ 1
  notInWb : (run.state cycle).memWb.lsuEnWb = false →
    (pending run.dataBus cycle).length ≤ (run.state cycle).lsu.unalignQ.toNat

/-- One access in MEM: it enters after the cycle `before`, its first request is granted in
`first`, and it leaves in `leaves`, when its last request is granted. -/
structure Transfer (access : Lsu.Access) (before first leaves : Nat) : Prop where
  enters : (run.state before).readyMem (run.inputs before) = true
  inMem : (run.state (before + 1)).accessInMem = [access]
  first : FirstFrom (fun cycle => (run.dataBus cycle).granted = true) (before + 1) first
  hands : FirstFrom (fun cycle => (run.state cycle).readyMem (run.inputs cycle) = true)
    (before + 1) leaves
  lastGranted : (run.dataBus leaves).granted = true

deriving instance DecidableEq for Lsu.Access

instance (access : Lsu.Access) (before first leaves : Nat) :
    Decidable (run.Transfer access before first leaves) :=
  decidable_of_iff (_ ∧ _ ∧ FirstFrom _ _ _ ∧ FirstFrom _ _ _ ∧ _)
    ⟨fun ⟨enters, inMem, first, hands, last⟩ => ⟨enters, inMem, first, hands, last⟩,
      fun ⟨enters, inMem, first, hands, last⟩ => ⟨enters, inMem, first, hands, last⟩⟩

variable {run}

theorem unalignQ_of_noGrant {cycle : Nat} (noGrant : (run.dataBus cycle).gnt = false) :
    (run.state (cycle + 1)).lsu.unalignQ = (run.state cycle).lsu.unalignQ := by
  rw [run.unalignQ_succ, noGrant, Bool.and_false]
  rfl

theorem splitOwned_of_splitsUncut (whole : run.SplitsUncut) (grants : run.GrantsRequests)
    (cycle : Nat) : (run.state cycle).SplitOwned := by
  apply splitOwned_of_flushWaits grants
  intro earlier _ flush split
  rw [whole earlier flush] at split
  cases split

/-- A grant finds every earlier request answered. -/
theorem AtMostOne.length_pending_of_grant {cycle : Nat} (before : run.AtMostOne cycle)
    (inOrder : InOrder (fun _ _ => True) run.dataBus) (second : ∀ last, run.SecondAfterFirst last)
    (grant : (run.dataBus cycle).gnt = true) :
    (pending run.dataBus cycle).length ≤ (run.dataBus cycle).valid.toNat := by
  cases split : (run.state cycle).lsu.unalignQ with
  | true => exact second (cycle + 1) cycle (by omega) split grant
  | false =>
      cases access : (run.state cycle).memWb.lsuEnWb with
      | false =>
          have none := before.notInWb access
          rw [split, Bool.toNat_false] at none
          omega
      | true =>
          have one := before.inWb access
          obtain ⟨-, readyWb, -⟩ := CoreState.access_of_dataReq (inOrder.requested cycle grant)
          have answered : (run.state cycle).lsuValidWb (run.inputs cycle) = true := by
            rw [CoreState.readyWb, WbStage.readyWb, if_pos access, Bool.and_eq_true] at readyWb
            exact readyWb.1
          rw [lsuValidWb_eq, split, Bool.not_false, Bool.true_and] at answered
          rw [answered]
          exact one

theorem atMostOne_succ (whole : run.SplitsUncut)
    (inOrder : InOrder (fun _ _ => True) run.dataBus) (second : ∀ last, run.SecondAfterFirst last)
    {cycle : Nat} (before : run.AtMostOne cycle) : run.AtMostOne (cycle + 1) := by
  have ownedNext := splitOwned_of_splitsUncut whole inOrder.requested (cycle + 1)
  have count := length_pending_succ inOrder cycle
  cases grant : (run.dataBus cycle).gnt with
  | true =>
      obtain ⟨inWb, -, -⟩ := CoreState.lsuEnWb_step_of_grant run.params before.owned
        (inOrder.requested cycle grant) grant
      rw [← run.state_succ] at inWb
      have few := before.length_pending_of_grant inOrder second grant
      rw [grant, Bool.toNat_true] at count
      refine ⟨ownedNext, ?_, ?_, ?_⟩
      · intro split
        rw [inWb, split, Bool.not_true]
      · intro _
        omega
      · intro noAccess
        rw [inWb, Bool.not_eq_false'] at noAccess
        rw [noAccess, Bool.toNat_true]
        omega
  | false =>
      have stays := CoreState.lsuEnWb_step_of_noGrant run.params (run.state cycle) grant
      rw [← run.state_succ] at stays
      have sameHalf := unalignQ_of_noGrant grant
      rw [grant, Bool.toNat_false] at count
      refine ⟨ownedNext, ?_, ?_, ?_⟩
      · intro split
        rw [stays, before.splitBefore (sameHalf ▸ split), Bool.false_and]
      · intro access
        rw [stays, Bool.and_eq_true] at access
        have one := before.inWb access.1
        omega
      · intro noAccess
        cases access : (run.state cycle).memWb.lsuEnWb with
        | false =>
            have few := before.notInWb access
            rw [sameHalf]
            omega
        | true =>
            -- the access in WB has been answered
            have one := before.inWb access
            rw [stays, access, Bool.true_and, Bool.not_eq_false'] at noAccess
            have answered : (run.state cycle).lsuValidWb (run.inputs cycle) = true := by
              rw [CoreState.readyWb, WbStage.readyWb, if_pos access, Bool.and_eq_true] at noAccess
              exact noAccess.1
            rw [lsuValidWb_eq, Bool.and_eq_true] at answered
            rw [answered.2, Bool.toNat_true] at count
            omega

theorem atMostOne (whole : run.SplitsUncut)
    (inOrder : InOrder (fun _ _ => True) run.dataBus)
    (second : ∀ last, run.SecondAfterFirst last) (cycle : Nat) : run.AtMostOne cycle := by
  induction cycle with
  | zero =>
      refine ⟨?_, fun _ => rfl, ?_, fun _ => Nat.le_refl _⟩
      · intro split
        cases split
      · intro access
        cases access
  | succ cycle induction => exact atMostOne_succ whole inOrder second induction

namespace Transfer

variable {access : Lsu.Access} {before first leaves : Nat}
variable (transfer : run.Transfer access before first leaves)
include transfer

/-- MEM keeps the access until it leaves. -/
theorem accessInMem {cycle : Nat} (after : before < cycle) (inside : cycle ≤ leaves) :
    (run.state cycle).accessInMem = [access] := by
  rw [← transfer.inMem]
  refine run.segment_constant (fun st => st.accessInMem) after fun earlier lower upper => ?_
  rw [run.state_succ]
  refine CoreState.accessInMem_step_of_waits run.params ?_
  rw [← Bool.not_eq_true]
  exact transfer.hands.notBefore earlier lower (by omega)

/-- The access that enters MEM finds no other one half done. -/
theorem unalignQ_start (whole : run.SplitsUncut) (grants : run.GrantsRequests)
    (owned : (run.state before).SplitOwned) :
    (run.state (before + 1)).lsu.unalignQ = false := by
  have ready := transfer.enters
  cases grant : (run.dataBus before).gnt with
  | true =>
      have request := grants before grant
      obtain ⟨inMem, -, -⟩ := CoreState.access_of_dataReq request
      obtain ⟨-, isLeaving, -⟩ := CoreState.lsuEnWb_step_of_grant run.params owned request grant
      rw [CoreState.leavingAccess, ready, inMem, ← run.state_succ] at isLeaving
      simpa using isLeaving
  | false =>
      rw [unalignQ_of_noGrant grant]
      cases split : (run.state before).lsu.unalignQ with
      | false => rfl
      | true =>
          have noFlush : (run.state before).flushE = false := by
            cases flush : (run.state before).flushE with
            | false => rfl
            | true => rw [whole before flush] at split; cases split
          have waits := CoreState.readyMem_of_noGrant noFlush (owned split).1 grant
          rw [ready] at waits
          cases waits

theorem noGrant_before {cycle : Nat} (grants : run.GrantsRequests) (after : before < cycle)
    (inside : cycle < first) : (run.dataBus cycle).gnt = false := by
  have notGranted := transfer.first.notBefore cycle after inside
  rwa [BusProtocol.Cycle.granted_of_requested (grants cycle), Bool.not_eq_true] at notGranted

theorem unalignQ_until_first (whole : run.SplitsUncut) (grants : run.GrantsRequests)
    (owned : (run.state before).SplitOwned) {cycle : Nat} (after : before < cycle)
    (inside : cycle ≤ first) : (run.state cycle).lsu.unalignQ = false := by
  rw [← transfer.unalignQ_start whole grants owned]
  refine run.segment_constant (fun st => st.lsu.unalignQ) after fun earlier lower upper => ?_
  exact unalignQ_of_noGrant (transfer.noGrant_before grants lower (by omega))

theorem first_le_leaves : first ≤ leaves := by
  rcases Nat.lt_or_ge leaves first with early | ordered
  · exact absurd transfer.lastGranted (transfer.first.notBefore leaves transfer.hands.after early)
  · exact ordered

theorem first_inMem : (run.state first).accessInMem = [access] :=
  transfer.accessInMem transfer.first.after transfer.first_le_leaves

theorem dataReq_first : Lsu.dataReq ((run.state first).lsuAccess (run.inputs first)) = true ∧
    (run.dataBus first).gnt = true := by
  have granted := transfer.first.happens
  rwa [BusProtocol.Cycle.granted, Bool.and_eq_true] at granted

theorem readyMem_first (whole : (run.state first).lsu.unalignQ = false) :
    (run.state first).readyMem (run.inputs first) = !Lsu.reqUnalign access := by
  obtain ⟨request, grant⟩ := transfer.dataReq_first
  obtain ⟨-, isAccess⟩ := CoreState.accessInMem_eq_singleton_iff.mp transfer.first_inMem
  have granted : (run.inputs first).dataGnt = true := grant
  rw [CoreState.readyMem_of_dataReq request, isAccess, whole, granted]
  cases Lsu.reqUnalign access <;> rfl

/-- An access inside its word leaves with its first request. -/
theorem leaves_eq_first (whole : (run.state first).lsu.unalignQ = false)
    (inside : Lsu.reqUnalign access = false) : leaves = first := by
  have ready := transfer.readyMem_first whole
  rw [inside, Bool.not_false] at ready
  rcases Nat.lt_or_ge first leaves with later | notLater
  · exact absurd ready (transfer.hands.notBefore first transfer.first.after later)
  · exact Nat.le_antisymm notLater transfer.first_le_leaves

theorem first_lt_leaves (whole : (run.state first).lsu.unalignQ = false)
    (crosses : Lsu.reqUnalign access = true) : first < leaves := by
  have ready := transfer.readyMem_first whole
  rw [crosses, Bool.not_true] at ready
  rcases Nat.eq_or_lt_of_le transfer.first_le_leaves with rfl | later
  · rw [transfer.hands.happens] at ready
    cases ready
  · exact later

/-- Between its two requests an access waits for the second one to be granted. -/
theorem between (whole : (run.state first).lsu.unalignQ = false)
    (grants : run.GrantsRequests) (crosses : Lsu.reqUnalign access = true) {cycle : Nat}
    (after : first < cycle) (inside : cycle ≤ leaves) :
    (run.state cycle).lsu.unalignQ = true ∧
      (cycle < leaves → (run.dataBus cycle).gnt = false) := by
  have noGrant : ∀ cycle, first < cycle → cycle < leaves →
      (run.state cycle).lsu.unalignQ = true → (run.dataBus cycle).gnt = false := by
    intro cycle after before split
    cases grant : (run.dataBus cycle).gnt with
    | false => rfl
    | true =>
        -- the second request would let the access leave
        have granted : (run.inputs cycle).dataGnt = true := grant
        have inMem := transfer.accessInMem (Nat.lt_trans transfer.first.after after)
          (Nat.le_of_lt before)
        obtain ⟨-, isAccess⟩ := CoreState.accessInMem_eq_singleton_iff.mp inMem
        have ready := CoreState.readyMem_of_dataReq (grants cycle grant)
        rw [isAccess, if_pos crosses, split, granted] at ready
        exact absurd ready (transfer.hands.notBefore cycle
          (Nat.lt_trans transfer.first.after after) before)
  have split : (run.state cycle).lsu.unalignQ = true := by
    induction cycle with
    | zero => omega
    | succ cycle induction =>
        rcases Nat.eq_or_lt_of_le (Nat.le_of_lt_succ after) with rfl | later
        · obtain ⟨-, isAccess⟩ := CoreState.accessInMem_eq_singleton_iff.mp transfer.first_inMem
          rw [run.unalignQ_succ, transfer.dataReq_first.2, whole, if_neg (by simp), if_pos rfl,
            CoreState.reqUnalign_lsuAccess, isAccess, crosses]
        · have before := induction later (by omega)
          rw [unalignQ_of_noGrant (noGrant cycle later (by omega) before)]
          exact before
  exact ⟨split, fun before => noGrant cycle after before split⟩

theorem grantedRequest_eq {cycle : Nat} (granted : (run.dataBus cycle).granted = true)
    (after : before < cycle) (inside : cycle ≤ leaves) :
    run.grantedRequest cycle = some (Lsu.request access (run.state cycle).lsu.unalignQ) := by
  obtain ⟨-, isAccess⟩ :=
    CoreState.accessInMem_eq_singleton_iff.mp (transfer.accessInMem after inside)
  have now : (run.state cycle).grantedRequest (run.inputs cycle) =
      if (run.dataBus cycle).granted then some ((run.state cycle).dataRequest (run.inputs cycle))
      else none := rfl
  rw [grantedRequest, now, if_pos granted, CoreState.dataRequest_eq, isAccess]

end Transfer

theorem memory_of_noGrant (initial : Memory) {cycle : Nat}
    (noGrant : (run.dataBus cycle).gnt = false) :
    run.memory initial (cycle + 1) = run.memory initial cycle := by
  have now : run.grantedRequest cycle =
      if (run.dataBus cycle).req && (run.dataBus cycle).gnt then
        some ((run.state cycle).dataRequest (run.inputs cycle))
      else none := rfl
  rw [memory, now, noGrant, Bool.and_false]
  rfl

theorem memory_segment (initial : Memory) {first last : Nat} (ordered : first ≤ last)
    (noGrant : ∀ cycle, first ≤ cycle → cycle < last → (run.dataBus cycle).gnt = false) :
    run.memory initial last = run.memory initial first := by
  induction last with
  | zero =>
      obtain rfl : first = 0 := by omega
      rfl
  | succ last induction =>
      rcases Nat.eq_or_lt_of_le ordered with rfl | below
      · rfl
      · rw [memory_of_noGrant initial (noGrant last (by omega) (by omega))]
        exact induction (by omega) fun cycle after inside => noGrant cycle after (by omega)

/-- A transfer does to the memory what the requests of its access do. -/
theorem Transfer.memory_eq {access : Lsu.Access} {before first leaves : Nat}
    (transfer : run.Transfer access before first leaves) (whole : run.SplitsUncut)
    (grants : run.GrantsRequests) (owned : (run.state before).SplitOwned) (initial : Memory) :
    run.memory initial (leaves + 1) =
      (Lsu.requests access).foldl DataRequest.apply (run.memory initial (before + 1)) := by
  have start :=
    transfer.unalignQ_until_first whole grants owned transfer.first.after (Nat.le_refl _)
  have untilFirst := memory_segment initial transfer.first.after fun cycle after inside =>
    transfer.noGrant_before grants after inside
  have firstRequest := transfer.grantedRequest_eq transfer.first.happens transfer.first.after
    transfer.first_le_leaves
  rw [start] at firstRequest
  have afterFirst : run.memory initial (first + 1) =
      (Lsu.request access false).apply (run.memory initial (before + 1)) := by
    rw [memory, firstRequest, untilFirst]
    rfl
  rw [Lsu.requests_eq]
  cases crosses : Lsu.reqUnalign access with
  | false =>
      rw [transfer.leaves_eq_first start crosses, afterFirst]
      rfl
  | true =>
      have later := transfer.first_lt_leaves start crosses
      have untilLeaves := memory_segment initial later fun cycle after inside =>
        (transfer.between start grants crosses after (Nat.le_of_lt inside)).2 inside
      have secondRequest := transfer.grantedRequest_eq transfer.lastGranted
        (Nat.lt_trans transfer.first.after later) (Nat.le_refl _)
      rw [(transfer.between start grants crosses later (Nat.le_refl _)).1] at secondRequest
      rw [memory, secondRequest, untilLeaves, afterFirst]
      rfl

end CoreRun

end RiscvCore
