import RiscvCore.DirectMemory
import RiscvCore.WriteProgress

/-!
# Requests on the data bus

The loads and stores that issue pass EX and MEM in order.  MEM offers the requests of its access
one after the other and keeps the access until the last one is granted, so that the granted
requests are those of the issued accesses, each once and in program order.
-/

namespace RiscvCore

open BusProtocol (Responsive)
open SynchronousRun (collected)

/-- A request on the data bus. -/
structure DataRequest where
  dataAddr : Word
  dataWr : Bool
  dataBe : BitVec 4
  dataWdata : Word
  deriving DecidableEq

namespace Lsu

def accessBytes (lsuDtype : LsuDtype) : Nat :=
  let size := lsuDtype.extractLsb' 0 2
  if size = sizeWord then 4 else if size = sizeHalfWord then 2 else 1

/-- The first or the second request of an access. -/
def request (access : Access) (second : Bool) : DataRequest where
  dataAddr := if second then access.lsuAddr + 4#32 else access.lsuAddr
  dataWr := access.lsuOp == .wr
  dataBe := dataBe { reset with unalignQ := second } access
  dataWdata := dataWdata access

/-- An access asks for its own word, and for the next one if it reaches beyond. -/
def requests (access : Access) : List DataRequest :=
  if 4 < (addrOffset access).toNat + accessBytes access.lsuDtype then
    [request access false, request access true]
  else [request access false]

theorem crossesWord_iff : ∀ (lsuDtype : LsuDtype) (offset : BitVec 2),
    crossesWord lsuDtype offset = decide (4 < offset.toNat + accessBytes lsuDtype) := by
  decide

theorem requests_eq (access : Access) :
    requests access =
      request access false :: if reqUnalign access then [request access true] else [] := by
  unfold requests reqUnalign
  rw [crossesWord_iff]
  split <;> simp_all

end Lsu

namespace CoreState

variable (params : Params) (st : CoreState) (port : CoreInput)

/-- The access of a load or store in EX. -/
def accessEx (ex : IdEx) : Lsu.Access where
  lsuEn := true
  lsuOp := ex.lsuOpEx
  lsuDtype := ex.lsuDtypeEx
  lsuAddr := ExStage.adder0Result ex
  lsuWdata := ex.srcCEx

/-- The access of a load or store in MEM. -/
def accessMem (mem : ExMem) : Lsu.Access where
  lsuEn := true
  lsuOp := mem.lsuOpMem
  lsuDtype := mem.lsuDtypeMem
  lsuAddr := mem.lsuAddrMem
  lsuWdata := mem.rdWrDataMem

/-- The access of the load or store that leaves ID, with the operands it has read. -/
def issuedAccess : Option Lsu.Access :=
  if st.issues params port && st.decoded.lsuEn then
    some (accessEx (IdStage.issued st.idEx st.ifs st.decoded (st.rs1RdData port)
      (st.rs2RdData port) (st.rf.newTag (st.invalidPort params port))))
  else none

/-- The access of the load or store that enters MEM. -/
def enteringAccess : Option Lsu.Access :=
  if st.readyEx params port && st.idEx.lsuEnEx then some (accessEx st.idEx) else none

/-- The request on the data bus. -/
def dataRequest : DataRequest where
  dataAddr := st.lsu.dataAddr (st.lsuAccess port)
  dataWr := Lsu.dataWr (st.lsuAccess port)
  dataBe := st.lsu.dataBe (st.lsuAccess port)
  dataWdata := Lsu.dataWdata (st.lsuAccess port)

/-- The request granted in this cycle. -/
def grantedRequest : Option DataRequest :=
  if Lsu.dataReq (st.lsuAccess port) && port.dataGnt then some (st.dataRequest port) else none

/-- The requests that the access in MEM has still to make. -/
def remainingRequests : List DataRequest :=
  if st.exMem.lsuEnMem then
    if st.lsu.unalignQ then [Lsu.request (accessMem st.exMem) true]
    else Lsu.requests (accessMem st.exMem)
  else []

/-- The access that leaves MEM, all its requests granted. -/
def leavingAccess : Option Lsu.Access :=
  if st.readyMem port && st.exMem.lsuEnMem then some (accessMem st.exMem) else none

/-- The requests of the access in MEM that have been granted already. -/
def grantedInMem : List DataRequest :=
  if st.lsu.unalignQ then [Lsu.request (accessMem st.exMem) false] else []

def accessInMem : List Lsu.Access := if st.exMem.lsuEnMem then [accessMem st.exMem] else []

/-- The access that EX has still to hand on. -/
def accessInEx : List Lsu.Access := if st.idEx.lsuEnEx then [accessEx st.idEx] else []

/-- Between two requests MEM holds an access that needs both. -/
def SplitOwned : Prop :=
  st.lsu.unalignQ = true →
    st.exMem.lsuEnMem = true ∧ Lsu.reqUnalign (accessMem st.exMem) = true

variable {params st port}

theorem dataRequest_eq :
    st.dataRequest port = Lsu.request (accessMem st.exMem) st.lsu.unalignQ := rfl

theorem reqUnalign_lsuAccess :
    Lsu.reqUnalign (st.lsuAccess port) = Lsu.reqUnalign (accessMem st.exMem) := rfl

theorem accessInMem_eq_singleton_iff {access : Lsu.Access} :
    st.accessInMem = [access] ↔ st.exMem.lsuEnMem = true ∧ accessMem st.exMem = access := by
  cases enable : st.exMem.lsuEnMem <;> simp [accessInMem, enable]

/-- EX hands on its access and takes in the issued one. -/
theorem accessInEx_step :
    st.accessInEx ++ (st.issuedAccess params port).toList =
      (st.enteringAccess params port).toList ++ (st.step params port).accessInEx := by
  have stepEx : (st.step params port).accessInEx =
      if (st.nextIdExOperation params port).lsuEnEx then
        [accessEx (st.nextIdExOperation params port)] else [] := rfl
  rw [stepEx, accessInEx, issuedAccess, enteringAccess, issues]
  cases readyEx : st.readyEx params port with
  | false =>
      have notReadyId : st.readyId params port = false := by simp [readyId, readyEx]
      rw [nextIdExOperation_of_notReady readyEx]
      simp [notReadyId]
  | true =>
      by_cases issue : st.readyId params port = true ∧ st.flushD = false
      · rw [nextIdExOperation_of_issue issue.1 issue.2, issue.1, issue.2]
        have same : (st.ifs.instrValueId && true && !false && st.decoded.lsuEn) =
            st.decoded.lsuEn := by
          cases access : st.decoded.lsuEn
          · simp
          · simp [instrValueId_of_lsuEn access]
        rw [same]
        change _ = _ ++ if st.decoded.lsuEn then _ else _
        cases st.idEx.lsuEnEx <;> cases st.decoded.lsuEn <;> rfl
      · have bubble : st.readyId params port = false ∨ st.flushD = true := by
          cases ready : st.readyId params port
          · exact Or.inl rfl
          · refine Or.inr ?_
            rw [ready] at issue
            simpa using issue
        have noIssue : (st.ifs.instrValueId && st.readyId params port && !st.flushD) = false := by
          rcases bubble with notReady | flush
          · simp [notReady]
          · simp [flush]
        rw [nextIdExOperation_of_bubble readyEx bubble, noIssue]
        change _ = _ ++ if false then _ else _
        cases st.idEx.lsuEnEx <;> rfl

/-- While MEM is not ready, it keeps its access and takes in none. -/
theorem exMem_step_of_waits (params : Params) (waits : st.readyMem port = false) :
    (st.step params port).exMem.lsuEnMem = st.exMem.lsuEnMem ∧
      accessMem (st.step params port).exMem = accessMem st.exMem ∧
      st.enteringAccess params port = none := by
  have operation : ExStage.nextOperation _ _ _ (st.readyEx params port) _ _ _ _ = _ :=
    nextExMemOperation_of_notReady waits
  have notReadyEx : st.readyEx params port = false := by
    cases ready : st.readyEx params port
    · rfl
    · rw [readyMem_of_readyEx ready] at waits
      cases waits
  have enable := congrArg ExMem.lsuEnMem operation
  have access := congrArg accessMem operation
  refine ⟨enable, access, ?_⟩
  rw [enteringAccess, notReadyEx]
  rfl

/-- A ready MEM holds next the access that enters it. -/
theorem accessInMem_step_of_readyMem (idle : st.fsm = .idle) (ready : st.readyMem port = true) :
    (st.step params port).accessInMem = (st.enteringAccess params port).toList := by
  rw [accessInMem, enteringAccess]
  cases readyEx : st.readyEx params port with
  | false =>
      rw [exMem_step_of_bubble ready readyEx]
      rfl
  | true =>
      have valid := validEx_of_readyEx readyEx
      have noFlush := flushE_of_idle idle
      have access : (st.step params port).exMem.lsuEnMem = st.idEx.lsuEnEx := by
        simp [step, nextExMem, ExStage.nextOperation, readyEx, valid, noFlush,
          pmpErr_of_readyEx readyEx]
      rw [access]
      cases isAccess : st.idEx.lsuEnEx with
      | false => rfl
      | true =>
          have same : accessMem (st.step params port).exMem = accessEx st.idEx := by
            simp [step, nextExMem, ExStage.nextOperation, readyEx, valid, noFlush, accessMem,
              accessEx, rdWrDataEx, ExStage.rdWrDataEx, isAccess]
          rw [same]
          rfl

/-- MEM hands on its access and takes in the entering one. -/
theorem accessInMem_step (idle : st.fsm = .idle) :
    st.accessInMem ++ (st.enteringAccess params port).toList =
      (st.leavingAccess port).toList ++ (st.step params port).accessInMem := by
  cases ready : st.readyMem port with
  | true =>
      rw [accessInMem_step_of_readyMem idle ready, leavingAccess, ready, accessInMem]
      cases st.exMem.lsuEnMem <;> rfl
  | false =>
      obtain ⟨sameEnable, sameAccess, none⟩ := exMem_step_of_waits params ready
      rw [none, leavingAccess, ready, accessInMem, accessInMem, sameEnable, sameAccess,
        Option.toList_none, List.append_nil]
      rfl

theorem remainingRequests_step_of_readyMem (params : Params) (idle : st.fsm = .idle)
    (ready : st.readyMem port = true) (whole : (st.step params port).lsu.unalignQ = false) :
    (st.step params port).remainingRequests =
      (st.enteringAccess params port).toList.flatMap Lsu.requests := by
  rw [← accessInMem_step_of_readyMem idle ready, remainingRequests, whole, accessInMem]
  cases (st.step params port).exMem.lsuEnMem
  · rfl
  · simp

/-- The requests of the access in MEM are those granted and those remaining. -/
theorem requests_accessInMem (owned : st.SplitOwned) :
    st.accessInMem.flatMap Lsu.requests = st.grantedInMem ++ st.remainingRequests := by
  rw [accessInMem, grantedInMem, remainingRequests]
  cases second : st.lsu.unalignQ with
  | false => cases st.exMem.lsuEnMem <;> simp
  | true =>
      obtain ⟨access, crosses⟩ := owned second
      rw [access, if_pos rfl, List.flatMap_singleton, Lsu.requests_eq, crosses]
      rfl

/-- A grant finds an access in MEM and WB ready. -/
theorem access_of_dataReq (requested : Lsu.dataReq (st.lsuAccess port) = true) :
    st.exMem.lsuEnMem = true ∧ st.readyWb port = true ∧ st.flushE = false := by
  simp only [Lsu.dataReq, lsuAccess, MemStage.lsuAccess, Bool.and_eq_true,
    Bool.not_eq_true'] at requested
  exact ⟨requested.1.1, requested.1.2, requested.2⟩

theorem readyMem_of_dataReq (requested : Lsu.dataReq (st.lsuAccess port) = true) :
    st.readyMem port =
      if Lsu.reqUnalign (accessMem st.exMem) then st.lsu.unalignQ && port.dataGnt
      else port.dataGnt := by
  obtain ⟨-, readyWb, -⟩ := access_of_dataReq requested
  have enable : (st.lsuAccess port).lsuEn = true := requested
  rw [readyMem, readyWb, lsuReady, Lsu.lsuReady, if_pos enable, MemStage.excMem, Bool.not_false,
    Bool.and_true, Bool.true_and, reqUnalign_lsuAccess]

theorem unalignQ_step (params : Params) (st : CoreState) (port : CoreInput) :
    (st.step params port).lsu.unalignQ =
      if st.lsu.unalignQ && port.dataGnt then false
      else if port.dataGnt then Lsu.reqUnalign (accessMem st.exMem)
      else st.lsu.unalignQ := rfl

/-- An access waits in MEM while nothing is granted. -/
theorem readyMem_of_noGrant (noFlush : st.flushE = false) (access : st.exMem.lsuEnMem = true)
    (noGrant : port.dataGnt = false) : st.readyMem port = false := by
  cases readyWb : st.readyWb port with
  | false => simp [readyMem, readyWb]
  | true =>
      have request : Lsu.dataReq (st.lsuAccess port) = true := by
        simp [Lsu.dataReq, lsuAccess, MemStage.lsuAccess, access, readyWb, noFlush]
      rw [readyMem_of_dataReq request, noGrant, Bool.and_false, ite_self]

/-- MEM keeps an access it cannot hand on. -/
theorem accessInMem_step_of_waits (params : Params) (waits : st.readyMem port = false) :
    (st.step params port).accessInMem = st.accessInMem := by
  obtain ⟨sameEnable, sameAccess, -⟩ := exMem_step_of_waits params waits
  rw [accessInMem, accessInMem, sameEnable, sameAccess]

/-- A flush makes MEM wait with an access between its two requests. -/
def FlushWaits (st : CoreState) (port : CoreInput) : Prop :=
  st.flushE = true → st.lsu.unalignQ = true → st.readyMem port = false

/-- Where no flush drops one half of an access, the second half has its access. -/
theorem splitOwned_step (waits : st.FlushWaits port) (owned : st.SplitOwned)
    (requested : port.dataGnt = true → Lsu.dataReq (st.lsuAccess port) = true) :
    (st.step params port).SplitOwned := by
  intro split
  rw [unalignQ_step] at split
  have held : st.exMem.lsuEnMem = true ∧ Lsu.reqUnalign (accessMem st.exMem) = true ∧
      st.readyMem port = false := by
    cases grant : port.dataGnt with
    | false =>
        rw [grant, Bool.and_false] at split
        obtain ⟨access, crosses⟩ := owned split
        refine ⟨access, crosses, ?_⟩
        cases flush : st.flushE with
        | false => exact readyMem_of_noGrant flush access grant
        | true => exact waits flush split
    | true =>
        have request := requested grant
        rw [grant, Bool.and_true, if_pos rfl] at split
        cases second : st.lsu.unalignQ with
        | true =>
            rw [second] at split
            cases split
        | false =>
            rw [second] at split
            have crosses : Lsu.reqUnalign (accessMem st.exMem) = true := split
            refine ⟨(access_of_dataReq request).1, crosses, ?_⟩
            rw [readyMem_of_dataReq request, second, Bool.false_and, if_pos crosses]
  obtain ⟨access, crosses, notReady⟩ := held
  obtain ⟨sameEnable, sameAccess, -⟩ := exMem_step_of_waits params notReady
  rw [sameEnable, sameAccess]
  exact ⟨access, crosses⟩

/-- What MEM has still to ask for and what enters it is what is granted and what it has then
still to ask for. -/
theorem remainingRequests_step (idle : st.fsm = .idle) (owned : st.SplitOwned)
    (requested : port.dataGnt = true → Lsu.dataReq (st.lsuAccess port) = true) :
    st.remainingRequests ++ (st.enteringAccess params port).toList.flatMap Lsu.requests =
      (st.grantedRequest port).toList ++ (st.step params port).remainingRequests := by
  have unalignQ := unalignQ_step params st port
  cases grant : port.dataGnt with
  | false =>
      rw [grant, Bool.and_false] at unalignQ
      have nothing : st.grantedRequest port = none := by
        rw [grantedRequest, grant, Bool.and_false]
        rfl
      rw [nothing]
      cases access : st.exMem.lsuEnMem with
      | true =>
          -- The access waits.
          have notReady := readyMem_of_noGrant (flushE_of_idle idle) access grant
          obtain ⟨sameEnable, sameAccess, none⟩ := exMem_step_of_waits params notReady
          rw [remainingRequests, remainingRequests, sameEnable, sameAccess, none, unalignQ]
          simp
      | false =>
          have whole : st.lsu.unalignQ = false := by
            cases split : st.lsu.unalignQ
            · rfl
            · rw [(owned split).1] at access
              cases access
          rw [whole] at unalignQ
          have noRemaining : st.remainingRequests = [] := by
            rw [remainingRequests, access]
            rfl
          rw [noRemaining]
          cases ready : st.readyMem port with
          | true => exact (remainingRequests_step_of_readyMem params idle ready unalignQ).symm
          | false =>
              obtain ⟨sameEnable, -, none⟩ := exMem_step_of_waits params ready
              rw [remainingRequests, sameEnable, access, none]
              rfl
  | true =>
      have request := requested grant
      have access := (access_of_dataReq request).1
      have ready := readyMem_of_dataReq request
      have granted : st.grantedRequest port =
          some (Lsu.request (accessMem st.exMem) st.lsu.unalignQ) := by
        rw [grantedRequest, request, grant, dataRequest_eq]
        rfl
      rw [grant, Bool.and_true] at unalignQ ready
      rw [granted, remainingRequests, if_pos access, Lsu.requests_eq]
      cases second : st.lsu.unalignQ with
      | true =>
          -- The second request is the last one.
          rw [second] at unalignQ
          rw [(owned second).2, if_pos rfl, second] at ready
          rw [remainingRequests_step_of_readyMem params idle ready unalignQ]
          rfl
      | false =>
          rw [second] at unalignQ ready
          cases crosses : Lsu.reqUnalign (accessMem st.exMem) with
          | true =>
              -- The first of two requests: the access stays.
              rw [crosses] at unalignQ ready
              obtain ⟨sameEnable, sameAccess, none⟩ := exMem_step_of_waits params ready
              rw [remainingRequests, sameEnable, sameAccess, access, unalignQ, none]
              rfl
          | false =>
              rw [crosses] at unalignQ ready
              rw [remainingRequests_step_of_readyMem params idle ready unalignQ]
              rfl

/-- The raised request is the next one of the access in MEM. -/
theorem head_remainingRequests (request : Lsu.dataReq (st.lsuAccess port) = true) :
    st.remainingRequests.head? = some (st.dataRequest port) := by
  rw [remainingRequests, if_pos (access_of_dataReq request).1, dataRequest_eq, Lsu.requests_eq]
  cases st.lsu.unalignQ <;> rfl

/-- A raised request that is not granted is raised again, with the same signals. -/
theorem dataRequest_step (nextPort : CoreInput)
    (nextIdle : (st.step params port).fsm = .idle)
    (request : Lsu.dataReq (st.lsuAccess port) = true) (noGrant : port.dataGnt = false) :
    Lsu.dataReq ((st.step params port).lsuAccess nextPort) = true ∧
      (st.step params port).dataRequest nextPort = st.dataRequest port := by
  obtain ⟨access, readyWb, -⟩ := access_of_dataReq request
  have notReady : st.readyMem port = false := by
    rw [readyMem_of_dataReq request, noGrant, Bool.and_false, ite_self]
  obtain ⟨sameEnable, sameAccess, -⟩ := exMem_step_of_waits params notReady
  constructor
  · have readyNext : (st.step params port).readyWb nextPort = true :=
      readyWb_of_noAccess (memWb_step_of_bubble readyWb notReady)
    simp [Lsu.dataReq, lsuAccess, MemStage.lsuAccess, sameEnable, access, readyNext,
      flushE_of_idle nextIdle]
  · have unalignQ := unalignQ_step params st port
    rw [noGrant, Bool.and_false] at unalignQ
    rw [dataRequest_eq, dataRequest_eq, sameAccess, unalignQ]
    rfl

end CoreState

namespace CoreRun

variable (run : CoreRun)

/-! ## Whole runs -/

/-- No trap flush up to the given cycle. -/
def IdleThrough (last : Nat) : Prop := ∀ cycle, cycle ≤ last → (run.state cycle).fsm = .idle

/-- The bus grants only what is requested. -/
def GrantsRequests : Prop :=
  ∀ cycle, (run.dataBus cycle).gnt = true → (run.dataBus cycle).req = true

def issuedAccess (cycle : Nat) : Option Lsu.Access :=
  (run.state cycle).issuedAccess run.params (run.inputs cycle)

def enteringAccess (cycle : Nat) : Option Lsu.Access :=
  (run.state cycle).enteringAccess run.params (run.inputs cycle)

def leavingAccess (cycle : Nat) : Option Lsu.Access :=
  (run.state cycle).leavingAccess (run.inputs cycle)

def grantedRequest (cycle : Nat) : Option DataRequest :=
  (run.state cycle).grantedRequest (run.inputs cycle)

def dataRequest (cycle : Nat) : DataRequest := (run.state cycle).dataRequest (run.inputs cycle)

variable {run}

/-- Between two requests MEM holds their access in every cycle behind flushes that wait. -/
theorem splitOwned_of_flushWaits (grants : run.GrantsRequests) {cycle : Nat}
    (waits : ∀ earlier, earlier < cycle →
      (run.state earlier).FlushWaits (run.inputs earlier)) :
    (run.state cycle).SplitOwned := by
  induction cycle with
  | zero =>
      intro split
      cases split
  | succ cycle induction =>
      rw [run.state_succ]
      exact CoreState.splitOwned_step (waits cycle (Nat.lt_succ_self cycle))
        (induction fun earlier before => waits earlier (Nat.lt_succ_of_lt before)) (grants cycle)

theorem splitOwned {last : Nat} (idle : run.IdleThrough last) (grants : run.GrantsRequests)
    {cycle : Nat} (inside : cycle ≤ last + 1) : (run.state cycle).SplitOwned := by
  apply splitOwned_of_flushWaits grants
  intro earlier before flush
  rw [CoreState.flushE_of_idle (idle earlier (by omega))] at flush
  cases flush

/-- Loads and stores enter MEM in the order in which they issue. -/
theorem entering_append_inEx (run : CoreRun) (cycle : Nat) :
    collected run.enteringAccess cycle ++ (run.state cycle).accessInEx =
      collected run.issuedAccess cycle := by
  have order := SynchronousRun.collected_append_remaining (fun access => [access])
    run.issuedAccess run.enteringAccess (fun cycle => (run.state cycle).accessInEx)
    cycle rfl (fun cycle _ => by
      rw [List.flatMap_singleton']
      exact CoreState.accessInEx_step)
  rw [List.flatMap_singleton'] at order
  exact order

/-- They leave it in the order in which they enter. -/
theorem leaving_append_inMem {last : Nat} (idle : run.IdleThrough last) {cycle : Nat}
    (inside : cycle ≤ last + 1) :
    collected run.leavingAccess cycle ++ (run.state cycle).accessInMem =
      collected run.enteringAccess cycle := by
  have order := SynchronousRun.collected_append_remaining (fun access => [access])
    run.enteringAccess run.leavingAccess (fun cycle => (run.state cycle).accessInMem)
    cycle rfl (fun earlier below => by
      rw [List.flatMap_singleton']
      exact CoreState.accessInMem_step (idle earlier (by omega)))
  rw [List.flatMap_singleton'] at order
  exact order

/-- The granted requests and the remaining ones of MEM are those of the accesses that have
entered it. -/
theorem granted_append_remaining {last : Nat} (idle : run.IdleThrough last)
    (grants : run.GrantsRequests) {cycle : Nat} (inside : cycle ≤ last + 1) :
    collected run.grantedRequest cycle ++ (run.state cycle).remainingRequests =
      (collected run.enteringAccess cycle).flatMap Lsu.requests := by
  refine SynchronousRun.collected_append_remaining Lsu.requests run.enteringAccess
    run.grantedRequest (fun cycle => (run.state cycle).remainingRequests) cycle rfl ?_
  intro earlier below
  exact CoreState.remainingRequests_step (idle earlier (by omega))
    (splitOwned idle grants (by omega)) (grants earlier)

theorem granted_eq {last : Nat} (idle : run.IdleThrough last) (grants : run.GrantsRequests)
    {cycle : Nat} (inside : cycle ≤ last + 1) :
    collected run.grantedRequest cycle =
      (collected run.leavingAccess cycle).flatMap Lsu.requests ++
        (run.state cycle).grantedInMem := by
  have all := granted_append_remaining idle grants inside
  rw [← leaving_append_inMem idle inside, List.flatMap_append,
    CoreState.requests_accessInMem (splitOwned idle grants inside), ← List.append_assoc] at all
  exact List.append_cancel_right all

/-- On a bus that answers every request, every access that has issued leaves MEM. -/
theorem exists_left (idle : run.StaysIdle)
    (responsive : Responsive (fun _ _ => True) run.dataBus) (cycle : Nat) :
    ∃ later, cycle ≤ later ∧
      collected run.issuedAccess cycle <+: collected run.leavingAccess later := by
  obtain ⟨ex, afterCycle, readyEx⟩ := exists_readyEx idle responsive cycle
  obtain ⟨mem, afterEx, readyMem⟩ := exists_readyMem idle responsive (ex + 1)
  have entered : collected run.enteringAccess (ex + 1) = collected run.issuedAccess ex := by
    rw [← entering_append_inEx, SynchronousRun.collected_succ, enteringAccess,
      CoreState.enteringAccess, readyEx, CoreState.accessInEx]
    cases (run.state ex).idEx.lsuEnEx <;> rfl
  have left : collected run.leavingAccess (mem + 1) = collected run.enteringAccess mem := by
    rw [← leaving_append_inMem (fun earlier _ => idle earlier) (Nat.le_succ mem),
      SynchronousRun.collected_succ, leavingAccess, CoreState.leavingAccess, readyMem,
      CoreState.accessInMem]
    cases (run.state mem).exMem.lsuEnMem <;> rfl
  refine ⟨mem + 1, by omega, ?_⟩
  have issuedLater := SynchronousRun.collected_prefix run.issuedAccess afterCycle
  have enteredLater := SynchronousRun.collected_prefix run.enteringAccess afterEx
  rw [entered] at enteredLater
  rw [left]
  exact issuedLater.trans enteredLater

/-! ## Exactly once -/

/-- What the data bus sees of the loads and stores up to the given cycle. -/
structure RequestsExactlyOnce (run : CoreRun) (last : Nat) : Prop where
  /-- The accesses that have issued are those that have left MEM and those in MEM and EX. -/
  programOrder : ∀ cycle, cycle ≤ last + 1 →
    collected run.issuedAccess cycle =
      collected run.leavingAccess cycle ++ (run.state cycle).accessInMem ++
        (run.state cycle).accessInEx
  /-- An access that has left MEM has had each of its requests granted once, one that is still
  there at most the first of two. -/
  exactlyOnce : ∀ cycle, cycle ≤ last + 1 →
    collected run.grantedRequest cycle =
      (collected run.leavingAccess cycle).flatMap Lsu.requests ++
        (run.state cycle).grantedInMem
  firstOfTwo : ∀ cycle, cycle ≤ last + 1 → (run.state cycle).SplitOwned
  raised : ∀ cycle, (run.dataBus cycle).req = true →
    (run.state cycle).remainingRequests.head? = some (run.dataRequest cycle)
  stable : ∀ cycle, cycle < last → (run.dataBus cycle).req = true →
    (run.dataBus cycle).gnt = false →
      (run.dataBus (cycle + 1)).req = true ∧ run.dataRequest (cycle + 1) = run.dataRequest cycle
  /-- A responsive bus sees every access through. -/
  completed : run.StaysIdle → Responsive (fun _ _ => True) run.dataBus →
    ∀ cycle, ∃ later, cycle ≤ later ∧
      collected run.issuedAccess cycle <+: collected run.leavingAccess later

theorem requestsExactlyOnce_of_idleThrough (run : CoreRun) (last : Nat)
    (idle : run.IdleThrough last) (grants : run.GrantsRequests) :
    run.RequestsExactlyOnce last where
  programOrder := by
    intro cycle inside
    rw [leaving_append_inMem idle inside, entering_append_inEx]
  exactlyOnce := fun cycle inside => granted_eq idle grants inside
  firstOfTwo := fun cycle inside => splitOwned idle grants inside
  raised := fun _ request => CoreState.head_remainingRequests request
  stable := by
    intro cycle inside request noGrant
    have next := idle (cycle + 1) inside
    rw [run.state_succ] at next
    have raised := CoreState.dataRequest_step (run.inputs (cycle + 1)) next request noGrant
    rw [← run.state_succ] at raised
    exact raised
  completed := fun idle responsive => exists_left idle responsive

end CoreRun

/-- `lw x1, 2(x0)` and `sh x1, 16(x0)`. -/
def Surroundings.splitLoad : Surroundings where
  program := Surroundings.programOf [0x00202083#32, 0x00101823#32]

theorem CoreRun.requestsExactlyOnce_splitLoad :
    Surroundings.splitLoad.coreRun.RequestsExactlyOnce 12 ∧
      (collected Surroundings.splitLoad.coreRun.grantedRequest 13).map DataRequest.dataAddr =
        [2#32, 6#32, 16#32] := by
  constructor
  · refine requestsExactlyOnce_of_idleThrough _ 12 ?_
      Surroundings.splitLoad.wellConnected.data.requested
    intro cycle inside
    rw [Surroundings.state_coreRun]
    revert cycle
    decide +kernel
  · decide +kernel

end RiscvCore
