import RiscvCore.DataMachine
import RiscvCore.DataResponses
import RiscvCore.ProgramRefinement

/-!
# The core with its data memory

With a memory behind the data bus the core executes what the machine with that memory executes:
the writes reach the memory in the order of the program, and each load returns what the stores
before it have left.
-/

namespace RiscvCore

open BusProtocol (InOrder pending)
open ByteMemory

namespace CoreState

variable {params : Params} {st : CoreState} {port : CoreInput} {hart : Hart} {instr : Instr}
variable {compressed : Bool}

/-- A load in MEM leaves the memory as it is. -/
theorem foldl_remaining_of_load (isLoad : st.exMem.lsuOpMem = .ld) (data : Memory) :
    st.remainingRequests.foldl DataRequest.apply data = data := by
  have isLoadAccess : (accessMem st.exMem).lsuOp = .ld := isLoad
  have keeps := @Instr.apply_of_load data (accessMem st.exMem) isLoadAccess
  rw [remainingRequests, Lsu.requests]
  cases st.exMem.lsuEnMem <;> cases st.lsu.unalignQ <;> simp [keeps]
  split <;> simp [keeps]

/-- MEM holds the operation of the instruction. -/
structure MemHolds (st : CoreState) (hart : Hart) (instr : Instr) : Prop where
  access : st.exMem.lsuEnMem = instr.accesses
  writes : st.exMem.rdWrEnMem = instr.destination.isSome
  makes : instr.accesses = true → instr.Makes (hart.operand instr.source1)
    (hart.operand instr.source2) (accessMem st.exMem)

theorem makes_of_executes (executes : st.idEx.Executes hart instr compressed)
    (accesses : instr.accesses = true) :
    instr.Makes (hart.operand instr.source1) (hart.operand instr.source2)
      (accessEx st.idEx) := by
  obtain ⟨idEx, ifs, tag, -, -, -, same⟩ := executes
  have sameAccess : accessEx st.idEx = accessEx (issuedAt idEx ifs (hart.operand instr.source1)
      (hart.operand instr.source2) tag instr) := by
    change accessEx st.idEx.operation = _
    rw [same]
    rfl
  rw [sameAccess]
  exact Instr.makes_issuedAt idEx ifs _ _ tag accesses

theorem enteringAccess_of_executes (executes : st.idEx.Executes hart instr compressed)
    (ready : st.readyEx params port = true) :
    st.enteringAccess params port = if instr.accesses then some (accessEx st.idEx) else none := by
  rw [enteringAccess, ready, (CoreRun.executes_operation executes).2.1, Bool.true_and]

theorem memHolds_step_of_leaves (idle : st.fsm = .idle)
    (executes : st.idEx.Executes hart instr compressed)
    (ready : st.readyEx params port = true) : (st.step params port).MemHolds hart instr := by
  obtain ⟨destination, access, -⟩ := CoreRun.executes_operation executes
  have readyMem : st.readyMem port = true := readyMem_of_readyEx ready
  have enters : (st.step params port).accessInMem = (st.enteringAccess params port).toList :=
    accessInMem_step_of_readyMem idle readyMem
  rw [enteringAccess_of_executes executes ready] at enters
  have enable : (st.step params port).exMem.rdWrEnMem = st.idEx.rdWrEnEx :=
    (exMem_step_of_leaves ready (flushE_of_idle idle)).1
  constructor
  · rw [lsuEnMem_step, readyMem, ready, flushE_of_idle idle, access]
    rfl
  · rw [enable, ← destination]
    cases st.idEx.rdWrEnEx <;> rfl
  · intro accesses
    rw [accesses, if_pos rfl] at enters
    rw [(accessInMem_eq_singleton_iff.mp enters).2]
    exact makes_of_executes executes accesses

theorem MemHolds.step_of_waits (holds : st.MemHolds hart instr)
    (waits : st.readyMem port = false) : (st.step params port).MemHolds hart instr := by
  obtain ⟨enable, access, -⟩ := exMem_step_of_waits params waits
  have writes : (st.step params port).exMem.rdWrEnMem = st.exMem.rdWrEnMem := by
    rw [rdWrEnMem_step, waits]
    rfl
  exact ⟨enable.trans holds.access, writes.trans holds.writes, access ▸ holds.makes⟩

end CoreState

namespace CoreRun

variable (run : CoreRun) (initial : Memory) (memory : Word → Word) (first : Machine)
  (csrRead : Nat → Word)

/-- The data bus as the memory behind it sees it: with each read it grants it notes the word to
answer. -/
def memoryBus (cycle : Nat) : BusProtocol.Cycle (Option Word) (Word × Bool) :=
  let bus := run.dataBus cycle
  let request := run.dataRequest cycle
  { req := bus.req
    gnt := bus.gnt
    addr := if request.dataWr then none
      else some (readWord (run.memory initial cycle) request.dataAddr)
    valid := bus.valid
    data := bus.data }

/-- The data bus answers each read with the word that the memory held at its grant. -/
def ServedData : Prop :=
  InOrder (fun noted answer => ∀ word ∈ noted, answer = (word, false)) (run.memoryBus initial)

/-- What the CSR instructions issued from `start` on read, up to cycle `last`. -/
def csrReads (start last number : Nat) : Word := (run.outside start last number).csrRead

/-- What is in flight belongs to one access. -/
structure SingleAccess (cycle : Nat) : Prop where
  owned : (run.state cycle).SplitOwned
  whole : (run.state cycle).memWb.lsuEnWb = true → (run.state cycle).lsu.unalignQ = false
  few : (run.dataBus cycle).gnt = true →
    (pending run.dataBus cycle).length ≤ (run.dataBus cycle).valid.toNat

/-- The first half of a load that needs two requests: it is to be answered, or has been. -/
def FirstHalf (data : Memory) (addr : Address) (cycle : Nat) : Prop :=
  pending (run.memoryBus initial) cycle = [some (readWord data addr)] ∨
    pending (run.memoryBus initial) cycle = [] ∧
      (run.state cycle).lsu.dataRdataQ = (readWord data addr).extractLsb' 8 24

/-- WB holds the operation of the instruction, and waits for the last answer of a load. -/
structure WbHolds (machine : Machine) (instr : Instr) (cycle : Nat) : Prop where
  access : (run.state cycle).memWb.lsuEnWb = instr.accesses
  writes : (run.state cycle).memWb.rdWrEnWb = instr.destination.isSome
  loads : ∀ width rd rs1 imm, instr = .load width rd rs1 imm →
    (run.state cycle).memWb.lsuOpWb = .ld ∧
      ∃ word, pending (run.memoryBus initial) cycle = [some word] ∧
        (run.state cycle).lsu.Awaits machine.data (machine.hart.reg rs1 + imm.signExtend 32)
          width.type word

/-- What the memory and the stages hold of the data of the machine. -/
structure DataCarry (start cycle : Nat) : Prop where
  /-- Before the requests that MEM has still to make. -/
  data : ∀ machine,
    Machine.run memory first csrRead (run.executed start cycle) = some machine →
      (run.state cycle).remainingRequests.foldl DataRequest.apply (run.memory initial cycle) =
        machine.data
  mem : ∀ issue, run.inMem cycle = some issue → ∀ machine instr compressed,
    Machine.run memory first csrRead (run.committed start cycle + run.countWb cycle) =
      some machine →
        fetch memory machine.hart.pc = some (instr, compressed) →
          (run.state cycle).MemHolds machine.hart instr
  firstHalf : (run.state cycle).lsu.unalignQ = true → ∀ machine width rd rs1 imm compressed,
    Machine.run memory first csrRead (run.committed start cycle + run.countWb cycle) =
      some machine →
        fetch memory machine.hart.pc = some (.load width rd rs1 imm, compressed) →
          run.FirstHalf initial machine.data (machine.hart.reg rs1 + imm.signExtend 32) cycle
  wb : ∀ issue, run.inWb cycle = some issue → ∀ machine instr compressed,
    Machine.run memory first csrRead (run.committed start cycle) = some machine →
      fetch memory machine.hart.pc = some (instr, compressed) →
        run.WbHolds initial machine instr cycle

variable {run initial memory first csrRead} {start last cycle : Nat}

/-! ## The bus -/

theorem length_pending_memoryBus (run : CoreRun) (initial : Memory) (cycle : Nat) :
    (pending (run.memoryBus initial) cycle).length = (pending run.dataBus cycle).length := by
  have sameGrant (cycle : Nat) :
      (run.memoryBus initial cycle).granted = (run.dataBus cycle).granted := rfl
  exact BusProtocol.length_pending_congr sameGrant (fun _ => rfl) cycle

theorem ServedData.inOrder (served : run.ServedData initial) :
    InOrder (fun _ _ => True) run.dataBus where
  requested := served.requested
  answered := by
    intro cycle valid
    obtain ⟨noted, rest, queue, -⟩ := served.answered cycle valid
    have length := length_pending_memoryBus run initial cycle
    rw [queue] at length
    cases addrs : pending run.dataBus cycle with
    | nil =>
        rw [addrs] at length
        cases length
    | cons addr rest => exact ⟨addr, rest, rfl, trivial⟩

/-- The answer to a read that is alone in the queue. -/
theorem ServedData.rdata (served : run.ServedData initial) {word : Word}
    (queue : pending (run.memoryBus initial) cycle = [some word])
    (valid : (run.dataBus cycle).valid = true) : (run.inputs cycle).dataRdata = word := by
  obtain ⟨noted, rest, isQueue, answer⟩ := served.answered cycle valid
  rw [queue, List.cons.injEq] at isQueue
  exact congrArg Prod.fst (answer word (by rw [← isQueue.1]; rfl))

/-- From reset up to the first trap. -/
theorem singleAccess (idle : run.IdleThrough last) (inOrder : InOrder (fun _ _ => True) run.dataBus)
    (second : ∀ last, run.SecondAfterFirst last) (inside : cycle ≤ last) :
    run.SingleAccess cycle where
  owned := splitOwned idle inOrder.requested (Nat.le_succ_of_le inside)
  whole := fun access => ((inFlight idle inOrder (second last) inside).inWb access).1
  few := length_pending_of_grant inOrder (second (cycle + 1)) (Nat.lt_succ_self cycle)
    (inFlight idle inOrder (second last) inside)

/-- What is noted with a read of the access in MEM. -/
theorem noted_of_load (isLoad : (run.state cycle).exMem.lsuOpMem = .ld) :
    (run.memoryBus initial cycle).addr =
      some (readWord (run.memory initial cycle)
        (if (run.state cycle).lsu.unalignQ then (run.state cycle).exMem.lsuAddrMem + 4#32
          else (run.state cycle).exMem.lsuAddrMem)) := by
  have noWrite : (run.dataRequest cycle).dataWr = false := by
    change ((run.state cycle).exMem.lsuOpMem == .wr) = false
    rw [isLoad]
    rfl
  change (if (run.dataRequest cycle).dataWr then _ else _) = _
  rw [noWrite, if_neg Bool.false_ne_true]
  rfl

section Step

variable {hart : Hart} {machine : Machine} {instr : Instr} {compressed : Bool} {issue : Nat}

/-- What one cycle does to the rank of the instruction in MEM. -/
theorem rankMem_succ_of_ready (ordered : start ≤ cycle) (idle : (run.state cycle).fsm = .idle)
    (ready : run.readyMem cycle = true)
    (ranks : run.executed start cycle =
      run.committed start cycle + run.countWb cycle + run.countMem cycle) :
    run.committed start (cycle + 1) + run.countWb (cycle + 1) = run.executed start cycle := by
  have noFlush : run.flushE cycle = false := CoreState.flushE_of_idle idle
  have entered := inWb_succ run cycle
  rw [validMem_eq_readyMem, ready, noFlush, Bool.not_false, Bool.and_self, if_pos rfl] at entered
  rw [committed_succ_of_ready ordered (CoreState.readyWb_of_readyMem ready), ranks, countWb,
    countWb, countMem, entered]

theorem rankMem_succ_of_waits (ordered : start ≤ cycle) (waits : run.readyMem cycle = false) :
    run.committed start (cycle + 1) + run.countWb (cycle + 1) =
      run.committed start cycle + run.countWb cycle := by
  have entered := inWb_succ run cycle
  rw [validMem_eq_readyMem, waits, Bool.false_and, if_neg Bool.false_ne_true] at entered
  cases ready : run.readyWb cycle with
  | true =>
      rw [ready, if_pos rfl] at entered
      rw [committed_succ_of_ready ordered ready, countWb, countWb, entered]
      rfl
  | false =>
      rw [ready, if_neg Bool.false_ne_true] at entered
      rw [committed_succ_of_waits ordered ready, countWb, countWb, entered]

theorem inMem_of_access (access : (run.state cycle).exMem.lsuEnMem = true) :
    ∃ issue, run.inMem cycle = some issue := by
  cases entered : run.inMem cycle with
  | some issue => exact ⟨issue, rfl⟩
  | none =>
      rw [((run.stagesHold cycle).mem entered).1] at access
      cases access

/-- The memory is the one in front of a load in MEM. -/
theorem DataCarry.data_of_load (carry : run.DataCarry initial memory first csrRead start cycle)
    {next : Machine} {width : LoadWidth} {rd rs1 : RegAddr} {imm : BitVec 12}
    (entered : run.inMem cycle = some issue)
    (ranks : run.executed start cycle =
      run.committed start cycle + run.countWb cycle + run.countMem cycle)
    (runs : Machine.run memory first csrRead (run.committed start cycle + run.countWb cycle) =
      some machine)
    (runsNext : Machine.run memory first csrRead (run.executed start cycle) = some next)
    (fetched : fetch memory machine.hart.pc = some (.load width rd rs1 imm, compressed)) :
    run.memory initial cycle = machine.data := by
  have one : run.countMem cycle = 1 := by
    rw [countMem, entered]
    rfl
  have holds := carry.mem issue entered machine _ compressed runs fetched
  have isLoad : (run.state cycle).exMem.lsuOpMem = .ld := (holds.makes rfl).1
  have same := carry.data next runsNext
  rw [CoreState.foldl_remaining_of_load isLoad] at same
  rw [ranks, one] at runsNext
  obtain ⟨before, runsBefore, steps⟩ := Machine.step_of_run runsNext
  rw [runs, Option.some.injEq] at runsBefore
  subst runsBefore
  obtain ⟨loaded, length, fetchedHere, -, -, data⟩ := Machine.execute_of_step steps
  rw [fetched, Option.some.injEq, Prod.mk.injEq] at fetchedHere
  rw [← fetchedHere.1] at data
  exact same.trans data

variable (carry : run.DataCarry initial memory first csrRead start cycle)
  (ordered : start ≤ cycle) (idle : (run.state cycle).fsm = .idle)
  (ranks : run.executed start cycle =
    run.committed start cycle + run.countWb cycle + run.countMem cycle)

include carry ordered idle

omit idle in
/-- The requests still to be made lead to the memory of the machine. -/
theorem DataCarry.data_succ (served : run.ServedData initial) (idle : (run.state cycle).fsm = .idle)
    (owned : (run.state cycle).SplitOwned)
    (refining : run.Refining memory first.hart (Machine.outside memory first csrRead) start cycle
      hart)
    (regular : Machine.Regular memory first csrRead (run.executed start (cycle + 1)))
    (runs : Machine.run memory first csrRead (run.executed start (cycle + 1)) = some machine) :
    (run.state (cycle + 1)).remainingRequests.foldl DataRequest.apply
      (run.memory initial (cycle + 1)) = machine.data := by
  have moves := @CoreState.remainingRequests_step run.params _ _ idle owned
    (served.requested cycle)
  rw [← run.state_succ] at moves
  change (run.state (cycle + 1)).remainingRequests.foldl DataRequest.apply
    (((run.state cycle).grantedRequest (run.inputs cycle)).toList.foldl DataRequest.apply
      (run.memory initial cycle)) = machine.data
  rw [← List.foldl_append, ← moves, List.foldl_append]
  cases leaves : run.leavesEx cycle with
  | false =>
      have nothing : (run.state cycle).enteringAccess run.params (run.inputs cycle) = none := by
        rw [leavesEx] at leaves
        cases entered : run.inEx cycle with
        | none =>
            rw [CoreState.enteringAccess, ((run.stagesHold cycle).ex entered).1.lsu,
              Bool.and_false]
            rfl
        | some issue =>
            rw [entered, Option.isSome_some, Bool.true_and] at leaves
            have waits : (run.state cycle).readyEx run.params (run.inputs cycle) = false := leaves
            rw [CoreState.enteringAccess, waits]
            rfl
      rw [executed_succ run ordered, leaves] at runs
      rw [nothing]
      exact carry.data machine runs
  | true =>
      rw [executed_succ run ordered, leaves] at runs regular
      obtain ⟨before, runsBefore, steps⟩ := Machine.step_of_run runs
      obtain ⟨instr, compressed, fetched, -, -, data⟩ := Machine.execute_of_step steps
      rw [leavesEx, Bool.and_eq_true, Option.isSome_iff_exists] at leaves
      obtain ⟨⟨issue, entered⟩, ready⟩ := leaves
      have executes := refining.carry.ex issue entered before.hart instr compressed
        (Machine.hart_of_run runsBefore) fetched
      rw [CoreState.enteringAccess_of_executes executes ready, carry.data before runsBefore, data]
      cases accesses : instr.accesses with
      | true =>
          have makes := CoreState.makes_of_executes executes accesses
          rw [if_pos rfl, Option.toList_some, List.flatMap_singleton]
          exact Instr.foldl_requests makes
            (regular _ (Nat.lt_succ_self _) before instr compressed runsBefore fetched)
      | false =>
          rw [if_neg Bool.false_ne_true, Instr.stored_of_noAccess accesses]
          rfl

include ranks

theorem DataCarry.mem_succ
    (refining : run.Refining memory first.hart (Machine.outside memory first csrRead) start cycle
      hart)
    (entered : run.inMem (cycle + 1) = some issue)
    (runs : Machine.run memory first csrRead
      (run.committed start (cycle + 1) + run.countWb (cycle + 1)) = some machine)
    (fetched : fetch memory machine.hart.pc = some (instr, compressed)) :
    (run.state (cycle + 1)).MemHolds machine.hart instr := by
  have noFlush : run.flushE cycle = false := CoreState.flushE_of_idle idle
  rw [inMem_succ, noFlush, Bool.not_false, Bool.and_true] at entered
  rw [run.state_succ]
  cases ready : run.readyMem cycle with
  | true =>
      rw [rankMem_succ_of_ready ordered idle ready ranks] at runs
      cases readyEx : run.readyEx cycle with
      | true =>
          rw [readyEx, if_pos rfl] at entered
          have executes := refining.carry.ex issue entered machine.hart instr compressed
            (Machine.hart_of_run runs) fetched
          exact CoreState.memHolds_step_of_leaves idle executes readyEx
      | false =>
          rw [readyEx, ready, if_neg Bool.false_ne_true, if_pos rfl] at entered
          cases entered
  | false =>
      have readyEx : run.readyEx cycle = false := by
        cases readyEx : run.readyEx cycle with
        | false => rfl
        | true =>
            have isReady : run.readyMem cycle = true := CoreState.readyMem_of_readyEx readyEx
            rw [ready] at isReady
            cases isReady
      rw [readyEx, ready, if_neg Bool.false_ne_true, if_neg Bool.false_ne_true] at entered
      rw [rankMem_succ_of_waits ordered ready] at runs
      exact (carry.mem issue entered machine instr compressed runs fetched).step_of_waits ready

variable (served : run.ServedData initial) (single : run.SingleAccess cycle)
  (reached : ∃ next, Machine.run memory first csrRead (run.executed start cycle) = some next)

include served single reached

omit ordered idle in
/-- A granted read of the access in MEM is alone in the queue. -/
theorem DataCarry.pending_of_load (grant : (run.inputs cycle).dataGnt = true)
    {width : LoadWidth} {rd rs1 : RegAddr} {imm : BitVec 12}
    (entered : run.inMem cycle = some issue)
    (runs : Machine.run memory first csrRead (run.committed start cycle + run.countWb cycle) =
      some machine)
    (fetched : fetch memory machine.hart.pc = some (.load width rd rs1 imm, compressed)) :
    pending (run.memoryBus initial) (cycle + 1) =
      [some (readWord machine.data
        (if (run.state cycle).lsu.unalignQ then
          machine.hart.reg rs1 + imm.signExtend 32 + 4#32
        else machine.hart.reg rs1 + imm.signExtend 32))] := by
  obtain ⟨next, runsNext⟩ := reached
  have holds := carry.mem issue entered machine _ compressed runs fetched
  obtain ⟨isLoad, -, addr⟩ := holds.makes rfl
  have granted : (run.memoryBus initial cycle).granted = true :=
    Bool.and_eq_true_iff.mpr ⟨served.requested cycle grant, grant⟩
  have alone : (pending (run.memoryBus initial) cycle).length ≤
      (run.memoryBus initial cycle).valid.toNat := by
    rw [length_pending_memoryBus]
    exact single.few grant
  have memory := carry.data_of_load entered ranks runs runsNext fetched
  have isAddr : (run.state cycle).exMem.lsuAddrMem = machine.hart.reg rs1 + imm.signExtend 32 :=
    addr
  rw [BusProtocol.pending_succ_of_grant granted alone, noted_of_load isLoad, memory, isAddr]

theorem DataCarry.firstHalf_succ (split : (run.state (cycle + 1)).lsu.unalignQ = true)
    {width : LoadWidth} {rd rs1 : RegAddr} {imm : BitVec 12}
    (runs : Machine.run memory first csrRead
      (run.committed start (cycle + 1) + run.countWb (cycle + 1)) = some machine)
    (fetched : fetch memory machine.hart.pc = some (.load width rd rs1 imm, compressed)) :
    run.FirstHalf initial machine.data (machine.hart.reg rs1 + imm.signExtend 32) (cycle + 1) := by
  rw [run.state_succ, CoreState.unalignQ_step] at split
  cases grant : (run.inputs cycle).dataGnt with
  | false =>
      rw [grant, Bool.and_false, if_neg Bool.false_ne_true, if_neg Bool.false_ne_true] at split
      obtain ⟨access, crosses⟩ := single.owned split
      have waits : run.readyMem cycle = false :=
        CoreState.readyMem_of_noGrant (CoreState.flushE_of_idle idle) access grant
      rw [rankMem_succ_of_waits ordered waits] at runs
      have noGrant : (run.memoryBus initial cycle).granted = false := by
        change (_ && (run.inputs cycle).dataGnt) = false
        rw [grant, Bool.and_false]
      have rdata := run.dataRdataQ_succ cycle
      rw [split, Bool.true_and] at rdata
      rcases carry.firstHalf split machine width rd rs1 imm compressed runs fetched with
        queue | ⟨queue, word⟩
      · cases valid : (run.dataBus cycle).valid with
        | false =>
            refine .inl ?_
            rw [BusProtocol.pending_succ_of_silent noGrant valid, queue]
        | true =>
            refine .inr ⟨?_, ?_⟩
            · rw [BusProtocol.pending_succ_of_answer noGrant valid, queue]
              rfl
            · rw [rdata, valid, if_pos rfl]
              exact congrArg _ (served.rdata queue valid)
      · have silent : (run.dataBus cycle).valid = false := by
          cases valid : (run.dataBus cycle).valid with
          | false => rfl
          | true =>
              obtain ⟨noted, rest, isQueue, -⟩ := served.answered cycle valid
              rw [queue] at isQueue
              cases isQueue
        refine .inr ⟨?_, ?_⟩
        · rw [BusProtocol.pending_succ_of_silent noGrant silent, queue]
        · rw [rdata, silent, if_neg Bool.false_ne_true, word]
  | true =>
      have request := served.requested cycle grant
      obtain ⟨access, -, -⟩ := CoreState.access_of_dataReq request
      obtain ⟨issue, entered⟩ := inMem_of_access access
      rw [grant, Bool.and_true, if_pos rfl] at split
      have whole : (run.state cycle).lsu.unalignQ = false := by
        cases half : (run.state cycle).lsu.unalignQ with
        | false => rfl
        | true =>
            rw [half, if_pos rfl] at split
            cases split
      rw [whole, if_neg Bool.false_ne_true] at split
      have waits : run.readyMem cycle = false := by
        change (run.state cycle).readyMem (run.inputs cycle) = false
        rw [CoreState.readyMem_of_dataReq request, split, whole]
        rfl
      rw [rankMem_succ_of_waits ordered waits] at runs
      refine .inl ?_
      rw [carry.pending_of_load ranks served single reached grant entered runs fetched, whole,
        if_neg Bool.false_ne_true]

omit ordered in
/-- A load that leaves MEM waits for its last answer. -/
theorem DataCarry.awaits_succ (entered : run.inMem cycle = some issue)
    (ready : run.readyMem cycle = true) {width : LoadWidth} {rd rs1 : RegAddr}
    {imm : BitVec 12}
    (runs : Machine.run memory first csrRead (run.committed start cycle + run.countWb cycle) =
      some machine)
    (fetched : fetch memory machine.hart.pc = some (.load width rd rs1 imm, compressed)) :
    ∃ word, pending (run.memoryBus initial) (cycle + 1) = [some word] ∧
      (run.state (cycle + 1)).lsu.Awaits machine.data (machine.hart.reg rs1 + imm.signExtend 32)
        width.type word := by
  have holds := carry.mem issue entered machine _ compressed runs fetched
  obtain ⟨isLoad, dtype, addr⟩ := holds.makes rfl
  have grant : (run.inputs cycle).dataGnt = true := by
    cases grant : (run.inputs cycle).dataGnt with
    | true => rfl
    | false =>
        have waits : run.readyMem cycle = false :=
          CoreState.readyMem_of_noGrant (CoreState.flushE_of_idle idle) holds.access grant
        rw [ready] at waits
        cases waits
  have request := served.requested cycle grant
  have granted : (run.dataBus cycle).granted = true :=
    Bool.and_eq_true_iff.mpr ⟨request, grant⟩
  have last := CoreState.readyMem_of_dataReq request
  rw [show (run.state cycle).readyMem (run.inputs cycle) = true from ready, grant,
    Bool.and_true] at last
  obtain ⟨offset, dtypeQ⟩ := run.place_succ cycle
  rw [if_pos granted] at offset dtypeQ
  have crosses := LoadWidth.reqUnalign_iff dtype
  rw [show (CoreState.accessMem (run.state cycle).exMem).lsuAddr =
    machine.hart.reg rs1 + imm.signExtend 32 from addr] at crosses
  refine ⟨_, carry.pending_of_load ranks served single reached grant entered runs fetched,
    ?_, ?_, ?_, ?_⟩
  · rw [offset]
    refine (Lsu.toNat_addrOffset _).trans ?_
    exact congrArg lane addr
  · exact dtypeQ.trans dtype
  · intro inside
    have whole : (run.state cycle).lsu.unalignQ = false := by
      cases half : (run.state cycle).lsu.unalignQ with
      | false => rfl
      | true =>
          have across := crosses.mp (single.owned half).2
          omega
    rw [whole, if_neg Bool.false_ne_true]
  · intro across
    rw [crosses.mpr across, if_pos rfl] at last
    refine ⟨by rw [← last, if_pos rfl], ?_⟩
    have rdata := run.dataRdataQ_succ cycle
    rw [← last, Bool.true_and] at rdata
    have alone := single.few grant
    rw [← length_pending_memoryBus run initial] at alone
    rcases carry.firstHalf last.symm machine width rd rs1 imm compressed runs fetched with
      queue | ⟨queue, word⟩
    · have valid : (run.dataBus cycle).valid = true := by
        cases valid : (run.dataBus cycle).valid with
        | true => rfl
        | false =>
            rw [queue, valid] at alone
            cases alone
      rw [rdata, valid, if_pos rfl]
      exact congrArg _ (served.rdata queue valid)
    · have silent : (run.dataBus cycle).valid = false := by
        cases valid : (run.dataBus cycle).valid with
        | false => rfl
        | true =>
            obtain ⟨noted, rest, isQueue, -⟩ := served.answered cycle valid
            rw [queue] at isQueue
            cases isQueue
      rw [rdata, silent, if_neg Bool.false_ne_true, word]

omit carry ordered ranks served reached in
theorem WbHolds.succ_of_waits (holds : run.WbHolds initial machine instr cycle)
    (nextIdle : (run.state (cycle + 1)).fsm = .idle) (waits : run.readyWb cycle = false) :
    run.WbHolds initial machine instr (cycle + 1) := by
  obtain ⟨access, writes⟩ := @CoreState.memWb_step_of_notReady run.params _ _ waits
  have op := @CoreState.lsuOpWb_step_of_notReady run.params _ _ waits
  rw [← run.state_succ] at access writes op
  refine ⟨access.trans holds.access, writes.trans holds.writes, ?_⟩
  rintro width rd rs1 imm rfl
  obtain ⟨isLoad, word, queue, awaits⟩ := holds.loads width rd rs1 imm rfl
  have notValid := readyWb_of_access idle nextIdle holds.access
  have whole := single.whole holds.access
  rw [show (run.state cycle).readyWb (run.inputs cycle) = false from waits, lsuValidWb_eq, whole,
    Bool.not_false, Bool.true_and] at notValid
  have noGrant : (run.dataBus cycle).granted = false := by
    cases granted : (run.dataBus cycle).granted with
    | false => rfl
    | true =>
        have ready : run.readyWb cycle = true :=
          (CoreState.access_of_dataReq (Bool.and_eq_true_iff.mp granted).1).2.1
        rw [waits] at ready
        cases ready
  obtain ⟨offset, dtypeQ⟩ := run.place_succ cycle
  have rdata := run.dataRdataQ_succ cycle
  rw [noGrant, if_neg Bool.false_ne_true] at offset dtypeQ
  rw [whole, Bool.false_and, if_neg Bool.false_ne_true] at rdata
  refine ⟨op.trans isLoad, word, ?_, ?_, ?_, awaits.inside, ?_⟩
  · have silent : (run.memoryBus initial cycle).valid = false := notValid.symm
    have notGranted : (run.memoryBus initial cycle).granted = false := noGrant
    rw [BusProtocol.pending_succ_of_silent notGranted silent, queue]
  · rw [offset, awaits.offset]
  · rw [dtypeQ, awaits.dtype]
  · intro across
    rw [rdata]
    exact awaits.across across

theorem DataCarry.wb_succ (nextIdle : (run.state (cycle + 1)).fsm = .idle)
    (entered : run.inWb (cycle + 1) = some issue)
    (runs : Machine.run memory first csrRead (run.committed start (cycle + 1)) = some machine)
    (fetched : fetch memory machine.hart.pc = some (instr, compressed)) :
    run.WbHolds initial machine instr (cycle + 1) := by
  have noFlush : run.flushE cycle = false := CoreState.flushE_of_idle idle
  rw [inWb_succ, validMem_eq_readyMem, noFlush, Bool.not_false, Bool.and_true] at entered
  cases ready : run.readyMem cycle with
  | true =>
      rw [ready, if_pos rfl] at entered
      rw [committed_succ_of_ready ordered (CoreState.readyWb_of_readyMem ready)] at runs
      have holds := carry.mem issue entered machine instr compressed runs fetched
      obtain ⟨access, writes⟩ := @CoreState.memWb_step_of_readyMem run.params _ _ noFlush ready
      have op := @CoreState.lsuOpWb_step_of_readyMem run.params _ _ noFlush ready
      rw [← run.state_succ] at access writes op
      refine ⟨access.trans holds.access, writes.trans holds.writes, ?_⟩
      rintro width rd rs1 imm rfl
      exact ⟨op.trans (holds.makes rfl).1, carry.awaits_succ idle ranks served single reached
        entered ready runs fetched⟩
  | false =>
      rw [ready, if_neg Bool.false_ne_true] at entered
      cases readyWb : run.readyWb cycle with
      | true =>
          rw [readyWb, if_pos rfl] at entered
          cases entered
      | false =>
          rw [readyWb, if_neg Bool.false_ne_true] at entered
          rw [committed_succ_of_waits ordered readyWb] at runs
          exact (carry.wb issue entered machine instr compressed runs fetched).succ_of_waits idle
            single nextIdle readyWb

end Step

/-- What a load in WB writes is what the machine loads. -/
theorem DataCarry.writtenData (carry : run.DataCarry initial memory first csrRead start cycle)
    (served : run.ServedData initial) {machine : Machine} {instr : Instr} {compressed : Bool}
    {issue : Nat} (entered : run.inWb cycle = some issue) (ready : run.readyWb cycle = true)
    (access : (run.state cycle).memWb.lsuEnWb = true)
    (writes : (run.state cycle).memWb.rdWrEnWb = true)
    (runs : Machine.run memory first csrRead (run.committed start cycle) = some machine)
    (fetched : fetch memory machine.hart.pc = some (instr, compressed))
    (regular : instr.Regular machine.data (machine.hart.operand instr.source1)
      (machine.hart.operand instr.source2)) :
    instr.loaded machine.data (machine.hart.operand instr.source1) = run.writtenData cycle := by
  have holds := carry.wb issue entered machine instr compressed runs fetched
  have accesses : instr.accesses = true := holds.access.symm.trans access
  have destination : instr.destination.isSome = true := holds.writes.symm.trans writes
  cases instr with
  | load width rd rs1 imm =>
      obtain ⟨isLoad, word, queue, awaits⟩ := holds.loads width rd rs1 imm rfl
      have answered : (run.state cycle).readyWb (run.inputs cycle) = true := ready
      rw [CoreState.readyWb, WbStage.readyWb, if_pos access, Bool.and_eq_true, lsuValidWb_eq,
        Bool.and_eq_true] at answered
      have rdata := served.rdata queue answered.1.2
      have written : run.writtenData cycle =
          (run.state cycle).lsu.lsuRdata (run.inputs cycle).dataRdata := by
        change (if (run.state cycle).memWb.lsuEnWb && (run.state cycle).memWb.lsuOpWb == .ld then _
          else _) = _
        rw [access, isLoad]
        rfl
      rw [written, rdata]
      exact (awaits.lsuRdata_eq_iff.mpr regular).symm
  | store width rs1 rs2 imm => cases destination
  | _ => cases accesses

/-- The machine supplies what the core reads. -/
theorem DataCarry.suppliedAt
    (carry : run.DataCarry initial memory first
      (run.csrReads start last) start cycle)
    (ordered : start ≤ cycle) (inside : cycle ≤ last) (served : run.ServedData initial)
    (ranks : run.executed start cycle =
      run.committed start cycle + run.countWb cycle + run.countMem cycle)
    (rank : run.issued start cycle = run.executed start cycle + run.countEx cycle)
    {machine : Machine}
    (runs : Machine.run memory first (run.csrReads start last)
      (run.issued start cycle) = some machine)
    (regular : Machine.Regular memory first
      (run.csrReads start last) (run.issued start cycle)) :
    run.SuppliedAt
      (Machine.outside memory first (run.csrReads start last))
      start cycle where
  loaded := by
    intro leaves access writes
    rw [leavesWb, Bool.and_eq_true, Option.isSome_iff_exists] at leaves
    obtain ⟨⟨issue, entered⟩, ready⟩ := leaves
    have one : run.countWb cycle = 1 := by
      rw [countWb, entered]
      rfl
    have before : run.committed start cycle + 1 ≤ run.issued start cycle := by
      rw [rank, ranks, one]
      omega
    obtain ⟨next, runsNext⟩ := Machine.exists_run_of_le runs before
    obtain ⟨behind, runsBehind, steps⟩ := Machine.step_of_run runsNext
    obtain ⟨instr, compressed, fetched, -⟩ := Machine.execute_of_step steps
    have loaded : (Machine.outside memory first
        (run.csrReads start last) (run.committed start cycle)).loaded =
          instr.loaded behind.data (behind.hart.operand instr.source1) := by
      rw [Machine.outside, runsBehind]
      exact Machine.loads_of_fetch fetched
    rw [loaded]
    exact carry.writtenData served entered ready access writes runsBehind fetched
      (regular _ before behind instr compressed runsBehind fetched)
  csrRead := (run.suppliedAt_outside ordered inside).csrRead

/-! ## Runs -/

/-- The core in a cycle and the machine in front of the instruction that issues next. -/
structure InStepWithData (run : CoreRun) (initial : Memory) (memory : Word → Word)
    (first : Machine) (csrRead : Nat → Word) (start cycle : Nat) (machine : Machine) : Prop where
  issues : run.issues cycle = true → run.IssuesFor memory cycle machine.hart
  inFlight : run.issued start cycle =
    run.committed start cycle + run.countWb cycle + run.countMem cycle + run.countEx cycle
  registers : ∃ behind,
    Machine.run memory first csrRead (run.committed start cycle) = some behind ∧
      (run.state cycle).rf.mem = behind.hart.reg
  data : ∃ inFront, Machine.run memory first csrRead (run.executed start cycle) = some inFront ∧
    (run.state cycle).remainingRequests.foldl DataRequest.apply (run.memory initial cycle) =
      inFront.data

/-- From the start up to the last cycle the core executes what the machine executes, as long as
the machine goes on and its instructions are regular. -/
def ExecutesWithData (run : CoreRun) (initial : Memory) (memory : Word → Word) (first : Machine)
    (start last : Nat) : Prop :=
  ∀ cycle, start ≤ cycle → cycle ≤ last → ∀ machine,
    Machine.run memory first (run.csrReads start last) (run.issued start cycle) = some machine →
      Machine.Regular memory first (run.csrReads start last) (run.issued start cycle) →
        run.InStepWithData initial memory first (run.csrReads start last) start cycle machine

section Run

variable {first : Machine} (drained : run.Drained memory first.hart start)
  (sameData : run.memory initial start = first.data)
  (servedInstr : run.ServedBy memory) (served : run.ServedData initial)
  (bootAligned : run.bootAddr.toNat % 4 = 0)
  (single : ∀ cycle, start ≤ cycle → cycle ≤ last → run.SingleAccess cycle)
  (idle : run.IdleFrom start last)

include drained sameData single in
theorem Drained.dataCarry (nonempty : start ≤ last) :
    run.DataCarry initial memory first csrRead start start := by
  have noAccess : (run.state start).exMem.lsuEnMem = false :=
    ((run.stagesHold start).mem drained.emptyMem).1
  constructor
  · intro machine runs
    rw [executed, SynchronousRun.occurrences_self] at runs
    obtain rfl : first = machine := Option.some.inj runs
    rw [CoreState.remainingRequests, noAccess, if_neg Bool.false_ne_true]
    exact sameData
  · intro issue entered
    rw [drained.emptyMem] at entered
    cases entered
  · intro split
    have access := ((single start (Nat.le_refl _) nonempty).owned split).1
    rw [noAccess] at access
    cases access
  · intro issue entered
    rw [drained.emptyWb] at entered
    cases entered

include drained sameData servedInstr served bootAligned single idle

/-- The core and its memory stay with the machine. -/
theorem Drained.dataCarry_upTo (ordered : start ≤ cycle) (inside : cycle ≤ last)
    {machine : Machine}
    (runs : Machine.run memory first (run.csrReads start last)
      (run.issued start cycle) = some machine)
    (regular : Machine.Regular memory first
      (run.csrReads start last) (run.issued start cycle)) :
    run.Refining memory first.hart
        (Machine.outside memory first (run.csrReads start last))
        start cycle machine.hart ∧
      run.DataCarry initial memory first (run.csrReads start last)
        start cycle := by
  induction ordered generalizing machine with
  | refl =>
      rw [issued, SynchronousRun.occurrences_self] at runs
      obtain rfl : first = machine := Option.some.inj runs
      exact ⟨drained.refining, drained.dataCarry sameData single inside⟩
  | @step cycle ordered induction =>
      have before : cycle ≤ last := Nat.le_of_succ_le inside
      have later := runs
      have grows := regular
      rw [Nat.succ_eq_add_one] at later grows
      rw [issued_succ ordered] at later grows
      obtain ⟨previous, runsBefore⟩ := Machine.exists_run_of_le later (Nat.le_add_right _ _)
      obtain ⟨refining, carry⟩ := induction before runsBefore (grows.of_le (Nat.le_add_right _ _))
      obtain ⟨ranks, rank⟩ := drained.ranks idle ordered before
      have idleNow := idle cycle ordered before
      have singleNow := single cycle ordered before
      have executedFew : run.executed start (cycle + 1) ≤ run.issued start (cycle + 1) := by
        have rankNext := (drained.ranks idle (Nat.le_succ_of_le ordered) inside).2
        rw [rankNext]
        exact Nat.le_add_right _ _
      have reached : ∃ next, Machine.run memory first
          (run.csrReads start last) (run.executed start cycle) =
            some next := by
        rw [rank] at runsBefore
        exact Machine.exists_run_of_le runsBefore (Nat.le_add_right _ _)
      have supplied := carry.suppliedAt ordered before served ranks rank runsBefore
        (grows.of_le (Nat.le_add_right _ _))
      constructor
      · refine refining.succ supplied ordered idleNow drained.even drained.zero ranks rank
          (Machine.hart_of_run runsBefore) servedInstr bootAligned ?_ (Machine.hart_of_run runs)
        intro issues rd rs1 imm compressed fetched
        have among : run.issued start cycle <
            run.issued start cycle + (run.issues cycle).toNat := by
          rw [issues]
          exact Nat.lt_succ_self _
        exact grows _ among previous _ compressed runsBefore fetched
      · constructor
        · intro next runsNext
          exact carry.data_succ ordered served idleNow singleNow.owned refining
            (regular.of_le executedFew) runsNext
        · intro issue entered machine instr compressed runsNext fetched
          exact carry.mem_succ ordered idleNow ranks refining entered runsNext fetched
        · intro split machine width rd rs1 imm compressed runsNext fetched
          exact carry.firstHalf_succ ordered idleNow ranks served singleNow reached split
            runsNext fetched
        · intro issue entered machine instr compressed runsNext fetched
          exact carry.wb_succ ordered idleNow ranks served singleNow reached
            (idle (cycle + 1) (Nat.le_succ_of_le ordered) inside) entered runsNext fetched

theorem Drained.inStepWithData (ordered : start ≤ cycle) (inside : cycle ≤ last)
    {machine : Machine}
    (runs : Machine.run memory first (run.csrReads start last)
      (run.issued start cycle) = some machine)
    (regular : Machine.Regular memory first
      (run.csrReads start last) (run.issued start cycle)) :
    run.InStepWithData initial memory first
      (run.csrReads start last) start cycle machine := by
  obtain ⟨refining, carry⟩ := drained.dataCarry_upTo sameData servedInstr served bootAligned
    single idle ordered inside runs regular
  obtain ⟨ranks, rank⟩ := drained.ranks idle ordered inside
  have supplied := carry.suppliedAt ordered inside served ranks rank runs regular
  have runsEx := runs
  rw [rank] at runsEx
  obtain ⟨inFront, runsFront⟩ := Machine.exists_run_of_le runsEx (Nat.le_add_right _ _)
  have runsWb := runsFront
  rw [ranks, Nat.add_assoc] at runsWb
  obtain ⟨behind, runsBehind⟩ := Machine.exists_run_of_le runsWb (Nat.le_add_right _ _)
  refine ⟨?_, ?_, ⟨behind, runsBehind, ?_⟩, inFront, runsFront, carry.data inFront runsFront⟩
  · exact refining.issuesFor supplied drained.zero ranks rank (Machine.hart_of_run runs)
  · rw [rank, ranks]
  · exact refining.carry.registers behind.hart (Machine.hart_of_run runsBehind)

end Run

/-- From reset to the first trap the core and its memory execute the program. -/
theorem executesWithData_boot (run : CoreRun) (memory : Word → Word) (initial : Memory)
    {last : Nat} (servedInstr : run.ServedBy memory) (served : run.ServedData initial)
    (bootAligned : run.bootAddr.toNat % 4 = 0) (second : ∀ last, run.SecondAfterFirst last)
    (idle : run.IdleThrough last) :
    run.ExecutesWithData initial memory ⟨Hart.boot run.bootAddr, initial⟩ 0 last :=
  fun _ ordered inside _ runs regular =>
    (run.drained_zero memory bootAligned).inStepWithData rfl servedInstr served bootAligned
      (fun _ _ within => singleAccess idle served.inOrder second within)
      (fun cycle _ => idle cycle) ordered inside runs regular

end CoreRun

/-- The data bus serves a memory if it answers with its words up to a cycle, and grants only stores
from then on. -/
theorem Surroundings.servedData_of_reads (around : Surroundings) {initial : Memory} {last : Nat}
    (reads : ∀ cycle, cycle < last → (around.coreRun.dataBus cycle).gnt = true →
      (around.coreRun.memoryBus initial cycle).addr.all (fun word =>
        around.dataAnswer (around.coreRun.dataBus cycle).addr == (word, false)) = true)
    (stores : ∀ cycle, last ≤ cycle → (around.coreRun.dataBus cycle).gnt = true →
      (around.coreRun.dataRequest cycle).dataWr = true) :
    around.coreRun.ServedData initial := by
  refine BusProtocol.inOrder_of_immediate around.requested_dataBus rfl
    around.valid_dataBus_succ fun cycle granted word noted => ?_
  have grant : (around.coreRun.dataBus cycle).gnt = true := (Bool.and_eq_true_iff.mp granted).2
  have answer : (around.coreRun.dataBus (cycle + 1)).data =
      around.dataAnswer (around.coreRun.dataBus cycle).addr := by
    change (around.system (cycle + 1)).dataAnswer.getD (0#32, false) = _
    rw [around.dataAnswer_succ, if_pos grant]
    rfl
  rcases Nat.lt_or_ge cycle last with early | late
  · have read := reads cycle early grant
    rw [Option.mem_def.mp noted, Option.all_some, beq_iff_eq] at read
    exact answer.trans read
  · rw [CoreRun.memoryBus, stores cycle late grant, if_pos rfl] at noted
    cases noted

/-- The same, if the memories come to rest. -/
theorem Surroundings.servedData_of_resting (around : Surroundings) {initial : Memory} {last : Nat}
    (resting : around.grants last = false)
    (reads : ∀ cycle, cycle < last → (around.coreRun.dataBus cycle).gnt = true →
      (around.coreRun.memoryBus initial cycle).addr.all (fun word =>
        around.dataAnswer (around.coreRun.dataBus cycle).addr == (word, false)) = true) :
    around.coreRun.ServedData initial := by
  refine around.servedData_of_reads reads fun cycle late grant => ?_
  have grants : around.grants cycle = true := (Bool.and_eq_true_iff.mp grant).2
  rw [around.grants_of_resting resting late] at grants
  cases grants

/-- `addi x1, x0, 18`, `sw x1, 4(x0)`, `lw x2, 4(x0)` and `add x3, x2, x2`. -/
def Surroundings.storeThenLoad : Surroundings where
  program := programOf [0x01200093#32, 0x00102223#32, 0x00402103#32, 0x002101B3#32]
  dataAnswer := fun addr => (if addr = 4#32 then 18#32 else 0#32, false)
  rest := 10

namespace CoreRun

open Surroundings (storeThenLoad)

theorem servedBy_storeThenLoad :
    storeThenLoad.coreRun.ServedBy fun addr => (storeThenLoad.program addr).1 where
  noDenial := storeThenLoad.forall_cycle_of_settled 17 (by decide) (fun _ _ => rfl)
    (by decide +kernel)
    (fun st port => st.ifs.pmpErr defaultParams.pmpEnable (st.ifInput defaultParams port) = false)
    (by decide +kernel)
  instr := storeThenLoad.wellConnected.instr

theorem servedData_storeThenLoad : storeThenLoad.coreRun.ServedData fun _ => 0#8 :=
  storeThenLoad.servedData_of_resting (show storeThenLoad.grants 10 = false by decide)
    (by decide +kernel)

theorem executesWithData_storeThenLoad :
    storeThenLoad.coreRun.ExecutesWithData (fun _ => 0#8)
      (fun addr => (storeThenLoad.program addr).1) ⟨Hart.boot 0#32, fun _ => 0#8⟩ 0 12 ∧
    Machine.Regular (fun addr => (storeThenLoad.program addr).1) ⟨Hart.boot 0#32, fun _ => 0#8⟩
      (storeThenLoad.coreRun.csrReads 0 12) (storeThenLoad.coreRun.issued 0 12) := by
  have idle : ∀ cycle, cycle ≤ 12 → (storeThenLoad.system cycle).core.fsm = .idle := by
    decide +kernel
  have issued : storeThenLoad.coreRun.issued 0 12 = 7 := by decide +kernel
  constructor
  · refine executesWithData_boot storeThenLoad.coreRun _ _ servedBy_storeThenLoad
      servedData_storeThenLoad rfl (secondAfterFirst_of_surroundings storeThenLoad) ?_
    intro cycle inside
    rw [storeThenLoad.state_coreRun]
    exact idle cycle inside
  · rw [issued]
    exact Machine.regular_of_isRegular (by decide +kernel)

end CoreRun

end RiscvCore
