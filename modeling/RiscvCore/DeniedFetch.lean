import RiscvCore.FetchCredits
import RiscvCore.InOrderHistory

/-!
# Denied fetches

A denied request that is not granted is never answered: the command FIFO drops it as soon as it
is the oldest one, which the stage sees in the bits of the oldest slot.  These bits stay when the
FIFO runs empty, so that a dropped request has to be replaced in the same cycle.  Where this is
so, the command FIFO loses nothing, each error word has one origin, and a permitted redirect
brings in the right words.
-/

namespace RiscvCore

open BusProtocol (InOrder)
open RedirectQueue (Follows wordAddr)
open SynchronousRun (occurrences)

namespace Command

def marked (command : BitVec 3) : Bool := command.getLsbD 0

def denied (command : BitVec 3) : Bool := command.getLsbD 1

def aborted (command : BitVec 3) : Bool := command.getLsbD 2

variable (pmpEnable : Bool) (st : IfStage) (port : IfStage.Input)

theorem denied_cmdFifoWdata :
    denied (st.cmdFifoWdata pmpEnable port) = st.pmpErr pmpEnable port := by
  rw [IfStage.cmdFifoWdata]
  cases st.reqAbort pmpEnable port <;> cases st.pmpErr pmpEnable port <;>
    cases st.updiscon port <;> rfl

theorem aborted_cmdFifoWdata :
    aborted (st.cmdFifoWdata pmpEnable port) = st.reqAbort pmpEnable port := by
  rw [IfStage.cmdFifoWdata]
  cases st.reqAbort pmpEnable port <;> cases st.pmpErr pmpEnable port <;>
    cases st.updiscon port <;> rfl

/-- The commands that the bus answers. -/
def answered (commands : List (BitVec 3)) : List (BitVec 3) :=
  commands.filter fun command => !aborted command

end Command

namespace IfStage

variable {pmpEnable : Bool} {st : IfStage} {port : Input} {command : BitVec 3}
  {commands rest : List (BitVec 3)}

/-- Only new requests are checked. -/
theorem instrReqNew_of_pmpErr (denial : st.pmpErr pmpEnable port = true) :
    st.instrReqNew port = true := by
  simp only [pmpErr, Pmp.wiredPmpErr, Pmp.pmpErr, Pmp.Entries.pmpErrO, Bool.and_eq_true] at denial
  obtain ⟨-, denial⟩ := denial
  split at denial
  · exact (Bool.and_eq_true_iff.mp denial).1
  · exact (Bool.and_eq_true_iff.mp denial).1

theorem instrReq_of_pmpErr (denial : st.pmpErr pmpEnable port = true) :
    st.instrReq port = true := by
  rw [instrReq, instrReqNew_of_pmpErr denial, Bool.true_or]

theorem instrReq_of_cmdFifoPush (push : st.cmdFifoPush pmpEnable port = true) :
    st.instrReq port = true := by
  rcases Bool.or_eq_true_iff.mp push with granted | denial
  · exact (Bool.and_eq_true_iff.mp granted).1
  · exact instrReq_of_pmpErr denial

/-- The oldest command is an aborted one. -/
def abortedHead (st : IfStage) : Bool :=
  st.cmdFifo.rdDataValid && st.cmdPmpErrQ && st.cmdAbortQ

/-- The command FIFO holds the given commands.  Only the youngest can be aborted, and the bits of
the oldest slot do not show an aborted one while the FIFO is empty. -/
structure Commands (st : IfStage) (commands : List (BitVec 3)) : Prop where
  holds : st.cmdFifo.Holds commands
  idle : commands = [] → (st.cmdPmpErrQ && st.cmdAbortQ) = false
  denied : ∀ command ∈ commands, Command.aborted command = true →
    Command.denied command = true
  youngest : ∀ command ∈ commands.dropLast, Command.aborted command = false
  retry : st.reqFail = true →
    commands.length ≤ 1 ∧ ∀ command ∈ commands, Command.aborted command = false

theorem commands_reset (bootAddr : Word) : (reset bootAddr).Commands [] where
  holds := SyncFifo.holds_reset
  idle := fun _ => by
    simp [cmdPmpErrQ, SyncFifo.rdData, SyncFifo.dataAt, reset, SyncFifo.reset]
  denied := fun command inside => by cases inside
  youngest := fun command inside => by cases inside
  retry := fun retried => by cases retried

theorem Commands.rest_of_aborted (queue : st.Commands (command :: rest))
    (isAborted : Command.aborted command = true) : rest = [] := by
  cases rest with
  | nil => rfl
  | cons next rest =>
      have first := queue.youngest command (by simp)
      rw [isAborted] at first
      cases first

theorem Commands.cmdUpdisconQ (queue : st.Commands (command :: rest)) :
    st.cmdUpdisconQ = Command.marked command := by
  rw [IfStage.cmdUpdisconQ, queue.holds.rdData (by simp)]
  rfl

theorem Commands.cmdPmpErrQ (queue : st.Commands (command :: rest)) :
    st.cmdPmpErrQ = Command.denied command := by
  rw [IfStage.cmdPmpErrQ, queue.holds.rdData (by simp)]
  rfl

theorem Commands.cmdAbortQ (queue : st.Commands (command :: rest)) :
    st.cmdAbortQ = Command.aborted command := by
  rw [IfStage.cmdAbortQ, queue.holds.rdData (by simp)]
  rfl

theorem Commands.errAbort_cons (queue : st.Commands (command :: rest)) :
    (st.cmdPmpErrQ && st.cmdAbortQ) = Command.aborted command := by
  rw [queue.cmdPmpErrQ, queue.cmdAbortQ]
  cases isAborted : Command.aborted command with
  | false => exact Bool.and_false _
  | true =>
      rw [queue.denied command List.mem_cons_self isAborted]
      rfl

theorem Commands.cmdFifoPop_cons (queue : st.Commands (command :: rest)) :
    st.cmdFifoPop port = (port.instrValid || Command.aborted command) := by
  rw [cmdFifoPop, queue.errAbort_cons]

theorem Commands.cmdFifoPop_nil (queue : st.Commands []) :
    st.cmdFifoPop port = port.instrValid := by
  rw [cmdFifoPop, queue.idle rfl, Bool.or_false]

theorem Commands.abortedHead_cons (queue : st.Commands (command :: rest)) :
    st.abortedHead = Command.aborted command := by
  rw [abortedHead, Bool.and_assoc, queue.errAbort_cons, queue.holds.rdDataValid]
  rfl

/-- Popped is only what is there, if the bus answers only what it has to. -/
theorem Commands.nonempty_of_cmdFifoPop (queue : st.Commands commands)
    (expected : port.instrValid = true → Command.answered commands ≠ [])
    (pop : st.cmdFifoPop port = true) : commands ≠ [] := by
  rintro rfl
  rw [queue.cmdFifoPop_nil] at pop
  exact expected pop rfl

/-- A request is made only while the command FIFO has room. -/
theorem Commands.room (queue : st.Commands commands) (request : st.instrReq port = true) :
    commands.length < 2 := by
  have fits := queue.holds.fits
  rcases Bool.or_eq_true_iff.mp request with isNew | retried
  · simp only [instrReqNew, queue.holds.fifoFull, Bool.and_eq_true, Bool.not_eq_true',
      decide_eq_false_iff_not] at isNew
    omega
  · have := (queue.retry retried).1
    omega

/-- A request that finds a command finds no other. -/
theorem Commands.alone (queue : st.Commands commands) (request : st.instrReq port = true)
    (inside : command ∈ commands) : commands = [command] := by
  have room := queue.room request
  cases commands with
  | nil => cases inside
  | cons first rest =>
      have alone : rest = [] := by
        rw [List.length_cons] at room
        exact List.eq_nil_of_length_eq_zero (by omega)
      rw [alone] at inside ⊢
      rw [List.mem_singleton.mp inside]

/-- The commands that stay: the oldest one is dropped when it is answered or aborted. -/
def remaining (st : IfStage) (port : Input) (commands : List (BitVec 3)) : List (BitVec 3) :=
  if st.cmdFifoPop port then commands.tail else commands

def nextCommands (pmpEnable : Bool) (st : IfStage) (port : Input) (commands : List (BitVec 3)) :
    List (BitVec 3) :=
  st.remaining port commands ++
    (if st.cmdFifoPush pmpEnable port then [st.cmdFifoWdata pmpEnable port] else [])

theorem nextCommands_eq (pmpEnable : Bool) (st : IfStage) (port : Input)
    (commands : List (BitVec 3)) :
    st.nextCommands pmpEnable port commands =
      SyncFifo.nextQueue commands (cmdFifoInput pmpEnable st port) := rfl

theorem mem_of_mem_remaining (inside : command ∈ st.remaining port commands) :
    command ∈ commands := by
  rw [remaining] at inside
  split at inside
  · exact List.mem_of_mem_tail inside
  · exact inside

/-- An aborted oldest command does not stay. -/
theorem Commands.remaining_of_aborted (queue : st.Commands [command])
    (isAborted : Command.aborted command = true) : st.remaining port [command] = [] := by
  rw [remaining, queue.cmdFifoPop_cons, isAborted, Bool.or_true]
  rfl

/-- One cycle of the command FIFO, in which an aborted oldest command is replaced. -/
theorem Commands.next (queue : st.Commands commands)
    (expected : port.instrValid = true → Command.answered commands ≠ [])
    (replaced : st.abortedHead = true → st.cmdFifoPush pmpEnable port = true) :
    (st.next pmpEnable port).Commands (st.nextCommands pmpEnable port commands) := by
  constructor
  · rw [nextCommands_eq, cmdFifo_next]
    exact queue.holds.next rfl (queue.nonempty_of_cmdFifoPop expected)
      fun push => queue.room (instrReq_of_cmdFifoPush push)
  · intro empties
    have noPush : st.cmdFifoPush pmpEnable port ≠ true := by
      intro push
      simp [nextCommands, push] at empties
    have sameSlot : (st.next pmpEnable port).cmdFifo.dataAt 0 = st.cmdFifo.dataAt 0 := by
      rw [cmdFifo_next]
      exact queue.holds.dataAt_zero_next empties
    change (((st.next pmpEnable port).cmdFifo.dataAt 0).getLsbD 1 &&
      ((st.next pmpEnable port).cmdFifo.dataAt 0).getLsbD 2) = false
    rw [sameSlot]
    change (st.cmdPmpErrQ && st.cmdAbortQ) = false
    cases commands with
    | nil => exact queue.idle rfl
    | cons command rest =>
        rw [queue.errAbort_cons]
        cases isAborted : Command.aborted command with
        | false => rfl
        | true => exact absurd (replaced (queue.abortedHead_cons.trans isAborted)) noPush
  · intro command inside isAborted
    rcases List.mem_append.mp inside with kept | pushed
    · exact queue.denied command (mem_of_mem_remaining kept) isAborted
    · split at pushed
      · rw [List.mem_singleton.mp pushed] at isAborted ⊢
        rw [Command.aborted_cmdFifoWdata, reqAbort, Bool.and_eq_true] at isAborted
        rw [Command.denied_cmdFifoWdata, isAborted.2]
      · cases pushed
  · intro command inside
    cases push : st.cmdFifoPush pmpEnable port with
    | true =>
        rw [nextCommands, push, if_pos rfl, List.dropLast_concat] at inside
        have alone := queue.alone (instrReq_of_cmdFifoPush push) (mem_of_mem_remaining inside)
        subst alone
        cases isAborted : Command.aborted command with
        | false => rfl
        | true =>
            rw [queue.remaining_of_aborted isAborted] at inside
            cases inside
    | false =>
        rw [nextCommands, push, if_neg Bool.false_ne_true, List.append_nil, remaining] at inside
        split at inside
        · rw [← List.tail_dropLast] at inside
          exact queue.youngest command (List.mem_of_mem_tail inside)
        · exact queue.youngest command inside
  · intro retried
    have fails : st.nextReqFail pmpEnable port = true := retried
    simp only [nextReqFail, Bool.and_eq_true, Bool.not_eq_true'] at fails
    obtain ⟨⟨request, noGrant⟩, noDenial⟩ := fails
    have noPush : st.cmdFifoPush pmpEnable port = false := by
      rw [cmdFifoPush, noGrant, noDenial, Bool.and_false, Bool.or_false]
    have room := queue.room request
    rw [nextCommands, noPush, if_neg Bool.false_ne_true, List.append_nil]
    constructor
    · rw [remaining]
      split
      · rw [List.length_tail]
        omega
      · omega
    · intro command inside
      have alone := queue.alone request (mem_of_mem_remaining inside)
      subst alone
      cases isAborted : Command.aborted command with
      | false => rfl
      | true =>
          rw [queue.remaining_of_aborted isAborted] at inside
          cases inside

theorem Commands.length_answered_remaining (queue : st.Commands commands)
    (expected : port.instrValid = true → Command.answered commands ≠ []) :
    (Command.answered (st.remaining port commands)).length + port.instrValid.toNat =
      (Command.answered commands).length := by
  have noAnswer (none : Command.answered commands = []) : port.instrValid = false :=
    Bool.eq_false_iff.mpr fun valid => expected valid none
  cases commands with
  | nil =>
      rw [remaining, queue.cmdFifoPop_nil, noAnswer rfl]
      rfl
  | cons command rest =>
      cases isAborted : Command.aborted command with
      | true =>
          obtain rfl := queue.rest_of_aborted isAborted
          have none : Command.answered [command] = [] := by
            simp [Command.answered, isAborted]
          rw [queue.remaining_of_aborted isAborted, none, noAnswer none]
          rfl
      | false =>
          rw [remaining, queue.cmdFifoPop_cons, isAborted, Bool.or_false]
          cases port.instrValid <;> simp [Command.answered, isAborted]

/-- The bus answers the commands that it has granted: a cycle takes away the answered one and
adds the granted one. -/
theorem Commands.length_answered (pmpEnable : Bool) (queue : st.Commands commands)
    (expected : port.instrValid = true → Command.answered commands ≠ []) :
    (Command.answered (st.nextCommands pmpEnable port commands)).length +
        port.instrValid.toNat =
      (Command.answered commands).length + (st.granted port).toNat := by
  have stays := queue.length_answered_remaining expected
  have enters : (Command.answered (if st.cmdFifoPush pmpEnable port then
      [st.cmdFifoWdata pmpEnable port] else [])).length = (st.granted port).toNat := by
    have requested : st.pmpErr pmpEnable port = true → st.instrReq port = true :=
      instrReq_of_pmpErr
    have isAborted := Command.aborted_cmdFifoWdata pmpEnable st port
    rw [reqAbort] at isAborted
    rw [cmdFifoPush, granted]
    cases request : st.instrReq port <;> cases grant : port.instrGnt <;>
      cases denial : st.pmpErr pmpEnable port <;>
      simp_all [Command.answered]
  rw [nextCommands, Command.answered, List.filter_append, List.length_append]
  rw [Command.answered] at stays enters
  omega

/-- Without an aborted command the commands leave as they are answered. -/
theorem Commands.cmdFifoPop_of_clean (queue : st.Commands commands)
    (clean : ∀ command ∈ commands, Command.aborted command = false) :
    st.cmdFifoPop port = port.instrValid := by
  cases commands with
  | nil => exact queue.cmdFifoPop_nil
  | cons command rest =>
      rw [queue.cmdFifoPop_cons, clean command List.mem_cons_self, Bool.or_false]

theorem Commands.cmdUpdiscon (queue : st.Commands commands) (nonempty : commands ≠ []) :
    st.cmdUpdiscon port = (st.cmdFifoPop port && (commands.map Command.marked).headD false) := by
  cases commands with
  | nil => exact absurd rfl nonempty
  | cons command rest =>
      rw [IfStage.cmdUpdiscon, queue.cmdUpdisconQ]
      rfl

theorem Commands.answersMarks (queue : st.Commands commands)
    (clean : ∀ command ∈ commands, Command.aborted command = false)
    (expected : port.instrValid = true → Command.answered commands ≠ []) :
    st.AnswersMarks port (commands.map Command.marked) where
  cmdUpdiscon := by
    have pops : st.cmdFifoPop port = port.instrValid := queue.cmdFifoPop_of_clean clean
    cases valid : port.instrValid with
    | false => rw [IfStage.cmdUpdiscon, pops, valid, Bool.false_and, Bool.false_and]
    | true =>
        have nonempty := queue.nonempty_of_cmdFifoPop expected (pops.trans valid)
        rw [queue.cmdUpdiscon nonempty, pops, valid]
  written := by
    rw [cmdPmpErr, queue.cmdFifoPop_of_clean clean]
    cases port.instrValid <;> rfl

/-- While an aborted command is queued nothing is requested, except by a redirect. -/
theorem Commands.noRequest_of_aborted (queue : st.Commands commands)
    (inside : command ∈ commands) (isAborted : Command.aborted command = true)
    (noRedirect : port.setPcValid = false) : st.instrReq port = false := by
  refine Bool.eq_false_iff.mpr fun request => ?_
  have alone := queue.alone request inside
  subst alone
  have isDenied := queue.denied command inside isAborted
  rcases Bool.or_eq_true_iff.mp request with isNew | retried
  · simp [instrReqNew, queue.cmdPmpErrQ, isDenied, fifoClear_eq, noRedirect] at isNew
  · have isClean := (queue.retry retried).2 command inside
    rw [isAborted] at isClean
    cases isClean

theorem noPush_of_noRequest (noRequest : st.instrReq port = false) :
    st.cmdFifoPush pmpEnable port = false :=
  Bool.eq_false_iff.mpr fun push => by
    rw [instrReq_of_cmdFifoPush push] at noRequest
    cases noRequest

end IfStage

namespace FetchRun

variable (run : FetchRun)

/-! ## The commands of a run -/

/-- The commands stored and not dropped before the given cycle. -/
def commands : Nat → List (BitVec 3)
  | 0 => []
  | cycle + 1 => (run.state cycle).nextCommands run.pmpEnable (run.inputs cycle) (commands cycle)

/-- In each cycle that finds an aborted command oldest in the FIFO another command is stored. -/
def AbortsReplaced : Prop :=
  ∀ cycle, (run.state cycle).abortedHead = true →
    (run.state cycle).cmdFifoPush run.pmpEnable (run.inputs cycle) = true

/-- The commands of the run are those of the FIFO, and the bus has the answered ones queued. -/
structure Commanded (cycle : Nat) : Prop where
  queue : (run.state cycle).Commands (run.commands cycle)
  length : (Command.answered (run.commands cycle)).length =
    (BusProtocol.pending run.bus cycle).length

variable {run} {cycle : Nat}

theorem Commanded.expected (commanded : run.Commanded cycle) (queued : run.AnswersQueued)
    (valid : (run.inputs cycle).instrValid = true) :
    Command.answered (run.commands cycle) ≠ [] := by
  intro none
  have length := commanded.length
  rw [none, List.length_nil] at length
  exact queued cycle valid (List.eq_nil_of_length_eq_zero length.symm)

theorem Commanded.succ (commanded : run.Commanded cycle) (queued : run.AnswersQueued)
    (replaced : (run.state cycle).abortedHead = true →
      (run.state cycle).cmdFifoPush run.pmpEnable (run.inputs cycle) = true) :
    run.Commanded (cycle + 1) where
  queue := commanded.queue.next (commanded.expected queued) replaced
  length := by
    have counted := commanded.queue.length_answered run.pmpEnable (commanded.expected queued)
    have length := commanded.length
    have sameGrant : (run.state cycle).granted (run.inputs cycle) = (run.bus cycle).granted := rfl
    have sameValid : (run.bus cycle).valid = (run.inputs cycle).instrValid := rfl
    have nonempty : (run.inputs cycle).instrValid = true →
        0 < (BusProtocol.pending run.bus cycle).length := fun valid =>
      List.length_pos_iff.mpr (queued cycle valid)
    rw [commands, BusProtocol.pending_succ, BusProtocol.nextPending, ← sameGrant, sameValid,
      List.length_append]
    cases valid : (run.inputs cycle).instrValid with
    | false =>
        rw [valid] at counted
        cases grant : (run.state cycle).granted (run.inputs cycle) <;>
          simp [grant] at counted ⊢ <;> omega
    | true =>
        have positive := nonempty valid
        rw [valid] at counted
        cases grant : (run.state cycle).granted (run.inputs cycle) <;>
          simp [grant] at counted ⊢ <;> omega

theorem commanded_of_earlier (queued : run.AnswersQueued) (cycle : Nat)
    (replaced : ∀ earlier < cycle, (run.state earlier).abortedHead = true →
      (run.state earlier).cmdFifoPush run.pmpEnable (run.inputs earlier) = true) :
    run.Commanded cycle := by
  induction cycle with
  | zero => exact ⟨IfStage.commands_reset run.bootAddr, rfl⟩
  | succ cycle induction =>
      have before := induction fun earlier isEarlier => replaced earlier (by omega)
      exact before.succ queued (replaced cycle (Nat.lt_succ_self cycle))

theorem commanded (queued : run.AnswersQueued) (replaced : run.AbortsReplaced) (cycle : Nat) :
    run.Commanded cycle :=
  commanded_of_earlier queued cycle fun earlier _ => replaced earlier

/-- An aborted command that is not replaced is dropped again from the empty FIFO. -/
theorem Commanded.pops_empty (commanded : run.Commanded cycle) (queued : run.AnswersQueued)
    (head : (run.state cycle).abortedHead = true)
    (noPush : (run.state cycle).cmdFifoPush run.pmpEnable (run.inputs cycle) = false) :
    (run.state (cycle + 1)).cmdFifoPop (run.inputs (cycle + 1)) = true ∧
      (run.state (cycle + 1)).cmdFifo.rdDataValid = false := by
  have queue := commanded.queue
  have pops := queue.nonempty_of_cmdFifoPop (commanded.expected queued)
  rw [IfStage.abortedHead, Bool.and_assoc, Bool.and_eq_true] at head
  obtain ⟨isValid, errAbort⟩ := head
  have empties : (run.state cycle).nextCommands run.pmpEnable (run.inputs cycle)
      (run.commands cycle) = [] := by
    rw [IfStage.nextCommands, noPush]
    cases isQueue : run.commands cycle with
    | nil =>
        rw [queue.holds.rdDataValid, isQueue] at isValid
        cases isValid
    | cons command rest =>
        rw [isQueue] at queue
        have isAborted := queue.errAbort_cons.symm.trans errAbort
        obtain rfl := queue.rest_of_aborted isAborted
        rw [queue.remaining_of_aborted isAborted]
        rfl
  have holdsNext : ((run.state (cycle + 1)).cmdFifo).Holds
      ((run.state cycle).nextCommands run.pmpEnable (run.inputs cycle) (run.commands cycle)) := by
    rw [IfStage.nextCommands_eq, state_succ, IfStage.cmdFifo_next]
    refine queue.holds.next rfl pops fun push => ?_
    exact absurd (noPush.symm.trans push) Bool.false_ne_true
  rw [empties] at holdsNext
  rw [IfStage.nextCommands_eq] at empties
  have sameSlot := queue.holds.dataAt_zero_next empties
  rw [← IfStage.cmdFifo_next, ← state_succ] at sameSlot
  refine ⟨?_, holdsNext.rdDataValid⟩
  have stale : ((run.state (cycle + 1)).cmdPmpErrQ && (run.state (cycle + 1)).cmdAbortQ) =
      ((run.state cycle).cmdPmpErrQ && (run.state cycle).cmdAbortQ) := by
    rw [IfStage.cmdPmpErrQ, IfStage.cmdAbortQ, SyncFifo.rdData, sameSlot]
    rfl
  rw [IfStage.cmdFifoPop, stale, errAbort, Bool.or_true]

/-- Aborted commands are always replaced exactly if the FIFO is popped only while it holds an
entry. -/
theorem abortsReplaced_iff_popped (queued : run.AnswersQueued) :
    run.AbortsReplaced ↔ ∀ cycle, (run.state cycle).cmdFifoPop (run.inputs cycle) = true →
      (run.state cycle).cmdFifo.rdDataValid = true := by
  constructor
  · intro replaced cycle pop
    have commanded := commanded queued replaced cycle
    have nonempty := commanded.queue.nonempty_of_cmdFifoPop (commanded.expected queued) pop
    rw [commanded.queue.holds.rdDataValid]
    cases isQueue : run.commands cycle with
    | nil => exact absurd isQueue nonempty
    | cons command rest => rfl
  · intro popped cycle
    induction cycle using Nat.strongRecOn with
    | ind cycle induction =>
        intro head
        have commanded := commanded_of_earlier queued cycle induction
        cases push : (run.state cycle).cmdFifoPush run.pmpEnable (run.inputs cycle) with
        | true => rfl
        | false =>
            obtain ⟨pops, empty⟩ := commanded.pops_empty queued head push
            rw [popped _ pops] at empty
            cases empty

variable (run) in
/-- The stored and the dropped command of each cycle. -/
def commandTrace (cycle : Nat) : InOrderHistory.Cycle (BitVec 3) Unit where
  entering := if (run.state cycle).cmdFifoPush run.pmpEnable (run.inputs cycle) then
      some ((run.state cycle).cmdFifoWdata run.pmpEnable (run.inputs cycle))
    else none
  leaving := if (run.state cycle).cmdFifoPop (run.inputs cycle) then
      some ((run.state cycle).cmdFifo.rdData, ())
    else none

/-- The FIFO is an in-order pipeline of the commands. -/
theorem flow_commandTrace (queued : run.AnswersQueued) (replaced : run.AbortsReplaced) :
    InOrderHistory.Flow run.commandTrace
      fun cycle => (run.commands cycle).map fun command => ⟨command, none⟩ where
  start := rfl
  step := by
    intro cycle
    have commanded := commanded queued replaced cycle
    refine ⟨((run.state cycle).remaining (run.inputs cycle) (run.commands cycle)).map
      fun command => ⟨command, none⟩, ?_, ?_⟩
    · rw [InOrderHistory.Cycle.left, commandTrace, IfStage.remaining]
      cases pop : (run.state cycle).cmdFifoPop (run.inputs cycle) with
      | false => exact InOrderHistory.forall₂_rfl _
      | true =>
          have nonempty := commanded.queue.nonempty_of_cmdFifoPop
            (commanded.expected queued) pop
          have head := commanded.queue.holds.rdData nonempty
          cases isQueue : run.commands cycle with
          | nil => exact absurd isQueue nonempty
          | cons command rest =>
              simp only [isQueue, List.head_cons] at head
              rw [head]
              exact List.Forall₂.cons ⟨rfl, fun value known => by cases known⟩
                (InOrderHistory.forall₂_rfl _)
    · rw [InOrderHistory.Cycle.entered, commandTrace, commands, IfStage.nextCommands,
        List.map_append]
      cases (run.state cycle).cmdFifoPush run.pmpEnable (run.inputs cycle) <;>
        exact InOrderHistory.forall₂_rfl _

variable (run) in
/-- The word written to the prefetch FIFO is marked erroneous. -/
def writesError (cycle : Nat) : Bool :=
  (run.state cycle).fifoWvalid (run.inputs cycle) &&
    ((run.state cycle).fifoWdata (run.inputs cycle)).getLsbD 32

variable (run) in
/-- The request of the first cycle was denied, and its command is dropped in the second one. -/
structure DeniedOrigin (request written : Nat) : Prop where
  denied : (run.state request).pmpErr run.pmpEnable (run.inputs request) = true
  before : request < written
  passes : InOrderHistory.Passes run.commandTrace request written

theorem getLsbD_fifoWdata (st : IfStage) (port : IfStage.Input) :
    (st.fifoWdata port).getLsbD 32 = (port.instrErr || st.cmdPmpErr port) := by
  rw [IfStage.fifoWdata, BitVec.getLsbD_append]
  simp

/-- A word without an answer is that of a denied command. -/
theorem exists_deniedOrigin (queued : run.AnswersQueued) (replaced : run.AbortsReplaced)
    {cycle : Nat} (isDenied : (run.state cycle).cmdPmpErr (run.inputs cycle) = true) :
    ∃ request, run.DeniedOrigin request cycle ∧
      ∀ other, run.DeniedOrigin other cycle → other = request := by
  rw [IfStage.cmdPmpErr, Bool.and_eq_true] at isDenied
  obtain ⟨pop, isDenied⟩ := isDenied
  have flow := flow_commandTrace queued replaced
  have leaving : (run.commandTrace cycle).leaving =
      some ((run.state cycle).cmdFifo.rdData, ()) := by
    rw [commandTrace, pop]
    rfl
  have leaves : InOrderHistory.leaves run.commandTrace cycle = true := by
    rw [InOrderHistory.leaves, leaving]
    rfl
  obtain ⟨request, passes⟩ := flow.exists_enter leaves
  have push : (run.state request).cmdFifoPush run.pmpEnable (run.inputs request) = true := by
    have enters := passes.enters
    rw [InOrderHistory.enters, commandTrace] at enters
    cases push : (run.state request).cmdFifoPush run.pmpEnable (run.inputs request) with
    | true => rfl
    | false =>
        rw [push] at enters
        cases enters
  have entering : (run.commandTrace request).entering =
      some ((run.state request).cmdFifoWdata run.pmpEnable (run.inputs request)) := by
    rw [commandTrace, push]
    rfl
  have same := flow.passes_key passes entering leaving
  refine ⟨request, ⟨?_, flow.enter_lt_leave passes, passes⟩, fun other origin =>
    origin.passes.enter_unique passes⟩
  rw [← Command.denied_cmdFifoWdata, ← same]
  exact isDenied

variable (run) in
/-- The bus grants only requests, answers only what it has granted, and answers without an error
with the word at the address. -/
structure Responds (memory : Word → Word) : Prop where
  inOrder : InOrder (fun _ _ => True) run.bus
  correct : ∀ cycle addr, (run.inputs cycle).instrValid = true →
    (run.inputs cycle).instrErr = false →
    (BusProtocol.pending run.bus cycle).head? = some addr →
    (run.inputs cycle).instrRdata = memory addr

theorem Responds.queued {memory : Word → Word} (responds : run.Responds memory) :
    run.AnswersQueued := by
  intro cycle valid empty
  obtain ⟨addr, rest, pending, -⟩ := responds.inOrder.answered cycle valid
  rw [empty] at pending
  cases pending

variable (run) in
/-- No request made from the redirect on is denied, and none is answered with an error. -/
structure Permitted (redirect cycle : Nat) : Prop where
  allowed : ∀ between, redirect ≤ between → between ≤ cycle →
    (run.state between).pmpErr run.pmpEnable (run.inputs between) = false
  noError : ∀ between, redirect ≤ between → between ≤ cycle →
    (run.inputs between).instrValid = true →
    BusProtocol.grantsBefore run.bus redirect ≤ BusProtocol.answersBefore run.bus between →
    (run.inputs between).instrErr = false

variable (run) in
/-- At every redirect the stage has left reset, and no command that stays in the FIFO carries the
mark of an earlier redirect. -/
def MarksDropped : Prop :=
  ∀ cycle, run.redirects cycle = true → (run.state cycle).isBoot = true ∧
    ∀ slot, (run.state cycle).cmdFifo.validAt slot = true →
      (slot = 0 ∧ (run.state cycle).cmdFifoPop (run.inputs cycle) = true) ∨
        Command.marked ((run.state cycle).cmdFifo.dataAt slot) = false

/-- The stage follows the redirect, and the commands younger than it are not denied. -/
structure Recovering (run : FetchRun) (redirect cycle stale live : Nat) : Prop where
  clean : ∀ command ∈ run.commands cycle, Command.aborted command = false
  follows : Follows (run.state cycle).tracker (BusProtocol.pending run.bus cycle)
    ((run.commands cycle).map Command.marked) (run.base redirect)
    (occurrences run.accepts (redirect + 1) cycle) stale live
  counted : BusProtocol.grantsBefore run.bus redirect ≤
    BusProtocol.answersBefore run.bus cycle + stale
  permitted : ∀ command ∈ (run.commands cycle).drop stale, Command.denied command = false

/-- The redirect waits behind an aborted command. -/
structure Blocked (run : FetchRun) (cycle : Nat) : Prop where
  aborted : ∃ command ∈ run.commands cycle, Command.aborted command = true
  unmarked : ∀ command ∈ run.commands cycle, Command.marked command = false
  discarding : (run.state cycle).fifoFlush = true

def Recovered (run : FetchRun) (redirect cycle : Nat) : Prop :=
  (∃ stale live, run.Recovering redirect cycle stale live) ∨ run.Blocked cycle

theorem commands_succ (run : FetchRun) (cycle : Nat) :
    run.commands (cycle + 1) =
      (run.state cycle).nextCommands run.pmpEnable (run.inputs cycle) (run.commands cycle) := rfl

/-- Without a denial the granted request is stored, with the mark of a redirect. -/
theorem nextCommands_of_allowed {st : IfStage} {port : IfStage.Input} {pmpEnable : Bool}
    (allowed : st.pmpErr pmpEnable port = false) (commands : List (BitVec 3)) :
    st.nextCommands pmpEnable port commands = st.remaining port commands ++
      (if st.granted port then [IfStage.command (st.updiscon port)] else []) := by
  rw [IfStage.nextCommands, IfStage.cmdFifoPush_eq allowed, IfStage.cmdFifoWdata_eq allowed]

theorem noneAborted_command (mark : Bool) : Command.aborted (IfStage.command mark) = false := by
  cases mark <;> decide

theorem notDenied_command (mark : Bool) : Command.denied (IfStage.command mark) = false :=
  IfStage.getLsbD_one_command mark

theorem marked_command (mark : Bool) : Command.marked (IfStage.command mark) = mark :=
  IfStage.getLsbD_zero_command mark

variable {memory : Word → Word} {redirect : Nat}

theorem pending_succ_of_redirect (redirects : run.redirects cycle = true) :
    BusProtocol.pending run.bus (cycle + 1) =
      (if (run.inputs cycle).instrValid then (BusProtocol.pending run.bus cycle).tail
        else BusProtocol.pending run.bus cycle) ++
        (if (run.state cycle).granted (run.inputs cycle) then [run.base cycle] else []) := by
  rw [← instrAddr_redirect redirects]
  rfl

theorem pending_succ_of_noRedirect (noRedirect : run.redirects cycle = false) :
    BusProtocol.pending run.bus (cycle + 1) =
      (if (run.inputs cycle).instrValid then (BusProtocol.pending run.bus cycle).tail
        else BusProtocol.pending run.bus cycle) ++
        (if (run.state cycle).granted (run.inputs cycle) then
          [(run.state cycle).tracker.nextAddr] else []) := by
  rw [← instrAddr_noRedirect noRedirect]
  rfl

/-- A redirect behind an aborted command that stays waits. -/
theorem blocked_of_redirect (commanded : run.Commanded cycle)
    (redirects : run.redirects cycle = true)
    (unmarked : ∀ command ∈ (run.state cycle).remaining (run.inputs cycle) (run.commands cycle),
      Command.marked command = false)
    {command : BitVec 3}
    (stays : command ∈ (run.state cycle).remaining (run.inputs cycle) (run.commands cycle))
    (isAborted : Command.aborted command = true) : run.Blocked (cycle + 1) := by
  have noRequest : (run.state cycle).instrReq (run.inputs cycle) = false := by
    refine Bool.eq_false_iff.mpr fun request => ?_
    have queue := commanded.queue
    have alone := queue.alone request (IfStage.mem_of_mem_remaining stays)
    rw [alone] at queue stays
    rw [queue.remaining_of_aborted isAborted] at stays
    cases stays
  have next : run.commands (cycle + 1) =
      (run.state cycle).remaining (run.inputs cycle) (run.commands cycle) := by
    rw [commands_succ, IfStage.nextCommands, IfStage.noPush_of_noRequest noRequest]
    exact List.append_nil _
  have isRedirect : (run.inputs cycle).setPcValid = true := redirects
  refine ⟨⟨command, ?_, isAborted⟩, ?_, ?_⟩
  · rw [next]
    exact stays
  · rw [next]
    exact unmarked
  · change (run.state cycle).nextFifoFlush (run.inputs cycle) = true
    simp [IfStage.nextFifoFlush, IfStage.updiscon, IfStage.updisconNew, isRedirect]

/-- A permitted redirect that finds no mark but one that leaves in the same cycle is followed
from the next cycle on, or waits. -/
theorem recovered_redirect (responds : run.Responds memory) (replaced : run.AbortsReplaced)
    (dropped : run.MarksDropped) (redirects : run.redirects redirect = true)
    (allowed : (run.state redirect).pmpErr run.pmpEnable (run.inputs redirect) = false) :
    run.Recovered redirect (redirect + 1) := by
  have commanded := commanded responds.queued replaced redirect
  obtain ⟨booted, shown⟩ := dropped redirect redirects
  have unmarked := commanded.queue.holds.forall_remaining
    (fun command => Command.marked command = false) shown
  change ∀ command ∈
    (run.state redirect).remaining (run.inputs redirect) (run.commands redirect),
    Command.marked command = false at unmarked
  by_cases waits : ∃ command ∈
      (run.state redirect).remaining (run.inputs redirect) (run.commands redirect),
      Command.aborted command = true
  · obtain ⟨command, stays, isAborted⟩ := waits
    exact Or.inr (blocked_of_redirect commanded redirects unmarked stays isAborted)
  · have clean : ∀ command ∈
        (run.state redirect).remaining (run.inputs redirect) (run.commands redirect),
        Command.aborted command = false := fun command stays =>
      Bool.eq_false_iff.mpr fun isAborted => waits ⟨command, stays, isAborted⟩
    generalize isStale :
      (run.state redirect).remaining (run.inputs redirect) (run.commands redirect) = stale
      at unmarked clean
    let pending := if (run.inputs redirect).instrValid then
      (BusProtocol.pending run.bus redirect).tail else BusProtocol.pending run.bus redirect
    have pendingLength : pending.length + (run.inputs redirect).instrValid.toNat =
        (BusProtocol.pending run.bus redirect).length := by
      have nonempty := responds.queued redirect
      change (if (run.inputs redirect).instrValid then _ else _ : List Word).length + _ = _
      cases valid : (run.inputs redirect).instrValid with
      | false => rfl
      | true =>
          have positive := List.length_pos_iff.mpr (nonempty valid)
          rw [if_pos rfl, List.length_tail, Bool.toNat_true]
          omega
    have staleLength : stale.length = pending.length := by
      have answered := commanded.queue.length_answered_remaining
        (commanded.expected responds.queued)
      have allAnswered : Command.answered stale = stale :=
        List.filter_eq_self.mpr fun command stays => by rw [clean command stays]; rfl
      rw [isStale, allAnswered, commanded.length] at answered
      omega
    have unmarkedMarks : ∀ mark ∈ stale.map Command.marked, mark = false := by
      intro mark inside
      obtain ⟨command, stays, rfl⟩ := List.mem_map.mp inside
      exact unmarked command stays
    have fresh := RedirectQueue.follows_redirect unmarkedMarks
      (by rw [List.length_map]; exact staleLength) (run.base redirect)
    obtain ⟨live, follows⟩ := fresh.grantIf ((run.state redirect).granted (run.inputs redirect))
    have isRedirect : (run.inputs redirect).setPcValid = true := redirects
    have tracker := run.state_succ redirect ▸ IfStage.tracker_next_redirect booted isRedirect
      (responds.inOrder.requested redirect)
    have next := nextCommands_of_allowed allowed (run.commands redirect)
    have marks : (run.state redirect).updiscon (run.inputs redirect) = true := by
      rw [IfStage.updiscon, IfStage.updisconNew, isRedirect]
      rfl
    rw [isStale, marks, ← commands_succ] at next
    refine Or.inl ⟨pending.length, live, ?_, ?_, ?_, ?_⟩
    · intro command inside
      rw [next] at inside
      rcases List.mem_append.mp inside with stays | stored
      · exact clean command stays
      · split at stored
        · rw [List.mem_singleton.mp stored]
          exact noneAborted_command true
        · cases stored
    · have marksNext : (run.commands (redirect + 1)).map Command.marked =
          stale.map Command.marked ++
            (if (run.state redirect).granted (run.inputs redirect) then [true] else []) := by
        rw [next, List.map_append]
        cases (run.state redirect).granted (run.inputs redirect) <;> rfl
      rw [SynchronousRun.occurrences_self, tracker, instrAddr_redirect redirects,
        pending_succ_of_redirect redirects, marksNext]
      exact follows
    · have counted := responds.inOrder.length_pending redirect
      have sameValid : (run.bus redirect).valid = (run.inputs redirect).instrValid := rfl
      rw [BusProtocol.answersBefore_succ, ← counted, sameValid]
      omega
    · intro command inside
      rw [next, ← staleLength, List.drop_left] at inside
      split at inside
      · rw [List.mem_singleton.mp inside]
        exact notDenied_command true
      · cases inside

/-- A waiting redirect goes on waiting, and nothing is accepted. -/
theorem Blocked.step (blocked : run.Blocked cycle) (commanded : run.Commanded cycle)
    (replaced : run.AbortsReplaced) (noRedirect : run.redirects cycle = false) :
    run.accepts cycle = false ∧ run.Blocked (cycle + 1) := by
  obtain ⟨command, inside, isAborted⟩ := blocked.aborted
  have queue := commanded.queue
  have isNone : (run.inputs cycle).setPcValid = false := noRedirect
  have noPush : (run.state cycle).cmdFifoPush run.pmpEnable (run.inputs cycle) = false :=
    IfStage.noPush_of_noRequest (queue.noRequest_of_aborted inside isAborted isNone)
  have notDropped : (run.state cycle).cmdUpdiscon (run.inputs cycle) = false := by
    rw [queue.cmdUpdiscon (List.ne_nil_of_mem inside)]
    cases isQueue : run.commands cycle with
    | nil => exact Bool.and_false _
    | cons first rest =>
        have unmarked := blocked.unmarked first (by rw [isQueue]; exact List.mem_cons_self)
        rw [List.map_cons, List.headD_cons, unmarked, Bool.and_false]
  have next : run.commands (cycle + 1) =
      (run.state cycle).remaining (run.inputs cycle) (run.commands cycle) := by
    rw [commands_succ, IfStage.nextCommands, noPush]
    exact List.append_nil _
  refine ⟨?_, ⟨command, ?_, isAborted⟩, ?_, ?_⟩
  · rw [FetchRun.accepts, IfStage.accepts, IfStage.fifoWvalid, blocked.discarding, if_pos rfl,
      notDropped, Bool.and_false, Bool.false_and]
  · rw [next, IfStage.remaining]
    cases isQueue : run.commands cycle with
    | nil =>
        rw [isQueue] at inside
        cases inside
    | cons first rest =>
        rw [isQueue] at inside queue
        rcases List.mem_cons.mp inside with rfl | younger
        · have push := replaced cycle (queue.abortedHead_cons.trans isAborted)
          rw [noPush] at push
          cases push
        · split
          · exact younger
          · exact inside
  · intro other stays
    rw [next] at stays
    exact blocked.unmarked other (IfStage.mem_of_mem_remaining stays)
  · change (run.state cycle).nextFifoFlush (run.inputs cycle) = true
    rw [IfStage.nextFifoFlush, notDropped, Bool.and_false, if_neg Bool.false_ne_true,
      blocked.discarding, ite_self]

/-- A followed redirect goes on being followed, and what is accepted is its next word, without
an error. -/
theorem Recovering.step {stale live : Nat} (recovering : run.Recovering redirect cycle stale live)
    (commanded : run.Commanded cycle) (responds : run.Responds memory) (later : redirect < cycle)
    (noRedirect : run.redirects cycle = false) (permitted : run.Permitted redirect cycle) :
    (run.accepts cycle = true → (run.state cycle).fifoWdata (run.inputs cycle) =
      0#1 ++ memory
        (wordAddr (run.base redirect) (occurrences run.accepts (redirect + 1) cycle))) ∧
      ∃ staleNext liveNext, run.Recovering redirect (cycle + 1) staleNext liveNext := by
  have isNone : (run.inputs cycle).setPcValid = false := noRedirect
  have queue := commanded.queue
  have follows := recovering.follows
  have allowed := permitted.allowed cycle (Nat.le_of_lt later) (Nat.le_refl _)
  have answers := queue.answersMarks recovering.clean (commanded.expected responds.queued)
  have acceptsEq := answers.accepts isNone
  obtain ⟨accepted, staleNext, liveNext, keeps, followsNext⟩ :=
    follows.cycle (run.inputs cycle).instrValid ((run.state cycle).granted (run.inputs cycle))
      (responds.queued cycle)
  rw [← acceptsEq] at accepted followsNext
  have pops : (run.state cycle).cmdFifoPop (run.inputs cycle) = (run.inputs cycle).instrValid :=
    queue.cmdFifoPop_of_clean recovering.clean
  have next := nextCommands_of_allowed allowed (run.commands cycle)
  rw [← commands_succ, IfStage.remaining, pops, updiscon_noRedirect noRedirect] at next
  constructor
  · intro accepts
    obtain ⟨noStale, head⟩ := accepted accepts
    have valid : (run.inputs cycle).instrValid = true := by
      rw [FetchRun.accepts, acceptsEq, Bool.and_eq_true] at accepts
      exact accepts.1
    have counted := recovering.counted
    rw [noStale] at counted
    have noError := permitted.noError cycle (Nat.le_of_lt later) (Nat.le_refl _) valid counted
    have notDenied : (run.state cycle).cmdPmpErr (run.inputs cycle) = false := by
      cases isQueue : run.commands cycle with
      | nil =>
          have expected := commanded.expected responds.queued valid
          rw [isQueue] at expected
          exact absurd rfl expected
      | cons first rest =>
          have isPermitted := recovering.permitted first (by
            rw [noStale, isQueue]
            exact List.mem_cons_self)
          rw [isQueue] at queue
          rw [IfStage.cmdPmpErr, queue.cmdPmpErrQ, isPermitted, Bool.and_false]
    rw [IfStage.fifoWdata, noError, notDenied, responds.correct cycle _ valid noError head]
    rfl
  · have markingDiscards : (run.state cycle).updisconQ = true →
        (run.state cycle).fifoFlush = true := follows.marking_discarding
    have tracker := run.state_succ cycle ▸ answers.tracker_next (isBoot_of_later run later)
      (responds.inOrder.requested cycle) isNone markingDiscards
    have acceptedCount : BusProtocol.answersBefore run.bus (cycle + 1) =
        BusProtocol.answersBefore run.bus cycle + (run.inputs cycle).instrValid.toNat :=
      BusProtocol.answersBefore_succ run.bus cycle
    have counted := recovering.counted
    refine ⟨staleNext, liveNext, ?_, ?_, by omega, ?_⟩
    · intro command inside
      rw [next] at inside
      rcases List.mem_append.mp inside with stays | stored
      · refine recovering.clean command ?_
        split at stays
        · exact List.mem_of_mem_tail stays
        · exact stays
      · split at stored
        · rw [List.mem_singleton.mp stored]
          exact noneAborted_command _
        · cases stored
    · have marksNext : (run.commands (cycle + 1)).map Command.marked =
          (if (run.inputs cycle).instrValid then ((run.commands cycle).map Command.marked).tail
            else (run.commands cycle).map Command.marked) ++
            (if (run.state cycle).granted (run.inputs cycle) then
              [(run.state cycle).tracker.marking] else []) := by
        rw [next, List.map_append, ← List.map_tail]
        cases (run.inputs cycle).instrValid <;>
          cases (run.state cycle).granted (run.inputs cycle) <;>
          simp [marked_command]
      rw [SynchronousRun.occurrences_succ _ later, tracker,
        pending_succ_of_noRedirect noRedirect, marksNext]
      exact followsNext
    · intro command inside
      rw [next] at inside
      rcases List.mem_append.mp (List.drop_append ▸ inside) with stays | stored
      · refine recovering.permitted command ?_
        cases valid : (run.inputs cycle).instrValid with
        | false =>
            rw [valid, Bool.toNat_false, Nat.add_zero] at keeps
            rw [valid, if_neg Bool.false_ne_true] at stays
            exact (List.drop_subset_drop_left _ keeps) stays
        | true =>
            rw [valid, Bool.toNat_true] at keeps
            rw [valid, if_pos rfl, List.drop_tail] at stays
            exact (List.drop_subset_drop_left _ keeps) stays
      · have isStored := List.mem_of_mem_drop stored
        split at isStored
        · rw [List.mem_singleton.mp isStored]
          exact notDenied_command _
        · cases isStored

theorem Recovered.step (recovered : run.Recovered redirect cycle)
    (responds : run.Responds memory) (replaced : run.AbortsReplaced) (later : redirect < cycle)
    (noRedirect : run.redirects cycle = false) (permitted : run.Permitted redirect cycle) :
    (run.accepts cycle = true → (run.state cycle).fifoWdata (run.inputs cycle) =
      0#1 ++ memory
        (wordAddr (run.base redirect) (occurrences run.accepts (redirect + 1) cycle))) ∧
      run.Recovered redirect (cycle + 1) := by
  have commanded := commanded responds.queued replaced cycle
  rcases recovered with ⟨stale, live, recovering⟩ | blocked
  · obtain ⟨accepted, next⟩ := recovering.step commanded responds later noRedirect permitted
    exact ⟨accepted, Or.inl next⟩
  · obtain ⟨nothing, next⟩ := blocked.step commanded replaced noRedirect
    refine ⟨fun accepts => ?_, Or.inr next⟩
    rw [nothing] at accepts
    cases accepts

theorem Permitted.mono {earlier : Nat} (permitted : run.Permitted redirect cycle)
    (isEarlier : earlier ≤ cycle) : run.Permitted redirect earlier where
  allowed := fun between lower upper => permitted.allowed between lower (by omega)
  noError := fun between lower upper => permitted.noError between lower (by omega)

theorem recovered_of_since (responds : run.Responds memory) (replaced : run.AbortsReplaced)
    (dropped : run.MarksDropped) (since : run.Since redirect cycle)
    (permitted : run.Permitted redirect cycle) : run.Recovered redirect cycle := by
  obtain ⟨redirects, later, latest⟩ := since
  induction cycle with
  | zero => omega
  | succ cycle induction =>
      have allowed := permitted.mono (Nat.le_succ cycle)
      rcases Nat.eq_or_lt_of_le (Nat.le_of_lt_succ later) with rfl | above
      · exact recovered_redirect responds replaced dropped redirects
          (allowed.allowed redirect (Nat.le_refl _) (Nat.le_refl _))
      · have recovered := induction allowed above fun between lower upper =>
          latest between lower (by omega)
        exact (recovered.step responds replaced above (latest cycle above (by omega)) allowed).2

/-! ## The words delivered -/

/-- The prefetch FIFO with the unread words and the places they and the commands take. -/
structure Stored (run : FetchRun) (cycle : Nat) : Prop where
  stored : (run.state cycle).prefetchFifo.Holds (run.unread cycle)
  credits : (run.state cycle).Credits ((run.commands cycle).map Command.marked) (run.unread cycle)

theorem cmdFifoPop_of_fifoWvalid {st : IfStage} {port : IfStage.Input}
    (written : st.fifoWvalid port = true) : st.cmdFifoPop port = true := by
  have source : (port.instrValid || st.cmdPmpErr port) = true := by
    rw [IfStage.fifoWvalid] at written
    split at written
    · exact (Bool.and_eq_true_iff.mp written).1
    · exact written
  rcases Bool.or_eq_true_iff.mp source with valid | isDenied
  · rw [IfStage.cmdFifoPop, valid, Bool.true_or]
  · exact (Bool.and_eq_true_iff.mp isDenied).1

/-- A request is stored or retried. -/
theorem push_or_nextReqFail (pmpEnable : Bool) (st : IfStage) (port : IfStage.Input) :
    (st.cmdFifoPush pmpEnable port).toNat + (st.nextReqFail pmpEnable port).toNat =
      (st.instrReq port).toNat := by
  cases denial : st.pmpErr pmpEnable port with
  | false =>
      rw [IfStage.cmdFifoPush_eq denial]
      exact IfStage.granted_or_nextReqFail denial
  | true =>
      rw [IfStage.cmdFifoPush, IfStage.nextReqFail, denial, IfStage.instrReq_of_pmpErr denial,
        Bool.or_true, Bool.not_true, Bool.and_false]
      rfl

theorem Stored.succ (stored : run.Stored cycle) (queued : run.AnswersQueued)
    (replaced : run.AbortsReplaced) : run.Stored (cycle + 1) := by
  have commanded := commanded queued replaced cycle
  have nonempty := commanded.queue.nonempty_of_cmdFifoPop (commanded.expected queued)
  have stores := unread_succ stored.stored
  refine ⟨?_, ?_⟩
  · rw [stores, run.state_succ, IfStage.prefetchFifo_next]
    refine PrefetchFifo.holds_next stored.stored fun written => ?_
    have positive := List.length_pos_iff.mpr (nonempty (cmdFifoPop_of_fifoWvalid written))
    have total := stored.credits.total
    rw [List.length_map] at total
    omega
  · rw [stores, run.state_succ]
    refine stored.credits.next stored.stored ?_ ?_ cmdFifoPop_of_fifoWvalid
      (push_or_nextReqFail run.pmpEnable (run.state cycle) (run.inputs cycle))
    · intro request
      rw [List.length_map]
      exact commanded.queue.room request
    · rw [List.length_map, List.length_map, commands_succ, IfStage.nextCommands,
        List.length_append, IfStage.remaining]
      cases pop : (run.state cycle).cmdFifoPop (run.inputs cycle) with
      | false =>
          cases (run.state cycle).cmdFifoPush run.pmpEnable (run.inputs cycle) <;> simp
      | true =>
          have positive := List.length_pos_iff.mpr (nonempty pop)
          cases (run.state cycle).cmdFifoPush run.pmpEnable (run.inputs cycle) <;>
            simp <;> omega

theorem stored (queued : run.AnswersQueued) (replaced : run.AbortsReplaced) (cycle : Nat) :
    run.Stored cycle := by
  induction cycle with
  | zero => exact ⟨SyncFifo.holds_reset, Nat.zero_le 4, Nat.zero_le 2⟩
  | succ cycle induction => exact induction.succ queued replaced

variable (run) in
/-- The fetch stage reads a word. -/
def reads (cycle : Nat) : Bool := (run.state cycle).readsWord (run.inputs cycle)

variable (run) in
/-- The unread words are the memory words from the first unread address of the redirect on,
without errors. -/
def UnreadWords (memory : Word → Word) (redirect cycle : Nat) : Prop :=
  ∃ count, occurrences run.reads (redirect + 1) cycle + count =
      occurrences run.accepts (redirect + 1) cycle ∧
    run.unread cycle =
      (RedirectQueue.liveAddrs (run.base redirect)
        (occurrences run.reads (redirect + 1) cycle) count).map fun addr => 0#1 ++ memory addr

theorem unreadWords_redirect (redirects : run.redirects redirect = true) :
    run.UnreadWords memory redirect (redirect + 1) := by
  refine ⟨0, ?_, ?_⟩
  · rw [SynchronousRun.occurrences_self, SynchronousRun.occurrences_self]
  · rw [unread, redirects]
    rfl

/-- Unread and written words together are the next words of the redirect. -/
theorem UnreadWords.written (words : run.UnreadWords memory redirect cycle)
    (later : redirect < cycle) (noRedirect : run.redirects cycle = false)
    (accepted : run.accepts cycle = true → (run.state cycle).fifoWdata (run.inputs cycle) =
      0#1 ++ memory
        (wordAddr (run.base redirect) (occurrences run.accepts (redirect + 1) cycle))) :
    ∃ count, occurrences run.reads (redirect + 1) cycle + count =
        occurrences run.accepts (redirect + 1) (cycle + 1) ∧
      run.unread cycle ++ (if (run.state cycle).fifoWvalid (run.inputs cycle) then
          [(run.state cycle).fifoWdata (run.inputs cycle)] else []) =
        (RedirectQueue.liveAddrs (run.base redirect)
          (occurrences run.reads (redirect + 1) cycle) count).map fun addr =>
            0#1 ++ memory addr := by
  obtain ⟨count, counted, isUnread⟩ := words
  have isNone : (run.inputs cycle).setPcValid = false := noRedirect
  have acceptsEq : run.accepts cycle = (run.state cycle).fifoWvalid (run.inputs cycle) := by
    rw [FetchRun.accepts, IfStage.accepts, IfStage.fifoClear_eq, isNone, Bool.not_false,
      Bool.and_true]
  have ordered : redirect + 1 ≤ cycle := later
  rw [SynchronousRun.occurrences_succ _ ordered, ← acceptsEq]
  cases accepts : run.accepts cycle with
  | false => exact ⟨count, by simpa using counted, by simpa using isUnread⟩
  | true =>
      refine ⟨count + 1, by rw [Bool.toNat_true]; omega, ?_⟩
      rw [if_pos rfl, accepted accepts, isUnread, ← counted, ← RedirectQueue.liveAddrs_append,
        List.map_append]
      rfl

theorem UnreadWords.step (words : run.UnreadWords memory redirect cycle)
    (later : redirect < cycle) (noRedirect : run.redirects cycle = false)
    (stored : run.Stored cycle)
    (accepted : run.accepts cycle = true → (run.state cycle).fifoWdata (run.inputs cycle) =
      0#1 ++ memory
        (wordAddr (run.base redirect) (occurrences run.accepts (redirect + 1) cycle))) :
    (run.reads cycle = true → (run.state cycle).fifoRdata (run.inputs cycle) =
      0#1 ++ memory
        (wordAddr (run.base redirect) (occurrences run.reads (redirect + 1) cycle))) ∧
      run.UnreadWords memory redirect (cycle + 1) := by
  obtain ⟨count, counted, available⟩ := words.written later noRedirect accepted
  have nextUnread : run.unread (cycle + 1) =
      if run.reads cycle then (run.unread cycle ++
        (if (run.state cycle).fifoWvalid (run.inputs cycle) then
          [(run.state cycle).fifoWdata (run.inputs cycle)] else [])).tail
      else run.unread cycle ++
        (if (run.state cycle).fifoWvalid (run.inputs cycle) then
          [(run.state cycle).fifoWdata (run.inputs cycle)] else []) := by
    rw [unread, noRedirect]
    rfl
  have ordered : redirect + 1 ≤ cycle := later
  rw [UnreadWords, nextUnread, available, SynchronousRun.occurrences_succ run.reads ordered]
  cases isRead : run.reads cycle with
  | false =>
      refine ⟨fun impossible => (by cases impossible), count, ?_, rfl⟩
      rw [Bool.toNat_false]
      exact counted
  | true =>
      have head := fifoRdata_of_reads stored.stored isRead
      rw [available] at head
      cases count with
      | zero => cases head
      | succ count =>
          refine ⟨fun _ => ?_, count, ?_, rfl⟩
          · exact Option.some.inj head
          · rw [Bool.toNat_true]
            omega

/-! ## Denied fetches -/

variable (run) in
/-- Denied fetches are recoverable: the command FIFO is popped only while it holds an entry, and
holds what has been stored and not dropped; each error word is an error answer or has one denied
request as its origin; and from a permitted redirect on the words accepted, and those delivered,
are the right ones without errors. -/
structure DeniedRecoverable (memory : Word → Word) : Prop where
  popped : ∀ cycle, (run.state cycle).cmdFifoPop (run.inputs cycle) = true →
    (run.state cycle).cmdFifo.rdDataValid = true
  kept : ∀ cycle, (run.state cycle).cmdFifo.Holds (run.commands cycle)
  errorOrigin : ∀ cycle, run.writesError cycle = true →
    ((run.inputs cycle).instrValid = true ∧ (run.inputs cycle).instrErr = true) ∨
      ∃ request, run.DeniedOrigin request cycle ∧
        ∀ other, run.DeniedOrigin other cycle → other = request
  accepted : ∀ redirect cycle, run.Since redirect cycle → run.Permitted redirect cycle →
    run.accepts cycle = true → (run.state cycle).fifoWdata (run.inputs cycle) =
      0#1 ++ memory
        (wordAddr (run.base redirect) (occurrences run.accepts (redirect + 1) cycle))
  delivered : ∀ redirect cycle, run.Since redirect cycle → run.Permitted redirect cycle →
    run.reads cycle = true → (run.state cycle).fifoRdata (run.inputs cycle) =
      0#1 ++ memory
        (wordAddr (run.base redirect) (occurrences run.reads (redirect + 1) cycle))

theorem unreadWords_of_since (responds : run.Responds memory) (replaced : run.AbortsReplaced)
    (dropped : run.MarksDropped) (since : run.Since redirect cycle)
    (permitted : run.Permitted redirect cycle) : run.UnreadWords memory redirect cycle := by
  obtain ⟨redirects, later, latest⟩ := since
  induction cycle with
  | zero => omega
  | succ cycle induction =>
      have allowed := permitted.mono (Nat.le_succ cycle)
      rcases Nat.eq_or_lt_of_le (Nat.le_of_lt_succ later) with rfl | above
      · exact unreadWords_redirect redirects
      · have before : ∀ between, redirect < between → between ≤ cycle →
            run.redirects between = false := fun between lower upper =>
          latest between lower (by omega)
        have recovered := recovered_of_since responds replaced dropped
          ⟨redirects, above, before⟩ allowed
        have noRedirect := latest cycle above (by omega)
        exact ((induction allowed above before).step above noRedirect
          (stored responds.queued replaced cycle)
          (recovered.step responds replaced above noRedirect allowed).1).2

/-- In every run in which each aborted command is replaced and each redirect finds the marks of
the earlier ones dropped. -/
theorem deniedRecoverable_of_abortsReplaced (run : FetchRun) (memory : Word → Word)
    (responds : run.Responds memory) (replaced : run.AbortsReplaced)
    (dropped : run.MarksDropped) : run.DeniedRecoverable memory := by
  have commanded := commanded responds.queued replaced
  have accepted : ∀ redirect cycle, run.Since redirect cycle → run.Permitted redirect cycle →
      run.accepts cycle = true → (run.state cycle).fifoWdata (run.inputs cycle) =
        0#1 ++ memory
          (wordAddr (run.base redirect) (occurrences run.accepts (redirect + 1) cycle)) := by
    intro redirect cycle since permitted
    exact ((recovered_of_since responds replaced dropped since permitted).step responds replaced
      since.later (since.latest cycle since.later (Nat.le_refl _)) permitted).1
  constructor
  · exact (abortsReplaced_iff_popped responds.queued).mp replaced
  · exact fun cycle => (commanded cycle).queue.holds
  · intro cycle isError
    rw [writesError, Bool.and_eq_true, getLsbD_fifoWdata, Bool.or_eq_true] at isError
    obtain ⟨written, source⟩ := isError
    cases isDenied : (run.state cycle).cmdPmpErr (run.inputs cycle) with
    | true => exact Or.inr (exists_deniedOrigin responds.queued replaced isDenied)
    | false =>
        rw [isDenied] at source
        rw [IfStage.fifoWvalid, isDenied, Bool.or_false] at written
        refine Or.inl ⟨?_, by simpa using source⟩
        split at written
        · exact (Bool.and_eq_true_iff.mp written).1
        · exact written
  · exact accepted
  · intro redirect cycle since permitted
    exact ((unreadWords_of_since responds replaced dropped since permitted).step since.later
      (since.latest cycle since.later (Nat.le_refl _)) (stored responds.queued replaced cycle)
      (accepted redirect cycle since permitted)).1

/-- A scripted run that is in U mode in the given cycles, where every fetch is denied. -/
def scriptedUser (user : Nat → Bool) (redirect : Nat → Option Word) (grants : Nat → Bool)
    (answers : Nat → Option Word) : FetchRun :=
  { scripted redirect grants answers with
    inputs := fun cycle =>
      { (scripted redirect grants answers).inputs cycle with
        privilegeMode := if user cycle then privLvlU else privLvlM } }

variable {user : Nat → Bool} {script : Nat → Option Word} {grants : Nat → Bool}
  {answers : Nat → Option Word}

theorem noDenial_scriptedUser (isMachine : user cycle = false) :
    ((scriptedUser user script grants answers).state cycle).pmpErr true
      ((scriptedUser user script grants answers).inputs cycle) = false := by
  simp [IfStage.pmpErr, Pmp.wiredPmpErr, Pmp.pmpErr, Pmp.Entries.pmpErrO,
    Pmp.Entries.mModeFail, Pmp.Entries.chainFail, Pmp.Entries.mModeEntryFail, Pmp.entriesOf,
    Pmp.pmpLock, scripted, scriptedUser, isMachine]

/-- A script that is quiet after some cycle obeys the bus protocol if it does so up to there. -/
theorem responds_scriptedUser (bound : Nat)
    (quiet : ∀ cycle, bound ≤ cycle → grants cycle = false ∧ answers cycle = none)
    (requested : ∀ cycle < bound, grants cycle = true →
      ((scriptedUser user script grants answers).bus cycle).req = true)
    (answered : ∀ cycle < bound, (answers cycle).isSome = true →
      (BusProtocol.pending (scriptedUser user script grants answers).bus cycle).head? =
        some ((answers cycle).getD 0#32)) :
    (scriptedUser user script grants answers).Responds id where
  inOrder := by
    refine BusProtocol.inOrder_of_silent bound (fun cycle late => ?_) requested ?_
    · obtain ⟨noGrant, noAnswer⟩ := quiet cycle late
      exact ⟨noGrant, congrArg Option.isSome noAnswer⟩
    · intro cycle early valid
      obtain ⟨rest, queue⟩ := List.head?_eq_some_iff.mp (answered cycle early valid)
      rw [queue]
      rfl
  correct := by
    intro cycle addr valid _ head
    rcases Nat.lt_or_ge cycle bound with early | late
    · rw [answered cycle early valid] at head
      exact Option.some.inj head
    · have isAnswered : (answers cycle).isSome = true := valid
      rw [(quiet cycle late).2] at isAnswered
      cases isAnswered

/-- A denied redirect whose request is not granted, and in the next cycle a permitted one. -/
def replacedDenial : FetchRun :=
  scriptedUser (fun cycle => decide (cycle = 1))
    (fun cycle => if cycle = 1 then some 0x100#32 else if cycle = 2 then some 0x202#32 else none)
    (fun cycle => decide (cycle = 2))
    (fun cycle => if cycle = 3 then some 0x200#32 else none)

theorem responds_replacedDenial : replacedDenial.Responds id :=
  responds_scriptedUser 4
    (fun cycle late => ⟨by simp; omega, by rw [if_neg (by omega)]⟩)
    (by decide +kernel) (by decide +kernel)

/-- After the second redirect no slot shows a denial. -/
theorem clean_replacedDenial (cycle : Nat) (slot : Nat) :
    ((replacedDenial.state (cycle + 3)).cmdFifo.dataAt slot).getLsbD 1 = false := by
  induction cycle generalizing slot with
  | zero =>
      rcases slot with zero | zero | slot
      · decide +kernel
      · decide +kernel
      · rw [SyncFifo.dataAt, dif_neg (by omega)]
        rfl
  | succ cycle induction =>
      rw [show cycle + 1 + 3 = cycle + 3 + 1 by omega, state_succ, IfStage.cmdFifo_next]
      refine IfStage.dataAt_next_clean induction ?_ slot
      have noDenial : (replacedDenial.state (cycle + 3)).pmpErr true
          (replacedDenial.inputs (cycle + 3)) = false := noDenial_scriptedUser (by simp)
      exact (Command.denied_cmdFifoWdata true _ _).trans noDenial

theorem deniedRecoverable_replacedDenial : replacedDenial.DeniedRecoverable id :=
  deniedRecoverable_of_abortsReplaced replacedDenial id responds_replacedDenial
    (fun cycle head => by
      rcases cycle with zero | zero | zero | cycle
      · cases head
      · cases head
      · decide +kernel
      · rw [IfStage.abortedHead, IfStage.cmdPmpErrQ, SyncFifo.rdData, clean_replacedDenial cycle 0,
          Bool.and_false, Bool.false_and] at head
        cases head)
    (fun cycle redirects => by
      have early : cycle = 1 ∨ cycle = 2 := by
        change Option.isSome (if cycle = 1 then _ else if cycle = 2 then _ else none) = true
          at redirects
        split at redirects
        · exact Or.inl ‹_›
        · split at redirects
          · exact Or.inr ‹_›
          · cases redirects
      refine ⟨by rcases early with rfl | rfl <;> rfl, fun slot isValid => ?_⟩
      rcases slot with zero | zero | slot
      · rcases early with rfl | rfl
        · cases isValid
        · exact Or.inl ⟨rfl, by decide +kernel⟩
      · rcases early with rfl | rfl <;> cases isValid
      · rw [SyncFifo.validAt, dif_neg (by omega)] at isValid
        cases isValid)

/-- A denied redirect whose request is not granted, and two cycles later a permitted one. -/
def wedgedDenial : FetchRun :=
  scriptedUser (fun cycle => decide (cycle = 1))
    (fun cycle => if cycle = 1 then some 0x100#32 else if cycle = 3 then some 0x200#32 else none)
    (fun cycle => decide (cycle = 3))
    (fun cycle => if cycle = 5 then some 0x200#32 else none)

/-- An error word is accepted for the permitted redirect. -/
theorem deniedRecoverable_fails :
    ¬ ∀ (run : FetchRun) (memory : Word → Word), run.Responds memory →
      run.DeniedRecoverable memory := by
  intro recoverable
  have responds : wedgedDenial.Responds id :=
    responds_scriptedUser 6
      (fun cycle late => ⟨by simp; omega, by rw [if_neg (by omega)]⟩)
      (by decide +kernel) (by decide +kernel)
  have since : wedgedDenial.Since 3 4 :=
    { redirects := rfl
      later := by decide
      latest := fun between lower upper => by
        obtain rfl : between = 4 := by omega
        rfl }
  have permitted : wedgedDenial.Permitted 3 4 :=
    { allowed := fun between lower _ => noDenial_scriptedUser (by simp; omega)
      noError := fun _ _ _ _ _ => rfl }
  have accepts : wedgedDenial.accepts 4 = true := by decide +kernel
  have expected := (recoverable wedgedDenial id responds).accepted 3 4 since permitted accepts
  have isError : ((wedgedDenial.state 4).fifoWdata (wedgedDenial.inputs 4)).getLsbD 32 = true := by
    decide +kernel
  rw [expected, BitVec.getLsbD_append] at isError
  simp at isError

end FetchRun

end RiscvCore
