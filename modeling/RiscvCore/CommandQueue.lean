import RiscvCore.FifoQueue
import RiscvCore.IfStage
import RiscvCore.RedirectQueue

/-!
# The command FIFO of the fetch stage

One cycle of the fetch stage on its instruction bus.  The command FIFO holds one mark for each
request that is granted and not answered; the registers `fifo_flush`, `updiscon_q` and
`instr_prefetch_addr` are those of a marked request queue.
-/

namespace RiscvCore

open RedirectQueue (Tracker)

namespace IfStage

variable {pmpEnable : Bool} {st : IfStage} {port : Input}

/-- The command of a granted request without a denial. -/
def command (mark : Bool) : BitVec 3 :=
  BitVec.ofBool false ++ BitVec.ofBool false ++ BitVec.ofBool mark

theorem getLsbD_zero_command (mark : Bool) : (command mark).getLsbD 0 = mark := by
  cases mark <;> decide

theorem getLsbD_one_command (mark : Bool) : (command mark).getLsbD 1 = false := by
  cases mark <;> decide

/-- The command FIFO holds the given marks.  Its slots never hold a denial, not even those that
are not valid, and a request is retried only while there is room for it. -/
structure CommandQueue (st : IfStage) (marks : List Bool) : Prop where
  holds : st.cmdFifo.Holds (marks.map command)
  clean : ∀ slot, (st.cmdFifo.dataAt slot).getLsbD 1 = false
  retry : st.reqFail = true → marks.length ≤ 1

theorem commandQueue_reset (bootAddr : Word) : (reset bootAddr).CommandQueue [] where
  holds := SyncFifo.holds_reset
  clean := fun slot => by
    simp only [reset, SyncFifo.dataAt, SyncFifo.reset]
    split <;> rfl
  retry := fun _ => Nat.zero_le _

variable {marks : List Bool}

theorem CommandQueue.cmdPmpErrQ (queue : st.CommandQueue marks) : st.cmdPmpErrQ = false :=
  queue.clean 0

theorem CommandQueue.cmdFifoPop (queue : st.CommandQueue marks) :
    st.cmdFifoPop port = port.instrValid := by
  rw [IfStage.cmdFifoPop, queue.cmdPmpErrQ, Bool.false_and, Bool.or_false]

theorem CommandQueue.cmdUpdisconQ (queue : st.CommandQueue marks) (nonempty : marks ≠ []) :
    st.cmdUpdisconQ = marks.headD false := by
  cases marks with
  | nil => exact absurd rfl nonempty
  | cons mark rest =>
      rw [IfStage.cmdUpdisconQ, queue.holds.rdData (by simp)]
      exact getLsbD_zero_command mark

theorem CommandQueue.cmdUpdiscon (queue : st.CommandQueue marks)
    (nonempty : port.instrValid = true → marks ≠ []) :
    st.cmdUpdiscon port = (port.instrValid && marks.headD false) := by
  rw [IfStage.cmdUpdiscon, queue.cmdFifoPop]
  cases valid : port.instrValid
  · rfl
  · rw [queue.cmdUpdisconQ (nonempty valid)]

theorem CommandQueue.cmdPmpErr (queue : st.CommandQueue marks) : st.cmdPmpErr port = false := by
  rw [IfStage.cmdPmpErr, queue.cmdPmpErrQ, Bool.and_false]

/-- The registers that follow a redirect. -/
def tracker (st : IfStage) : Tracker where
  discarding := st.fifoFlush
  marking := st.updisconQ
  nextAddr := st.instrPrefetchAddr

/-- The prefetch FIFO takes the word of the cycle. -/
def accepts (st : IfStage) (port : Input) : Bool := st.fifoWvalid port && !fifoClear port

theorem fifoClear_eq (port : Input) : fifoClear port = port.setPcValid := rfl

/-- The answers of the cycle take the marks in order: the command that leaves is the answered
one, and no word is written without an answer. -/
structure AnswersMarks (st : IfStage) (port : Input) (marks : List Bool) : Prop where
  cmdUpdiscon : st.cmdUpdiscon port = (port.instrValid && marks.headD false)
  written : (port.instrValid || st.cmdPmpErr port) = port.instrValid

theorem CommandQueue.answersMarks (queue : st.CommandQueue marks)
    (nonempty : port.instrValid = true → marks ≠ []) : st.AnswersMarks port marks where
  cmdUpdiscon := queue.cmdUpdiscon nonempty
  written := by rw [queue.cmdPmpErr, Bool.or_false]

theorem AnswersMarks.accepts (answers : st.AnswersMarks port marks)
    (noRedirect : port.setPcValid = false) :
    st.accepts port = (port.instrValid && RedirectQueue.accepts st.tracker marks) := by
  rw [IfStage.accepts, fifoClear_eq, noRedirect, Bool.not_false, Bool.and_true, fifoWvalid,
    answers.cmdUpdiscon, answers.written, RedirectQueue.accepts, tracker]
  cases st.fifoFlush <;> cases port.instrValid <;> rfl

/-- The request of the cycle is granted. -/
def granted (st : IfStage) (port : Input) : Bool := st.instrReq port && port.instrGnt

theorem cmdFifoPush_eq (noDenial : st.pmpErr pmpEnable port = false) :
    st.cmdFifoPush pmpEnable port = st.granted port := by
  rw [cmdFifoPush, noDenial, Bool.or_false, granted]

theorem cmdFifoWdata_eq (noDenial : st.pmpErr pmpEnable port = false) :
    st.cmdFifoWdata pmpEnable port = command (st.updiscon port) := by
  rw [cmdFifoWdata, reqAbort, noDenial, Bool.and_false, command]

/-- A request is made only while the command FIFO has room. -/
theorem CommandQueue.room (queue : st.CommandQueue marks) (request : st.instrReq port = true) :
    marks.length < 2 := by
  have fits := queue.holds.fits
  rw [List.length_map] at fits
  rcases Bool.or_eq_true_iff.mp request with isNew | retried
  · simp only [instrReqNew, queue.holds.fifoFull, Bool.and_eq_true, Bool.not_eq_true',
      decide_eq_false_iff_not, List.length_map] at isNew
    omega
  · have := queue.retry retried
    omega

/-- The marks after one cycle. -/
def nextMarks (st : IfStage) (port : Input) (marks : List Bool) : List Bool :=
  (if port.instrValid then marks.tail else marks) ++
    (if st.granted port then [st.updiscon port] else [])

theorem dataAt_next_clean {fifo : SyncFifo 2 3} {port : SyncFifo.Input 3}
    (clean : ∀ slot, (fifo.dataAt slot).getLsbD 1 = false)
    (cleanWord : port.wrData.getLsbD 1 = false) (slot : Nat) :
    ((fifo.next port).dataAt slot).getLsbD 1 = false := by
  by_cases inside : slot < 2
  · rw [SyncFifo.dataAt_next fifo port inside]
    split
    · simp only [SyncFifo.fifoDataD]
      repeat' split
      all_goals first | exact clean _ | exact cleanWord
    · exact clean slot
  · rw [SyncFifo.dataAt, dif_neg inside]
    rfl

/-- The ports of the command FIFO. -/
def cmdFifoInput (pmpEnable : Bool) (st : IfStage) (port : Input) : SyncFifo.Input 3 where
  fifoClear := false
  wrEn := st.cmdFifoPush pmpEnable port
  wrData := st.cmdFifoWdata pmpEnable port
  rdEn := st.cmdFifoPop port

theorem cmdFifo_next (pmpEnable : Bool) (st : IfStage) (port : Input) :
    (st.next pmpEnable port).cmdFifo = st.cmdFifo.next (cmdFifoInput pmpEnable st port) := rfl

theorem CommandQueue.next (queue : st.CommandQueue marks)
    (noDenial : st.pmpErr pmpEnable port = false)
    (nonempty : port.instrValid = true → marks ≠ []) :
    (st.next pmpEnable port).CommandQueue (st.nextMarks port marks) := by
  have pushes : (cmdFifoInput pmpEnable st port).wrEn = st.granted port :=
    cmdFifoPush_eq noDenial
  have word : (cmdFifoInput pmpEnable st port).wrData = command (st.updiscon port) :=
    cmdFifoWdata_eq noDenial
  have pops : (cmdFifoInput pmpEnable st port).rdEn = port.instrValid := queue.cmdFifoPop
  constructor
  · rw [cmdFifo_next]
    have sameQueue : SyncFifo.nextQueue (marks.map command) (cmdFifoInput pmpEnable st port) =
        (st.nextMarks port marks).map command := by
      simp only [SyncFifo.nextQueue, nextMarks, pushes, word, pops, List.map_append]
      cases port.instrValid <;> cases st.granted port <;> simp
    rw [← sameQueue]
    refine queue.holds.next rfl (fun pop => ?_) (fun push => ?_)
    · rw [pops] at pop
      simpa using nonempty pop
    · rw [pushes, granted, Bool.and_eq_true] at push
      rw [List.length_map]
      exact queue.room push.1
  · rw [cmdFifo_next]
    refine dataAt_next_clean queue.clean ?_
    rw [word]
    exact getLsbD_one_command _
  · intro retried
    have fails : st.nextReqFail pmpEnable port = true := retried
    simp only [nextReqFail, Bool.and_eq_true, Bool.not_eq_true'] at fails
    have room := queue.room fails.1.1
    have notGranted : st.granted port = false := by simp [granted, fails.1.2]
    rw [nextMarks, notGranted]
    cases port.instrValid <;> simp <;> omega

/-- Without a redirect the registers change as those of the marked queue: first by the answer,
then by the grant. -/
theorem AnswersMarks.tracker_next (answers : st.AnswersMarks port marks)
    (booted : st.isBoot = true)
    (requested : port.instrGnt = true → st.instrReq port = true)
    (noRedirect : port.setPcValid = false)
    (marksOnlyDiscarding : st.updisconQ = true → st.fifoFlush = true) :
    (st.next pmpEnable port).tracker =
      let answered := if port.instrValid then RedirectQueue.answered st.tracker marks
        else st.tracker
      if st.granted port then RedirectQueue.granted answered else answered := by
  have noNew : updisconNew port = false := noRedirect
  have discards : (st.next pmpEnable port).fifoFlush =
      if port.instrValid && marks.headD false then st.updisconQ else st.fifoFlush := by
    change st.nextFifoFlush port = _
    rw [nextFifoFlush, answers.cmdUpdiscon, updiscon, noNew, Bool.false_or]
    generalize marks.headD false = head
    cases port.instrValid <;> cases head <;> cases marking : st.updisconQ <;>
      simp [marking, marksOnlyDiscarding]
  have grantEq : st.granted port = port.instrGnt := by
    rw [granted]
    cases grant : port.instrGnt
    · simp
    · simp [requested grant]
  have marking : (st.next pmpEnable port).updisconQ =
      if st.granted port then false else st.updisconQ := by
    change st.nextUpdisconQ port = _
    rw [nextUpdisconQ, noNew, grantEq]
    cases st.updisconQ <;> cases port.instrGnt <;> rfl
  have address : (st.next pmpEnable port).instrPrefetchAddr =
      if st.granted port then st.instrPrefetchAddr + 4#32 else st.instrPrefetchAddr := by
    change st.nextInstrPrefetchAddr port = _
    simp [nextInstrPrefetchAddr, booted, fifoClear_eq, noRedirect, granted]
  rw [tracker, discards, marking, address]
  simp only [RedirectQueue.granted, RedirectQueue.answered, tracker]
  generalize marks.headD false = head
  cases port.instrValid <;> cases st.granted port <;> cases head <;> rfl

/-- A redirect starts a new queue: everything is discarded, and the request of the same cycle,
if it is granted, is the marked one. -/
theorem tracker_next_redirect (booted : st.isBoot = true) (redirect : port.setPcValid = true)
    (requested : port.instrGnt = true → st.instrReq port = true) :
    (st.next pmpEnable port).tracker =
      let fresh : Tracker :=
        { discarding := true, marking := true, nextAddr := st.instrAddr port }
      if st.granted port then RedirectQueue.granted fresh else fresh := by
  have isNew : updisconNew port = true := by simp [updisconNew, redirect]
  have discards : (st.next pmpEnable port).fifoFlush = true := by
    change st.nextFifoFlush port = true
    simp [nextFifoFlush, updiscon, isNew]
  have grantEq : st.granted port = port.instrGnt := by
    rw [granted]
    cases grant : port.instrGnt
    · simp
    · simp [requested grant]
  have marking : (st.next pmpEnable port).updisconQ = !port.instrGnt := by
    change st.nextUpdisconQ port = _
    rw [nextUpdisconQ, isNew]
    cases st.updisconQ <;> cases port.instrGnt <;> rfl
  have address : (st.next pmpEnable port).instrPrefetchAddr =
      if port.instrGnt then st.instrAddr port + 4#32 else st.instrAddr port := by
    change st.nextInstrPrefetchAddr port = _
    simp [nextInstrPrefetchAddr, booted, fifoClear_eq, redirect]
  rw [tracker, discards, marking, address, grantEq]
  cases port.instrGnt <;> rfl

end IfStage

end RiscvCore
