import RiscvCore.FetchRedirect

/-!
# The credits of the prefetch FIFO

Every word of the prefetch FIFO, every granted request without an answer and a request that waits
for its grant take up one of four places, and the last two kinds together at most two.  A new
request is made only while a place is free for its word, so that no FIFO is written while it is
full and the prefetch FIFO is the queue of the accepted words.
-/

namespace RiscvCore

namespace IfStage

variable {pmpEnable : Bool} {st : IfStage} {port : Input} {marks : List Bool}
  {words : List (BitVec 33)}

/-- The ports of the prefetch FIFO. -/
def prefetchFifoInput (st : IfStage) (port : Input) : PrefetchFifo.Input 33 where
  fifoClear := fifoClear port
  fifoReady := st.fifoReady port
  fifoWvalid := st.fifoWvalid port
  fifoWdata := st.fifoWdata port

/-- The prefetch FIFO stores the word of the cycle. -/
def prefetchFifoPush (st : IfStage) (port : Input) : Bool :=
  PrefetchFifo.fifoPush st.prefetchFifo (st.fifoReady port) (st.fifoWvalid port)

/-- The fetch stage reads a word. -/
def readsWord (st : IfStage) (port : Input) : Bool := st.fifoReady port && st.fifoValid port

theorem prefetchFifo_next (pmpEnable : Bool) (st : IfStage) (port : Input) :
    (st.next pmpEnable port).prefetchFifo =
      PrefetchFifo.next st.prefetchFifo (st.prefetchFifoInput port) := rfl

/-- The places taken. -/
structure Credits (st : IfStage) (marks : List Bool) (words : List (BitVec 33)) : Prop where
  total : words.length + marks.length + st.reqFail.toNat ≤ 4
  commands : marks.length + st.reqFail.toNat ≤ 2

/-- A request finds a free place for its word, unless it is a retry, which keeps its own, or the
words are dropped. -/
theorem Credits.room (credits : st.Credits marks words) (holds : st.prefetchFifo.Holds words)
    (fits : marks.length < 2) (request : st.instrReq port = true)
    (noClear : fifoClear port = false) : words.length + marks.length < 4 := by
  rcases Bool.or_eq_true_iff.mp request with isNew | retried
  · simp only [instrReqNew, noClear, holds.fifoAlmostFull, Bool.or_false, Bool.and_eq_true,
      Bool.not_eq_true', decide_eq_false_iff_not] at isNew
    omega
  · have total := credits.total
    rw [retried, Bool.toNat_true] at total
    omega

theorem length_nextMarks (nonempty : port.instrValid = true → marks ≠ []) :
    (st.nextMarks port marks).length + port.instrValid.toNat =
      marks.length + (st.granted port).toNat := by
  rw [nextMarks, List.length_append]
  cases valid : port.instrValid with
  | false => cases st.granted port <;> simp
  | true =>
      have positive := List.length_pos_iff.mpr (nonempty valid)
      cases st.granted port <;> simp <;> omega

/-- Written are only answers. -/
theorem CommandQueue.instrValid_of_fifoWvalid (queue : st.CommandQueue marks)
    (written : st.fifoWvalid port = true) : port.instrValid = true := by
  rw [fifoWvalid, queue.cmdPmpErr, Bool.or_false] at written
  split at written
  · exact (Bool.and_eq_true_iff.mp written).1
  · exact written

theorem length_nextQueue (words : List (BitVec 33)) (ports : PrefetchFifo.Input 33) :
    (PrefetchFifo.nextQueue words ports).length ≤ words.length + ports.fifoWvalid.toNat ∧
      (ports.fifoClear = true → PrefetchFifo.nextQueue words ports = []) := by
  rw [PrefetchFifo.nextQueue]
  cases ports.fifoClear <;> cases ports.fifoWvalid <;> cases ports.fifoReady <;> simp

/-- One cycle keeps the places if each request is stored or retried, and each word is that of a
command that leaves. -/
theorem Credits.next (credits : st.Credits marks words) (holds : st.prefetchFifo.Holds words)
    {marksNext : List Bool} {pushed popped : Bool}
    (fits : st.instrReq port = true → marks.length < 2)
    (marksLength : marksNext.length + popped.toNat = marks.length + pushed.toNat)
    (written : st.fifoWvalid port = true → popped = true)
    (asked : pushed.toNat + (st.nextReqFail pmpEnable port).toNat = (st.instrReq port).toNat) :
    (st.next pmpEnable port).Credits marksNext
      (PrefetchFifo.nextQueue words (st.prefetchFifoInput port)) := by
  obtain ⟨wordsLength, cleared⟩ := length_nextQueue words (st.prefetchFifoInput port)
  have wvalid : (st.prefetchFifoInput port).fifoWvalid = st.fifoWvalid port := rfl
  have writtenCount : (st.fifoWvalid port).toNat ≤ popped.toNat := by
    cases isWritten : st.fifoWvalid port with
    | false => exact Nat.zero_le _
    | true => exact Nat.le_of_eq (congrArg Bool.toNat (written isWritten).symm)
  have fails : (st.next pmpEnable port).reqFail = st.nextReqFail pmpEnable port := rfl
  have total := credits.total
  have commands := credits.commands
  rw [← fails] at asked
  rw [wvalid] at wordsLength
  cases request : st.instrReq port with
  | false =>
      rw [request, Bool.toNat_false] at asked
      constructor <;> omega
  | true =>
      have few := fits request
      rw [request, Bool.toNat_true] at asked
      constructor
      · cases clear : fifoClear port with
        | true =>
            rw [cleared clear, List.length_nil]
            omega
        | false =>
            have free := credits.room holds few request clear
            omega
      · omega

/-- A request without a denial is granted or retried. -/
theorem granted_or_nextReqFail (noDenial : st.pmpErr pmpEnable port = false) :
    (st.granted port).toNat + (st.nextReqFail pmpEnable port).toNat =
      (st.instrReq port).toNat := by
  rw [granted, nextReqFail, noDenial]
  cases st.instrReq port <;> cases port.instrGnt <;> rfl

end IfStage

namespace FetchRun

variable (run : FetchRun)

/-- The words accepted since the last redirect and not read yet. -/
def unread : Nat → List (BitVec 33)
  | 0 => []
  | cycle + 1 =>
      let st := run.state cycle
      let port := run.inputs cycle
      if run.redirects cycle then []
      else
        let accepted := unread cycle ++ (if st.fifoWvalid port then [st.fifoWdata port] else [])
        if st.readsWord port then accepted.tail else accepted

/-- Along the whole run no place is given twice, no FIFO is written while it is full, and the
words are read in the order in which they are accepted. -/
structure CreditsKept : Prop where
  total : ∀ cycle, (run.state cycle).prefetchFifo.entries + (run.state cycle).cmdFifo.entries +
    (run.state cycle).reqFail.toNat ≤ 4
  commands : ∀ cycle, (run.state cycle).cmdFifo.entries + (run.state cycle).reqFail.toNat ≤ 2
  wordRoom : ∀ cycle, (run.state cycle).prefetchFifoPush (run.inputs cycle) = true →
    (run.state cycle).prefetchFifo.fifoFull = false
  commandRoom : ∀ cycle,
    (run.state cycle).cmdFifoPush run.pmpEnable (run.inputs cycle) = true →
      (run.state cycle).cmdFifo.fifoFull = false
  outstanding : ∀ cycle,
    (run.state cycle).cmdFifo.entries = (BusProtocol.pending run.bus cycle).length
  stored : ∀ cycle, (run.state cycle).prefetchFifo.Holds (run.unread cycle)
  read : ∀ cycle, (run.state cycle).readsWord (run.inputs cycle) = true →
    some ((run.state cycle).fifoRdata (run.inputs cycle)) =
      (run.unread cycle ++
        (if (run.state cycle).fifoWvalid (run.inputs cycle) then
          [(run.state cycle).fifoWdata (run.inputs cycle)] else [])).head?

variable {run}

/-- The state of the fetch stage with the marks and words it holds. -/
structure Credited (run : FetchRun) (cycle : Nat) (marks : List Bool) : Prop where
  aligned : run.Aligned cycle marks
  stored : (run.state cycle).prefetchFifo.Holds (run.unread cycle)
  credits : (run.state cycle).Credits marks (run.unread cycle)

theorem unread_succ {cycle : Nat}
    (stored : (run.state cycle).prefetchFifo.Holds (run.unread cycle)) :
    run.unread (cycle + 1) = PrefetchFifo.nextQueue (run.unread cycle)
      ((run.state cycle).prefetchFifoInput (run.inputs cycle)) := by
  have reads : (run.state cycle).readsWord (run.inputs cycle) =
      ((run.state cycle).fifoReady (run.inputs cycle) && (!(run.unread cycle).isEmpty ||
        (run.state cycle).fifoWvalid (run.inputs cycle))) := by
    rw [IfStage.readsWord, IfStage.fifoValid, PrefetchFifo.holds_fifoValid stored]
  rw [unread]
  cases clear : run.redirects cycle with
  | true =>
      have isClear : ((run.state cycle).prefetchFifoInput (run.inputs cycle)).fifoClear = true :=
        clear
      rw [PrefetchFifo.nextQueue, isClear]
      rfl
  | false =>
      rw [PrefetchFifo.nextQueue_of_noClear _ clear, reads]
      rfl

theorem credited_zero : run.Credited 0 [] where
  aligned := ⟨IfStage.commandQueue_reset run.bootAddr, rfl⟩
  stored := SyncFifo.holds_reset
  credits := ⟨Nat.zero_le 4, Nat.zero_le 2⟩

/-- A word is stored only while a place is free. -/
theorem Credited.room {cycle : Nat} {marks : List Bool} (credited : run.Credited cycle marks)
    (queued : run.AnswersQueued)
    (written : (run.state cycle).fifoWvalid (run.inputs cycle) = true) :
    (run.unread cycle).length < 4 := by
  have valid := credited.aligned.queue.instrValid_of_fifoWvalid written
  have positive := List.length_pos_iff.mpr (credited.aligned.nonempty queued valid)
  have total := credited.credits.total
  omega

theorem Credited.succ {cycle : Nat} {marks : List Bool} (credited : run.Credited cycle marks)
    (noDenial : (run.state cycle).pmpErr run.pmpEnable (run.inputs cycle) = false)
    (queued : run.AnswersQueued) :
    run.Credited (cycle + 1) ((run.state cycle).nextMarks (run.inputs cycle) marks) := by
  have stores := unread_succ credited.stored
  refine ⟨credited.aligned.step noDenial queued, ?_, ?_⟩
  · rw [stores, run.state_succ, IfStage.prefetchFifo_next]
    exact PrefetchFifo.holds_next credited.stored fun written => credited.room queued written
  · rw [stores, run.state_succ]
    exact credited.credits.next credited.stored credited.aligned.queue.room
      (IfStage.length_nextMarks (credited.aligned.nonempty queued))
      credited.aligned.queue.instrValid_of_fifoWvalid (IfStage.granted_or_nextReqFail noDenial)

theorem exists_credited
    (noDenial : ∀ cycle, (run.state cycle).pmpErr run.pmpEnable (run.inputs cycle) = false)
    (queued : run.AnswersQueued) (cycle : Nat) : ∃ marks, run.Credited cycle marks := by
  induction cycle with
  | zero => exact ⟨[], credited_zero⟩
  | succ cycle induction =>
      obtain ⟨marks, credited⟩ := induction
      exact ⟨_, credited.succ (noDenial cycle) queued⟩

theorem Credited.entries {cycle : Nat} {marks : List Bool} (credited : run.Credited cycle marks) :
    (run.state cycle).cmdFifo.entries = marks.length := by
  rw [credited.aligned.queue.holds.entries, List.length_map]

/-- What is read is the oldest unread word. -/
theorem fifoRdata_of_reads {cycle : Nat}
    (stored : (run.state cycle).prefetchFifo.Holds (run.unread cycle))
    (reads : (run.state cycle).readsWord (run.inputs cycle) = true) :
    some ((run.state cycle).fifoRdata (run.inputs cycle)) =
      (run.unread cycle ++
        (if (run.state cycle).fifoWvalid (run.inputs cycle) then
          [(run.state cycle).fifoWdata (run.inputs cycle)] else [])).head? := by
  rw [IfStage.readsWord, Bool.and_eq_true] at reads
  rw [← PrefetchFifo.holds_fifoRdata stored reads.2, IfStage.fifoRdata, reads.1]

/-- The places are kept in every run without denials whose bus answers only what it has
granted. -/
theorem creditsKept_of_noDenial (run : FetchRun)
    (noDenial : ∀ cycle, (run.state cycle).pmpErr run.pmpEnable (run.inputs cycle) = false)
    (queued : run.AnswersQueued) : run.CreditsKept := by
  have credited := exists_credited noDenial queued
  constructor
  · intro cycle
    obtain ⟨marks, credited⟩ := credited cycle
    rw [credited.stored.entries, credited.entries]
    exact credited.credits.total
  · intro cycle
    obtain ⟨marks, credited⟩ := credited cycle
    rw [credited.entries]
    exact credited.credits.commands
  · intro cycle push
    obtain ⟨marks, credited⟩ := credited cycle
    rw [IfStage.prefetchFifoPush, PrefetchFifo.fifoPush, Bool.and_eq_true] at push
    have room := credited.room queued push.1
    rw [credited.stored.fifoFull, decide_eq_false_iff_not]
    omega
  · intro cycle push
    obtain ⟨marks, credited⟩ := credited cycle
    rw [IfStage.cmdFifoPush_eq (noDenial cycle), IfStage.granted, Bool.and_eq_true] at push
    have room := credited.aligned.queue.room push.1
    rw [credited.aligned.queue.holds.fifoFull, decide_eq_false_iff_not, List.length_map]
    omega
  · intro cycle
    obtain ⟨marks, credited⟩ := credited cycle
    rw [credited.entries, credited.aligned.length]
  · intro cycle
    obtain ⟨marks, credited⟩ := credited cycle
    exact credited.stored
  · intro cycle reads
    obtain ⟨marks, credited⟩ := credited cycle
    exact fifoRdata_of_reads credited.stored reads

/-- The words before, between and after two redirects. -/
theorem creditsKept_spacedRedirects : spacedRedirects.CreditsKept := by
  exact creditsKept_of_noDenial _ noDenial_scripted environment_spacedRedirects.queued

end FetchRun

end RiscvCore
