import RiscvCore.FetchAlignment
import RiscvCore.FetchCredits
import RiscvCore.IsaMachine
import RiscvCore.RedirectMarks

/-!
# Fetching a program

The requests, the command FIFO, the prefetch FIFO and the realignment together: an instruction
that the stage passes on is the one that the memory behind the instruction bus holds at its
address.
-/

namespace RiscvCore

open BusProtocol (pending)
open RedirectQueue (Follows wordAddr)

/-- The words from a word address on, none of them erroneous. -/
def wordsFrom (memory : Word → Word) (base : Word) : WordStream :=
  fun index => 0#1 ++ memory (wordAddr base index)

/-- The address of a half of the stream. -/
def parcelAddr (base : Word) (index : Nat) : Word := base + BitVec.ofNat 32 (2 * index)

section Stream

variable {memory : Word → Word} {base : Word}

theorem toNat_wordPart (addr : Word) :
    (addr.extractLsb' 2 30 ++ 0#2).toNat = addr.toNat / 4 * 4 := by
  rw [BitVec.toNat_append, BitVec.extractLsb'_toNat, Nat.shiftRight_eq_div_pow]
  have bound := addr.isLt
  have zero : (0#2).toNat = 0 := rfl
  rw [zero, Nat.or_zero, Nat.shiftLeft_eq, Nat.mod_eq_of_lt (by omega)]

theorem toNat_parcelAddr (base : Word) (index : Nat) :
    (parcelAddr base index).toNat = (base.toNat + 2 * index) % 2 ^ 32 := by
  rw [parcelAddr, BitVec.toNat_add, BitVec.toNat_ofNat, Nat.add_mod_mod]

/-- A half is in the word it is counted in. -/
theorem wordPart_parcelAddr (aligned : base.toNat % 4 = 0) (index : Nat) :
    (parcelAddr base index).extractLsb' 2 30 ++ 0#2 = wordAddr base (index / 2) := by
  apply BitVec.eq_of_toNat_eq
  rw [toNat_wordPart, toNat_parcelAddr, wordAddr, BitVec.toNat_add, BitVec.toNat_ofNat,
    Nat.add_mod_mod]
  have bound := base.isLt
  omega

theorem getLsbD_parcelAddr (aligned : base.toNat % 4 = 0) (index : Nat) :
    (parcelAddr base index).getLsbD 1 = decide (index % 2 = 1) := by
  rw [getLsbD_one, toNat_parcelAddr, decide_eq_decide]
  have bound := base.isLt
  omega

theorem parcelAddr_succ (base : Word) (index : Nat) :
    parcelAddr base (index + 1) = parcelAddr base index + 2#32 := by
  rw [parcelAddr, parcelAddr, Nat.mul_add, BitVec.ofNat_add, BitVec.add_assoc]

theorem parcel_wordsFrom (memory : Word → Word) (aligned : base.toNat % 4 = 0) (index : Nat) :
    (wordsFrom memory base).parcel index = halfAt memory (parcelAddr base index) := by
  rw [halfAt, wordPart_parcelAddr aligned, getLsbD_parcelAddr aligned]
  rcases Nat.mod_two_eq_zero_or_one index with even | odd
  · rw [WordStream.parcel_even _ even, even, wordsFrom,
      BitVec.extractLsb'_append_eq_of_add_le (by decide)]
    rfl
  · rw [WordStream.parcel_odd _ odd, odd, wordsFrom,
      BitVec.extractLsb'_append_eq_of_add_le (by decide)]
    rfl

theorem isLong_wordsFrom (memory : Word → Word) (aligned : base.toNat % 4 = 0) (index : Nat) :
    (wordsFrom memory base).isLong index = isLongAt memory (parcelAddr base index) := by
  rw [WordStream.isLong, isLongAt, parcel_wordsFrom memory aligned]

theorem instruction_wordsFrom (memory : Word → Word) (aligned : base.toNat % 4 = 0)
    (index : Nat) :
    (wordsFrom memory base).instruction index = instrAt memory (parcelAddr base index) := by
  rw [WordStream.instruction, instrAt, isLong_wordsFrom memory aligned,
    parcel_wordsFrom memory aligned, parcel_wordsFrom memory aligned, parcelAddr_succ]

/-- An even target is a half of its word. -/
theorem target_eq_parcelAddr {target : Word} (even : IsEven target) :
    target = parcelAddr (target.extractLsb' 2 30 ++ 0#2) (if target.getLsbD 1 then 1 else 0) := by
  have isEven : target.toNat % 2 = 0 := by
    rw [IsEven, BitVec.getLsbD, Nat.testBit_zero] at even
    simpa using even
  apply BitVec.eq_of_toNat_eq
  rw [toNat_parcelAddr, toNat_wordPart]
  have bound := target.isLt
  cases upper : target.getLsbD 1 with
  | true =>
      rw [getLsbD_one, decide_eq_true_eq] at upper
      rw [if_pos rfl]
      omega
  | false =>
      rw [getLsbD_one, decide_eq_false_iff_not] at upper
      rw [if_neg Bool.false_ne_true]
      omega

/-- The position of a half with its address. -/
def positionAt (base : Word) (index : Nat) : WordStream.Position := ⟨index, parcelAddr base index⟩

theorem next_positionAt (words : WordStream) (base : Word) (index : Nat) :
    ∃ indexNext, words.next (positionAt base index) = positionAt base indexNext := by
  refine ⟨index + if words.isLong index then 2 else 1, ?_⟩
  rw [WordStream.next, positionAt, positionAt]
  congr 1
  cases words.isLong index with
  | true => rw [if_pos rfl, if_pos rfl, parcelAddr_succ, parcelAddr_succ, BitVec.add_assoc]; rfl
  | false => rw [if_neg Bool.false_ne_true, if_neg Bool.false_ne_true, parcelAddr_succ]

end Stream

/-! ## The stage in the stream -/

namespace FetchRun

/-- The surroundings of a program: no request is denied, and the bus answers every grant in order,
at least one cycle later, with the word at its address and without an error. -/
structure Serves (run : FetchRun) (memory : Word → Word) : Prop
    extends Environment run memory where
  noError : ∀ cycle, (run.inputs cycle).instrValid = true → (run.inputs cycle).instrErr = false

/-- The stage is at a half of the stream from `base` on and has read some words.  The words stored
behind them are the next ones, and the bus works on those after them. -/
structure Streaming (run : FetchRun) (memory : Word → Word) (cycle : Nat) (base : Word)
    (index reads stored : Nat) : Prop where
  aligned : base.toNat % 4 = 0
  located : (run.state cycle).AtPosition (wordsFrom memory base) (positionAt base index) reads
  unread : run.unread cycle = (List.range stored).map fun later =>
    wordsFrom memory base (reads + later)
  requested : ∃ marks stale live, run.Aligned cycle marks ∧
    Follows (run.state cycle).tracker (pending run.bus cycle) marks base (reads + stored) stale live

/-- The words to come are those of the memory from the address of the stage on. -/
def Delivers (run : FetchRun) (memory : Word → Word) (cycle : Nat) : Prop :=
  ∃ base index reads stored, run.Streaming memory cycle base index reads stored

variable {run : FetchRun} {memory : Word → Word} {cycle : Nat}

section Streaming

variable {base : Word} {index reads stored : Nat} (serves : run.Serves memory)
  (streaming : run.Streaming memory cycle base index reads stored)
  (noRedirect : run.redirects cycle = false)

include serves streaming noRedirect

/-- The word that is written is the next one. -/
theorem Streaming.fifoWdata (written : (run.state cycle).fifoWvalid (run.inputs cycle) = true) :
    (run.state cycle).fifoWdata (run.inputs cycle) = wordsFrom memory base (reads + stored) := by
  obtain ⟨marks, stale, live, aligned, follows⟩ := streaming.requested
  have isNone : (run.inputs cycle).setPcValid = false := noRedirect
  have accepts : (run.state cycle).accepts (run.inputs cycle) = true := by
    rw [IfStage.accepts, written, IfStage.fifoClear_eq, isNone]
    rfl
  rw [(aligned.queue.answersMarks (aligned.nonempty serves.queued)).accepts isNone] at accepts
  have valid := (Bool.and_eq_true_iff.mp accepts).1
  obtain ⟨accepted, -⟩ := follows.cycle (run.inputs cycle).instrValid
    ((run.state cycle).granted (run.inputs cycle)) (serves.queued cycle)
  obtain ⟨-, head⟩ := accepted accepts
  obtain ⟨addr, rest, queue, answers⟩ := serves.inOrder.answered cycle valid
  rw [queue, List.head?_cons, Option.some.injEq] at head
  rw [IfStage.fifoWdata, serves.noError cycle valid, aligned.queue.cmdPmpErr, wordsFrom, ← head]
  exact congrArg (0#1 ++ ·) answers

/-- The stored words with the written one. -/
theorem Streaming.accepted :
    run.unread cycle ++ (if (run.state cycle).fifoWvalid (run.inputs cycle) then
        [(run.state cycle).fifoWdata (run.inputs cycle)] else []) =
      (List.range (stored + ((run.state cycle).fifoWvalid (run.inputs cycle)).toNat)).map
        fun later => wordsFrom memory base (reads + later) := by
  rw [streaming.unread]
  cases written : (run.state cycle).fifoWvalid (run.inputs cycle) with
  | false => simp
  | true =>
      rw [streaming.fifoWdata serves noRedirect written, if_pos rfl, Bool.toNat_true,
        List.range_succ, List.map_append]
      rfl

theorem Streaming.delivered
    (readsWord : (run.state cycle).readsWord (run.inputs cycle) = true) :
    (run.state cycle).fifoRdata (run.inputs cycle) = wordsFrom memory base reads ∧
      0 < stored + ((run.state cycle).fifoWvalid (run.inputs cycle)).toNat := by
  have kept := creditsKept_of_noDenial run serves.noDenial serves.queued
  have head := kept.read cycle readsWord
  rw [streaming.accepted serves noRedirect] at head
  generalize stored + ((run.state cycle).fifoWvalid (run.inputs cycle)).toNat = count at head ⊢
  cases count with
  | zero => cases head
  | succ count =>
      rw [List.range_succ_eq_map, List.map_cons, List.head?_cons, Option.some.injEq] at head
      exact ⟨head, Nat.succ_pos count⟩

theorem Streaming.unread_succ :
    run.unread (cycle + 1) =
      (List.range (stored + ((run.state cycle).fifoWvalid (run.inputs cycle)).toNat -
        ((run.state cycle).readsWord (run.inputs cycle)).toNat)).map fun later =>
          wordsFrom memory base
            (reads + ((run.state cycle).readsWord (run.inputs cycle)).toNat + later) := by
  have unfolded : run.unread (cycle + 1) =
      if run.redirects cycle then [] else
        let accepted := run.unread cycle ++
          (if (run.state cycle).fifoWvalid (run.inputs cycle) then
            [(run.state cycle).fifoWdata (run.inputs cycle)] else [])
        if (run.state cycle).readsWord (run.inputs cycle) then accepted.tail else accepted := rfl
  rw [unfolded, noRedirect, if_neg Bool.false_ne_true, streaming.accepted serves noRedirect]
  cases readsWord : (run.state cycle).readsWord (run.inputs cycle) with
  | false => simp
  | true =>
      have some := (streaming.delivered serves noRedirect readsWord).2
      generalize stored + ((run.state cycle).fifoWvalid (run.inputs cycle)).toNat = count at some ⊢
      obtain ⟨count, rfl⟩ := Nat.exists_eq_succ_of_ne_zero (Nat.ne_of_gt some)
      rw [if_pos rfl, List.range_succ_eq_map, List.map_cons, List.tail_cons, List.map_map]
      congr 1
      funext later
      exact congrArg (wordsFrom memory base) (by simp only [Bool.toNat_true]; omega)

/-- A cycle without a redirect. -/
theorem Streaming.next : ∃ readsNext storedNext indexNext,
    run.Streaming memory (cycle + 1) base indexNext readsNext storedNext := by
  obtain ⟨marks, stale, live, aligned, follows⟩ := streaming.requested
  have isNone : (run.inputs cycle).setPcValid = false := noRedirect
  have marksNonempty : (run.inputs cycle).instrValid = true → marks ≠ [] :=
    aligned.nonempty serves.queued
  have answers := aligned.queue.answersMarks marksNonempty
  have accepts : (run.state cycle).fifoWvalid (run.inputs cycle) =
      ((run.inputs cycle).instrValid && RedirectQueue.accepts (run.state cycle).tracker marks) := by
    rw [← answers.accepts isNone, IfStage.accepts, IfStage.fifoClear_eq, isNone]
    exact (Bool.and_true _).symm
  have located := streaming.located.next run.pmpEnable isNone fun readsWord =>
    (streaming.delivered serves noRedirect readsWord).1
  obtain ⟨indexNext, nextPosition⟩ := next_positionAt (wordsFrom memory base) base index
  refine ⟨_, _, if (run.state cycle).takes (run.inputs cycle) then indexNext else index,
    streaming.aligned, ?_, streaming.unread_succ serves noRedirect, ?_⟩
  · rw [nextPosition, ← apply_ite] at located
    exact located
  · obtain ⟨-, staleNext, liveNext, -, followsNext⟩ :=
      follows.cycle (run.inputs cycle).instrValid
        ((run.state cycle).granted (run.inputs cycle)) (serves.queued cycle)
    rw [← accepts] at followsNext
    have tracker := run.state_succ cycle ▸ answers.tracker_next streaming.located.booted
      (serves.inOrder.requested cycle) isNone follows.marking_discarding
    have pendingNext : pending run.bus (cycle + 1) =
        (if (run.inputs cycle).instrValid then (pending run.bus cycle).tail
          else pending run.bus cycle) ++
          (if (run.state cycle).granted (run.inputs cycle) then
            [(run.state cycle).tracker.nextAddr] else []) := by
      rw [← instrAddr_noRedirect noRedirect]
      rfl
    have count : reads + ((run.state cycle).readsWord (run.inputs cycle)).toNat +
        (stored + ((run.state cycle).fifoWvalid (run.inputs cycle)).toNat -
          ((run.state cycle).readsWord (run.inputs cycle)).toNat) =
        reads + stored + ((run.state cycle).fifoWvalid (run.inputs cycle)).toNat := by
      cases readsWord : (run.state cycle).readsWord (run.inputs cycle) with
      | false => exact (Nat.add_assoc reads stored _).symm
      | true =>
          have some := (streaming.delivered serves noRedirect readsWord).2
          rw [Bool.toNat_true]
          omega
    refine ⟨_, staleNext, liveNext, aligned.step (serves.noDenial cycle) serves.queued, ?_⟩
    rw [count, tracker, pendingNext, IfStage.nextMarks, updiscon_noRedirect noRedirect]
    exact followsNext

/-- An instruction that the stage offers to a ready ID is the one at its address. -/
theorem Streaming.parses (ready : IfStage.readyIf (run.inputs cycle) = true)
    (value : (run.state cycle).insnValue (run.inputs cycle) = true) :
    (run.state cycle).insnPayloadIf (run.inputs cycle) =
        (compressDecoder (instrAt memory (run.state cycle).pcIf)).1 ∧
      (run.state cycle).insnCompressIf (run.inputs cycle) =
        !isLongAt memory (run.state cycle).pcIf := by
  have parses := streaming.located.parses ⟨streaming.located.booted, ready, noRedirect⟩
    fun readsWord => (streaming.delivered serves noRedirect readsWord).1
  rw [show (run.state cycle).pcIf = parcelAddr base index from streaming.located.placed.pc_eq,
    ← instruction_wordsFrom memory streaming.aligned, ← isLong_wordsFrom memory streaming.aligned]
  exact ⟨parses.payload value, parses.compress value⟩

end Streaming

theorem Delivers.next (serves : run.Serves memory) (delivers : run.Delivers memory cycle)
    (noRedirect : run.redirects cycle = false) : run.Delivers memory (cycle + 1) := by
  obtain ⟨base, index, reads, stored, streaming⟩ := delivers
  obtain ⟨readsNext, storedNext, indexNext, next⟩ := streaming.next serves noRedirect
  exact ⟨base, indexNext, readsNext, storedNext, next⟩

/-- A redirect that finds the stage settled starts a new stream. -/
theorem delivers_of_redirect (serves : run.Serves memory) {marks : List Bool}
    (aligned : run.Aligned cycle marks) (one : (run.state cycle).OneMark marks)
    (booted : (run.state cycle).isBoot = true) (redirects : run.redirects cycle = true)
    (settled : (run.state cycle).fifoFlush = false) (even : IsEven (run.inputs cycle).setPc) :
    run.Delivers memory (cycle + 1) := by
  have isRedirect : (run.inputs cycle).setPcValid = true := redirects
  obtain ⟨unmarked, -⟩ := one.clear settled
  have clear : ∀ mark ∈ (if (run.inputs cycle).instrValid then marks.tail else marks),
      mark = false := by
    intro mark inside
    apply unmarked mark
    split at inside
    · exact List.mem_of_mem_tail inside
    · exact inside
  have sameLength : (if (run.inputs cycle).instrValid then marks.tail else marks).length =
      (if (run.inputs cycle).instrValid then (pending run.bus cycle).tail
        else pending run.bus cycle).length := by
    have length : marks.length = (pending run.bus cycle).length := aligned.length
    split <;> simp [length]
  have fresh := RedirectQueue.follows_redirect clear sameLength (run.base cycle)
  obtain ⟨live, follows⟩ := fresh.grantIf ((run.state cycle).granted (run.inputs cycle))
  have tracker := run.state_succ cycle ▸
    IfStage.tracker_next_redirect booted isRedirect (serves.inOrder.requested cycle)
  have pendingNext : pending run.bus (cycle + 1) =
      (if (run.inputs cycle).instrValid then (pending run.bus cycle).tail
        else pending run.bus cycle) ++
        (if (run.state cycle).granted (run.inputs cycle) then [run.base cycle] else []) := by
    rw [← instrAddr_redirect redirects]
    rfl
  have marksNext : (run.state cycle).nextMarks (run.inputs cycle) marks =
      (if (run.inputs cycle).instrValid then marks.tail else marks) ++
        (if (run.state cycle).granted (run.inputs cycle) then [true] else []) := by
    rw [IfStage.nextMarks, IfStage.updiscon, IfStage.updisconNew, isRedirect]
    rfl
  have baseAligned : (run.base cycle).toNat % 4 = 0 := by
    rw [base, toNat_wordPart]
    omega
  refine ⟨run.base cycle, if (run.target cycle).getLsbD 1 then 1 else 0, 0, 0, baseAligned, ?_, ?_,
    ?_⟩
  · have located := atPosition_redirect (wordsFrom memory (run.base cycle)) redirects
    have samePosition : (wordsFrom memory (run.base cycle)).position (run.target cycle) 0 =
        positionAt (run.base cycle) (if (run.target cycle).getLsbD 1 then 1 else 0) := by
      rw [WordStream.position, positionAt]
      congr 1
      exact target_eq_parcelAddr even
    rw [samePosition] at located
    exact located
  · rw [unread]
    exact if_pos redirects
  · refine ⟨_, (if (run.inputs cycle).instrValid then (pending run.bus cycle).tail
        else pending run.bus cycle).length, live,
      aligned.step (serves.noDenial cycle) serves.queued, ?_⟩
    rw [tracker, instrAddr_redirect redirects, pendingNext, marksNext]
    exact follows

/-- Before the stage has booted it asks for nothing. -/
theorem nothing_zero (serves : run.Serves memory) :
    (run.inputs 0).instrValid = false ∧ (run.inputs 0).instrGnt = false := by
  constructor
  · cases valid : (run.inputs 0).instrValid with
    | false => rfl
    | true => exact (serves.queued 0 valid rfl).elim
  · cases grant : (run.inputs 0).instrGnt with
    | false => rfl
    | true =>
        have request := serves.inOrder.requested 0 grant
        cases request

theorem noWord_zero (serves : run.Serves memory) :
    (IfStage.reset run.bootAddr).fifoWvalid (run.inputs 0) = false := by
  cases written : (IfStage.reset run.bootAddr).fifoWvalid (run.inputs 0) with
  | false => rfl
  | true =>
      have valid := (IfStage.commandQueue_reset run.bootAddr).instrValid_of_fifoWvalid written
      rw [(nothing_zero serves).1] at valid
      cases valid

theorem noValue_zero (serves : run.Serves memory) :
    (IfStage.reset run.bootAddr).insnValue (run.inputs 0) = false := by
  have noValid : (IfStage.reset run.bootAddr).fifoValid (run.inputs 0) = false := by
    rw [IfStage.fifoValid, noWord_zero serves]
    rfl
  rw [IfStage.insnValue, noValid]
  split <;> rfl

/-- The stage begins in front of the boot address, as if the word before it had been the first one
of the stream. -/
theorem delivers_one (serves : run.Serves memory) (aligned : run.bootAddr.toNat % 4 = 0)
    (noRedirect : run.redirects 0 = false) : run.Delivers memory 1 := by
  obtain ⟨noAnswer, noGrant⟩ := nothing_zero serves
  have isNone : (run.inputs 0).setPcValid = false := noRedirect
  have noWord := noWord_zero serves
  have noValue := noValue_zero serves
  have emptied := (IfStage.emptied_reset run.bootAddr).next run.pmpEnable isNone noWord
  have inFront : (run.state 1).pcIf = run.bootAddr := by
    change (if IfStage.readyIf (run.inputs 0) || (run.inputs 0).setPcValid then
      (IfStage.reset run.bootAddr).nextPc (run.inputs 0) else run.bootAddr) = _
    rw [IfStage.nextPc, isNone, noValue]
    split <;> rfl
  have noCommand : (IfStage.reset run.bootAddr).cmdUpdiscon (run.inputs 0) = false := by
    rw [(IfStage.commandQueue_reset run.bootAddr).cmdUpdiscon (by simp [noAnswer]), noAnswer,
      Bool.false_and]
  have tracker : (run.state 1).tracker = ⟨false, false, run.bootAddr⟩ := by
    change (⟨(IfStage.reset run.bootAddr).nextFifoFlush (run.inputs 0),
      (IfStage.reset run.bootAddr).nextUpdisconQ (run.inputs 0),
      (IfStage.reset run.bootAddr).nextInstrPrefetchAddr (run.inputs 0)⟩ :
        RedirectQueue.Tracker) = _
    rw [IfStage.nextFifoFlush, IfStage.nextUpdisconQ, noCommand, IfStage.updiscon,
      IfStage.updisconNew, isNone, Bool.and_false]
    rfl
  have noPending : pending run.bus 1 = [] := by
    have grant : (run.bus 0).granted = false :=
      (congrArg (_ && ·) noGrant).trans (Bool.and_false _)
    rw [BusProtocol.pending_succ, BusProtocol.nextPending, grant]
    rw [show (run.bus 0).valid = false from noAnswer]
    rfl
  have first : parcelAddr (run.bootAddr - 4#32) 2 = run.bootAddr := by
    rw [parcelAddr]
    exact BitVec.sub_add_cancel _ _
  refine ⟨run.bootAddr - 4#32, 2, 1, 0, ?_, ⟨rfl, ?_, ?_, ?_, ?_⟩, ?_, [], 0, 0, ?_, ?_⟩
  · have bound := run.bootAddr.isLt
    rw [BitVec.toNat_sub]
    have four : (4#32).toNat = 4 := rfl
    omega
  · rw [positionAt, first]
    exact inFront
  · rw [inFront, getLsbD_one]
    have lower : ¬ run.bootAddr.toNat / 2 % 2 = 1 := by omega
    exact (decide_eq_false lower).trans (by decide : false = decide (2 % 2 = 1))
  · exact fun _ => (by decide : 1 = 2 / 2)
  · intro full
    have empty : (run.state 1).holdRdataValue = false := emptied.noHold
    rw [show (run.state 1).holdRdataValue = true from full] at empty
    cases empty
  · have unfolded : run.unread 1 = if run.redirects 0 then [] else
        let accepted := run.unread 0 ++
          (if (run.state 0).fifoWvalid (run.inputs 0) then
            [(run.state 0).fifoWdata (run.inputs 0)] else [])
        if (run.state 0).readsWord (run.inputs 0) then accepted.tail else accepted := rfl
    rw [unfolded, noRedirect, show (run.state 0).fifoWvalid (run.inputs 0) = false from noWord]
    split <;> rfl
  · have credited : run.Credited 0 [] := credited_zero
    have aligned := credited.aligned.step (serves.noDenial 0) serves.queued
    have noMarks : (run.state 0).nextMarks (run.inputs 0) [] = [] := by
      rw [IfStage.nextMarks, IfStage.granted, noGrant, Bool.and_false]
      split <;> rfl
    rw [noMarks] at aligned
    exact aligned
  · rw [tracker, noPending]
    exact
      { staleInside := Nat.le_refl 0
        liveQueue := rfl
        marks := rfl
        noStale := fun _ => rfl
        discarding := rfl
        marking := rfl
        nextAddr := (BitVec.sub_add_cancel run.bootAddr 4#32).symm }

end FetchRun

/-- The instruction in ID is the one that the memory holds at its address. -/
def IfStage.HoldsInstr (memory : Word → Word) (st : IfStage) : Prop :=
  st.instrValueId = true →
    st.instrPayloadId = (compressDecoder (instrAt memory st.pcId)).1 ∧
      st.compressInstrId = !isLongAt memory st.pcId

namespace FetchRun

/-- What the stage has fetched and is fetching in a cycle. -/
structure Fetching (run : FetchRun) (memory : Word → Word) (cycle : Nat) : Prop where
  marked : ∃ marks, run.Aligned cycle marks ∧ (run.state cycle).OneMark marks
  delivers : 0 < cycle → run.Delivers memory cycle
  holds : (run.state cycle).HoldsInstr memory

/-- A redirect finds the stage settled, goes to an even address and empties ID, and a stalled stage
passes on nothing. -/
structure Redirectable (run : FetchRun) (cycle : Nat) : Prop where
  booted : run.redirects cycle = true → 0 < cycle
  settled : run.redirects cycle = true → (run.state cycle).fifoFlush = false
  even : run.redirects cycle = true → IsEven (run.inputs cycle).setPc
  empties : run.redirects cycle = true → (run.state (cycle + 1)).instrValueId = false
  stalled : (run.inputs cycle).stallF = true → (run.inputs cycle).readyId = false

variable {run : FetchRun} {memory : Word → Word} {cycle : Nat}

theorem fetching_zero (run : FetchRun) (memory : Word → Word) : run.Fetching memory 0 where
  marked := ⟨[], ⟨IfStage.commandQueue_reset run.bootAddr, rfl⟩,
    IfStage.oneMark_reset run.bootAddr⟩
  delivers := fun later => absurd later (Nat.lt_irrefl 0)
  holds := fun valid => Bool.noConfusion valid

section Fetching

variable (serves : run.Serves memory) (aligned : run.bootAddr.toNat % 4 = 0)
  (fetching : run.Fetching memory cycle) (redirectable : run.Redirectable cycle)

include serves aligned fetching redirectable

theorem Fetching.delivers_succ : run.Delivers memory (cycle + 1) := by
  cases redirects : run.redirects cycle with
  | true =>
      obtain ⟨marks, queue, one⟩ := fetching.marked
      exact delivers_of_redirect serves queue one
        (isBoot_of_later run (redirectable.booted redirects)) redirects
        (redirectable.settled redirects) (redirectable.even redirects)
  | false =>
      rcases Nat.eq_zero_or_pos cycle with rfl | later
      · exact delivers_one serves aligned redirects
      · exact (fetching.delivers later).next serves redirects

omit aligned in
theorem Fetching.holds_succ : (run.state (cycle + 1)).HoldsInstr memory := by
  intro valid
  cases redirects : run.redirects cycle with
  | true =>
      rw [redirectable.empties redirects] at valid
      cases valid
  | false =>
      rw [run.state_succ] at valid ⊢
      cases flush : (run.inputs cycle).flushF with
      | true => simp [IfStage.next, IfStage.nextIfId, flush] at valid
      | false =>
          cases ready : IfStage.readyIf (run.inputs cycle) with
          | true =>
              rw [IfStage.instrValueId_next run.pmpEnable flush ready] at valid
              have latched := @IfStage.entry_next (run.state cycle) _ run.pmpEnable flush ready
              simp only [IfStage.entry, IfStage.Entry.mk.injEq] at latched
              obtain ⟨pcId, payload, compress⟩ := latched
              rw [pcId, payload, compress]
              rcases Nat.eq_zero_or_pos cycle with rfl | later
              · rw [show (run.state 0).insnValue (run.inputs 0) = false from
                  noValue_zero serves] at valid
                cases valid
              · obtain ⟨base, index, reads, stored, streaming⟩ := fetching.delivers later
                exact streaming.parses serves redirects ready valid
          | false =>
              have held : (run.inputs cycle).readyId = false := by
                rw [IfStage.readyIf, Bool.and_eq_false_iff, Bool.not_eq_false'] at ready
                exact ready.elim id redirectable.stalled
              simp only [IfStage.next, IfStage.nextIfId, flush, ready, held, Bool.false_eq_true,
                if_false] at valid ⊢
              exact fetching.holds valid

theorem Fetching.succ : run.Fetching memory (cycle + 1) where
  marked := by
    obtain ⟨marks, queue, one⟩ := fetching.marked
    have nonempty := queue.nonempty serves.queued
    exact ⟨_, queue.step (serves.noDenial cycle) serves.queued,
      one.next run.pmpEnable (queue.queue.answersMarks nonempty) nonempty
        (serves.inOrder.requested cycle) redirectable.settled⟩
  delivers := fun _ => fetching.delivers_succ serves aligned redirectable
  holds := fetching.holds_succ serves redirectable

end Fetching

end FetchRun

end RiscvCore
