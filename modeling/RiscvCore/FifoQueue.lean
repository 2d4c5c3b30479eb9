import RiscvCore.SyncFifo

/-!
# The synchronous FIFO as a queue

The valid bits of the shift register form a prefix of the slots, and the slots of that prefix
hold the queued words, oldest first.  A cycle that pops only a non-empty FIFO and pushes only
into one that is not full is a queue operation.
-/

namespace RiscvCore

namespace SyncFifo

variable {depth dataWidth : Nat}

/-- The FIFO holds the words of a queue: the first slots are valid and carry them in order. -/
structure Holds (fifo : SyncFifo depth dataWidth) (queue : List (BitVec dataWidth)) : Prop where
  fits : queue.length ≤ depth
  valid : ∀ slot, fifo.validAt slot = decide (slot < queue.length)
  data : ∀ slot word, queue[slot]? = some word → fifo.dataAt slot = word

theorem holds_reset : (reset : SyncFifo depth dataWidth).Holds [] where
  fits := Nat.zero_le _
  valid := fun slot => by
    simp only [validAt, reset]
    split <;> rfl
  data := fun slot word inside => by cases inside

variable {fifo : SyncFifo depth dataWidth} {queue : List (BitVec dataWidth)}

theorem Holds.congr {other : List (BitVec dataWidth)} (holds : fifo.Holds queue)
    (same : queue = other) : fifo.Holds other := same ▸ holds

theorem Holds.rdDataValid (holds : fifo.Holds queue) :
    fifo.rdDataValid = !queue.isEmpty := by
  rw [SyncFifo.rdDataValid, holds.valid]
  cases queue <;> simp

theorem Holds.rdData (holds : fifo.Holds queue) (nonempty : queue ≠ []) :
    fifo.rdData = queue.head nonempty := by
  cases queue with
  | nil => exact absurd rfl nonempty
  | cons first rest => exact holds.data 0 first rfl

theorem Holds.fifoFull (holds : fifo.Holds queue) :
    fifo.fifoFull = decide (queue.length = depth) := by
  have fits := holds.fits
  rw [Bool.eq_iff_iff, SyncFifo.fifoFull, List.all_eq_true, decide_eq_true_iff]
  constructor
  · intro all
    rcases Nat.lt_or_ge queue.length depth with room | none
    · have last := all queue.length (List.mem_range.mpr room)
      rw [holds.valid] at last
      simp at last
    · omega
  · intro full slot inside
    rw [holds.valid, decide_eq_true_iff, full]
    exact List.mem_range.mp inside

theorem Holds.fifoAlmostFull (holds : fifo.Holds queue) :
    fifo.fifoAlmostFull = decide (depth ≤ queue.length + 1) := by
  rw [Bool.eq_iff_iff, SyncFifo.fifoAlmostFull, List.all_eq_true, decide_eq_true_iff]
  constructor
  · intro all
    rcases Nat.lt_or_ge queue.length (depth - 1) with room | none
    · have last := all queue.length (List.mem_range.mpr room)
      rw [holds.valid] at last
      simp at last
    · omega
  · intro full slot inside
    have isInside := List.mem_range.mp inside
    rw [holds.valid, decide_eq_true_iff]
    omega

theorem Holds.fifoEmpty (holds : fifo.Holds queue) : fifo.fifoEmpty = queue.isEmpty := by
  have fits := holds.fits
  rw [Bool.eq_iff_iff, SyncFifo.fifoEmpty, Bool.not_eq_true', List.any_eq_false,
    List.isEmpty_iff]
  constructor
  · intro none
    cases queue with
    | nil => rfl
    | cons word rest =>
        have first := none 0 (List.mem_range.mpr (by simp at fits; omega))
        rw [holds.valid] at first
        simp at first
  · rintro rfl slot -
    simp [holds.valid]

/-- The number of valid slots. -/
def entries (fifo : SyncFifo depth dataWidth) : Nat :=
  (List.range depth).countP fun slot => fifo.validAt slot

theorem countP_range_lt (bound length : Nat) :
    (List.range bound).countP (fun slot => decide (slot < length)) = min bound length := by
  induction bound with
  | zero => simp
  | succ bound induction =>
      rw [List.range_succ, List.countP_append, induction, List.countP_singleton]
      split <;> rename_i inside <;> simp at inside <;> omega

theorem Holds.entries (holds : fifo.Holds queue) : fifo.entries = queue.length := by
  have fits := holds.fits
  rw [SyncFifo.entries, funext holds.valid, countP_range_lt]
  omega

/-- What holds of the words of all valid slots, a popped first one apart, holds of the words that
stay. -/
theorem Holds.forall_remaining (holds : fifo.Holds queue) {popped : Bool}
    (property : BitVec dataWidth → Prop)
    (shown : ∀ slot, fifo.validAt slot = true →
      (slot = 0 ∧ popped = true) ∨ property (fifo.dataAt slot)) :
    ∀ word ∈ (if popped then queue.tail else queue), property word := by
  have stays (slot : Nat) (word : BitVec dataWidth) (isWord : queue[slot]? = some word)
      (notPopped : ¬ (slot = 0 ∧ popped = true)) : property word := by
    have isValid : fifo.validAt slot = true := by
      rw [holds.valid, decide_eq_true (List.getElem?_eq_some_iff.mp isWord).1]
    rw [← holds.data slot word isWord]
    exact (shown slot isValid).resolve_left notPopped
  intro word inside
  cases popped with
  | false =>
      obtain ⟨slot, isWord⟩ := List.mem_iff_getElem?.mp inside
      exact stays slot word isWord (by simp)
  | true =>
      rw [if_pos rfl] at inside
      obtain ⟨slot, isWord⟩ := List.mem_iff_getElem?.mp inside
      rw [List.getElem?_tail] at isWord
      exact stays (slot + 1) word isWord (by omega)

theorem Holds.wrPointer (holds : fifo.Holds queue) (slot : Nat) :
    fifo.wrPointer slot = decide (slot = queue.length) := by
  rw [SyncFifo.wrPointer]
  split
  · rename_i zero
    rw [holds.valid, Bool.eq_iff_iff]
    simp only [zero, Bool.not_eq_true', decide_eq_false_iff_not, decide_eq_true_iff]
    omega
  · rw [holds.valid, holds.valid, Bool.eq_iff_iff]
    simp only [Bool.and_eq_true, Bool.not_eq_true', decide_eq_false_iff_not, decide_eq_true_iff]
    omega

theorem Holds.pushedValid (holds : fifo.Holds queue) (push : Bool) (slot : Nat) :
    fifo.pushedValid push slot = decide (slot < queue.length + push.toNat) := by
  rw [SyncFifo.pushedValid]
  split
  · rename_i zero
    rw [holds.valid]
    cases push <;> simp [zero]
  · rw [holds.wrPointer, holds.valid, Bool.eq_iff_iff]
    cases push
    · simp
    · simp only [Bool.true_and, Bool.or_eq_true, decide_eq_true_iff, Bool.toNat_true]
      omega

/-- The queue after a cycle that does not clear. -/
def nextQueue (queue : List (BitVec dataWidth)) (port : Input dataWidth) :
    List (BitVec dataWidth) :=
  (if port.rdEn then queue.tail else queue) ++ (if port.wrEn then [port.wrData] else [])

theorem validAt_next (fifo : SyncFifo depth dataWidth) (port : Input dataWidth) {slot : Nat}
    (inside : slot < depth) :
    (fifo.next port).validAt slot =
      (fifo.popedValid port.wrEn port.rdEn slot && !port.fifoClear) := by
  rw [validAt, dif_pos inside]
  rfl

theorem dataAt_next (fifo : SyncFifo depth dataWidth) (port : Input dataWidth) {slot : Nat}
    (inside : slot < depth) :
    (fifo.next port).dataAt slot =
      if fifo.entryEn port.wrEn port.rdEn slot then fifo.fifoDataD port.wrData slot
      else fifo.dataAt slot := by
  rw [dataAt, dif_pos inside, dataAt, dif_pos inside]
  rfl

theorem Holds.popedValid (holds : fifo.Holds queue) {push pop : Bool} {slot : Nat}
    (inside : slot < depth) (pops : pop = true → queue ≠ [])
    (room : push = true → queue.length < depth) :
    fifo.popedValid push pop slot =
      decide (slot + pop.toNat < queue.length + push.toNat) := by
  have fits := holds.fits
  rw [SyncFifo.popedValid, holds.pushedValid, holds.pushedValid]
  cases pop
  · simp
  · split
    · simp
    · cases push
      · simp
        omega
      · have := room rfl
        simp
        omega

/-- A slot that changes takes the next older word or, at the end of the queue, the pushed one. -/
theorem Holds.fifoDataD (holds : fifo.Holds queue) (word : BitVec dataWidth) {slot : Nat}
    (inside : slot < depth) :
    fifo.fifoDataD word slot =
      if slot + 1 < queue.length then fifo.dataAt (slot + 1) else word := by
  have fits := holds.fits
  rw [SyncFifo.fifoDataD, holds.valid]
  by_cases next : slot + 1 < depth
  · simp [next]
  · have atEnd : ¬ slot + 1 < queue.length := by omega
    simp [next, atEnd]

theorem Holds.entryEn_pop (holds : fifo.Holds queue) {push : Bool} {slot : Nat}
    (inside : slot < depth) (room : push = true → queue.length < depth) :
    fifo.entryEn push true slot = decide (slot + 1 < queue.length + push.toNat) := by
  have fits := holds.fits
  rw [SyncFifo.entryEn, holds.pushedValid]
  split
  · simp
  · cases push
    · simp
      omega
    · have := room rfl
      simp
      omega

theorem Holds.entryEn_keep (holds : fifo.Holds queue) {push : Bool} {slot : Nat} :
    fifo.entryEn push false slot = (decide (slot = queue.length) && push) := by
  rw [SyncFifo.entryEn, holds.wrPointer]
  split <;> simp

/-- A cycle is a queue operation if it pops only a non-empty queue and pushes only into one that
is not full. -/
theorem Holds.next (holds : fifo.Holds queue) {port : Input dataWidth}
    (noClear : port.fifoClear = false) (pops : port.rdEn = true → queue ≠ [])
    (room : port.wrEn = true → queue.length < depth) :
    (fifo.next port).Holds (nextQueue queue port) := by
  have fits := holds.fits
  have length : (nextQueue queue port).length + port.rdEn.toNat =
      queue.length + port.wrEn.toNat := by
    cases pop : port.rdEn
    · cases push : port.wrEn <;> simp [nextQueue, pop, push]
    · have positive := List.length_pos_iff.mpr (pops pop)
      cases push : port.wrEn <;> simp [nextQueue, pop, push] <;> omega
  have fitsNext : (nextQueue queue port).length ≤ depth := by
    cases push : port.wrEn
    · rw [push] at length
      simp only [Bool.toNat_false] at length
      omega
    · have := room push
      rw [push] at length
      simp only [Bool.toNat_true] at length
      omega
  refine ⟨fitsNext, fun slot => ?_, fun slot word isWord => ?_⟩
  · by_cases inside : slot < depth
    · rw [validAt_next fifo port inside, holds.popedValid inside pops room, noClear,
        Bool.not_false, Bool.and_true, ← length]
      simp only [Nat.add_lt_add_iff_right]
    · rw [validAt, dif_neg inside, eq_comm, decide_eq_false_iff_not]
      omega
  · have isInside : slot < (nextQueue queue port).length :=
      (List.getElem?_eq_some_iff.mp isWord).1
    have inside : slot < depth := by omega
    rw [dataAt_next fifo port inside, holds.fifoDataD port.wrData inside]
    cases pop : port.rdEn with
    | false =>
        rw [holds.entryEn_keep]
        simp only [nextQueue, pop, Bool.false_eq_true, if_false] at isWord
        by_cases kept : slot < queue.length
        · rw [List.getElem?_append_left kept] at isWord
          have notEnd : ¬ slot = queue.length := by omega
          simp only [notEnd, decide_false, Bool.false_and, Bool.false_eq_true, if_false]
          exact holds.data slot word isWord
        · rw [List.getElem?_append_right (by omega)] at isWord
          cases push : port.wrEn with
          | false => simp [push] at isWord
          | true =>
              have atEnd : slot = queue.length := by
                rw [push, pop] at length
                simp only [Bool.toNat_true, Bool.toNat_false] at length
                omega
              have notInside : ¬ slot + 1 < queue.length := by omega
              simp only [atEnd, push, Nat.sub_self, if_true, List.getElem?_cons_zero,
                Option.some.injEq] at isWord
              rw [if_neg notInside]
              simpa [atEnd] using isWord
    | true =>
        rw [holds.entryEn_pop inside room]
        have nonempty := pops pop
        have enters : slot + 1 < queue.length + port.wrEn.toNat := by
          rw [pop] at length
          simp only [Bool.toNat_true] at length
          omega
        simp only [enters, decide_true, if_true]
        simp only [nextQueue, pop, if_true] at isWord
        by_cases shifted : slot + 1 < queue.length
        · have inTail : slot < queue.tail.length := by
            rw [List.length_tail]
            omega
          rw [List.getElem?_append_left inTail, List.getElem?_tail] at isWord
          rw [if_pos shifted]
          exact holds.data (slot + 1) word isWord
        · have pastTail : queue.tail.length ≤ slot := by
            rw [List.length_tail]
            omega
          rw [List.getElem?_append_right pastTail] at isWord
          rw [if_neg shifted]
          cases push : port.wrEn with
          | false => simp [push] at isWord
          | true =>
              have atEnd : slot - queue.tail.length = 0 := by
                rw [push] at enters
                simp only [Bool.toNat_true] at enters
                rw [List.length_tail]
                omega
              rw [atEnd] at isWord
              simpa [push] using isWord

/-- The oldest slot keeps its word when the FIFO runs empty. -/
theorem Holds.dataAt_zero_next (holds : fifo.Holds queue) {port : Input dataWidth}
    (empties : nextQueue queue port = []) : (fifo.next port).dataAt 0 = fifo.dataAt 0 := by
  rw [nextQueue, List.append_eq_nil_iff] at empties
  obtain ⟨remaining, pushed⟩ := empties
  have noPush : port.wrEn = false := by
    cases push : port.wrEn with
    | false => rfl
    | true => simp [push] at pushed
  by_cases inside : 0 < depth
  · rw [dataAt_next fifo port inside, noPush]
    cases pop : port.rdEn with
    | false => simp [holds.entryEn_keep]
    | true =>
        have short : queue.length ≤ 1 := by
          have length := congrArg List.length remaining
          rw [pop, if_pos rfl, List.length_tail, List.length_nil] at length
          omega
        rw [holds.entryEn_pop inside (by simp)]
        simp only [Bool.toNat_false]
        rw [if_neg (by simpa using short)]
  · rw [dataAt, dataAt, dif_neg inside, dif_neg inside]

theorem holds_next_clear {port : Input dataWidth} (clear : port.fifoClear = true) :
    (fifo.next port).Holds [] where
  fits := Nat.zero_le _
  valid := fun slot => by
    simp only [validAt, next, clear, Bool.not_true, Bool.and_false]
    split <;> rfl
  data := fun slot word inside => by cases inside

end SyncFifo

namespace PrefetchFifo

variable {depth dataWidth : Nat} {fifo : SyncFifo depth dataWidth}
  {queue : List (BitVec dataWidth)}

/-- The words behind the bypass after a cycle: the written word is queued, and the oldest one is
read. -/
def nextQueue (queue : List (BitVec dataWidth)) (port : Input dataWidth) :
    List (BitVec dataWidth) :=
  if port.fifoClear then []
  else
    let written := queue ++ (if port.fifoWvalid then [port.fifoWdata] else [])
    if port.fifoReady then written.tail else written

/-- Nothing is read where there is nothing to read. -/
theorem nextQueue_of_noClear (queue : List (BitVec dataWidth)) {port : Input dataWidth}
    (noClear : port.fifoClear = false) :
    nextQueue queue port =
      if port.fifoReady && (!queue.isEmpty || port.fifoWvalid) then
        (queue ++ (if port.fifoWvalid then [port.fifoWdata] else [])).tail
      else queue ++ (if port.fifoWvalid then [port.fifoWdata] else []) := by
  rw [nextQueue, noClear, if_neg Bool.false_ne_true]
  cases port.fifoReady with
  | false => rfl
  | true =>
      cases port.fifoWvalid with
      | true => simp
      | false => cases queue <;> rfl

theorem holds_fifoValid (holds : fifo.Holds queue) (fifoWvalid : Bool) :
    fifoValid fifo fifoWvalid = (!queue.isEmpty || fifoWvalid) := by
  rw [fifoValid, holds.rdDataValid, holds.fifoEmpty]
  cases queue <;> rfl

/-- What is read is the oldest word, the written one if there is no other. -/
theorem holds_fifoRdata (holds : fifo.Holds queue) {fifoWdata : BitVec dataWidth}
    {fifoWvalid : Bool} (readable : fifoValid fifo fifoWvalid = true) :
    some (fifoRdata fifo true fifoWdata) =
      (queue ++ (if fifoWvalid then [fifoWdata] else [])).head? := by
  rw [holds_fifoValid holds] at readable
  rw [fifoRdata, fifoPop, holds.rdDataValid]
  cases queue with
  | nil =>
      have written : fifoWvalid = true := readable
      rw [written]
      rfl
  | cons word rest =>
      rw [holds.rdData (List.cons_ne_nil word rest)]
      rfl

/-- A cycle is a queue operation if it writes only while there is room. -/
theorem holds_next (holds : fifo.Holds queue) {port : Input dataWidth}
    (room : port.fifoWvalid = true → queue.length < depth) :
    (next fifo port).Holds (nextQueue queue port) := by
  rw [nextQueue]
  cases clear : port.fifoClear with
  | true =>
      rw [if_pos rfl]
      exact SyncFifo.holds_next_clear clear
  | false =>
      rw [if_neg Bool.false_ne_true]
      have valid := holds.rdDataValid
      have pops : fifoPop fifo port.fifoReady = true → queue ≠ [] := by
        rw [fifoPop, valid]
        rintro pop rfl
        simp at pop
      have pushes : fifoPush fifo port.fifoReady port.fifoWvalid = true →
          queue.length < depth := by
        rw [fifoPush, Bool.and_eq_true]
        exact fun push => room push.1
      have stepped : (next fifo port).Holds (SyncFifo.nextQueue queue
          ⟨port.fifoClear, fifoPush fifo port.fifoReady port.fifoWvalid, port.fifoWdata,
            fifoPop fifo port.fifoReady⟩) := holds.next clear pops pushes
      refine stepped.congr ?_
      simp only [SyncFifo.nextQueue, fifoPush, fifoPop, valid]
      cases queue <;> cases port.fifoReady <;> cases port.fifoWvalid <;> simp

end PrefetchFifo

end RiscvCore
