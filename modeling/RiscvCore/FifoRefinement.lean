import RiscvCore.FifoQueue
import RiscvCore.QueueHistory
import RiscvCore.SynchronousRun

/-!
# The prefetch FIFO refines a queue

Runs of `prefetch_fifo` from reset that write no word while the shift register is full.  The words
read since the last clear are the first ones written since then, and the flags tell how many are
left.
-/

namespace RiscvCore

namespace PrefetchFifo

open QueueHistory (since Conserves)

variable {depth dataWidth : Nat}

/-- The word written in a cycle. -/
def written (port : Input dataWidth) : List (BitVec dataWidth) :=
  if port.fifoWvalid then [port.fifoWdata] else []

/-- The word consumed in a cycle. -/
def consumed (fifo : SyncFifo depth dataWidth) (port : Input dataWidth) :
    List (BitVec dataWidth) :=
  if port.fifoReady && fifoValid fifo port.fifoWvalid then
    [fifoRdata fifo port.fifoReady port.fifoWdata]
  else []

section Run

variable (depth) (inputs : Nat → Input dataWidth)

def state : Nat → SyncFifo depth dataWidth := SynchronousRun.run next SyncFifo.reset inputs

def writtenSince : Nat → List (BitVec dataWidth) :=
  since (fun cycle => (inputs cycle).fifoClear) fun cycle => written (inputs cycle)

def consumedSince : Nat → List (BitVec dataWidth) :=
  since (fun cycle => (inputs cycle).fifoClear) fun cycle =>
    consumed (state depth inputs cycle) (inputs cycle)

/-- The number of words that were written since the last clear and not consumed. -/
def occupancy (cycle : Nat) : Nat :=
  (writtenSince inputs cycle).length - (consumedSince depth inputs cycle).length

/-- The FIFO at a cycle as a queue of the words written since the last clear. -/
structure RefinesQueue (cycle : Nat) : Prop where
  inOrder : consumedSince depth inputs cycle ++
      consumed (state depth inputs cycle) (inputs cycle) <+:
    writtenSince inputs cycle ++ written (inputs cycle)
  valid : fifoValid (state depth inputs cycle) (inputs cycle).fifoWvalid = true ↔
    (consumedSince depth inputs cycle).length < (writtenSince inputs cycle).length ∨
      (inputs cycle).fifoWvalid = true
  full : (state depth inputs cycle).fifoFull = true ↔ occupancy depth inputs cycle = depth
  almostFull : (state depth inputs cycle).fifoAlmostFull = true ↔
    depth - 1 ≤ occupancy depth inputs cycle

/-- No word is written while the shift register is full. -/
def WritesWithRoom : Prop :=
  ∀ cycle, (inputs cycle).fifoWvalid = true → (state depth inputs cycle).fifoFull = false

/-- The words behind the bypass. -/
def contents : Nat → List (BitVec dataWidth)
  | 0 => []
  | cycle + 1 => nextQueue (contents cycle) (inputs cycle)

end Run

variable {fifo : SyncFifo depth dataWidth} {queue : List (BitVec dataWidth)}
  {port : Input dataWidth}

/-- What is consumed is the oldest word, the written one included. -/
theorem consumed_eq (holds : fifo.Holds queue) :
    consumed fifo port = if port.fifoReady then (queue ++ written port).take 1 else [] := by
  rw [consumed]
  cases ready : port.fifoReady with
  | false => rfl
  | true =>
      rw [Bool.true_and, if_pos rfl]
      cases readable : fifoValid fifo port.fifoWvalid with
      | true =>
          have oldest := @holds_fifoRdata _ _ _ _ holds port.fifoWdata _ readable
          rw [if_pos rfl, List.take_one]
          exact congrArg Option.toList oldest
      | false =>
          rw [holds_fifoValid holds, Bool.or_eq_false_iff, Bool.not_eq_false',
            List.isEmpty_iff] at readable
          rw [if_neg Bool.false_ne_true, written, readable.1, readable.2]
          rfl

theorem consumed_isPrefix (holds : fifo.Holds queue) :
    consumed fifo port <+: queue ++ written port := by
  rw [consumed_eq holds]
  split
  · exact List.take_prefix 1 _
  · exact List.nil_prefix

/-- A cycle without a clear conserves the words. -/
theorem conserved (holds : fifo.Holds queue) (noClear : port.fifoClear = false) :
    queue ++ written port = consumed fifo port ++ nextQueue queue port := by
  rw [consumed_eq holds, nextQueue, noClear, if_neg Bool.false_ne_true]
  change _ = _ ++ (if port.fifoReady then (queue ++ written port).tail else queue ++ written port)
  split
  · rw [← List.drop_one, List.take_append_drop]
  · rfl

section Runs

variable {inputs : Nat → Input dataWidth} (room : WritesWithRoom depth inputs)
include room

theorem holds_contents (cycle : Nat) :
    (state depth inputs cycle).Holds (contents inputs cycle) := by
  induction cycle with
  | zero => exact SyncFifo.holds_reset
  | succ cycle induction =>
      apply holds_next induction
      intro writes
      have notFull := room cycle writes
      rw [induction.fifoFull, decide_eq_false_iff_not] at notFull
      have fits := induction.fits
      omega

theorem conserves_contents :
    Conserves (fun cycle => (inputs cycle).fifoClear) (fun cycle => written (inputs cycle))
      (fun cycle => consumed (state depth inputs cycle) (inputs cycle)) (contents inputs) where
  initial := rfl
  cleared := fun _ clears => if_pos clears
  conserved := fun cycle noClear => conserved (holds_contents room cycle) noClear

theorem length_contents (cycle : Nat) :
    (consumedSince depth inputs cycle).length + (contents inputs cycle).length =
      (writtenSince inputs cycle).length :=
  (conserves_contents room).length_since cycle

theorem occupancy_eq (cycle : Nat) :
    occupancy depth inputs cycle = (contents inputs cycle).length := by
  have count := length_contents room cycle
  rw [occupancy]
  omega

theorem refinesQueue_of_writesWithRoom (cycle : Nat) : RefinesQueue depth inputs cycle := by
  have holds := holds_contents room cycle
  have count := length_contents room cycle
  constructor
  · exact (conserves_contents room).isPrefix (consumed_isPrefix holds)
  · rw [holds_fifoValid holds, Bool.or_eq_true, Bool.not_eq_true', List.isEmpty_eq_false_iff,
      ← List.length_pos_iff]
    constructor
    · rintro (some | writes)
      · exact .inl (by omega)
      · exact .inr writes
    · rintro (some | writes)
      · exact .inl (by omega)
      · exact .inr writes
  · rw [holds.fifoFull, decide_eq_true_iff, occupancy_eq room]
  · rw [holds.fifoAlmostFull, decide_eq_true_iff, occupancy_eq room]
    omega

end Runs

/-- Words are written in the first three cycles and taken from the second one on. -/
def threeWords (cycle : Nat) : Input 8 where
  fifoClear := false
  fifoReady := decide (0 < cycle)
  fifoWvalid := decide (cycle < 3)
  fifoWdata := BitVec.ofNat 8 cycle

theorem refinesQueue_threeWords : RefinesQueue 2 threeWords 3 := by
  apply refinesQueue_of_writesWithRoom
  intro cycle writes
  have room : ∀ cycle < 3, (state 2 threeWords cycle).fifoFull = false := by decide
  exact room cycle (of_decide_eq_true writes)

end PrefetchFifo

end RiscvCore
