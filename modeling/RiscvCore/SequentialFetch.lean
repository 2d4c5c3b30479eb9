import RiscvCore.FetchAlignment
import RiscvCore.TrapSteps

/-!
# Sequential fetch

While ID holds an instruction, `pc_if` is the address behind it.  A redirect ends this unless it
empties ID, and the one of a wake-up does not: it lets the next word of the prefetch FIFO through.
No parcel abbreviates `wfi` or `fence.i`, so that the address behind them is four bytes on.
-/

namespace RiscvCore

namespace Instr

/-- The instructions that wait for their flush and then go on behind themselves. -/
def pauses : Instr → Bool
  | wfi | fenceI _ _ _ => true
  | _ => false

theorem controls_of_not_pauses {instr : Instr} (goesOn : instr.pauses = false) :
    instr.controls.wfiEn = false ∧ instr.controls.fenceEn = false := by
  cases instr with
  | wfi | fenceI => cases goesOn
  | arith instr =>
      cases instr with
      | opImm op | reg op => cases op <;> exact ⟨rfl, rfl⟩
      | _ => exact ⟨rfl, rfl⟩
  | _ => exact ⟨rfl, rfl⟩

end Instr

namespace Parcel

variable {parcel : Parcel} {expanded : Instr}

theorem not_pauses_row1Alu (found : parcel.row1Alu = some expanded) :
    expanded.pauses = false := by
  unfold row1Alu at found
  split at found
  case h_4 =>
    split at found <;> cases found <;> rfl
  all_goals
    cases found
    rfl

theorem not_pauses_row2Jump : parcel.row2Jump.pauses = false := by
  unfold row2Jump
  repeat' split
  all_goals rfl

theorem not_pauses_row (found : parcel.row = some expanded) : expanded.pauses = false := by
  unfold row at found
  split at found
  · unfold row0 at found
    split at found <;> cases found <;> rfl
  · unfold row1 at found
    split at found
    case h_4 =>
      split at found <;> cases found <;> rfl
    case h_5 => exact not_pauses_row1Alu found
    all_goals
      cases found
      rfl
  · unfold row2 at found
    split at found
    case h_3 =>
      cases found
      exact not_pauses_row2Jump
    all_goals cases found <;> rfl
  · cases found

end Parcel

/-- What a parcel is expanded to does not wait for a flush in order to go on. -/
theorem decoder_compressDecoder_of_compressed {instr : Word}
    (compressed : (lowHalf instr).quadrant ≠ 0b11#2) :
    (decoder (compressDecoder instr).1 true).wfiEn = false ∧
      (decoder (compressDecoder instr).1 true).fenceEn = false := by
  cases found : (lowHalf instr).row with
  | none =>
      have zeroWord : (compressDecoder instr).1 = 0#32 :=
        congrArg Prod.fst (compressDecoder_noRow compressed found)
      rw [zeroWord]
      exact ⟨rfl, rfl⟩
  | some expanded =>
      rw [compressDecoder_row found, Instr.decoder_encode]
      exact Instr.controls_of_not_pauses (Parcel.not_pauses_row found)

namespace IfStage

variable {st : IfStage} {port : Input}

/-- The hold register is full only in front of an upper half, and only after the first cycle. -/
structure HoldInPlace (st : IfStage) : Prop where
  booted : st.holdRdataValue = true → st.isBoot = true
  upper : st.holdRdataValue = true → st.pcUnalign = true

theorem HoldInPlace.fetched (held : st.HoldInPlace) (fetches : st.Fetches port)
    (full : (st.nextHold port).2.1 = true) : (st.nextPc port).getLsbD 1 = true := by
  rw [fetches.nextHold] at full
  rw [fetches.nextPc]
  cases unaligned : st.pcUnalign with
  | false =>
      have empty : st.holdRdataValue = false := by
        cases isFull : st.holdRdataValue with
        | false => rfl
        | true =>
            rw [held.upper isFull] at unaligned
            cases unaligned
      have notShort : st.holdDataIsCompress = false := by
        rw [holdDataIsCompress, empty, Bool.and_false]
      have value : st.insnValue port = st.fifoValid port := by
        rw [insnValue, unaligned]
        rfl
      have compress : st.insnCompressIf port = st.fifoDataIsCompress port := by
        rw [insnCompressIf, notShort, Bool.false_or]
      rw [value, Bool.or_self] at full
      rw [value, compress]
      cases valid : st.fifoValid port with
      | false =>
          rw [valid, if_neg Bool.false_ne_true, empty] at full
          cases full
      | true =>
          rw [valid, if_pos rfl, holdEn, fetches.fetchEn, unaligned, notShort] at full
          have short : st.fifoDataIsCompress port = true := by simpa using full
          rw [if_pos rfl, short, if_pos rfl, getLsbD_one_add_two]
          exact (congrArg (!·) unaligned)
  | true =>
      have odd : st.pcIf.getLsbD 1 = true := unaligned
      cases short : st.holdDataIsCompress with
      | true =>
          have value : st.insnValue port = true := by
            rw [insnValue, unaligned, short]
            rfl
          rw [value, Bool.true_or, if_pos rfl, holdEn, short, Bool.not_true, Bool.and_false] at full
          cases full
      | false =>
          have compress : st.insnCompressIf port = false := by
            rw [insnCompressIf, fifoDataIsCompress, short, unaligned, Bool.not_true, Bool.and_false,
              Bool.or_self]
          rw [compress, if_neg Bool.false_ne_true]
          split
          · rw [getLsbD_one_add_four, odd]
          · exact odd

theorem HoldInPlace.next (held : st.HoldInPlace) (pmpEnable : Bool) :
    (st.next pmpEnable port).HoldInPlace := by
  refine ⟨fun _ => rfl, fun full => ?_⟩
  have holds : (st.nextHold port).2.1 = true := full
  change (if readyIf port || port.setPcValid then st.nextPc port else st.pcIf).getLsbD 1 = true
  cases redirect : port.setPcValid with
  | true =>
      rw [nextHold, fifoClear, updisconNew, redirect, Bool.or_true, if_pos rfl] at holds
      cases holds
  | false =>
      rw [Bool.or_false]
      by_cases fetches : st.isBoot = true ∧ readyIf port = true
      · rw [fetches.2, if_pos rfl]
        exact held.fetched ⟨fetches.1, fetches.2, redirect⟩ holds
      · have noFetch : st.fetchEn port = false := by
          rw [fetchEn, redirect, Bool.false_or, ← Bool.not_eq_true, Bool.and_eq_true]
          exact fetches
        rw [nextHold, fifoClear, updisconNew, predictTakenIf, redirect, noFetch, Bool.and_false,
          if_neg Bool.false_ne_true, if_neg (by simp)] at holds
        have notReady : readyIf port = false := by
          cases ready : readyIf port with
          | false => rfl
          | true => exact (fetches ⟨held.booted holds, ready⟩).elim
        rw [notReady, if_neg Bool.false_ne_true]
        exact held.upper holds

/-- A short instruction is latched as what its parcel is expanded to. -/
theorem HoldInPlace.compressed (held : st.HoldInPlace) (short : st.insnCompressIf port = true) :
    (lowHalf (st.insnPayload port)).quadrant ≠ 0b11#2 := by
  have quadrant : (lowHalf (st.insnPayload port)).quadrant =
      (st.insnPayload port).extractLsb' 0 2 :=
    BitVec.extractLsb'_extractLsb'_of_le (by decide)
  rw [quadrant, insnPayload]
  rw [insnCompressIf, Bool.or_eq_true] at short
  rcases short with inHold | inFifo
  · obtain ⟨notLong, full⟩ := Bool.and_eq_true_iff.mp inHold
    rw [held.upper full, if_pos rfl, BitVec.extractLsb'_append_eq_of_add_le (by decide)]
    exact bne_iff_ne.mp notLong
  · rw [fifoDataIsCompress, Bool.and_eq_true, Bool.and_eq_true, Bool.not_eq_true'] at inFifo
    rw [inFifo.2, if_neg Bool.false_ne_true, BitVec.extractLsb'_extractLsb'_of_le (by decide)]
    exact bne_iff_ne.mp inFifo.1.1

/-- The fetch stage is behind the instruction in ID, which has the length it was fetched with. -/
structure Follows (st : IfStage) : Prop where
  hold : st.HoldInPlace
  pcIf : st.instrValueId = true →
    st.pcIf = st.pcId + if st.compressInstrId then 2#32 else 4#32
  short : st.instrValueId = true → st.compressInstrId = true →
    (decoder st.instrPayloadId true).wfiEn = false ∧
      (decoder st.instrPayloadId true).fenceEn = false

theorem follows_reset (bootAddr : Word) : (reset bootAddr).Follows where
  hold := ⟨Bool.false_ne_true.elim, Bool.false_ne_true.elim⟩
  pcIf := Bool.false_ne_true.elim
  short := Bool.false_ne_true.elim

theorem HoldInPlace.next_of_empty (held : st.HoldInPlace) (pmpEnable : Bool)
    (empty : (st.next pmpEnable port).instrValueId = false) :
    (st.next pmpEnable port).Follows := by
  refine ⟨held.next pmpEnable, fun valid => ?_, fun valid => ?_⟩
  · rw [empty] at valid
    cases valid
  · rw [empty] at valid
    cases valid

/-- ID takes what the fetch stage offers. -/
theorem HoldInPlace.next_of_latch (held : st.HoldInPlace) (pmpEnable : Bool)
    (noRedirect : port.setPcValid = false) (noFlush : port.flushF = false)
    (ready : readyIf port = true) : (st.next pmpEnable port).Follows := by
  have latched : (st.next pmpEnable port).entry =
      ⟨st.pcIf, st.insnPayloadIf port, st.insnCompressIf port⟩ :=
    entry_next pmpEnable noFlush ready
  have address : (st.next pmpEnable port).pcId = st.pcIf := congrArg Entry.pcId latched
  have payload :
      (st.next pmpEnable port).instrPayloadId = (compressDecoder (st.insnPayload port)).1 :=
    congrArg Entry.instrPayloadId latched
  have length : (st.next pmpEnable port).compressInstrId = st.insnCompressIf port :=
    congrArg Entry.compressInstrId latched
  refine ⟨held.next pmpEnable, fun valid => ?_, fun valid short => ?_⟩
  · rw [instrValueId_next pmpEnable noFlush ready] at valid
    change (if readyIf port || port.setPcValid then st.nextPc port else st.pcIf) = _
    rw [address, length, ready, Bool.true_or, if_pos rfl, nextPc, noRedirect, predictTakenIf, valid]
    cases st.insnCompressIf port <;> rfl
  · rw [length] at short
    rw [payload]
    exact decoder_compressDecoder_of_compressed (held.compressed short)

theorem Follows.next_of_held (follows : st.Follows) (pmpEnable : Bool)
    (sameValue : (st.next pmpEnable port).instrValueId = st.instrValueId)
    (sameEntry : (st.next pmpEnable port).entry = st.entry)
    (samePc : (st.next pmpEnable port).pcIf = st.pcIf) : (st.next pmpEnable port).Follows := by
  have address : (st.next pmpEnable port).pcId = st.pcId := congrArg Entry.pcId sameEntry
  have payload : (st.next pmpEnable port).instrPayloadId = st.instrPayloadId :=
    congrArg Entry.instrPayloadId sameEntry
  have length : (st.next pmpEnable port).compressInstrId = st.compressInstrId :=
    congrArg Entry.compressInstrId sameEntry
  refine ⟨follows.hold.next pmpEnable, ?_, ?_⟩
  · rw [sameValue, samePc, address, length]
    exact follows.pcIf
  · rw [sameValue, length, payload]
    exact follows.short

/-- A cycle whose redirect, if there is one, empties ID. -/
theorem Follows.next (follows : st.Follows) (pmpEnable : Bool)
    (empties : port.setPcValid = true → (st.next pmpEnable port).instrValueId = false)
    (stalled : port.stallF = true → port.readyId = false) :
    (st.next pmpEnable port).Follows := by
  cases redirect : port.setPcValid with
  | true => exact follows.hold.next_of_empty pmpEnable (empties redirect)
  | false =>
      cases flush : port.flushF with
      | true =>
          apply follows.hold.next_of_empty pmpEnable
          simp only [IfStage.next, nextIfId, flush, if_true]
      | false =>
          cases ready : readyIf port with
          | true => exact follows.hold.next_of_latch pmpEnable redirect flush ready
          | false =>
              have held : port.readyId = false := by
                cases stallF : port.stallF with
                | true => exact stalled stallF
                | false => rwa [readyIf, stallF, Bool.not_false, Bool.and_true] at ready
              have same : (st.next pmpEnable port).instrValueId = st.instrValueId ∧
                  (st.next pmpEnable port).entry = st.entry ∧
                    (st.next pmpEnable port).pcIf = st.pcIf := by
                simp [IfStage.next, nextIfId, entry, flush, ready, held, redirect]
              exact follows.next_of_held pmpEnable same.1 same.2.1 same.2.2

end IfStage

namespace CoreState

variable {params : Params} {st : CoreState} {port : CoreInput}

/-- ID and the fetch stage are in order, and ID is empty while the core sleeps or wakes up. -/
structure InSequence (st : CoreState) : Prop where
  follows : st.ifs.Follows
  asleep : st.NoInstrAsleep

theorem inSequence_reset (bootAddr : Word) : (reset bootAddr).InSequence where
  follows := IfStage.follows_reset bootAddr
  asleep := fun asleep => by
    rcases asleep with asleep | asleep <;> cases asleep

/-- The redirects of branches and of flushes empty ID, that of a wake-up lets in what the fetch
stage offers. -/
theorem InSequence.empties (inOrder : st.InSequence)
    (wakesEmpty : st.fsm = .wakeup → st.ifs.insnValue (st.ifInput params port) = false)
    (redirects : st.setPcValid params port = true) :
    (st.step params port).ifs.instrValueId = false := by
  rw [instrValueId_step]
  cases flush : st.flushD with
  | true => rw [if_pos rfl]
  | false =>
      rw [flushD, Bool.or_eq_false_iff] at flush
      have noBranch := flush.2
      rw [branchJump, Bool.or_eq_false_iff] at noBranch
      rw [setPcValid, noBranch.1, noBranch.2] at redirects
      cases fsm : st.fsm with
      | idle =>
          rw [excFetch_idle fsm] at redirects
          cases redirects
      | excFlush =>
          rw [fsm] at flush
          cases flush.1
      | sleep =>
          rw [excFetch_sleep fsm] at redirects
          cases redirects
      | wakeup =>
          rw [if_neg Bool.false_ne_true, wakesEmpty fsm, inOrder.asleep (.inr fsm), ite_self]

theorem InSequence.step (inOrder : st.InSequence)
    (wakesEmpty : st.fsm = .wakeup → st.ifs.insnValue (st.ifInput params port) = false) :
    (st.step params port).InSequence where
  follows := by
    apply inOrder.follows.next params.pmpEnable (inOrder.empties wakesEmpty)
    intro stalled
    have isStalled : st.stall = true := stalled
    change st.readyId params port = false
    rw [readyId, stallId, isStalled, Bool.or_true]
    rfl
  asleep := noInstrAsleep_step inOrder.asleep

/-- A `wfi` or a `fence.i` in ID is followed by the next word address. -/
theorem InSequence.pcIf_eq (inOrder : st.InSequence)
    (pauses : st.decoded.wfiEn = true ∨ st.decoded.fenceEn = true) :
    st.ifs.pcIf = st.ifs.pcId + 4#32 := by
  have valid : st.ifs.instrValueId = true := by
    cases value : st.ifs.instrValueId with
    | true => rfl
    | false =>
        rw [decoded, value] at pauses
        rcases pauses with pauses | pauses <;> cases pauses
  rw [inOrder.follows.pcIf valid]
  cases short : st.ifs.compressInstrId with
  | false => rfl
  | true =>
      obtain ⟨noWfi, noFence⟩ := inOrder.follows.short valid short
      rw [decoded, valid, noWfi, noFence] at pauses
      rcases pauses with pauses | pauses <;> cases pauses

end CoreState

namespace CoreRun

/-- No word is ready for ID when the core wakes up. -/
def WakesEmpty (run : CoreRun) : Prop :=
  ∀ cycle, (run.state cycle).fsm = .wakeup →
    (run.state cycle).ifs.insnValue ((run.state cycle).ifInput run.params (run.inputs cycle)) =
      false

theorem inSequence (run : CoreRun) (wakesEmpty : run.WakesEmpty) (cycle : Nat) :
    (run.state cycle).InSequence := by
  induction cycle with
  | zero => exact CoreState.inSequence_reset run.bootAddr
  | succ cycle induction =>
      rw [run.state_succ]
      exact induction.step (wakesEmpty cycle)

end CoreRun

end RiscvCore
