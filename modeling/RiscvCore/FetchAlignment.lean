import RiscvCore.CompressedForms
import RiscvCore.FetchCredits

/-!
# Realignment of fetched instructions

The words that the prefetch FIFO delivers hold instructions of one or two halves.  The fetch stage
keeps the upper half of a word until it knows what it begins; the instructions it passes to ID are
those of the sequential parse of the halves, whatever the stalls and the gaps between the words.
-/

namespace RiscvCore

/-- Fetched words with their error bit. -/
abbrev WordStream := Nat → BitVec 33

namespace WordStream

variable (words : WordStream)

/-- The half with the given index; even ones are lower halves. -/
def parcel (index : Nat) : Parcel := (words (index / 2)).extractLsb' (16 * (index % 2)) 16

def faulty (index : Nat) : Bool := (words (index / 2)).getLsbD 32

/-- A 32-bit instruction begins at the half. -/
def isLong (index : Nat) : Bool := (words.parcel index).quadrant == 0b11#2

/-- The instruction that begins at the half, zero-extended if it has one half. -/
def instruction (index : Nat) : Word :=
  if words.isLong index then words.parcel (index + 1) ++ words.parcel index
  else 0#16 ++ words.parcel index

/-- One of the words that contain the instruction is erroneous. -/
def erroneous (index : Nat) : Bool :=
  words.faulty index || (words.isLong index && words.faulty (index + 1))

/-- The first half of an instruction and its address. -/
structure Position where
  index : Nat
  pc : Word

def next (pos : Position) : Position where
  index := pos.index + if words.isLong pos.index then 2 else 1
  pc := pos.pc + if words.isLong pos.index then 4#32 else 2#32

/-- The position of the instruction with the given number, if the first word is the one that
contains the target. -/
def position (target : Word) : Nat → Position
  | 0 => { index := if target.getLsbD 1 then 1 else 0, pc := target }
  | number + 1 => words.next (position target number)

theorem parcel_even {index : Nat} (even : index % 2 = 0) :
    words.parcel index = (words (index / 2)).extractLsb' 0 16 := by
  rw [parcel, even]

theorem parcel_odd {index : Nat} (odd : index % 2 = 1) :
    words.parcel index = (words (index / 2)).extractLsb' 16 16 := by
  rw [parcel, odd]

end WordStream

theorem getLsbD_one (pc : Word) : pc.getLsbD 1 = decide (pc.toNat / 2 % 2 = 1) := by
  rw [BitVec.getLsbD, Nat.testBit_eq_decide_div_mod_eq]

theorem getLsbD_one_add_two (pc : Word) : (pc + 2#32).getLsbD 1 = !pc.getLsbD 1 := by
  rw [getLsbD_one, getLsbD_one, ← decide_not, decide_eq_decide, BitVec.toNat_add]
  have bound := pc.isLt
  have two : (2#32).toNat = 2 := rfl
  omega

theorem getLsbD_one_add_four (pc : Word) : (pc + 4#32).getLsbD 1 = pc.getLsbD 1 := by
  rw [getLsbD_one, getLsbD_one, decide_eq_decide, BitVec.toNat_add]
  have bound := pc.isLt
  have four : (4#32).toNat = 4 := rfl
  omega

/-- The expansion of a parcel does not depend on what follows it. -/
theorem compressDecoder_congr {instr other : Word} (same : lowHalf instr = lowHalf other)
    (compressed : (lowHalf instr).quadrant ≠ 0b11#2) :
    (compressDecoder instr).1 = (compressDecoder other).1 := by
  cases found : (lowHalf instr).row with
  | some expanded =>
      rw [compressDecoder_row found, compressDecoder_row (same ▸ found)]
  | none =>
      rw [compressDecoder_noRow compressed found,
        compressDecoder_noRow (same ▸ compressed) (same ▸ found)]

namespace IfStage

variable {st : IfStage} {port : Input} {words : WordStream} {pos : WordStream.Position}
  {reads : Nat}

/-! ## The stage and the stream -/

/-- The next instruction is the one at the position, and the given number of words has been read.
The hold register is full only in front of an upper half, and then contains it. -/
structure Placed (pc : Word) (hold : BitVec 16 × Bool × Bool) (words : WordStream)
    (pos : WordStream.Position) (reads : Nat) : Prop where
  pc_eq : pc = pos.pc
  parity : pc.getLsbD 1 = decide (pos.index % 2 = 1)
  empty : hold.2.1 = false → reads = pos.index / 2
  held : hold.2.1 = true → pos.index % 2 = 1 ∧ reads = pos.index / 2 + 1 ∧
    hold.1 = words.parcel pos.index ∧ hold.2.2 = words.faulty pos.index

structure AtPosition (st : IfStage) (words : WordStream) (pos : WordStream.Position)
    (reads : Nat) : Prop where
  booted : st.isBoot = true
  placed : Placed st.pcIf (st.holdRdata, st.holdRdataValue, st.holdRdataErr) words pos reads

/-- Past an instruction the parity follows from its length. -/
theorem Placed.advance {pc pcNext : Word} {hold holdNext : BitVec 16 × Bool × Bool}
    {readsNext : Nat} (placed : Placed pc hold words pos reads)
    (pc_eq : pcNext = pc + if words.isLong pos.index then 4#32 else 2#32)
    (empty : holdNext.2.1 = false → readsNext = (words.next pos).index / 2)
    (held : holdNext.2.1 = true → (words.next pos).index % 2 = 1 ∧
      readsNext = (words.next pos).index / 2 + 1 ∧
      holdNext.1 = words.parcel (words.next pos).index ∧
      holdNext.2.2 = words.faulty (words.next pos).index) :
    Placed pcNext holdNext words (words.next pos) readsNext where
  pc_eq := by rw [pc_eq, placed.pc_eq, WordStream.next]
  parity := by
    have parity := placed.parity
    rw [pc_eq, WordStream.next]
    cases words.isLong pos.index with
    | true =>
        rw [if_pos rfl, if_pos rfl, getLsbD_one_add_four, parity, decide_eq_decide]
        dsimp only
        omega
    | false =>
        rw [if_neg Bool.false_ne_true, if_neg Bool.false_ne_true, getLsbD_one_add_two, parity,
          ← decide_not, decide_eq_decide]
        dsimp only
        omega
  empty := empty
  held := held

/-- The stage runs, ID takes what it offers, and no redirect comes. -/
structure Fetches (st : IfStage) (port : Input) : Prop where
  booted : st.isBoot = true
  ready : readyIf port = true
  noRedirect : port.setPcValid = false

namespace Fetches

variable (fetches : st.Fetches port)
include fetches

theorem fetchEn : st.fetchEn port = true := by
  rw [IfStage.fetchEn, fetches.booted, fetches.ready, Bool.or_true]
  rfl

theorem fifoReady : st.fifoReady port = !st.holdDataIsCompress := by
  rw [IfStage.fifoReady, fetches.fetchEn, Bool.true_and]

theorem nextHold : st.nextHold port =
    if st.insnValue port || st.fifoValid port then
      ((st.fifoRdata port).extractLsb' 16 16, st.holdEn port,
        st.holdEn port && (st.fifoRdata port).getLsbD 32)
    else (st.holdRdata, st.holdRdataValue, st.holdRdataErr) := by
  rw [IfStage.nextHold, fifoClear, updisconNew, predictTakenIf, fetches.noRedirect,
    fetches.fetchEn, Bool.and_true]
  rfl

theorem nextPc : st.nextPc port =
    if st.insnValue port then
      st.pcIf + if st.insnCompressIf port then 2#32 else 4#32
    else st.pcIf := by
  rw [IfStage.nextPc, fetches.noRedirect, predictTakenIf]
  cases st.insnValue port <;> cases st.insnCompressIf port <;> rfl

end Fetches

/-- What the stage does in a cycle in which ID takes its instruction, given the words that it has
read.  The error bit of an upper half that is an instruction of its own is that of the word on the
write side of the FIFO. -/
structure Parses (st : IfStage) (port : Input) (words : WordStream) (pos : WordStream.Position)
    (reads : Nat) : Prop where
  placed : Placed (st.nextPc port) (st.nextHold port) words
    (if st.insnValue port then words.next pos else pos) (reads + (st.readsWord port).toNat)
  payload : st.insnValue port = true →
    st.insnPayloadIf port = (compressDecoder (words.instruction pos.index)).1
  compress : st.insnValue port = true → st.insnCompressIf port = !words.isLong pos.index
  error : st.insnValue port = true → st.insnErr port =
    if pos.index % 2 = 1 ∧ words.isLong pos.index = false then
      words.faulty pos.index || (st.fifoWdata port).getLsbD 32
    else words.erroneous pos.index

/-- The decoder reads a following half only of a 32-bit instruction. -/
theorem compressDecoder_instruction {payload : Word} {index : Nat}
    (low : lowHalf payload = words.parcel index)
    (high : words.isLong index = true →
      payload = words.parcel (index + 1) ++ words.parcel index) :
    (compressDecoder payload).1 = (compressDecoder (words.instruction index)).1 := by
  rw [WordStream.instruction]
  cases long : words.isLong index with
  | true => rw [if_pos rfl, high long]
  | false =>
      rw [if_neg Bool.false_ne_true]
      apply compressDecoder_congr
      · rw [low, lowHalf, BitVec.extractLsb'_append_eq_right]
      · rw [low]
        exact beq_eq_false_iff_ne.mp long

/-- A held 16-bit instruction goes on without a word. -/
theorem parses_shortHeld (fetches : st.Fetches port) (located : st.AtPosition words pos reads)
    (short : st.holdDataIsCompress = true) : st.Parses port words pos reads := by
  obtain ⟨notLong, full⟩ := Bool.and_eq_true_iff.mp short
  obtain ⟨odd, readsEq, holdEq, errEq⟩ := located.placed.held full
  have unaligned : st.pcUnalign = true := located.placed.parity.trans (decide_eq_true odd)
  have isShort : words.isLong pos.index = false := by
    rw [WordStream.isLong, ← holdEq]
    exact beq_eq_false_iff_ne.mpr (bne_iff_ne.mp notLong)
  have value : st.insnValue port = true := by
    rw [insnValue, unaligned, short]
    rfl
  have compress : st.insnCompressIf port = true := by
    rw [insnCompressIf, short]
    rfl
  have noRead : st.readsWord port = false := by
    rw [readsWord, fetches.fifoReady, short]
    rfl
  have noHold : st.holdEn port = false := by
    rw [holdEn, short]
    exact Bool.and_false _
  refine ⟨?_, fun _ => ?_, fun _ => ?_, fun _ => ?_⟩
  · rw [value, if_pos rfl, noRead, fetches.nextPc, value, if_pos rfl, compress, if_pos rfl]
    refine located.placed.advance (by rw [isShort]; rfl) (fun _ => ?_) fun full => ?_
    · rw [WordStream.next, isShort, readsEq]
      change pos.index / 2 + 1 = (pos.index + 1) / 2
      omega
    · rw [fetches.nextHold, value, Bool.true_or, if_pos rfl, noHold] at full
      cases full
  · refine compressDecoder_instruction ?_ fun long => ?_
    · rw [insnPayload, unaligned, if_pos rfl, lowHalf, BitVec.extractLsb'_append_eq_right]
      exact holdEq
    · rw [isShort] at long
      cases long
  · rw [compress, isShort]
    rfl
  · have incoming : st.fifoRdata port = st.fifoWdata port := by
      rw [fifoRdata, PrefetchFifo.fifoRdata, PrefetchFifo.fifoPop, fetches.fifoReady, short]
      rfl
    rw [if_pos ⟨odd, isShort⟩, insnErr, unaligned, if_pos rfl, incoming]
    exact congrArg (· || _) errEq

/-- Without a word nothing else goes on. -/
theorem parses_waiting (fetches : st.Fetches port) (located : st.AtPosition words pos reads)
    (notShort : st.holdDataIsCompress = false) (noWord : st.fifoValid port = false) :
    st.Parses port words pos reads := by
  have noValue : st.insnValue port = false := by
    rw [insnValue, notShort, noWord]
    cases st.pcUnalign <;> cases st.holdRdataValue <;> rfl
  have noRead : st.readsWord port = false := by
    rw [readsWord, noWord]
    exact Bool.and_false _
  constructor
  · rw [noValue, noRead, fetches.nextPc, fetches.nextHold, noValue, noWord]
    exact located.placed
  all_goals
    intro value
    rw [noValue] at value
    cases value

/-- The word that arrives completes a held instruction of two halves. -/
theorem parses_longHeld (fetches : st.Fetches port) (located : st.AtPosition words pos reads)
    (notShort : st.holdDataIsCompress = false) (full : st.holdRdataValue = true)
    (valid : st.fifoValid port = true) (word : st.fifoRdata port = words reads) :
    st.Parses port words pos reads := by
  obtain ⟨odd, readsEq, holdEq, errEq⟩ := located.placed.held full
  have unaligned : st.pcUnalign = true := located.placed.parity.trans (decide_eq_true odd)
  have isLong : words.isLong pos.index = true := by
    rw [holdDataIsCompress, full, Bool.and_true, bne_eq_false_iff_eq] at notShort
    rw [WordStream.isLong, ← holdEq]
    exact beq_iff_eq.mpr notShort
  have value : st.insnValue port = true := by
    rw [insnValue, unaligned, full, valid, Bool.true_and, Bool.or_true]
    rfl
  have noCompress : st.insnCompressIf port = false := by
    rw [insnCompressIf, fifoDataIsCompress, unaligned, notShort]
    exact Bool.and_false _
  have read : st.readsWord port = true := by
    rw [readsWord, fetches.fifoReady, notShort, valid]
    rfl
  have holds : st.holdEn port = true := by
    rw [holdEn, fetches.fetchEn, unaligned, valid, notShort]
    rfl
  have nextIndex : (words.next pos).index = pos.index + 2 := by
    rw [WordStream.next, isLong]
    rfl
  have inWord : words reads = words ((pos.index + 1) / 2) := congrArg words (by omega)
  refine ⟨?_, fun _ => ?_, fun _ => ?_, fun _ => ?_⟩
  · rw [value, if_pos rfl, read, fetches.nextPc, value, if_pos rfl, noCompress, fetches.nextHold,
      value, Bool.true_or, if_pos rfl, holds]
    refine located.placed.advance (by rw [isLong]; rfl) (fun empty => ?_) fun _ => ?_
    · cases empty
    · rw [nextIndex, readsEq, Bool.toNat_true, word, inWord, WordStream.parcel_odd _ (by omega),
        WordStream.faulty]
      refine ⟨by omega, by omega, ?_, ?_⟩
      · exact congrArg (fun index => (words index).extractLsb' 16 16) (by omega)
      · exact congrArg (fun index => (words index).getLsbD 32) (by omega)
  · refine compressDecoder_instruction ?_ fun _ => ?_
    · rw [insnPayload, unaligned, if_pos rfl, lowHalf, BitVec.extractLsb'_append_eq_right]
      exact holdEq
    · rw [insnPayload, unaligned, if_pos rfl, word, inWord, WordStream.parcel_even _ (by omega)]
      exact congrArg (_ ++ ·) holdEq
  · rw [noCompress, isLong]
    rfl
  · rw [isLong, if_neg (fun short => Bool.noConfusion short.2), insnErr, unaligned, if_pos rfl,
      WordStream.erroneous, isLong, Bool.true_and, word, inWord]
    exact congrArg (· || _) errEq

/-- In front of an upper half that has not been read the word only fills the hold register. -/
theorem parses_filling (fetches : st.Fetches port) (located : st.AtPosition words pos reads)
    (unaligned : st.pcUnalign = true) (empty : st.holdRdataValue = false)
    (valid : st.fifoValid port = true) (word : st.fifoRdata port = words reads) :
    st.Parses port words pos reads := by
  have odd : pos.index % 2 = 1 := of_decide_eq_true (located.placed.parity.symm.trans unaligned)
  have readsEq : reads = pos.index / 2 := located.placed.empty empty
  have notShort : st.holdDataIsCompress = false := by
    rw [holdDataIsCompress, empty, Bool.and_false]
  have noValue : st.insnValue port = false := by
    rw [insnValue, unaligned, notShort, empty]
    rfl
  have read : st.readsWord port = true := by
    rw [readsWord, fetches.fifoReady, notShort, valid]
    rfl
  have holds : st.holdEn port = true := by
    rw [holdEn, fetches.fetchEn, unaligned, valid, notShort]
    rfl
  constructor
  · rw [noValue, if_neg Bool.false_ne_true, read, fetches.nextPc, noValue,
      if_neg Bool.false_ne_true, fetches.nextHold, valid, Bool.or_true, if_pos rfl, holds]
    refine ⟨located.placed.pc_eq, located.placed.parity, fun none => ?_, fun _ => ?_⟩
    · cases none
    · rw [word, readsEq, WordStream.parcel_odd _ odd, WordStream.faulty]
      exact ⟨odd, rfl, rfl, rfl⟩
  all_goals
    intro value
    rw [noValue] at value
    cases value

/-- At an even half the word holds the instruction, or it and the half after it. -/
theorem parses_aligned (fetches : st.Fetches port) (located : st.AtPosition words pos reads)
    (aligned : st.pcUnalign = false) (valid : st.fifoValid port = true)
    (word : st.fifoRdata port = words reads) : st.Parses port words pos reads := by
  have even : pos.index % 2 = 0 := by
    have notOdd := of_decide_eq_false (located.placed.parity.symm.trans aligned)
    omega
  have empty : st.holdRdataValue = false := by
    cases full : st.holdRdataValue with
    | false => rfl
    | true =>
        have odd := (located.placed.held full).1
        omega
  have readsEq : reads = pos.index / 2 := located.placed.empty empty
  have notShort : st.holdDataIsCompress = false := by
    rw [holdDataIsCompress, empty, Bool.and_false]
  have value : st.insnValue port = true := by
    rw [insnValue, aligned, valid]
    rfl
  have read : st.readsWord port = true := by
    rw [readsWord, fetches.fifoReady, notShort, valid]
    rfl
  have lowPart : words.parcel pos.index = (words reads).extractLsb' 0 16 := by
    rw [WordStream.parcel_even _ even, readsEq]
  have highPart : words.parcel (pos.index + 1) = (words reads).extractLsb' 16 16 := by
    rw [WordStream.parcel_odd _ (by omega), readsEq]
    exact congrArg (fun index => (words index).extractLsb' 16 16) (by omega)
  have sameFault : words.faulty (pos.index + 1) = words.faulty pos.index :=
    congrArg (fun index => (words index).getLsbD 32) (by omega)
  have fault : words.faulty pos.index = (words reads).getLsbD 32 := by
    rw [WordStream.faulty, readsEq]
  have shortWord : st.fifoDataIsCompress port = !words.isLong pos.index := by
    rw [fifoDataIsCompress, valid, aligned, word, WordStream.isLong, lowPart, Parcel.quadrant,
      BitVec.extractLsb'_extractLsb'_of_le (by decide), Bool.and_true]
    exact Bool.and_true _
  have compress : st.insnCompressIf port = !words.isLong pos.index := by
    rw [insnCompressIf, notShort, shortWord, Bool.false_or]
  have holds : st.holdEn port = !words.isLong pos.index := by
    rw [holdEn, fetches.fetchEn, aligned, shortWord, notShort]
    cases words.isLong pos.index <;> rfl
  refine ⟨?_, fun _ => ?_, fun _ => compress, fun _ => ?_⟩
  · rw [value, if_pos rfl, read, fetches.nextPc, value, if_pos rfl, compress, fetches.nextHold,
      value, Bool.true_or, if_pos rfl, holds]
    refine located.placed.advance ?_ (fun empty => ?_) fun full => ?_
    · cases words.isLong pos.index <;> rfl
    · have isLong : words.isLong pos.index = true := by
        simpa using empty
      rw [WordStream.next, isLong, readsEq]
      change pos.index / 2 + 1 = (pos.index + 2) / 2
      omega
    · have isShort : words.isLong pos.index = false := by
        simpa using full
      have nextIndex : (words.next pos).index = pos.index + 1 := by
        rw [WordStream.next, isShort]
        rfl
      rw [nextIndex, isShort, word, highPart, sameFault, fault]
      refine ⟨by omega, ?_, rfl, rfl⟩
      rw [readsEq, Bool.toNat_true]
      omega
  · refine compressDecoder_instruction ?_ fun _ => ?_
    · rw [insnPayload, aligned, if_neg Bool.false_ne_true, word, lowPart, lowHalf,
        BitVec.extractLsb'_extractLsb'_of_le (by decide)]
    · rw [insnPayload, aligned, if_neg Bool.false_ne_true, word, lowPart, highPart]
      symm
      exact BitVec.extractLsb'_append_extractLsb'_eq_extractLsb' rfl
  · rw [if_neg (fun odd => by omega), insnErr, aligned, if_neg Bool.false_ne_true, word,
      WordStream.erroneous, sameFault, fault]
    cases words.isLong pos.index <;> simp

/-- The cases are a held instruction of one half, a missing word, and a word that meets a full or
an empty hold register or an even half. -/
theorem AtPosition.parses (located : st.AtPosition words pos reads) (fetches : st.Fetches port)
    (delivered : st.readsWord port = true → st.fifoRdata port = words reads) :
    st.Parses port words pos reads := by
  cases short : st.holdDataIsCompress with
  | true => exact parses_shortHeld fetches located short
  | false =>
      cases valid : st.fifoValid port with
      | false => exact parses_waiting fetches located short valid
      | true =>
          have word := delivered (by rw [readsWord, fetches.fifoReady, short, valid]; rfl)
          cases unaligned : st.pcUnalign with
          | false => exact parses_aligned fetches located unaligned valid word
          | true =>
              cases full : st.holdRdataValue with
              | false => exact parses_filling fetches located unaligned full valid word
              | true => exact parses_longHeld fetches located short full valid word

/-- The stage passes on an instruction. -/
def takes (st : IfStage) (port : Input) : Bool := readyIf port && st.insnValue port

/-- One cycle without a redirect. -/
theorem AtPosition.next (located : st.AtPosition words pos reads) (pmpEnable : Bool)
    (noRedirect : port.setPcValid = false)
    (delivered : st.readsWord port = true → st.fifoRdata port = words reads) :
    (st.next pmpEnable port).AtPosition words
      (if st.takes port then words.next pos else pos) (reads + (st.readsWord port).toNat) where
  booted := rfl
  placed := by
    change Placed (if readyIf port || port.setPcValid then st.nextPc port else st.pcIf)
      (st.nextHold port) words _ _
    rw [noRedirect, Bool.or_false, takes]
    cases ready : readyIf port with
    | true => exact (located.parses ⟨located.booted, ready, noRedirect⟩ delivered).placed
    | false =>
        have noFetch : st.fetchEn port = false := by
          rw [fetchEn, noRedirect, ready]
          exact Bool.and_false _
        have noRead : st.readsWord port = false := by
          rw [readsWord, fifoReady, noFetch]
          rfl
        have sameHold : st.nextHold port =
            (st.holdRdata, st.holdRdataValue, st.holdRdataErr) := by
          rw [nextHold, fifoClear, updisconNew, predictTakenIf, noRedirect, noFetch,
            Bool.and_false]
          rfl
        rw [noRead, sameHold]
        exact located.placed

/-- What ID is given. -/
structure Entry where
  pcId : Word
  instrPayloadId : Word
  compressInstrId : Bool
deriving DecidableEq

def entry (st : IfStage) : Entry where
  pcId := st.pcId
  instrPayloadId := st.instrPayloadId
  compressInstrId := st.compressInstrId

/-- The register in front of ID after a cycle in which it is written. -/
theorem instrValueId_next (pmpEnable : Bool) (noFlush : port.flushF = false)
    (ready : readyIf port = true) :
    (st.next pmpEnable port).instrValueId = st.insnValue port := by
  simp only [next, nextIfId, noFlush, ready, if_true, Bool.false_eq_true, if_false]

theorem instrFetchError_next (pmpEnable : Bool) (noFlush : port.flushF = false)
    (ready : readyIf port = true) :
    (st.next pmpEnable port).instrFetchError = st.insnErr port := by
  simp only [next, nextIfId, noFlush, ready, if_true, Bool.false_eq_true, if_false]

theorem entry_next (pmpEnable : Bool) (noFlush : port.flushF = false)
    (ready : readyIf port = true) :
    (st.next pmpEnable port).entry =
      ⟨st.pcIf, st.insnPayloadIf port, st.insnCompressIf port⟩ := by
  have readyId : port.readyId = true := (Bool.and_eq_true_iff.mp ready).1
  simp only [entry, next, nextIfId, noFlush, ready, readyId, if_true, Bool.false_eq_true, if_false]

end IfStage

namespace WordStream

/-- The entry of ID for the instruction with the given number after a redirect. -/
def entry (words : WordStream) (target : Word) (number : Nat) : IfStage.Entry where
  pcId := (words.position target number).pc
  instrPayloadId := (compressDecoder (words.instruction (words.position target number).index)).1
  compressInstrId := !words.isLong (words.position target number).index

end WordStream

namespace FetchRun

open SynchronousRun (collected collected_eq_nil collected_succ occurrences occurrences_self
  occurrences_succ)

variable (run : FetchRun)

/-- The stage reads a word. -/
def readsWord (cycle : Nat) : Bool := (run.state cycle).readsWord (run.inputs cycle)

/-- A valid instruction is latched into ID. -/
def latches (cycle : Nat) : Bool :=
  IfStage.readyIf (run.inputs cycle) && (run.state (cycle + 1)).instrValueId

/-- The valid entries latched between the redirect and the cycle. -/
def latchedSince (redirect cycle : Nat) : List IfStage.Entry :=
  collected (fun between =>
    if redirect < between ∧ run.latches between = true then some (run.state (between + 1)).entry
    else none) cycle

/-- Since the redirect there was neither another one nor a flush, and the prefetch FIFO has
delivered the words of the stream in order. -/
structure Streams (words : WordStream) (redirect cycle : Nat) : Prop where
  since : run.Since redirect cycle
  noFlush : ∀ between, redirect < between → between ≤ cycle →
    (run.inputs between).flushF = false
  delivered : ∀ between, redirect < between → between ≤ cycle → run.readsWord between = true →
    (run.state between).fifoRdata (run.inputs between) =
      words (occurrences run.readsWord (redirect + 1) between)

variable {run} {words : WordStream} {redirect cycle : Nat}

/-- The target of the redirect. -/
abbrev target (run : FetchRun) (redirect : Nat) : Word := (run.inputs redirect).setPc

theorem Streams.earlier (streams : run.Streams words redirect (cycle + 1))
    (later : redirect < cycle) : run.Streams words redirect cycle where
  since :=
    { redirects := streams.since.redirects
      later := later
      latest := fun between lower upper => streams.since.latest between lower (by omega) }
  noFlush := fun between lower upper => streams.noFlush between lower (by omega)
  delivered := fun between lower upper => streams.delivered between lower (by omega)

/-- A finite check of the cycles up to the last one. -/
theorem streams_of_checked (redirects : run.redirects redirect = true) (later : redirect < cycle)
    (checked : ∀ between < cycle + 1, redirect < between →
      run.redirects between = false ∧ (run.inputs between).flushF = false ∧
        (run.readsWord between = true → (run.state between).fifoRdata (run.inputs between) =
          words (occurrences run.readsWord (redirect + 1) between))) :
    run.Streams words redirect cycle where
  since :=
    { redirects := redirects
      later := later
      latest := fun between lower upper => (checked between (by omega) lower).1 }
  noFlush := fun between lower upper => (checked between (by omega) lower).2.1
  delivered := fun between lower upper => (checked between (by omega) lower).2.2

theorem Streams.latches_eq (streams : run.Streams words redirect cycle) :
    run.latches cycle = (run.state cycle).takes (run.inputs cycle) := by
  have noFlush := streams.noFlush cycle streams.since.later (Nat.le_refl _)
  rw [latches, IfStage.takes, run.state_succ]
  cases ready : IfStage.readyIf (run.inputs cycle) with
  | true => rw [IfStage.instrValueId_next _ noFlush ready]
  | false => rfl

/-- Behind the redirect the stage is at the first instruction, with an empty hold register. -/
theorem atPosition_redirect (words : WordStream) (redirects : run.redirects redirect = true) :
    (run.state (redirect + 1)).AtPosition words (words.position (run.target redirect) 0) 0 where
  booted := rfl
  placed := by
    have isRedirect : (run.inputs redirect).setPcValid = true := redirects
    have pcIf : (run.state (redirect + 1)).pcIf = run.target redirect := by
      simp only [run.state_succ, IfStage.next, IfStage.nextPc, isRedirect, Bool.or_true, if_true]
    have hold : (run.state redirect).nextHold (run.inputs redirect) = (0#16, false, false) := by
      simp only [IfStage.nextHold, IfStage.fifoClear, IfStage.updisconNew, isRedirect,
        Bool.or_true, if_true]
    change IfStage.Placed _ ((run.state redirect).nextHold (run.inputs redirect)) words _ _
    rw [hold, pcIf]
    refine ⟨rfl, ?_, fun _ => ?_, fun full => ?_⟩
    all_goals
      rw [WordStream.position]
    · cases (run.target redirect).getLsbD 1 <;> rfl
    · cases (run.target redirect).getLsbD 1 <;> simp
    · cases full

/-- The stage stands at the instruction whose number is that of the entries latched since the
redirect. -/
def Reached (run : FetchRun) (words : WordStream) (redirect cycle : Nat) : Prop :=
  (run.state cycle).AtPosition words
    (words.position (run.target redirect) (occurrences run.latches (redirect + 1) cycle))
    (occurrences run.readsWord (redirect + 1) cycle)

theorem Streams.reached_succ (streams : run.Streams words redirect cycle)
    (reached : run.Reached words redirect cycle) : run.Reached words redirect (cycle + 1) := by
  have later := streams.since.later
  have next := IfStage.AtPosition.next reached run.pmpEnable
    (streams.since.latest cycle later (Nat.le_refl _))
    (streams.delivered cycle later (Nat.le_refl _))
  rw [Reached, occurrences_succ _ later, occurrences_succ _ later, streams.latches_eq,
    run.state_succ]
  cases taken : (run.state cycle).takes (run.inputs cycle) with
  | true =>
      rw [taken] at next
      exact next
  | false =>
      rw [taken] at next
      exact next

theorem Streams.reached (streams : run.Streams words redirect cycle) :
    run.Reached words redirect cycle := by
  have later := streams.since.later
  induction cycle with
  | zero => omega
  | succ cycle induction =>
      rcases Nat.eq_or_lt_of_le (Nat.le_of_lt_succ later) with rfl | above
      · rw [Reached, occurrences_self, occurrences_self]
        exact atPosition_redirect words streams.since.redirects
      · have before := streams.earlier above
        exact before.reached_succ (induction before above)

/-- What is latched is parsed at the position reached. -/
theorem Streams.parses (streams : run.Streams words redirect cycle)
    (latches : run.latches cycle = true) :
    (run.state cycle).insnValue (run.inputs cycle) = true ∧
      IfStage.readyIf (run.inputs cycle) = true ∧
      (run.state cycle).Parses (run.inputs cycle) words
        (words.position (run.target redirect) (occurrences run.latches (redirect + 1) cycle))
        (occurrences run.readsWord (redirect + 1) cycle) := by
  have later := streams.since.later
  rw [streams.latches_eq, IfStage.takes, Bool.and_eq_true] at latches
  obtain ⟨ready, value⟩ := latches
  have noRedirect := streams.since.latest cycle later (Nat.le_refl _)
  exact ⟨value, ready, streams.reached.parses
    ⟨isBoot_of_later run later, ready, noRedirect⟩ (streams.delivered cycle later (Nat.le_refl _))⟩

theorem Streams.entry (streams : run.Streams words redirect cycle)
    (latches : run.latches cycle = true) :
    (run.state (cycle + 1)).entry =
      words.entry (run.target redirect) (occurrences run.latches (redirect + 1) cycle) := by
  obtain ⟨value, ready, parses⟩ := streams.parses latches
  have noFlush := streams.noFlush cycle streams.since.later (Nat.le_refl _)
  rw [run.state_succ, IfStage.entry_next _ noFlush ready, parses.payload value,
    parses.compress value, streams.reached.placed.pc_eq]
  rfl

theorem latchedSince_succ (run : FetchRun) (later : redirect < cycle) :
    run.latchedSince redirect (cycle + 1) = run.latchedSince redirect cycle ++
      if run.latches cycle then [(run.state (cycle + 1)).entry] else [] := by
  rw [latchedSince, collected_succ]
  cases latches : run.latches cycle with
  | true => rw [if_pos ⟨later, rfl⟩]; rfl
  | false => rw [if_neg (fun both => Bool.noConfusion both.2)]; rfl

theorem latchedSince_redirect (run : FetchRun) (redirect : Nat) :
    run.latchedSince redirect (redirect + 1) = [] := by
  refine collected_eq_nil fun between below => if_neg fun both => ?_
  have later := both.1
  omega

/-- A cycle appends the next instruction to the entries if it latches one. -/
theorem Streams.latchedSince_step (streams : run.Streams words redirect cycle)
    (before : run.latchedSince redirect cycle =
      (List.range (occurrences run.latches (redirect + 1) cycle)).map
        (words.entry (run.target redirect))) :
    run.latchedSince redirect (cycle + 1) =
      (List.range (occurrences run.latches (redirect + 1) (cycle + 1))).map
        (words.entry (run.target redirect)) := by
  have later := streams.since.later
  rw [latchedSince_succ run later, before, occurrences_succ _ later]
  cases latches : run.latches cycle with
  | true =>
      rw [if_pos rfl, streams.entry latches, Bool.toNat_true, List.range_succ, List.map_append,
        List.map_singleton]
  | false =>
      rw [if_neg Bool.false_ne_true, List.append_nil]
      rfl

theorem Streams.latchedSince_eq (streams : run.Streams words redirect cycle) :
    run.latchedSince redirect (cycle + 1) =
      (List.range (occurrences run.latches (redirect + 1) (cycle + 1))).map
        (words.entry (run.target redirect)) := by
  have later := streams.since.later
  induction cycle with
  | zero => omega
  | succ cycle induction =>
      refine streams.latchedSince_step ?_
      rcases Nat.eq_or_lt_of_le (Nat.le_of_lt_succ later) with rfl | above
      · rw [latchedSince_redirect, occurrences_self]
        rfl
      · exact induction (streams.earlier above) above

/-- The entries latched after a redirect are those of the sequential parse of the words from its
target on, each once and in order; the next address is that of the first instruction not latched,
and the words read are those up to it. -/
theorem latchedSince_eq_parse (run : FetchRun) (words : WordStream) {redirect cycle : Nat}
    (streams : run.Streams words redirect cycle) :
    let number := occurrences run.latches (redirect + 1) (cycle + 1)
    let pos := words.position (run.target redirect) number
    run.latchedSince redirect (cycle + 1) =
        (List.range number).map (words.entry (run.target redirect)) ∧
      (run.state (cycle + 1)).pcIf = pos.pc ∧
      occurrences run.readsWord (redirect + 1) (cycle + 1) =
        pos.index / 2 + (run.state (cycle + 1)).holdRdataValue.toNat := by
  have placed := (streams.reached_succ streams.reached).placed
  refine ⟨streams.latchedSince_eq, placed.pc_eq, ?_⟩
  cases full : (run.state (cycle + 1)).holdRdataValue with
  | true => exact (placed.held full).2.1
  | false => exact placed.empty full

/-- A redirect into an upper half, where a 32-bit instruction begins, with a 16-bit one behind
it. -/
def straddling : FetchRun :=
  scripted (fun cycle => if cycle = 1 then some 0x102#32 else none)
    (fun cycle => decide (1 ≤ cycle ∧ cycle ≤ 2))
    (fun cycle => if cycle = 2 then some 0x05130001#32 else if cycle = 3 then some 0x00010050#32
      else none)

def straddlingWords : WordStream :=
  fun index => if index = 0 then 0x05130001#33 else 0x00010050#33

theorem streams_straddling : straddling.Streams straddlingWords 1 4 :=
  streams_of_checked rfl (by decide) (by decide +kernel)

theorem latchedSince_straddling : straddling.latchedSince 1 5 =
    [⟨0x102#32, 0x00500513#32, false⟩, ⟨0x106#32, 0x00000013#32, true⟩] :=
  (latchedSince_eq_parse straddling straddlingWords streams_straddling).1.trans
    (by decide +kernel)

/-! ## Fetch errors -/

/-- An instruction latched into ID carries the error bit of its own words, except that a held
16-bit instruction also takes what the write side of the FIFO says in that cycle: then the bit is
that of its word if this is erroneous itself, or if neither an error nor a denied request is
answered. -/
theorem instrFetchError_iff (run : FetchRun) (words : WordStream) {redirect cycle : Nat}
    (streams : run.Streams words redirect cycle) (latches : run.latches cycle = true) :
    let pos := words.position (run.target redirect)
      (occurrences run.latches (redirect + 1) cycle)
    ((run.state (cycle + 1)).instrFetchError = true ↔ words.erroneous pos.index = true) ↔
      (pos.index % 2 = 1 → words.isLong pos.index = false → words.faulty pos.index = false →
        ((run.inputs cycle).instrErr || (run.state cycle).cmdPmpErr (run.inputs cycle)) =
          false) := by
  intro pos
  obtain ⟨value, ready, parses⟩ := streams.parses latches
  have noFlush := streams.noFlush cycle streams.since.later (Nat.le_refl _)
  have errorBit : ((run.state cycle).fifoWdata (run.inputs cycle)).getLsbD 32 =
      ((run.inputs cycle).instrErr || (run.state cycle).cmdPmpErr (run.inputs cycle)) := by
    rw [IfStage.fifoWdata, BitVec.getLsbD_append]
    cases ((run.inputs cycle).instrErr || (run.state cycle).cmdPmpErr (run.inputs cycle)) <;> rfl
  rw [run.state_succ, IfStage.instrFetchError_next _ noFlush ready, parses.error value, errorBit]
  change ((if pos.index % 2 = 1 ∧ words.isLong pos.index = false then _ else _) = true ↔ _) ↔ _
  by_cases upperShort : pos.index % 2 = 1 ∧ words.isLong pos.index = false
  · rw [if_pos upperShort, WordStream.erroneous, upperShort.2, Bool.false_and, Bool.or_false]
    cases words.faulty pos.index with
    | true => exact iff_of_true (iff_of_true rfl rfl) fun _ _ isGood => Bool.noConfusion isGood
    | false =>
        rw [Bool.false_or]
        refine ⟨fun same _ _ _ => ?_, fun quiet => ?_⟩
        · exact Bool.eq_false_iff.mpr fun noisy => Bool.false_ne_true (same.mp noisy)
        · rw [quiet upperShort.1 rfl rfl]
  · rw [if_neg upperShort]
    exact iff_of_true Iff.rfl fun odd short => absurd ⟨odd, short⟩ upperShort

/-- Two 16-bit instructions in a good word, of which the second is passed on while the error of the
next word arrives. -/
def faultyNeighbour : FetchRun :=
  let good := scripted (fun cycle => if cycle = 1 then some 0x100#32 else none)
    (fun cycle => decide (1 ≤ cycle ∧ cycle ≤ 2))
    (fun cycle => if cycle = 2 then some 0x00010001#32 else if cycle = 3 then some 0#32 else none)
  { good with inputs := fun cycle => { good.inputs cycle with instrErr := decide (cycle = 3) } }

/-- The second word is erroneous. -/
def faultyNeighbourWords : WordStream :=
  fun index => if index = 0 then 0x00010001#33 else 0x100000000#33

theorem streams_faultyNeighbour : faultyNeighbour.Streams faultyNeighbourWords 1 3 :=
  streams_of_checked rfl (by decide) (by decide +kernel)

/-- The instruction is reported as faulty although its word is not. -/
theorem instrFetchError_faultyNeighbour :
    ¬ ∀ (run : FetchRun) (words : WordStream) (redirect cycle : Nat),
      run.Streams words redirect cycle → run.latches cycle = true →
        ((run.state (cycle + 1)).instrFetchError = true ↔
          words.erroneous (words.position (run.target redirect)
            (occurrences run.latches (redirect + 1) cycle)).index = true) := by
  intro exact_
  have same := exact_ faultyNeighbour faultyNeighbourWords 1 3 streams_faultyNeighbour
    (by decide +kernel)
  exact absurd (same.mp (by decide +kernel)) (by decide +kernel)

/-- The first instruction of the word carries no error. -/
theorem instrFetchError_first :
    (faultyNeighbour.state 3).instrFetchError = true ↔
      faultyNeighbourWords.erroneous 0 = true :=
  (instrFetchError_iff faultyNeighbour faultyNeighbourWords
    (streams_faultyNeighbour.earlier (by decide)) (by decide +kernel)).mpr
    fun odd => absurd odd (by decide +kernel)

end FetchRun

end RiscvCore
