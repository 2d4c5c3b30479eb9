import RiscvCore.DataTransfers

/-!
# The value a load returns

The one or two responses of a load give the bytes of its access, which are extended to a word.
The half word that crosses a word boundary is the exception: its sign is taken from the last byte
of the second response, not from its own high byte.
-/

namespace RiscvCore

open BusProtocol (InOrder pending)
open ByteMemory
open SynchronousRun (FirstFrom)

inductive LoadType where
  | lb | lh | lw | lbu | lhu
  deriving DecidableEq

namespace LoadType

/-- The `funct3` field. -/
def dtype : LoadType → LsuDtype
  | lb => 0b000#3
  | lh => 0b001#3
  | lw => 0b010#3
  | lbu => 0b100#3
  | lhu => 0b101#3

def size : LoadType → Nat
  | lb => 1
  | lbu => 1
  | lh => 2
  | lhu => 2
  | lw => 4

theorem accessBytes_dtype (type : LoadType) : Lsu.accessBytes type.dtype = type.size := by
  cases type <;> rfl

/-- The value at an address, the lowest byte first. -/
def value (memory : Memory) (addr : Address) : LoadType → Word
  | lb => (memory addr).signExtend 32
  | lbu => (memory addr).setWidth 32
  | lh => (memory (addr + 1#32) ++ memory addr).signExtend 32
  | lhu => (memory (addr + 1#32) ++ memory addr).setWidth 32
  | lw => memory (addr + 3#32) ++ memory (addr + 2#32) ++ memory (addr + 1#32) ++ memory addr

/-- The half word crosses a word boundary, and its sign differs from that of the last byte of the
next word. -/
def TakesOtherSign (memory : Memory) (addr : Address) (type : LoadType) : Prop :=
  type = .lh ∧ lane addr = 3 ∧ (memory (addr + 4#32)).msb ≠ (memory (addr + 1#32)).msb

end LoadType

namespace Lsu

section Bytes

variable (b0 b1 b2 b3 b4 b5 b6 b7 : Byte)

theorem extract_byte :
    (b3 ++ b2 ++ b1 ++ b0).extractLsb' 0 8 = b0 ∧ (b3 ++ b2 ++ b1 ++ b0).extractLsb' 8 8 = b1 ∧
    (b3 ++ b2 ++ b1 ++ b0).extractLsb' 16 8 = b2 ∧
    (b3 ++ b2 ++ b1 ++ b0).extractLsb' 24 8 = b3 := by
  have bound0 := b0.isLt
  have bound1 := b1.isLt
  have bound2 := b2.isLt
  have bound3 := b3.isLt
  refine ⟨?_, ?_, ?_, ?_⟩
  all_goals
    apply BitVec.eq_of_toNat_eq
    simp only [BitVec.extractLsb'_toNat, toNat_concat, Nat.shiftRight_eq_div_pow]
    omega

theorem extract_half :
    (b3 ++ b2 ++ b1 ++ b0).extractLsb' 0 16 = b1 ++ b0 ∧
    (b3 ++ b2 ++ b1 ++ b0).extractLsb' 8 16 = b2 ++ b1 ∧
    (b3 ++ b2 ++ b1 ++ b0).extractLsb' 16 16 = b3 ++ b2 := by
  have bound0 := b0.isLt
  have bound1 := b1.isLt
  have bound2 := b2.isLt
  have bound3 := b3.isLt
  refine ⟨?_, ?_, ?_⟩
  all_goals
    apply BitVec.eq_of_toNat_eq
    simp only [BitVec.extractLsb'_toNat, toNat_concat, Nat.shiftRight_eq_div_pow]
    omega

/-- The parts of a split half word. -/
theorem append_half :
    (b7 ++ b6 ++ b5 ++ b4).extractLsb' 0 8 ++
        ((b3 ++ b2 ++ b1 ++ b0).extractLsb' 8 24).extractLsb' 16 8 = b4 ++ b3 := by
  have bound0 := b0.isLt
  have bound1 := b1.isLt
  have bound2 := b2.isLt
  have bound3 := b3.isLt
  have bound4 := b4.isLt
  apply BitVec.eq_of_toNat_eq
  simp only [BitVec.extractLsb'_toNat, toNat_concat, Nat.shiftRight_eq_div_pow]
  omega

/-- The parts of a split word. -/
theorem append_word :
    (b7 ++ b6 ++ b5 ++ b4).extractLsb' 0 8 ++ (b3 ++ b2 ++ b1 ++ b0).extractLsb' 8 24 =
      b4 ++ b3 ++ b2 ++ b1 ∧
    (b7 ++ b6 ++ b5 ++ b4).extractLsb' 0 16 ++
        ((b3 ++ b2 ++ b1 ++ b0).extractLsb' 8 24).extractLsb' 8 16 = b5 ++ b4 ++ b3 ++ b2 ∧
    (b7 ++ b6 ++ b5 ++ b4).extractLsb' 0 24 ++
        ((b3 ++ b2 ++ b1 ++ b0).extractLsb' 8 24).extractLsb' 16 8 = b6 ++ b5 ++ b4 ++ b3 := by
  have bound0 := b0.isLt
  have bound1 := b1.isLt
  have bound2 := b2.isLt
  have bound3 := b3.isLt
  have bound4 := b4.isLt
  have bound5 := b5.isLt
  have bound6 := b6.isLt
  refine ⟨?_, ?_, ?_⟩
  all_goals
    apply BitVec.eq_of_toNat_eq
    simp only [BitVec.extractLsb'_toNat, toNat_concat, Nat.shiftRight_eq_div_pow]
    omega

theorem getLsbD_append : (b7 ++ b6 ++ b5 ++ b4).getLsbD 31 = b7.msb := by
  have bound4 := b4.isLt
  have bound5 := b5.isLt
  have bound6 := b6.isLt
  have last := BitVec.msb_eq_getLsbD_last (b7 ++ b6 ++ b5 ++ b4)
  rw [BitVec.msb_eq_decide, toNat_concat, toNat_concat, toNat_concat] at last
  refine last.symm.trans ?_
  rw [BitVec.msb_eq_decide, decide_eq_decide]
  omega

/-- The sign of a half word. -/
theorem signExtend_half_iff (sign : Bool) :
    (BitVec.ofBool sign).signExtend 16 ++ (b1 ++ b0) = (b1 ++ b0).signExtend 32 ↔
      sign = b1.msb := by
  have bound0 := b0.isLt
  have bound1 := b1.isLt
  have half : (b1 ++ b0).msb = b1.msb := by
    rw [BitVec.msb_eq_decide, BitVec.msb_eq_decide, toNat_concat, decide_eq_decide]
    omega
  rw [← BitVec.toNat_inj, BitVec.toNat_signExtend, half, BitVec.toNat_setWidth]
  simp only [toNat_concat, BitVec.toNat_signExtend]
  cases sign <;> cases b1.msb <;> simp <;> omega

end Bytes

variable {lsu : Lsu} {memory : Memory} {addr : Address}

theorem lane_cases (addr : Address) :
    lane addr = 0 ∨ lane addr = 1 ∨ lane addr = 2 ∨ lane addr = 3 := by
  have bound := lane_lt addr
  omega

theorem offset_eq {offset : BitVec 2} (isOffset : offset.toNat = lane addr) :
    offset = BitVec.ofNat 2 (lane addr) := by
  apply BitVec.eq_of_toNat_eq
  have bound := lane_lt addr
  rw [isOffset, BitVec.toNat_ofNat]
  omega

/-- The byte in the word of its address. -/
theorem rdataByte_eq (isOffset : lsu.addrOffsetQ.toNat = lane addr) :
    lsu.rdataByte (readWord memory addr) = lsu.extend (memory addr) := by
  have bytes := extract_byte (memory (wordAddress addr)) (memory (wordAddress addr + 1#32))
    (memory (wordAddress addr + 2#32)) (memory (wordAddress addr + 3#32))
  have there := congrArg memory (eq_wordAddress_add addr)
  rw [rdataByte, offset_eq isOffset, there, readWord]
  rcases lane_cases addr with same | same | same | same <;> rw [same]
  · rw [if_pos rfl, bytes.1, BitVec.add_zero]
  · rw [if_neg (by decide), if_pos rfl, bytes.2.1]
  · rw [if_neg (by decide), if_neg (by decide), if_pos rfl, bytes.2.2.1]
  · rw [if_neg (by decide), if_neg (by decide), if_neg (by decide), bytes.2.2.2]

/-- The half word inside the word of its address. -/
theorem rdataHalfword_inside (isOffset : lsu.addrOffsetQ.toNat = lane addr)
    (inside : lane addr ≠ 3) :
    lsu.rdataHalfword (readWord memory addr) =
      lsu.extend (memory (addr + 1#32) ++ memory addr) := by
  have halves := extract_half (memory (wordAddress addr)) (memory (wordAddress addr + 1#32))
    (memory (wordAddress addr + 2#32)) (memory (wordAddress addr + 3#32))
  have there := congrArg memory (eq_wordAddress_add addr)
  have above := congrArg memory (add_eq addr 1)
  rw [rdataHalfword, offset_eq isOffset, there, above, readWord]
  rcases lane_cases addr with same | same | same | same <;> rw [same]
  · rw [if_pos rfl, halves.1, BitVec.add_zero]
  · rw [if_neg (by decide), if_pos rfl, halves.2.1]
  · rw [if_neg (by decide), if_neg (by decide), if_pos rfl, halves.2.2]
  · exact absurd same inside

/-- The half word that crosses a word boundary, with the sign of another byte. -/
theorem rdataHalfword_across (isOffset : lsu.addrOffsetQ.toNat = lane addr)
    (across : lane addr = 3)
    (first : lsu.dataRdataQ = (readWord memory addr).extractLsb' 8 24) :
    lsu.rdataHalfword (readWord memory (addr + 4#32)) =
      if !lsu.lsuDtypeQ.getLsbD 2 then
        (BitVec.ofBool (memory (addr + 4#32)).msb).signExtend 16 ++
          (memory (addr + 1#32) ++ memory addr)
      else 0#16 ++ (memory (addr + 1#32) ++ memory addr) := by
  have there := congrArg memory (eq_wordAddress_add addr)
  have above := congrArg memory (add_eq addr 1)
  have sign := congrArg memory (add_eq addr 4)
  rw [across] at there above sign
  rw [rdataHalfword, offset_eq isOffset, across, if_neg (by decide), if_neg (by decide),
    if_neg (by decide), first, readWord_next, readWord, append_half, getLsbD_append, there, above,
    sign]

/-- The word, aligned or not. -/
theorem rdataWord_inside (isOffset : lsu.addrOffsetQ.toNat = lane addr)
    (inside : lane addr = 0) :
    lsu.rdataWord (readWord memory addr) =
      memory (addr + 3#32) ++ memory (addr + 2#32) ++ memory (addr + 1#32) ++ memory addr := by
  have start : wordAddress addr = addr := by
    have same := eq_wordAddress_add addr
    rw [inside, BitVec.add_zero] at same
    exact same.symm
  rw [rdataWord, offset_eq isOffset, inside, if_pos rfl, readWord, start]

theorem rdataWord_across (isOffset : lsu.addrOffsetQ.toNat = lane addr)
    (across : lane addr ≠ 0)
    (first : lsu.dataRdataQ = (readWord memory addr).extractLsb' 8 24) :
    lsu.rdataWord (readWord memory (addr + 4#32)) =
      memory (addr + 3#32) ++ memory (addr + 2#32) ++ memory (addr + 1#32) ++ memory addr := by
  have words := append_word (memory (wordAddress addr)) (memory (wordAddress addr + 1#32))
    (memory (wordAddress addr + 2#32)) (memory (wordAddress addr + 3#32))
    (memory (wordAddress addr + 4#32)) (memory (wordAddress addr + 5#32))
    (memory (wordAddress addr + 6#32)) (memory (wordAddress addr + 7#32))
  have byte0 := congrArg memory (eq_wordAddress_add addr)
  have byte1 := congrArg memory (add_eq addr 1)
  have byte2 := congrArg memory (add_eq addr 2)
  have byte3 := congrArg memory (add_eq addr 3)
  rw [rdataWord, offset_eq isOffset, first, readWord_next, readWord, byte0, byte1, byte2, byte3]
  rcases lane_cases addr with same | same | same | same <;> rw [same]
  · exact absurd same across
  · rw [if_neg (by decide), if_pos rfl, words.1]
  · rw [if_neg (by decide), if_neg (by decide), if_pos rfl, words.2.1]
  · rw [if_neg (by decide), if_neg (by decide), if_neg (by decide), words.2.2]

/-- What the unit holds when the last response of a load comes: the place and the type of the
access, and the word of a first response. -/
structure Awaits (lsu : Lsu) (memory : Memory) (addr : Address) (type : LoadType) (word : Word) :
    Prop where
  offset : lsu.addrOffsetQ.toNat = lane addr
  dtype : lsu.lsuDtypeQ = type.dtype
  inside : lane addr + type.size ≤ 4 → word = readWord memory addr
  across : 4 < lane addr + type.size → word = readWord memory (addr + 4#32) ∧
    lsu.dataRdataQ = (readWord memory addr).extractLsb' 8 24

namespace Awaits

variable {type : LoadType} {word : Word}

theorem lsuRdata_byte (awaits : lsu.Awaits memory addr type word) (one : type.size = 1) :
    lsu.lsuRdata word = type.value memory addr := by
  have bound := lane_lt addr
  have isWord := awaits.inside (by omega)
  have isDtype := awaits.dtype
  cases type with
  | lb =>
      rw [lsuRdata, isDtype, if_pos (by decide), isWord, rdataByte_eq awaits.offset, extend,
        isDtype]
      rfl
  | lbu =>
      rw [lsuRdata, isDtype, if_pos (by decide), isWord, rdataByte_eq awaits.offset, extend,
        isDtype]
      rfl
  | lh => cases one
  | lhu => cases one
  | lw => cases one

theorem lsuRdata_half (awaits : lsu.Awaits memory addr type word) (two : type.size = 2)
    (inside : lane addr ≠ 3) : lsu.lsuRdata word = type.value memory addr := by
  have bound := lane_lt addr
  have isWord := awaits.inside (by omega)
  have isDtype := awaits.dtype
  cases type with
  | lh =>
      rw [lsuRdata, isDtype, if_neg (by decide), if_pos (by decide), isWord,
        rdataHalfword_inside awaits.offset inside, extend, isDtype]
      rfl
  | lhu =>
      rw [lsuRdata, isDtype, if_neg (by decide), if_pos (by decide), isWord,
        rdataHalfword_inside awaits.offset inside, extend, isDtype]
      rfl
  | lb => cases two
  | lbu => cases two
  | lw => cases two

theorem lsuRdata_word (awaits : lsu.Awaits memory addr .lw word) :
    lsu.lsuRdata word = LoadType.lw.value memory addr := by
  rw [lsuRdata, awaits.dtype, if_neg (by decide), if_neg (by decide), if_pos (by decide)]
  by_cases inside : lane addr = 0
  · rw [awaits.inside (by rw [inside]; decide)]
    exact rdataWord_inside awaits.offset inside
  · have crosses : 4 < lane addr + LoadType.lw.size := by
      rw [LoadType.size]
      omega
    obtain ⟨isWord, first⟩ := awaits.across crosses
    rw [isWord]
    exact rdataWord_across awaits.offset inside first

theorem lsuRdata_unsignedAcross (awaits : lsu.Awaits memory addr .lhu word)
    (across : lane addr = 3) : lsu.lsuRdata word = LoadType.lhu.value memory addr := by
  obtain ⟨isWord, first⟩ := awaits.across (by rw [across]; decide)
  rw [lsuRdata, awaits.dtype, if_neg (by decide), if_pos (by decide), isWord,
    rdataHalfword_across awaits.offset across first, awaits.dtype, if_neg (by decide),
    LoadType.value]
  apply BitVec.eq_of_toNat_eq
  rw [toNat_concat, BitVec.toNat_setWidth, BitVec.toNat_ofNat]
  have bound := (memory (addr + 1#32) ++ memory addr).isLt
  omega

theorem lsuRdata_signedAcross (awaits : lsu.Awaits memory addr .lh word)
    (across : lane addr = 3) :
    lsu.lsuRdata word = LoadType.lh.value memory addr ↔
      (memory (addr + 4#32)).msb = (memory (addr + 1#32)).msb := by
  obtain ⟨isWord, first⟩ := awaits.across (by rw [across]; decide)
  rw [lsuRdata, awaits.dtype, if_neg (by decide), if_pos (by decide), isWord,
    rdataHalfword_across awaits.offset across first, awaits.dtype, if_pos (by decide),
    LoadType.value]
  exact signExtend_half_iff _ _ _

/-- The value is right unless a half word takes the sign of another byte. -/
theorem lsuRdata_eq_iff (awaits : lsu.Awaits memory addr type word) :
    lsu.lsuRdata word = type.value memory addr ↔ ¬ type.TakesOtherSign memory addr := by
  by_cases across : type = .lh ∧ lane addr = 3
  · obtain ⟨rfl, isLast⟩ := across
    rw [awaits.lsuRdata_signedAcross isLast, LoadType.TakesOtherSign]
    simp [isLast]
  · have right : lsu.lsuRdata word = type.value memory addr := by
      cases type with
      | lb => exact awaits.lsuRdata_byte rfl
      | lbu => exact awaits.lsuRdata_byte rfl
      | lw => exact awaits.lsuRdata_word
      | lh => exact awaits.lsuRdata_half rfl fun isLast => across ⟨rfl, isLast⟩
      | lhu =>
          by_cases isLast : lane addr = 3
          · exact awaits.lsuRdata_unsignedAcross isLast
          · exact awaits.lsuRdata_half rfl isLast
    exact ⟨fun _ other => across ⟨other.1, other.2.1⟩, fun _ => right⟩

end Awaits

end Lsu

namespace CoreRun

variable {run : CoreRun}

/-! ## The responses of one transfer -/

/-- The answers to the requests granted from `first` on are the words of a memory. -/
def ReadsFrom (run : CoreRun) (memory : Memory) (first last : Nat) : Prop :=
  ∀ cycle, first < cycle → cycle ≤ last → (run.dataBus cycle).valid = true →
    ∀ addr ∈ (pending run.dataBus cycle).head?,
      (run.dataBus cycle).data.1 = readWord memory addr

/-- A grant leaves its own address alone in the queue. -/
theorem pending_of_grant {cycle : Nat} (before : run.AtMostOne cycle)
    (inOrder : InOrder (fun _ _ => True) run.dataBus) (second : ∀ last, run.SecondAfterFirst last)
    (granted : (run.dataBus cycle).granted = true) :
    pending run.dataBus (cycle + 1) = [(run.dataBus cycle).addr] := by
  have grant := granted
  rw [BusProtocol.Cycle.granted_of_requested (inOrder.requested cycle)] at grant
  have few := before.length_pending_of_grant inOrder second grant
  rw [BusProtocol.pending_succ, BusProtocol.nextPending, if_pos granted]
  cases valid : (run.dataBus cycle).valid with
  | false =>
      rw [valid, Bool.toNat_false, Nat.le_zero] at few
      rw [if_neg Bool.false_ne_true, List.eq_nil_of_length_eq_zero few]
      rfl
  | true =>
      rw [valid, Bool.toNat_true] at few
      have empty : (pending run.dataBus cycle).tail = [] := by
        apply List.eq_nil_of_length_eq_zero
        rw [List.length_tail]
        omega
      rw [if_pos rfl, empty]
      rfl

theorem pending_of_silent {cycle : Nat} (noGrant : (run.dataBus cycle).gnt = false)
    (silent : (run.dataBus cycle).valid = false) :
    pending run.dataBus (cycle + 1) = pending run.dataBus cycle := by
  rw [BusProtocol.pending_succ, BusProtocol.nextPending, silent, BusProtocol.Cycle.granted, noGrant,
    Bool.and_false]
  simp

theorem dataRdataQ_succ (cycle : Nat) :
    (run.state (cycle + 1)).lsu.dataRdataQ =
      if (run.state cycle).lsu.unalignQ && (run.dataBus cycle).valid then
        (run.dataBus cycle).data.1.extractLsb' 8 24
      else (run.state cycle).lsu.dataRdataQ := rfl

theorem place_succ (cycle : Nat) :
    (run.state (cycle + 1)).lsu.addrOffsetQ =
      (if (run.dataBus cycle).granted then
        Lsu.addrOffset ((run.state cycle).lsuAccess (run.inputs cycle))
      else (run.state cycle).lsu.addrOffsetQ) ∧
    (run.state (cycle + 1)).lsu.lsuDtypeQ =
      (if (run.dataBus cycle).granted then
        ((run.state cycle).lsuAccess (run.inputs cycle)).lsuDtype
      else (run.state cycle).lsu.lsuDtypeQ) := ⟨rfl, rfl⟩

/-- Between its requests, a split access has its first word queued, or answered and kept. -/
def FirstWord (run : CoreRun) (memory : Memory) (addr : Address) (cycle : Nat) : Prop :=
  pending run.dataBus cycle = [addr] ∨ pending run.dataBus cycle = [] ∧
    (run.state cycle).lsu.dataRdataQ = (readWord memory addr).extractLsb' 8 24

theorem FirstWord.succ {memory : Memory} {addr : Address} {cycle : Nat}
    (word : run.FirstWord memory addr cycle) (inOrder : InOrder (fun _ _ => True) run.dataBus)
    (split : (run.state cycle).lsu.unalignQ = true)
    (noGrant : (run.dataBus cycle).gnt = false)
    (reads : (run.dataBus cycle).valid = true → ∀ addr ∈ (pending run.dataBus cycle).head?,
      (run.dataBus cycle).data.1 = readWord memory addr) :
    run.FirstWord memory addr (cycle + 1) := by
  have rdata := run.dataRdataQ_succ cycle
  rw [split, Bool.true_and] at rdata
  cases valid : (run.dataBus cycle).valid with
  | false =>
      rw [valid] at rdata
      rw [FirstWord, pending_of_silent noGrant valid, rdata]
      exact word
  | true =>
      rw [valid, if_pos rfl] at rdata
      rcases word with queue | ⟨empty, -⟩
      · refine .inr ⟨?_, ?_⟩
        · rw [BusProtocol.pending_succ, BusProtocol.nextPending, valid, if_pos rfl, queue,
            BusProtocol.Cycle.granted, noGrant, Bool.and_false]
          rfl
        · rw [rdata, reads valid addr (by rw [queue]; rfl)]
      · obtain ⟨other, rest, queue, -⟩ := inOrder.answered cycle valid
        rw [empty] at queue
        cases queue

/-- WB waits for the response to the address alone in the queue. -/
structure WaitsAlone (run : CoreRun) (addr : Word) (cycle : Nat) : Prop where
  inWb : (run.state cycle).memWb.lsuEnWb = true
  whole : (run.state cycle).lsu.unalignQ = false
  queue : pending run.dataBus cycle = [addr]

/-- Nothing changes while WB waits. -/
theorem WaitsAlone.succ {addr : Word} {cycle : Nat} (waits : run.WaitsAlone addr cycle)
    (grants : run.GrantsRequests)
    (notYet : (run.state cycle).lsuValidWb (run.inputs cycle) = false) :
    run.WaitsAlone addr (cycle + 1) ∧
      (run.state (cycle + 1)).lsu.dataRdataQ = (run.state cycle).lsu.dataRdataQ ∧
      (run.state (cycle + 1)).lsu.addrOffsetQ = (run.state cycle).lsu.addrOffsetQ ∧
      (run.state (cycle + 1)).lsu.lsuDtypeQ = (run.state cycle).lsu.lsuDtypeQ := by
  have notReady : (run.state cycle).readyWb (run.inputs cycle) = false := by
    rw [CoreState.readyWb, WbStage.readyWb, if_pos waits.inWb, notYet]
    rfl
  have noGrant : (run.dataBus cycle).gnt = false := by
    cases grant : (run.dataBus cycle).gnt with
    | false => rfl
    | true =>
        obtain ⟨-, readyWb, -⟩ := CoreState.access_of_dataReq (grants cycle grant)
        rw [notReady] at readyWb
        cases readyWb
  have silent : (run.dataBus cycle).valid = false := by
    rw [lsuValidWb_eq, waits.whole] at notYet
    simpa using notYet
  have notGranted : (run.dataBus cycle).granted = false := by
    rw [BusProtocol.Cycle.granted, noGrant, Bool.and_false]
  obtain ⟨offset, dtype⟩ := run.place_succ cycle
  rw [notGranted] at offset dtype
  refine ⟨⟨?_, ?_, ?_⟩, ?_, offset, dtype⟩
  · rw [run.state_succ, (CoreState.memWb_step_of_notReady notReady).1]
    exact waits.inWb
  · rw [unalignQ_of_noGrant noGrant]
    exact waits.whole
  · rw [pending_of_silent noGrant silent]
    exact waits.queue
  · rw [dataRdataQ_succ, waits.whole]
    rfl

theorem WaitsAlone.until {addr : Word} {start last : Nat} (waits : run.WaitsAlone addr start)
    (grants : run.GrantsRequests) (ordered : start ≤ last)
    (notYet : ∀ cycle, start ≤ cycle → cycle < last →
      (run.state cycle).lsuValidWb (run.inputs cycle) = false) :
    run.WaitsAlone addr last ∧
      (run.state last).lsu.dataRdataQ = (run.state start).lsu.dataRdataQ ∧
      (run.state last).lsu.addrOffsetQ = (run.state start).lsu.addrOffsetQ ∧
      (run.state last).lsu.lsuDtypeQ = (run.state start).lsu.lsuDtypeQ := by
  induction last with
  | zero =>
      obtain rfl : start = 0 := by omega
      exact ⟨waits, rfl, rfl, rfl⟩
  | succ last induction =>
      rcases Nat.eq_or_lt_of_le ordered with rfl | below
      · exact ⟨waits, rfl, rfl, rfl⟩
      · obtain ⟨still, rdata, offset, dtype⟩ := induction (by omega)
          fun cycle after inside => notYet cycle after (by omega)
        obtain ⟨next, nextRdata, nextOffset, nextDtype⟩ :=
          still.succ grants (notYet last (by omega) (by omega))
        exact ⟨next, nextRdata.trans rdata, nextOffset.trans offset, nextDtype.trans dtype⟩

namespace Transfer

variable {access : Lsu.Access} {before first leaves : Nat}
variable (transfer : run.Transfer access before first leaves)
include transfer

theorem inMem_leaves : (run.state leaves).exMem.lsuEnMem = true ∧
    CoreState.accessMem (run.state leaves).exMem = access :=
  CoreState.accessInMem_eq_singleton_iff.mp
    (transfer.accessInMem transfer.hands.after (Nat.le_refl _))

theorem dataReq_leaves : Lsu.dataReq ((run.state leaves).lsuAccess (run.inputs leaves)) = true ∧
    (run.dataBus leaves).gnt = true := by
  have granted := transfer.lastGranted
  rwa [BusProtocol.Cycle.granted, Bool.and_eq_true] at granted

/-- The access that leaves MEM waits in WB, with its place and type latched. -/
theorem waits_afterLeaves (inOrder : InOrder (fun _ _ => True) run.dataBus)
    (second : ∀ last, run.SecondAfterFirst last) (now : run.AtMostOne leaves) :
    run.WaitsAlone (run.dataBus leaves).addr (leaves + 1) ∧
      (run.state (leaves + 1)).lsu.addrOffsetQ = Lsu.addrOffset access ∧
      (run.state (leaves + 1)).lsu.lsuDtypeQ = access.lsuDtype := by
  obtain ⟨request, grant⟩ := transfer.dataReq_leaves
  obtain ⟨inMem, isAccess⟩ := transfer.inMem_leaves
  obtain ⟨inWb, isLeaving, -⟩ := CoreState.lsuEnWb_step_of_grant run.params now.owned request grant
  rw [CoreState.leavingAccess, transfer.hands.happens, inMem, ← run.state_succ] at isLeaving
  have whole : (run.state (leaves + 1)).lsu.unalignQ = false := by simpa using isLeaving
  rw [← run.state_succ, whole] at inWb
  obtain ⟨offset, dtype⟩ := run.place_succ leaves
  rw [transfer.lastGranted] at offset dtype
  refine ⟨⟨inWb, whole, pending_of_grant now inOrder second transfer.lastGranted⟩, ?_, ?_⟩
  · rw [offset, ← isAccess]
    rfl
  · rw [dtype, ← isAccess]
    rfl

theorem addr_eq {cycle : Nat} (after : before < cycle) (inside : cycle ≤ leaves) :
    (run.dataBus cycle).addr =
      if (run.state cycle).lsu.unalignQ then access.lsuAddr + 4#32 else access.lsuAddr := by
  obtain ⟨-, isAccess⟩ :=
    CoreState.accessInMem_eq_singleton_iff.mp (transfer.accessInMem after inside)
  rw [← isAccess]
  rfl

/-- The word of the first response is kept up to the second request. -/
theorem firstWord_kept (inOrder : InOrder (fun _ _ => True) run.dataBus)
    (second : ∀ last, run.SecondAfterFirst last) (now : run.AtMostOne first)
    (whole : (run.state first).lsu.unalignQ = false) {memory : Memory} {last : Nat}
    (reads : run.ReadsFrom memory first last) (upTo : leaves ≤ last)
    (crosses : Lsu.reqUnalign access = true) {cycle : Nat} (after : first < cycle)
    (inside : cycle ≤ leaves) : run.FirstWord memory access.lsuAddr cycle := by
  induction cycle with
  | zero => omega
  | succ cycle induction =>
      rcases Nat.eq_or_lt_of_le (Nat.le_of_lt_succ after) with rfl | later
      · left
        rw [pending_of_grant now inOrder second transfer.first.happens,
          transfer.addr_eq transfer.first.after transfer.first_le_leaves, whole]
        rfl
      · obtain ⟨split, noGrant⟩ := transfer.between whole inOrder.requested crosses later
          (by omega)
        exact (induction later (by omega)).succ inOrder split (noGrant (by omega))
          fun valid => reads cycle later (by omega) valid

/-- With the second request granted, the first word has been answered. -/
theorem dataRdataQ_afterLeaves (inOrder : InOrder (fun _ _ => True) run.dataBus)
    (second : ∀ last, run.SecondAfterFirst last) (now : run.AtMostOne first)
    (whole : (run.state first).lsu.unalignQ = false) {memory : Memory} {last : Nat}
    (reads : run.ReadsFrom memory first last) (upTo : leaves ≤ last)
    (crosses : Lsu.reqUnalign access = true) :
    (run.state (leaves + 1)).lsu.dataRdataQ =
      (readWord memory access.lsuAddr).extractLsb' 8 24 := by
  have later := transfer.first_lt_leaves whole crosses
  have kept := transfer.firstWord_kept inOrder second now whole reads upTo crosses later
    (Nat.le_refl _)
  obtain ⟨split, -⟩ := transfer.between whole inOrder.requested crosses later (Nat.le_refl _)
  have few := second (leaves + 1) leaves (by omega) split transfer.dataReq_leaves.2
  rw [dataRdataQ_succ, split, Bool.true_and]
  rcases kept with queue | ⟨empty, word⟩
  · rw [queue] at few
    cases valid : (run.dataBus leaves).valid with
    | true => rw [if_pos rfl, reads leaves later upTo valid _ (by rw [queue]; rfl)]
    | false =>
        rw [valid] at few
        cases few
  · cases valid : (run.dataBus leaves).valid with
    | false => exact word
    | true =>
        obtain ⟨addr, rest, queue, -⟩ := inOrder.answered leaves valid
        rw [empty] at queue
        cases queue

/-- What the unit holds when the load is answered. -/
theorem awaits (inOrder : InOrder (fun _ _ => True) run.dataBus)
    (second : ∀ last, run.SecondAfterFirst last) (uncut : run.SplitsUncut) {type : LoadType}
    (isType : access.lsuDtype = type.dtype) {memory : Memory} {answered : Nat}
    (answers : FirstFrom (fun cycle =>
      (run.state cycle).lsuValidWb (run.inputs cycle) = true) (leaves + 1) answered)
    (reads : run.ReadsFrom memory first answered) :
    (run.state answered).lsu.Awaits memory access.lsuAddr type
      (run.dataBus answered).data.1 := by
  have now := atMostOne uncut inOrder second
  have whole := transfer.unalignQ_until_first uncut inOrder.requested (now before).owned
    transfer.first.after (Nat.le_refl _)
  obtain ⟨waits, offset, dtype⟩ := transfer.waits_afterLeaves inOrder second (now leaves)
  obtain ⟨still, rdata, sameOffset, sameDtype⟩ := waits.until inOrder.requested answers.after
    fun cycle after inside => by
      rw [← Bool.not_eq_true]
      exact answers.notBefore cycle after inside
  have valid : (run.dataBus answered).valid = true := by
    have happens := answers.happens
    rw [lsuValidWb_eq, Bool.and_eq_true] at happens
    exact happens.2
  have ordered := transfer.first_le_leaves
  have afterLeaves := answers.after
  have word := reads answered (by omega) (Nat.le_refl _) valid _ (by rw [still.queue]; rfl)
  have crossing : Lsu.reqUnalign access = true ↔ 4 < lane access.lsuAddr + type.size := by
    rw [Lsu.reqUnalign, Lsu.crossesWord_iff, isType, Lsu.toNat_addrOffset, type.accessBytes_dtype,
      decide_eq_true_eq]
  have atLeaves := transfer.addr_eq transfer.hands.after (Nat.le_refl _)
  refine ⟨?_, ?_, ?_, ?_⟩
  · rw [sameOffset, offset, Lsu.toNat_addrOffset]
  · rw [sameDtype, dtype, isType]
  · intro inside
    have noCross : Lsu.reqUnalign access = false := by
      rw [← Bool.not_eq_true, crossing]
      omega
    rw [word, atLeaves, transfer.leaves_eq_first whole noCross, whole]
    rfl
  · intro across
    have crosses := crossing.mpr across
    have later := transfer.first_lt_leaves whole crosses
    obtain ⟨split, -⟩ := transfer.between whole inOrder.requested crosses later (Nat.le_refl _)
    refine ⟨?_, ?_⟩
    · rw [word, atLeaves, split]
      rfl
    · rw [rdata]
      exact transfer.dataRdataQ_afterLeaves inOrder second (now first) whole reads (by omega)
        crosses

end Transfer

/-- A load returns the value at its address, extended, unless it is a half word that takes the
sign of another byte. -/
theorem loads_iff_ownSign (run : CoreRun) (inOrder : InOrder (fun _ _ => True) run.dataBus)
    (second : ∀ last, run.SecondAfterFirst last) (uncut : run.SplitsUncut) {access : Lsu.Access}
    {before first leaves answered : Nat} (transfer : run.Transfer access before first leaves)
    {type : LoadType} (isType : access.lsuDtype = type.dtype) (memory : Memory)
    (answers : FirstFrom (fun cycle =>
      (run.state cycle).lsuValidWb (run.inputs cycle) = true) (leaves + 1) answered)
    (reads : run.ReadsFrom memory first answered) :
    (run.state answered).lsu.lsuRdata (run.inputs answered).dataRdata =
        type.value memory access.lsuAddr ↔
      ¬ type.TakesOtherSign memory access.lsuAddr :=
  (transfer.awaits inOrder second uncut isType answers reads).lsuRdata_eq_iff

end CoreRun

/-- A memory in which only byte 4 is not zero. -/
def signByte : Memory := fun addr => if addr = 4#32 then 0x80#8 else 0#8

/-- `lh x1, 3(x0)` and `lhu x2, 3(x0)`. -/
def Surroundings.loadsHalves : Surroundings where
  program := Surroundings.programOf [0x00301083#32, 0x00305103#32]
  dataAnswer := fun addr => (readWord signByte addr, false)
  rest := 12

namespace CoreRun

open Surroundings (loadsHalves)

def halfFrom (type : LoadType) (lsuWdata : Word) : Lsu.Access where
  lsuEn := true
  lsuOp := .ld
  lsuDtype := type.dtype
  lsuAddr := 3#32
  lsuWdata

theorem transfer_loadsHalves :
    loadsHalves.coreRun.Transfer (halfFrom .lh 0x800#32) 4 5 6 ∧
      loadsHalves.coreRun.Transfer (halfFrom .lhu 2#32) 6 7 8 := by
  decide +kernel

theorem reads_loadsHalves (first last : Nat) :
    loadsHalves.coreRun.ReadsFrom signByte first last := by
  intro cycle _ _ valid addr isHead
  obtain ⟨head, rest, queue, answer⟩ := loadsHalves.inOrder_dataBus.answered cycle valid
  rw [queue] at isHead
  obtain rfl : head = addr := by simpa using isHead
  rw [answer]
  rfl

theorem splitsUncut_loadsHalves : loadsHalves.coreRun.SplitsUncut := by
  intro cycle flush
  have noFlush := loadsHalves.forall_cycle_of_settled 19 (by decide) (fun _ _ => rfl)
    (by decide +kernel) (fun st _ => st.flushE = false) (by decide +kernel) cycle
  rw [noFlush] at flush
  cases flush

/-- The unsigned half word. -/
theorem loads_unsignedHalf :
    (loadsHalves.coreRun.state 9).lsu.lsuRdata (loadsHalves.coreRun.inputs 9).dataRdata =
        LoadType.lhu.value signByte 3#32 ↔
      ¬ LoadType.lhu.TakesOtherSign signByte 3#32 :=
  have isHalf : (halfFrom .lhu 2#32).lsuDtype = LoadType.lhu.dtype := rfl
  have answers : FirstFrom (fun cycle => (loadsHalves.coreRun.state cycle).lsuValidWb
      (loadsHalves.coreRun.inputs cycle) = true) 9 9 := by decide +kernel
  loads_iff_ownSign _ loadsHalves.wellConnected.data (secondAfterFirst_of_surroundings _)
    splitsUncut_loadsHalves transfer_loadsHalves.2 isHalf signByte answers
    (reads_loadsHalves 7 9)

/-- The signed half word `0x8000` is zero-extended. -/
theorem loads_fails :
    ¬ ∀ (run : CoreRun), InOrder (fun _ _ => True) run.dataBus →
      (∀ last, run.SecondAfterFirst last) →
      ∀ (access : Lsu.Access) (before first leaves answered : Nat),
        run.Transfer access before first leaves → ∀ (type : LoadType),
        access.lsuDtype = type.dtype → ∀ (memory : Memory),
        FirstFrom (fun cycle => (run.state cycle).lsuValidWb (run.inputs cycle) = true)
          (leaves + 1) answered →
        run.ReadsFrom memory first answered →
        (run.state answered).lsu.lsuRdata (run.inputs answered).dataRdata =
          type.value memory access.lsuAddr := by
  intro loads
  have answers : FirstFrom (fun cycle => (loadsHalves.coreRun.state cycle).lsuValidWb
      (loadsHalves.coreRun.inputs cycle) = true) 7 7 := by decide +kernel
  have loaded := loads _ loadsHalves.wellConnected.data (secondAfterFirst_of_surroundings _) _ 4 5
    6 7 transfer_loadsHalves.1 .lh rfl signByte answers
    (reads_loadsHalves 5 7)
  revert loaded
  decide +kernel

end CoreRun

end RiscvCore
