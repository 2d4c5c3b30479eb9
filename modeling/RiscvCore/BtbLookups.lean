import RiscvCore.Btb
import RiscvCore.SynchronousRun

/-!
# What a lookup finds in the branch target buffer

Runs from reset in which a lookup and an update never fall into the same cycle.  The outputs of the
memories are those of the slot of the last lookup, as the updates before it left it, so that a hit
says that the last of these was made for the PC looked up.
-/

namespace RiscvCore

open SynchronousRun (LastBefore lastBefore_succ_iff exists_lastBefore_or_never)

namespace MemWrap

variable {addrWidth dataWidth : Nat} (inputs : Nat → Input addrWidth dataWidth)

def state : Nat → MemWrap addrWidth dataWidth := SynchronousRun.run next reset inputs

def WritesTo (addr : BitVec addrWidth) (cycle : Nat) : Prop :=
  ((inputs cycle).en = true ∧ (inputs cycle).wr = true) ∧ (inputs cycle).addr = addr

def Reads (cycle : Nat) : Prop := (inputs cycle).en = true ∧ (inputs cycle).wr = false

variable {inputs}

theorem mem_succ_of_writesTo {addr : BitVec addrWidth} {cycle : Nat}
    (writes : WritesTo inputs addr cycle) :
    (state inputs (cycle + 1)).mem addr = (inputs cycle).wdata := by
  change (if (inputs cycle).en && (inputs cycle).wr && addr == (inputs cycle).addr
    then _ else _) = _
  rw [writes.1.1, writes.1.2, writes.2, beq_self_eq_true, if_pos (by rfl)]

theorem mem_succ_of_notWritesTo {addr : BitVec addrWidth} {cycle : Nat}
    (keeps : ¬ WritesTo inputs addr cycle) :
    (state inputs (cycle + 1)).mem addr = (state inputs cycle).mem addr := by
  apply if_neg
  intro writes
  rw [Bool.and_eq_true, Bool.and_eq_true, beq_iff_eq] at writes
  exact keeps ⟨writes.1, writes.2.symm⟩

/-- An address holds what the last write to it put there. -/
theorem mem_eq_wdata {addr : BitVec addrWidth} {bound cycle : Nat}
    (last : LastBefore (WritesTo inputs addr) bound cycle) :
    (state inputs bound).mem addr = (inputs cycle).wdata := by
  induction bound with
  | zero => exact absurd last.before (Nat.not_lt_zero cycle)
  | succ bound induction =>
      rcases lastBefore_succ_iff.mp last with ⟨writes, rfl⟩ | ⟨keeps, earlier⟩
      · exact mem_succ_of_writesTo writes
      · rw [mem_succ_of_notWritesTo keeps]
        exact induction earlier

theorem mem_eq_zero {addr : BitVec addrWidth} {bound : Nat}
    (never : ∀ cycle, cycle < bound → ¬ WritesTo inputs addr cycle) :
    (state inputs bound).mem addr = BitVec.ofNat dataWidth 0 := by
  induction bound with
  | zero => rfl
  | succ bound induction =>
      rw [mem_succ_of_notWritesTo (never bound (Nat.lt_succ_self bound))]
      exact induction fun cycle below => never cycle (by omega)

/-- The output holds what the last read found. -/
theorem rdata_eq {bound cycle : Nat} (last : LastBefore (Reads inputs) bound cycle) :
    (state inputs bound).rdata = (state inputs cycle).mem (inputs cycle).addr := by
  induction bound with
  | zero => exact absurd last.before (Nat.not_lt_zero cycle)
  | succ bound induction =>
      change (if (inputs bound).en && !(inputs bound).wr then
        (state inputs bound).mem (inputs bound).addr else (state inputs bound).rdata) = _
      rcases lastBefore_succ_iff.mp last with ⟨⟨enabled, noWrite⟩, rfl⟩ | ⟨holds, earlier⟩
      · rw [enabled, noWrite]
        rfl
      · rw [if_neg]
        · exact induction earlier
        · intro reads
          rw [Bool.and_eq_true, Bool.not_eq_true'] at reads
          exact holds reads

end MemWrap

namespace Btb

/-- The slot of a PC. -/
def slot (entry : Nat) (pc : BitVec 31) : BitVec (tagAddrWidth entry) :=
  pcBits pc (1 + groupWidth) (tagAddrWidth entry)

variable {entry : Nat}

theorem getLsbD_pcBits (pc : BitVec 31) (low width position : Nat) :
    (pcBits pc low width).getLsbD position =
      (decide (position < width) && pc.getLsbD (low - 1 + position)) :=
  BitVec.getLsbD_extractLsb' ..

/-- A PC is its group, its slot and its tag, if these fit into it. -/
theorem eq_of_fields (fits : 0 < indexWidth entry) {pc other : BitVec 31}
    (sameGroup : pcBits pc 1 groupWidth = pcBits other 1 groupWidth)
    (sameSlot : slot entry pc = slot entry other)
    (sameTag : pcBits pc (1 + groupWidth + tagAddrWidth entry) (indexWidth entry) =
      pcBits other (1 + groupWidth + tagAddrWidth entry) (indexWidth entry)) : pc = other := by
  have total : groupWidth + tagAddrWidth entry + indexWidth entry = 31 := by
    rw [indexWidth] at fits ⊢
    omega
  have field {low width position : Nat} (same : pcBits pc low width = pcBits other low width)
      (above : low - 1 ≤ position) (below : position < low - 1 + width) :
      pc.getLsbD position = other.getLsbD position := by
    have bit := congrArg (fun bits => bits.getLsbD (position - (low - 1))) same
    have inside : position - (low - 1) < width := by omega
    simp only [getLsbD_pcBits, decide_eq_true inside, Bool.true_and] at bit
    rwa [Nat.add_sub_cancel' above] at bit
  apply BitVec.eq_of_getLsbD_eq
  intro position inside
  rcases Nat.lt_or_ge position groupWidth with inGroup | pastGroup
  · exact field sameGroup (Nat.zero_le _) (by omega)
  · rcases Nat.lt_or_ge position (groupWidth + tagAddrWidth entry) with inSlot | pastSlot
    · exact field sameSlot (by omega) (by omega)
    · exact field sameTag (by omega) (by omega)

/-! ## Runs -/

section Run

variable (entry) (inputs : Nat → Input)

def state : Nat → Btb entry := SynchronousRun.run next reset inputs

/-- The lookup is the last one, and neither with it nor since then was there a flush. -/
structure Answered (lookup cycle : Nat) : Prop where
  last : LastBefore (fun cycle => (inputs cycle).btbRd = true) cycle lookup
  noFlush : ∀ between, lookup ≤ between → between < cycle → (inputs between).flush = false

def Updates (pc : BitVec 31) (cycle : Nat) : Prop :=
  (inputs cycle).btbWr = true ∧ slot entry (inputs cycle).pcW = slot entry pc

/-- The last update before the lookup to the slot of its PC was made for this PC, and is not an
invalidation. -/
structure StoredFor (lookup update : Nat) : Prop where
  last : LastBefore (Updates entry inputs (inputs lookup).pcR) lookup update
  samePc : (inputs update).pcW = (inputs lookup).pcR
  kept : (inputs update).btbInvalid = false

/-- What the buffer answers in a cycle. -/
structure Predicts (cycle : Nat) : Prop where
  hit : ∀ lookup, Answered inputs lookup cycle →
    ((state entry inputs cycle).btbHit = true ↔ ∃ update, StoredFor entry inputs lookup update)
  target : ∀ lookup update, Answered inputs lookup cycle →
    StoredFor entry inputs lookup update →
      (state entry inputs cycle).targetPcR = (inputs update).targetPcW.extractLsb' 1 31
  noHit : (¬ ∃ lookup, Answered inputs lookup cycle) →
    (state entry inputs cycle).btbHit = false

end Run

variable {inputs : Nat → Input}

theorem state_succ (cycle : Nat) :
    state entry inputs (cycle + 1) = (state entry inputs cycle).next (inputs cycle) := rfl

theorem tagMem_state (cycle : Nat) :
    (state entry inputs cycle).tagMem =
      MemWrap.state (fun cycle => tagPort entry (inputs cycle)) cycle := by
  induction cycle with
  | zero => rfl
  | succ cycle induction =>
      rw [state_succ]
      exact congrArg (fun ram => MemWrap.next ram (tagPort entry (inputs cycle))) induction

theorem dataMem_state (cycle : Nat) :
    (state entry inputs cycle).dataMem =
      MemWrap.state (fun cycle => dataPort entry (inputs cycle)) cycle := by
  induction cycle with
  | zero => rfl
  | succ cycle induction =>
      rw [state_succ]
      exact congrArg (fun ram => MemWrap.next ram (dataPort entry (inputs cycle))) induction

theorem answered_succ_iff {lookup cycle : Nat} : Answered inputs lookup (cycle + 1) ↔
    (inputs cycle).flush = false ∧
      (((inputs cycle).btbRd = true ∧ lookup = cycle) ∨
        ((inputs cycle).btbRd = false ∧ Answered inputs lookup cycle)) := by
  constructor
  · rintro ⟨last, noFlush⟩
    refine ⟨noFlush cycle (Nat.le_of_lt_succ last.before) (Nat.lt_succ_self cycle), ?_⟩
    rcases lastBefore_succ_iff.mp last with now | ⟨notNow, earlier⟩
    · exact .inl now
    · exact .inr ⟨Bool.eq_false_iff.mpr notNow, earlier,
        fun between lower upper => noFlush between lower (by omega)⟩
  · rintro ⟨noFlush, ⟨now, rfl⟩ | ⟨notNow, last, earlier⟩⟩
    · refine ⟨lastBefore_succ_iff.mpr (.inl ⟨now, rfl⟩), fun between lower upper => ?_⟩
      rwa [Nat.le_antisymm (Nat.le_of_lt_succ upper) lower]
    · refine ⟨lastBefore_succ_iff.mpr (.inr ⟨Bool.eq_false_iff.mp notNow, last⟩),
        fun between lower upper => ?_⟩
      rcases Nat.eq_or_lt_of_le (Nat.le_of_lt_succ upper) with rfl | before
      · exact noFlush
      · exact earlier between lower before

/-- `rd_pick` says that there is a lookup to answer, and `pc_r_hold` keeps its PC. -/
theorem rdPick_iff (cycle : Nat) :
    (state entry inputs cycle).rdPick = true ↔ ∃ lookup, Answered inputs lookup cycle := by
  induction cycle with
  | zero =>
      constructor
      · intro picked
        cases picked
      · rintro ⟨lookup, answered⟩
        exact absurd answered.last.before (Nat.not_lt_zero lookup)
  | succ cycle induction =>
      change (if (inputs cycle).flush then false else
        if (inputs cycle).btbRd then true else (state entry inputs cycle).rdPick) = true ↔ _
      simp only [answered_succ_iff]
      cases (inputs cycle).flush with
      | true => simp
      | false =>
          cases (inputs cycle).btbRd with
          | true => simp
          | false => simpa using induction

theorem pcRHold_eq {lookup cycle : Nat} (answered : Answered inputs lookup cycle) :
    (state entry inputs cycle).pcRHold = (inputs lookup).pcR := by
  induction cycle with
  | zero => exact absurd answered.last.before (Nat.not_lt_zero lookup)
  | succ cycle induction =>
      change (if (inputs cycle).flush then 0#31 else
        if (inputs cycle).btbRd then (inputs cycle).pcR else
          (state entry inputs cycle).pcRHold) = _
      obtain ⟨noFlush, ⟨now, rfl⟩ | ⟨notNow, earlier⟩⟩ := answered_succ_iff.mp answered
      · rw [noFlush, now]
        rfl
      · rw [noFlush, notNow]
        exact induction earlier

theorem getLsbD_tagWdata (port : Input) (position : Nat) :
    (tagWdata entry port).getLsbD position =
      if position < groupWidth then (pcBits port.pcW 1 groupWidth).getLsbD position
      else if position - groupWidth < indexWidth entry then
        (pcBits port.pcW (1 + groupWidth + tagAddrWidth entry)
          (indexWidth entry)).getLsbD (position - groupWidth)
      else (BitVec.ofBool (!port.btbInvalid)).getLsbD
        (position - groupWidth - indexWidth entry) := by
  rw [tagWdata, BitVec.getLsbD_cast, BitVec.getLsbD_append, BitVec.getLsbD_append]

/-- The fields of an entry as an update wrote them. -/
theorem btbTag_of_tagWdata {btb : Btb entry} {port : Input}
    (read : btb.tagMem.rdata = tagWdata entry port) :
    btb.btbTag.valid = !port.btbInvalid ∧
      btb.btbTag.group = pcBits port.pcW 1 groupWidth ∧
      btb.btbTag.tag =
        pcBits port.pcW (1 + groupWidth + tagAddrWidth entry) (indexWidth entry) := by
  refine ⟨?_, ?_, ?_⟩
  · have top : tagDataWidth entry - 1 = groupWidth + indexWidth entry := rfl
    rw [btbTag, read, getLsbD_tagWdata, top, if_neg (by omega), if_neg (by omega),
      Nat.add_sub_cancel_left, Nat.sub_self]
    cases port.btbInvalid <;> rfl
  · apply BitVec.eq_of_getLsbD_eq
    intro position inside
    rw [btbTag, read, BitVec.getLsbD_extractLsb', decide_eq_true inside, Bool.true_and,
      Nat.zero_add, getLsbD_tagWdata, if_pos inside]
  · apply BitVec.eq_of_getLsbD_eq
    intro position inside
    rw [btbTag, read, BitVec.getLsbD_extractLsb', decide_eq_true inside, Bool.true_and,
      getLsbD_tagWdata, if_neg (by omega), Nat.add_sub_cancel_left, if_pos inside]

section Exclusive

variable (exclusive : ∀ cycle, (inputs cycle).btbRd = true → (inputs cycle).btbWr = false)
include exclusive

/-- The memories are read by the lookups. -/
theorem reads_of_answered {lookup cycle : Nat} (answered : Answered inputs lookup cycle) :
    LastBefore (fun cycle => ((inputs cycle).btbRd || (inputs cycle).btbWr) = true ∧
      (inputs cycle).btbWr = false) cycle lookup := by
  apply answered.last.congr
  intro cycle
  constructor
  · intro looked
    rw [looked, exclusive cycle looked]
    exact ⟨rfl, rfl⟩
  · rintro ⟨either, noUpdate⟩
    rwa [noUpdate, Bool.or_false] at either

theorem tagMem_rdata {lookup cycle : Nat} (answered : Answered inputs lookup cycle) :
    (state entry inputs cycle).tagMem.rdata =
      (state entry inputs lookup).tagMem.mem (slot entry (inputs lookup).pcR) := by
  have noUpdate := exclusive lookup answered.last.happens
  have read := @MemWrap.rdata_eq _ _ (fun cycle => tagPort entry (inputs cycle)) _ _
    (reads_of_answered exclusive answered)
  have address : tagAddr entry (inputs lookup) = slot entry (inputs lookup).pcR := by
    rw [tagAddr, noUpdate]
    rfl
  rw [tagMem_state, tagMem_state, read, ← address]
  rfl

theorem dataMem_rdata {lookup cycle : Nat} (answered : Answered inputs lookup cycle) :
    (state entry inputs cycle).dataMem.rdata =
      (state entry inputs lookup).dataMem.mem (slot entry (inputs lookup).pcR) := by
  have noUpdate := exclusive lookup answered.last.happens
  have read := @MemWrap.rdata_eq _ _ (fun cycle => dataPort entry (inputs cycle)) _ _
    (reads_of_answered exclusive answered)
  have address : dataAddr entry (inputs lookup) = slot entry (inputs lookup).pcR := by
    rw [dataAddr, noUpdate]
    rfl
  rw [dataMem_state, dataMem_state, read, ← address]
  rfl

omit exclusive

theorem writesTo_tagMem_iff (pc : BitVec 31) (cycle : Nat) :
    Updates entry inputs pc cycle ↔
      MemWrap.WritesTo (fun cycle => tagPort entry (inputs cycle)) (slot entry pc) cycle := by
  constructor
  · rintro ⟨writes, sameSlot⟩
    refine ⟨⟨?_, writes⟩, ?_⟩
    · exact (congrArg _ writes).trans (Bool.or_true _)
    · exact (if_pos writes).trans sameSlot
  · rintro ⟨⟨-, writes⟩, sameAddr⟩
    exact ⟨writes, (if_pos writes).symm.trans sameAddr⟩

theorem writesTo_dataMem_iff (pc : BitVec 31) (cycle : Nat) :
    Updates entry inputs pc cycle ↔
      MemWrap.WritesTo (fun cycle => dataPort entry (inputs cycle)) (slot entry pc) cycle := by
  constructor
  · rintro ⟨writes, sameSlot⟩
    refine ⟨⟨?_, writes⟩, ?_⟩
    · exact (congrArg _ writes).trans (Bool.or_true _)
    · exact (if_pos writes).trans sameSlot
  · rintro ⟨⟨-, writes⟩, sameAddr⟩
    exact ⟨writes, (if_pos writes).symm.trans sameAddr⟩

include exclusive

/-- The entry found is the one that the last update to the slot wrote. -/
theorem tagMem_rdata_of_update {lookup cycle update : Nat}
    (answered : Answered inputs lookup cycle)
    (last : LastBefore (Updates entry inputs (inputs lookup).pcR) lookup update) :
    (state entry inputs cycle).tagMem.rdata = tagWdata entry (inputs update) := by
  rw [tagMem_rdata exclusive answered, tagMem_state]
  exact MemWrap.mem_eq_wdata (last.congr (writesTo_tagMem_iff _))

theorem targetPcR_of_update {lookup cycle update : Nat}
    (answered : Answered inputs lookup cycle)
    (last : LastBefore (Updates entry inputs (inputs lookup).pcR) lookup update) :
    (state entry inputs cycle).targetPcR = (inputs update).targetPcW.extractLsb' 1 31 := by
  have read : (state entry inputs cycle).dataMem.rdata = dataWdata (inputs update) := by
    rw [dataMem_rdata exclusive answered, dataMem_state]
    exact MemWrap.mem_eq_wdata (last.congr (writesTo_dataMem_iff _))
  rw [targetPcR, btbTag, read]
  exact BitVec.extractLsb'_eq_self

/-- A slot that was never updated is not valid. -/
theorem noHit_of_noUpdate {lookup cycle : Nat} (answered : Answered inputs lookup cycle)
    (never : ∀ update, update < lookup → ¬ Updates entry inputs (inputs lookup).pcR update) :
    (state entry inputs cycle).btbHit = false := by
  have read : (state entry inputs cycle).tagMem.rdata = BitVec.ofNat (tagDataWidth entry) 0 := by
    rw [tagMem_rdata exclusive answered, tagMem_state]
    apply MemWrap.mem_eq_zero
    intro update below writes
    exact never update below ((writesTo_tagMem_iff _ _).mpr writes)
  have notValid : (state entry inputs cycle).btbTag.valid = false := by
    rw [btbTag, read]
    exact BitVec.getLsbD_zero
  rw [btbHit, notValid]
  rfl

/-- A hit needs the last update to the slot to be for the PC looked up. -/
theorem btbHit_of_update (fits : 0 < indexWidth entry) {lookup cycle update : Nat}
    (answered : Answered inputs lookup cycle)
    (last : LastBefore (Updates entry inputs (inputs lookup).pcR) lookup update) :
    (state entry inputs cycle).btbHit = true ↔
      (inputs update).pcW = (inputs lookup).pcR ∧ (inputs update).btbInvalid = false := by
  obtain ⟨valid, group, tag⟩ :=
    btbTag_of_tagWdata (tagMem_rdata_of_update exclusive answered last)
  have picked : (state entry inputs cycle).rdPick = true := (rdPick_iff cycle).mpr ⟨_, answered⟩
  rw [btbHit, valid, group, tag, picked, pcRHold_eq answered, Bool.and_true, Bool.and_eq_true,
    Bool.and_eq_true, Bool.not_eq_true', beq_iff_eq, beq_iff_eq]
  constructor
  · rintro ⟨⟨kept, sameGroup⟩, sameTag⟩
    exact ⟨eq_of_fields fits sameGroup last.happens.2 sameTag, kept⟩
  · rintro ⟨samePc, kept⟩
    rw [samePc]
    exact ⟨⟨kept, rfl⟩, rfl⟩

/-- A lookup hits exactly if the entry was stored for its PC. -/
theorem btbHit_iff (fits : 0 < indexWidth entry) {lookup cycle : Nat}
    (answered : Answered inputs lookup cycle) :
    (state entry inputs cycle).btbHit = true ↔ ∃ update, StoredFor entry inputs lookup update := by
  rcases exists_lastBefore_or_never (Updates entry inputs (inputs lookup).pcR) lookup with
    ⟨update, last⟩ | never
  · rw [btbHit_of_update exclusive fits answered last]
    constructor
    · rintro ⟨samePc, kept⟩
      exact ⟨update, last, samePc, kept⟩
    · rintro ⟨other, stored⟩
      obtain rfl := stored.last.unique last
      exact ⟨stored.samePc, stored.kept⟩
  · rw [noHit_of_noUpdate exclusive answered never]
    constructor
    · intro hit
      cases hit
    · rintro ⟨update, stored⟩
      exact absurd stored.last.happens (never update stored.last.before)

omit exclusive in
theorem noHit_of_notAnswered {cycle : Nat}
    (notAnswered : ¬ ∃ lookup, Answered inputs lookup cycle) :
    (state entry inputs cycle).btbHit = false := by
  have notPicked : (state entry inputs cycle).rdPick = false :=
    Bool.eq_false_iff.mpr fun picked => notAnswered ((rdPick_iff cycle).mp picked)
  rw [btbHit, notPicked, Bool.and_false]
  rfl

/-- The buffer hits exactly for the PCs stored in it, and answers with their targets. -/
theorem predicts_of_exclusive (fits : 0 < indexWidth entry) (cycle : Nat) :
    Predicts entry inputs cycle where
  hit := fun _ answered => btbHit_iff exclusive fits answered
  target := fun _ _ answered stored => targetPcR_of_update exclusive answered stored.last
  noHit := noHit_of_notAnswered

end Exclusive

/-- An update for the PC 0x100, a lookup of it, and an invalidation behind the lookup. -/
def threeOperations (cycle : Nat) : Input where
  flush := false
  btbRd := decide (cycle = 1)
  pcR := 0x80#31
  btbWr := decide (cycle = 0) || decide (cycle = 2)
  btbInvalid := decide (cycle = 2)
  pcW := 0x80#31
  targetPcW := 0x200#32

theorem predicts_threeOperations : Predicts 128 threeOperations 3 := by
  apply predicts_of_exclusive
  · intro cycle looked
    obtain rfl : cycle = 1 := of_decide_eq_true looked
    rfl
  · decide

end Btb

end RiscvCore
