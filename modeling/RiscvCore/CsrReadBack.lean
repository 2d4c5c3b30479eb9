import RiscvCore.CsrFraming
import RiscvCore.SynchronousRun

/-!
# Reading back what CSR instructions wrote

Sequences of CSR instructions without traps and returns, from reset.  A CSR should read as what the
operations addressed to it make of its reset value, in the bits that can be written.  The stored
values do so, `mcounteren` apart; the read port shows them, the configuration words and `mscratch`
apart.
-/

namespace RiscvCore

/-- The CSRs that can be read and written; nothing drives `mscratch`. -/
inductive ReadWriteCsr where
  | mscratch
  | stored (reg : WritableCsr) (notCounter : reg ≠ .mcycle)

namespace ReadWriteCsr

def addr : ReadWriteCsr → CsrAddr
  | mscratch => RiscvCore.mscratch
  | stored reg _ => reg.addr

def resetValue : ReadWriteCsr → Word
  | mscratch => 0#32
  | stored reg _ => Csr.reset.value reg

end ReadWriteCsr

namespace Csr

/-- The new bits where the mask has ones. -/
def overlay {width : Nat} (mask old new : BitVec width) : BitVec width :=
  (old &&& ~~~mask) ||| (new &&& mask)

/-- The bits that can be written: those that are implemented and not locked. -/
def writableBits (csr : Csr) : ReadWriteCsr → Word
  | .mscratch => 0xFFFFFFFF#32
  | .stored (.pmpcfg index) _ => pmpcfgWord fun byte =>
      if csr.pmpLock (pmpcfgEntry index byte) then 0#8 else 0xFF#8
  | .stored (.pmpaddr entry) _ => if csr.lock entry then 0#32 else 0xFFFFFFFF#32
  | .stored reg _ => reg.implemented

/-- What the operations addressed to a CSR make of a first value, for the bits that can be written
in each cycle. -/
def folded (inputs : Nat → Input) (mask : Nat → Word) (addr : CsrAddr) (start : Word) : Nat → Word
  | 0 => start
  | cycle + 1 =>
      let access := (inputs cycle).access
      let old := folded inputs mask addr start cycle
      if enable access addr then
        overlay (mask cycle) old (applyOp access.csrOp old access.csrWdata)
      else old

/-- The CSR block from reset. -/
def state (inputs : Nat → Input) (cycle : Nat) : Csr :=
  SynchronousRun.run Csr.next reset inputs cycle

/-- What the CSR should read as. -/
def expected (inputs : Nat → Input) (reg : ReadWriteCsr) (cycle : Nat) : Word :=
  folded inputs (fun earlier => (state inputs earlier).writableBits reg) reg.addr reg.resetValue
    cycle

/-- A read gives what the earlier operations on the CSR make of its reset value, whatever the
registers that nothing drives hold. -/
def ReadsBack (inputs : Nat → Input) (reg : ReadWriteCsr) (cycle : Nat) : Prop :=
  ∀ (hartid : Word) (undriven : Undriven),
    (state inputs cycle).readValue hartid undriven reg.addr = expected inputs reg cycle

theorem four_le_pmpEntry : 4 ≤ pmpEntry := by decide

/-- Nothing is ever read from `mscratch`; `mcounteren` holds what the operations addressed to
`mepc` make of it; the read port shows of a configuration word one byte only, that of the entry
with the index of the word. -/
def ReadPortAgrees (inputs : Nat → Input) (cycle : Nat) : ReadWriteCsr → Prop
  | .mscratch => False
  | .stored .mcounteren _ =>
      folded inputs (fun _ => 0xFFFFFFFF#32) mepc 0#32 cycle =
        folded inputs (fun _ => 0xFFFFFFFF#32) mcounteren 0#32 cycle
  | .stored (.pmpcfg index) _ => ∀ byte : Fin 4,
      (state inputs cycle).pmpcfgQ (pmpcfgEntry index byte) =
        if byte.val = 0 then (state inputs cycle).pmpcfgQ (index.castLE four_le_pmpEntry) else 0#8
  | .stored _ _ => True

variable {csr : Csr} {port : Input}

theorem overlay_of_legal {old mask : Word} (new : Word) (legal : old &&& mask = old) :
    overlay mask old new = new &&& mask := by
  have rest : old &&& ~~~mask = 0#32 := by
    rw [← legal, BitVec.and_assoc, BitVec.and_not_self]
    exact BitVec.and_zero
  rw [overlay, rest, BitVec.zero_or]

theorem overlay_ones {width : Nat} (old new : BitVec width) :
    overlay (BitVec.allOnes width) old new = new := by
  rw [overlay, BitVec.not_allOnes, BitVec.and_zero, BitVec.zero_or, BitVec.and_allOnes]

theorem overlay_zero {width : Nat} (old new : BitVec width) :
    overlay (BitVec.ofNat width 0) old new = old := by
  rw [overlay, BitVec.and_zero, BitVec.or_zero, BitVec.not_zero, BitVec.and_allOnes]

theorem byteOf_overlay (mask old new : Word) (index : Fin 4) :
    byteOf (overlay mask old new) index =
      overlay (byteOf mask index) (byteOf old index) (byteOf new index) := by
  ext position inside
  have below : 8 * index.val + position < 32 := by omega
  simp [byteOf, overlay, below]

theorem pmpcfgWord_byteOf (word : Word) : pmpcfgWord (byteOf word) = word := by
  apply BitVec.eq_of_getLsbD_eq
  intro position inside
  simp only [pmpcfgWord, byteOf, BitVec.getLsbD_append, BitVec.getLsbD_extractLsb']
  grind only

/-- Words are equal if their bytes are. -/
theorem eq_of_byteOf_eq {word other : Word}
    (same : ∀ index, byteOf word index = byteOf other index) : word = other := by
  rw [← pmpcfgWord_byteOf word, ← pmpcfgWord_byteOf other, funext same]

/-- An operation changes the writable bits. -/
theorem operate_eq_overlay (legal : csr.Legal) {reg : WritableCsr} (notCounter : reg ≠ .mcycle)
    (op : CsrOp) (data : Word) :
    csr.operate reg op data = overlay (csr.writableBits (.stored reg notCounter)) (csr.value reg)
      (applyOp op (csr.value reg) data) := by
  cases reg with
  | pmpcfg index =>
      apply eq_of_byteOf_eq
      intro byte
      rw [byteOf_overlay, operate, writableBits, byteOf_pmpcfgWord, byteOf_pmpcfgWord,
        WritableCsr.implemented, and_ones]
      split
      · rw [overlay_zero, value, byteOf_pmpcfgWord]
      · exact (overlay_ones _ _).symm
  | pmpaddr entry =>
      change (if csr.lock entry then csr.pmpaddrQ entry else _) =
        overlay (if csr.lock entry then 0#32 else 0xFFFFFFFF#32) (csr.pmpaddrQ entry) _
      split
      · exact (overlay_zero _ _).symm
      · exact (and_ones _).trans (overlay_ones _ _).symm
  | _ => exact (overlay_of_legal _ (legal _)).symm

theorem pmpcfg_addr (index byte : Fin 4) :
    pmpcfg0 + BitVec.ofNat 12 ((pmpcfgEntry index byte).val / 4) =
      (WritableCsr.pmpcfg index).addr := by
  revert index byte
  decide

theorem pmpaddr_addr (entry : Fin pmpEntry) :
    pmpaddr0 + BitVec.ofNat 12 entry.val = (WritableCsr.pmpaddr entry).addr := by
  revert entry
  decide

/-- A value that is not accessed stays; the two exceptions are those of the frame. -/
theorem value_next_of_other (quiet : Quiet port) {reg : WritableCsr} (notCounter : reg ≠ .mcycle)
    (notCounteren : reg ≠ .mcounteren) (other : enable port.access reg.addr = false) :
    (csr.next port).value reg = csr.value reg := by
  have spared : Spared port.access reg.addr := by
    intro enabled
    rw [other] at enabled
    cases enabled
  cases reg with
  | mstatus => exact congrArg StatusRv.toWord (mstatusN_of_spared quiet spared)
  | mie => exact mieN_of_spared spared
  | mtvec => exact mtvecN_of_spared spared
  | mepc => exact mepcN_of_spared quiet spared
  | mcause => exact mcauseN_of_spared quiet.noCause spared
  | mcounteren => exact (notCounteren rfl).elim
  | mcountinhibit =>
      change csr.mcountinhitN port.access = csr.mcountinhitQ
      exact mcountinhitN_of_spared spared
  | mcycle => exact (notCounter rfl).elim
  | pmpcfg index =>
      simp only [value]
      congr 1
      funext byte
      change csr.pmpcfgN port.access (pmpcfgEntry index byte) = _
      apply pmpcfgN_of_spared
      rw [pmpcfg_addr]
      exact spared
  | pmpaddr entry =>
      change csr.pmpaddrN port.access entry = _
      apply pmpaddrN_of_spared
      rw [pmpaddr_addr]
      exact spared

section Runs

variable {inputs : Nat → Input} (quiet : ∀ cycle, Quiet (inputs cycle))

theorem state_succ (inputs : Nat → Input) (cycle : Nat) :
    state inputs (cycle + 1) = (state inputs cycle).next (inputs cycle) := rfl

theorem legal_state (inputs : Nat → Input) (cycle : Nat) : (state inputs cycle).Legal := by
  induction cycle with
  | zero => exact legal_reset
  | succ cycle induction => exact legal_next induction

/-- `mcounteren` holds what the operations addressed to `mepc` make of it. -/
theorem mcounterenQ_state (cycle : Nat) :
    (state inputs cycle).mcounterenQ = folded inputs (fun _ => 0xFFFFFFFF#32) mepc 0#32 cycle := by
  induction cycle with
  | zero => rfl
  | succ cycle induction =>
      rw [folded, ← induction]
      change (state inputs cycle).mcounterenN (inputs cycle).access =
        if enable (inputs cycle).access mepc then overlay (BitVec.allOnes 32) _ _ else _
      rw [overlay_ones]
      rfl

/-- A byte as a word: the other bytes are zero. -/
theorem byteOf_setWidth (entry : BitVec 8) (byte : Fin 4) :
    byteOf (entry.setWidth 32) byte = if byte.val = 0 then entry else 0#8 := by
  ext position inside
  have below : 8 * byte.val + position < 32 := by omega
  rw [byteOf, BitVec.getElem_extractLsb', BitVec.getLsbD_setWidth, decide_eq_true below,
    Bool.true_and]
  by_cases first : byte.val = 0
  · rw [if_pos first, ← BitVec.getLsbD_eq_getElem inside, first]
    exact congrArg entry.getLsbD (Nat.zero_add position)
  · have positive : 0 < byte.val := Nat.pos_of_ne_zero first
    rw [if_neg first, BitVec.getLsbD_of_ge _ _ (by omega), BitVec.getElem_zero]

/-- The word read from a configuration address is right if the first byte of the word is that of
the entry shown, and the other ones are zero. -/
theorem shown_pmpcfg_iff (csr : Csr) (index : Fin 4) :
    csr.shown (.pmpcfg index) = csr.value (.pmpcfg index) ↔ ∀ byte : Fin 4,
      csr.pmpcfgQ (pmpcfgEntry index byte) =
        if byte.val = 0 then csr.pmpcfgQ (index.castLE (by decide)) else 0#8 := by
  have shownByte (byte : Fin 4) : byteOf (csr.shown (.pmpcfg index)) byte =
      if byte.val = 0 then csr.pmpcfgQ (index.castLE (by decide)) else 0#8 :=
    byteOf_setWidth _ byte
  constructor
  · intro same byte
    rw [← shownByte, same, value, byteOf_pmpcfgWord]
  · intro bytes
    apply eq_of_byteOf_eq
    intro byte
    rw [shownByte, ← bytes, value, byteOf_pmpcfgWord]

include quiet

/-- Without traps and returns the mode stays. -/
theorem isM_state (cycle : Nat) : (state inputs cycle).isM = true := by
  induction cycle with
  | zero => rfl
  | succ cycle induction =>
      rw [state_succ, isM]
      change (Csr.privilegeModeN _ _ == privLvlM) = true
      rw [privilegeModeN_of_quiet (quiet cycle)]
      exact induction

/-- What is stored is what the operations make of the reset value. -/
theorem value_state {reg : WritableCsr} (notCounter : reg ≠ .mcycle)
    (notCounteren : reg ≠ .mcounteren) (cycle : Nat) :
    (state inputs cycle).value reg = expected inputs (.stored reg notCounter) cycle := by
  induction cycle with
  | zero => rfl
  | succ cycle induction =>
      rw [expected, folded, ← expected, ← induction, state_succ]
      by_cases access : enable (inputs cycle).access reg.addr = true
      · have writes := value_next (legal_state inputs cycle) (isM_state quiet cycle) reg access
        rw [written, if_neg notCounteren, if_neg fun counts => notCounter counts.1,
          operate_eq_overlay (legal_state inputs cycle) notCounter] at writes
        rw [writes]
        exact (if_pos access).symm
      · rw [value_next_of_other (quiet cycle) notCounter notCounteren
          (Bool.eq_false_iff.mpr access)]
        exact (if_neg access).symm

/-- A read gives what the operations on the CSR make of its reset value exactly if the CSR is not
`mscratch`, the operations on `mepc` would make of zero what those on `mcounteren` do, and of a
configuration word the last three bytes are zero and the first one is that of the entry shown. -/
theorem readsBack_iff (reg : ReadWriteCsr) (cycle : Nat) :
    ReadsBack inputs reg cycle ↔ ReadPortAgrees inputs cycle reg := by
  have portShows (reg : WritableCsr) (notCounter : reg ≠ .mcycle) :
      ReadsBack inputs (.stored reg notCounter) cycle ↔
        (state inputs cycle).shown reg = expected inputs (.stored reg notCounter) cycle := by
    constructor
    · intro reads
      exact (readValue_addr 0#32 ⟨0#32, 0#32⟩ reg).symm.trans (reads _ _)
    · intro shows hartid undriven
      exact (readValue_addr hartid undriven reg).trans shows
  have stored (reg : WritableCsr) (notCounter : reg ≠ .mcycle) (notCounteren : reg ≠ .mcounteren) :
      ReadsBack inputs (.stored reg notCounter) cycle ↔
        (state inputs cycle).shown reg = (state inputs cycle).value reg := by
    rw [portShows, value_state quiet notCounter notCounteren]
  cases reg with
  | mscratch =>
      refine ⟨fun reads => ?_, False.elim⟩
      have zero : 0#32 = expected inputs .mscratch cycle := reads 0#32 ⟨0#32, 0#32⟩
      have one : 1#32 = expected inputs .mscratch cycle := reads 0#32 ⟨1#32, 0#32⟩
      exact absurd (zero.trans one.symm) (by decide)
  | stored reg notCounter =>
      cases reg with
      | pmpcfg index => exact (stored _ notCounter (by rintro ⟨⟩)).trans (shown_pmpcfg_iff _ index)
      | mcounteren =>
          rw [portShows]
          change (state inputs cycle).mcounterenQ = _ ↔ _
          rw [mcounterenQ_state]
          exact Iff.rfl
      | mcycle => exact (notCounter rfl).elim
      | _ => exact (stored _ notCounter (by rintro ⟨⟩)).trans (iff_of_true rfl trivial)

end Runs

/-- The instructions of the first cycles, and reads of `mhartid` behind them. -/
def script (instructions : List Input) (cycle : Nat) : Input :=
  instructions.getD cycle (instruction .read mhartid 0#32)

theorem quiet_script {instructions : List Input}
    (quiet : ∀ port ∈ instructions, Quiet port) (cycle : Nat) :
    Quiet (script instructions cycle) := by
  rw [script, List.getD_eq_getElem?_getD]
  cases found : instructions[cycle]? with
  | none => exact quiet_instruction _ _ _
  | some port => exact quiet port (List.mem_of_getElem? found)

/-- `csrrw x0, mtvec, x1` and `csrrc x0, mtvec, x2`. -/
def setsMtvec : List Input :=
  [instruction .write mtvec 0xFFFFFFFF#32, instruction .clear mtvec 0x00000101#32]

theorem readsBack_setsMtvec : ReadsBack (script setsMtvec) (.stored .mtvec (by decide)) 2 :=
  (readsBack_iff (quiet_script fun port inside => by
    rcases List.mem_cons.mp inside with rfl | second
    · exact quiet_instruction _ _ _
    · obtain rfl := List.mem_singleton.mp second
      exact quiet_instruction _ _ _) _ 2).mpr
    trivial

/-- A byte written to the second entry cannot be read. -/
theorem readsBack_fails :
    ¬ ∀ inputs : Nat → Input, (∀ cycle, Quiet (inputs cycle)) →
      ∀ (reg : ReadWriteCsr) (cycle : Nat), ReadsBack inputs reg cycle := by
  intro readsBack
  have read := readsBack (script [instruction .write pmpcfg0 0x1F00#32])
    (quiet_script fun port inside => by
      obtain rfl := List.mem_singleton.mp inside
      exact quiet_instruction _ _ _)
    (.stored (.pmpcfg 0) (by decide)) 1 0#32 ⟨0#32, 0#32⟩
  revert read
  decide +kernel

end Csr

end RiscvCore
