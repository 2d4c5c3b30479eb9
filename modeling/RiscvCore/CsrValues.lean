import RiscvCore.Csr

/-!
# The values of the CSRs

Each CSR that an instruction can write is seen as one word, whatever registers hold it.  A CSR
instruction should change that word by its operation, in the bits that are implemented and not
locked.  One clock edge of the CSR block does so, `mcounteren` apart.
-/

namespace RiscvCore

/-- The CSRs with a write of their own. -/
inductive WritableCsr where
  | mstatus | mie | mtvec | mepc | mcause | mcounteren | mcountinhibit | mcycle
  | pmpcfg (index : Fin 4)
  | pmpaddr (entry : Fin pmpEntry)
  deriving DecidableEq, Repr

namespace WritableCsr

def addr : WritableCsr → CsrAddr
  | mstatus => mstarus
  | mie => RiscvCore.mie
  | mtvec => RiscvCore.mtvec
  | mepc => RiscvCore.mepc
  | mcause => RiscvCore.mcause
  | mcounteren => RiscvCore.mcounteren
  | mcountinhibit => RiscvCore.mcountinhibit
  | mcycle => RiscvCore.mcycle
  | pmpcfg index => pmpcfg0.extractLsb' 2 10 ++ BitVec.ofNat 2 index.val
  | pmpaddr entry => pmpaddr0.extractLsb' 4 8 ++ BitVec.ofNat 4 entry.val

/-- The bits that are implemented. -/
def implemented : WritableCsr → Word
  | mstatus => 0x1888#32
  | mie => Csr.mieMask
  | mtvec => 0xFFFFFF03#32
  | mepc => 0xFFFFFFFE#32
  | mcause => 0x8000001F#32
  | mcounteren | mcountinhibit | mcycle | pmpcfg _ | pmpaddr _ => 0xFFFFFFFF#32

end WritableCsr

namespace Csr

/-- Four configuration bytes as one word, the first one lowest. -/
def pmpcfgWord (bytes : Fin 4 → BitVec 8) : Word := bytes 3 ++ bytes 2 ++ bytes 1 ++ bytes 0

def byteOf (word : Word) (index : Fin 4) : BitVec 8 := word.extractLsb' (8 * index.val) 8

def pmpcfgEntry (index byte : Fin 4) : Fin pmpEntry :=
  ⟨4 * index.val + byte.val, Nat.lt_of_lt_of_le (by omega) (Nat.le_refl 16)⟩

theorem byteOf_pmpcfgWord (bytes : Fin 4 → BitVec 8) (index : Fin 4) :
    byteOf (pmpcfgWord bytes) index = bytes index := by
  apply BitVec.eq_of_getLsbD_eq
  intro position inside
  match index with
  | 0 | 1 | 2 | 3 =>
      simp only [byteOf, pmpcfgWord, BitVec.getLsbD_extractLsb', BitVec.getLsbD_append]
      grind only

theorem getElem_applyOp {width : Nat} (op : CsrOp) (old data : BitVec width) {position : Nat}
    (inside : position < width) :
    (applyOp op old data)[position] = applyOpBit op old[position] data[position] := by
  cases op <;> simp [applyOp, applyOpBit]

theorem getLsbD_applyOp {width : Nat} (op : CsrOp) (old data : BitVec width) {position : Nat}
    (inside : position < width) :
    (applyOp op old data).getLsbD position =
      applyOpBit op (old.getLsbD position) (data.getLsbD position) := by
  cases op <;> simp [applyOp, applyOpBit, inside]

theorem applyOpBit_and {old mask : Bool} (op : CsrOp) (data : Bool)
    (legal : (old && mask) = old) :
    applyOpBit op old (data && mask) = (applyOpBit op old data && mask) := by
  cases op <;> cases old <;> cases mask <;> cases data <;> first | rfl | cases legal

/-- An operation on implemented bits may mask its operand or its result. -/
theorem applyOp_and {width : Nat} {old mask : BitVec width} (op : CsrOp) (data : BitVec width)
    (legal : old &&& mask = old) :
    applyOp op old (data &&& mask) = applyOp op old data &&& mask := by
  ext position inside
  have bit : (old[position] && mask[position]) = old[position] := by
    rw [← BitVec.getElem_and, legal]
  rw [getElem_applyOp, BitVec.getElem_and, BitVec.getElem_and, getElem_applyOp]
  exact applyOpBit_and op _ bit

/-- An operation that has been done does nothing further. -/
theorem applyOp_applyOp {width : Nat} (op : CsrOp) (old data : BitVec width) :
    applyOp op (applyOp op old data) data = applyOp op old data := by
  ext position inside
  rw [getElem_applyOp, getElem_applyOp]
  cases op <;> cases old[position] <;> cases data[position] <;> rfl

theorem applyOp_applyOp_and {width : Nat} (op : CsrOp) (old data mask : BitVec width) :
    applyOp op (applyOp op old data &&& mask) data &&& mask = applyOp op old data &&& mask := by
  ext position inside
  rw [BitVec.getElem_and, BitVec.getElem_and, getElem_applyOp, BitVec.getElem_and, getElem_applyOp]
  cases op <;> cases old[position] <;> cases data[position] <;> cases mask[position] <;> rfl

theorem extractLsb'_applyOp {width : Nat} (op : CsrOp) (old data : BitVec width)
    (start count : Nat) (inside : start + count ≤ width) :
    (applyOp op old data).extractLsb' start count =
      applyOp op (old.extractLsb' start count) (data.extractLsb' start count) := by
  ext position below
  rw [getElem_applyOp, BitVec.getElem_extractLsb', BitVec.getElem_extractLsb',
    BitVec.getElem_extractLsb', getLsbD_applyOp _ _ _ (by omega)]

theorem byteOf_applyOp (op : CsrOp) (old data : Word) (index : Fin 4) :
    byteOf (applyOp op old data) index = applyOp op (byteOf old index) (byteOf data index) :=
  extractLsb'_applyOp op old data _ _ (by omega)

theorem toWord_fields (status : StatusRv) :
    status.toWord.extractLsb' 11 2 = status.mpp ∧ status.toWord.getLsbD 7 = status.mpie ∧
      status.toWord.getLsbD 3 = status.mie := by
  rcases status with ⟨mpp, mpie, mie⟩
  revert mpp mpie mie
  decide

theorem toWord_eq (word : Word) :
    StatusRv.toWord
        { mpp := word.extractLsb' 11 2, mpie := word.getLsbD 7, mie := word.getLsbD 3 } =
      word &&& 0x1888#32 := by
  have mask : 0x1888#32 = 0#19 ++ BitVec.allOnes 2 ++ 0#3 ++ BitVec.allOnes 1 ++ 0#3 ++
      BitVec.allOnes 1 ++ 0#3 := by decide
  apply BitVec.eq_of_getLsbD_eq
  intro position inside
  simp only [StatusRv.toWord, mask, BitVec.getLsbD_and, BitVec.getLsbD_append,
    BitVec.getLsbD_extractLsb', BitVec.getLsbD_allOnes, BitVec.getLsbD_zero, BitVec.getLsbD_ofBool]
  grind only

theorem mtvecFields_eq (word : Word) :
    word.extractLsb' 8 24 ++ 0#6 ++ word.extractLsb' 0 2 = word &&& 0xFFFFFF03#32 := by
  have mask : 0xFFFFFF03#32 = BitVec.allOnes 24 ++ 0#6 ++ BitVec.allOnes 2 := by decide
  apply BitVec.eq_of_getLsbD_eq
  intro position inside
  simp only [mask, BitVec.getLsbD_and, BitVec.getLsbD_append, BitVec.getLsbD_extractLsb',
    BitVec.getLsbD_allOnes, BitVec.getLsbD_zero]
  grind only

theorem mcauseFields_eq (word : Word) :
    word.extractLsb' 31 1 ++ 0#26 ++ word.extractLsb' 0 5 = word &&& 0x8000001F#32 := by
  have mask : 0x8000001F#32 = BitVec.allOnes 1 ++ 0#26 ++ BitVec.allOnes 5 := by decide
  apply BitVec.eq_of_getLsbD_eq
  intro position inside
  simp only [mask, BitVec.getLsbD_and, BitVec.getLsbD_append, BitVec.getLsbD_extractLsb',
    BitVec.getLsbD_allOnes, BitVec.getLsbD_zero]
  grind only

theorem evenPc_eq (word : Word) : evenPc word = word &&& 0xFFFFFFFE#32 := by
  have mask : 0xFFFFFFFE#32 = BitVec.allOnes 31 ++ 0#1 := by decide
  apply BitVec.eq_of_getLsbD_eq
  intro position inside
  simp only [evenPc, mask, BitVec.getLsbD_and, BitVec.getLsbD_append, BitVec.getLsbD_extractLsb',
    BitVec.getLsbD_allOnes, BitVec.getLsbD_zero]
  grind only

/-- Clearing the lowest bit too makes no difference to an even address. -/
theorem and_not_oddPc (pc word : Word) (even : pc &&& 0xFFFFFFFE#32 = pc) :
    pc &&& ~~~(word.extractLsb' 1 31 ++ 1#1) = pc &&& ~~~(word &&& 0xFFFFFFFE#32) := by
  have mask : 0xFFFFFFFE#32 = BitVec.allOnes 31 ++ 0#1 := by decide
  rw [← even, mask]
  apply BitVec.eq_of_getLsbD_eq
  intro position inside
  simp only [BitVec.getLsbD_and, BitVec.getLsbD_not, BitVec.getLsbD_append,
    BitVec.getLsbD_extractLsb', BitVec.getLsbD_allOnes, BitVec.getLsbD_zero]
  grind only

def value (csr : Csr) : WritableCsr → Word
  | .mstatus => csr.mstatusQ.toWord
  | .mie => csr.mieQ
  | .mtvec => csr.mtvecQ
  | .mepc => csr.mepcQ
  | .mcause => csr.mcauseQ
  | .mcounteren => csr.mcounterenQ
  | .mcountinhibit => csr.mcountinhitQ
  | .mcycle => csr.mcycleQ
  | .pmpcfg index => pmpcfgWord fun byte => csr.pmpcfgQ (pmpcfgEntry index byte)
  | .pmpaddr entry => csr.pmpaddrQ entry

/-- The value an operation should leave: locked PMP entries stay. -/
def operate (csr : Csr) (reg : WritableCsr) (op : CsrOp) (data : Word) : Word :=
  let result := applyOp op (csr.value reg) data &&& reg.implemented
  match reg with
  | .pmpcfg index => pmpcfgWord fun byte =>
      if csr.pmpLock (pmpcfgEntry index byte) then csr.pmpcfgQ (pmpcfgEntry index byte)
      else byteOf result byte
  | .pmpaddr entry => if csr.lock entry then csr.pmpaddrQ entry else result
  | _ => result

/-- Bits that are not implemented hold zero. -/
def Legal (csr : Csr) : Prop := ∀ reg, csr.value reg &&& reg.implemented = csr.value reg

variable {csr : Csr} {port : Input}

/-! ## One clock edge -/

theorem value_next_mstatus (access : enable port.access mstarus = true) :
    (csr.next port).value .mstatus =
      csr.operate .mstatus port.access.csrOp port.access.csrWdata := by
  obtain ⟨mpp, mpie, mie⟩ := toWord_fields csr.mstatusQ
  change (csr.mstatusN port).toWord = applyOp _ csr.mstatusQ.toWord _ &&& 0x1888#32
  rw [← toWord_eq, extractLsb'_applyOp _ _ _ _ _ (by decide), getLsbD_applyOp _ _ _ (by decide),
    getLsbD_applyOp _ _ _ (by decide), mpp, mpie, mie, mstatusN, if_pos access]

theorem value_next_mie (legal : csr.Legal) (access : enable port.access RiscvCore.mie = true) :
    (csr.next port).value .mie = csr.operate .mie port.access.csrOp port.access.csrWdata := by
  have implemented : csr.mieQ &&& mieMask = csr.mieQ := legal .mie
  change csr.mieN port = applyOp _ csr.mieQ _ &&& mieMask
  have rest : csr.mieQ &&& ~~~mieMask = 0#32 := by
    rw [← implemented, BitVec.and_assoc, BitVec.and_not_self]
    exact BitVec.and_zero
  rw [mieN, if_pos access, rest, BitVec.zero_or]

theorem value_next_mtvec (legal : csr.Legal) (access : enable port.access RiscvCore.mtvec = true) :
    (csr.next port).value .mtvec = csr.operate .mtvec port.access.csrOp port.access.csrWdata := by
  change csr.mtvecN port = applyOp _ csr.mtvecQ _ &&& 0xFFFFFF03#32
  rw [mtvecN, if_pos access, mtvecFields_eq]
  exact applyOp_and _ _ (legal .mtvec)

theorem value_next_mcause (legal : csr.Legal)
    (access : enable port.access RiscvCore.mcause = true) :
    (csr.next port).value .mcause =
      csr.operate .mcause port.access.csrOp port.access.csrWdata := by
  change csr.mcauseN port = applyOp _ csr.mcauseQ _ &&& 0x8000001F#32
  rw [mcauseN, if_pos access, mcauseFields_eq]
  exact applyOp_and _ _ (legal .mcause)

theorem value_next_mepc (legal : csr.Legal) (access : enable port.access RiscvCore.mepc = true) :
    (csr.next port).value .mepc = csr.operate .mepc port.access.csrOp port.access.csrWdata := by
  have even : csr.mepcQ &&& 0xFFFFFFFE#32 = csr.mepcQ := legal .mepc
  change csr.mepcN port = applyOp _ csr.mepcQ _ &&& 0xFFFFFFFE#32
  rw [mepcN, if_pos access, ← applyOp_and _ _ even]
  cases port.access.csrOp with
  | read => rfl
  | write => exact evenPc_eq _
  | set => exact congrArg (csr.mepcQ ||| ·) (evenPc_eq _)
  | clear => exact and_not_oddPc _ _ even

theorem and_ones (word : Word) : word &&& 0xFFFFFFFF#32 = word := BitVec.and_allOnes

theorem value_next_mcountinhibit (access : enable port.access RiscvCore.mcountinhibit = true) :
    (csr.next port).value .mcountinhibit =
      csr.operate .mcountinhibit port.access.csrOp port.access.csrWdata := by
  change csr.mcountinhitN port.access = applyOp _ csr.mcountinhitQ _ &&& 0xFFFFFFFF#32
  rw [and_ones, mcountinhitN, if_pos access]

/-- A read of `mcycle` does not stop the counter. -/
theorem value_next_mcycle (access : enable port.access RiscvCore.mcycle = true) :
    (csr.next port).value .mcycle =
      if port.access.csrOp = .read then csr.mcycleCount
      else csr.operate .mcycle port.access.csrOp port.access.csrWdata := by
  change csr.mcycleN port.access =
    if _ then csr.mcycleCount else applyOp _ csr.mcycleQ _ &&& 0xFFFFFFFF#32
  rw [and_ones, mcycleN, if_pos access]
  cases port.access.csrOp <;> rfl

theorem pmpcfgEnteryEn_self (machine : csr.isM = true) {index : Fin 4}
    (access : enable port.access (WritableCsr.pmpcfg index).addr = true) (byte : Fin 4) :
    csr.pmpcfgEnteryEn port.access (pmpcfgEntry index byte) = true := by
  have selects : ∀ index byte : Fin 4, isPmpcfgAddr (WritableCsr.pmpcfg index).addr = true ∧
      ((WritableCsr.pmpcfg index).addr.extractLsb' 0 2 ==
        BitVec.ofNat 2 ((pmpcfgEntry index byte).val / 4)) = true := by decide
  rw [enable, Bool.and_eq_true, beq_iff_eq] at access
  rw [pmpcfgEnteryEn, pmpcfgEn, access.1, access.2, machine, (selects index byte).1,
    (selects index byte).2]
  rfl

theorem value_next_pmpcfg (machine : csr.isM = true) {index : Fin 4}
    (access : enable port.access (WritableCsr.pmpcfg index).addr = true) :
    (csr.next port).value (.pmpcfg index) =
      csr.operate (.pmpcfg index) port.access.csrOp port.access.csrWdata := by
  have position : ∀ index byte : Fin 4, (pmpcfgEntry index byte).val % 4 = byte.val := by decide
  simp only [value, operate, WritableCsr.implemented, and_ones]
  congr 1
  funext byte
  change csr.pmpcfgN port.access (pmpcfgEntry index byte) = _
  rw [pmpcfgN, pmpcfgEnteryEn_self machine access, Bool.and_true]
  cases csr.pmpLock (pmpcfgEntry index byte) with
  | true => rfl
  | false =>
      rw [byteOf_applyOp, byteOf_pmpcfgWord, position]
      rfl

theorem value_next_pmpaddr (machine : csr.isM = true) {entry : Fin pmpEntry}
    (access : enable port.access (WritableCsr.pmpaddr entry).addr = true) :
    (csr.next port).value (.pmpaddr entry) =
      csr.operate (.pmpaddr entry) port.access.csrOp port.access.csrWdata := by
  have selects : ∀ entry : Fin pmpEntry, isPmpaddrAddr (WritableCsr.pmpaddr entry).addr = true ∧
      ((WritableCsr.pmpaddr entry).addr.extractLsb' 0 4 == BitVec.ofNat 4 entry.val) = true := by
    decide
  rw [enable, Bool.and_eq_true, beq_iff_eq] at access
  change csr.pmpaddrN port.access entry = if csr.lock entry then csr.pmpaddrQ entry
    else applyOp _ (csr.pmpaddrQ entry) _ &&& 0xFFFFFFFF#32
  rw [and_ones, pmpaddrN, pmpaddrEnteryEn, pmpaddrEn, access.1, access.2, machine,
    (selects entry).1, (selects entry).2]
  cases csr.lock entry <;> rfl

/-- An access to `mcounteren` does not write it. -/
theorem mcounterenQ_next_of_mcounteren (access : enable port.access RiscvCore.mcounteren = true) :
    (csr.next port).mcounterenQ = csr.mcounterenQ := by
  rw [enable, Bool.and_eq_true, beq_iff_eq] at access
  have other : enable port.access RiscvCore.mepc = false := by
    rw [enable, access.2]
    exact Bool.and_false _
  change csr.mcounterenN port.access = csr.mcounterenQ
  rw [mcounterenN, other, if_neg Bool.false_ne_true]

/-- What one clock edge with an access to a CSR leaves in it. -/
def written (csr : Csr) (reg : WritableCsr) (op : CsrOp) (data : Word) : Word :=
  if reg = .mcounteren then csr.value reg
  else if reg = .mcycle ∧ op = .read then csr.mcycleCount
  else csr.operate reg op data

theorem value_next (legal : csr.Legal) (machine : csr.isM = true) (reg : WritableCsr)
    (access : enable port.access reg.addr = true) :
    (csr.next port).value reg = csr.written reg port.access.csrOp port.access.csrWdata := by
  cases reg with
  | mstatus => exact value_next_mstatus access
  | mie => exact value_next_mie legal access
  | mtvec => exact value_next_mtvec legal access
  | mepc => exact value_next_mepc legal access
  | mcause => exact value_next_mcause legal access
  | mcounteren => exact mcounterenQ_next_of_mcounteren access
  | mcountinhibit => exact value_next_mcountinhibit access
  | mcycle =>
      have notOther : WritableCsr.mcycle ≠ .mcounteren := by decide
      rw [value_next_mcycle access, written, if_neg notOther]
      simp only [true_and]
  | pmpcfg index => exact value_next_pmpcfg machine access
  | pmpaddr entry => exact value_next_pmpaddr machine access

theorem and_mask_idem {width : Nat} (word mask : BitVec width) :
    word &&& mask &&& mask = word &&& mask := by
  rw [BitVec.and_assoc, BitVec.and_self]

theorem toWord_implemented (status : StatusRv) : status.toWord &&& 0x1888#32 = status.toWord := by
  obtain ⟨mpp, mpie, mie⟩ := toWord_fields status
  rw [← toWord_eq, mpp, mpie, mie]

theorem evenPc_implemented (pc : Word) : evenPc pc &&& 0xFFFFFFFE#32 = evenPc pc := by
  rw [evenPc_eq, and_mask_idem]

theorem causeBits_implemented (cause : Mcause) :
    cause.toBits.extractLsb' 5 1 ++ 0#26 ++ cause.toBits.extractLsb' 0 5 &&& 0x8000001F#32 =
      (cause.toBits.extractLsb' 5 1 ++ 0#26 ++ cause.toBits.extractLsb' 0 5 : Word) := by
  cases cause <;> decide

theorem legal_next (legal : csr.Legal) : (csr.next port).Legal := by
  intro reg
  cases reg with
  | mstatus => exact toWord_implemented _
  | mie =>
      by_cases access : enable port.access RiscvCore.mie = true
      · rw [value_next_mie legal access]
        exact and_mask_idem _ _
      · change csr.mieN port &&& mieMask = csr.mieN port
        rw [mieN, if_neg access]
        exact legal .mie
  | mtvec =>
      by_cases access : enable port.access RiscvCore.mtvec = true
      · rw [value_next_mtvec legal access]
        exact and_mask_idem _ _
      · change csr.mtvecN port &&& 0xFFFFFF03#32 = csr.mtvecN port
        rw [mtvecN, if_neg access]
        exact legal .mtvec
  | mepc =>
      by_cases access : enable port.access RiscvCore.mepc = true
      · rw [value_next_mepc legal access]
        exact and_mask_idem _ _
      · change csr.mepcN port &&& 0xFFFFFFFE#32 = csr.mepcN port
        rw [mepcN, if_neg access]
        split
        · cases port.mepcMux with
          | pcIf => exact evenPc_implemented port.pcIf
          | pcWb => exact evenPc_implemented port.pcWb
        · exact legal .mepc
  | mcause =>
      by_cases access : enable port.access RiscvCore.mcause = true
      · rw [value_next_mcause legal access]
        exact and_mask_idem _ _
      · change csr.mcauseN port &&& 0x8000001F#32 = csr.mcauseN port
        rw [mcauseN, if_neg access]
        split
        · exact causeBits_implemented port.mcause
        · exact legal .mcause
  | mcounteren => exact and_ones _
  | mcountinhibit => exact and_ones _
  | mcycle => exact and_ones _
  | pmpcfg index => exact and_ones _
  | pmpaddr entry => exact and_ones _

theorem legal_reset : reset.Legal := by
  intro reg
  cases reg with
  | pmpcfg index => exact and_ones _
  | pmpaddr entry => exact and_ones _
  | _ => decide

/-- The read port gives one byte of a configuration word. -/
def shown (csr : Csr) : WritableCsr → Word
  | .pmpcfg index => (csr.pmpcfgQ (index.castLE (by decide))).setWidth 32
  | reg => csr.value reg

theorem readValue_of_pmp (hartid : Word) (undriven : Undriven) {addr : CsrAddr}
    (unknown : knownAddrs.contains addr = false) :
    csr.readValue hartid undriven addr =
      if isPmpcfgAddr addr then
        (csr.pmpcfgQ ((addr.extractLsb' 0 2).toFin.castLE (by decide))).setWidth 32
      else if isPmpaddrAddr addr then csr.pmpaddrQ (addr.extractLsb' 0 4).toFin
      else 0#32 := by
  have other (known : CsrAddr) (isKnown : knownAddrs.contains known = true) : addr ≠ known := by
    rintro rfl
    rw [unknown] at isKnown
    cases isKnown
  rw [readValue, if_neg (other mhartid (by decide)), if_neg (other mstarus (by decide)),
    if_neg (other misa (by decide)), if_neg (other RiscvCore.mie (by decide)),
    if_neg (other RiscvCore.mtvec (by decide)), if_neg (other mscratch (by decide)),
    if_neg (other RiscvCore.mepc (by decide)), if_neg (other RiscvCore.mcause (by decide)),
    if_neg (other mtval (by decide)), if_neg (other mip (by decide)),
    if_neg (other RiscvCore.mcounteren (by decide)),
    if_neg (other RiscvCore.mcountinhibit (by decide)),
    if_neg (other RiscvCore.mcycle (by decide))]

theorem readValue_addr (hartid : Word) (undriven : Undriven) (reg : WritableCsr) :
    csr.readValue hartid undriven reg.addr = csr.shown reg := by
  cases reg with
  | pmpcfg index =>
      have unknown : ∀ index : Fin 4,
          knownAddrs.contains (WritableCsr.pmpcfg index).addr = false := by decide
      have selects : ∀ index : Fin 4, isPmpcfgAddr (WritableCsr.pmpcfg index).addr = true ∧
          ((WritableCsr.pmpcfg index).addr.extractLsb' 0 2).toFin = index := by decide
      rw [readValue_of_pmp _ _ (unknown index), if_pos (selects index).1, (selects index).2]
      rfl
  | pmpaddr entry =>
      have unknown : ∀ entry : Fin pmpEntry,
          knownAddrs.contains (WritableCsr.pmpaddr entry).addr = false := by decide
      have selects : ∀ entry : Fin pmpEntry, isPmpcfgAddr (WritableCsr.pmpaddr entry).addr = false ∧
          isPmpaddrAddr (WritableCsr.pmpaddr entry).addr = true ∧
          ((WritableCsr.pmpaddr entry).addr.extractLsb' 0 4).toFin = entry := by decide
      obtain ⟨notPmpcfg, isPmpaddr, same⟩ := selects entry
      rw [readValue_of_pmp _ _ (unknown entry), notPmpcfg, if_neg Bool.false_ne_true,
        if_pos isPmpaddr, same]
      rfl
  | mstatus | mie | mtvec | mepc | mcause | mcounteren | mcountinhibit | mcycle =>
      simp [readValue, shown, value, WritableCsr.addr, mhartid, mstarus, misa, RiscvCore.mie,
        RiscvCore.mtvec, mscratch, RiscvCore.mepc, RiscvCore.mcause, mtval, mip,
        RiscvCore.mcounteren, RiscvCore.mcountinhibit, RiscvCore.mcycle]

theorem operate_read (legal : csr.Legal) (reg : WritableCsr) (data : Word) :
    csr.operate reg .read data = csr.value reg := by
  have kept : applyOp .read (csr.value reg) data &&& reg.implemented = csr.value reg := legal reg
  cases reg with
  | pmpcfg index =>
      simp only [operate, kept]
      simp only [value, byteOf_pmpcfgWord, ite_self]
  | pmpaddr entry =>
      simp only [operate, kept]
      exact ite_self _
  | _ => exact kept

/-- Once it has been done, an operation leaves its CSR as it is.  An address entry depends on the
configuration besides. -/
theorem operate_of_operated {other : Csr} {reg : WritableCsr} {op : CsrOp} {data : Word}
    (result : other.value reg = csr.operate reg op data)
    (sameCfg : ∀ entry, reg = .pmpaddr entry → other.pmpcfgQ = csr.pmpcfgQ) :
    other.operate reg op data = other.value reg := by
  cases reg with
  | pmpcfg index =>
      simp only [operate, value, WritableCsr.implemented, and_ones, byteOf_applyOp,
        byteOf_pmpcfgWord] at result ⊢
      congr 1
      funext byte
      -- a byte that was locked before is locked still
      have entry := congrArg (byteOf · byte) result
      simp only [byteOf_pmpcfgWord] at entry
      split
      · rfl
      · rename_i unlocked
        by_cases wasLocked : csr.pmpLock (pmpcfgEntry index byte) = true
        · rw [if_pos wasLocked] at entry
          rw [pmpLock, entry] at unlocked
          exact absurd wasLocked unlocked
        · rw [if_neg wasLocked] at entry
          rw [entry, applyOp_applyOp]
  | pmpaddr entry =>
      have sameLock : other.lock entry = csr.lock entry := by
        simp only [lock, pmpLock, pmpModeArrayIsTor, sameCfg entry rfl]
      simp only [operate, value, WritableCsr.implemented, and_ones] at result ⊢
      rw [sameLock]
      split
      · rfl
      · rename_i unlocked
        rw [if_neg unlocked] at result
        rw [result, applyOp_applyOp]
  | _ =>
      simp only [operate] at result ⊢
      rw [result, applyOp_applyOp_and]

theorem pmpcfgQ_next_of_pmpaddr {entry : Fin pmpEntry}
    (access : enable port.access (WritableCsr.pmpaddr entry).addr = true) :
    (csr.next port).pmpcfgQ = csr.pmpcfgQ := by
  have notPmpcfg : ∀ entry : Fin pmpEntry,
      isPmpcfgAddr (WritableCsr.pmpaddr entry).addr = false := by decide
  rw [enable, Bool.and_eq_true, beq_iff_eq] at access
  funext other
  change csr.pmpcfgN port.access other = _
  rw [pmpcfgN, pmpcfgEnteryEn, pmpcfgEn, access.2, notPmpcfg, Bool.and_false, Bool.false_and,
    Bool.false_and, Bool.and_false]
  rfl

/-- The first four entries belong to the first configuration word. -/
theorem pmpcfgQ_next_of_laterWord {index : Fin 4} (notFirst : index ≠ 0)
    (access : enable port.access (WritableCsr.pmpcfg index).addr = true) (entry : Fin 4) :
    (csr.next port).pmpcfgQ (entry.castLE (by decide)) =
      csr.pmpcfgQ (entry.castLE (by decide)) := by
  have otherWord : ∀ index entry : Fin 4, index ≠ 0 →
      ((WritableCsr.pmpcfg index).addr.extractLsb' 0 2 ==
        BitVec.ofNat 2 ((entry.castLE (by decide) : Fin pmpEntry).val / 4)) = false := by
    decide
  rw [enable, Bool.and_eq_true, beq_iff_eq] at access
  change csr.pmpcfgN port.access _ = _
  rw [pmpcfgN, pmpcfgEnteryEn, access.2, otherWord index entry notFirst, Bool.and_false,
    Bool.and_false]
  rfl

theorem mcountinhitQ_next_of_mcycle (access : enable port.access RiscvCore.mcycle = true) :
    (csr.next port).mcountinhitQ = csr.mcountinhitQ := by
  rw [enable, Bool.and_eq_true, beq_iff_eq] at access
  have other : enable port.access RiscvCore.mcountinhibit = false := by
    rw [enable, access.2]
    exact Bool.and_false _
  change csr.mcountinhitN port.access = _
  rw [mcountinhitN, other, if_neg Bool.false_ne_true]

end Csr

end RiscvCore
