import RiscvCore.CsrValues

/-!
# What a CSR instruction leaves alone

A clock edge of the CSR block with an instruction, but without a trap or a return, changes the
registers that the address names.  Of all others only `mip` and `mcycle` move by themselves, and
`mcounteren`, which is written under the enable of `mepc`.
-/

namespace RiscvCore

/-- The registers of the CSR block. -/
inductive CsrRegister where
  | mstatus | mcause | mie | mip | mtvec | mepc | privilegeMode
  | pmpcfg (entry : Fin pmpEntry)
  | pmpaddr (entry : Fin pmpEntry)
  | mcounteren | mcountinhibit | mcycle
  deriving DecidableEq, Repr

namespace CsrRegister

def Contents : CsrRegister → Type
  | mstatus => StatusRv
  | privilegeMode => Privilege
  | pmpcfg _ => BitVec 8
  | _ => Word

/-- The address that names the register; four configuration entries share one. -/
def addr? : CsrRegister → Option CsrAddr
  | mstatus => some mstarus
  | mcause => some RiscvCore.mcause
  | mie => some RiscvCore.mie
  | mip => some RiscvCore.mip
  | mtvec => some RiscvCore.mtvec
  | mepc => some RiscvCore.mepc
  | privilegeMode => none
  | pmpcfg entry => some (pmpcfg0 + BitVec.ofNat 12 (entry.val / 4))
  | pmpaddr entry => some (pmpaddr0 + BitVec.ofNat 12 entry.val)
  | mcounteren => some RiscvCore.mcounteren
  | mcountinhibit => some RiscvCore.mcountinhibit
  | mcycle => some RiscvCore.mcycle

end CsrRegister

namespace Csr

def contents (csr : Csr) : (reg : CsrRegister) → reg.Contents
  | .mstatus => csr.mstatusQ
  | .mcause => csr.mcauseQ
  | .mie => csr.mieQ
  | .mip => csr.mipQ
  | .mtvec => csr.mtvecQ
  | .mepc => csr.mepcQ
  | .privilegeMode => csr.privilegeModeQ
  | .pmpcfg entry => csr.pmpcfgQ entry
  | .pmpaddr entry => csr.pmpaddrQ entry
  | .mcounteren => csr.mcounterenQ
  | .mcountinhibit => csr.mcountinhitQ
  | .mcycle => csr.mcycleQ

/-- The registers after a cycle in which nothing is written: `mip` samples its inputs and `mcycle`
counts. -/
def idled (csr : Csr) (port : Input) : Csr :=
  { csr with
    mipQ := mipN port
    mcycleQ := csr.mcycleCount }

/-- The instruction changes no register but those that its address names, and a read none. -/
def Framed (csr : Csr) (port : Input) : Prop :=
  ∀ reg : CsrRegister, (reg.addr? = some port.access.csrAddr → port.access.csrOp = .read) →
    (csr.next port).contents reg = (csr.idled port).contents reg

/-- No trap is recorded and no `mret` executed. -/
structure Quiet (port : Input) : Prop where
  noCause : port.mcauseUpdate = false
  noEpc : port.mepcUpdata = false
  noReturn : port.isMret = false

variable {csr : Csr} {port : Input}

/-- Not accessed, or only read. -/
def Spared (access : Access) (addr : CsrAddr) : Prop :=
  enable access addr = true → access.csrOp = .read

theorem spared_of_named {reg : CsrRegister} {addr : CsrAddr} (named : reg.addr? = some addr)
    (onlyRead : reg.addr? = some port.access.csrAddr → port.access.csrOp = .read) :
    Spared port.access addr := by
  intro enabled
  rw [enable, Bool.and_eq_true, beq_iff_eq] at enabled
  exact onlyRead (by rw [named, enabled.2])

/-- The next value of a register that has only an enable of its own. -/
theorem spared_word {width : Nat} {addr : CsrAddr} (spared : Spared port.access addr)
    (old data : BitVec width) :
    (if enable port.access addr then applyOp port.access.csrOp old data else old) = old := by
  by_cases enabled : enable port.access addr = true
  · rw [if_pos enabled, spared enabled]
    rfl
  · rw [if_neg enabled]

theorem mstatusN_of_spared (quiet : Quiet port) (spared : Spared port.access mstarus) :
    csr.mstatusN port = csr.mstatusQ := by
  unfold mstatusN
  by_cases enabled : enable port.access mstarus = true
  · rw [if_pos enabled, spared enabled]
    rfl
  · rw [if_neg enabled, quiet.noCause, quiet.noReturn]
    rfl

theorem mcauseN_of_spared (noCause : port.mcauseUpdate = false)
    (spared : Spared port.access mcause) : csr.mcauseN port = csr.mcauseQ := by
  rw [mcauseN, noCause]
  exact spared_word spared _ _

theorem mieN_of_spared (spared : Spared port.access mie) : csr.mieN port = csr.mieQ := by
  unfold mieN
  by_cases enabled : enable port.access mie = true
  · rw [if_pos enabled, spared enabled]
    change csr.mieQ &&& ~~~mieMask ||| csr.mieQ &&& mieMask = csr.mieQ
    ext position inside
    rw [BitVec.getElem_or, BitVec.getElem_and, BitVec.getElem_and, BitVec.getElem_not]
    cases csr.mieQ[position] <;> cases mieMask[position] <;> rfl
  · rw [if_neg enabled]

theorem mtvecN_of_spared (spared : Spared port.access mtvec) : csr.mtvecN port = csr.mtvecQ :=
  spared_word spared _ _

theorem mcountinhitN_of_spared (spared : Spared port.access mcountinhibit) :
    csr.mcountinhitN port.access = csr.mcountinhitQ := spared_word spared _ _

theorem mepcN_of_spared (quiet : Quiet port) (spared : Spared port.access mepc) :
    csr.mepcN port = csr.mepcQ := by
  unfold mepcN
  by_cases enabled : enable port.access mepc = true
  · rw [if_pos enabled, spared enabled]
  · rw [if_neg enabled, quiet.noEpc]
    rfl

theorem privilegeModeN_of_quiet (quiet : Quiet port) :
    csr.privilegeModeN port = csr.privilegeModeQ := by
  rw [privilegeModeN, quiet.noReturn, quiet.noCause]
  simp only [Bool.false_eq_true, if_false, ite_self]

theorem eq_append_iff {high low : Nat} (word : BitVec (high + low)) (top : BitVec high)
    (bottom : BitVec low) :
    word = top ++ bottom ↔ word.extractLsb' low high = top ∧ word.extractLsb' 0 low = bottom := by
  constructor
  · rintro rfl
    exact ⟨BitVec.extractLsb'_append_eq_left, BitVec.extractLsb'_append_eq_right⟩
  · rintro ⟨rfl, rfl⟩
    exact BitVec.extractLsb'_append_extractLsb'.symm

theorem pmpcfgEnteryEn_eq (csr : Csr) (access : Access) (entry : Fin pmpEntry) :
    csr.pmpcfgEnteryEn access entry =
      (enable access (pmpcfg0 + BitVec.ofNat 12 (entry.val / 4)) && csr.isM) := by
  have parts : ∀ entry : Fin pmpEntry, pmpcfg0 + BitVec.ofNat 12 (entry.val / 4) =
      pmpcfg0.extractLsb' 2 10 ++ BitVec.ofNat 2 (entry.val / 4) := by decide
  have selects : (access.csrAddr == pmpcfg0 + BitVec.ofNat 12 (entry.val / 4)) =
      (isPmpcfgAddr access.csrAddr &&
        access.csrAddr.extractLsb' 0 2 == BitVec.ofNat 2 (entry.val / 4)) := by
    rw [Bool.eq_iff_iff, Bool.and_eq_true, isPmpcfgAddr, beq_iff_eq, beq_iff_eq, beq_iff_eq, parts]
    exact @eq_append_iff 10 2 access.csrAddr _ _
  rw [pmpcfgEnteryEn, pmpcfgEn, enable, selects, Bool.and_assoc, Bool.and_assoc, Bool.and_assoc,
    Bool.and_comm csr.isM, Bool.and_assoc]

theorem pmpaddrEnteryEn_eq (csr : Csr) (access : Access) (entry : Fin pmpEntry) :
    csr.pmpaddrEnteryEn access entry =
      (enable access (pmpaddr0 + BitVec.ofNat 12 entry.val) && csr.isM) := by
  have parts : ∀ entry : Fin pmpEntry, pmpaddr0 + BitVec.ofNat 12 entry.val =
      pmpaddr0.extractLsb' 4 8 ++ BitVec.ofNat 4 entry.val := by decide
  have selects : (access.csrAddr == pmpaddr0 + BitVec.ofNat 12 entry.val) =
      (isPmpaddrAddr access.csrAddr &&
        access.csrAddr.extractLsb' 0 4 == BitVec.ofNat 4 entry.val) := by
    rw [Bool.eq_iff_iff, Bool.and_eq_true, isPmpaddrAddr, beq_iff_eq, beq_iff_eq, beq_iff_eq,
      parts]
    exact @eq_append_iff 8 4 access.csrAddr _ _
  rw [pmpaddrEnteryEn, pmpaddrEn, enable, selects, Bool.and_assoc, Bool.and_assoc, Bool.and_assoc,
    Bool.and_comm csr.isM, Bool.and_assoc]

theorem pmpcfgN_of_spared {entry : Fin pmpEntry}
    (spared : Spared port.access (pmpcfg0 + BitVec.ofNat 12 (entry.val / 4))) :
    csr.pmpcfgN port.access entry = csr.pmpcfgQ entry := by
  rw [pmpcfgN, pmpcfgEnteryEn_eq]
  split
  · rename_i writes
    rw [Bool.and_eq_true, Bool.and_eq_true] at writes
    rw [spared writes.2.1]
    rfl
  · rfl

theorem pmpaddrN_of_spared {entry : Fin pmpEntry}
    (spared : Spared port.access (pmpaddr0 + BitVec.ofNat 12 entry.val)) :
    csr.pmpaddrN port.access entry = csr.pmpaddrQ entry := by
  rw [pmpaddrN, pmpaddrEnteryEn_eq]
  split
  · rename_i writes
    rw [Bool.and_eq_true, Bool.and_eq_true] at writes
    rw [spared writes.2.1]
    rfl
  · rfl

theorem mcycleN_of_spared (spared : Spared port.access mcycle) :
    csr.mcycleN port.access = csr.mcycleCount := by
  unfold mcycleN
  by_cases enabled : enable port.access mcycle = true
  · rw [if_pos enabled, spared enabled]
  · rw [if_neg enabled]

/-- `mcounteren` apart, a register that is not written only idles. -/
theorem contents_next (quiet : Quiet port) {reg : CsrRegister} (other : reg ≠ .mcounteren)
    (onlyRead : reg.addr? = some port.access.csrAddr → port.access.csrOp = .read) :
    (csr.next port).contents reg = (csr.idled port).contents reg := by
  cases reg with
  | mstatus => exact mstatusN_of_spared quiet (spared_of_named rfl onlyRead)
  | mcause => exact mcauseN_of_spared quiet.noCause (spared_of_named rfl onlyRead)
  | mie => exact mieN_of_spared (spared_of_named rfl onlyRead)
  | mip => rfl
  | mtvec => exact mtvecN_of_spared (spared_of_named rfl onlyRead)
  | mepc => exact mepcN_of_spared quiet (spared_of_named rfl onlyRead)
  | privilegeMode => exact privilegeModeN_of_quiet quiet
  | pmpcfg entry => exact pmpcfgN_of_spared (spared_of_named rfl onlyRead)
  | pmpaddr entry => exact pmpaddrN_of_spared (spared_of_named rfl onlyRead)
  | mcounteren => exact absurd rfl other
  | mcountinhibit => exact mcountinhitN_of_spared (spared_of_named rfl onlyRead)
  | mcycle => exact mcycleN_of_spared (spared_of_named rfl onlyRead)

/-- The frame is kept exactly if the instruction is not for `mepc`, or its operation would leave
`mcounteren` as it is. -/
theorem framed_iff (csr : Csr) (port : Input) (accesses : port.access.csrEn = true)
    (quiet : Quiet port) :
    csr.Framed port ↔ (port.access.csrAddr = mepc →
      applyOp port.access.csrOp csr.mcounterenQ port.access.csrWdata = csr.mcounterenQ) := by
  have enabled : enable port.access mepc = (port.access.csrAddr == mepc) := by
    rw [enable, accesses, Bool.true_and]
  constructor
  · rintro framed isEpc
    have kept := framed .mcounteren fun named => by
      rw [isEpc] at named
      cases named
    change csr.mcounterenN port.access = csr.mcounterenQ at kept
    rw [mcounterenN, enabled, if_pos (beq_iff_eq.mpr isEpc)] at kept
    exact kept
  · intro harmless reg onlyRead
    by_cases isCounteren : reg = .mcounteren
    · subst isCounteren
      change csr.mcounterenN port.access = csr.mcounterenQ
      rw [mcounterenN, enabled]
      split
      · exact harmless (beq_iff_eq.mp ‹_›)
      · rfl
    · exact contents_next quiet isCounteren onlyRead

/-- An instruction in a cycle without a trap, a return or an interrupt. -/
def instruction (op : CsrOp) (addr : CsrAddr) (data : Word) : Input where
  hartid := 0#32
  pcIf := 0#32
  pcWb := 0#32
  isMret := false
  mepcUpdata := false
  mepcMux := .pcIf
  mcauseUpdate := false
  mcause := .ecallM
  access := { csrEn := true, csrOp := op, csrAddr := addr, csrWdata := data }
  externIntr := false
  timerIntr := false
  softwareIntr := false

theorem quiet_instruction (op : CsrOp) (addr : CsrAddr) (data : Word) :
    Quiet (instruction op addr data) := ⟨rfl, rfl, rfl⟩

theorem framed_writeMtvec : reset.Framed (instruction .write mtvec 0x100#32) :=
  (framed_iff reset _ rfl (quiet_instruction _ _ _)).mpr (by decide)

/-- `csrrw x0, mepc, x1` also writes `mcounteren`. -/
theorem not_framed_writeMepc :
    ¬ ∀ (csr : Csr) (port : Input), csr.isM = true → port.access.csrEn = true → Quiet port →
      csr.Framed port := by
  intro framed
  have kept := framed reset (instruction .write mepc 0x100#32) rfl rfl (quiet_instruction _ _ _)
    .mcounteren (by decide)
  change (0x100#32 : Word) = 0#32 at kept
  cases kept

end Csr

end RiscvCore
