import RiscvCore.Pkg

/-!
# Control and status registers

`csr.sv` with its default parameters (`PMP_ENABLE = 1`, sixteen entries).

The write enables are blocking assignments that precede the assignment of `illegal_csr` in the
same procedural block.  They therefore read the value `illegal_csr` was given at the top of the
block, which is zero, and not the privilege check below them.  Only `pmpcfg_en` and `pmpaddr_en`
test the privilege themselves.
-/

namespace RiscvCore

/-- The fields of `mstatus` that some assignment changes.  All others keep their reset value
zero. -/
structure StatusRv where
  mpp : BitVec 2
  mpie : Bool
  mie : Bool
  deriving DecidableEq, Repr

/-- The packed word a CSR read returns. -/
def StatusRv.toWord (status : StatusRv) : Word :=
  0#19 ++ status.mpp ++ 0#3 ++ BitVec.ofBool status.mpie ++ 0#3 ++
    BitVec.ofBool status.mie ++ 0#3

/-- The number of PMP entries of the core. -/
abbrev pmpEntry : Nat := 16

/-- The registers of `csr`. -/
structure Csr where
  mstatusQ : StatusRv
  mcauseQ : Word
  mieQ : Word
  mipQ : Word
  mtvecQ : Word
  mepcQ : Word
  privilegeModeQ : Privilege
  pmpcfgQ : Fin pmpEntry → BitVec 8
  pmpaddrQ : Fin pmpEntry → Word
  mcounterenQ : Word
  mcountinhitQ : Word
  mcycleQ : Word

namespace Csr

def reset : Csr where
  mstatusQ := { mpp := privLvlU, mpie := true, mie := false }
  mcauseQ := 0#32
  mieQ := 0#32
  mipQ := 0#32
  mtvecQ := 0#32
  mepcQ := 0#32
  privilegeModeQ := privLvlM
  pmpcfgQ := fun _ => 0#8
  pmpaddrQ := fun _ => 0#32
  mcounterenQ := 0#32
  mcountinhitQ := 0#32
  mcycleQ := 0#32

/-- The CSR instruction in EX. -/
structure Access where
  csrEn : Bool
  csrOp : CsrOp
  csrAddr : CsrAddr
  csrWdata : Word

/-- The input ports of `csr`.  `mscratch_q` and `mtval_q` are declared but never driven; their
value is left open. -/
structure Input where
  hartid : Word
  pcIf : Word
  pcWb : Word
  isMret : Bool
  mepcUpdata : Bool
  mepcMux : MepcMux
  mcauseUpdate : Bool
  mcause : Mcause
  access : Access
  externIntr : Bool
  timerIntr : Bool
  softwareIntr : Bool

/-- The values of the two registers that nothing drives. -/
structure Undriven where
  mscratchQ : Word
  mtvalQ : Word

/-! ## Address decode -/

def isM (csr : Csr) : Bool := csr.privilegeModeQ == privLvlM

/-- A register enable of the decode block: the address alone decides. -/
def enable (access : Access) (addr : CsrAddr) : Bool :=
  access.csrEn && access.csrAddr == addr

def pmpcfgEn (csr : Csr) (access : Access) : Bool :=
  access.csrEn && isPmpcfgAddr access.csrAddr && csr.isM

def pmpaddrEn (csr : Csr) (access : Access) : Bool :=
  access.csrEn && isPmpaddrAddr access.csrAddr && csr.isM

/-- The addresses with a branch of their own in the decode block. -/
def knownAddrs : List CsrAddr :=
  [mvendorid, marchid, mimpid, mhartid, mstarus, misa, mie, mtvec, mscratch, mepc, mcause,
    mtval, mip, mcounteren, mcountinhibit, mcycle]

def isKnownAddr (addr : CsrAddr) : Bool :=
  knownAddrs.contains addr || isPmpcfgAddr addr || isPmpaddrAddr addr

def illegalCsr (csr : Csr) (access : Access) : Bool :=
  access.csrEn && (if isKnownAddr access.csrAddr then !csr.isM else true)

/-- The value selected by the address.  A `pmpcfg` read returns the single entry indexed by the
low two address bits. -/
def readValue (csr : Csr) (hartid : Word) (undriven : Undriven) (addr : CsrAddr) : Word :=
  if addr = mhartid then hartid
  else if addr = mstarus then csr.mstatusQ.toWord
  else if addr = misa then isaCode
  else if addr = mie then csr.mieQ
  else if addr = mtvec then csr.mtvecQ
  else if addr = mscratch then undriven.mscratchQ
  else if addr = mepc then csr.mepcQ
  else if addr = mcause then csr.mcauseQ
  else if addr = mtval then undriven.mtvalQ
  else if addr = mip then csr.mipQ
  else if addr = mcounteren then csr.mcounterenQ
  else if addr = mcountinhibit then csr.mcountinhitQ
  else if addr = mcycle then csr.mcycleQ
  else if isPmpcfgAddr addr then
    (csr.pmpcfgQ ((addr.extractLsb' 0 2).toFin.castLE (by decide))).setWidth 32
  else if isPmpaddrAddr addr then csr.pmpaddrQ (addr.extractLsb' 0 4).toFin
  else 0#32

def csrRdata (csr : Csr) (hartid : Word) (undriven : Undriven) (access : Access) : Word :=
  if access.csrEn then csr.readValue hartid undriven access.csrAddr else 0#32

/-! ## Next values -/

/-- The write, set and clear operations on a whole word. -/
def applyOp {width : Nat} (op : CsrOp) (old data : BitVec width) : BitVec width :=
  match op with
  | .read => old
  | .write => data
  | .set => old ||| data
  | .clear => old &&& ~~~data

/-- The same operations on one bit. -/
def applyOpBit (op : CsrOp) (old data : Bool) : Bool :=
  match op with
  | .read => old
  | .write => data
  | .set => old || data
  | .clear => old && !data

def mstatusN (csr : Csr) (port : Input) : StatusRv :=
  let access := port.access
  if enable access mstarus then
    { mie := applyOpBit access.csrOp csr.mstatusQ.mie (access.csrWdata.getLsbD 3)
      mpie := applyOpBit access.csrOp csr.mstatusQ.mpie (access.csrWdata.getLsbD 7)
      mpp := applyOp access.csrOp csr.mstatusQ.mpp (access.csrWdata.extractLsb' 11 2) }
  else if port.mcauseUpdate then
    { mie := false, mpie := csr.mstatusQ.mie, mpp := csr.privilegeModeQ }
  else if port.isMret then
    { mie := csr.mstatusQ.mpie, mpie := true, mpp := privLvlU }
  else csr.mstatusQ

def mcauseN (csr : Csr) (port : Input) : Word :=
  let access := port.access
  if enable access mcause then
    applyOp access.csrOp csr.mcauseQ
      (access.csrWdata.extractLsb' 31 1 ++ 0#26 ++ access.csrWdata.extractLsb' 0 5)
  else if port.mcauseUpdate then
    port.mcause.toBits.extractLsb' 5 1 ++ 0#26 ++ port.mcause.toBits.extractLsb' 0 5
  else csr.mcauseQ

/-- The three implemented bits of `mie`. -/
def mieMask : Word := 0x888#32

def mieN (csr : Csr) (port : Input) : Word :=
  let access := port.access
  if enable access mie then
    (csr.mieQ &&& ~~~mieMask) ||| (applyOp access.csrOp csr.mieQ access.csrWdata &&& mieMask)
  else csr.mieQ

def mipN (port : Input) : Word :=
  0#20 ++ BitVec.ofBool port.externIntr ++ 0#3 ++ BitVec.ofBool port.timerIntr ++ 0#3 ++
    BitVec.ofBool port.softwareIntr ++ 0#3

def mtvecN (csr : Csr) (port : Input) : Word :=
  let access := port.access
  if enable access mtvec then
    applyOp access.csrOp csr.mtvecQ
      (access.csrWdata.extractLsb' 8 24 ++ 0#6 ++ access.csrWdata.extractLsb' 0 2)
  else csr.mtvecQ

/-- A program counter with its lowest bit cleared. -/
def evenPc (pc : Word) : Word := pc.extractLsb' 1 31 ++ 0#1

def mepcN (csr : Csr) (port : Input) : Word :=
  let access := port.access
  if enable access mepc then
    match access.csrOp with
    | .write => evenPc access.csrWdata
    | .set => csr.mepcQ ||| evenPc access.csrWdata
    | .clear => csr.mepcQ &&& ~~~(access.csrWdata.extractLsb' 1 31 ++ 1#1)
    | .read => csr.mepcQ
  else if port.mepcUpdata then
    match port.mepcMux with
    | .pcIf => evenPc port.pcIf
    | .pcWb => evenPc port.pcWb
  else csr.mepcQ

def privilegeModeN (csr : Csr) (port : Input) : Privilege :=
  if csr.privilegeModeQ = privLvlM then
    (if port.isMret then csr.mstatusQ.mpp else csr.privilegeModeQ)
  else if csr.privilegeModeQ = privLvlU then
    (if port.mcauseUpdate then privLvlM else csr.privilegeModeQ)
  else csr.privilegeModeQ

def pmpLock (csr : Csr) (entry : Fin pmpEntry) : Bool := (csr.pmpcfgQ entry).getLsbD 7

/-- `pmp_mode == TOR` compares the whole packed array of three-bit modes with the constant. -/
def pmpModeArrayIsTor (csr : Csr) : Bool :=
  (List.finRange pmpEntry).all fun entry =>
    (csr.pmpcfgQ entry).extractLsb' 3 2 == (if entry = 0 then pmpTor else 0b00#2)

def lock (csr : Csr) (entry : Fin pmpEntry) : Bool :=
  if last : entry.val + 1 < pmpEntry then
    csr.pmpLock entry || (csr.pmpLock ⟨entry.val + 1, last⟩ && csr.pmpModeArrayIsTor)
  else csr.pmpLock entry

def pmpcfgEnteryEn (csr : Csr) (access : Access) (entry : Fin pmpEntry) : Bool :=
  csr.pmpcfgEn access && access.csrAddr.extractLsb' 0 2 == BitVec.ofNat 2 (entry.val / 4)

def pmpaddrEnteryEn (csr : Csr) (access : Access) (entry : Fin pmpEntry) : Bool :=
  csr.pmpaddrEn access && access.csrAddr.extractLsb' 0 4 == BitVec.ofNat 4 entry.val

def pmpcfgN (csr : Csr) (access : Access) (entry : Fin pmpEntry) : BitVec 8 :=
  if !csr.pmpLock entry && csr.pmpcfgEnteryEn access entry then
    applyOp access.csrOp (csr.pmpcfgQ entry)
      (access.csrWdata.extractLsb' (8 * (entry.val % 4)) 8)
  else csr.pmpcfgQ entry

def pmpaddrN (csr : Csr) (access : Access) (entry : Fin pmpEntry) : Word :=
  if !csr.lock entry && csr.pmpaddrEnteryEn access entry then
    applyOp access.csrOp (csr.pmpaddrQ entry) access.csrWdata
  else csr.pmpaddrQ entry

/-- `mcounteren` is written under the enable of `mepc`. -/
def mcounterenN (csr : Csr) (access : Access) : Word :=
  if enable access mepc then applyOp access.csrOp csr.mcounterenQ access.csrWdata
  else csr.mcounterenQ

def mcountinhitN (csr : Csr) (access : Access) : Word :=
  if enable access mcountinhibit then
    applyOp access.csrOp csr.mcountinhitQ access.csrWdata
  else csr.mcountinhitQ

/-- The counter's own step: it counts while bit 0 of `mcountinhibit` is set. -/
def mcycleCount (csr : Csr) : Word :=
  csr.mcycleQ + (BitVec.ofBool (csr.mcountinhitQ.getLsbD 0)).setWidth 32

def mcycleN (csr : Csr) (access : Access) : Word :=
  if enable access mcycle then
    match access.csrOp with
    | .read => csr.mcycleCount
    | op => applyOp op csr.mcycleQ access.csrWdata
  else csr.mcycleCount

def next (csr : Csr) (port : Input) : Csr where
  mstatusQ := csr.mstatusN port
  mcauseQ := csr.mcauseN port
  mieQ := csr.mieN port
  mipQ := mipN port
  mtvecQ := csr.mtvecN port
  mepcQ := csr.mepcN port
  privilegeModeQ := csr.privilegeModeN port
  pmpcfgQ := csr.pmpcfgN port.access
  pmpaddrQ := csr.pmpaddrN port.access
  mcounterenQ := csr.mcounterenN port.access
  mcountinhitQ := csr.mcountinhitN port.access
  mcycleQ := csr.mcycleN port.access

end Csr

end RiscvCore
