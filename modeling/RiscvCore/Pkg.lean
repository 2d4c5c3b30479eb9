/-!
# Shared types and constants of the core

The enumerations, field encodings and CSR addresses of `riscv_pkg.sv`.  Enumerations whose
every value is written by name become inductive types.  Types that are also written by a cast
from raw bits (`privilege_e`, `lsu_dtype_e`) stay bit vectors, so that the encodings without a
name remain representable.
-/

namespace RiscvCore

/-- The width of the per-register write tags. -/
abbrev tagWidth : Nat := 2

abbrev Word := BitVec 32
abbrev RegAddr := BitVec 5
abbrev Tag := BitVec tagWidth

/-! ## Opcodes and minor function codes -/

def opcodeLui : BitVec 7 := 0b0110111#7
def opcodeAuipc : BitVec 7 := 0b0010111#7
def opcodeJal : BitVec 7 := 0b1101111#7
def opcodeJalr : BitVec 7 := 0b1100111#7
def opcodeBranch : BitVec 7 := 0b1100011#7
def opcodeLoad : BitVec 7 := 0b0000011#7
def opcodeStore : BitVec 7 := 0b0100011#7
def opcodeOpImm : BitVec 7 := 0b0010011#7
def opcodeOp : BitVec 7 := 0b0110011#7
def opcodeMiscmem : BitVec 7 := 0b0001111#7
def opcodeSystem : BitVec 7 := 0b1110011#7

def funcBeq : BitVec 3 := 0b000#3
def funcBne : BitVec 3 := 0b001#3
def funcBlt : BitVec 3 := 0b100#3
def funcBge : BitVec 3 := 0b101#3
def funcBltu : BitVec 3 := 0b110#3
def funcBgeu : BitVec 3 := 0b111#3

def funcAddi : BitVec 3 := 0b000#3
def funcSlti : BitVec 3 := 0b010#3
def funcSltiu : BitVec 3 := 0b011#3
def funcXori : BitVec 3 := 0b100#3
def funcOri : BitVec 3 := 0b110#3
def funcAndi : BitVec 3 := 0b111#3
def funcSlli : BitVec 3 := 0b001#3
def funcSrli : BitVec 3 := 0b101#3
def funcSrai : BitVec 3 := 0b101#3

def funcAdd : BitVec 3 := 0b000#3
def funcSub : BitVec 3 := 0b000#3
def funcSll : BitVec 3 := 0b001#3
def funcSlt : BitVec 3 := 0b010#3
def funcSltu : BitVec 3 := 0b011#3
def funcXor : BitVec 3 := 0b100#3
def funcSrl : BitVec 3 := 0b101#3
def funcSra : BitVec 3 := 0b101#3
def funcOr : BitVec 3 := 0b110#3
def funcAnd : BitVec 3 := 0b111#3

/-! ## Operation selectors -/

inductive AdderOp where
  | add | sub
  deriving DecidableEq, Repr

inductive LogicOp where
  | xor | or | and
  deriving DecidableEq, Repr

inductive CompOp where
  | eq | ne | lt | ge
  deriving DecidableEq, Repr

inductive ShiftOp where
  | sll | sra | srl
  deriving DecidableEq, Repr

inductive MultOp where
  | mul | mulh | mulhsu | mulhu | div | divu | rem | remu
  deriving DecidableEq, Repr

inductive MepcMux where
  | pcIf | pcWb
  deriving DecidableEq, Repr

inductive LsuOp where
  | ld | wr
  deriving DecidableEq, Repr

/-- The one-bit encoding of `lsu_op_e`. -/
def LsuOp.toBool : LsuOp → Bool
  | .ld => false
  | .wr => true

inductive SrcAMux where
  | regRs1 | immUtype | pcId | immRs1 | jump
  deriving DecidableEq, Repr

inductive SrcBMux where
  | regRs2 | immUtype | immItype | immJtype | immStype | tbt | zero
  deriving DecidableEq, Repr

inductive SrcCMux where
  | immBtype | immItype | immJtype | regRs2 | csrAddr
  deriving DecidableEq, Repr

inductive AdderOpAMux where
  | pcId | regRs1
  deriving DecidableEq, Repr

inductive AdderOpBMux where
  | immItype | immJtype
  deriving DecidableEq, Repr

/-- `CSR_OP_READ`, `CSR_OP_WRITE`, `CSR_OP_SET` and `CSR_OP_CLEAR`: all four values of the
two-bit field. -/
inductive CsrOp where
  | read | write | set | clear
  deriving DecidableEq, Repr

/-- The raw three-bit access width of the load/store unit, `lsu_dtype_e`. -/
abbrev LsuDtype := BitVec 3

def lsuDtypeUByte : LsuDtype := 0b000#3

/-! ## CSR addresses -/

abbrev CsrAddr := BitVec 12

def mvendorid : CsrAddr := 0xF11#12
def marchid : CsrAddr := 0xF12#12
def mimpid : CsrAddr := 0xF13#12
def mhartid : CsrAddr := 0xF14#12
def mstarus : CsrAddr := 0x300#12
def misa : CsrAddr := 0x301#12
def mie : CsrAddr := 0x304#12
def mtvec : CsrAddr := 0x305#12
def mcounteren : CsrAddr := 0x306#12
def mcountinhibit : CsrAddr := 0x320#12
def mscratch : CsrAddr := 0x340#12
def mepc : CsrAddr := 0x341#12
def mcause : CsrAddr := 0x342#12
def mtval : CsrAddr := 0x343#12
def mip : CsrAddr := 0x344#12
def mcycle : CsrAddr := 0xB00#12
def pmpcfg0 : CsrAddr := 0x3A0#12
def pmpaddr0 : CsrAddr := 0x3B0#12

/-- `PMPCFG0` to `PMPCFG3`. -/
def isPmpcfgAddr (addr : CsrAddr) : Bool :=
  addr.extractLsb' 2 10 == pmpcfg0.extractLsb' 2 10

/-- `PMPADDR0` to `PMPADDR15`. -/
def isPmpaddrAddr (addr : CsrAddr) : Bool :=
  addr.extractLsb' 4 8 == pmpaddr0.extractLsb' 4 8

/-- `ISA_CODE`: the I bit and MXL = 1. -/
def isaCode : Word := 0x40000100#32

/-! ## Trap causes, privilege levels and PMP address modes -/

inductive Mcause where
  | instrAddrMisalign
  | instrAcsFault
  | illegalInstr
  | breakpoint
  | loadAcsFault
  | storeAcsFault
  | ecallU
  | ecallM
  | mSoftwareInt
  | mTimerInt
  | mExternalInt
  deriving DecidableEq, Repr

/-- The six-bit encoding of `mcause_e`: the interrupt flag over the five-bit code. -/
def Mcause.toBits : Mcause → BitVec 6
  | .instrAddrMisalign => 0b000000#6
  | .instrAcsFault => 0b000001#6
  | .illegalInstr => 0b000010#6
  | .breakpoint => 0b000011#6
  | .loadAcsFault => 0b000101#6
  | .storeAcsFault => 0b000111#6
  | .ecallU => 0b001000#6
  | .ecallM => 0b001011#6
  | .mSoftwareInt => 0b100011#6
  | .mTimerInt => 0b100111#6
  | .mExternalInt => 0b101011#6

/-- `privilege_e`, which `csr.sv` also writes by a cast from `mstatus.mpp`. -/
abbrev Privilege := BitVec 2

def privLvlM : Privilege := 0b11#2
def privLvlS : Privilege := 0b01#2
def privLvlU : Privilege := 0b00#2

def bitMieMeie : Nat := 11
def bitMieMtie : Nat := 7
def bitMieMsie : Nat := 3

/-- The two-bit `A` field of a PMP configuration byte. -/
abbrev PmpAddrMode := BitVec 2

def pmpOff : PmpAddrMode := 0b00#2
def pmpTor : PmpAddrMode := 0b01#2
def pmpNa4 : PmpAddrMode := 0b10#2
def pmpNapot : PmpAddrMode := 0b11#2

end RiscvCore
