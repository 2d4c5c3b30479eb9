import Mathlib.Data.Nat.Log
import RiscvCore.Pkg

/-!
# The branch target buffer

`btb.sv`, with the memories of `mem_wrap.sv`.  A PC comes without its bit 0; it is cut into a
group, the address of a slot and a tag.  An entry is kept in two memories whose outputs are
registers: they are loaded by a lookup and hold during updates.
-/

namespace RiscvCore

/-- The registers of `mem_wrap`. -/
structure MemWrap (addrWidth dataWidth : Nat) where
  mem : BitVec addrWidth → BitVec dataWidth
  rdata : BitVec dataWidth

namespace MemWrap

variable {addrWidth dataWidth : Nat}

/-- The input ports of `mem_wrap`. -/
structure Input (addrWidth dataWidth : Nat) where
  en : Bool
  wr : Bool
  addr : BitVec addrWidth
  wdata : BitVec dataWidth

def reset : MemWrap addrWidth dataWidth where
  mem := fun _ => BitVec.ofNat dataWidth 0
  rdata := BitVec.ofNat dataWidth 0

def next (ram : MemWrap addrWidth dataWidth) (port : Input addrWidth dataWidth) :
    MemWrap addrWidth dataWidth where
  mem := fun addr =>
    if port.en && port.wr && addr == port.addr then port.wdata else ram.mem addr
  rdata := if port.en && !port.wr then ram.mem port.addr else ram.rdata

end MemWrap

namespace Btb

def groupWidth : Nat := 1

def tagAddrWidth (entry : Nat) : Nat := Nat.clog 2 entry

def indexWidth (entry : Nat) : Nat := 31 - tagAddrWidth entry - groupWidth

def tagDataWidth (entry : Nat) : Nat := groupWidth + indexWidth entry + 1

def dataAddrWidth (entry : Nat) : Nat := Nat.clog 2 entry

def dataDataWidth : Nat := 31

theorem width_tagWdata (entry : Nat) :
    1 + indexWidth entry + groupWidth = tagDataWidth entry := by
  rw [tagDataWidth]
  omega

end Btb

/-- The registers of `btb`. -/
structure Btb (entry : Nat) where
  tagMem : MemWrap (Btb.tagAddrWidth entry) (Btb.tagDataWidth entry)
  dataMem : MemWrap (Btb.dataAddrWidth entry) Btb.dataDataWidth
  rdPick : Bool
  pcRHold : BitVec 31

namespace Btb

variable {entry : Nat}

/-- The input ports of `btb`. -/
structure Input where
  flush : Bool
  btbRd : Bool
  pcR : BitVec 31
  btbWr : Bool
  btbInvalid : Bool
  pcW : BitVec 31
  targetPcW : Word

/-- The bits `[low +: width]` of a PC that has no bit 0. -/
def pcBits (pc : BitVec 31) (low width : Nat) : BitVec width := pc.extractLsb' (low - 1) width

/-- The `btb_tag_t` in the outputs of the memories. -/
structure BtbTag (entry : Nat) where
  valid : Bool
  tag : BitVec (indexWidth entry)
  group : BitVec groupWidth
  target : BitVec 31

def reset : Btb entry where
  tagMem := MemWrap.reset
  dataMem := MemWrap.reset
  rdPick := false
  pcRHold := 0#31

def btbTag (btb : Btb entry) : BtbTag entry where
  valid := btb.tagMem.rdata.getLsbD (tagDataWidth entry - 1)
  tag := btb.tagMem.rdata.extractLsb' groupWidth (indexWidth entry)
  group := btb.tagMem.rdata.extractLsb' 0 groupWidth
  target := btb.dataMem.rdata.extractLsb' 0 31

def btbHit (btb : Btb entry) : Bool :=
  btb.btbTag.valid && btb.rdPick && btb.btbTag.group == pcBits btb.pcRHold 1 groupWidth &&
    btb.btbTag.tag ==
      pcBits btb.pcRHold (1 + groupWidth + tagAddrWidth entry) (indexWidth entry)

def targetPcR (btb : Btb entry) : BitVec 31 := btb.btbTag.target

def tagAddr (entry : Nat) (port : Input) : BitVec (tagAddrWidth entry) :=
  if port.btbWr then pcBits port.pcW (1 + groupWidth) (tagAddrWidth entry)
  else pcBits port.pcR (1 + groupWidth) (tagAddrWidth entry)

def tagWdata (entry : Nat) (port : Input) : BitVec (tagDataWidth entry) :=
  (BitVec.ofBool (!port.btbInvalid) ++
    pcBits port.pcW (1 + groupWidth + tagAddrWidth entry) (indexWidth entry) ++
      pcBits port.pcW 1 groupWidth).cast (width_tagWdata entry)

def tagPort (entry : Nat) (port : Input) :
    MemWrap.Input (tagAddrWidth entry) (tagDataWidth entry) where
  en := port.btbRd || port.btbWr
  wr := port.btbWr
  addr := tagAddr entry port
  wdata := tagWdata entry port

def dataAddr (entry : Nat) (port : Input) : BitVec (dataAddrWidth entry) :=
  if port.btbWr then pcBits port.pcW (1 + groupWidth) (dataAddrWidth entry)
  else pcBits port.pcR (1 + groupWidth) (dataAddrWidth entry)

def dataWdata (port : Input) : BitVec dataDataWidth := port.targetPcW.extractLsb' 1 31

def dataPort (entry : Nat) (port : Input) :
    MemWrap.Input (dataAddrWidth entry) dataDataWidth where
  en := port.btbRd || port.btbWr
  wr := port.btbWr
  addr := dataAddr entry port
  wdata := dataWdata port

def next (btb : Btb entry) (port : Input) : Btb entry where
  tagMem := btb.tagMem.next (tagPort entry port)
  dataMem := btb.dataMem.next (dataPort entry port)
  rdPick := if port.flush then false else if port.btbRd then true else btb.rdPick
  pcRHold := if port.flush then 0#31 else if port.btbRd then port.pcR else btb.pcRHold

end Btb

end RiscvCore
