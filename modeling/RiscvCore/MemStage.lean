import RiscvCore.ExStage
import RiscvCore.Lsu

/-!
# Memory access and write-back

`mem_stage.v` and `wb_stage.sv`: the load/store access offered to the data bus, the register in
front of WB, and the write-back decisions.
-/

namespace RiscvCore

/-- The register between MEM and WB. -/
structure MemWb where
  rdWrEnWb : Bool
  rdWrTagWb : Tag
  rdWrAddrWb : RegAddr
  rdWrDataWb : Word
  lsuEnWb : Bool
  lsuOpWb : LsuOp
  pcWb : Word
  iretireWb : Bool
  excTakenWb : Bool

def MemWb.reset : MemWb where
  rdWrEnWb := false
  rdWrTagWb := BitVec.ofNat tagWidth 0
  rdWrAddrWb := 0#5
  rdWrDataWb := 0#32
  lsuEnWb := false
  lsuOpWb := .ld
  pcWb := 0#32
  iretireWb := false
  excTakenWb := false

namespace MemStage

def lsuAccess (mem : ExMem) (readyWb flushM : Bool) : Lsu.Access where
  lsuEn := mem.lsuEnMem && readyWb && !flushM
  lsuOp := mem.lsuOpMem
  lsuDtype := mem.lsuDtypeMem
  lsuAddr := mem.lsuAddrMem
  lsuWdata := mem.rdWrDataMem

/-- `exc_mem` is reserved and tied low. -/
def excMem : Bool := false

def forwardMem (mem : ExMem) : RegisterFile.WritePort where
  en := !mem.lsuEnMem && mem.rdWrEnMem
  tag := mem.rdWrTagMem
  addr := mem.rdWrAddrMem
  data := mem.rdWrDataMem

def clrDirtyMem (mem : ExMem) (flushM : Bool) : RegisterFile.AddrPort where
  en := (forwardMem mem).en && flushM
  addr := mem.rdWrAddrMem

/-- The operation fields of the register in front of WB. -/
def nextOperation (wb : MemWb) (mem : ExMem) (validMem readyWb flushM : Bool) : MemWb :=
  if (flushM && validMem) || (!validMem && readyWb) then
    { wb with
      rdWrEnWb := false
      rdWrTagWb := BitVec.ofNat tagWidth 0
      rdWrAddrWb := 0#5
      rdWrDataWb := 0#32
      lsuEnWb := false
      lsuOpWb := .ld }
  else if validMem then
    { wb with
      rdWrEnWb := mem.rdWrEnMem
      rdWrTagWb := mem.rdWrTagMem
      rdWrAddrWb := mem.rdWrAddrMem
      rdWrDataWb := mem.rdWrDataMem
      lsuEnWb := mem.lsuEnMem
      lsuOpWb := mem.lsuOpMem }
  else wb

def nextExcTakenWb (excTakenWb excTakenMem validMem readyWb flushM : Bool) : Bool :=
  if (validMem && flushM) || (!validMem && readyWb) then false
  else if validMem then excTakenMem || excMem
  else excTakenWb

end MemStage

namespace WbStage

def readyWb (wb : MemWb) (lsuValidWb lsuErrWb : Bool) : Bool :=
  if wb.lsuEnWb then lsuValidWb && !lsuErrWb else true

def rfWr (wb : MemWb) (readyWb flushW : Bool) (lsuRdataWb : Word) :
    RegisterFile.WritePort where
  en := readyWb && wb.rdWrEnWb && !flushW
  tag := wb.rdWrTagWb
  addr := wb.rdWrAddrWb
  data := if wb.lsuEnWb && wb.lsuOpWb == .ld then lsuRdataWb else wb.rdWrDataWb

def clrDirtyWb (wb : MemWb) (flushW : Bool) : RegisterFile.AddrPort where
  en := wb.rdWrEnWb && flushW
  addr := wb.rdWrAddrWb

/-- Neither error flag looks at `lsu_en_wb`. -/
def isLsuLoadErr (wb : MemWb) (lsuValidWb lsuErrWb : Bool) : Bool :=
  lsuValidWb && lsuErrWb && wb.lsuOpWb == .ld

def isLsuStoreErr (wb : MemWb) (lsuValidWb lsuErrWb : Bool) : Bool :=
  lsuValidWb && lsuErrWb && wb.lsuOpWb == .wr

end WbStage

end RiscvCore
