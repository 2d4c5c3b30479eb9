import RiscvCore.Pkg

/-!
# The load/store unit

`lsu.sv`: an access that crosses a word boundary is issued as two requests; `unalign_q` is set
between them.
-/

namespace RiscvCore

/-- The registers of `lsu`. -/
structure Lsu where
  unalignQ : Bool
  dataRdataQ : BitVec 24
  unalignFirstErr : Bool
  addrOffsetQ : BitVec 2
  lsuDtypeQ : LsuDtype

namespace Lsu

def reset : Lsu where
  unalignQ := false
  dataRdataQ := 0#24
  unalignFirstErr := false
  addrOffsetQ := 0#2
  lsuDtypeQ := 0#3

/-- The access offered by MEM. -/
structure Access where
  lsuEn : Bool
  lsuOp : LsuOp
  lsuDtype : LsuDtype
  lsuAddr : Word
  lsuWdata : Word

/-- The data bus inputs. -/
structure Bus where
  dataGnt : Bool
  dataRdata : Word
  dataValid : Bool
  dataError : Bool

def sizeByte : BitVec 2 := 0b00#2
def sizeHalfWord : BitVec 2 := 0b01#2
def sizeWord : BitVec 2 := 0b10#2

/-- The access with this width and byte offset needs two requests. -/
def crossesWord (lsuDtype : LsuDtype) (offset : BitVec 2) : Bool :=
  (lsuDtype.extractLsb' 0 2 == sizeHalfWord && offset == 0b11#2) ||
    (lsuDtype.extractLsb' 0 2 == sizeWord && offset != 0b00#2)

def addrOffset (access : Access) : BitVec 2 := access.lsuAddr.extractLsb' 0 2

def reqUnalign (access : Access) : Bool := crossesWord access.lsuDtype (addrOffset access)

def lsuReady (lsu : Lsu) (access : Access) (dataGnt : Bool) : Bool :=
  if access.lsuEn then
    (if reqUnalign access then lsu.unalignQ && dataGnt else dataGnt)
  else true

def dataReq (access : Access) : Bool := access.lsuEn

def dataAddr (lsu : Lsu) (access : Access) : Word :=
  if lsu.unalignQ then access.lsuAddr + 4#32 else access.lsuAddr

def dataWr (access : Access) : Bool := access.lsuOp == .wr

def dataWdata (access : Access) : Word :=
  let size := access.lsuDtype.extractLsb' 0 2
  let byte := access.lsuWdata.extractLsb' 0 8
  let half := access.lsuWdata.extractLsb' 0 16
  if size = sizeByte then byte ++ byte ++ byte ++ byte
  else if size = sizeHalfWord then half ++ half
  else if size = sizeWord then access.lsuWdata
  else 0#32

def dataBe (lsu : Lsu) (access : Access) : BitVec 4 :=
  let size := access.lsuDtype.extractLsb' 0 2
  let offset := addrOffset access
  if size = sizeByte then
    (if offset = 0b00#2 then 0b0001#4
    else if offset = 0b01#2 then 0b0010#4
    else if offset = 0b10#2 then 0b0100#4
    else 0b1000#4)
  else if size = sizeHalfWord then
    (if offset = 0b00#2 then 0b0011#4
    else if offset = 0b01#2 then 0b0110#4
    else if offset = 0b10#2 then 0b1100#4
    else if lsu.unalignQ then 0b0001#4 else 0b1000#4)
  else if size = sizeWord then
    (if offset = 0b00#2 then 0b1111#4
    else if offset = 0b01#2 then (if lsu.unalignQ then 0b0001#4 else 0b1110#4)
    else if offset = 0b10#2 then (if lsu.unalignQ then 0b0011#4 else 0b1100#4)
    else if lsu.unalignQ then 0b0111#4 else 0b1000#4)
  else 0b1111#4

/-- The loaded bits, extended to a word. -/
def extend {width : Nat} (lsu : Lsu) (bits : BitVec width) : Word :=
  if !lsu.lsuDtypeQ.getLsbD 2 then bits.signExtend 32 else bits.setWidth 32

def rdataByte (lsu : Lsu) (dataRdata : Word) : Word :=
  if lsu.addrOffsetQ = 0b00#2 then lsu.extend (dataRdata.extractLsb' 0 8)
  else if lsu.addrOffsetQ = 0b01#2 then lsu.extend (dataRdata.extractLsb' 8 8)
  else if lsu.addrOffsetQ = 0b10#2 then lsu.extend (dataRdata.extractLsb' 16 8)
  else lsu.extend (dataRdata.extractLsb' 24 8)

/-- The sign of a split half word is taken from bit 31 of the second response. -/
def rdataHalfword (lsu : Lsu) (dataRdata : Word) : Word :=
  if lsu.addrOffsetQ = 0b00#2 then lsu.extend (dataRdata.extractLsb' 0 16)
  else if lsu.addrOffsetQ = 0b01#2 then lsu.extend (dataRdata.extractLsb' 8 16)
  else if lsu.addrOffsetQ = 0b10#2 then lsu.extend (dataRdata.extractLsb' 16 16)
  else
    let half : BitVec 16 := dataRdata.extractLsb' 0 8 ++ lsu.dataRdataQ.extractLsb' 16 8
    if !lsu.lsuDtypeQ.getLsbD 2 then (BitVec.ofBool (dataRdata.getLsbD 31)).signExtend 16 ++ half
    else 0#16 ++ half

def rdataWord (lsu : Lsu) (dataRdata : Word) : Word :=
  if lsu.addrOffsetQ = 0b00#2 then dataRdata
  else if lsu.addrOffsetQ = 0b01#2 then dataRdata.extractLsb' 0 8 ++ lsu.dataRdataQ
  else if lsu.addrOffsetQ = 0b10#2 then
    dataRdata.extractLsb' 0 16 ++ lsu.dataRdataQ.extractLsb' 8 16
  else dataRdata.extractLsb' 0 24 ++ lsu.dataRdataQ.extractLsb' 16 8

def lsuRdata (lsu : Lsu) (dataRdata : Word) : Word :=
  let size := lsu.lsuDtypeQ.extractLsb' 0 2
  if size = sizeByte then lsu.rdataByte dataRdata
  else if size = sizeHalfWord then lsu.rdataHalfword dataRdata
  else if size = sizeWord then lsu.rdataWord dataRdata
  else 0#32

def unalignWb (lsu : Lsu) : Bool := crossesWord lsu.lsuDtypeQ lsu.addrOffsetQ

def lsuValid (lsu : Lsu) (bus : Bus) : Bool := !lsu.unalignQ && bus.dataValid

def lsuErr (lsu : Lsu) (bus : Bus) : Bool :=
  if lsu.unalignWb then lsu.lsuValid bus && (bus.dataError || lsu.unalignFirstErr)
  else lsu.lsuValid bus && bus.dataError

def next (lsu : Lsu) (access : Access) (bus : Bus) : Lsu where
  unalignQ :=
    if lsu.unalignQ && bus.dataGnt then false
    else if bus.dataGnt then reqUnalign access
    else lsu.unalignQ
  dataRdataQ :=
    if lsu.unalignQ && bus.dataValid then bus.dataRdata.extractLsb' 8 24 else lsu.dataRdataQ
  unalignFirstErr :=
    if lsu.unalignQ && bus.dataValid then bus.dataError else lsu.unalignFirstErr
  addrOffsetQ :=
    if dataReq access && bus.dataGnt then addrOffset access else lsu.addrOffsetQ
  lsuDtypeQ := if dataReq access && bus.dataGnt then access.lsuDtype else lsu.lsuDtypeQ

end Lsu

end RiscvCore
