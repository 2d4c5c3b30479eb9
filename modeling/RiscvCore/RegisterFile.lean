import RiscvCore.Pkg

/-!
# Register file and score board

`register_file.v` keeps, beside each value, a dirty bit and a two-bit tag that is advanced by
every issued writer.  `score_board.sv` selects an operand among the register file and the three
bypass paths, whose tags must match.
-/

namespace RiscvCore

/-- The registers of `register_file`. -/
structure RegisterFile where
  mem : RegAddr → Word
  dirtyEn : RegAddr → Bool
  tag : RegAddr → Tag

namespace RegisterFile

def reset : RegisterFile where
  mem := fun _ => 0#32
  dirtyEn := fun _ => false
  tag := fun _ => BitVec.ofNat tagWidth 0

/-- An enabled register address: a flush that clears a dirty bit, or an issued writer. -/
structure AddrPort where
  en : Bool
  addr : RegAddr

/-- A tagged result on its way to the register file. -/
structure WritePort where
  en : Bool
  tag : Tag
  addr : RegAddr
  data : Word

def AddrPort.hits (port : AddrPort) (reg : RegAddr) : Bool := port.en && port.addr == reg

/-- The input ports that change the register file. -/
structure Input where
  clrDirtyEx : AddrPort
  clrDirtyMem : AddrPort
  clrDirtyWb : AddrPort
  invalid : AddrPort
  wrCh0 : WritePort

def clrDirty (port : Input) (reg : RegAddr) : Bool :=
  port.clrDirtyEx.hits reg || port.clrDirtyMem.hits reg || port.clrDirtyWb.hits reg

def tagN (rf : RegisterFile) (invalid : AddrPort) (reg : RegAddr) : Tag :=
  if reg = 0#5 then BitVec.ofNat tagWidth 0
  else if invalid.hits reg then rf.tag reg + BitVec.ofNat tagWidth 1
  else rf.tag reg

/-- Register 0 is tied to zero and never dirty. -/
def next (rf : RegisterFile) (port : Input) : RegisterFile where
  mem := fun reg =>
    if reg = 0#5 then 0#32
    else if port.wrCh0.en && port.wrCh0.addr == reg then port.wrCh0.data
    else rf.mem reg
  dirtyEn := fun reg =>
    if reg = 0#5 then false
    else if clrDirty port reg then false
    else if port.invalid.hits reg then true
    else if port.wrCh0.en && port.wrCh0.addr == reg && port.wrCh0.tag == rf.tag reg then false
    else rf.dirtyEn reg
  tag := rf.tagN port.invalid

/-- `new_tag`: the tag an issued writer carries. -/
def newTag (rf : RegisterFile) (invalid : AddrPort) : Tag := rf.tagN invalid invalid.addr

end RegisterFile

namespace ScoreBoard

open RegisterFile (WritePort)

/-- The three bypass paths, from EX, MEM and WB. -/
structure Forwards where
  ex : WritePort
  mem : WritePort
  wb : WritePort

/-- One bypass comparison. -/
def bypass (rf : RegisterFile) (rdEn : Bool) (rdAddr : RegAddr) (forward : WritePort) : Bool :=
  (rdEn && forward.en) && rdAddr == forward.addr && !(rdAddr == 0#5) &&
    rf.tag rdAddr == forward.tag

/-- `rd_rf_dirty`, already gated by the read enable. -/
def rdRfDirty (rf : RegisterFile) (rdEn : Bool) (rdAddr : RegAddr) : Bool :=
  rdEn && rf.dirtyEn rdAddr

def rdRfData (rf : RegisterFile) (rdEn : Bool) (rdAddr : RegAddr) : Word :=
  if rdEn then rf.mem rdAddr else 0#32

/-- `rs1_rd_value` and `rs2_rd_value`. -/
def rdValue (rf : RegisterFile) (rdEn : Bool) (rdAddr : RegAddr) (forwards : Forwards) : Bool :=
  !rdRfDirty rf rdEn rdAddr || bypass rf rdEn rdAddr forwards.ex ||
    bypass rf rdEn rdAddr forwards.mem || bypass rf rdEn rdAddr forwards.wb

/-- A word gated by one bit, as the operand selection ORs them together. -/
def gate (enable : Bool) (data : Word) : Word := if enable then data else 0#32

/-- `rs1_rd_data` and `rs2_rd_data`. -/
def rdData (rf : RegisterFile) (rdEn : Bool) (rdAddr : RegAddr) (forwards : Forwards) : Word :=
  gate (!rdRfDirty rf rdEn rdAddr) (rdRfData rf rdEn rdAddr) |||
    gate (bypass rf rdEn rdAddr forwards.ex) forwards.ex.data |||
    gate (bypass rf rdEn rdAddr forwards.mem) forwards.mem.data |||
    gate (bypass rf rdEn rdAddr forwards.wb) forwards.wb.data

end ScoreBoard

end RiscvCore
