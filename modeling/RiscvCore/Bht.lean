import Mathlib.Data.Nat.Log
import RiscvCore.Pkg

/-!
# The branch history table

`bht.sv`: a saturating counter for every slot, looked up for the next fetch and counted for the
branch in EX.
-/

namespace RiscvCore

namespace Bht

def bhtWidth (depth : Nat) : Nat := Nat.clog 2 depth

end Bht

/-- The registers of `bht`. -/
structure Bht (depth : Nat) where
  satCounterQ : BitVec (Bht.bhtWidth depth) → BitVec 2
  predictTaken : Bool

namespace Bht

variable {depth : Nat}

/-- The input ports of `bht`. -/
structure Input where
  updateEn : Bool
  taken : Bool
  pcEx : Word
  rdEn : Bool
  pcIf : Word

def reset : Bht depth where
  satCounterQ := fun _ => 0#2
  predictTaken := false

/-- The slot of a PC, `pc[1 +: BHT_WIDTH]`. -/
def slot (depth : Nat) (pc : Word) : BitVec (bhtWidth depth) := pc.extractLsb' 1 (bhtWidth depth)

def rAddr (depth : Nat) (port : Input) : BitVec (bhtWidth depth) := slot depth port.pcIf

def addr (depth : Nat) (port : Input) : BitVec (bhtWidth depth) := slot depth port.pcEx

/-- The counter of the slot that an update addresses. -/
def updateBht (counter : BitVec 2) (taken : Bool) : BitVec 2 :=
  if counter == 0b11#2 then (if !taken then counter - 1#2 else counter)
  else if counter == 0b00#2 then (if taken then counter + 1#2 else counter)
  else if taken then counter + 1#2 else counter - 1#2

def satCounterN (bht : Bht depth) (port : Input) (slot : BitVec (bhtWidth depth)) : BitVec 2 :=
  if port.updateEn && slot == addr depth port then updateBht (bht.satCounterQ slot) port.taken
  else bht.satCounterQ slot

def next (bht : Bht depth) (port : Input) : Bht depth where
  satCounterQ := bht.satCounterN port
  predictTaken :=
    if port.rdEn then (bht.satCounterQ (rAddr depth port)).getLsbD 1 else bht.predictTaken

end Bht

end RiscvCore
