import RiscvCore.Pkg

/-!
# Synchronous FIFOs

`sync_fifo.v` is a shift register with one valid bit per slot; the write position is the first
slot whose valid bit is clear.  `prefetch_fifo.sv` puts a bypass in front of it, so that a word
written to an empty FIFO can be read in the same cycle.
-/

namespace RiscvCore

/-- The registers of `sync_fifo`. -/
structure SyncFifo (depth dataWidth : Nat) where
  valid : Fin depth → Bool
  fifoDataQ : Fin depth → BitVec dataWidth

namespace SyncFifo

variable {depth dataWidth : Nat}

def reset : SyncFifo depth dataWidth where
  valid := fun _ => false
  fifoDataQ := fun _ => BitVec.ofNat dataWidth 0

/-- The input ports of `sync_fifo`. -/
structure Input (dataWidth : Nat) where
  fifoClear : Bool
  wrEn : Bool
  wrData : BitVec dataWidth
  rdEn : Bool

/-- The valid bit of a slot, low past the end of the array. -/
def validAt (fifo : SyncFifo depth dataWidth) (slot : Nat) : Bool :=
  if inside : slot < depth then fifo.valid ⟨slot, inside⟩ else false

def dataAt (fifo : SyncFifo depth dataWidth) (slot : Nat) : BitVec dataWidth :=
  if inside : slot < depth then fifo.fifoDataQ ⟨slot, inside⟩ else BitVec.ofNat dataWidth 0

def wrPointer (fifo : SyncFifo depth dataWidth) (slot : Nat) : Bool :=
  if slot = 0 then !fifo.validAt slot
  else !fifo.validAt slot && fifo.validAt (slot - 1)

def pushedValid (fifo : SyncFifo depth dataWidth) (push : Bool) (slot : Nat) : Bool :=
  if slot = 0 then (if push then true else fifo.validAt slot)
  else (push && fifo.wrPointer slot) || fifo.validAt slot

def popedValid (fifo : SyncFifo depth dataWidth) (push pop : Bool) (slot : Nat) : Bool :=
  if slot + 1 < depth then
    (if pop then fifo.pushedValid push (slot + 1) else fifo.pushedValid push slot)
  else
    (if pop then false else fifo.pushedValid push slot)

def entryEn (fifo : SyncFifo depth dataWidth) (push pop : Bool) (slot : Nat) : Bool :=
  if slot + 1 < depth then
    (pop && fifo.pushedValid push (slot + 1)) || (!pop && fifo.wrPointer slot && push)
  else !pop && fifo.wrPointer slot && push

def fifoDataD (fifo : SyncFifo depth dataWidth) (wrData : BitVec dataWidth) (slot : Nat) :
    BitVec dataWidth :=
  if slot + 1 < depth then
    (if fifo.validAt (slot + 1) then fifo.dataAt (slot + 1) else wrData)
  else wrData

def next (fifo : SyncFifo depth dataWidth) (port : Input dataWidth) :
    SyncFifo depth dataWidth where
  valid := fun slot => fifo.popedValid port.wrEn port.rdEn slot && !port.fifoClear
  fifoDataQ := fun slot =>
    if fifo.entryEn port.wrEn port.rdEn slot then fifo.fifoDataD port.wrData slot
    else fifo.fifoDataQ slot

def rdData (fifo : SyncFifo depth dataWidth) : BitVec dataWidth := fifo.dataAt 0

def rdDataValid (fifo : SyncFifo depth dataWidth) : Bool := fifo.validAt 0

def fifoFull (fifo : SyncFifo depth dataWidth) : Bool :=
  (List.range depth).all fifo.validAt

def fifoAlmostFull (fifo : SyncFifo depth dataWidth) : Bool :=
  (List.range (depth - 1)).all fifo.validAt

def fifoEmpty (fifo : SyncFifo depth dataWidth) : Bool :=
  !(List.range depth).any fifo.validAt

end SyncFifo

namespace PrefetchFifo

variable {depth dataWidth : Nat}

/-- The input ports of `prefetch_fifo`. -/
structure Input (dataWidth : Nat) where
  fifoClear : Bool
  fifoReady : Bool
  fifoWvalid : Bool
  fifoWdata : BitVec dataWidth

def fifoPop (fifo : SyncFifo depth dataWidth) (fifoReady : Bool) : Bool :=
  fifoReady && fifo.rdDataValid

def fifoPush (fifo : SyncFifo depth dataWidth) (fifoReady fifoWvalid : Bool) : Bool :=
  fifoWvalid && (!fifoReady || fifo.rdDataValid)

def fifoValid (fifo : SyncFifo depth dataWidth) (fifoWvalid : Bool) : Bool :=
  fifo.rdDataValid || (fifo.fifoEmpty && fifoWvalid)

def fifoRdata (fifo : SyncFifo depth dataWidth) (fifoReady : Bool)
    (fifoWdata : BitVec dataWidth) : BitVec dataWidth :=
  if fifoPop fifo fifoReady then fifo.rdData else fifoWdata

def next (fifo : SyncFifo depth dataWidth) (port : Input dataWidth) :
    SyncFifo depth dataWidth :=
  fifo.next
    { fifoClear := port.fifoClear
      wrEn := fifoPush fifo port.fifoReady port.fifoWvalid
      wrData := port.fifoWdata
      rdEn := fifoPop fifo port.fifoReady }

end PrefetchFifo

end RiscvCore
