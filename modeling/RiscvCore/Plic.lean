import RiscvCore.Pkg

/-!
# The interrupt controller

`plic.sv`: three levels (external over software over timer) masked by a two-bit threshold.
-/

namespace RiscvCore

namespace Plic

/-- The interrupt lines and enables that the controller combines. -/
structure Input where
  externIrq : Bool
  softIrq : Bool
  timerIrq : Bool
  mstatusMie : Bool
  mie : Word

def externIrqTaken (irqThreshold : BitVec 2) (port : Input) : Bool :=
  irqThreshold.ule 2#2 && (port.mstatusMie && port.mie.getLsbD bitMieMeie) && port.externIrq

def softIrqTaken (irqThreshold : BitVec 2) (port : Input) : Bool :=
  irqThreshold.ule 1#2 && (port.mstatusMie && port.mie.getLsbD bitMieMsie) && port.softIrq

def timerIrqTaken (irqThreshold : BitVec 2) (port : Input) : Bool :=
  irqThreshold.ule 0#2 && (port.mstatusMie && port.mie.getLsbD bitMieMtie) && port.timerIrq

/-- The next value of `irq_threshold`. -/
def next (irqThreshold : BitVec 2) (port : Input) (isMret irqAck : Bool) : BitVec 2 :=
  if isMret then 0#2
  else if externIrqTaken irqThreshold port && irqAck then 3#2
  else if softIrqTaken irqThreshold port && irqAck then 2#2
  else if timerIrqTaken irqThreshold port && irqAck then 1#2
  else irqThreshold

end Plic

end RiscvCore
