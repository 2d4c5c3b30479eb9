import RiscvCore.Pkg

/-!
# The pipeline controller

`controller.v`: the trap state machine, the fetch redirect, and the trap-entry updates of
`mcause` and `mepc`.
-/

namespace RiscvCore

/-- `fsm_control_cs`. -/
inductive ControlFsm where
  | idle | excFlush | sleep | wakeup
  deriving DecidableEq, Repr

namespace Controller

/-- The trap sources and interrupt lines the controller looks at. -/
structure Input where
  externIrqTaken : Bool
  softIrqTaken : Bool
  timerIrqTaken : Bool
  excTaken : Bool
  isMret : Bool
  isEcall : Bool
  isEbreak : Bool
  isFence : Bool
  isIllegalInstr : Bool
  isInstrAcsFault : Bool
  isInterrupt : Bool
  isWfi : Bool
  isIllegalCsr : Bool
  isPmpLoadErr : Bool
  isPmpStoreErr : Bool
  isLsuLoadErr : Bool
  isLsuStoreErr : Bool
  privilegeMode : Privilege

def interruptTaken (port : Input) : Bool :=
  port.externIrqTaken || port.softIrqTaken || port.timerIrqTaken

def fsmControlNs (fsm : ControlFsm) (port : Input) : ControlFsm :=
  match fsm with
  | .idle => if port.excTaken then .excFlush else .idle
  | .excFlush => if port.isWfi then .sleep else .idle
  | .sleep => if interruptTaken port then .wakeup else .sleep
  | .wakeup => .idle

def irqAck (fsm : ControlFsm) (isInterrupt : Bool) : Bool :=
  (fsm == .excFlush && isInterrupt) || fsm == .wakeup

def fetchEnable (fsm : ControlFsm) : Bool := fsm != .sleep

/-- `flush_E`, `flush_M` and `flush_W`, and the trap part of `flush_F` and `flush_D`. -/
def flush (fsm : ControlFsm) : Bool := fsm == .excFlush

/-- All five stall outputs. -/
def stall (fsm : ControlFsm) : Bool := fsm == .sleep

/-- `{ mtvec[31:8], 8'h0 }`. -/
def trapVector (mtvec : Word) : Word := mtvec.extractLsb' 8 24 ++ 0#8

/-- `exc_fetch` and `exc_fetch_pc`.  The `is_wfi` branch leaves the address latched; it is
masked by `exc_fetch`. -/
def excFetch (fsm : ControlFsm) (isFence isMret isWfi : Bool) (pcIf mepc mtvec : Word) :
    Bool × Word :=
  match fsm with
  | .excFlush =>
      if isFence then (true, pcIf)
      else if isMret then (true, mepc)
      else if isWfi then (false, 0#32)
      else (true, trapVector mtvec)
  | .wakeup => (true, trapVector mtvec)
  | .idle | .sleep => (false, 0#32)

/-- `mepc_updata`, `mepc_mux`, `mcause_update` and `mcause`. -/
structure TrapUpdate where
  mepcUpdata : Bool
  mepcMux : MepcMux
  mcauseUpdate : Bool
  mcause : Mcause
  deriving DecidableEq

def noUpdate : TrapUpdate where
  mepcUpdata := false
  mepcMux := .pcWb
  mcauseUpdate := false
  mcause := .instrAddrMisalign

def recorded (cause : Mcause) : TrapUpdate where
  mepcUpdata := true
  mepcMux := .pcWb
  mcauseUpdate := true
  mcause := cause

/-- The cause an interrupt records; without a taken line the default stays. -/
def interruptCause (port : Input) : Mcause :=
  if port.externIrqTaken then .mExternalInt
  else if port.softIrqTaken then .mSoftwareInt
  else if port.timerIrqTaken then .mTimerInt
  else .instrAddrMisalign

def ecallCause (privilegeMode : Privilege) : Mcause :=
  if privilegeMode = privLvlU then .ecallU else .ecallM

def trapUpdate (fsm : ControlFsm) (port : Input) : TrapUpdate :=
  if port.excTaken then
    (if port.isLsuStoreErr || port.isPmpStoreErr then recorded .storeAcsFault
    else if port.isLsuLoadErr || port.isPmpLoadErr then recorded .loadAcsFault
    else if port.isEcall then recorded (ecallCause port.privilegeMode)
    else if port.isEbreak then recorded .breakpoint
    else if port.isIllegalInstr || port.isIllegalCsr then recorded .illegalInstr
    else if port.isInstrAcsFault then recorded .instrAcsFault
    else if port.isWfi then { noUpdate with mepcUpdata := true, mepcMux := .pcIf }
    else if port.isInterrupt then recorded (interruptCause port)
    else noUpdate)
  else if fsm = .wakeup then
    { noUpdate with mcauseUpdate := true, mcause := interruptCause port }
  else noUpdate

end Controller

end RiscvCore
