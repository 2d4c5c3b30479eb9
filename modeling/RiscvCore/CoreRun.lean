import RiscvCore.BusProtocol
import RiscvCore.Core
import RiscvCore.SynchronousRun

/-!
# Runs of the core

A run fixes the parameters, the boot address and the inputs of every cycle.  Its buses are read
off the nets of each cycle; a run is well connected when both obey the in-order protocol and the
instruction bus answers from one program.
-/

namespace RiscvCore

open BusProtocol (InOrder)

/-- A run of the core from reset. -/
structure CoreRun where
  params : Params
  bootAddr : Word
  inputs : Nat → CoreInput

namespace CoreRun

variable (run : CoreRun)

/-- The state before the given cycle. -/
def state (cycle : Nat) : CoreState :=
  SynchronousRun.run (CoreState.step run.params) (CoreState.reset run.bootAddr) run.inputs cycle

@[simp]
theorem state_zero : run.state 0 = CoreState.reset run.bootAddr := rfl

theorem state_succ (cycle : Nat) :
    run.state (cycle + 1) = (run.state cycle).step run.params (run.inputs cycle) := rfl

/-- A run goes on from each of its states. -/
theorem state_add (first later : Nat) :
    run.state (first + later) =
      SynchronousRun.run (CoreState.step run.params) (run.state first)
        (fun later => run.inputs (first + later)) later :=
  SynchronousRun.run_add first later

/-- An invariant of the core that every input keeps holds throughout every run. -/
theorem invariant (property : CoreState → Prop)
    (initial : property (CoreState.reset run.bootAddr))
    (preserved : ∀ st port, property st → property (st.step run.params port)) (cycle : Nat) :
    property (run.state cycle) :=
  SynchronousRun.run_invariant property (fun _ _ => True) initial
    (fun st port holds _ => preserved st port holds) (fun _ => trivial) cycle

/-- An observation that no step of a segment changes is the same at both ends. -/
theorem segment_constant {Value : Type _} (observe : CoreState → Value) {first last : Nat}
    (ordered : first ≤ last)
    (unchanged : ∀ cycle, first ≤ cycle → cycle < last →
      observe (run.state (cycle + 1)) = observe (run.state cycle)) :
    observe (run.state last) = observe (run.state first) :=
  SynchronousRun.segment_constant observe ordered unchanged

def issues (cycle : Nat) : Bool := (run.state cycle).issues run.params (run.inputs cycle)

def readyEx (cycle : Nat) : Bool := (run.state cycle).readyEx run.params (run.inputs cycle)

def readyMem (cycle : Nat) : Bool := (run.state cycle).readyMem (run.inputs cycle)

def excTaken (cycle : Nat) : Bool := (run.state cycle).excTaken (run.inputs cycle)

/-- The instruction bus: an answer is a word and an error flag. -/
def instrBus (cycle : Nat) : BusProtocol.Cycle Word (Word × Bool) :=
  let st := run.state cycle
  let port := run.inputs cycle
  { req := st.ifs.instrReq (st.ifInput run.params port)
    gnt := port.instrGnt
    addr := st.ifs.instrAddr (st.ifInput run.params port)
    valid := port.instrValid
    data := (port.instrRdata, port.instrErr) }

/-- The data bus. -/
def dataBus (cycle : Nat) : BusProtocol.Cycle Word (Word × Bool) :=
  let st := run.state cycle
  let port := run.inputs cycle
  { req := Lsu.dataReq (st.lsuAccess port)
    gnt := port.dataGnt
    addr := st.lsu.dataAddr (st.lsuAccess port)
    valid := port.dataValid
    data := (port.dataRdata, port.dataError) }

/-- Both buses obey the protocol, and the instruction bus answers from `program`. -/
structure WellConnected (program : Word → Word × Bool) : Prop where
  instr : InOrder (fun addr answer => answer = program addr) run.instrBus
  data : InOrder (fun _ _ => True) run.dataBus

end CoreRun

end RiscvCore
