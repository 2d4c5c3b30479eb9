import RiscvCore.Bht
import RiscvCore.BranchPredict
import RiscvCore.Btb
import RiscvCore.ExStage

/-!
# The branch predictor with its tables

`branch_predict.sv` with the instances of `btb` and `bht`, and the ports through which EX reports
how branches and jumps went.
-/

namespace RiscvCore

namespace ExStage

def btbUpdate (ex : IdEx) (flushE : Bool) : Bool := btbFail ex && !flushE

def btbInvalid : Bool := false

def bhtUpdata (ex : IdEx) (flushE : Bool) : Bool := ex.branchEx && !flushE

def bhtTaken (ex : IdEx) : Bool := compareResult ex

end ExStage

/-- The registers of `branch_predict`. -/
structure Predictor where
  btb : Btb 128
  bht : Bht 1024

namespace Predictor

/-- The parameters of `branch_predict`. -/
structure Params where
  enaBht : Bool
  enaBtb : Bool
  enaJump : Bool
  enaRas : Bool

/-- The input ports of `branch_predict`. -/
structure Input where
  predictEn : Bool
  fetchPcN : Word
  fetchPc : Word
  fetchRdata : Word
  fetchValid : Bool
  predictFail : Bool
  bhtUpdata : Bool
  bhtPc : Word
  bhtTaken : Bool
  btbInvalid : Bool
  btbUpdate : Bool
  btbPc : Word
  btbTarget : Word

def reset : Predictor where
  btb := Btb.reset
  bht := Bht.reset

def btbRd (port : Input) : Bool := port.predictEn && !port.predictFail

def btbInput (port : Input) : Btb.Input where
  flush := port.predictFail
  btbRd := btbRd port
  pcR := port.fetchPcN.extractLsb' 1 31
  btbWr := port.btbUpdate
  btbInvalid := port.btbInvalid
  pcW := port.btbPc.extractLsb' 1 31
  targetPcW := port.btbTarget

def bhtInput (port : Input) : Bht.Input where
  updateEn := port.bhtUpdata
  taken := port.bhtTaken
  pcEx := port.bhtPc
  rdEn := port.predictEn
  pcIf := port.fetchPcN

/-- Without its table, a prediction is 0. -/
def predictInput (params : Params) (st : Predictor) (port : Input) : BranchPredict.Input where
  enaJump := params.enaJump
  enaRas := params.enaRas
  fetchPc := port.fetchPc
  fetchRdata := port.fetchRdata
  fetchValid := port.fetchValid
  bhtPredict := params.enaBht && st.bht.predictTaken
  btbPredict := params.enaBtb && st.btb.btbHit
  btbAddr := if params.enaBtb then st.btb.targetPcR else 0#31

/-- `predict_taken` and `predict_pc`. -/
def predict (params : Params) (st : Predictor) (port : Input) : Bool × Word :=
  BranchPredict.predict (st.predictInput params port)

def next (st : Predictor) (port : Input) : Predictor where
  btb := st.btb.next (btbInput port)
  bht := st.bht.next (bhtInput port)

/-- What the fetch stage drives. -/
structure Fetch where
  predictEn : Bool
  fetchPcN : Word
  fetchPc : Word
  fetchRdata : Word
  fetchValid : Bool

/-- A cycle of the predictor in the core: the ports of the fetch stage, the register in front of
EX and the flush of EX. -/
structure Cycle where
  fetch : Fetch
  ex : IdEx
  flushE : Bool

def Cycle.input (now : Cycle) : Input where
  predictEn := now.fetch.predictEn
  fetchPcN := now.fetch.fetchPcN
  fetchPc := now.fetch.fetchPc
  fetchRdata := now.fetch.fetchRdata
  fetchValid := now.fetch.fetchValid
  predictFail := ExStage.predictFail now.ex
  bhtUpdata := ExStage.bhtUpdata now.ex now.flushE
  bhtPc := now.ex.pcEx
  bhtTaken := ExStage.bhtTaken now.ex
  btbInvalid := ExStage.btbInvalid
  btbUpdate := ExStage.btbUpdate now.ex now.flushE
  btbPc := now.ex.pcEx
  btbTarget := ExStage.jumpTargetAddr now.ex

end Predictor

end RiscvCore
