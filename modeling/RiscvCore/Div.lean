import RiscvCore.Pkg

/-!
# The divider

`div.sv`: a 32-step non-restoring division.  The partial remainder is kept as a word and a
separate sign bit; the signs of the operands are applied to the outputs.
-/

namespace RiscvCore

inductive DivFsm where
  | idle | work | finish
  deriving DecidableEq, Repr

/-- The registers of `div`. -/
structure Div where
  fsmCs : DivFsm
  cnt : BitVec 5
  quotientQ : Word
  remainderQ : Word
  denominatorQ : Word
  rSign : Bool
  divByZeroQ : Bool

namespace Div

def reset : Div where
  fsmCs := .idle
  cnt := 0#5
  quotientQ := 0#32
  remainderQ := 0#32
  denominatorQ := 0#32
  rSign := false
  divByZeroQ := false

/-- The input ports of `div`. -/
structure Input where
  flush : Bool
  en : Bool
  sign : Bool
  opA : Word
  opB : Word

def divByZero (port : Input) : Bool := port.opB == 0#32

def fsmNs (div : Div) (port : Input) : DivFsm :=
  match div.fsmCs with
  | .idle => if port.en then (if divByZero port then .finish else .work) else .idle
  | .work => if div.cnt = 31#5 then .finish else .work
  | .finish => .idle

def subAdd (div : Div) : BitVec 33 :=
  let shifted : BitVec 33 := div.remainderQ ++ BitVec.ofBool (div.quotientQ.getLsbD 31)
  let denominator : BitVec 33 := 0#1 ++ div.denominatorQ
  if div.rSign then shifted + denominator else shifted - denominator

/-- The absolute value loaded for a signed operand, the operand itself otherwise. -/
def loadOperand (sign : Bool) (op : Word) : Word :=
  if sign then (if op.getLsbD 31 then ~~~op + 1#32 else op) else op

def next (div : Div) (port : Input) : Div :=
  let fsmCs := if port.flush then .idle else div.fsmNs port
  if div.fsmCs = .idle ∧ port.en then
    { fsmCs
      cnt := 0#5
      quotientQ := loadOperand port.sign port.opA
      remainderQ := 0#32
      denominatorQ := loadOperand port.sign port.opB
      rSign := false
      divByZeroQ := divByZero port }
  else if div.fsmCs = .work then
    { div with
      fsmCs
      rSign := (subAdd div).getLsbD 32
      remainderQ := (subAdd div).extractLsb' 0 32
      quotientQ := div.quotientQ.extractLsb' 0 31 ++ BitVec.ofBool (!(subAdd div).getLsbD 32)
      cnt := div.cnt + 1#5 }
  else
    { div with fsmCs }

def remainderU (div : Div) : Word :=
  if div.rSign then div.remainderQ + div.denominatorQ else div.remainderQ

def remainderS (div : Div) (opA : Word) : Word :=
  if opA.getLsbD 31 then ~~~div.remainderU + 1#32 else div.remainderU

def quotientS (div : Div) (opA opB : Word) : Word :=
  if opA.getLsbD 31 ^^ opB.getLsbD 31 then ~~~div.quotientQ + 1#32 else div.quotientQ

def remainder (div : Div) (sign : Bool) (opA : Word) : Word :=
  if div.divByZeroQ then opA else if sign then div.remainderS opA else div.remainderU

def quotient (div : Div) (sign : Bool) (opA opB : Word) : Word :=
  if div.divByZeroQ then BitVec.allOnes 32
  else if sign then div.quotientS opA opB else div.quotientQ

def ready (div : Div) (en : Bool) : Bool :=
  (div.fsmCs == .idle && !en) || div.fsmCs == .finish

end Div

end RiscvCore
