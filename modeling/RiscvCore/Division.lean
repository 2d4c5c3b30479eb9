import Mathlib.Algebra.Group.Int.Defs
import RiscvCore.Div
import RiscvCore.NonRestoring
import RiscvCore.SynchronousRun
import RiscvCore.ArithmeticUnits

/-!
# The divider divides

The registers of the divider in WORK hold a non-restoring division of the absolute values: the
quotient register is shared by the bits of the numerator not yet taken and the bits of the
quotient, and the sign bit together with the remainder register is the partial remainder.
From an idle cycle with an enabled division on, whatever the registers held, the first ready
cycle shows the quotient and the remainder of the RISC-V instructions.
-/

namespace RiscvCore

namespace Div

open NonRestoring (Divides)

/-- The partial remainder: the sign bit and the remainder register. -/
def partialRemainder (div : Div) : Int := (BitVec.ofBool div.rSign ++ div.remainderQ).toInt

theorem partialRemainder_eq (div : Div) :
    div.partialRemainder = (div.remainderQ.toNat : Int) - 2 ^ 32 * div.rSign.toNat := by
  have bound := div.remainderQ.isLt
  rw [partialRemainder, BitVec.toInt_eq_toNat_cond, BitVec.toNat_append,
    ← Nat.shiftLeft_add_eq_or_of_lt div.remainderQ.isLt, Nat.shiftLeft_eq, BitVec.toNat_ofBool]
  cases div.rSign <;> simp only [Bool.toNat_false, Bool.toNat_true] <;> split <;> omega

/-- The next bit of the numerator. -/
def topBit (div : Div) : Nat := div.quotientQ.toNat / 2 ^ 31

theorem topBit_le_one (div : Div) : div.topBit ≤ 1 := by
  have bound := div.quotientQ.isLt
  rw [topBit]
  omega

theorem toNat_topBit (div : Div) : (div.quotientQ.getLsbD 31).toNat = div.topBit := by
  have bound := div.quotientQ.isLt
  rw [getLsbD_31, topBit]
  by_cases high : 2 ^ 31 ≤ div.quotientQ.toNat
  · rw [decide_eq_true high, Bool.toNat_true]
    omega
  · rw [decide_eq_false high, Bool.toNat_false]
    omega

theorem rSign_eq (div : Div) : div.rSign = decide (div.partialRemainder < 0) := by
  have bound := div.remainderQ.isLt
  rw [partialRemainder_eq]
  cases div.rSign with
  | true => exact (decide_eq_true (by simp only [Bool.toNat_true]; omega)).symm
  | false => exact (decide_eq_false (by simp only [Bool.toNat_false]; omega)).symm

variable {div : Div} {taken quotient : Nat}

/-- The 33-bit adder does not overflow on partial remainders. -/
theorem toInt_subAdd
    (divides : Divides div.denominatorQ.toNat taken quotient div.partialRemainder) :
    div.subAdd.toInt =
      NonRestoring.next div.denominatorQ.toNat div.partialRemainder div.topBit := by
  have boundR := div.remainderQ.isLt
  have boundD := div.denominatorQ.isLt
  have lower : _ ≤ NonRestoring.next _ _ div.topBit := divides.next_lower
  have upper := divides.next_upper div.topBit_le_one
  have value := div.partialRemainder_eq
  have sign := div.rSign_eq
  have shifted : (div.remainderQ ++ BitVec.ofBool (div.quotientQ.getLsbD 31)).toNat =
      2 * div.remainderQ.toNat + div.topBit := by
    rw [toNat_append_bit, BitVec.toNat_ofBool, toNat_topBit]
  have denominator : (0#1 ++ div.denominatorQ).toNat = div.denominatorQ.toNat := by
    rw [BitVec.toNat_append, ← Nat.shiftLeft_add_eq_or_of_lt div.denominatorQ.isLt]
    simp
  rw [BitVec.toInt_eq_toNat_cond, subAdd]
  cases isNeg : div.rSign with
  | true =>
      rw [isNeg, Bool.toNat_true] at value
      have negative : div.partialRemainder < 0 := by simpa [isNeg] using sign
      rw [NonRestoring.next_of_neg negative] at lower upper ⊢
      rw [if_pos rfl, BitVec.toNat_add, shifted, denominator]
      split <;> omega
  | false =>
      rw [isNeg, Bool.toNat_false] at value
      have nonneg : 0 ≤ div.partialRemainder := by simpa [isNeg] using sign
      rw [NonRestoring.next_of_nonneg nonneg] at lower upper ⊢
      rw [if_neg Bool.false_ne_true, BitVec.toNat_sub, shifted, denominator]
      split <;> omega

/-- The 32-bit correction. -/
theorem toNat_remainderU
    (divides : Divides div.denominatorQ.toNat taken quotient div.partialRemainder) :
    (div.remainderU.toNat : Int) =
      NonRestoring.correct div.denominatorQ.toNat div.partialRemainder := by
  have boundR := div.remainderQ.isLt
  have lower := divides.lower
  have value := div.partialRemainder_eq
  have sign := div.rSign_eq
  rw [remainderU, NonRestoring.correct]
  cases isNeg : div.rSign with
  | true =>
      rw [isNeg, Bool.toNat_true] at value
      have negative : div.partialRemainder < 0 := by simpa [isNeg] using sign
      have boundD := div.denominatorQ.isLt
      rw [if_pos rfl, if_pos negative, BitVec.toNat_add]
      omega
  | false =>
      rw [isNeg, Bool.toNat_false] at value
      have nonneg : 0 ≤ div.partialRemainder := by simpa [isNeg] using sign
      rw [if_neg Bool.false_ne_true, if_neg (by omega)]
      omega

/-- The registers after `steps` steps in WORK.  The quotient register holds the bits of the
numerator not yet taken above the bits of the quotient. -/
structure Working (div : Div) (numerator denominator : Word) (steps : Nat) : Prop where
  cnt : div.cnt.toNat = steps % 32
  denominatorQ : div.denominatorQ = denominator
  divByZeroQ : div.divByZeroQ = false
  divided : ∃ taken rest quotient,
    numerator.toNat = taken * 2 ^ (32 - steps) + rest ∧ rest < 2 ^ (32 - steps) ∧
    div.quotientQ.toNat = rest * 2 ^ steps + quotient ∧ quotient < 2 ^ steps ∧
    Divides denominator.toNat taken quotient div.partialRemainder

section Step

variable {numerator denominator : Word} {steps : Nat} {port : Input}

theorem next_of_work (port : Input) (work : div.fsmCs = .work) :
    (div.next port).rSign = div.subAdd.getLsbD 32 ∧
    (div.next port).remainderQ = div.subAdd.extractLsb' 0 32 ∧
    (div.next port).quotientQ =
      div.quotientQ.extractLsb' 0 31 ++ BitVec.ofBool (!div.subAdd.getLsbD 32) ∧
    (div.next port).cnt = div.cnt + 1#5 ∧
    (div.next port).denominatorQ = div.denominatorQ ∧
    (div.next port).divByZeroQ = div.divByZeroQ := by
  simp [next, work]

theorem getLsbD_32 (word : BitVec 33) : word.getLsbD 32 = decide (word.toInt < 0) := by
  have msb := BitVec.msb_eq_toInt (x := word)
  rwa [BitVec.msb_eq_getLsbD_last] at msb

/-- The sign bit and the remainder register keep the result of the adder. -/
theorem partialRemainder_next (port : Input) (work : div.fsmCs = .work) :
    (div.next port).partialRemainder = div.subAdd.toInt := by
  obtain ⟨rSign, remainderQ, -⟩ := next_of_work port work
  rw [partialRemainder, rSign, remainderQ]
  congr 1
  ext bit bound
  simp only [BitVec.getElem_append, BitVec.getElem_extractLsb', Nat.zero_add]
  split
  · rw [BitVec.getLsbD_eq_getElem bound]
  · obtain rfl : bit = 32 := by omega
    simp [BitVec.getLsbD_eq_getElem]

theorem toNat_quotientQ_next (work : div.fsmCs = .work) :
    (div.next port).quotientQ.toNat = 2 * (div.quotientQ.toNat % 2 ^ 31) +
      NonRestoring.quotientBit div.subAdd.toInt := by
  obtain ⟨-, -, quotientQ, -⟩ := next_of_work port work
  rw [quotientQ, toNat_append_bit, BitVec.extractLsb'_toNat, Nat.shiftRight_zero,
    BitVec.toNat_ofBool, getLsbD_32, NonRestoring.quotientBit]
  by_cases negative : div.subAdd.toInt < 0 <;> simp [negative]

/-- One step in WORK takes one bit of the numerator and gives one bit of the quotient. -/
theorem Working.step (working : div.Working numerator denominator steps)
    (work : div.fsmCs = .work) (notDone : steps < 32) :
    (div.next port).Working numerator denominator (steps + 1) := by
  obtain ⟨cnt, isDenominator, notZero, taken, rest, quotient, isNumerator, restBound,
    isQuotient, quotientBound, divides⟩ := working
  obtain ⟨-, -, -, nextCnt, nextDenominator, nextByZero⟩ := next_of_work port work
  refine ⟨?_, nextDenominator.trans isDenominator, nextByZero.trans notZero, ?_⟩
  · rw [nextCnt, BitVec.toNat_add, cnt]
    simp
  have isNext : (div.next port).partialRemainder =
      NonRestoring.next denominator.toNat div.partialRemainder div.topBit := by
    rw [partialRemainder_next port work, toInt_subAdd (isDenominator ▸ divides), isDenominator]
  have powers : 2 ^ (31 - steps) * 2 ^ steps = 2 ^ 31 := by
    rw [← Nat.pow_add]
    congr 1
    omega
  have restPower : 2 ^ (32 - steps) = 2 * 2 ^ (31 - steps) := by
    rw [← Nat.pow_succ']
    congr 1
    omega
  -- the rest of the numerator is its top bit above the rest of the next step
  have top : div.topBit = rest / 2 ^ (31 - steps) := by
    rw [topBit, ← powers]
    exact NonRestoring.shared_top isQuotient quotientBound
  have remaining : div.quotientQ.toNat % (2 ^ (31 - steps) * 2 ^ steps) = _ :=
    NonRestoring.shared_remaining isQuotient quotientBound
  rw [powers] at remaining
  have parts := Nat.div_add_mod rest (2 ^ (31 - steps))
  have fewer : 32 - (steps + 1) = 31 - steps := by omega
  have bitBound : NonRestoring.quotientBit div.subAdd.toInt ≤ 1 := by
    rw [NonRestoring.quotientBit]
    split <;> omega
  refine ⟨2 * taken + div.topBit, rest % 2 ^ (31 - steps),
    2 * quotient + NonRestoring.quotientBit div.subAdd.toInt, ?_, ?_, ?_, ?_, ?_⟩
  · rw [isNumerator, restPower, fewer, top, Nat.add_mul]
    have commuted := Nat.mul_comm (rest / 2 ^ (31 - steps)) (2 ^ (31 - steps))
    have doubled : taken * (2 * 2 ^ (31 - steps)) = 2 * taken * 2 ^ (31 - steps) := by
      rw [Nat.mul_left_comm, Nat.mul_assoc]
    omega
  · rw [fewer]
    exact Nat.mod_lt _ (Nat.two_pow_pos _)
  · rw [toNat_quotientQ_next work, remaining, Nat.pow_succ']
    have doubled := Nat.mul_left_comm (rest % 2 ^ (31 - steps)) 2 (2 ^ steps)
    omega
  · rw [Nat.pow_succ']
    omega
  · rw [← partialRemainder_next port work, isNext]
    exact divides.step div.topBit_le_one

/-- After the last step the outputs are the quotient and the remainder. -/
theorem Working.result (working : div.Working numerator denominator 32) :
    div.quotientQ = numerator / denominator ∧ div.remainderU = numerator % denominator := by
  obtain ⟨-, isDenominator, -, taken, rest, quotient, isNumerator, restBound,
    isQuotient, quotientBound, divides⟩ := working
  obtain rfl : rest = 0 := by omega
  obtain rfl : taken = numerator.toNat := by omega
  obtain rfl : quotient = div.quotientQ.toNat := by omega
  obtain ⟨isDiv, isMod⟩ := divides.unique
  constructor
  · apply BitVec.eq_of_toNat_eq
    rw [BitVec.toNat_udiv]
    omega
  · apply BitVec.eq_of_toNat_eq
    have corrected := toNat_remainderU (isDenominator ▸ divides)
    rw [isDenominator] at corrected
    rw [BitVec.toNat_umod]
    omega

end Step

/-- The quotient of `DIV` and `DIVU`: rounded towards zero, all ones for a zero divisor, wrapped to
a word. -/
def riscvDiv (sign : Bool) (opA opB : Word) : Word :=
  if opB = 0#32 then BitVec.allOnes 32
  else if sign then BitVec.ofInt 32 (opA.toInt.tdiv opB.toInt)
  else opA / opB

/-- The remainder of `REM` and `REMU`: with the sign of the dividend, which it is for a zero
divisor. -/
def riscvRem (sign : Bool) (opA opB : Word) : Word :=
  if opB = 0#32 then opA
  else if sign then BitVec.ofInt 32 (opA.toInt.tmod opB.toInt)
  else opA % opB

/-- The overflow wraps. -/
example : riscvDiv true 0x80000000#32 0xFFFFFFFF#32 = 0x80000000#32 ∧
    riscvRem true 0x80000000#32 0xFFFFFFFF#32 = 0#32 := by decide

theorem ofInt_tdiv (opA opB : Word) :
    BitVec.ofInt 32 (opA.toInt.tdiv opB.toInt) = opA.sdiv opB := by
  apply BitVec.eq_of_toInt_eq
  rw [BitVec.toInt_ofInt, BitVec.toInt_sdiv]

theorem ofInt_tmod (opA opB : Word) :
    BitVec.ofInt 32 (opA.toInt.tmod opB.toInt) = opA.srem opB := by
  apply BitVec.eq_of_toInt_eq
  rw [BitVec.toInt_ofInt, ← BitVec.toInt_srem, BitVec.toInt_bmod_cancel]

theorem loadOperand_signed (op : Word) :
    loadOperand true op = if op.msb then -op else op := by
  simp only [loadOperand, if_true, BitVec.msb_eq_getLsbD_last, BitVec.neg_eq_not_add]

variable {opA opB : Word}

theorem quotientS_eq (divided : div.quotientQ = loadOperand true opA / loadOperand true opB) :
    div.quotientS opA opB = opA.sdiv opB := by
  have msbA : opA.getLsbD 31 = opA.msb := (BitVec.msb_eq_getLsbD_last opA).symm
  have msbB : opB.getLsbD 31 = opB.msb := (BitVec.msb_eq_getLsbD_last opB).symm
  rw [quotientS, divided, loadOperand_signed, loadOperand_signed, msbA, msbB,
    ← BitVec.neg_eq_not_add, BitVec.sdiv_eq]
  cases opA.msb <;> cases opB.msb <;> rfl

theorem remainderS_eq (divided : div.remainderU = loadOperand true opA % loadOperand true opB) :
    div.remainderS opA = opA.srem opB := by
  have msbA : opA.getLsbD 31 = opA.msb := (BitVec.msb_eq_getLsbD_last opA).symm
  rw [remainderS, divided, loadOperand_signed, loadOperand_signed, msbA,
    ← BitVec.neg_eq_not_add, BitVec.srem_eq]
  cases opA.msb <;> cases opB.msb <;> rfl

/-- The number of cycles from the first one of a division to its result. -/
def latency (port : Input) : Nat := if divByZero port then 1 else 33

section Run

variable {port : Input} {ports : Nat → Input}

/-- A flush ends a division in any cycle. -/
theorem fsmCs_of_flush (flush : port.flush = true) : (div.next port).fsmCs = .idle := by
  simp only [next, flush, if_true]
  split
  · rfl
  · split <;> rfl

theorem fsmCs_of_noFlush (noFlush : port.flush = false) :
    (div.next port).fsmCs = div.fsmNs port := by
  simp only [next, noFlush, Bool.false_eq_true, if_false]
  split
  · rfl
  · split <;> rfl

theorem divByZeroQ_of_start (idle : div.fsmCs = .idle) (enabled : port.en = true) :
    (div.next port).divByZeroQ = divByZero port := by
  simp [next, idle, enabled]

theorem loadOperand_ne_zero {sign : Bool} {op : Word} (nonzero : op ≠ 0#32) :
    loadOperand sign op ≠ 0#32 := by
  cases sign with
  | false => simpa [loadOperand] using nonzero
  | true =>
      rw [loadOperand_signed]
      split
      · simpa using nonzero
      · exact nonzero

/-- The first cycle loads the absolute values. -/
theorem working_of_start (idle : div.fsmCs = .idle) (enabled : port.en = true)
    (nonzero : port.opB ≠ 0#32) :
    (div.next port).Working (loadOperand port.sign port.opA)
      (loadOperand port.sign port.opB) 0 := by
  have loaded : loadOperand port.sign port.opB ≠ 0#32 := loadOperand_ne_zero nonzero
  have positive : 0 < (loadOperand port.sign port.opB).toNat := by
    rcases Nat.eq_zero_or_pos (loadOperand port.sign port.opB).toNat with zero | positive
    · exact absurd (BitVec.eq_of_toNat_eq zero) loaded
    · exact positive
  have bound := (loadOperand port.sign port.opA).isLt
  refine ⟨?_, ?_, ?_, 0, (loadOperand port.sign port.opA).toNat, 0, ?_, ?_, ?_, ?_, ?_⟩
  · simp [next, idle, enabled]
  · simp [next, idle, enabled]
  · simp [divByZeroQ_of_start idle enabled, divByZero, nonzero]
  · simp
  · simpa using bound
  · simp [next, idle, enabled]
  · simp
  · have zero : (div.next port).partialRemainder = 0 := by
      simp [next, idle, enabled, partialRemainder_eq]
    rw [zero]
    exact NonRestoring.divides_zero (by omega)

/-- The loop: one step in each cycle, the last one leads to FINISH. -/
theorem working_run (idle : div.fsmCs = .idle) (enabled : (ports 0).en = true)
    (nonzero : (ports 0).opB ≠ 0#32)
    (noFlush : ∀ cycle, cycle < 33 → (ports cycle).flush = false) :
    ∀ steps, steps ≤ 32 →
      (SynchronousRun.run next div ports (steps + 1)).fsmCs =
        (if steps = 32 then .finish else .work) ∧
      (SynchronousRun.run next div ports (steps + 1)).Working
        (loadOperand (ports 0).sign (ports 0).opA) (loadOperand (ports 0).sign (ports 0).opB)
        steps := by
  intro steps
  induction steps with
  | zero =>
      intro _
      refine ⟨?_, working_of_start idle enabled nonzero⟩
      rw [SynchronousRun.run_succ, SynchronousRun.run_zero,
        fsmCs_of_noFlush (noFlush 0 (by omega))]
      simp [fsmNs, idle, enabled, divByZero, nonzero]
  | succ steps induction =>
      intro bound
      obtain ⟨fsm, working⟩ := induction (by omega)
      rw [if_neg (by omega)] at fsm
      rw [SynchronousRun.run_succ]
      refine ⟨?_, working.step fsm (by omega)⟩
      have isLast :
          (SynchronousRun.run next div ports (steps + 1)).cnt = 31#5 ↔ steps + 1 = 32 := by
        rw [← BitVec.toNat_inj, working.cnt]
        simp
        omega
      rw [fsmCs_of_noFlush (noFlush _ (by omega)), fsmNs, fsm]
      simp only [isLast]

/-- The outputs after the loop. -/
theorem outputs_of_working (nonzero : port.opB ≠ 0#32)
    (working : div.Working (loadOperand port.sign port.opA) (loadOperand port.sign port.opB) 32) :
    div.quotient port.sign port.opA port.opB = riscvDiv port.sign port.opA port.opB ∧
    div.remainder port.sign port.opA = riscvRem port.sign port.opA port.opB := by
  have notZero := working.divByZeroQ
  obtain ⟨isQuotient, isRemainder⟩ := working.result
  rw [quotient, remainder, riscvDiv, riscvRem, if_neg nonzero, if_neg nonzero, notZero]
  cases isSigned : port.sign with
  | false =>
      rw [isSigned] at isQuotient isRemainder
      exact ⟨isQuotient, isRemainder⟩
  | true =>
      rw [isSigned] at isQuotient isRemainder
      rw [ofInt_tdiv, ofInt_tmod]
      exact ⟨quotientS_eq isQuotient, remainderS_eq isRemainder⟩

/-- The result is that of the RISC-V instructions, and is shown in `cycle` for the first time. -/
structure ShowsResult (div : Div) (ports : Nat → Input) (cycle : Nat) : Prop where
  first : SynchronousRun.FirstFrom
    (fun cycle => (SynchronousRun.run next div ports cycle).ready (ports cycle).en = true) 0 cycle
  quotient : (SynchronousRun.run next div ports cycle).quotient
      (ports cycle).sign (ports cycle).opA (ports cycle).opB =
    riscvDiv (ports 0).sign (ports 0).opA (ports 0).opB
  remainder : (SynchronousRun.run next div ports cycle).remainder
      (ports cycle).sign (ports cycle).opA =
    riscvRem (ports 0).sign (ports 0).opA (ports 0).opB

/-- The enabled operands of cycle 0 are held up to `last`, and nothing is flushed. -/
structure HeldUntil (ports : Nat → Input) (last : Nat) : Prop where
  en : ∀ cycle, cycle ≤ last → (ports cycle).en = true
  sign : ∀ cycle, cycle ≤ last → (ports cycle).sign = (ports 0).sign
  opA : ∀ cycle, cycle ≤ last → (ports cycle).opA = (ports 0).opA
  opB : ∀ cycle, cycle ≤ last → (ports cycle).opB = (ports 0).opB
  flush : ∀ cycle, cycle ≤ last → (ports cycle).flush = false

theorem ready_of_finish {en : Bool} (finish : div.fsmCs = .finish) : div.ready en = true := by
  simp [ready, finish]

theorem notReady_of_work {en : Bool} (work : div.fsmCs = .work) : ¬ div.ready en = true := by
  simp [ready, work]

theorem notReady_of_idle (idle : div.fsmCs = .idle) : ¬ div.ready true = true := by
  simp [ready, idle]

theorem showsResult_zero (idle : div.fsmCs = .idle) (held : HeldUntil ports 1)
    (zero : (ports 0).opB = 0#32) : ShowsResult div ports 1 := by
  have enabled := held.en 0 (by omega)
  have next : (div.next (ports 0)).fsmCs = _ := fsmCs_of_noFlush (held.flush 0 (by omega))
  have finish : (SynchronousRun.run Div.next div ports 1).fsmCs = .finish := by
    rw [SynchronousRun.run_succ, SynchronousRun.run_zero, next]
    simp [fsmNs, idle, enabled, divByZero, zero]
  have byZero : (SynchronousRun.run Div.next div ports 1).divByZeroQ = true := by
    rw [SynchronousRun.run_succ, SynchronousRun.run_zero, divByZeroQ_of_start idle enabled]
    simp [divByZero, zero]
  refine ⟨⟨by omega, ready_of_finish finish, ?_⟩, ?_, ?_⟩
  · intro earlier _ before
    obtain rfl : earlier = 0 := by omega
    rw [enabled]
    exact notReady_of_idle idle
  · rw [quotient, byZero, if_pos rfl, riscvDiv, if_pos zero]
  · rw [remainder, byZero, if_pos rfl, riscvRem, if_pos zero, held.opA 1 (by omega)]

theorem showsResult_nonzero (idle : div.fsmCs = .idle) (held : HeldUntil ports 33)
    (nonzero : (ports 0).opB ≠ 0#32) : ShowsResult div ports 33 := by
  have enabled := held.en 0 (by omega)
  have loop := working_run idle enabled nonzero fun cycle before => held.flush cycle (by omega)
  obtain ⟨finish, working⟩ := loop 32 (by omega)
  obtain ⟨isQuotient, isRemainder⟩ := outputs_of_working nonzero working
  refine ⟨⟨by omega, ready_of_finish finish, ?_⟩, ?_, ?_⟩
  · intro earlier _ before
    cases earlier with
    | zero =>
        rw [enabled]
        exact notReady_of_idle idle
    | succ steps =>
        obtain ⟨fsm, -⟩ := loop steps (by omega)
        rw [if_neg (by omega)] at fsm
        exact notReady_of_work fsm
  · rw [held.sign 33 (by omega), held.opA 33 (by omega), held.opB 33 (by omega)]
    exact isQuotient
  · rw [held.sign 33 (by omega), held.opA 33 (by omega)]
    exact isRemainder

end Run

/-- From an idle cycle with an enabled division on, whatever the registers hold, held operands
give the result of the RISC-V instructions, and a flush ends a division in any cycle. -/
theorem divides_of_idle :
    (∀ (div : Div) (ports : Nat → Input), div.fsmCs = .idle →
      HeldUntil ports (latency (ports 0)) → ShowsResult div ports (latency (ports 0))) ∧
    ∀ (div : Div) (port : Input), port.flush = true → (div.next port).fsmCs = .idle := by
  refine ⟨?_, fun div port flush => fsmCs_of_flush flush⟩
  intro div ports idle held
  by_cases zero : (ports 0).opB = 0#32
  · have isLatency : latency (ports 0) = 1 := by simp [latency, divByZero, zero]
    rw [isLatency] at held ⊢
    exact showsResult_zero idle held zero
  · have isLatency : latency (ports 0) = 33 := by simp [latency, divByZero, zero]
    rw [isLatency] at held ⊢
    exact showsResult_nonzero idle held zero

/-- A signed division after a division that was cut off. -/
theorem divides_afterFlush :
    ShowsResult
      { Div.reset with quotientQ := 0x12345678#32, remainderQ := 5#32, rSign := true, cnt := 7#5 }
      (fun _ => { flush := false, en := true, sign := true, opA := 0xFFFFFFF9#32, opB := 2#32 })
      33 :=
  divides_of_idle.1 _ _ rfl
    ⟨fun _ _ => rfl, fun _ _ => rfl, fun _ _ => rfl, fun _ _ => rfl, fun _ _ => rfl⟩

end Div

end RiscvCore
