import RiscvCore.ControlTransfer
import RiscvCore.Division

/-!
# The divider in the pipeline

The divider does not know whether EX may go on: a result that finds MEM busy is dropped, and the
division starts again.  Whatever happens around it, an instruction that leaves EX takes the right
result along.
-/

namespace RiscvCore

namespace Div

variable {div : Div} {port : Input}

/-- The outputs are those of the RISC-V instructions. -/
structure Shows (div : Div) (port : Input) : Prop where
  quotient : div.quotient port.sign port.opA port.opB = riscvDiv port.sign port.opA port.opB
  remainder : div.remainder port.sign port.opA = riscvRem port.sign port.opA port.opB

theorem shows_of_zero (byZero : div.divByZeroQ = true) (zero : port.opB = 0#32) :
    div.Shows port := by
  constructor
  · rw [Div.quotient, byZero, if_pos rfl, riscvDiv, if_pos zero]
  · rw [Div.remainder, byZero, if_pos rfl, riscvRem, if_pos zero]

/-- The divider works on the operands, or has their result. -/
structure Computes (div : Div) (port : Input) : Prop where
  work : div.fsmCs = .work → port.opB ≠ 0#32 ∧ ∃ steps, steps < 32 ∧
    div.Working (loadOperand port.sign port.opA) (loadOperand port.sign port.opB) steps
  finish : div.fsmCs = .finish → div.Shows port

theorem computes_of_idle (idle : div.fsmCs = .idle) : div.Computes port where
  work := fun work => by rw [idle] at work; cases work
  finish := fun finish => by rw [idle] at finish; cases finish

theorem computes_of_start (idle : div.fsmCs = .idle) (enabled : port.en = true)
    (noFlush : port.flush = false) : (div.next port).Computes port := by
  have fsm : (div.next port).fsmCs = if divByZero port then .finish else .work := by
    rw [fsmCs_of_noFlush noFlush, fsmNs, idle]
    exact if_pos enabled
  constructor
  · intro work
    have nonzero : port.opB ≠ 0#32 := by
      intro zero
      rw [fsm, divByZero, zero] at work
      cases work
    exact ⟨nonzero, 0, by omega, working_of_start idle enabled nonzero⟩
  · intro finish
    have zero : divByZero port = true := by
      cases zero : divByZero port with
      | true => rfl
      | false =>
          rw [fsm, zero] at finish
          cases finish
    exact shows_of_zero ((divByZeroQ_of_start idle enabled).trans zero) (beq_iff_eq.mp zero)

/-- A cycle with the operands held. -/
theorem Computes.next (computes : div.Computes port) (noFlush : port.flush = false) :
    (div.next port).Computes port := by
  have fsm : (div.next port).fsmCs = div.fsmNs port := fsmCs_of_noFlush noFlush
  cases now : div.fsmCs with
  | idle =>
      cases enabled : port.en with
      | true => exact computes_of_start now enabled noFlush
      | false =>
          refine computes_of_idle ?_
          rw [fsm, fsmNs, now, enabled]
          rfl
  | work =>
      obtain ⟨nonzero, steps, notDone, working⟩ := computes.work now
      have count : div.cnt.toNat = steps := working.cnt.trans (Nat.mod_eq_of_lt notDone)
      have later : (div.next port).Working _ _ (steps + 1) := working.step now notDone
      rw [fsmNs, now] at fsm
      constructor
      · intro work
        have notLast : steps ≠ 31 := by
          rintro rfl
          rw [fsm, if_pos (BitVec.eq_of_toNat_eq count)] at work
          cases work
        exact ⟨nonzero, steps + 1, by omega, later⟩
      · intro finish
        have isCount : div.cnt = 31#5 := by
          refine Decidable.of_not_not fun notCount => ?_
          rw [fsm, if_neg notCount] at finish
          cases finish
        have isLast : 31 = steps := by
          rw [← count, isCount]
          rfl
        subst isLast
        obtain ⟨isQuotient, isRemainder⟩ := outputs_of_working nonzero later
        exact ⟨isQuotient, isRemainder⟩
  | finish =>
      refine computes_of_idle ?_
      rw [fsm, fsmNs, now]

theorem Computes.congr {other : Input} (computes : div.Computes port)
    (sign : other.sign = port.sign) (opA : other.opA = port.opA) (opB : other.opB = port.opB) :
    div.Computes other where
  work := by
    rw [sign, opA, opB]
    exact computes.work
  finish := by
    intro finish
    have shows := computes.finish finish
    exact ⟨by rw [sign, opA, opB]; exact shows.quotient,
      by rw [sign, opA, opB]; exact shows.remainder⟩

/-- A divider that lets EX go on is idle in the next cycle. -/
theorem idle_next_of_ready (ready : div.ready port.en = true) :
    (div.next port).fsmCs = .idle := by
  cases flush : port.flush with
  | true => exact fsmCs_of_flush flush
  | false =>
      rw [fsmCs_of_noFlush flush, fsmNs]
      cases now : div.fsmCs with
      | idle =>
          rw [Div.ready, now] at ready
          have disabled : port.en = false := by simpa using ready
          rw [disabled]
          rfl
      | work =>
          rw [Div.ready, now] at ready
          cases ready
      | finish => rfl

end Div

namespace CoreState

variable {params : Params} {st : CoreState} {port : CoreInput}

/-- The divider computes the result of the operation in EX. -/
def DividerComputes (st : CoreState) : Prop :=
  st.div.Computes (ExStage.divInput st.idEx st.flushE)

theorem dividerComputes_step (computes : st.DividerComputes) :
    (st.step params port).DividerComputes := by
  have next : (st.step params port).div = st.div.next (ExStage.divInput st.idEx st.flushE) := rfl
  rw [DividerComputes, next]
  cases flush : st.flushE with
  | true => exact Div.computes_of_idle (Div.fsmCs_of_flush rfl)
  | false =>
      cases ready : st.readyEx params port with
      | true =>
          have readyDiv : st.div.ready (ExStage.divInput st.idEx false).en = true := by
            rw [readyEx, Bool.and_eq_true, Bool.and_eq_true] at ready
            exact ready.1.2
          exact Div.computes_of_idle (Div.idle_next_of_ready readyDiv)
      | false =>
          have held : (st.step params port).idEx.operation = st.idEx.operation :=
            operation_of_notReady ready
          have same : ∀ flushE, ExStage.divInput (st.step params port).idEx flushE =
              ExStage.divInput st.idEx flushE := fun flushE => by
            change ExStage.divInput (st.step params port).idEx.operation flushE = _
            rw [held]
            rfl
          rw [DividerComputes, flush] at computes
          rw [same]
          exact (computes.next rfl).congr rfl rfl rfl

/-- An instruction that may leave EX finds its result on the outputs of the divider. -/
theorem DividerComputes.shows (computes : st.DividerComputes)
    (ready : st.readyDiv = true) (divides : ExStage.divEn st.idEx = true) :
    st.div.Shows (ExStage.divInput st.idEx st.flushE) := by
  refine computes.finish ?_
  rw [readyDiv, divides, Div.ready] at ready
  simpa using ready

end CoreState

theorem CoreRun.dividerComputes (run : CoreRun) (cycle : Nat) :
    (run.state cycle).DividerComputes := by
  induction cycle with
  | zero => exact Div.computes_of_idle rfl
  | succ cycle induction =>
      rw [run.state_succ]
      exact CoreState.dividerComputes_step induction

end RiscvCore
