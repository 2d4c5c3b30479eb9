import RiscvCore.DirectMemory
import RiscvCore.TrapSteps

/-!
# Nested interrupts

The handlers that are active form a stack: a recorded interrupt or an entered trap vector puts one
on it, and a return takes one off.  The threshold of the interrupt controller should stay above
the levels on the stack.  It is raised only by an interrupt that wakes the core up, and any mret
that is seen in ID drops it to zero.
-/

namespace RiscvCore

/-- The three interrupt levels. -/
inductive IrqLevel where
  | timer | soft | external
  deriving DecidableEq, Repr

namespace IrqLevel

/-- The lowest threshold that masks no interrupt of the level. -/
def priority : IrqLevel → Nat
  | .timer => 0
  | .soft => 1
  | .external => 2

/-- The level of an interrupt cause. -/
def ofMcause : Mcause → Option IrqLevel
  | .mExternalInt => some .external
  | .mSoftwareInt => some .soft
  | .mTimerInt => some .timer
  | _ => none

end IrqLevel

namespace Plic

variable {irqThreshold : BitVec 2} {port : Input} {level : IrqLevel}

/-- The line of the level is high and enabled. -/
def pending (port : Input) : IrqLevel → Bool
  | .external => (port.mstatusMie && port.mie.getLsbD bitMieMeie) && port.externIrq
  | .soft => (port.mstatusMie && port.mie.getLsbD bitMieMsie) && port.softIrq
  | .timer => (port.mstatusMie && port.mie.getLsbD bitMieMtie) && port.timerIrq

/-- `extern_irq_taken`, `soft_irq_taken` and `timer_irq_taken`. -/
def taken (irqThreshold : BitVec 2) (port : Input) : IrqLevel → Bool
  | .external => externIrqTaken irqThreshold port
  | .soft => softIrqTaken irqThreshold port
  | .timer => timerIrqTaken irqThreshold port

/-- The highest level taken. -/
def highest (irqThreshold : BitVec 2) (port : Input) : Option IrqLevel :=
  if externIrqTaken irqThreshold port then some .external
  else if softIrqTaken irqThreshold port then some .soft
  else if timerIrqTaken irqThreshold port then some .timer
  else none

/-- A pending level is taken unless the threshold is above it. -/
theorem taken_iff : taken irqThreshold port level = true ↔
    pending port level = true ∧ irqThreshold.toNat ≤ level.priority := by
  cases level <;>
    simp only [taken, externIrqTaken, softIrqTaken, timerIrqTaken, pending, IrqLevel.priority,
      BitVec.ule, BitVec.toNat_ofNat, Bool.and_eq_true, decide_eq_true_iff] <;>
    constructor <;> rintro ⟨left, right⟩ <;> simp_all

theorem taken_of_highest (isHighest : highest irqThreshold port = some level) :
    taken irqThreshold port level = true := by
  rw [highest] at isHighest
  split at isHighest
  · obtain rfl := Option.some.inj isHighest
    assumption
  · split at isHighest
    · obtain rfl := Option.some.inj isHighest
      assumption
    · split at isHighest
      · obtain rfl := Option.some.inj isHighest
        assumption
      · cases isHighest

/-- An acknowledge raises the threshold above the highest level taken, an mret drops it. -/
theorem toNat_next (irqThreshold : BitVec 2) (port : Input) (isMret irqAck : Bool) :
    (next irqThreshold port isMret irqAck).toNat =
      if isMret then 0
      else if irqAck then (match highest irqThreshold port with
        | some level => level.priority + 1
        | none => irqThreshold.toNat)
      else irqThreshold.toNat := by
  rw [next, highest]
  cases isMret <;> cases irqAck <;> cases externIrqTaken irqThreshold port <;>
    cases softIrqTaken irqThreshold port <;> cases timerIrqTaken irqThreshold port <;> rfl

/-- Without an mret the threshold does not fall. -/
theorem toNat_le_next (irqThreshold : BitVec 2) (port : Input) (irqAck : Bool) :
    irqThreshold.toNat ≤ (next irqThreshold port false irqAck).toNat := by
  rw [toNat_next, if_neg Bool.false_ne_true]
  split
  · split
    · rename_i isHighest
      have below := (taken_iff.mp (taken_of_highest isHighest)).2
      exact Nat.le_succ_of_le below
    · exact Nat.le_refl _
  · exact Nat.le_refl _

end Plic

namespace Controller

variable {fsm : ControlFsm} {port : Input} {level : IrqLevel}

/-- An interrupt cause is that of the lines taken. -/
theorem interruptCause_of_trapUpdate
    (isLevel : IrqLevel.ofMcause (trapUpdate fsm port).mcause = some level) :
    IrqLevel.ofMcause (interruptCause port) = some level := by
  unfold trapUpdate at isLevel
  repeat' split at isLevel
  all_goals first
    | exact isLevel
    | cases isLevel
    | (simp only [recorded, ecallCause] at isLevel
       split at isLevel <;> cases isLevel)

end Controller

namespace CoreState

variable {params : Params} {st : CoreState} {port : CoreInput} {level : IrqLevel}

/-- The level of the interrupt recorded in the cycle. -/
def recordedLevel (params : Params) (st : CoreState) (port : CoreInput) : Option IrqLevel :=
  if st.mcauseUpdate params port then IrqLevel.ofMcause (st.trapUpdate params port).mcause
  else none

/-- The highest level that the interrupt controller takes. -/
def highestIrq (st : CoreState) (port : CoreInput) : Option IrqLevel :=
  Plic.highest st.irqThreshold (st.plicInput port)

theorem ofMcause_interruptCause :
    IrqLevel.ofMcause (Controller.interruptCause (st.controllerInput params port)) =
      st.highestIrq port := by
  simp only [Controller.interruptCause, highestIrq, Plic.highest, controllerInput]
  change IrqLevel.ofMcause (if st.externIrqTaken port then _ else if st.softIrqTaken port then _
    else if st.timerIrqTaken port then _ else _) =
    if st.externIrqTaken port then _ else if st.softIrqTaken port then _
      else if st.timerIrqTaken port then _ else _
  split
  · rfl
  · split
    · rfl
    · split <;> rfl

/-- Recorded is the highest level taken. -/
theorem highestIrq_of_recordedLevel (records : st.recordedLevel params port = some level) :
    st.highestIrq port = some level := by
  rw [recordedLevel] at records
  split at records
  · exact ofMcause_interruptCause.symm.trans (Controller.interruptCause_of_trapUpdate records)
  · cases records

/-- On waking up the highest level taken is recorded, if no other trap is. -/
theorem recordedLevel_wakeup (waking : st.fsm = .wakeup) (noTrap : st.excTaken port = false) :
    st.recordedLevel params port = st.highestIrq port := by
  have update : st.trapUpdate params port =
      { Controller.noUpdate with
        mcauseUpdate := true
        mcause := Controller.interruptCause (st.controllerInput params port) } := by
    rw [trapUpdate, Controller.trapUpdate, waking]
    change (if st.excTaken port then _ else _) = _
    rw [noTrap]
    rfl
  rw [recordedLevel, mcauseUpdate, update, if_pos rfl]
  exact ofMcause_interruptCause

/-- In a flush nothing is acknowledged. -/
theorem irqAck_iff : st.irqAck params port = true ↔ st.fsm = .wakeup := by
  rw [irqAck, Controller.irqAck]
  cases state : st.fsm with
  | excFlush =>
      have flush : st.flushD = true := by
        rw [flushD, state]
        rfl
      rw [isInterrupt_of_flushD flush]
      decide
  | idle => simp
  | sleep => simp
  | wakeup => simp

theorem irqThreshold_step :
    (st.step params port).irqThreshold.toNat =
      if st.isMret params port then 0
      else if st.irqAck params port then (match st.highestIrq port with
        | some level => level.priority + 1
        | none => st.irqThreshold.toNat)
      else st.irqThreshold.toNat :=
  Plic.toNat_next st.irqThreshold (st.plicInput port) (st.isMret params port)
    (st.irqAck params port)

end CoreState

namespace CoreRun

variable (run : CoreRun)

def recordedLevel (cycle : Nat) : Option IrqLevel :=
  (run.state cycle).recordedLevel run.params (run.inputs cycle)

def pendingIrq (cycle : Nat) (level : IrqLevel) : Bool :=
  Plic.pending ((run.state cycle).plicInput (run.inputs cycle)) level

def takenIrq (cycle : Nat) (level : IrqLevel) : Bool :=
  Plic.taken (run.state cycle).irqThreshold ((run.state cycle).plicInput (run.inputs cycle)) level

def isMret (cycle : Nat) : Bool := (run.state cycle).isMret run.params (run.inputs cycle)

/-- An mret is executed: its flush goes to `mepc`. -/
def returns (cycle : Nat) : Bool :=
  decide ((run.state cycle).fsm = .excFlush) && run.isMret cycle

/-- The trap vector is entered: on waking up, and by a flush for nothing else. -/
def entersTrap (cycle : Nat) : Bool :=
  decide ((run.state cycle).fsm = .wakeup) ||
    decide ((run.state cycle).fsm = .excFlush) &&
      !(run.state cycle).isFence run.params (run.inputs cycle) && !run.isMret cycle &&
      !(run.state cycle).isWfi run.params (run.inputs cycle)

/-- An interrupt was recorded in the cycle before. -/
def recordedBefore : Nat → Bool
  | 0 => false
  | cycle + 1 => (run.recordedLevel cycle).isSome

/-- The active handlers, innermost first, those of interrupts with their levels: a handler is
active from the record of its interrupt, or from the entry of the trap vector, to its mret. -/
def handlers : Nat → List (Option IrqLevel)
  | 0 => []
  | cycle + 1 =>
      match run.recordedLevel cycle with
      | some level => some level :: handlers cycle
      | none =>
          if run.returns cycle then (handlers cycle).tail
          else if run.entersTrap cycle && !run.recordedBefore cycle then none :: handlers cycle
          else handlers cycle

/-- The level is above those of all active handlers. -/
def Above (cycle : Nat) (level : IrqLevel) : Prop :=
  ∀ active, some active ∈ run.handlers cycle → active.priority < level.priority

/-- Recorded interrupts are above the active handlers, and what is pending above them is
taken. -/
structure NestingRespected : Prop where
  blocked : ∀ cycle level, run.recordedLevel cycle = some level → run.Above cycle level
  admitted : ∀ cycle level, run.Above cycle level → run.pendingIrq cycle level = true →
    run.takenIrq cycle level = true

/-- An interrupt of the level or a higher one has woken the core up, and no mret has been seen
in ID since. -/
def MaskedSinceWakeup (cycle : Nat) (level : IrqLevel) : Prop :=
  ∃ wake, wake < cycle ∧ (run.state wake).fsm = .wakeup ∧
    (∃ other, run.recordedLevel wake = some other ∧ level.priority ≤ other.priority) ∧
    ∀ between, wake ≤ between → between < cycle → run.isMret between = false

/-- A pending level that is not above the active handlers is masked since a wake-up, and no trap
is taken while the core wakes up. -/
structure NestingGuarded : Prop where
  masked : ∀ cycle level active, some active ∈ run.handlers cycle →
    level.priority ≤ active.priority → run.pendingIrq cycle level = true →
    run.MaskedSinceWakeup cycle level
  wakeup : ∀ cycle, (run.state cycle).fsm = .wakeup → run.excTaken cycle = false

variable {run} {cycle : Nat} {level : IrqLevel}

theorem takenIrq_iff : run.takenIrq cycle level = true ↔
    run.pendingIrq cycle level = true ∧
      (run.state cycle).irqThreshold.toNat ≤ level.priority := Plic.taken_iff

theorem takenIrq_of_recordedLevel (records : run.recordedLevel cycle = some level) :
    run.takenIrq cycle level = true :=
  Plic.taken_of_highest (CoreState.highestIrq_of_recordedLevel records)

theorem irqThreshold_succ (run : CoreRun) (cycle : Nat) :
    (run.state (cycle + 1)).irqThreshold.toNat =
      if run.isMret cycle then 0
      else if (run.state cycle).irqAck run.params (run.inputs cycle) then
        (match (run.state cycle).highestIrq (run.inputs cycle) with
        | some level => level.priority + 1
        | none => (run.state cycle).irqThreshold.toNat)
      else (run.state cycle).irqThreshold.toNat := CoreState.irqThreshold_step

theorem irqThreshold_le_succ (noMret : run.isMret cycle = false) :
    (run.state cycle).irqThreshold.toNat ≤ (run.state (cycle + 1)).irqThreshold.toNat := by
  have same : (run.state cycle).isMret run.params (run.inputs cycle) = false := noMret
  rw [state_succ, CoreState.step, same]
  exact Plic.toNat_le_next _ _ _

/-- The threshold stays above a level that is masked since a wake-up. -/
theorem MaskedSinceWakeup.irqThreshold (masked : run.MaskedSinceWakeup cycle level) :
    level.priority < (run.state cycle).irqThreshold.toNat := by
  obtain ⟨wake, before, waking, ⟨other, records, above⟩, noMret⟩ := masked
  induction cycle with
  | zero => omega
  | succ cycle induction =>
      rcases Nat.eq_or_lt_of_le (Nat.le_of_lt_succ before) with rfl | earlier
      · have noMretNow := noMret wake (Nat.le_refl _) (Nat.lt_succ_self _)
        rw [irqThreshold_succ, noMretNow, CoreState.irqAck_iff.mpr waking,
          CoreState.highestIrq_of_recordedLevel records, if_neg Bool.false_ne_true, if_pos rfl]
        exact Nat.lt_succ_of_le above
      · have threshold := induction earlier fun between lower upper =>
          noMret between lower (by omega)
        have grows := irqThreshold_le_succ (noMret cycle (by omega) (Nat.lt_succ_self _))
        omega

theorem MaskedSinceWakeup.succ (masked : run.MaskedSinceWakeup cycle level)
    (noMret : run.isMret cycle = false) : run.MaskedSinceWakeup (cycle + 1) level := by
  obtain ⟨wake, before, waking, records, noMretBefore⟩ := masked
  refine ⟨wake, by omega, waking, records, fun between lower upper => ?_⟩
  rcases Nat.eq_or_lt_of_le (Nat.le_of_lt_succ upper) with rfl | earlier
  · exact noMret
  · exact noMretBefore between lower earlier

/-- Without traps on waking up, a level is masked since a wake-up exactly if the threshold is above
it. -/
theorem maskedSinceWakeup_iff
    (wakeup : ∀ cycle, (run.state cycle).fsm = .wakeup → run.excTaken cycle = false) :
    run.MaskedSinceWakeup cycle level ↔
      level.priority < (run.state cycle).irqThreshold.toNat := by
  refine ⟨MaskedSinceWakeup.irqThreshold, ?_⟩
  induction cycle with
  | zero => exact fun above => absurd above (Nat.not_lt_zero _)
  | succ cycle induction =>
      rw [irqThreshold_succ]
      cases noMret : run.isMret cycle with
      | true => exact fun above => absurd above (Nat.not_lt_zero _)
      | false =>
          have unchanged (above : level.priority < (run.state cycle).irqThreshold.toNat) :
              run.MaskedSinceWakeup (cycle + 1) level := (induction above).succ noMret
          rw [if_neg Bool.false_ne_true]
          cases ack : (run.state cycle).irqAck run.params (run.inputs cycle) with
          | false => exact unchanged
          | true =>
              have waking := CoreState.irqAck_iff.mp ack
              have records : run.recordedLevel cycle = _ :=
                CoreState.recordedLevel_wakeup waking (wakeup cycle waking)
              rw [if_pos rfl]
              cases isHighest : (run.state cycle).highestIrq (run.inputs cycle) with
              | none => exact unchanged
              | some other =>
                  rw [isHighest] at records
                  intro above
                  refine ⟨cycle, Nat.lt_succ_self _, waking,
                    ⟨other, records, Nat.le_of_lt_succ above⟩, fun between lower upper => ?_⟩
                  obtain rfl : between = cycle := by omega
                  exact noMret

/-- Without traps on waking up, a threshold that is not zero is that of an active handler. -/
theorem irqThreshold_of_handlers
    (wakeup : ∀ cycle, (run.state cycle).fsm = .wakeup → run.excTaken cycle = false)
    (cycle : Nat) : (run.state cycle).irqThreshold.toNat = 0 ∨
      ∃ active, some active ∈ run.handlers cycle ∧
        (run.state cycle).irqThreshold.toNat = active.priority + 1 := by
  induction cycle with
  | zero => exact Or.inl rfl
  | succ cycle induction =>
      rw [irqThreshold_succ]
      cases mret : run.isMret cycle with
      | true => exact Or.inl rfl
      | false =>
          have stays (active : IrqLevel) (inside : some active ∈ run.handlers cycle) :
              some active ∈ run.handlers (cycle + 1) := by
            have noReturn : run.returns cycle = false := by
              rw [returns, mret, Bool.and_false]
            rw [handlers, noReturn]
            split
            · exact List.mem_cons_of_mem _ inside
            · rw [if_neg Bool.false_ne_true]
              split
              · exact List.mem_cons_of_mem _ inside
              · exact inside
          have unchanged : (run.state cycle).irqThreshold.toNat = 0 ∨
              ∃ active, some active ∈ run.handlers (cycle + 1) ∧
                (run.state cycle).irqThreshold.toNat = active.priority + 1 :=
            induction.imp_right fun ⟨active, inside, threshold⟩ =>
              ⟨active, stays active inside, threshold⟩
          rw [if_neg Bool.false_ne_true]
          cases ack : (run.state cycle).irqAck run.params (run.inputs cycle) with
          | false =>
              rw [if_neg Bool.false_ne_true]
              exact unchanged
          | true =>
              rw [if_pos rfl]
              have waking := CoreState.irqAck_iff.mp ack
              have records : run.recordedLevel cycle = _ :=
                CoreState.recordedLevel_wakeup waking (wakeup cycle waking)
              cases isHighest : (run.state cycle).highestIrq (run.inputs cycle) with
              | none => exact unchanged
              | some level =>
                  rw [isHighest] at records
                  refine Or.inr ⟨level, ?_, rfl⟩
                  rw [handlers, records]
                  exact List.mem_cons_self

/-- Interrupts nest by their levels in every run in which the pending lower levels are masked. -/
theorem nestingRespected_of_nestingGuarded (run : CoreRun) (guarded : run.NestingGuarded) :
    run.NestingRespected := by
  constructor
  · intro cycle level records active inside
    obtain ⟨pending, threshold⟩ := takenIrq_iff.mp (takenIrq_of_recordedLevel records)
    rcases Nat.lt_or_ge active.priority level.priority with below | notBelow
    · exact below
    · have masked := (guarded.masked cycle level active inside notBelow pending).irqThreshold
      omega
  · intro cycle level above pending
    refine takenIrq_iff.mpr ⟨pending, ?_⟩
    rcases irqThreshold_of_handlers guarded.wakeup cycle with zero | ⟨active, inside, threshold⟩
    · omega
    · have below := above active inside
      omega

end CoreRun

namespace Surroundings

/-- The code, also of the handler, enables the external interrupt and sleeps.  The line wakes the
core up, and rises again in the handler. -/
def wakesUp : Surroundings where
  program := programOf
    [ 0x80000093#32,  -- addi x1, x0, -2048
      0x30409073#32,  -- csrrw x0, mie, x1
      0x30046073#32,  -- csrrsi x0, mstatus, 8
      0x10500073#32 ] -- wfi
  externIrq := fun cycle => decide (cycle = 11) || decide (cycle = 12) || decide (cycle = 18)
  rest := 15

/-- The same without sleeping, and with the line always high. -/
def interruptsHandler : Surroundings where
  program := programOf [0x80000093#32, 0x30409073#32, 0x30046073#32]
  externIrq := fun _ => true

end Surroundings

namespace CoreRun

open Surroundings (wakesUp interruptsHandler)

/-- In cycle 18 the handler is not interrupted. -/
theorem nestingRespected_wakesUp : wakesUp.coreRun.NestingRespected := by
  refine nestingRespected_of_nestingGuarded _ ⟨?_, ?_⟩
  · intro cycle level active inside notAbove pending
    have line : level = .external ∧ wakesUp.externIrq cycle = true := by
      cases level with
      | external => exact ⟨rfl, (Bool.and_eq_true_iff.mp pending).2⟩
      | soft => cases (Bool.and_eq_true_iff.mp pending).2
      | timer => cases (Bool.and_eq_true_iff.mp pending).2
    obtain ⟨rfl, high⟩ := line
    have early : (cycle = 11 ∨ cycle = 12) ∨ cycle = 18 := by simpa [wakesUp] using high
    rcases early with (rfl | rfl) | rfl
    · have nothing : wakesUp.coreRun.handlers 11 = [] := by decide +kernel
      rw [nothing] at inside
      cases inside
    · have nothing : wakesUp.coreRun.handlers 12 = [] := by decide +kernel
      rw [nothing] at inside
      cases inside
    · have noMret : ∀ between < 18, 12 ≤ between →
          wakesUp.coreRun.isMret between = false := by decide +kernel
      exact ⟨12, by decide, by decide +kernel, ⟨.external, by decide +kernel, Nat.le_refl _⟩,
        fun between lower upper => noMret between upper lower⟩
  · refine wakesUp.forall_cycle_of_settled 20 (by decide) (fun cycle late => ?_) (by decide +kernel)
      (fun st port => st.fsm = .wakeup → st.excTaken port = false) (by decide +kernel)
    simp [wakesUp]
    omega

/-- The handler of the external interrupt recorded in cycle 10 is interrupted by the next one in
cycle 20. -/
theorem nestingRespected_fails : ¬ ∀ run : CoreRun, run.NestingRespected := by
  intro respected
  have records : interruptsHandler.coreRun.recordedLevel 20 = some .external := by decide +kernel
  have active : some .external ∈ interruptsHandler.coreRun.handlers 20 := by decide +kernel
  have above := (respected interruptsHandler.coreRun).blocked 20 .external records .external active
  exact Nat.lt_irrefl _ above

end CoreRun

end RiscvCore
