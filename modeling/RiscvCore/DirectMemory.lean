import RiscvCore.CoreRun

/-!
# The core with memories that answer at once

A closed system: both memories grant every request in its cycle and answer it in the next one,
up to a cycle from which on they grant nothing, or for ever.  It gives well-connected runs of the
core whose inputs need not be written down cycle by cycle, and which come to rest or repeat
themselves.
-/

namespace RiscvCore

/-- What surrounds the core: a program, the data memory as the answer to each address, the
external interrupt line of each cycle, and the cycle from which on the memories grant
nothing unless they are tireless. -/
structure Surroundings where
  program : Word → Word × Bool
  dataAnswer : Word → Word × Bool := fun _ => (0#32, false)
  externIrq : Nat → Bool := fun _ => false
  rest : Nat := 100
  tireless : Bool := false

namespace Surroundings

/-- A program given by its first words; all other addresses hold `nop`. -/
def programOf (words : List Word) (addr : Word) : Word × Bool :=
  (words.getD (addr.toNat / 4) 0x00000013#32, false)

/-- The core with the answers that are due. -/
structure System where
  core : CoreState
  instrAnswer : Option (Word × Bool)
  dataAnswer : Option (Word × Bool)

variable (around : Surroundings)

/-- The input pins before any grant. -/
def ungranted (sys : System) (externIrq : Bool) : CoreInput where
  externIrq
  softIrq := false
  timerIrq := false
  hartId := 0#32
  instrGnt := false
  instrRdata := (sys.instrAnswer.getD (0#32, false)).1
  instrErr := (sys.instrAnswer.getD (0#32, false)).2
  instrValid := sys.instrAnswer.isSome
  dataGnt := false
  dataRdata := (sys.dataAnswer.getD (0#32, false)).1
  dataValid := sys.dataAnswer.isSome
  dataError := (sys.dataAnswer.getD (0#32, false)).2
  undriven := { mscratchQ := 0#32, mtvalQ := 0#32 }

/-- The pins once the data request is granted; the instruction request may depend on it. -/
def dataGranted (sys : System) (externIrq grants : Bool) : CoreInput :=
  let port := ungranted sys externIrq
  { port with dataGnt := Lsu.dataReq (sys.core.lsuAccess port) && grants }

def port (sys : System) (externIrq grants : Bool) : CoreInput :=
  let port := dataGranted sys externIrq grants
  { port with
    instrGnt := sys.core.ifs.instrReq (sys.core.ifInput defaultParams port) && grants }

def step (sys : System) (externIrq grants : Bool) : System :=
  let port := port sys externIrq grants
  { core := sys.core.step defaultParams port
    instrAnswer :=
      if port.instrGnt then
        some (around.program (sys.core.ifs.instrAddr (sys.core.ifInput defaultParams port)))
      else none
    dataAnswer :=
      if port.dataGnt then
        some (around.dataAnswer (sys.core.lsu.dataAddr (sys.core.lsuAccess port)))
      else none }

/-- The memories still grant requests. -/
def grants (cycle : Nat) : Bool := around.tireless || decide (cycle < around.rest)

/-- The closed system before the given cycle. -/
def system : Nat → System
  | 0 => { core := CoreState.reset 0#32, instrAnswer := none, dataAnswer := none }
  | cycle + 1 => around.step (system cycle) (around.externIrq cycle) (around.grants cycle)

def portAt (cycle : Nat) : CoreInput :=
  port (around.system cycle) (around.externIrq cycle) (around.grants cycle)

/-- The run of the core inside the closed system. -/
def coreRun : CoreRun where
  params := defaultParams
  bootAddr := 0#32
  inputs := around.portAt

theorem state_coreRun (cycle : Nat) :
    around.coreRun.state cycle = (around.system cycle).core := by
  induction cycle with
  | zero => rfl
  | succ cycle induction => rw [CoreRun.state_succ, induction]; rfl

theorem requested_instrBus (cycle : Nat) (granted : (around.coreRun.instrBus cycle).gnt = true) :
    (around.coreRun.instrBus cycle).req = true := by
  simp only [CoreRun.instrBus, state_coreRun] at granted ⊢
  exact (Bool.and_eq_true_iff.mp granted).1

theorem requested_dataBus (cycle : Nat) (granted : (around.coreRun.dataBus cycle).gnt = true) :
    (around.coreRun.dataBus cycle).req = true := by
  simp only [CoreRun.dataBus, state_coreRun] at granted ⊢
  exact (Bool.and_eq_true_iff.mp granted).1

/-- A granted instruction request is answered in the next cycle with the word at its address. -/
theorem instrAnswer_succ (cycle : Nat) :
    (around.system (cycle + 1)).instrAnswer =
      if (around.coreRun.instrBus cycle).gnt then
        some (around.program (around.coreRun.instrBus cycle).addr)
      else none := by
  simp only [CoreRun.instrBus, state_coreRun]
  rfl

theorem dataAnswer_succ (cycle : Nat) :
    (around.system (cycle + 1)).dataAnswer =
      if (around.coreRun.dataBus cycle).gnt then
        some (around.dataAnswer (around.coreRun.dataBus cycle).addr)
      else none := by
  simp only [CoreRun.dataBus, state_coreRun]
  rfl

/-- The data memory answers in the cycle after the grant. -/
theorem valid_dataBus_succ (cycle : Nat) :
    (around.coreRun.dataBus (cycle + 1)).valid = (around.coreRun.dataBus cycle).granted := by
  change (around.system (cycle + 1)).dataAnswer.isSome = _
  rw [around.dataAnswer_succ,
    BusProtocol.Cycle.granted_of_requested (around.requested_dataBus cycle)]
  cases (around.coreRun.dataBus cycle).gnt <;> rfl

theorem inOrder_dataBus :
    BusProtocol.InOrder (fun addr answer => answer = around.dataAnswer addr)
      around.coreRun.dataBus := by
  refine BusProtocol.inOrder_of_immediate around.requested_dataBus rfl around.valid_dataBus_succ
    fun cycle granted => ?_
  change (around.system (cycle + 1)).dataAnswer.getD (0#32, false) = _
  rw [BusProtocol.Cycle.granted_of_requested (around.requested_dataBus cycle)] at granted
  rw [around.dataAnswer_succ, if_pos granted]
  rfl

/-- So does the instruction memory. -/
theorem valid_instrBus_succ (cycle : Nat) :
    (around.coreRun.instrBus (cycle + 1)).valid = (around.coreRun.instrBus cycle).granted := by
  change (around.system (cycle + 1)).instrAnswer.isSome = _
  rw [around.instrAnswer_succ,
    BusProtocol.Cycle.granted_of_requested (around.requested_instrBus cycle)]
  cases (around.coreRun.instrBus cycle).gnt <;> rfl

/-- Every run of the closed system is well connected. -/
theorem wellConnected : around.coreRun.WellConnected around.program where
  instr := by
    refine BusProtocol.inOrder_of_immediate around.requested_instrBus rfl
      around.valid_instrBus_succ fun cycle granted => ?_
    change ((around.system (cycle + 1)).instrAnswer.getD (0#32, false)) = _
    rw [BusProtocol.Cycle.granted_of_requested (around.requested_instrBus cycle)] at granted
    rw [around.instrAnswer_succ, if_pos granted]
    rfl
  data := BusProtocol.inOrder_of_immediate around.requested_dataBus rfl
    around.valid_dataBus_succ fun _ _ => trivial

/-! ## Comparing states

The registers compared one by one.  Each comparison is between two small values, so that the
equality of two states of a run can be decided by evaluation. -/

/-- Equality of two register arrays, index by index. -/
def sameFun {count : Nat} {Value : Type} [BEq Value] (f g : Fin count → Value) : Bool :=
  (List.finRange count).all fun index => f index == g index

theorem eq_of_sameFun {count : Nat} {Value : Type} [BEq Value] [LawfulBEq Value]
    {f g : Fin count → Value} (same : sameFun f g = true) : f = g := by
  funext index
  have all := List.all_eq_true.mp same index (List.mem_finRange index)
  exact eq_of_beq all

def sameReg {Value : Type} [BEq Value] (f g : RegAddr → Value) : Bool :=
  sameFun (fun index : Fin 32 => f (BitVec.ofFin index)) fun index => g (BitVec.ofFin index)

theorem eq_of_sameReg {Value : Type} [BEq Value] [LawfulBEq Value]
    {f g : RegAddr → Value} (same : sameReg f g = true) : f = g := by
  funext addr
  exact congrFun (eq_of_sameFun same) addr.toFin

def sameFifo {depth width : Nat} (a b : SyncFifo depth width) : Bool :=
  sameFun a.valid b.valid && sameFun a.fifoDataQ b.fifoDataQ

theorem eq_of_sameFifo {depth width : Nat} {a b : SyncFifo depth width}
    (same : sameFifo a b = true) : a = b := by
  rw [sameFifo, Bool.and_eq_true] at same
  cases a
  cases b
  exact congr (congrArg _ (eq_of_sameFun same.1)) (eq_of_sameFun same.2)

def sameIdEx (a b : IdEx) : Bool :=
  a.pcEx == b.pcEx && a.iretireEx == b.iretireEx && a.signEx == b.signEx &&
    a.adderEnEx == b.adderEnEx && a.adderOpEx == b.adderOpEx && a.compEnEx == b.compEnEx &&
    a.compOpEx == b.compOpEx && a.logicEnEx == b.logicEnEx && a.logicOpEx == b.logicOpEx &&
    a.shiftEnEx == b.shiftEnEx && a.shiftOpEx == b.shiftOpEx && a.lsuEnEx == b.lsuEnEx &&
    a.lsuOpEx == b.lsuOpEx && a.lsuDtypeEx == b.lsuDtypeEx && a.multEnEx == b.multEnEx &&
    a.multOpEx == b.multOpEx && a.csrEnEx == b.csrEnEx && a.csrOpEx == b.csrOpEx &&
    a.srcAEx == b.srcAEx && a.srcBEx == b.srcBEx && a.srcCEx == b.srcCEx &&
    a.compressInstrEx == b.compressInstrEx && a.predictTakenEx == b.predictTakenEx &&
    a.branchEx == b.branchEx && a.jumpEx == b.jumpEx && a.jalrEx == b.jalrEx &&
    a.rdWrEnEx == b.rdWrEnEx && a.rdWrTagEx == b.rdWrTagEx && a.rdWrAddrEx == b.rdWrAddrEx &&
    a.excTakenEx == b.excTakenEx

theorem eq_of_sameIdEx {a b : IdEx} (same : sameIdEx a b = true) : a = b := by
  simp only [sameIdEx, Bool.and_eq_true, beq_iff_eq] at same
  cases a
  cases b
  simp_all

def sameExMem (a b : ExMem) : Bool :=
  a.lsuEnMem == b.lsuEnMem && a.lsuOpMem == b.lsuOpMem && a.lsuDtypeMem == b.lsuDtypeMem &&
    a.lsuAddrMem == b.lsuAddrMem && a.rdWrEnMem == b.rdWrEnMem &&
    a.rdWrTagMem == b.rdWrTagMem && a.rdWrAddrMem == b.rdWrAddrMem &&
    a.rdWrDataMem == b.rdWrDataMem && a.pcMem == b.pcMem && a.excTakenMem == b.excTakenMem &&
    a.iretireMem == b.iretireMem

theorem eq_of_sameExMem {a b : ExMem} (same : sameExMem a b = true) : a = b := by
  simp only [sameExMem, Bool.and_eq_true, beq_iff_eq] at same
  cases a
  cases b
  simp_all

def sameMemWb (a b : MemWb) : Bool :=
  a.rdWrEnWb == b.rdWrEnWb && a.rdWrTagWb == b.rdWrTagWb && a.rdWrAddrWb == b.rdWrAddrWb &&
    a.rdWrDataWb == b.rdWrDataWb && a.lsuEnWb == b.lsuEnWb && a.lsuOpWb == b.lsuOpWb &&
    a.pcWb == b.pcWb && a.iretireWb == b.iretireWb && a.excTakenWb == b.excTakenWb

theorem eq_of_sameMemWb {a b : MemWb} (same : sameMemWb a b = true) : a = b := by
  simp only [sameMemWb, Bool.and_eq_true, beq_iff_eq] at same
  cases a
  cases b
  simp_all

def sameDiv (a b : Div) : Bool :=
  a.fsmCs == b.fsmCs && a.cnt == b.cnt && a.quotientQ == b.quotientQ &&
    a.remainderQ == b.remainderQ && a.denominatorQ == b.denominatorQ && a.rSign == b.rSign &&
    a.divByZeroQ == b.divByZeroQ

theorem eq_of_sameDiv {a b : Div} (same : sameDiv a b = true) : a = b := by
  simp only [sameDiv, Bool.and_eq_true, beq_iff_eq] at same
  cases a
  cases b
  simp_all

def sameLsu (a b : Lsu) : Bool :=
  a.unalignQ == b.unalignQ && a.dataRdataQ == b.dataRdataQ &&
    a.unalignFirstErr == b.unalignFirstErr && a.addrOffsetQ == b.addrOffsetQ &&
    a.lsuDtypeQ == b.lsuDtypeQ

theorem eq_of_sameLsu {a b : Lsu} (same : sameLsu a b = true) : a = b := by
  simp only [sameLsu, Bool.and_eq_true, beq_iff_eq] at same
  cases a
  cases b
  simp_all

def sameIfStage (a b : IfStage) : Bool :=
  a.isBoot == b.isBoot && a.pcIf == b.pcIf && a.pcId == b.pcId &&
    a.instrPayloadId == b.instrPayloadId && a.instrValueId == b.instrValueId &&
    a.compressInstrId == b.compressInstrId && a.instrFetchError == b.instrFetchError &&
    a.predictTakenId == b.predictTakenId && a.predictPcId == b.predictPcId &&
    a.holdRdata == b.holdRdata && a.holdRdataValue == b.holdRdataValue &&
    a.holdRdataErr == b.holdRdataErr && a.fifoFlush == b.fifoFlush &&
    a.updisconQ == b.updisconQ && a.instrPrefetchAddr == b.instrPrefetchAddr &&
    a.reqFail == b.reqFail && sameFifo a.prefetchFifo b.prefetchFifo &&
    sameFifo a.cmdFifo b.cmdFifo

theorem eq_of_sameIfStage {a b : IfStage} (same : sameIfStage a b = true) : a = b := by
  simp only [sameIfStage, Bool.and_eq_true, beq_iff_eq] at same
  obtain ⟨⟨same, prefetch⟩, cmd⟩ := same
  have samePrefetch := eq_of_sameFifo prefetch
  have sameCmd := eq_of_sameFifo cmd
  cases a
  cases b
  simp_all

def sameCsr (a b : Csr) : Bool :=
  a.mstatusQ == b.mstatusQ && a.mcauseQ == b.mcauseQ && a.mieQ == b.mieQ && a.mipQ == b.mipQ &&
    a.mtvecQ == b.mtvecQ && a.mepcQ == b.mepcQ && a.privilegeModeQ == b.privilegeModeQ &&
    a.mcounterenQ == b.mcounterenQ && a.mcountinhitQ == b.mcountinhitQ &&
    a.mcycleQ == b.mcycleQ && sameFun a.pmpcfgQ b.pmpcfgQ && sameFun a.pmpaddrQ b.pmpaddrQ

theorem eq_of_sameCsr {a b : Csr} (same : sameCsr a b = true) : a = b := by
  simp only [sameCsr, Bool.and_eq_true, beq_iff_eq] at same
  obtain ⟨⟨same, cfg⟩, addr⟩ := same
  have sameCfg := eq_of_sameFun cfg
  have sameAddr := eq_of_sameFun addr
  cases a
  cases b
  simp_all

def sameRf (a b : RegisterFile) : Bool :=
  sameReg a.mem b.mem && sameReg a.dirtyEn b.dirtyEn && sameReg a.tag b.tag

theorem eq_of_sameRf {a b : RegisterFile} (same : sameRf a b = true) : a = b := by
  simp only [sameRf, Bool.and_eq_true] at same
  have sameMem := eq_of_sameReg same.1.1
  have sameDirty := eq_of_sameReg same.1.2
  have sameTag := eq_of_sameReg same.2
  cases a
  cases b
  simp_all

def sameSystem (a b : System) : Bool :=
  sameIfStage a.core.ifs b.core.ifs && sameIdEx a.core.idEx b.core.idEx &&
    sameRf a.core.rf b.core.rf && sameExMem a.core.exMem b.core.exMem &&
    sameCsr a.core.csr b.core.csr && sameDiv a.core.div b.core.div &&
    a.core.branchJumpMask == b.core.branchJumpMask && sameMemWb a.core.memWb b.core.memWb &&
    sameLsu a.core.lsu b.core.lsu && a.core.fsm == b.core.fsm &&
    a.core.irqThreshold == b.core.irqThreshold && a.instrAnswer == b.instrAnswer &&
    a.dataAnswer == b.dataAnswer

theorem eq_of_sameSystem {a b : System} (same : sameSystem a b = true) : a = b := by
  simp only [sameSystem, Bool.and_eq_true, beq_iff_eq] at same
  obtain ⟨⟨⟨⟨⟨⟨⟨⟨⟨⟨⟨⟨ifs, idEx⟩, rf⟩, exMem⟩, csr⟩, div⟩, mask⟩, memWb⟩, lsu⟩, fsm⟩, threshold⟩,
    instr⟩, data⟩ := same
  have sameIfs := eq_of_sameIfStage ifs
  have sameEx := eq_of_sameIdEx idEx
  have sameRegs := eq_of_sameRf rf
  have sameMem := eq_of_sameExMem exMem
  have sameCsrs := eq_of_sameCsr csr
  have sameDivider := eq_of_sameDiv div
  have sameWb := eq_of_sameMemWb memWb
  have sameUnit := eq_of_sameLsu lsu
  rcases a with ⟨⟨⟩, _, _⟩
  rcases b with ⟨⟨⟩, _, _⟩
  simp_all

theorem grants_of_tireless (tireless : around.tireless = true) (cycle : Nat) :
    around.grants cycle = true := by
  rw [grants, tireless, Bool.true_or]

theorem grants_of_resting {settled cycle : Nat} (resting : around.grants settled = false)
    (later : settled ≤ cycle) : around.grants cycle = false := by
  rw [grants, Bool.or_eq_false_iff, decide_eq_false_iff_not] at resting ⊢
  exact ⟨resting.1, fun early => resting.2 (Nat.lt_of_le_of_lt later early)⟩

/-- A state of the closed system that one step after `rest` leaves unchanged is kept for ever,
if no interrupt line rises any more. -/
theorem system_of_settled {settled : Nat} (resting : around.grants settled = false)
    (quiet : ∀ cycle, settled ≤ cycle → around.externIrq cycle = false)
    (fixed : sameSystem (around.step (around.system settled) false false)
      (around.system settled) = true)
    (cycle : Nat) (later : settled ≤ cycle) :
    around.system cycle = around.system settled := by
  induction cycle with
  | zero =>
      obtain rfl : settled = 0 := by omega
      rfl
  | succ cycle induction =>
      rcases Nat.lt_or_ge cycle settled with below | above
      · obtain rfl : settled = cycle + 1 := by omega
        rfl
      · rw [system, induction above, quiet cycle above, around.grants_of_resting resting above,
          eq_of_sameSystem fixed]

/-- A statement about two consecutive cycles holds throughout a run that settles if it holds up
to the settled state. -/
theorem forall_cycles_of_settled (settled : Nat) (resting : around.grants settled = false)
    (quiet : ∀ cycle, settled ≤ cycle → around.externIrq cycle = false)
    (fixed : sameSystem (around.step (around.system settled) false false)
      (around.system settled) = true)
    (statement : CoreState → CoreInput → CoreState → CoreInput → Prop)
    (upTo : ∀ cycle, cycle ≤ settled →
      statement (around.system cycle).core (around.portAt cycle)
        (around.system (cycle + 1)).core (around.portAt (cycle + 1))) (cycle : Nat) :
    statement (around.coreRun.state cycle) (around.coreRun.inputs cycle)
      (around.coreRun.state (cycle + 1)) (around.coreRun.inputs (cycle + 1)) := by
  rw [state_coreRun, state_coreRun]
  rcases Nat.le_total cycle settled with below | above
  · exact upTo cycle below
  · have portSettled (later : Nat) (isLater : settled ≤ later) :
        around.portAt later = around.portAt settled := by
      rw [portAt, portAt, quiet settled (Nat.le_refl _), quiet later isLater, resting,
        around.grants_of_resting resting isLater,
        around.system_of_settled resting quiet fixed later isLater]
    have atSettled := upTo settled (Nat.le_refl _)
    change statement _ (around.portAt cycle) _ (around.portAt (cycle + 1))
    rw [portSettled (settled + 1) (by omega),
      around.system_of_settled resting quiet fixed (settled + 1) (by omega)] at atSettled
    rw [portSettled cycle above, portSettled (cycle + 1) (by omega),
      around.system_of_settled resting quiet fixed cycle above,
      around.system_of_settled resting quiet fixed (cycle + 1) (by omega)]
    exact atSettled

/-- The same for a statement about one cycle. -/
theorem forall_cycle_of_settled (settled : Nat) (resting : around.grants settled = false)
    (quiet : ∀ cycle, settled ≤ cycle → around.externIrq cycle = false)
    (fixed : sameSystem (around.step (around.system settled) false false)
      (around.system settled) = true)
    (statement : CoreState → CoreInput → Prop)
    (upTo : ∀ cycle, cycle ≤ settled →
      statement (around.system cycle).core (around.portAt cycle)) (cycle : Nat) :
    statement (around.coreRun.state cycle) (around.coreRun.inputs cycle) :=
  around.forall_cycles_of_settled settled resting quiet fixed
    (fun st port _ _ => statement st port) upTo cycle

section Periodic

variable {start period : Nat} (tireless : around.tireless = true)
  (quiet : ∀ cycle, start ≤ cycle → around.externIrq cycle = false)
  (same : sameSystem (around.system (start + period)) (around.system start) = true)

include tireless quiet same

/-- With tireless memories a state that comes back does so again and again. -/
theorem system_of_periodic (cycle : Nat) (later : start ≤ cycle) :
    around.system (cycle + period) = around.system cycle := by
  induction later with
  | refl => exact eq_of_sameSystem same
  | @step cycle later induction =>
      rw [Nat.succ_add, system, system, induction, quiet cycle later,
        quiet (cycle + period) (Nat.le_add_right_of_le later),
        around.grants_of_tireless tireless, around.grants_of_tireless tireless]

theorem portAt_of_periodic (cycle : Nat) (later : start ≤ cycle) :
    around.portAt (cycle + period) = around.portAt cycle := by
  rw [portAt, portAt, around.system_of_periodic tireless quiet same cycle later,
    quiet cycle later, quiet (cycle + period) (Nat.le_add_right_of_le later),
    around.grants_of_tireless tireless, around.grants_of_tireless tireless]

/-- A statement about one cycle holds from the start of a period on if it holds in that period. -/
theorem forall_cycle_of_periodic (positive : 0 < period)
    (statement : CoreState → CoreInput → Prop)
    (inPeriod : ∀ cycle, cycle < start + period → start ≤ cycle →
      statement (around.system cycle).core (around.portAt cycle)) (cycle : Nat)
    (later : start ≤ cycle) :
    statement (around.coreRun.state cycle) (around.coreRun.inputs cycle) := by
  rw [state_coreRun]
  induction cycle using Nat.strongRecOn with
  | ind cycle induction =>
      rcases Nat.lt_or_ge cycle (start + period) with inside | beyond
      · exact inPeriod cycle inside later
      · obtain ⟨earlier, rfl⟩ : ∃ earlier, cycle = earlier + period :=
          ⟨cycle - period, by omega⟩
        have before := induction earlier (by omega) (by omega)
        change statement (around.system (earlier + period)).core (around.portAt (earlier + period))
        rw [around.system_of_periodic tireless quiet same earlier (by omega),
          around.portAt_of_periodic tireless quiet same earlier (by omega)]
        exact before

end Periodic

/-! ## Entering user mode -/

/-- The machine code that opens the first 124 bytes to user mode and returns to address 16. -/
def enterUser : List Word :=
  [ 0x3B0FD073#32,  -- csrrwi x0, pmpaddr0, 31
    0x3A07D073#32,  -- csrrwi x0, pmpcfg0, 15
    0x34185073#32,  -- csrrwi x0, mepc, 16
    0x30200073#32 ] -- mret

/-- User code that does nothing but `nop`. -/
def userIdles : Surroundings where
  program := Surroundings.programOf enterUser
  rest := 13

end Surroundings

/-- A state that one cycle leaves unchanged is kept for ever, if the inputs stay as they are. -/
theorem CoreRun.state_of_settled (run : CoreRun) {settled : Nat}
    (constant : ∀ cycle, settled ≤ cycle → run.inputs cycle = run.inputs settled)
    (fixed : Surroundings.sameSystem ⟨run.state (settled + 1), none, none⟩
      ⟨run.state settled, none, none⟩ = true)
    (cycle : Nat) (later : settled ≤ cycle) : run.state cycle = run.state settled := by
  have same : run.state (settled + 1) = run.state settled :=
    congrArg Surroundings.System.core (Surroundings.eq_of_sameSystem fixed)
  induction cycle with
  | zero =>
      obtain rfl : settled = 0 := by omega
      rfl
  | succ cycle induction =>
      rcases Nat.lt_or_ge cycle settled with below | above
      · obtain rfl : settled = cycle + 1 := by omega
        rfl
      · rw [run.state_succ, induction above, constant cycle above, ← run.state_succ, same]

/-- A statement about one cycle holds throughout a run that settles if it holds up to the settled
state. -/
theorem CoreRun.forall_cycle_of_settled (run : CoreRun) {settled : Nat}
    (constant : ∀ cycle, settled ≤ cycle → run.inputs cycle = run.inputs settled)
    (fixed : Surroundings.sameSystem ⟨run.state (settled + 1), none, none⟩
      ⟨run.state settled, none, none⟩ = true)
    (statement : CoreState → CoreInput → Prop)
    (upTo : ∀ cycle, cycle ≤ settled → statement (run.state cycle) (run.inputs cycle))
    (cycle : Nat) : statement (run.state cycle) (run.inputs cycle) := by
  rcases Nat.le_total cycle settled with below | above
  · exact upTo cycle below
  · rw [run.state_of_settled constant fixed cycle above, constant cycle above]
    exact upTo settled (Nat.le_refl settled)

end RiscvCore
