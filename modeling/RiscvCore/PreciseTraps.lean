import RiscvCore.InterruptEntry
import RiscvCore.MemoryRefinement

/-!
# Precise traps

A trap for the instruction in ID finds the registers and the memory that the machine has in front
of that instruction.  Behind the flush the core executes what the machine executes from the target
of the flush on, up to the next trap, and so on through the whole run.
-/

namespace RiscvCore

open BusProtocol (InOrder)
open ByteMemory

namespace Instr

/-- Where the flush of an instruction goes that waits for it. -/
def resumesAt (instr : Instr) (pc epc vector : Word) : Word :=
  match instr with
  | fenceI _ _ _ => pc + 4#32
  | mret => epc
  | _ => vector

/-- In the flush of an instruction other than a `wfi` fetch is sent to where the flush goes. -/
theorem excFetch_controls (instr : Instr) {pc pcIf epc mtvec : Word}
    (noWfi : instr.controls.wfiEn = false)
    (sequential : instr.controls.fenceEn = true → pcIf = pc + 4#32) :
    Controller.excFetch .excFlush instr.controls.fenceEn instr.controls.mretEn
      instr.controls.wfiEn pcIf epc mtvec =
        (true, instr.resumesAt pc epc (Controller.trapVector mtvec)) := by
  cases instr with
  | arith instr =>
      have waits := instr.others_controls.2
      rw [Decoded.waits] at waits
      simp only [Bool.or_eq_false_iff] at waits
      obtain ⟨⟨⟨-, noMret⟩, noFence⟩, -⟩ := waits
      rw [show (arith instr).controls = instr.controls from rfl] at noWfi ⊢
      rw [noWfi, noMret, noFence]
      rfl
  | fenceI fm rd rs1 => exact congrArg (Prod.mk true) (sequential rfl)
  | wfi => cases noWfi
  | _ => rfl

end Instr

/-- The machine with another program counter. -/
def Machine.resumed (machine : Machine) (pc : Word) : Machine :=
  ⟨⟨pc, machine.hart.reg⟩, machine.data⟩

namespace CoreState

variable {params : Params} {st : CoreState} {port : CoreInput}

/-- Without an instruction that issues nothing becomes dirty. -/
theorem invalidPort_of_noIssue (noIssue : st.issues params port = false) :
    (st.invalidPort params port).en = false := by
  cases enabled : (st.invalidPort params port).en with
  | false => rfl
  | true =>
      rw [invalidPort, Bool.and_eq_true, Bool.and_eq_true] at enabled
      obtain ⟨⟨writes, ready⟩, noFlush⟩ := enabled
      rw [CoreState.issues, instrValue_of_rdWrEn writes, ready, noFlush] at noIssue
      cases noIssue

theorem rfWr_of_noWriter (noWriter : st.memWb.rdWrEnWb = false) : (st.rfWr port).en = false := by
  simp [rfWr, WbStage.rfWr, noWriter]

theorem mem_step_of_noWriter (zero : st.ZeroRegister) (noWriter : st.memWb.rdWrEnWb = false) :
    (st.step params port).rf.mem = st.rf.mem := by
  funext reg
  change (if reg = 0#5 then 0#32
    else if (st.rfWr port).en && (st.rfWr port).addr == reg then (st.rfWr port).data
    else st.rf.mem reg) = _
  rw [rfWr_of_noWriter noWriter]
  by_cases isZero : reg = 0#5
  · rw [if_pos isZero, isZero, zero.1]
  · rw [if_neg isZero]
    rfl

/-- The score board stays as it is, in a flush as well. -/
theorem scoreBoardTracks_step_of_empty (tracks : st.ScoreBoardTracks) (empty : st.writers = [])
    (emptyNext : (st.step params port).writers = [])
    (noIssue : st.issues params port = false) : (st.step params port).ScoreBoardTracks := by
  intro reg notZero
  have clean : st.rf.dirtyEn reg = false := by
    have dirty := (tracks reg notZero).dirty
    rw [empty] at dirty
    exact dirty
  have noHit : (st.invalidPort params port).hits reg = false := by
    rw [RegisterFile.AddrPort.hits, invalidPort_of_noIssue noIssue, Bool.false_and]
  have cleanNext : (st.step params port).rf.dirtyEn reg = false := by
    change (if reg = 0#5 then false
      else if RegisterFile.clrDirty (st.rfInput params port) reg then false
      else if (st.invalidPort params port).hits reg then true
      else if _ then false else st.rf.dirtyEn reg) = false
    rw [noHit, clean]
    simp
  rw [emptyNext, cleanNext]
  exact WriterTags.tracks_nil reg _

section Flushing

variable (flushing : st.fsm = .excFlush) (noWfi : st.isWfi params port = false)

include flushing noWfi

theorem excFetch_of_flushing : st.excFetch params port = true := by
  rw [excFetch, excFetchAndPc, flushing]
  exact Controller.excFetch_excFlush.mpr (.inr (.inr noWfi))

theorem isEven_setPc_of_flushing (pcIf : IsEven st.ifs.pcIf) (epc : IsEven st.csr.mepcQ) :
    IsEven (st.setPc params port) := by
  rw [setPc_of_excFetch (excFetch_of_flushing flushing noWfi), excFetchAndPc, flushing, noWfi,
    Controller.excFetch]
  split
  · exact pcIf
  · split
    · exact epc
    · exact isEven_trapVector _

/-- The instruction in ID decides where the flush goes. -/
theorem setPc_of_flushing {instr : Instr} {pc : Word} (ready : st.readyEx params port = true)
    (noFault : st.ifs.instrFetchError = false) (decoded : st.decoded = instr.controls)
    (sequential : instr.controls.fenceEn = true → st.ifs.pcIf = pc + 4#32) :
    st.setPc params port =
      instr.resumesAt pc st.csr.mepcQ (Controller.trapVector st.csr.mtvecQ) := by
  have shows (enable : Bool) : st.idSignal params port enable = enable := by
    rw [idSignal, ready, noFault]
    rfl
  have instrNoWfi : instr.controls.wfiEn = false := by
    rw [← decoded, ← shows st.decoded.wfiEn]
    exact noWfi
  rw [setPc_of_excFetch (excFetch_of_flushing flushing noWfi), excFetchAndPc, isFence, isMret,
    isWfi, shows, shows, shows, decoded, flushing, instr.excFetch_controls instrNoWfi sequential]

end Flushing

end CoreState

namespace CoreRun

variable (run : CoreRun) (initial : Memory) (memory : Word → Word)

/-! ## At rest -/

/-- No instruction is behind ID. -/
structure EmptyPipe (cycle : Nat) : Prop where
  ex : run.inEx cycle = none
  mem : run.inMem cycle = none
  wb : run.inWb cycle = none

/-- With an empty pipeline, the core has the registers and the memory of the machine, and fetch is
in order. -/
structure Resting (machine : Machine) (cycle : Nat) : Prop where
  empty : run.EmptyPipe cycle
  tracks : (run.state cycle).ScoreBoardTracks
  ahead : run.FetchesAhead memory cycle
  registers : (run.state cycle).rf.mem = machine.hart.reg
  data : run.memory initial cycle = machine.data

variable {run initial memory} {machine : Machine} {cycle : Nat}

theorem EmptyPipe.succ (empty : run.EmptyPipe cycle) (noIssue : run.issues cycle = false) :
    run.EmptyPipe (cycle + 1) where
  ex := by
    rw [inEx_succ, noIssue, empty.ex, if_neg Bool.false_ne_true, ite_self]
  mem := by
    rw [inMem_succ, empty.ex, empty.mem, ite_self, ite_self]
  wb := by
    rw [inWb_succ, empty.mem, empty.wb, ite_self, ite_self]

theorem EmptyPipe.writers (empty : run.EmptyPipe cycle) : (run.state cycle).writers = [] := by
  have holds := run.stagesHold cycle
  rw [CoreState.writers, IdEx.writer, ExMem.writer, MemWb.writer, (holds.ex empty.ex).2,
    (holds.mem empty.mem).2, (holds.wb empty.wb).2]
  rfl

theorem EmptyPipe.noBranch (empty : run.EmptyPipe cycle) :
    (run.state cycle).branchJump = false :=
  CoreState.branchJump_of_empty ((run.stagesHold cycle).ex empty.ex).1

theorem EmptyPipe.memory_succ (empty : run.EmptyPipe cycle) (initial : Memory) :
    run.memory initial (cycle + 1) = run.memory initial cycle := by
  have none : run.grantedRequest cycle = none :=
    CoreState.grantedRequest_of_noAccess ((run.stagesHold cycle).mem empty.mem).1
  rw [memory, none]
  rfl

theorem EmptyPipe.registers_succ (empty : run.EmptyPipe cycle) :
    (run.state (cycle + 1)).rf.mem = (run.state cycle).rf.mem := by
  rw [run.state_succ]
  exact CoreState.mem_step_of_noWriter (run.zeroRegister cycle)
    ((run.stagesHold cycle).wb empty.wb).2

section Resting

variable (resting : run.Resting initial memory machine cycle)

include resting

/-- Nothing changes as long as nothing issues. -/
theorem Resting.succ (noIssue : run.issues cycle = false)
    (ahead : run.FetchesAhead memory (cycle + 1)) :
    run.Resting initial memory machine (cycle + 1) where
  empty := resting.empty.succ noIssue
  tracks := by
    have emptyNext := (resting.empty.succ noIssue).writers
    rw [run.state_succ] at emptyNext ⊢
    exact CoreState.scoreBoardTracks_step_of_empty resting.tracks resting.empty.writers emptyNext
      noIssue
  ahead := ahead
  registers := resting.empty.registers_succ.trans resting.registers
  data := (resting.empty.memory_succ initial).trans resting.data

/-- Where fetch stands the machine goes on. -/
theorem Resting.drained {pc : Word} (located : (run.state cycle).AtAddress pc)
    (even : IsEven pc) : run.Drained memory (machine.resumed pc).hart cycle where
  emptyEx := resting.empty.ex
  emptyMem := resting.empty.mem
  emptyWb := resting.empty.wb
  tracks := resting.tracks
  ahead := resting.ahead
  noBranch := resting.empty.noBranch
  located := located
  even := even
  registers := resting.registers

end Resting

theorem isEven_mepcQ (run : CoreRun) (cycle : Nat) : IsEven (run.state cycle).csr.mepcQ := by
  induction cycle with
  | zero => exact isEven_zero
  | succ cycle induction =>
      rw [run.state_succ]
      exact CoreState.isEven_mepcN _ _ induction

theorem readyId_of_stalled (run : CoreRun) (stalled : (run.state cycle).stall = true) :
    (run.state cycle).readyId run.params (run.inputs cycle) = false := by
  rw [CoreState.readyId, CoreState.stallId, stalled, Bool.or_true]
  rfl

/-- A cycle without a redirect. -/
theorem FetchesAhead.succ_of_noRedirect (ahead : run.FetchesAhead memory cycle)
    (served : run.ServedBy memory) (bootAligned : run.bootAddr.toNat % 4 = 0)
    (awake : (run.state cycle).fsm ≠ .wakeup)
    (noRedirect : (run.state cycle).setPcValid run.params (run.inputs cycle) = false) :
    run.FetchesAhead memory (cycle + 1) := by
  have never (redirects : run.fetchRun.redirects cycle = true) : False := by
    have isRedirect : (run.state cycle).setPcValid run.params (run.inputs cycle) = true :=
      redirects
    rw [noRedirect] at isRedirect
    cases isRedirect
  apply ahead.succ served bootAligned fun waking => absurd waking awake
  exact
    { booted := fun redirects => (never redirects).elim
      settled := fun redirects => (never redirects).elim
      even := fun redirects => (never redirects).elim
      empties := fun redirects => (never redirects).elim
      stalled := run.readyId_of_stalled }

/-- A redirect that finds fetch settled. -/
theorem FetchesAhead.succ_of_redirect (ahead : run.FetchesAhead memory cycle)
    (served : run.ServedBy memory) (bootAligned : run.bootAddr.toNat % 4 = 0)
    (wakesEmpty : (run.state cycle).fsm = .wakeup →
      (run.state cycle).ifs.insnValue ((run.state cycle).ifInput run.params (run.inputs cycle)) =
        false)
    (later : 0 < cycle) (settled : (run.state cycle).ifs.fifoFlush = false)
    (redirects : (run.state cycle).setPcValid run.params (run.inputs cycle) = true)
    (even : IsEven (run.redirectTarget cycle)) :
    run.FetchesAhead memory (cycle + 1) ∧
      (run.state (cycle + 1)).AtAddress (run.redirectTarget cycle) := by
  have noInstr := ahead.inSequence.empties wakesEmpty redirects
  constructor
  · apply ahead.succ served bootAligned wakesEmpty
    refine ⟨fun _ => later, fun _ => ?_, fun _ => even, fun _ => ?_, run.readyId_of_stalled⟩
    · rw [state_fetchRun]
      exact settled
    · rw [state_fetchRun, run.state_succ]
      exact noInstr
  · rw [run.state_succ]
    exact CoreState.atAddress_step_of_redirect redirects noInstr

theorem setPcValid_of_empty (empty : run.EmptyPipe cycle) :
    (run.state cycle).setPcValid run.params (run.inputs cycle) =
      (run.state cycle).excFetch run.params (run.inputs cycle) := by
  have noBranch := empty.noBranch
  rw [CoreState.branchJump] at noBranch
  rw [CoreState.setPcValid, noBranch, Bool.false_or]

theorem Resting.settled_succ (resting : run.Resting initial memory machine cycle)
    (served : run.ServedBy memory)
    (noRedirect : (run.state cycle).setPcValid run.params (run.inputs cycle) = false)
    (settled : (run.state cycle).ifs.fifoFlush = false) :
    (run.state (cycle + 1)).ifs.fifoFlush = false := by
  cases discards : (run.state (cycle + 1)).ifs.fifoFlush with
  | false => rfl
  | true =>
      rw [resting.ahead.discards_of_succ served noRedirect discards] at settled
      cases settled

section WaitingTrap

variable {taken : Nat} (trap : run.WaitingTrap taken)

include trap

theorem WaitingTrap.empty : run.EmptyPipe taken :=
  ⟨trap.drained.1.1, trap.drained.1.2.1, trap.drained.1.2.2⟩

theorem WaitingTrap.validNext : (run.state (taken + 1)).ifs.instrValueId = true :=
  (congrArg Shown.instrValueId trap.heldThrough.shown_next).trans trap.waiting.valid

/-- The trap itself does not redirect fetch. -/
theorem WaitingTrap.resting_succ (resting : run.Resting initial memory machine taken)
    (served : run.ServedBy memory) (bootAligned : run.bootAddr.toNat % 4 = 0) :
    run.Resting initial memory machine (taken + 1) := by
  have idle := trap.waiting.idle
  apply resting.succ trap.notIssued.1
  refine resting.ahead.succ_of_noRedirect served bootAligned (fun waking => ?_) ?_
  · rw [idle] at waking
    cases waking
  · rw [(CoreState.redirect_of_idle run.params (run.inputs taken) idle).1, trap.empty.noBranch]

theorem WaitingTrap.noWfi_of_awake (awake : (run.state (taken + 2)).fsm = .idle) :
    (run.state (taken + 1)).isWfi run.params (run.inputs (taken + 1)) = false := by
  cases isWfi : (run.state (taken + 1)).isWfi run.params (run.inputs (taken + 1)) with
  | false => rfl
  | true =>
      rw [show taken + 2 = taken + 1 + 1 from rfl, run.state_succ,
        CoreState.fsm_step_excFlush trap.flushing, isWfi] at awake
      cases awake

section Flush

variable (resting : run.Resting initial memory machine (taken + 1))
  (served : run.ServedBy memory) (bootAligned : run.bootAddr.toNat % 4 = 0)

include resting

/-- With the instruction in ID, every earlier redirect has been settled. -/
theorem WaitingTrap.settled : (run.state (taken + 1)).ifs.fifoFlush = false := by
  cases discards : (run.state (taken + 1)).ifs.fifoFlush with
  | false => rfl
  | true =>
      have noInstr := resting.ahead.noInstr_of_discards discards
      rw [trap.validNext] at noInstr
      cases noInstr

include served bootAligned

/-- The flush of an instruction that does not go to sleep redirects fetch. -/
theorem WaitingTrap.resting_of_flush (even : IsEven (run.state taken).ifs.pcId)
    (noWfi : (run.state (taken + 1)).isWfi run.params (run.inputs (taken + 1)) = false) :
    run.Resting initial memory machine (taken + 2) ∧
      (run.state (taken + 2)).AtAddress (run.redirectTarget (taken + 1)) ∧
        IsEven (run.redirectTarget (taken + 1)) := by
  have flushing := trap.flushing
  have evenIf : IsEven (run.state (taken + 1)).ifs.pcIf := by
    have samePc : (run.state (taken + 1)).ifs.pcId = (run.state taken).ifs.pcId :=
      congrArg Shown.pcId trap.heldThrough.shown_next
    rw [resting.ahead.inSequence.follows.pcIf trap.validNext, samePc]
    apply isEven_add even
    split <;> decide
  have evenTarget : IsEven (run.redirectTarget (taken + 1)) :=
    CoreState.isEven_setPc_of_flushing flushing noWfi evenIf (run.isEven_mepcQ (taken + 1))
  have redirects : (run.state (taken + 1)).setPcValid run.params (run.inputs (taken + 1)) =
      true := by
    rw [CoreState.setPcValid, CoreState.excFetch_of_flushing flushing noWfi, Bool.or_true]
  have notWaking : (run.state (taken + 1)).fsm ≠ .wakeup := by
    rw [flushing]
    decide
  obtain ⟨ahead, located⟩ := resting.ahead.succ_of_redirect served bootAligned
    (fun waking => absurd waking notWaking) (Nat.succ_pos taken) (trap.settled resting) redirects
    evenTarget
  exact ⟨resting.succ trap.notIssued.2 ahead, located, evenTarget⟩

/-- The flush of a `wfi` leaves fetch where it is. -/
theorem WaitingTrap.resting_of_wfi
    (isWfi : (run.state (taken + 1)).isWfi run.params (run.inputs (taken + 1)) = true) :
    run.Resting initial memory machine (taken + 2) ∧
      (run.state (taken + 2)).ifs.fifoFlush = false ∧ (run.state (taken + 2)).fsm = .sleep := by
  have flushing := trap.flushing
  have empty : run.EmptyPipe (taken + 1) := resting.empty
  obtain ⟨noFence, noMret⟩ := CoreState.noDiversion_of_isWfi isWfi
  have noRedirect : (run.state (taken + 1)).setPcValid run.params (run.inputs (taken + 1)) =
      false := by
    rw [setPcValid_of_empty empty, CoreState.excFetch_excFlush_of_wfi flushing noFence noMret isWfi]
  have notWaking : (run.state (taken + 1)).fsm ≠ .wakeup := by
    rw [flushing]
    decide
  refine ⟨resting.succ trap.notIssued.2
    (resting.ahead.succ_of_noRedirect served bootAligned notWaking noRedirect), ?_, ?_⟩
  · exact resting.settled_succ served noRedirect (trap.settled resting)
  · rw [run.state_succ, CoreState.fsm_step_excFlush flushing, isWfi]
    rfl

end Flush

end WaitingTrap

section Sleep

variable {asleep wake : Nat} (served : run.ServedBy memory)
  (bootAligned : run.bootAddr.toNat % 4 = 0)

include served bootAligned

omit served bootAligned in
/-- From the flush of a `wfi` up to the wake-up the core sleeps. -/
theorem sleeping_upTo (run : CoreRun) (sleeps : (run.state asleep).fsm = .sleep)
    (notBefore : ∀ earlier, asleep ≤ earlier → earlier < wake →
      (run.state earlier).fsm ≠ .wakeup) :
    ∀ between, asleep ≤ between → between < wake → (run.state between).fsm = .sleep := by
  intro between after
  induction after with
  | refl => exact fun _ => sleeps
  | @step between after induction =>
      intro before
      have stillAsleep := induction (Nat.lt_of_succ_lt before)
      have notWaking := notBefore (between + 1) (Nat.le_succ_of_le after) before
      rw [run.state_succ] at notWaking ⊢
      exact (CoreState.fsm_step_sleep stillAsleep).resolve_right notWaking

/-- The core rests while it sleeps. -/
theorem Resting.through_sleep (resting : run.Resting initial memory machine asleep)
    (settled : (run.state asleep).ifs.fifoFlush = false) (ordered : asleep ≤ cycle)
    (sleeping : ∀ between, asleep ≤ between → between < cycle →
      (run.state between).fsm = .sleep) :
    run.Resting initial memory machine cycle ∧ (run.state cycle).ifs.fifoFlush = false := by
  induction ordered with
  | refl => exact ⟨resting, settled⟩
  | @step cycle ordered induction =>
      obtain ⟨rests, isSettled⟩ := induction fun between after before =>
        sleeping between after (Nat.lt_succ_of_lt before)
      have isAsleep := sleeping cycle ordered (Nat.lt_succ_self cycle)
      have noRedirect : (run.state cycle).setPcValid run.params (run.inputs cycle) = false := by
        rw [setPcValid_of_empty rests.empty, CoreState.excFetch_sleep isAsleep]
      have notWaking : (run.state cycle).fsm ≠ .wakeup := by
        rw [isAsleep]
        decide
      refine ⟨rests.succ ?_ ?_, rests.settled_succ served noRedirect isSettled⟩
      · exact CoreState.issues_of_stall (CoreState.stall_of_sleep isAsleep)
      · exact rests.ahead.succ_of_noRedirect served bootAligned notWaking noRedirect

/-- On waking up fetch is sent to the handler. -/
theorem Resting.succ_of_wakeup (resting : run.Resting initial memory machine wake)
    (settled : (run.state wake).ifs.fifoFlush = false) (waking : (run.state wake).fsm = .wakeup)
    (empty : (run.state wake).ifs.insnValue
      ((run.state wake).ifInput run.params (run.inputs wake)) = false) :
    run.Resting initial memory machine (wake + 1) ∧
      (run.state (wake + 1)).AtAddress (run.redirectTarget wake) ∧
        IsEven (run.redirectTarget wake) := by
  have even : IsEven (run.redirectTarget wake) := by
    rw [redirectTarget, CoreState.setPc_wakeup waking]
    exact isEven_trapVector _
  have redirects : (run.state wake).setPcValid run.params (run.inputs wake) = true := by
    rw [CoreState.setPcValid, CoreState.excFetch_wakeup waking, Bool.or_true]
  have later : 0 < wake := by
    refine Nat.pos_of_ne_zero ?_
    rintro rfl
    cases waking
  obtain ⟨ahead, located⟩ := resting.ahead.succ_of_redirect served bootAligned (fun _ => empty)
    later settled redirects even
  refine ⟨resting.succ ?_ ahead, located, even⟩
  exact CoreState.issues_of_noInstr (run.noInstrAsleep wake (.inr waking))

end Sleep

/-! ## From trap to trap -/

variable (run initial memory)

/-- Both buses answer in order, the instruction bus out of the one memory and the data bus out of
the other, the second half of an access is granted when the first one is answered, and an interrupt
stays as long as an instruction waits for it. -/
structure Surrounded : Prop where
  bootAligned : run.bootAddr.toNat % 4 = 0
  instr : run.ServedBy memory
  data : run.ServedData initial
  second : ∀ last, run.SecondAfterFirst last
  held : ∀ cycle, (run.state cycle).InterruptHeld run.params (run.inputs cycle)

/-- A trap for the instruction in ID, with the machine in front of it. -/
structure TrapsBefore (first : Machine) (start : Nat) (machine : Machine) (taken : Nat) :
    Prop where
  ordered : start ≤ taken
  idle : run.IdleFrom start taken
  trap : run.TakesTrap taken
  noError : (run.state taken).reportsError (run.inputs taken) = false
  noRefusal : (run.state taken).excEx run.params = false
  runs : Machine.run memory first (run.csrReads start taken) (run.issued start taken) =
    some machine
  regular : Machine.Regular memory first (run.csrReads start taken) (run.issued start taken)

/-- The machine takes over from the core at the start: at reset, behind the flush of a trap, and
on waking up from the sleep of a `wfi`. -/
inductive TakesOver : Nat → Machine → Prop
  | boot : TakesOver 0 ⟨Hart.boot run.bootAddr, initial⟩
  | flush {start taken : Nat} {first machine : Machine} (takesOver : TakesOver start first)
      (trap : run.TrapsBefore memory first start machine taken)
      (awake : (run.state (taken + 2)).fsm = .idle) :
      TakesOver (taken + 2) (machine.resumed (run.redirectTarget (taken + 1)))
  | wake {start taken wake : Nat} {first machine : Machine} (takesOver : TakesOver start first)
      (trap : run.TrapsBefore memory first start machine taken)
      (sleeps : run.Sleeps (taken + 1) wake)
      (empty : (run.state wake).ifs.insnValue
        ((run.state wake).ifInput run.params (run.inputs wake)) = false) :
      TakesOver (wake + 1) (machine.resumed (run.redirectTarget wake))

variable {run initial memory} {first : Machine} {start taken : Nat}

theorem Tracked.singleAccess (tracked : run.Tracked cycle)
    (inOrder : InOrder (fun _ _ => True) run.dataBus)
    (second : ∀ last, run.SecondAfterFirst last) : run.SingleAccess cycle where
  owned := tracked.behind.owned
  whole := tracked.whole_of_access
  few := by
    intro grant
    have remaining := tracked.remaining_of_grant inOrder second grant
    rw [← length_opsInFlight]
    cases valid : (run.dataBus cycle).valid with
    | true =>
        rw [valid, if_pos rfl, ← List.drop_one, List.drop_eq_nil_iff] at remaining
        exact remaining
    | false =>
        rw [valid, if_neg Bool.false_ne_true] at remaining
        rw [remaining]
        exact Nat.zero_le _

theorem Stuck.singleAccess (stuck : run.Stuck cycle) : run.SingleAccess cycle where
  owned := by
    intro split
    rw [stuck.whole] at split
    cases split
  whole := fun _ => stuck.whole
  few := by
    intro _
    rw [← length_opsInFlight, stuck.none]
    exact Nat.zero_le _

section Surrounded

variable (surrounded : run.Surrounded initial memory)

include surrounded

theorem Surrounded.singleAccess (cycle : Nat) : run.SingleAccess cycle := by
  have inOrder := surrounded.data.inOrder
  rcases attached_or_stuck inOrder surrounded.second surrounded.held cycle with attached | stuck
  · exact attached.tracked.singleAccess inOrder surrounded.second
  · exact stuck.singleAccess

theorem Surrounded.waitingTrap (trap : run.TrapsBefore memory first start machine taken) :
    run.WaitingTrap taken := by
  have attached := attached_of_taken surrounded.data.inOrder surrounded.second surrounded.held
    (takesTrap_iff.mp trap.trap).2
  rcases attached.trap_cases (surrounded.held taken) trap.trap with error | ⟨refused, -⟩ | waiting
  · rw [trap.noError] at error
    cases error
  · rw [trap.noRefusal] at refused
    cases refused
  · exact waiting

section Segment

variable (drained : run.Drained memory first.hart start)
  (sameData : run.memory initial start = first.data)

include drained sameData

theorem Surrounded.executesWithData {last : Nat} (idle : run.IdleFrom start last) :
    run.ExecutesWithData initial memory first start last :=
  fun _ ordered inside _ runs regular =>
    drained.inStepWithData sameData surrounded.instr surrounded.data surrounded.bootAligned
      (fun cycle _ _ => surrounded.singleAccess cycle) idle ordered inside runs regular

/-- The trap finds the core with the registers and the memory of the machine. -/
theorem Surrounded.resting (trap : run.TrapsBefore memory first start machine taken) :
    run.Resting initial memory machine taken ∧
      (run.state taken).ifs.pcId = machine.hart.pc ∧ IsEven machine.hart.pc := by
  have waiting := surrounded.waitingTrap trap
  have empty := waiting.empty
  have inside : taken ≤ taken := Nat.le_refl taken
  obtain ⟨refining, -⟩ := drained.dataCarry_upTo sameData surrounded.instr surrounded.data
    surrounded.bootAligned (fun cycle _ _ => surrounded.singleAccess cycle) trap.idle trap.ordered
    inside trap.runs trap.regular
  have inStep := surrounded.executesWithData drained sameData trap.idle taken trap.ordered inside
    machine trap.runs trap.regular
  obtain ⟨ranks, rank⟩ := drained.ranks trap.idle trap.ordered inside
  rw [countEx, empty.ex] at rank
  rw [countWb, countMem, empty.wb, empty.mem] at ranks
  have executed : run.executed start taken = run.issued start taken := rank.symm
  have committed : run.committed start taken = run.issued start taken := ranks.symm.trans executed
  obtain ⟨behind, runsBehind, registers⟩ := inStep.registers
  obtain ⟨inFront, runsFront, data⟩ := inStep.data
  rw [committed, trap.runs, Option.some.injEq] at runsBehind
  rw [executed, trap.runs, Option.some.injEq] at runsFront
  subst runsBehind
  subst runsFront
  have located := refining.heads.located empty.noBranch
  refine ⟨⟨empty, refining.tracks, refining.ahead, registers, ?_⟩, ?_, ?_⟩
  · rw [CoreState.remainingRequests, ((run.stagesHold taken).mem empty.mem).1,
      if_neg Bool.false_ne_true] at data
    exact data
  · rcases located with ⟨noInstr, -⟩ | ⟨-, isPc⟩
    · rw [waiting.waiting.valid] at noInstr
      cases noInstr
    · exact isPc
  · exact Hart.isEven_of_run drained.even (Machine.hart_of_run trap.runs)

end Segment

/-- Where the machine takes over the pipeline is drained. -/
theorem Surrounded.drained (takesOver : run.TakesOver initial memory start first) :
    run.Drained memory first.hart start ∧ run.memory initial start = first.data := by
  have served := surrounded.instr
  have bootAligned := surrounded.bootAligned
  induction takesOver with
  | boot => exact ⟨run.drained_zero memory bootAligned, rfl⟩
  | @flush start taken first machine takesOver trap awake induction =>
      have waiting := surrounded.waitingTrap trap
      obtain ⟨rests, isPc, even⟩ := surrounded.resting induction.1 induction.2 trap
      have noWfi := waiting.noWfi_of_awake awake
      obtain ⟨restsLater, located, evenTarget⟩ := waiting.resting_of_flush
        (waiting.resting_succ rests served bootAligned) served bootAligned
        (by rw [isPc]; exact even) noWfi
      exact ⟨restsLater.drained located evenTarget, restsLater.data⟩
  | @wake start taken wake first machine takesOver trap sleeps empty induction =>
      have waiting := surrounded.waitingTrap trap
      obtain ⟨rests, -⟩ := surrounded.resting induction.1 induction.2 trap
      obtain ⟨restsAsleep, settled, asleep⟩ := waiting.resting_of_wfi
        (waiting.resting_succ rests served bootAligned) served bootAligned sleeps.isWfi
      obtain ⟨restsAwake, settledAwake⟩ := restsAsleep.through_sleep served bootAligned settled
        sleeps.wakes.after (run.sleeping_upTo asleep sleeps.wakes.notBefore)
      obtain ⟨restsLater, located, evenTarget⟩ := restsAwake.succ_of_wakeup served bootAligned
        settledAwake sleeps.wakes.happens empty
      exact ⟨restsLater.drained located evenTarget, restsLater.data⟩

end Surrounded

/-- What a trap for the instruction in ID leaves: its machine, with the instruction still to be
executed and its address in `mepc`, and a flush that goes where the instruction says. -/
structure Precise (run : CoreRun) (initial : Memory) (memory : Word → Word) (machine : Machine)
    (taken : Nat) : Prop where
  pc : (run.state taken).ifs.pcId = machine.hart.pc
  instr : ∀ instr compressed, fetch memory machine.hart.pc = some (instr, compressed) →
    (run.state taken).ifs.instrPayloadId = instr.encode ∧
      (run.state taken).ifs.compressInstrId = compressed
  notIssued : run.issues taken = false ∧ run.issues (taken + 1) = false
  settled : run.opsInFlight taken = []
  kept : ∀ cycle, taken ≤ cycle → cycle ≤ taken + 2 →
    run.EmptyPipe cycle ∧ (run.state cycle).rf.mem = machine.hart.reg ∧
      run.memory initial cycle = machine.data
  epc : (∃ trap : IdTrap, trap.raisedIn (run.state taken) = true) ∨
    (run.state taken).RecordsInterrupt run.params (run.inputs taken) →
      (run.state (taken + 2)).csr.mepcQ = machine.hart.pc
  target : (run.state (taken + 2)).fsm = .idle →
    (run.state taken).ifs.instrFetchError = false →
      ∀ instr compressed, fetch memory machine.hart.pc = some (instr, compressed) →
        run.redirectTarget (taken + 1) =
          instr.resumesAt machine.hart.pc (run.state (taken + 1)).csr.mepcQ
            (run.trapVector (taken + 1))

/-- An exception of ID is recorded twice, with the same address. -/
theorem WaitingTrap.mepcQ_of_raisedIn (trap : run.WaitingTrap taken) {exception : IdTrap}
    (raised : exception.raisedIn (run.state taken) = true) :
    (run.state (taken + 2)).csr.mepcQ = Csr.evenPc (run.state taken).ifs.pcId := by
  have held := trap.heldThrough
  have raisedNext : exception.raisedIn (run.state (taken + 1)) = true :=
    (CoreState.raisedIn_of_shown held.shown_next).trans raised
  have records := CoreState.trapUpdate_of_raisedIn raisedNext
    (held.flushed.excTaken (run.inputs (taken + 1))) held.readyNext
    (CoreState.pmpErr_of_noAccess held.emptyNext.lsu) held.emptyNext.csr
  have recorded := CoreState.recorded_step held.emptyNext.csr records
  rw [show taken + 2 = taken + 1 + 1 from rfl, run.state_succ, recorded.epc, held.flushed.pcWb]
  rfl

theorem WaitingTrap.noErrorNext (trap : run.WaitingTrap taken)
    (surrounded : run.Surrounded initial memory) :
    (run.state (taken + 1)).reportsError (run.inputs (taken + 1)) = false := by
  apply noError_of_notIdle surrounded.data.inOrder surrounded.second surrounded.held
  rw [trap.flushing]
  decide

theorem WaitingTrap.target (trap : run.WaitingTrap taken)
    (resting : run.Resting initial memory machine taken)
    (awake : (run.state (taken + 2)).fsm = .idle)
    (noFault : (run.state taken).ifs.instrFetchError = false) {instr : Instr} {compressed : Bool}
    (fetched : fetch memory (run.state taken).ifs.pcId = some (instr, compressed)) :
    run.redirectTarget (taken + 1) =
      instr.resumesAt (run.state taken).ifs.pcId (run.state (taken + 1)).csr.mepcQ
        (run.trapVector (taken + 1)) := by
  have held := trap.heldThrough
  have noFaultNext : (run.state (taken + 1)).ifs.instrFetchError = false :=
    (congrArg Shown.instrFetchError held.shown_next).trans noFault
  obtain ⟨-, -, decoded⟩ := resting.ahead.holds trap.waiting.valid fetched
  have decodedNext : (run.state (taken + 1)).decoded = instr.controls :=
    (CoreState.decoded_of_shown held.shown_next).trans decoded
  refine CoreState.setPc_of_flushing trap.flushing (trap.noWfi_of_awake awake) held.readyNext
    noFaultNext decodedNext fun isFence => ?_
  -- a `fence.i` is four bytes long
  have sequential := resting.ahead.inSequence.pcIf_eq (.inr (decoded ▸ isFence))
  rw [← sequential]
  exact congrArg Shown.pcIf held.shown_next

/-- Traps for the instruction in ID are precise, in the first segment of a run and in every later
one. -/
theorem precise_of_takesOver (run : CoreRun) (memory : Word → Word) (initial : Memory)
    {start taken : Nat} {first machine : Machine} (surrounded : run.Surrounded initial memory)
    (takesOver : run.TakesOver initial memory start first)
    (trap : run.TrapsBefore memory first start machine taken) :
    run.Precise initial memory machine taken := by
  obtain ⟨drained, sameData⟩ := surrounded.drained takesOver
  have waiting := surrounded.waitingTrap trap
  obtain ⟨rests, isPc, even⟩ := surrounded.resting drained sameData trap
  have restsNext := waiting.resting_succ rests surrounded.instr surrounded.bootAligned
  constructor
  · exact isPc
  · intro instr compressed fetched
    rw [← isPc] at fetched
    obtain ⟨payload, length, -⟩ := rests.ahead.holds waiting.waiting.valid fetched
    exact ⟨payload, length⟩
  · exact waiting.notIssued
  · exact waiting.drained.2
  · intro cycle after before
    obtain rfl | rfl | rfl : cycle = taken ∨ cycle = taken + 1 ∨ cycle = taken + 2 := by omega
    · exact ⟨rests.empty, rests.registers, rests.data⟩
    · exact ⟨restsNext.empty, restsNext.registers, restsNext.data⟩
    · have empty := restsNext.empty
      exact ⟨empty.succ waiting.notIssued.2, empty.registers_succ.trans restsNext.registers,
        (empty.memory_succ initial).trans restsNext.data⟩
  · rintro (⟨exception, raised⟩ | records)
    · rw [waiting.mepcQ_of_raisedIn raised, isPc]
      exact evenPc_of_isEven even
    · rw [← isPc] at even ⊢
      exact waiting.mepcQ_of_interrupt (waiting.noErrorNext surrounded) even records
  · intro awake noFault instr compressed fetched
    rw [← isPc] at fetched ⊢
    exact waiting.target rests awake noFault fetched

/-- From every point where the machine takes over up to the next trap, the core and its memory
execute what the machine executes. -/
theorem executesWithData_of_takesOver (run : CoreRun) (memory : Word → Word) (initial : Memory)
    {start last : Nat} {first : Machine} (surrounded : run.Surrounded initial memory)
    (takesOver : run.TakesOver initial memory start first) (idle : run.IdleFrom start last) :
    run.ExecutesWithData initial memory first start last := by
  obtain ⟨drained, sameData⟩ := surrounded.drained takesOver
  exact surrounded.executesWithData drained sameData idle

end CoreRun

/-- `addi x1, x1, 1` and `ecall`, which are their own trap handler. -/
def Surroundings.countTraps : Surroundings where
  program := programOf [0x00108093#32, 0x00000073#32]
  rest := 12

namespace CoreRun

open Surroundings (countTraps)

theorem surrounded_countTraps :
    countTraps.coreRun.Surrounded (fun _ => 0#8) fun addr => (countTraps.program addr).1 := by
  have settled := countTraps.forall_cycle_of_settled 20 (by decide) (fun _ _ => rfl)
    (by decide +kernel)
  have held := settled (fun st port => st.fsm = .idle ∧ st.marked = true →
    st.exceptionTakenId = false ∧ st.readyEx defaultParams port = true → st.irqTaken port = true)
    (by decide +kernel)
  exact
    { bootAligned := rfl
      instr :=
        { noDenial := settled
            (fun st port =>
              st.ifs.pmpErr defaultParams.pmpEnable (st.ifInput defaultParams port) = false)
            (by decide +kernel)
          instr := countTraps.wellConnected.instr }
      data := countTraps.servedData_of_resting (show countTraps.grants 12 = false by decide)
        (by decide +kernel)
      second := secondAfterFirst_of_surroundings countTraps
      held := fun cycle idle marks plain ready => held cycle ⟨idle, marks⟩ ⟨plain, ready⟩ }

theorem trapsBefore_countTraps :
    ∃ machine, countTraps.coreRun.TrapsBefore (fun addr => (countTraps.program addr).1)
      ⟨Hart.boot 0#32, fun _ => 0#8⟩ 0 machine 7 := by
  have idle : ∀ cycle, cycle ≤ 7 → (countTraps.system cycle).core.fsm = .idle := by
    decide +kernel
  have issued : countTraps.coreRun.issued 0 7 = 1 := by decide +kernel
  have reached : (Machine.run (fun addr => (countTraps.program addr).1)
      ⟨Hart.boot 0#32, fun _ => 0#8⟩ (countTraps.coreRun.csrReads 0 7) 1).isSome = true := by
    decide +kernel
  obtain ⟨machine, runs⟩ := Option.isSome_iff_exists.mp reached
  have taken : (countTraps.coreRun.state 7).takesTrap (countTraps.coreRun.inputs 7) = true := by
    decide +kernel
  refine ⟨machine, Nat.zero_le 7, ?_, taken, by decide +kernel, by decide +kernel,
    issued ▸ runs, ?_⟩
  · intro cycle _ inside
    rw [countTraps.state_coreRun]
    exact idle cycle inside
  · rw [issued]
    exact Machine.regular_of_isRegular (by decide +kernel)

/-- The `ecall` waits until the `addi` before it has been executed. -/
theorem precise_countTraps : ∃ machine,
    countTraps.coreRun.Precise (fun _ => 0#8) (fun addr => (countTraps.program addr).1) machine
      7 := by
  obtain ⟨machine, trap⟩ := trapsBefore_countTraps
  exact ⟨machine, precise_of_takesOver countTraps.coreRun _ _ surrounded_countTraps .boot trap⟩

/-- The handler of the first `ecall` runs up to the second one. -/
theorem executesWithData_countTraps : ∃ first,
    countTraps.coreRun.TakesOver (fun _ => 0#8) (fun addr => (countTraps.program addr).1) 9 first ∧
      countTraps.coreRun.ExecutesWithData (fun _ => 0#8)
        (fun addr => (countTraps.program addr).1) first 9 14 := by
  obtain ⟨machine, trap⟩ := trapsBefore_countTraps
  have takesOver : countTraps.coreRun.TakesOver (fun _ => 0#8)
      (fun addr => (countTraps.program addr).1) 9
      (machine.resumed (countTraps.coreRun.redirectTarget 8)) :=
    .flush .boot trap (by decide +kernel)
  have idle : ∀ cycle, cycle ≤ 14 → 9 ≤ cycle → (countTraps.system cycle).core.fsm = .idle := by
    decide +kernel
  refine ⟨_, takesOver, executesWithData_of_takesOver countTraps.coreRun _ _
    surrounded_countTraps takesOver ?_⟩
  intro cycle after inside
  rw [countTraps.state_coreRun]
  exact idle cycle inside after

end CoreRun

end RiscvCore
