import RiscvCore.DirectMemory
import RiscvCore.MarkerDrain

/-!
# The retire trace

Each instruction is known by the cycle in which it issues, and followed through EX, MEM and WB by
the handshake of the stages alone.  The retire flag is a pulse beside this: it is set behind every
valid instruction in ID, also one that is held there with a trap, and it is lost in a stage that
is not ready at once.
-/

namespace RiscvCore

namespace CoreRun

variable (run : CoreRun)

def validId (cycle : Nat) : Bool := (run.state cycle).validId run.params (run.inputs cycle)

def validMem (cycle : Nat) : Bool := (run.state cycle).validMem (run.inputs cycle)

def readyWb (cycle : Nat) : Bool := (run.state cycle).readyWb (run.inputs cycle)

def flushD (cycle : Nat) : Bool := (run.state cycle).flushD

def flushE (cycle : Nat) : Bool := (run.state cycle).flushE

/-- The instruction in EX. -/
def inEx : Nat → Option Nat
  | 0 => none
  | cycle + 1 =>
      if run.issues cycle then some cycle
      else if run.readyEx cycle then none
      else inEx cycle

/-- The instruction in MEM. -/
def inMem : Nat → Option Nat
  | 0 => none
  | cycle + 1 =>
      if run.readyEx cycle && !run.flushE cycle then run.inEx cycle
      else if run.readyMem cycle then none
      else inMem cycle

/-- The instruction in WB. -/
def inWb : Nat → Option Nat
  | 0 => none
  | cycle + 1 =>
      if run.validMem cycle && !run.flushE cycle then run.inMem cycle
      else if run.readyWb cycle then none
      else inWb cycle

/-- A stage without an instruction has nothing enabled. -/
structure StagesHold (cycle : Nat) : Prop where
  ex : run.inEx cycle = none →
    (run.state cycle).idEx.Empty ∧ (run.state cycle).idEx.rdWrEnEx = false
  mem : run.inMem cycle = none →
    (run.state cycle).exMem.lsuEnMem = false ∧ (run.state cycle).exMem.rdWrEnMem = false
  wb : run.inWb cycle = none →
    (run.state cycle).memWb.lsuEnWb = false ∧ (run.state cycle).memWb.rdWrEnWb = false
  pcEx : ∀ issue, run.inEx cycle = some issue →
    (run.state cycle).idEx.pcEx = (run.state issue).ifs.pcId
  pcMem : ∀ issue, run.inMem cycle = some issue →
    (run.state cycle).exMem.pcMem = (run.state issue).ifs.pcId
  pcWb : ∀ issue, run.inWb cycle = some issue →
    (run.state cycle).memWb.pcWb = (run.state issue).ifs.pcId

end CoreRun

namespace CoreState

variable {params : Params} {st : CoreState} {port : CoreInput}

theorem validId_of_issues (issues : st.issues params port = true) :
    st.validId params port = true := by
  simp only [CoreState.issues, readyId, Bool.and_eq_true] at issues
  simp [validId, issues]

theorem readyEx_of_issues (issues : st.issues params port = true) :
    st.readyEx params port = true := by
  simp only [CoreState.issues, Bool.and_eq_true] at issues
  exact readyEx_of_readyId issues.1.2

/-- ID shows an instruction that is not flushed but held, since it traps. -/
def heldTrap (params : Params) (st : CoreState) (port : CoreInput) : Bool :=
  st.validId params port && st.excTakenId params port && !st.flushD

/-- Valid and not flushed is what issues and what is held with a trap. -/
theorem validId_noFlush (params : Params) (st : CoreState) (port : CoreInput) :
    (st.validId params port && !st.flushD) =
      (st.issues params port || st.heldTrap params port) := by
  simp only [issues, heldTrap, readyId, validId]
  cases st.stallId port <;> cases st.readyEx params port <;> cases st.ifs.instrValueId <;>
    cases st.excTakenId params port <;> cases st.flushD <;> rfl

theorem rdWrEnMem_step :
    (st.step params port).exMem.rdWrEnMem =
      if st.readyMem port then st.readyEx params port && !st.flushE && st.idEx.rdWrEnEx
      else st.exMem.rdWrEnMem := by
  change (ExStage.nextOperation st.exMem st.idEx (st.rdWrDataEx port) (st.readyEx params port)
    (st.validEx port) (st.readyMem port) st.flushE st.pmpErr).rdWrEnMem = _
  cases readyMem : st.readyMem port with
  | false =>
      have held : ExStage.nextOperation _ _ _ (st.readyEx params port) _ _ _ _ = _ :=
        nextExMemOperation_of_notReady readyMem
      rw [readyMem] at held
      rw [held]
      rfl
  | true =>
      cases readyEx : st.readyEx params port with
      | false => simp [ExStage.nextOperation]
      | true =>
          have valid := validEx_of_readyEx readyEx
          cases flush : st.flushE <;> simp [ExStage.nextOperation, valid]

theorem rdWrEnWb_step :
    (st.step params port).memWb.rdWrEnWb =
      if st.readyWb port then st.readyMem port && !st.flushE && st.exMem.rdWrEnMem
      else st.memWb.rdWrEnWb := by
  change (MemStage.nextOperation st.memWb st.exMem (st.validMem port) (st.readyWb port)
    st.flushE).rdWrEnWb = _
  rw [validMem_eq_readyMem]
  cases readyWb : st.readyWb port with
  | false =>
      have notReady : st.readyMem port = false := by simp [readyMem, readyWb]
      simp [MemStage.nextOperation, notReady]
  | true =>
      cases readyMem : st.readyMem port <;> cases flush : st.flushE <;>
        simp [MemStage.nextOperation]

end CoreState

namespace CoreRun

variable {run : CoreRun} {cycle : Nat}

theorem inEx_succ (run : CoreRun) (cycle : Nat) :
    run.inEx (cycle + 1) =
      if run.issues cycle then some cycle
      else if run.readyEx cycle then none
      else run.inEx cycle := rfl

theorem inMem_succ (run : CoreRun) (cycle : Nat) :
    run.inMem (cycle + 1) =
      if run.readyEx cycle && !run.flushE cycle then run.inEx cycle
      else if run.readyMem cycle then none
      else run.inMem cycle := rfl

theorem inWb_succ (run : CoreRun) (cycle : Nat) :
    run.inWb (cycle + 1) =
      if run.validMem cycle && !run.flushE cycle then run.inMem cycle
      else if run.readyWb cycle then none
      else run.inWb cycle := rfl

theorem validMem_eq_readyMem (run : CoreRun) (cycle : Nat) :
    run.validMem cycle = run.readyMem cycle := CoreState.validMem_eq_readyMem

/-- What waits behind EX keeps EX waiting. -/
theorem readyEx_of_notReadyMem (notReady : run.readyMem cycle = false) :
    run.readyEx cycle = false := by
  cases ready : run.readyEx cycle with
  | false => rfl
  | true =>
      have isReady : run.readyMem cycle = true := CoreState.readyMem_of_readyEx ready
      rw [notReady] at isReady
      cases isReady

theorem readyMem_of_notReadyWb (notReady : run.readyWb cycle = false) :
    run.readyMem cycle = false := by
  cases ready : run.readyMem cycle with
  | false => rfl
  | true =>
      have isReady : run.readyWb cycle = true := CoreState.readyWb_of_readyMem ready
      rw [notReady] at isReady
      cases isReady

theorem StagesHold.ex_succ (hold : run.StagesHold cycle)
    (nothing : run.inEx (cycle + 1) = none) :
    (run.state (cycle + 1)).idEx.Empty ∧ (run.state (cycle + 1)).idEx.rdWrEnEx = false := by
  have operation : ((run.state cycle).nextIdExOperation run.params (run.inputs cycle)).Empty ∧
      ((run.state cycle).nextIdExOperation run.params (run.inputs cycle)).rdWrEnEx = false := by
    rw [inEx_succ] at nothing
    split at nothing
    · cases nothing
    · rename_i noIssue
      split at nothing
      · rename_i ready
        exact CoreState.nextIdExOperation_of_noIssue (Bool.eq_false_iff.mpr noIssue) ready
      · rename_i notReady
        rw [CoreState.nextIdExOperation_of_notReady (Bool.eq_false_iff.mpr notReady)]
        exact hold.ex nothing
  obtain ⟨empty, noWrite⟩ := operation
  exact ⟨⟨empty.lsu, empty.csr, empty.mult, empty.branch, empty.jump⟩, noWrite⟩

theorem StagesHold.mem_succ (hold : run.StagesHold cycle)
    (nothing : run.inMem (cycle + 1) = none) :
    (run.state (cycle + 1)).exMem.lsuEnMem = false ∧
      (run.state (cycle + 1)).exMem.rdWrEnMem = false := by
  rw [state_succ, CoreState.lsuEnMem_step, CoreState.rdWrEnMem_step]
  change (if run.readyMem cycle then run.readyEx cycle && !run.flushE cycle && _ else _) = false ∧
    (if run.readyMem cycle then run.readyEx cycle && !run.flushE cycle && _ else _) = false
  rw [inMem_succ] at nothing
  split at nothing
  · obtain ⟨empty, noWrite⟩ := hold.ex nothing
    rename_i moves
    have readyMem : run.readyMem cycle = true :=
      CoreState.readyMem_of_readyEx (Bool.and_eq_true_iff.mp moves).1
    rw [readyMem, empty.lsu, noWrite, Bool.and_false]
    exact ⟨rfl, rfl⟩
  · rename_i stays
    rw [Bool.eq_false_iff.mpr stays, Bool.false_and, Bool.false_and]
    split at nothing
    · rename_i ready
      rw [ready]
      exact ⟨rfl, rfl⟩
    · rename_i notReady
      rw [Bool.eq_false_iff.mpr notReady]
      exact hold.mem nothing

theorem StagesHold.wb_succ (hold : run.StagesHold cycle)
    (nothing : run.inWb (cycle + 1) = none) :
    (run.state (cycle + 1)).memWb.lsuEnWb = false ∧
      (run.state (cycle + 1)).memWb.rdWrEnWb = false := by
  rw [state_succ, CoreState.lsuEnWb_step, CoreState.rdWrEnWb_step]
  change (if run.readyWb cycle then run.readyMem cycle && !run.flushE cycle && _ else _) = false ∧
    (if run.readyWb cycle then run.readyMem cycle && !run.flushE cycle && _ else _) = false
  rw [inWb_succ, validMem_eq_readyMem] at nothing
  split at nothing
  · obtain ⟨noAccess, noWrite⟩ := hold.mem nothing
    rename_i moves
    have readyWb : run.readyWb cycle = true :=
      CoreState.readyWb_of_readyMem (Bool.and_eq_true_iff.mp moves).1
    rw [readyWb, noAccess, noWrite, Bool.and_false]
    exact ⟨rfl, rfl⟩
  · rename_i stays
    rw [Bool.eq_false_iff.mpr stays, Bool.false_and, Bool.false_and]
    split at nothing
    · rename_i ready
      rw [ready]
      exact ⟨rfl, rfl⟩
    · rename_i notReady
      rw [Bool.eq_false_iff.mpr notReady]
      exact hold.wb nothing

/-! The program counters move with the instructions. -/

theorem pcEx_succ (run : CoreRun) (cycle : Nat) :
    (run.state (cycle + 1)).idEx.pcEx =
      if run.validId cycle then (run.state cycle).ifs.pcId else (run.state cycle).idEx.pcEx := rfl

theorem pcMem_succ (run : CoreRun) (cycle : Nat) :
    (run.state (cycle + 1)).exMem.pcMem =
      if (run.state cycle).validEx (run.inputs cycle) then (run.state cycle).idEx.pcEx
      else (run.state cycle).exMem.pcMem := rfl

theorem pcWb_succ (run : CoreRun) (cycle : Nat) :
    (run.state (cycle + 1)).memWb.pcWb =
      if run.validMem cycle then (run.state cycle).exMem.pcMem
      else (run.state cycle).memWb.pcWb := rfl

theorem StagesHold.pcEx_of_succ (hold : run.StagesHold cycle) {issue : Nat}
    (inside : run.inEx (cycle + 1) = some issue) :
    (run.state (cycle + 1)).idEx.pcEx = (run.state issue).ifs.pcId := by
  rw [inEx_succ] at inside
  rw [pcEx_succ]
  split at inside
  · rename_i issues
    obtain rfl := Option.some.inj inside
    have valid : run.validId cycle = true := CoreState.validId_of_issues issues
    rw [if_pos valid]
  · split at inside
    · cases inside
    · rename_i notReady
      have notValid : run.validId cycle ≠ true := fun valid =>
        notReady (CoreState.readyEx_of_validId valid)
      rw [if_neg notValid]
      exact hold.pcEx issue inside

theorem StagesHold.pcMem_of_succ (hold : run.StagesHold cycle) {issue : Nat}
    (inside : run.inMem (cycle + 1) = some issue) :
    (run.state (cycle + 1)).exMem.pcMem = (run.state issue).ifs.pcId := by
  rw [inMem_succ] at inside
  rw [pcMem_succ]
  split at inside
  · rename_i moves
    rw [if_pos (CoreState.validEx_of_readyEx (Bool.and_eq_true_iff.mp moves).1)]
    exact hold.pcEx issue inside
  · split at inside
    · cases inside
    · rename_i notReady
      have notValid : ¬ (run.state cycle).validEx (run.inputs cycle) = true := fun valid =>
        notReady (CoreState.readyMem_of_validEx valid)
      rw [if_neg notValid]
      exact hold.pcMem issue inside

theorem StagesHold.pcWb_of_succ (hold : run.StagesHold cycle) {issue : Nat}
    (inside : run.inWb (cycle + 1) = some issue) :
    (run.state (cycle + 1)).memWb.pcWb = (run.state issue).ifs.pcId := by
  rw [inWb_succ] at inside
  rw [pcWb_succ]
  split at inside
  · rename_i moves
    rw [if_pos (Bool.and_eq_true_iff.mp moves).1]
    exact hold.pcMem issue inside
  · split at inside
    · cases inside
    · rename_i notReady
      have notValid : ¬ run.validMem cycle = true := fun valid =>
        notReady (Bool.and_eq_true_iff.mp valid).1
      rw [if_neg notValid]
      exact hold.pcWb issue inside

theorem stagesHold (run : CoreRun) (cycle : Nat) : run.StagesHold cycle := by
  induction cycle with
  | zero =>
      exact ⟨fun _ => ⟨⟨rfl, rfl, rfl, rfl, rfl⟩, rfl⟩, fun _ => ⟨rfl, rfl⟩, fun _ => ⟨rfl, rfl⟩,
        fun _ inside => (by cases inside), fun _ inside => (by cases inside),
        fun _ inside => (by cases inside)⟩
  | succ cycle hold =>
      exact ⟨hold.ex_succ, hold.mem_succ, hold.wb_succ, fun _ => hold.pcEx_of_succ,
        fun _ => hold.pcMem_of_succ, fun _ => hold.pcWb_of_succ⟩

/-! ## The trace -/

variable (run) in
def iretireWb (cycle : Nat) : Bool := (run.state cycle).memWb.iretireWb

variable (run) in
/-- The instruction in WB is discarded there: it gets a bus error, or leaves in a flush. -/
def Discarded (issue cycle : Nat) : Prop :=
  run.inWb cycle = some issue ∧
    ((run.state cycle).isLsuLoadErr (run.inputs cycle) = true ∨
      (run.state cycle).isLsuStoreErr (run.inputs cycle) = true ∨
      (run.readyWb cycle = true ∧ run.flushE cycle = true))

variable (run) in
/-- The instruction leaves WB and was not discarded there. -/
structure Completes (issue cycle : Nat) : Prop where
  inside : run.inWb cycle = some issue
  leaves : run.readyWb cycle = true
  kept : ∀ other, ¬ run.Discarded issue other

variable (run) in
/-- The trace shows the instruction in WB, with its program counter. -/
structure Retires (issue cycle : Nat) : Prop where
  pulse : run.iretireWb cycle = true
  inside : run.inWb cycle = some issue
  pcWb : (run.state cycle).memWb.pcWb = (run.state issue).ifs.pcId

variable (run) in
/-- The trace shows each completed instruction once, nothing else, and in program order. -/
structure RetiresFaithfully : Prop where
  once : ∀ issue cycle, run.Completes issue cycle →
    ∃ retire, run.Retires issue retire ∧ ∀ other, run.Retires issue other → other = retire
  only : ∀ cycle, run.iretireWb cycle = true →
    ∃ issue, run.Retires issue cycle ∧ ∀ other, ¬ run.Discarded issue other
  inOrder : ∀ issue other cycle later, run.Retires issue cycle → run.Retires other later →
    cycle < later → issue < other

variable (run) in
/-- What leaves ID in the given cycle finds EX and then MEM ready at once, and no flush. -/
def Straight (cycle : Nat) : Prop :=
  run.readyEx (cycle + 1) = true ∧ run.flushE (cycle + 1) = false ∧
    run.validMem (cycle + 2) = true ∧ run.flushE (cycle + 2) = false

variable (run) in
def heldTrap (cycle : Nat) : Bool :=
  (run.state cycle).heldTrap run.params (run.inputs cycle)

variable (run) in
/-- Completed instructions wait neither in EX nor in MEM, an instruction held in ID with a trap
finds EX or MEM busy or a flush behind it, and an instruction that does not wait is not discarded
in WB. -/
structure RetiresAtOnce : Prop where
  completed : ∀ issue cycle, run.Completes issue cycle → run.Straight issue
  held : ∀ cycle, run.heldTrap cycle = true → ¬ run.Straight cycle
  kept : ∀ issue, run.issues issue = true → run.Straight issue →
    ∀ other, ¬ run.Discarded issue other

theorem iretireEx_succ (run : CoreRun) (cycle : Nat) :
    (run.state (cycle + 1)).idEx.iretireEx = (run.issues cycle || run.heldTrap cycle) :=
  CoreState.validId_noFlush run.params (run.state cycle) (run.inputs cycle)

/-- The flag in WB is the one set three cycles before. -/
theorem iretireWb_iff : run.iretireWb (cycle + 3) = true ↔
    (run.issues cycle = true ∨ run.heldTrap cycle = true) ∧ run.Straight cycle := by
  have inMem : (run.state (cycle + 2)).exMem.iretireMem =
      ((run.state (cycle + 1)).idEx.iretireEx && run.readyEx (cycle + 1) &&
        !run.flushE (cycle + 1)) := rfl
  have inWb : run.iretireWb (cycle + 3) =
      ((run.state (cycle + 2)).exMem.iretireMem && run.validMem (cycle + 2) &&
        !run.flushE (cycle + 2)) := rfl
  rw [inWb, inMem, iretireEx_succ]
  simp only [Straight, Bool.and_eq_true, Bool.or_eq_true, Bool.not_eq_true']
  constructor
  · rintro ⟨⟨⟨⟨source, readyEx⟩, noFlush⟩, validMem⟩, stillNone⟩
    exact ⟨source, readyEx, noFlush, validMem, stillNone⟩
  · rintro ⟨source, readyEx, noFlush, validMem, stillNone⟩
    exact ⟨⟨⟨⟨source, readyEx⟩, noFlush⟩, validMem⟩, stillNone⟩

theorem exists_source_of_iretireWb (pulse : run.iretireWb cycle = true) :
    ∃ source, cycle = source + 3 ∧
      (run.issues source = true ∨ run.heldTrap source = true) ∧ run.Straight source := by
  rcases cycle with zero | one | two | source
  · cases pulse
  · cases pulse
  · cases pulse
  · exact ⟨source, rfl, iretireWb_iff.mp pulse⟩

/-- Three cycles after an unhindered cycle WB holds what entered EX then. -/
theorem inWb_of_straight (straight : run.Straight cycle) :
    run.inWb (cycle + 3) = run.inEx (cycle + 1) := by
  obtain ⟨readyEx, noFlush, validMem, stillNone⟩ := straight
  rw [inWb_succ, validMem, stillNone, inMem_succ, readyEx, noFlush]
  rfl

theorem inEx_of_issues (issues : run.issues cycle = true) :
    run.inEx (cycle + 1) = some cycle := by
  rw [inEx_succ, issues, if_pos rfl]

/-- Behind a held instruction EX is empty. -/
theorem inEx_of_heldTrap (held : run.heldTrap cycle = true) : run.inEx (cycle + 1) = none := by
  simp only [heldTrap, CoreState.heldTrap, Bool.and_eq_true] at held
  obtain ⟨⟨valid, trap⟩, -⟩ := held
  have noIssue : run.issues cycle = false := by
    simp [CoreRun.issues, CoreState.issues, CoreState.readyId, trap]
  have ready : run.readyEx cycle = true := CoreState.readyEx_of_validId valid
  rw [inEx_succ, noIssue, ready, if_neg Bool.false_ne_true, if_pos rfl]

/-- The instruction that the trace shows has issued three cycles before and has not waited. -/
theorem Retires.straight {issue : Nat} (retires : run.Retires issue cycle) :
    cycle = issue + 3 ∧ run.issues issue = true ∧ run.Straight issue := by
  obtain ⟨source, rfl, origin, straight⟩ := exists_source_of_iretireWb retires.pulse
  have inside := retires.inside
  rw [inWb_of_straight straight] at inside
  rcases origin with issues | held
  · rw [inEx_of_issues issues] at inside
    obtain rfl := Option.some.inj inside
    exact ⟨rfl, issues, straight⟩
  · rw [inEx_of_heldTrap held] at inside
    cases inside

theorem retires_of_straight (issues : run.issues cycle = true) (straight : run.Straight cycle) :
    run.Retires cycle (cycle + 3) := by
  have inside : run.inWb (cycle + 3) = some cycle :=
    (inWb_of_straight straight).trans (inEx_of_issues issues)
  exact ⟨iretireWb_iff.mpr ⟨Or.inl issues, straight⟩, inside,
    (run.stagesHold (cycle + 3)).pcWb cycle inside⟩

/-- Only issued instructions are in the pipeline. -/
theorem issues_of_inWb {issue : Nat} (inside : run.inWb cycle = some issue) :
    run.issues issue = true := by
  have stages : (∀ issue, run.inEx cycle = some issue → run.issues issue = true) ∧
      (∀ issue, run.inMem cycle = some issue → run.issues issue = true) ∧
      ∀ issue, run.inWb cycle = some issue → run.issues issue = true := by
    clear inside
    induction cycle with
    | zero => exact ⟨fun _ none => (by cases none), fun _ none => (by cases none),
        fun _ none => (by cases none)⟩
    | succ cycle induction =>
        obtain ⟨ex, mem, wb⟩ := induction
        refine ⟨fun issue inside => ?_, fun issue inside => ?_, fun issue inside => ?_⟩
        · rw [inEx_succ] at inside
          split at inside
          · obtain rfl := Option.some.inj inside
            assumption
          · split at inside
            · cases inside
            · exact ex issue inside
        · rw [inMem_succ] at inside
          split at inside
          · exact ex issue inside
          · split at inside
            · cases inside
            · exact mem issue inside
        · rw [inWb_succ] at inside
          split at inside
          · exact mem issue inside
          · split at inside
            · cases inside
            · exact wb issue inside
  exact stages.2.2 issue inside

/-- The retire trace is faithful exactly in the runs in which what completes never waits, what
traps in ID does, and what does not wait completes. -/
theorem retiresFaithfully_iff_retiresAtOnce (run : CoreRun) :
    run.RetiresFaithfully ↔ run.RetiresAtOnce := by
  constructor
  · rintro ⟨once, only, -⟩
    refine ⟨fun issue cycle completes => ?_, fun cycle held straight => ?_,
      fun issue issues straight => ?_⟩
    · obtain ⟨retire, retires, -⟩ := once issue cycle completes
      exact retires.straight.2.2
    · obtain ⟨issue, retires, -⟩ := only (cycle + 3) (iretireWb_iff.mpr ⟨Or.inr held, straight⟩)
      have inside := retires.inside
      rw [inWb_of_straight straight, inEx_of_heldTrap held] at inside
      cases inside
    · have retires := retires_of_straight issues straight
      obtain ⟨other, otherRetires, kept⟩ := only (issue + 3) retires.pulse
      have same := otherRetires.inside
      rw [retires.inside] at same
      obtain rfl := Option.some.inj same
      exact kept
  · rintro ⟨completed, held, kept⟩
    refine ⟨fun issue cycle completes => ?_, fun cycle pulse => ?_,
      fun issue other cycle later retires otherRetires ordered => ?_⟩
    · have issues := issues_of_inWb completes.inside
      refine ⟨issue + 3, retires_of_straight issues (completed issue cycle completes), ?_⟩
      exact fun other retires => retires.straight.1
    · obtain ⟨source, rfl, origin, straight⟩ := exists_source_of_iretireWb pulse
      rcases origin with issues | isHeld
      · exact ⟨source, retires_of_straight issues straight, kept source issues straight⟩
      · exact absurd straight (held source isHeld)
    · have first := retires.straight.1
      have second := otherRetires.straight.1
      omega

/-- An environment call at the boot address. -/
def environmentCall : Surroundings where
  program := Surroundings.programOf [0x00000073#32]
  rest := 20

/-- The environment call itself appears in the trace, although nothing has issued. -/
theorem retiresFaithfully_fails : ¬ ∀ run : CoreRun, run.RetiresFaithfully := by
  intro faithful
  have pulse : environmentCall.coreRun.iretireWb 6 = true := by decide +kernel
  have nothing : environmentCall.coreRun.inWb 6 = none := by decide +kernel
  obtain ⟨issue, retires, -⟩ := (faithful environmentCall.coreRun).only 6 pulse
  have inside := retires.inside
  rw [nothing] at inside
  cases inside

end CoreRun

end RiscvCore
