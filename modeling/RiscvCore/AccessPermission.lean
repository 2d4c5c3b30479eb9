import RiscvCore.PmpPriority
import RiscvCore.PmpRegions
import RiscvCore.SplitFlush

/-!
# Permission of the data requests

The access check looks at the first word of a load or store, once, in EX.  The requests are made
later, from MEM, and the second one goes to the next word.  Every request is permitted as long as
the check of the first word speaks for all words of its access, and no flush cuts an access off
between the check and its last request.
-/

namespace RiscvCore

open SynchronousRun (collected)

namespace Pmp

instance (pmpcfg : Fin pmpEntry → BitVec 8) (pmpaddr : Fin pmpEntry → Word) (acsAddress : Word)
    (entry : Fin pmpEntry) : Decidable (InRegion pmpcfg pmpaddr acsAddress entry) :=
  inferInstanceAs (Decidable (ite _ _ _))

/-- The registers that decide on an access. -/
structure AccessRules where
  privilegeMode : Privilege
  pmpcfg : Fin pmpEntry → BitVec 8
  pmpaddr : Fin pmpEntry → Word

def AcsType.ofLsuOp : LsuOp → AcsType
  | .ld => .read
  | .wr => .write

namespace AccessRules

variable (rules : AccessRules)

/-- The entries with their specified regions. -/
def regionBits (acsAddress : Word) : EntryBits pmpEntry where
  entryMatch := fun entry => decide (InRegion rules.pmpcfg rules.pmpaddr acsAddress entry)
  pms := fun entry => pmpPms (rules.pmpcfg entry)
  lock := fun entry => pmpLock (rules.pmpcfg entry)

/-- The entries as the core wires them. -/
def wiredBits (acsAddress : Word) : EntryBits pmpEntry where
  entryMatch := wiredEntryMatch rules.pmpcfg rules.pmpaddr acsAddress
  pms := fun entry => pmpPms (rules.pmpcfg entry)
  lock := fun entry => pmpLock (rules.pmpcfg entry)

/-- The rules permit the word at this address. -/
def PermitsWord (acsType : AcsType) (acsAddress : Word) : Prop :=
  ¬ (rules.regionBits acsAddress).AccessFails acsType rules.privilegeMode

/-- The rules permit every word that the access asks for. -/
def Permits (access : Lsu.Access) : Prop :=
  ∀ request ∈ Lsu.requests access,
    rules.PermitsWord (AcsType.ofLsuOp access.lsuOp) request.dataAddr

/-- One of the last two entries as wired contains the first word of the access and forbids it,
or outside M mode no entry as wired contains it. -/
def DeniesFirstWord (access : Lsu.Access) : Prop :=
  (rules.wiredBits access.lsuAddr).LastTwoDeny (AcsType.ofLsuOp access.lsuOp)
      rules.privilegeMode ∨
    (rules.privilegeMode ≠ privLvlM ∧
      ∀ entry, wiredEntryMatch rules.pmpcfg rules.pmpaddr access.lsuAddr entry = false)

/-- An access of which the rules forbid a word is denied at its first word. -/
def CheckCovers (access : Lsu.Access) : Prop :=
  ¬ rules.Permits access → rules.DeniesFirstWord access

instance (acsType : AcsType) (acsAddress : Word) :
    Decidable (rules.PermitsWord acsType acsAddress) := inferInstanceAs (Decidable (¬ _))

instance (access : Lsu.Access) : Decidable (rules.Permits access) :=
  inferInstanceAs (Decidable (∀ request ∈ Lsu.requests access, _))

instance (access : Lsu.Access) : Decidable (rules.DeniesFirstWord access) :=
  inferInstanceAs (Decidable (_ ∨ _))

instance (access : Lsu.Access) : Decidable (rules.CheckCovers access) :=
  inferInstanceAs (Decidable (_ → _))

variable {rules}

theorem deniesFirstWord_iff {access : Lsu.Access} :
    rules.DeniesFirstWord access ↔
      ((rules.wiredBits access.lsuAddr).entries (AcsType.ofLsuOp access.lsuOp)).pmpErrO
        rules.privilegeMode true = true :=
  (pmpErrO_eq_true_iff _ _ _).symm

theorem wiredBits_of_agrees {acsAddress : Word}
    (wiring : ∀ entry, WiringAgrees rules.pmpcfg rules.pmpaddr acsAddress entry) :
    rules.wiredBits acsAddress = rules.regionBits acsAddress := by
  have sameMatch : (rules.wiredBits acsAddress).entryMatch =
      (rules.regionBits acsAddress).entryMatch := by
    funext entry
    rw [Bool.eq_iff_iff]
    exact (wiredEntryMatch_iff_inRegion_of_agrees (wiring entry)).trans decide_eq_true_iff.symm
  rw [wiredBits, regionBits]
  exact congrArg (EntryBits.mk · _ _) sameMatch

/-- The check covers an access at whose address the regions are wired correctly and the last two
entries decide as the first matching one does, unless only its next word is forbidden. -/
theorem checkCovers_of_agrees {access : Lsu.Access}
    (wiring : ∀ entry, WiringAgrees rules.pmpcfg rules.pmpaddr access.lsuAddr entry)
    (priority : (rules.regionBits access.lsuAddr).LastTwoDecideAsFirst
      (AcsType.ofLsuOp access.lsuOp) rules.privilegeMode)
    (next : rules.PermitsWord (AcsType.ofLsuOp access.lsuOp) access.lsuAddr →
      Lsu.reqUnalign access = true →
        rules.PermitsWord (AcsType.ofLsuOp access.lsuOp) (access.lsuAddr + 4#32)) :
    rules.CheckCovers access := by
  intro forbidden
  rw [deniesFirstWord_iff, wiredBits_of_agrees wiring,
    pmpErrO_iff_accessFails_of_lastTwo priority]
  refine Decidable.byContradiction fun permitted => forbidden ?_
  intro request asked
  rw [Lsu.requests_eq] at asked
  rcases List.mem_cons.mp asked with rfl | second
  · exact permitted
  · cases crosses : Lsu.reqUnalign access with
    | false => simp [crosses] at second
    | true =>
        rw [crosses, if_pos rfl, List.mem_singleton] at second
        rw [second]
        exact next permitted crosses

/-- A single region from address 0 that is open to every kind of access, as firmware sets it up
for user code: entry 0 in TOR mode, below 4 GiB, and all other entries off. -/
structure SingleRegion (rules : AccessRules) : Prop where
  isTor : addrMode (rules.pmpcfg (0 : Fin 16)) = pmpTor
  allowsAll : pmpPms (rules.pmpcfg (0 : Fin 16)) = 0b111#3
  bound : (rules.pmpaddr (0 : Fin 16)).toNat < 2 ^ 30
  othersOff : ∀ entry, entry ≠ (0 : Fin 16) → addrMode (rules.pmpcfg entry) = pmpOff

namespace SingleRegion

variable (single : rules.SingleRegion)

include single

theorem wiringAgrees (acsAddress : Word) (entry : Fin pmpEntry) :
    WiringAgrees rules.pmpcfg rules.pmpaddr acsAddress entry := by
  by_cases first : entry = (0 : Fin 16)
  · rw [first]
    exact (wiringAgrees_tor_zero_iff _ _ _ single.isTor).mpr (.inl single.bound)
  · rw [WiringAgrees, if_pos (single.othersOff entry first)]
    trivial

/-- An entry with a match is entry 0 and denies nothing. -/
theorem notDenies (acsAddress : Word) (acsType : AcsType) (entry : Fin pmpEntry) :
    ¬ (rules.regionBits acsAddress).Denies acsType rules.privilegeMode entry := by
  rintro ⟨isMatch, -, forbids⟩
  by_cases first : entry = (0 : Fin 16)
  · have allowed : pmpPms (rules.pmpcfg entry) = 0b111#3 := by rw [first, single.allowsAll]
    change acsType.permittedBy (pmpPms (rules.pmpcfg entry)) = false at forbids
    rw [allowed] at forbids
    cases acsType <;> cases forbids
  · have inRegion : InRegion rules.pmpcfg rules.pmpaddr acsAddress entry :=
      of_decide_eq_true isMatch
    rw [InRegion, if_pos (single.othersOff entry first)] at inRegion
    exact inRegion

theorem notLastTwoDeny (acsAddress : Word) (acsType : AcsType) :
    ¬ (rules.regionBits acsAddress).LastTwoDeny acsType rules.privilegeMode := by
  rintro (denies | denies)
  · exact single.notDenies acsAddress acsType _ denies
  · exact single.notDenies acsAddress acsType _ denies

theorem lastTwoDecideAsFirst (acsAddress : Word) (acsType : AcsType) :
    (rules.regionBits acsAddress).LastTwoDecideAsFirst acsType rules.privilegeMode := by
  intro first _
  simp only [single.notDenies acsAddress acsType first,
    single.notLastTwoDeny acsAddress acsType]

/-- Machine mode may access every word, user mode the words below the bound. -/
theorem permitsWord_iff (acsType : AcsType) (acsAddress : Word) :
    rules.PermitsWord acsType acsAddress ↔
      rules.privilegeMode = privLvlM ∨
        (acsWord acsAddress).toNat < (rules.pmpaddr (0 : Fin 16)).toNat := by
  have notOff : ¬ pmpTor = pmpOff := by decide
  have inside : InRegion rules.pmpcfg rules.pmpaddr acsAddress (0 : Fin 16) ↔
      (acsWord acsAddress).toNat < (rules.pmpaddr (0 : Fin 16)).toNat := by
    simp [InRegion, single.isTor, notOff]
  rw [PermitsWord, ← pmpErrO_iff_accessFails_of_lastTwo
    (single.lastTwoDecideAsFirst acsAddress acsType), pmpErrO_eq_true_iff]
  have someMatch : (∀ entry, (rules.regionBits acsAddress).entryMatch entry = false) ↔
      ¬ InRegion rules.pmpcfg rules.pmpaddr acsAddress (0 : Fin 16) := by
    constructor
    · exact fun none => of_decide_eq_false (none (0 : Fin 16))
    · intro outside entry
      refine decide_eq_false fun inRegion => ?_
      by_cases first : entry = (0 : Fin 16)
      · rw [first] at inRegion
        exact outside inRegion
      · rw [InRegion, if_pos (single.othersOff entry first)] at inRegion
        exact inRegion
  rw [someMatch, inside]
  simp only [single.notLastTwoDeny acsAddress acsType, false_or, not_and, Decidable.not_not]
  exact ⟨fun allowed => Decidable.or_iff_not_imp_left.mpr allowed,
    fun allowed => Decidable.or_iff_not_imp_left.mp allowed⟩

end SingleRegion

/-- Under a single open region the check covers every access but one that crosses its end. -/
theorem checkCovers_of_singleRegion {access : Lsu.Access} (single : rules.SingleRegion)
    (notAcross : Lsu.reqUnalign access = true →
      (acsWord access.lsuAddr).toNat + 1 ≠ (rules.pmpaddr (0 : Fin 16)).toNat) :
    rules.CheckCovers access := by
  refine checkCovers_of_agrees (single.wiringAgrees _) (single.lastTwoDecideAsFirst _ _) ?_
  intro permitted crosses
  rw [single.permitsWord_iff] at permitted ⊢
  rcases permitted with machine | below
  · exact .inl machine
  · have next : (acsWord (access.lsuAddr + 4#32)).toNat =
        ((acsWord access.lsuAddr).toNat + 1) % 2 ^ 30 := by
      simp only [acsWord, BitVec.extractLsb'_toNat, BitVec.toNat_add, Nat.shiftRight_eq_div_pow,
        BitVec.toNat_ofNat]
      omega
    have notLast := notAcross crosses
    have bound := single.bound
    right
    omega

end AccessRules

end Pmp

open Pmp (AccessRules AcsType)

/-- The registers that decide on an access, as they are in `csr`. -/
def Csr.accessRules (csr : Csr) : AccessRules where
  privilegeMode := csr.privilegeModeQ
  pmpcfg := csr.pmpcfgQ
  pmpaddr := csr.pmpaddrQ

namespace CoreState

variable {params : Params} {st : CoreState} {port : CoreInput} {access : Lsu.Access}

theorem accessInEx_eq_singleton_iff :
    st.accessInEx = [access] ↔ st.idEx.lsuEnEx = true ∧ accessEx st.idEx = access := by
  cases enable : st.idEx.lsuEnEx <;> simp [accessInEx, enable]

theorem acsType_eq (ex : IdEx) :
    ExStage.acsType ex = (AcsType.ofLsuOp ex.lsuOpEx).toBits := by
  rw [ExStage.acsType]
  cases ex.lsuOpEx <;> rfl

theorem pmpErr_iff (inEx : st.accessInEx = [access]) :
    st.pmpErr = true ↔ st.csr.accessRules.DeniesFirstWord access := by
  obtain ⟨enable, rfl⟩ := accessInEx_eq_singleton_iff.mp inEx
  rw [AccessRules.deniesFirstWord_iff, pmpErr, ExStage.pmpErr, acsType_eq, enable]
  exact Iff.rfl

/-- With a load or store in EX only the check can hold it there once MEM is ready. -/
theorem readyEx_of_access (owned : st.DividerOwned) (oneUnit : st.ExOneUnit)
    (accessOnly : st.ExAccessOnly) (inEx : st.accessInEx = [access])
    (awake : st.stall = false) :
    st.validEx port = st.readyMem port ∧
      st.readyEx params port = (st.readyMem port && !st.pmpErr) := by
  have enable := (accessInEx_eq_singleton_iff.mp inEx).1
  have noDivision : ExStage.divEn st.idEx = false := (accessOnly enable).2
  have dividerIdle : st.div.fsmCs = .idle := by
    refine Decidable.byContradiction fun works => ?_
    rw [owned works] at noDivision
    cases noDivision
  have readyDiv : st.readyDiv = true := by simp [readyDiv, Div.ready, dividerIdle, noDivision]
  have noIllegal := illegalCsr_of_noAccess (oneUnit.csrEnEx_of_access enable)
  have exception : st.excEx params = st.pmpErr := by
    rw [excEx, noIllegal, Bool.false_or, ite_self]
  have valid : st.validEx port = st.readyMem port := by
    rw [validEx, awake, readyDiv, Bool.not_false, Bool.true_and, Bool.and_true]
  exact ⟨valid, by rw [readyEx_eq, valid, exception]⟩

theorem accessInEx_step_of_notReady (held : st.readyEx params port = false) :
    (st.step params port).accessInEx = st.accessInEx ∧ st.issuedAccess params port = none := by
  have notReadyId : st.readyId params port = false := by simp [readyId, held]
  have noIssue : st.issuedAccess params port = none := by
    rw [issuedAccess, issues, notReadyId, Bool.and_false, Bool.false_and, Bool.false_and]
    rfl
  have moves := @accessInEx_step params st port
  rw [noIssue, enteringAccess, held] at moves
  exact ⟨by simpa using moves.symm, noIssue⟩

theorem accessInEx_step_of_readyEx (ready : st.readyEx params port = true) :
    (st.step params port).accessInEx = (st.issuedAccess params port).toList := by
  have moves := @accessInEx_step params st port
  have leaves : (st.enteringAccess params port).toList = st.accessInEx := by
    rw [enteringAccess, ready, Bool.true_and, accessInEx]
    cases st.idEx.lsuEnEx <;> rfl
  rw [leaves] at moves
  exact (List.append_cancel_left moves).symm

/-- While an access is held in EX and no trap is taken, the rules for it stay. -/
theorem accessRules_step_of_held (oneUnit : st.ExOneUnit) (inEx : st.accessInEx = [access])
    (idle : st.fsm = .idle) (noTrap : st.excTaken port = false)
    (held : st.readyEx params port = false) :
    (st.step params port).csr.accessRules = st.csr.accessRules := by
  have enable := (accessInEx_eq_singleton_iff.mp inEx).1
  obtain ⟨pmpcfg, pmpaddr⟩ :=
    pmpRegisters_step_of_noCsr params port (oneUnit.csrEnEx_of_access enable)
  rw [Csr.accessRules, privilegeModeQ_step_of_held idle noTrap held, pmpcfg, pmpaddr]
  rfl

/-- In M mode they stay through a trap as well. -/
theorem accessRules_step_of_machine (oneUnit : st.ExOneUnit) (inEx : st.accessInEx = [access])
    (machine : st.csr.privilegeModeQ = privLvlM) (held : st.readyEx params port = false) :
    (st.step params port).csr.accessRules = st.csr.accessRules := by
  have enable := (accessInEx_eq_singleton_iff.mp inEx).1
  obtain ⟨pmpcfg, pmpaddr⟩ :=
    pmpRegisters_step_of_noCsr params port (oneUnit.csrEnEx_of_access enable)
  have noMret : st.isMret params port = false := by simp [isMret, idSignal, held]
  have privilege : (st.step params port).csr.privilegeModeQ = st.csr.privilegeModeQ := by
    simp [step, Csr.next, Csr.privilegeModeN, csrInput, noMret, machine]
  rw [Csr.accessRules, privilege, pmpcfg, pmpaddr]
  rfl

end CoreState

namespace CoreRun

open CoreState (accessInEx_eq_singleton_iff accessInMem_eq_singleton_iff)

variable (run : CoreRun)

/-- The rules for accesses in the given cycle. -/
def accessRules (cycle : Nat) : AccessRules := (run.state cycle).csr.accessRules

def accessInEx (cycle : Nat) : List Lsu.Access := (run.state cycle).accessInEx

def accessInMem (cycle : Nat) : List Lsu.Access := (run.state cycle).accessInMem

/-! ## From issue to request -/

/-- The access that issued in one cycle has been held in EX, up to another, under the rules of
its first cycle there. -/
structure HeldInEx (access : Lsu.Access) (issue cycle : Nat) : Prop where
  issued : run.issuedAccess issue = some access
  after : issue < cycle
  inEx : ∀ between, issue < between → between ≤ cycle → run.accessInEx between = [access]
  held : ∀ between, issue < between → between < cycle → run.readyEx between = false
  sameRules : run.accessRules cycle = run.accessRules (issue + 1)

/-- It has then left EX and stayed in MEM up to a third cycle. -/
structure PassedCheck (access : Lsu.Access) (issue leaves cycle : Nat) : Prop where
  heldInEx : run.HeldInEx access issue leaves
  ready : run.readyEx leaves = true
  inMem : ∀ between, leaves < between → between ≤ cycle → run.accessInMem between = [access]
  permitted : (run.accessRules (issue + 1)).Permits access

/-- Of the loads and stores in EX, the check covers those that are neither flushed nor asleep; a
flush drops the one it finds there, unless it is denied in M mode or WB waits for ever, and does
not cut a split access into halves. -/
structure ChecksHold : Prop where
  covers : ∀ cycle access, (run.state cycle).fsm = .idle → run.accessInEx cycle = [access] →
    (run.accessRules cycle).CheckCovers access
  dropped : ∀ cycle access, (run.state cycle).fsm = .excFlush →
    run.accessInEx cycle = [access] →
      run.Frozen cycle ∨
        ((run.state cycle).readyWb (run.inputs cycle) = true ∧
          ((run.accessRules cycle).DeniesFirstWord access →
            (run.accessRules cycle).privilegeMode = privLvlM))
  whole : ∀ cycle, (run.state cycle).fsm = .excFlush → (run.state cycle).lsu.unalignQ = true →
    (run.state cycle).readyWb (run.inputs cycle) = false

/-- Where the access in EX may be. -/
def ExAccounted (cycle : Nat) : Prop :=
  ∀ access, run.accessInEx cycle = [access] →
    (run.state cycle).fsm = .excFlush ∨
      (∃ issue, run.HeldInEx access issue cycle) ∨
        ((run.accessRules cycle).DeniesFirstWord access ∧
          (run.accessRules cycle).privilegeMode = privLvlM) ∨
          run.Frozen cycle

def MemAccounted (cycle : Nat) : Prop :=
  ∀ access, run.accessInMem cycle = [access] →
    ∃ issue leaves, leaves < cycle ∧ run.PassedCheck access issue leaves cycle

variable {run}

theorem denied_iff {cycle : Nat} {access : Lsu.Access}
    (inEx : run.accessInEx cycle = [access]) :
    (run.state cycle).pmpErr = true ↔ (run.accessRules cycle).DeniesFirstWord access :=
  CoreState.pmpErr_iff inEx

/-- An access in EX leaves it when MEM is ready, unless it is denied. -/
theorem readyEx_eq {cycle : Nat} {access : Lsu.Access} (inEx : run.accessInEx cycle = [access]) :
    (run.state cycle).validEx (run.inputs cycle) = run.readyMem cycle ∧
      run.readyEx cycle = (run.readyMem cycle && !(run.state cycle).pmpErr) := by
  have enable := (accessInEx_eq_singleton_iff.mp inEx).1
  have awake : (run.state cycle).stall = false := by
    cases fsm : (run.state cycle).fsm with
    | sleep =>
        rw [(run.noAccessAsleep cycle (.inl fsm)).1] at enable
        cases enable
    | idle => simp [CoreState.stall, Controller.stall, fsm]
    | excFlush => simp [CoreState.stall, Controller.stall, fsm]
    | wakeup => simp [CoreState.stall, Controller.stall, fsm]
  exact CoreState.readyEx_of_access (run.dividerOwned cycle) (run.exOneUnit cycle)
    (run.exAccessOnly cycle) inEx awake

theorem idle_of_access {cycle : Nat} {access : Lsu.Access}
    (inEx : run.accessInEx cycle = [access]) (noFlush : (run.state cycle).fsm ≠ .excFlush) :
    (run.state cycle).fsm = .idle := by
  have enable := (accessInEx_eq_singleton_iff.mp inEx).1
  cases fsm : (run.state cycle).fsm with
  | idle => rfl
  | excFlush => exact absurd fsm noFlush
  | sleep =>
      rw [(run.noAccessAsleep cycle (.inl fsm)).1] at enable
      cases enable
  | wakeup =>
      rw [(run.noAccessAsleep cycle (.inr fsm)).1] at enable
      cases enable

theorem HeldInEx.succ {access : Lsu.Access} {issue cycle : Nat}
    (inEx : run.HeldInEx access issue cycle) (held : run.readyEx cycle = false)
    (next : run.accessInEx (cycle + 1) = [access])
    (sameRules : run.accessRules (cycle + 1) = run.accessRules cycle) :
    run.HeldInEx access issue (cycle + 1) where
  issued := inEx.issued
  after := Nat.lt_succ_of_lt inEx.after
  inEx := by
    intro between lower upper
    rcases Nat.lt_or_eq_of_le upper with below | rfl
    · exact inEx.inEx between lower (Nat.le_of_lt_succ below)
    · exact next
  held := by
    intro between lower upper
    rcases Nat.lt_or_eq_of_le (Nat.le_of_lt_succ upper) with below | rfl
    · exact inEx.held between lower below
    · exact held
  sameRules := sameRules.trans inEx.sameRules

theorem exAccounted_succ (grants : run.GrantsRequests) (hold : run.ChecksHold) {cycle : Nat}
    (before : run.ExAccounted cycle) : run.ExAccounted (cycle + 1) := by
  intro access next
  cases ready : run.readyEx cycle with
  | true =>
      have issued : (run.issuedAccess cycle).toList = [access] :=
        (CoreState.accessInEx_step_of_readyEx ready).symm.trans next
      refine .inr (.inl ⟨cycle, Option.toList_eq_singleton_iff.mp issued, Nat.lt_succ_self _,
        fun between lower upper => ?_, fun between lower upper => by omega, rfl⟩)
      obtain rfl : between = cycle + 1 := by omega
      exact next
  | false =>
      have inEx : run.accessInEx cycle = [access] :=
        (CoreState.accessInEx_step_of_notReady ready).1.symm.trans next
      -- An access denied in M mode is denied for ever.
      have staysDenied (denied : (run.accessRules cycle).DeniesFirstWord access)
          (machine : (run.accessRules cycle).privilegeMode = privLvlM) :
          (run.accessRules (cycle + 1)).DeniesFirstWord access ∧
            (run.accessRules (cycle + 1)).privilegeMode = privLvlM := by
        have sameRules : run.accessRules (cycle + 1) = run.accessRules cycle :=
          CoreState.accessRules_step_of_machine (run.exOneUnit cycle) inEx machine ready
        rw [sameRules]
        exact ⟨denied, machine⟩
      by_cases flush : (run.state cycle).fsm = .excFlush
      · refine .inr (.inr ?_)
        rcases hold.dropped cycle access flush inEx with frozen | ⟨readyWb, machineDenied⟩
        · exact .inr (frozen_succ grants frozen)
        · have readyMem : run.readyMem cycle = true :=
            (CoreState.readyMem_of_flushing flush).trans readyWb
          have denied : (run.state cycle).pmpErr = true := by
            rw [(readyEx_eq inEx).2, readyMem, Bool.true_and, Bool.not_eq_false'] at ready
            exact ready
          have denies := (denied_iff inEx).mp denied
          exact .inl (staysDenied denies (machineDenied denies))
      · have idle := idle_of_access inEx flush
        rcases before access inEx with flushing | ⟨issue, heldInEx⟩ | ⟨denied, machine⟩ | frozen
        · exact absurd flushing flush
        · cases trap : (run.state cycle).excTaken (run.inputs cycle) with
          | true =>
              refine .inl ?_
              rw [run.state_succ, CoreState.fsm_step_idle idle, if_pos trap]
          | false =>
              exact .inr (.inl ⟨issue, heldInEx.succ ready next
                (CoreState.accessRules_step_of_held (run.exOneUnit cycle) inEx idle trap ready)⟩)
        · exact .inr (.inr (.inl (staysDenied denied machine)))
        · exact .inr (.inr (.inr (frozen_succ grants frozen)))

theorem memAccounted_succ (hold : run.ChecksHold) {cycle : Nat}
    (ex : run.ExAccounted cycle) (before : run.MemAccounted cycle) :
    run.MemAccounted (cycle + 1) := by
  intro access next
  cases ready : run.readyMem cycle with
  | false =>
      have inMem : run.accessInMem cycle = [access] :=
        (CoreState.accessInMem_step_of_waits run.params ready).symm.trans next
      obtain ⟨issue, leaves, isBefore, passed⟩ := before access inMem
      refine ⟨issue, leaves, Nat.lt_succ_of_lt isBefore, passed.heldInEx, passed.ready, ?_,
        passed.permitted⟩
      intro between lower upper
      rcases Nat.lt_or_eq_of_le upper with below | rfl
      · exact passed.inMem between lower (Nat.le_of_lt_succ below)
      · exact next
  | true =>
      -- What enters MEM leaves EX unflushed.
      have enters : (run.state (cycle + 1)).exMem.lsuEnMem = true :=
        (accessInMem_eq_singleton_iff.mp next).1
      rw [run.state_succ, CoreState.lsuEnMem_step] at enters
      have isReady : (run.state cycle).readyMem (run.inputs cycle) = true := ready
      simp only [isReady, if_true, Bool.and_eq_true, Bool.not_eq_true'] at enters
      obtain ⟨⟨readyEx, noFlush⟩, enable⟩ := enters
      have notFlushing : (run.state cycle).fsm ≠ .excFlush := fun flush => by
        rw [CoreState.flushE_of_flushing flush] at noFlush
        cases noFlush
      have inEx : run.accessInEx cycle = [CoreState.accessEx (run.state cycle).idEx] :=
        accessInEx_eq_singleton_iff.mpr ⟨enable, rfl⟩
      have idle := idle_of_access inEx notFlushing
      have entering : ((run.enteringAccess cycle).toList) = [access] :=
        (CoreState.accessInMem_step_of_readyMem idle isReady).symm.trans next
      rw [enteringAccess, CoreState.enteringAccess, readyEx, enable] at entering
      obtain rfl : CoreState.accessEx (run.state cycle).idEx = access := by
        simpa using entering
      have allowed : ¬ (run.accessRules cycle).DeniesFirstWord _ := fun denies => by
        rw [CoreState.readyEx_eq, CoreState.excEx_of_pmpErr ((denied_iff inEx).mpr denies),
          Bool.not_true, Bool.and_false] at readyEx
        cases readyEx
      have permitted : (run.accessRules cycle).Permits _ :=
        Decidable.byContradiction fun forbidden => allowed (hold.covers cycle _ idle inEx forbidden)
      rcases ex _ inEx with flushing | ⟨issue, heldInEx⟩ | ⟨denied, -⟩ | frozen
      · exact absurd flushing notFlushing
      · rw [heldInEx.sameRules] at permitted
        refine ⟨issue, cycle, Nat.lt_succ_self _, heldInEx, readyEx, ?_, permitted⟩
        intro between lower upper
        obtain rfl : between = cycle + 1 := by omega
        exact next
      · exact absurd denied allowed
      · have readyWb := CoreState.readyWb_of_readyMem isReady
        rw [frozen.readyWb] at readyWb
        cases readyWb

/-- Every access in EX and in MEM is accounted for. -/
theorem accounted (grants : run.GrantsRequests) (hold : run.ChecksHold) (cycle : Nat) :
    run.ExAccounted cycle ∧ run.MemAccounted cycle := by
  induction cycle with
  | zero =>
      constructor
      · intro access inEx
        cases inEx
      · intro access inMem
        cases inMem
  | succ cycle induction =>
      obtain ⟨ex, mem⟩ := induction
      exact ⟨exAccounted_succ grants hold ex, memAccounted_succ hold ex mem⟩

/-- MEM has not given up half of an access. -/
theorem splitOwned_of_checksHold (grants : run.GrantsRequests) (hold : run.ChecksHold)
    (cycle : Nat) : (run.state cycle).SplitOwned := by
  apply splitOwned_of_flushWaits grants
  intro earlier _ flush split
  rw [CoreState.flushE_eq, beq_iff_eq] at flush
  rw [CoreState.readyMem_of_flushing flush, hold.whole earlier flush split]

variable (run)

/-- Up to the next trap the access stays in EX, and as soon as MEM has handed on twice its own
trap is recorded. -/
structure TrapsInstead (access : Lsu.Access) (cycle : Nat) : Prop where
  held : ∀ later, cycle ≤ later →
    (∀ between, cycle ≤ between → between < later → run.excTaken between = false) →
      run.accessInEx later = [access] ∧ run.readyEx later = false
  recorded : ∀ first second, cycle ≤ first → first < second → run.readyMem first = true →
    run.readyMem second = true →
      (∀ between, cycle ≤ between → between ≤ second → run.excTaken between = false) →
        run.excTaken (second + 1) = true ∧
          (run.state (second + 1)).mcauseUpdate run.params (run.inputs (second + 1)) = true

/-- The access is forbidden and the controller is idle. -/
structure Forbidden (access : Lsu.Access) (cycle : Nat) : Prop where
  idle : (run.state cycle).fsm = .idle
  inEx : run.accessInEx cycle = [access]
  forbidden : ¬ (run.accessRules cycle).Permits access

variable {run} {access : Lsu.Access} {cycle : Nat}

theorem Forbidden.denied (forbidden : run.Forbidden access cycle) (hold : run.ChecksHold) :
    (run.state cycle).pmpErr = true :=
  (denied_iff forbidden.inEx).mpr
    (hold.covers cycle access forbidden.idle forbidden.inEx forbidden.forbidden)

theorem Forbidden.held (forbidden : run.Forbidden access cycle) (hold : run.ChecksHold) :
    run.readyEx cycle = false := by
  rw [(readyEx_eq forbidden.inEx).2, forbidden.denied hold, Bool.not_true, Bool.and_false]

theorem Forbidden.succ (forbidden : run.Forbidden access cycle) (hold : run.ChecksHold)
    (noTrap : run.excTaken cycle = false) : run.Forbidden access (cycle + 1) where
  idle := by
    have trap : (run.state cycle).excTaken (run.inputs cycle) = false := noTrap
    rw [run.state_succ, CoreState.fsm_step_idle forbidden.idle, trap]
    rfl
  inEx :=
    (CoreState.accessInEx_step_of_notReady (forbidden.held hold)).1.trans forbidden.inEx
  forbidden := by
    have sameRules : run.accessRules (cycle + 1) = run.accessRules cycle :=
      CoreState.accessRules_step_of_held (run.exOneUnit cycle) forbidden.inEx forbidden.idle
        noTrap (forbidden.held hold)
    rw [sameRules]
    exact forbidden.forbidden

/-- It stays so up to the next trap. -/
theorem Forbidden.later (forbidden : run.Forbidden access cycle) (hold : run.ChecksHold)
    {later : Nat} (after : cycle ≤ later)
    (noTrap : ∀ between, cycle ≤ between → between < later → run.excTaken between = false) :
    run.Forbidden access later := by
  induction later with
  | zero =>
      obtain rfl : cycle = 0 := by omega
      exact forbidden
  | succ later induction =>
      rcases Nat.lt_or_eq_of_le after with below | rfl
      · have earlier := Nat.le_of_lt_succ below
        exact (induction earlier fun between lower upper => noTrap between lower (by omega)).succ
          hold (noTrap later earlier (Nat.lt_succ_self _))
      · exact forbidden

/-- Its marker in MEM, with nothing else. -/
def MarkerOnly (run : CoreRun) (cycle : Nat) : Prop :=
  (run.state cycle).exMem.excTakenMem = true ∧ (run.state cycle).exMem.lsuEnMem = false

theorem Forbidden.markerOnly_succ (forbidden : run.Forbidden access cycle)
    (hold : run.ChecksHold) (marked : run.readyMem cycle = true ∨ run.MarkerOnly cycle) :
    run.MarkerOnly (cycle + 1) := by
  have held : (run.state cycle).readyEx run.params (run.inputs cycle) = false :=
    forbidden.held hold
  have noFlush := CoreState.flushE_of_idle forbidden.idle
  rw [MarkerOnly, run.state_succ, CoreState.excTakenMem_step, CoreState.lsuEnMem_step]
  cases ready : (run.state cycle).readyMem (run.inputs cycle) with
  | true =>
      have valid : (run.state cycle).validEx (run.inputs cycle) = true :=
        (readyEx_eq forbidden.inEx).1.trans ready
      simp [valid, held, noFlush, CoreState.excEx_of_pmpErr (forbidden.denied hold)]
  | false =>
      rcases marked with isReady | marker
      · rw [readyMem, ready] at isReady
        cases isReady
      · exact marker

theorem Forbidden.markerOnly (forbidden : run.Forbidden access cycle) (hold : run.ChecksHold)
    (ready : run.readyMem cycle = true) {later : Nat} (after : cycle < later)
    (noTrap : ∀ between, cycle ≤ between → between < later → run.excTaken between = false) :
    run.MarkerOnly later := by
  induction later with
  | zero => exact absurd after (Nat.not_lt_zero _)
  | succ later induction =>
      have stays := forbidden.later hold (Nat.le_of_lt_succ after)
        fun between lower upper => noTrap between lower (by omega)
      rcases Nat.lt_or_eq_of_le (Nat.le_of_lt_succ after) with below | rfl
      · exact stays.markerOnly_succ hold
          (.inr (induction below fun between lower upper => noTrap between lower (by omega)))
      · exact stays.markerOnly_succ hold (.inl ready)

/-- With its marker in WB the trap is recorded. -/
theorem Forbidden.recorded (forbidden : run.Forbidden access cycle) (hold : run.ChecksHold)
    (marker : run.MarkerOnly cycle) (inWb : (run.state cycle).memWb.excTakenWb = true)
    (noAccess : (run.state cycle).memWb.lsuEnWb = false) :
    run.excTaken cycle = true ∧
      (run.state cycle).mcauseUpdate run.params (run.inputs cycle) = true := by
  have trap : run.excTaken cycle = true := by simp [excTaken, CoreState.excTaken, inWb]
  have ready : (run.state cycle).readyMem (run.inputs cycle) = true :=
    CoreState.readyMem_of_noAccess (CoreState.readyWb_of_noAccess noAccess) marker.2
  have enable := (accessInEx_eq_singleton_iff.mp forbidden.inEx).1
  have denial : (run.state cycle).isPmpStoreErr (run.inputs cycle) = true := by
    simp [CoreState.isPmpStoreErr, ExStage.isPmpStoreErr, forbidden.denied hold, ready, enable,
      LsuOp.toBool]
  exact ⟨trap, Controller.mcauseUpdate_iff.mpr (.inl ⟨trap, .inr (.inl denial)⟩)⟩

theorem Forbidden.trapsInstead (forbidden : run.Forbidden access cycle)
    (hold : run.ChecksHold) : run.TrapsInstead access cycle where
  held := by
    intro later after noTrap
    have stays := forbidden.later hold after noTrap
    exact ⟨stays.inEx, stays.held hold⟩
  recorded := by
    intro first second afterCycle afterFirst readyFirst readySecond noTrap
    have atFirst := forbidden.later hold afterCycle
      fun between lower upper => noTrap between lower (by omega)
    have marker := atFirst.markerOnly hold readyFirst afterFirst
      fun between lower upper => noTrap between (by omega) (by omega)
    have atSecond := forbidden.later hold (Nat.le_trans afterCycle (Nat.le_of_lt afterFirst))
      fun between lower upper => noTrap between lower (by omega)
    have next := atSecond.succ hold (noTrap second (by omega) (Nat.le_refl _))
    have readyMem : (run.state second).readyMem (run.inputs second) = true := readySecond
    have readyWb := CoreState.readyWb_of_readyMem readyMem
    have noFlush := CoreState.flushE_of_idle atSecond.idle
    refine next.recorded hold (atSecond.markerOnly_succ hold (.inl readySecond)) ?_ ?_
    · rw [run.state_succ, CoreState.excTakenWb_step, readyWb, readyMem, noFlush, marker.1]
      rfl
    · rw [run.state_succ, CoreState.lsuEnWb_step, readyWb, marker.2, Bool.and_false]
      rfl

/-- Every request is one of an access that passed the check and of which the rules permit every
word; an access of which they forbid a word traps and asks for nothing. -/
structure AccessesPermitted (run : CoreRun) : Prop where
  requested : ∀ cycle, (run.dataBus cycle).req = true →
    ∃ access issue leaves, leaves < cycle ∧ run.PassedCheck access issue leaves cycle ∧
      run.dataRequest cycle ∈ Lsu.requests access
  trapsInstead : ∀ cycle access, run.Forbidden access cycle → run.TrapsInstead access cycle

theorem accessesPermitted_of_checksHold (run : CoreRun) (grants : run.GrantsRequests)
    (hold : run.ChecksHold) : run.AccessesPermitted where
  requested := by
    intro cycle requested
    have mem := (accounted grants hold cycle).2
    have owned := splitOwned_of_checksHold grants hold cycle
    have enable := (CoreState.access_of_dataReq requested).1
    obtain ⟨issue, leaves, isBefore, passed⟩ :=
      mem _ (accessInMem_eq_singleton_iff.mpr ⟨enable, rfl⟩)
    refine ⟨_, issue, leaves, isBefore, passed, ?_⟩
    rw [dataRequest, CoreState.dataRequest_eq, Lsu.requests_eq]
    cases split : (run.state cycle).lsu.unalignQ with
    | false => exact List.mem_cons_self
    | true =>
        rw [(owned split).2]
        exact List.mem_cons_of_mem _ List.mem_cons_self
  trapsInstead := fun _ _ forbidden => forbidden.trapsInstead hold

end CoreRun

/-! ## The end of a region -/

namespace Surroundings

/-- A user load of two words inside the region. -/
def loadInside : Surroundings where
  program := programOf (enterUser ++ [0x07602083#32]) -- lw x1, 118(x0)
  rest := 16

/-- A user load whose second word is the first one beyond the region. -/
def loadAcross : Surroundings where
  program := programOf (enterUser ++ [0x07A02083#32]) -- lw x1, 122(x0)

end Surroundings

namespace CoreRun

open CoreState (accessInEx_eq_singleton_iff)
open Surroundings (loadInside loadAcross)

theorem accessesPermitted_loadInside : loadInside.coreRun.AccessesPermitted := by
  refine accessesPermitted_of_checksHold _ loadInside.wellConnected.data.requested
    { covers := ?_, dropped := ?_, whole := ?_ }
  · intro cycle access idle inEx
    obtain ⟨enable, rfl⟩ := accessInEx_eq_singleton_iff.mp inEx
    exact loadInside.forall_cycle_of_settled 22 (by decide) (fun _ _ => rfl) (by decide +kernel)
      (fun st _ => st.idEx.lsuEnEx = true →
        st.csr.accessRules.CheckCovers (CoreState.accessEx st.idEx))
      (by decide +kernel) cycle enable
  · intro cycle access flush inEx
    have noAccess := loadInside.forall_cycle_of_settled 22 (by decide) (fun _ _ => rfl)
      (by decide +kernel) (fun st _ => st.fsm = .excFlush → st.idEx.lsuEnEx = false)
      (by decide +kernel) cycle flush
    rw [(accessInEx_eq_singleton_iff.mp inEx).1] at noAccess
    cases noAccess
  · intro cycle flush split
    have whole := loadInside.forall_cycle_of_settled 22 (by decide) (fun _ _ => rfl)
      (by decide +kernel) (fun st _ => st.fsm = .excFlush → st.lsu.unalignQ = false)
      (by decide +kernel) cycle flush
    rw [split] at whole
    cases whole

/-- The request for the second word goes out in cycle 15. -/
theorem accessesPermitted_fails :
    ¬ ∀ (run : CoreRun) (program : Word → Word × Bool), run.params = defaultParams →
      run.WellConnected program → run.AccessesPermitted := by
  intro permits
  have permitted := permits loadAcross.coreRun _ rfl loadAcross.wellConnected
  have requested : (loadAcross.coreRun.dataBus 15).req = true := by
    simp only [CoreRun.dataBus, Surroundings.state_coreRun]
    decide +kernel
  obtain ⟨access, issue, leaves, isBefore, passed, -⟩ := permitted.requested 15 requested
  have after := passed.heldInEx.after
  have inEx := passed.heldInEx.inEx (issue + 1) (Nat.lt_succ_self _) after
  obtain ⟨enable, rfl⟩ := accessInEx_eq_singleton_iff.mp inEx
  have forbidden : ∀ cycle, cycle < 15 → (loadAcross.system cycle).core.idEx.lsuEnEx = true →
      ¬ (loadAcross.system cycle).core.csr.accessRules.Permits
        (CoreState.accessEx (loadAcross.system cycle).core.idEx) := by
    decide +kernel
  have words := passed.permitted
  rw [accessRules, Surroundings.state_coreRun] at words
  rw [Surroundings.state_coreRun] at enable
  exact forbidden (issue + 1) (by omega) enable words

end CoreRun

end RiscvCore
