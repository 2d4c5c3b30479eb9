import RiscvCore.DirectMemory

/-!
# The lock bits of the PMP registers

An entry with its lock bit set keeps its configuration and its address for ever.  The lock of the
address below a locked TOR entry is computed from a comparison of the whole array of modes with
one mode, which holds only if entry 0 is in TOR mode and all others are off: it protects no
address below a TOR entry, and in that one configuration it protects addresses that no TOR entry
uses.
-/

namespace RiscvCore

namespace Csr

variable (csr : Csr) (access : Access) (entry : Fin pmpEntry)

/-- The `A` field of an entry is TOR. -/
def inTorMode : Bool := (csr.pmpcfgQ entry).extractLsb' 3 2 == pmpTor

/-- The entry above is a locked TOR entry. -/
def BelowLockedTor : Prop :=
  ∃ above, above.val = entry.val + 1 ∧ csr.pmpLock above = true ∧ csr.inTorMode above = true

/-- The entry above is locked. -/
def BelowLocked : Prop := ∃ above, above.val = entry.val + 1 ∧ csr.pmpLock above = true

instance : Decidable (csr.BelowLockedTor entry) := inferInstanceAs (Decidable (∃ _, _))

instance : Decidable (csr.BelowLocked entry) := inferInstanceAs (Decidable (∃ _, _))

/-- What the CSR instruction in EX makes of `pmpaddr[n]`. -/
def pmpaddrWritten : Word := applyOp access.csrOp (csr.pmpaddrQ entry) access.csrWdata

variable {csr access entry}

theorem pmpcfgN_of_locked (locked : csr.pmpLock entry = true) :
    csr.pmpcfgN access entry = csr.pmpcfgQ entry := by
  simp [pmpcfgN, locked]

theorem pmpaddrN_of_locked (locked : csr.pmpLock entry = true) :
    csr.pmpaddrN access entry = csr.pmpaddrQ entry := by
  have isLocked : csr.lock entry = true := by
    rw [lock]
    split <;> simp [locked]
  simp [pmpaddrN, isLocked]

theorem pmpaddrN_of_notLocked (notLocked : csr.lock entry = false)
    (enabled : csr.pmpaddrEnteryEn access entry = true) :
    csr.pmpaddrN access entry = csr.pmpaddrWritten access entry := by
  simp [pmpaddrN, notLocked, enabled, pmpaddrWritten]

/-- The computed lock of an entry whose own lock bit is clear. -/
theorem lock_iff_of_unlocked (unlocked : csr.pmpLock entry = false) :
    csr.lock entry = true ↔ csr.BelowLocked entry ∧ csr.pmpModeArrayIsTor = true := by
  rw [lock]
  by_cases inside : entry.val + 1 < pmpEntry
  · rw [dif_pos inside, unlocked, Bool.false_or, Bool.and_eq_true]
    have isBelow : csr.pmpLock ⟨entry.val + 1, inside⟩ = true ↔ csr.BelowLocked entry := by
      constructor
      · exact fun locked => ⟨_, rfl, locked⟩
      · rintro ⟨above, isAbove, locked⟩
        obtain rfl : above = ⟨entry.val + 1, inside⟩ := Fin.ext isAbove
        exact locked
    rw [isBelow]
  · rw [dif_neg inside, unlocked]
    refine ⟨fun impossible => (by cases impossible), ?_⟩
    rintro ⟨⟨above, isAbove, -⟩, -⟩
    exact absurd above.isLt (by omega)

/-- The array of modes equals TOR only if no entry above another is in TOR mode. -/
theorem not_arrayIsTor_of_belowLockedTor (below : csr.BelowLockedTor entry) :
    csr.pmpModeArrayIsTor = false := by
  obtain ⟨above, isAbove, -, inTor⟩ := below
  rw [inTorMode, beq_iff_eq] at inTor
  cases isTor : csr.pmpModeArrayIsTor with
  | false => rfl
  | true =>
      rw [pmpModeArrayIsTor, List.all_eq_true] at isTor
      have mode := isTor above (List.mem_finRange above)
      have notFirst : ¬ above = 0 := fun first => by
        rw [first] at isAbove
        exact absurd isAbove (by simp)
      rw [if_neg notFirst, beq_iff_eq, inTor] at mode
      exact absurd mode (by decide)

/-- Below a locked TOR entry an unlocked address can be written. -/
theorem lock_of_belowLockedTor (unlocked : csr.pmpLock entry = false)
    (below : csr.BelowLockedTor entry) : csr.lock entry = false := by
  cases isLocked : csr.lock entry with
  | false => rfl
  | true =>
      have isTor := ((lock_iff_of_unlocked unlocked).mp isLocked).2
      rw [not_arrayIsTor_of_belowLockedTor below] at isTor
      cases isTor

/-- One edge keeps the promises to the unlocked addresses: one below a locked TOR entry keeps its
value, any other one takes the value of the M-mode instruction that addresses it. -/
structure AddrStepRespects (csr : Csr) (access : Access) : Prop where
  torKeeps : ∀ entry, csr.BelowLockedTor entry →
    csr.pmpaddrN access entry = csr.pmpaddrQ entry
  writable : ∀ entry, csr.pmpLock entry = false → ¬ csr.BelowLockedTor entry →
    csr.pmpaddrEnteryEn access entry = true →
      csr.pmpaddrN access entry = csr.pmpaddrWritten access entry

/-- The M-mode instruction that addresses an unlocked `pmpaddr[n]` changes nothing if entry
`n + 1` is a locked TOR entry, or if it is locked in the one configuration in which the computed
lock is set. -/
def AddrWriteHarmless (csr : Csr) (access : Access) : Prop :=
  ∀ entry, csr.pmpLock entry = false → csr.pmpaddrEnteryEn access entry = true →
    csr.BelowLockedTor entry ∨ (csr.BelowLocked entry ∧ csr.pmpModeArrayIsTor = true) →
      csr.pmpaddrWritten access entry = csr.pmpaddrQ entry

instance : Decidable (csr.AddrWriteHarmless access) :=
  inferInstanceAs (Decidable (∀ _, _))

theorem addrStepRespects_iff : csr.AddrStepRespects access ↔ csr.AddrWriteHarmless access := by
  constructor
  · intro respects entry unlocked enabled source
    by_cases below : csr.BelowLockedTor entry
    · have notLocked := lock_of_belowLockedTor unlocked below
      rw [← pmpaddrN_of_notLocked notLocked enabled]
      exact respects.torKeeps entry below
    · have locked := (lock_iff_of_unlocked unlocked).mpr (source.resolve_left below)
      have written := respects.writable entry unlocked below enabled
      rw [← written]
      simp [pmpaddrN, locked]
  · intro harmless
    refine ⟨fun entry below => ?_, fun entry unlocked notBelow enabled => ?_⟩
    · cases unlocked : csr.pmpLock entry with
      | true => exact pmpaddrN_of_locked unlocked
      | false =>
          cases enabled : csr.pmpaddrEnteryEn access entry with
          | false => simp [pmpaddrN, enabled]
          | true =>
              have notLocked := lock_of_belowLockedTor unlocked below
              rw [pmpaddrN_of_notLocked notLocked enabled]
              exact harmless entry unlocked enabled (.inl below)
    · cases locked : csr.lock entry with
      | false => exact pmpaddrN_of_notLocked locked enabled
      | true =>
          have source := (lock_iff_of_unlocked unlocked).mp locked
          rw [harmless entry unlocked enabled (.inr source)]
          simp [pmpaddrN, locked]

end Csr

namespace CoreRun

variable (run : CoreRun)

/-- A locked entry keeps its registers, an address below a locked TOR entry keeps its value, and
every other unlocked address takes the value of the M-mode instruction that addresses it. -/
structure LocksPermanent : Prop where
  entry : ∀ cycle later, cycle ≤ later → ∀ entry,
    (run.state cycle).csr.pmpLock entry = true →
      (run.state later).csr.pmpcfgQ entry = (run.state cycle).csr.pmpcfgQ entry ∧
        (run.state later).csr.pmpaddrQ entry = (run.state cycle).csr.pmpaddrQ entry
  below : ∀ cycle later, cycle ≤ later → ∀ entry,
    (run.state cycle).csr.BelowLockedTor entry →
      (run.state later).csr.pmpaddrQ entry = (run.state cycle).csr.pmpaddrQ entry
  writable : ∀ cycle entry, (run.state cycle).csr.pmpLock entry = false →
    ¬ (run.state cycle).csr.BelowLockedTor entry →
      (run.state cycle).csr.pmpaddrEnteryEn (run.state cycle).csrAccess entry = true →
        (run.state (cycle + 1)).csr.pmpaddrQ entry =
          (run.state cycle).csr.pmpaddrWritten (run.state cycle).csrAccess entry

variable {run}

theorem pmpcfgQ_of_locked {cycle later : Nat} (after : cycle ≤ later) {entry : Fin pmpEntry}
    (locked : (run.state cycle).csr.pmpLock entry = true) :
    (run.state later).csr.pmpcfgQ entry = (run.state cycle).csr.pmpcfgQ entry := by
  induction later with
  | zero =>
      obtain rfl : cycle = 0 := by omega
      rfl
  | succ later induction =>
      rcases Nat.lt_or_eq_of_le after with below | rfl
      · have same := induction (Nat.le_of_lt_succ below)
        have stillLocked : (run.state later).csr.pmpLock entry = true := by
          rw [Csr.pmpLock, same]
          exact locked
        rw [← same]
        exact Csr.pmpcfgN_of_locked stillLocked
      · rfl

theorem pmpLock_of_locked {cycle later : Nat} (after : cycle ≤ later) {entry : Fin pmpEntry}
    (locked : (run.state cycle).csr.pmpLock entry = true) :
    (run.state later).csr.pmpLock entry = true := by
  rw [Csr.pmpLock, pmpcfgQ_of_locked after locked]
  exact locked

theorem pmpaddrQ_of_locked {cycle later : Nat} (after : cycle ≤ later) {entry : Fin pmpEntry}
    (locked : (run.state cycle).csr.pmpLock entry = true) :
    (run.state later).csr.pmpaddrQ entry = (run.state cycle).csr.pmpaddrQ entry :=
  run.segment_constant (fun st => st.csr.pmpaddrQ entry) after fun _ lower _ =>
    Csr.pmpaddrN_of_locked (pmpLock_of_locked lower locked)

/-- A locked TOR entry stays one. -/
theorem belowLockedTor_later {cycle later : Nat} (after : cycle ≤ later) {entry : Fin pmpEntry}
    (below : (run.state cycle).csr.BelowLockedTor entry) :
    (run.state later).csr.BelowLockedTor entry := by
  obtain ⟨above, isAbove, locked, inTor⟩ := below
  refine ⟨above, isAbove, pmpLock_of_locked after locked, ?_⟩
  rw [Csr.inTorMode, pmpcfgQ_of_locked after locked]
  exact inTor

/-- The locks of a run are permanent exactly when each of its CSR instructions is harmless. -/
theorem locksPermanent_iff_harmless (run : CoreRun) :
    run.LocksPermanent ↔
      ∀ cycle, (run.state cycle).csr.AddrWriteHarmless (run.state cycle).csrAccess := by
  constructor
  · intro permanent cycle
    refine Csr.addrStepRespects_iff.mp ⟨fun entry below => ?_, permanent.writable cycle⟩
    exact permanent.below cycle (cycle + 1) (Nat.le_succ cycle) entry below
  · intro harmless
    have respects := fun cycle => Csr.addrStepRespects_iff.mpr (harmless cycle)
    refine ⟨fun cycle later after entry locked => ?_, fun cycle later after entry below => ?_,
      fun cycle => (respects cycle).writable⟩
    · exact ⟨pmpcfgQ_of_locked after locked, pmpaddrQ_of_locked after locked⟩
    · exact run.segment_constant (fun st => st.csr.pmpaddrQ entry) after fun between lower _ =>
        (respects between).torKeeps entry (belowLockedTor_later lower below)

/-- Machine code that locks entry 1 in TOR mode and then writes `pmpaddr0`. -/
def writesBelowTor : Surroundings where
  program := Surroundings.programOf
    [ 0x000090B7#32,  -- lui x1, 9
      0x80008093#32,  -- addi x1, x1, -2048
      0x3A009073#32,  -- csrrw x0, pmpcfg0, x1
      0x3B02D073#32 ] -- csrrwi x0, pmpaddr0, 5

/-- The address below the locked entry goes from 0 to 5. -/
theorem locksPermanent_fails :
    ¬ ∀ (run : CoreRun) (program : Word → Word × Bool), run.params = defaultParams →
      run.WellConnected program → run.LocksPermanent := by
  intro permanent
  have kept := (permanent writesBelowTor.coreRun _ rfl writesBelowTor.wellConnected).below
    7 9 (by decide) 0
  rw [Surroundings.state_coreRun, Surroundings.state_coreRun] at kept
  revert kept
  decide +kernel

end CoreRun

end RiscvCore
