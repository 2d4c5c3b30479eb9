import RiscvCore.FirstMatch
import RiscvCore.Pmp

/-!
# Entry priority of the PMP decision

The access rule the privileged specification gives for a vector of PMP entries, in which the
lowest-numbered matching entry alone decides, and the exact set of vectors for which the
decision logic of `pmp.sv` agrees with it.

The failure chain of the module reads, at entry `n`, the entries `n` and `n - 1` only, and the
output is taken at the last entry.  An entry below the last two therefore never reaches the
output, and the last two reach it whatever matches below them.
-/

namespace RiscvCore.Pmp

open FirstMatch

/-- The kind of an access: exactly one of read, write and execute. -/
inductive AcsType where
  | read | write | execute
  deriving DecidableEq

/-- `acs_type_i`, one bit for each kind. -/
def AcsType.toBits : AcsType → BitVec 3
  | .read => 0b001#3
  | .write => 0b010#3
  | .execute => 0b100#3

/-- The permission that an access of this kind needs. -/
def AcsType.permittedBy (acsType : AcsType) (pms : BitVec 3) : Bool :=
  match acsType with
  | .read => pms.getLsbD 0
  | .write => pms.getLsbD 1
  | .execute => pms.getLsbD 2

/-- The permission test of the module is the permission of the access kind. -/
theorem pmsMatch_toBits (acsType : AcsType) (pms : BitVec 3) :
    pmsMatch pms acsType.toBits = acsType.permittedBy pms := by
  cases acsType <;> simp [pmsMatch, AcsType.toBits, AcsType.permittedBy]

/-- The match, permission and lock bits of every entry. -/
structure EntryBits (pmpEntry : Nat) where
  entryMatch : Fin pmpEntry → Bool
  pms : Fin pmpEntry → BitVec 3
  lock : Fin pmpEntry → Bool

namespace EntryBits

variable {pmpEntry : Nat} (bits : EntryBits pmpEntry) (acsType : AcsType)

/-- What the decision logic sees of the bits. -/
def entries : Entries pmpEntry where
  entryMatch := bits.entryMatch
  pmsMatch := fun entry => pmsMatch (bits.pms entry) acsType.toBits
  pmpLock := bits.lock

/-- A module instance decides on the bits of its configuration. -/
theorem pmpErr_eq_pmpErrO {pmpEntry : Nat} (pmpcfgI : Fin (pmpEntry + 1) → BitVec 8)
    (pmpaddrI : Fin (pmpEntry + 1) → BitVec 34) (privilegeMode : Privilege) (acsEn : Bool)
    (acsType : AcsType) (acsAddress : Word) :
    pmpErr pmpcfgI pmpaddrI privilegeMode acsEn acsType.toBits acsAddress =
      (EntryBits.entries
        { entryMatch := Pmp.entryMatch pmpcfgI pmpaddrI acsAddress
          pms := fun entry => pmpPms (pmpcfgI entry)
          lock := fun entry => pmpLock (pmpcfgI entry) } acsType).pmpErrO
        privilegeMode acsEn := rfl

/-- The lowest-numbered matching entry decides.  In U mode the access fails when there is none
or it lacks the permission; in M mode it fails when that entry is locked and lacks the
permission. -/
def AccessFails (privilegeMode : Privilege) : Prop :=
  if privilegeMode = privLvlM then
    ∃ entry, IsFirst bits.entryMatch entry ∧
      bits.lock entry = true ∧ acsType.permittedBy (bits.pms entry) = false
  else
    (∀ entry, bits.entryMatch entry = false) ∨
      ∃ entry, IsFirst bits.entryMatch entry ∧ acsType.permittedBy (bits.pms entry) = false

instance (privilegeMode : Privilege) : Decidable (bits.AccessFails acsType privilegeMode) :=
  inferInstanceAs (Decidable (ite _ _ _))

/-- The entry matches and would deny the access if it decided alone. -/
def Denies (privilegeMode : Privilege) (entry : Fin pmpEntry) : Prop :=
  bits.entryMatch entry = true ∧
    (privilegeMode = privLvlM → bits.lock entry = true) ∧
      acsType.permittedBy (bits.pms entry) = false

instance (privilegeMode : Privilege) (entry : Fin pmpEntry) :
    Decidable (bits.Denies acsType privilegeMode entry) :=
  inferInstanceAs (Decidable (_ ∧ _))

theorem accessFails_of_noMatch {privilegeMode : Privilege}
    (noMatch : ∀ entry, bits.entryMatch entry = false) :
    bits.AccessFails acsType privilegeMode ↔ privilegeMode ≠ privLvlM := by
  by_cases machine : privilegeMode = privLvlM
  · have noFirst : ∀ entry, ¬ IsFirst bits.entryMatch entry := fun entry isFirst => by
      simpa [noMatch entry] using isFirst.holds
    simp [AccessFails, machine, noFirst]
  · simp [AccessFails, machine, noMatch]

theorem accessFails_iff_denies {privilegeMode : Privilege} {first : Fin pmpEntry}
    (isFirst : IsFirst bits.entryMatch first) :
    bits.AccessFails acsType privilegeMode ↔ bits.Denies acsType privilegeMode first := by
  have someMatch : ¬ ∀ entry, bits.entryMatch entry = false := fun noMatch => by
    simpa [noMatch first] using isFirst.holds
  by_cases machine : privilegeMode = privLvlM
  · rw [AccessFails, if_pos machine, isFirst.exists_iff]
    simp [Denies, machine, isFirst.holds]
  · rw [AccessFails, if_neg machine, isFirst.exists_iff]
    simp [Denies, machine, isFirst.holds, someMatch]

end EntryBits

/-- The chain at an entry looks at that entry and at the one below it. -/
theorem Entries.chainFail_succ {pmpEntry : Nat} (entryFail : Fin (pmpEntry + 2) → Bool) :
    Entries.chainFail entryFail (Fin.last (pmpEntry + 1)) =
      (entryFail (Fin.last pmpEntry).castSucc || entryFail (Fin.last (pmpEntry + 1))) := by
  have notFirst : (Fin.last (pmpEntry + 1)).val ≠ 0 := by simp
  rw [Entries.chainFail, dif_neg notFirst]
  have below : (⟨(Fin.last (pmpEntry + 1)).val - 1, by simp⟩ : Fin (pmpEntry + 2)) =
      (Fin.last pmpEntry).castSucc := Fin.ext (by simp)
  rw [below]
  cases entryFail (Fin.last pmpEntry).castSucc <;> rfl

variable {pmpEntry : Nat} (bits : EntryBits (pmpEntry + 2)) (acsType : AcsType)

/-- The last or the last but one entry matches and would deny the access. -/
def EntryBits.LastTwoDeny (privilegeMode : Privilege) : Prop :=
  bits.Denies acsType privilegeMode (Fin.last pmpEntry).castSucc ∨
    bits.Denies acsType privilegeMode (Fin.last (pmpEntry + 1))

instance (privilegeMode : Privilege) : Decidable (bits.LastTwoDeny acsType privilegeMode) :=
  inferInstanceAs (Decidable (_ ∨ _))

/-- What `pmp_err_o` computes: the last two entries, and in U mode the absence of any match. -/
theorem pmpErrO_eq_true_iff (privilegeMode : Privilege) :
    (bits.entries acsType).pmpErrO privilegeMode true = true ↔
      bits.LastTwoDeny acsType privilegeMode ∨
        (privilegeMode ≠ privLvlM ∧ ∀ entry, bits.entryMatch entry = false) := by
  by_cases machine : privilegeMode = privLvlM
  · simp only [Entries.pmpErrO, if_pos machine, Entries.mModeFail, Entries.chainFail_succ,
      EntryBits.LastTwoDeny, EntryBits.Denies]
    simp [Entries.mModeEntryFail, EntryBits.entries, pmsMatch_toBits, machine, and_assoc]
  · simp only [Entries.pmpErrO, if_neg machine, Entries.uModeFail, Entries.chainFail_succ,
      EntryBits.LastTwoDeny, EntryBits.Denies]
    simp [Entries.uModeEntryFail, Entries.anyMatch, EntryBits.entries, pmsMatch_toBits, machine]

/-- The vectors on which the decision of the last two entries is the decision of the first
matching one. -/
def EntryBits.LastTwoDecideAsFirst (privilegeMode : Privilege) : Prop :=
  ∀ first, IsFirst bits.entryMatch first →
    (bits.Denies acsType privilegeMode first ↔ bits.LastTwoDeny acsType privilegeMode)

variable {bits acsType}

/-- Without a match the module follows the rule. -/
theorem pmpErrO_iff_of_noMatch {privilegeMode : Privilege}
    (noMatch : ∀ entry, bits.entryMatch entry = false) :
    (bits.entries acsType).pmpErrO privilegeMode true = true ↔
      bits.AccessFails acsType privilegeMode := by
  have lastTwo : ¬ bits.LastTwoDeny acsType privilegeMode := by
    simp [EntryBits.LastTwoDeny, EntryBits.Denies, noMatch]
  simp [pmpErrO_eq_true_iff, bits.accessFails_of_noMatch acsType noMatch, lastTwo, noMatch]

/-- With a match the last two entries decide. -/
theorem pmpErrO_iff_of_first {privilegeMode : Privilege} {first : Fin (pmpEntry + 2)}
    (isFirst : IsFirst bits.entryMatch first) :
    (bits.entries acsType).pmpErrO privilegeMode true = true ↔
      bits.LastTwoDeny acsType privilegeMode := by
  have someMatch : ¬ ∀ entry, bits.entryMatch entry = false := fun noMatch => by
    simpa [noMatch first] using isFirst.holds
  simp only [pmpErrO_eq_true_iff, someMatch, and_false, or_false]

/-- Vectors on which the last two entries decide as the first matching one does are decided by
the rule. -/
theorem pmpErrO_iff_accessFails_of_lastTwo {privilegeMode : Privilege}
    (decides : bits.LastTwoDecideAsFirst acsType privilegeMode) :
    (bits.entries acsType).pmpErrO privilegeMode true = true ↔
      bits.AccessFails acsType privilegeMode := by
  rcases none_or_exists_isFirst bits.entryMatch with noMatch | ⟨first, isFirst⟩
  · exact pmpErrO_iff_of_noMatch noMatch
  · rw [pmpErrO_iff_of_first isFirst, bits.accessFails_iff_denies acsType isFirst]
    exact (decides first isFirst).symm

variable (bits acsType)

/-- The module follows the access rule exactly when no entry matches, or the first matching
entry denies the access just when one of the last two entries does. -/
theorem pmpErrO_iff_accessFails_iff (privilegeMode : Privilege) :
    ((bits.entries acsType).pmpErrO privilegeMode true = true ↔
        bits.AccessFails acsType privilegeMode) ↔
      bits.LastTwoDecideAsFirst acsType privilegeMode := by
  refine ⟨fun same first isFirst => ?_, pmpErrO_iff_accessFails_of_lastTwo⟩
  rw [pmpErrO_iff_of_first isFirst, bits.accessFails_iff_denies acsType isFirst] at same
  exact same.symm

/-- Three matching entries, of which only entry 0 denies a read. -/
def shadowedDenial : EntryBits 3 where
  entryMatch := fun _ => true
  pms := fun entry => if entry = 0 then 0b000#3 else 0b001#3
  lock := fun _ => false

/-- The rule fails for three entries: a U-mode read that entry 0 denies is let through. -/
theorem pmpErrO_ignores_lowestEntry :
    ¬ ∀ (pmpEntry : Nat) (bits : EntryBits (pmpEntry + 2)) (acsType : AcsType)
        (privilegeMode : Privilege),
      (bits.entries acsType).pmpErrO privilegeMode true = true ↔
        bits.AccessFails acsType privilegeMode := by
  intro rule
  have denied : shadowedDenial.AccessFails .read privLvlU :=
    .inr ⟨0, ⟨rfl, fun index below => absurd (Fin.lt_def.mp below) (by simp)⟩, rfl⟩
  have granted : (shadowedDenial.entries .read).pmpErrO privLvlU true = false := by decide
  have fails := (rule 1 shadowedDenial .read privLvlU).mpr denied
  rw [granted] at fails
  cases fails

end RiscvCore.Pmp
