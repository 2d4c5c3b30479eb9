/-!
# The first index that satisfies a test

The lowest index below a bound at which a Boolean test holds: existence, uniqueness, and the
decision that a list of prioritised entries makes through it.
-/

namespace FirstMatch

variable {count : Nat}

/-- `first` satisfies the test and no lower index does. -/
structure IsFirst (test : Fin count → Bool) (first : Fin count) : Prop where
  holds : test first = true
  lowest : ∀ index, index < first → test index = false

instance (test : Fin count → Bool) (first : Fin count) : Decidable (IsFirst test first) :=
  decidable_of_iff (test first = true ∧ ∀ index, index < first → test index = false)
    ⟨fun ⟨holds, lowest⟩ => ⟨holds, lowest⟩, fun isFirst => ⟨isFirst.holds, isFirst.lowest⟩⟩

theorem IsFirst.unique {test : Fin count → Bool} {left right : Fin count}
    (isLeft : IsFirst test left) (isRight : IsFirst test right) : left = right := by
  have notBelow : ¬ left < right := fun below => by
    simpa [isLeft.holds] using isRight.lowest left below
  have notAbove : ¬ right < left := fun above => by
    simpa [isRight.holds] using isLeft.lowest right above
  exact Fin.le_antisymm (Fin.not_lt.mp notAbove) (Fin.not_lt.mp notBelow)

/-- An index that satisfies the test has a first one at or below it. -/
theorem exists_isFirst_le (test : Fin count → Bool) :
    ∀ (bound : Nat) (index : Fin count), index.val ≤ bound → test index = true →
      ∃ first, IsFirst test first := by
  intro bound
  induction bound with
  | zero =>
      intro index below holds
      exact ⟨index, holds, fun lower isLower => absurd (Fin.lt_def.mp isLower) (by omega)⟩
  | succ bound induction =>
      intro index below holds
      by_cases lower : ∃ smaller, smaller < index ∧ test smaller = true
      · obtain ⟨smaller, isSmaller, smallerHolds⟩ := lower
        exact induction smaller (by have := Fin.lt_def.mp isSmaller; omega) smallerHolds
      · refine ⟨index, holds, fun smaller isSmaller => ?_⟩
        rcases value : test smaller with _ | _
        · rfl
        · exact absurd ⟨smaller, isSmaller, value⟩ lower

theorem exists_isFirst {test : Fin count → Bool} {index : Fin count}
    (holds : test index = true) : ∃ first, IsFirst test first :=
  exists_isFirst_le test index.val index (Nat.le_refl _) holds

/-- Either no index satisfies the test, or there is a first one. -/
theorem none_or_exists_isFirst (test : Fin count → Bool) :
    (∀ index, test index = false) ∨ ∃ first, IsFirst test first := by
  by_cases some : ∃ index, test index = true
  · obtain ⟨index, holds⟩ := some
    exact .inr (exists_isFirst holds)
  · refine .inl fun index => ?_
    rcases value : test index with _ | _
    · rfl
    · exact absurd ⟨index, value⟩ some

/-- A statement about the first index is the statement at any index known to be first. -/
theorem IsFirst.exists_iff {test : Fin count → Bool} {first : Fin count}
    (isFirst : IsFirst test first) (property : Fin count → Prop) :
    (∃ index, IsFirst test index ∧ property index) ↔ property first := by
  constructor
  · rintro ⟨index, isIndex, holds⟩
    rwa [isIndex.unique isFirst] at holds
  · exact fun holds => ⟨first, isFirst, holds⟩

end FirstMatch
