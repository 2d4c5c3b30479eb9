import Mathlib.Data.List.Forall2
import Mathlib.Data.List.Induction
import RiscvCore.SynchronousRun

/-!
# In-order pipelines

A pipeline takes in operations one at a time and lets them out in the same order.  The result of
an operation becomes known inside and never changes.  The operations that have left and those
inside form one history, in which the n-th entry is the n-th operation that entered.
-/

namespace InOrderHistory

open SynchronousRun (occurrences)

variable {Key Value : Type _}

/-- An operation, with its result once it is known. -/
structure Entry (Key Value : Type _) where
  key : Key
  result : Option Value

/-- The same operation later: a known result stays. -/
structure Entry.Becomes (entry later : Entry Key Value) : Prop where
  key : later.key = entry.key
  result : ∀ value, entry.result = some value → later.result = some value

namespace Entry.Becomes

theorem rfl {entry : Entry Key Value} : entry.Becomes entry := ⟨Eq.refl _, fun _ known => known⟩

theorem trans {first second third : Entry Key Value} (earlier : first.Becomes second)
    (later : second.Becomes third) : first.Becomes third where
  key := later.key.trans earlier.key
  result := fun value known => later.result value (earlier.result value known)

end Entry.Becomes

/-- What enters and leaves in one cycle. -/
structure Cycle (Key Value : Type _) where
  entering : Option Key
  leaving : Option (Key × Value)

def Cycle.entered (cycle : Cycle Key Value) : List (Entry Key Value) :=
  (cycle.entering.map fun key => ⟨key, none⟩).toList

def Cycle.left (cycle : Cycle Key Value) : List (Entry Key Value) :=
  (cycle.leaving.map fun gone => ⟨gone.1, some gone.2⟩).toList

variable (trace : Nat → Cycle Key Value)

def enters (cycle : Nat) : Bool := (trace cycle).entering.isSome

def leaves (cycle : Nat) : Bool := (trace cycle).leaving.isSome

/-- The operations that have left before the given cycle, in the order in which they did. -/
def completed : Nat → List (Entry Key Value)
  | 0 => []
  | cycle + 1 => completed cycle ++ (trace cycle).left

theorem length_completed (cycle : Nat) :
    (completed trace cycle).length = occurrences (leaves trace) 0 cycle := by
  induction cycle with
  | zero => rfl
  | succ cycle induction =>
      rw [completed, List.length_append, induction,
        SynchronousRun.occurrences_succ _ (Nat.zero_le cycle), leaves, Cycle.left]
      cases (trace cycle).leaving <;> rfl

/-- The operations inside, oldest first: some of them leave, then others enter. -/
structure Flow (inside : Nat → List (Entry Key Value)) : Prop where
  start : inside 0 = []
  step : ∀ cycle, ∃ rest,
    List.Forall₂ Entry.Becomes (inside cycle) ((trace cycle).left ++ rest) ∧
      List.Forall₂ Entry.Becomes (rest ++ (trace cycle).entered) (inside (cycle + 1))

/-- All operations that have entered, oldest first. -/
def history (inside : Nat → List (Entry Key Value)) (cycle : Nat) : List (Entry Key Value) :=
  completed trace cycle ++ inside cycle

variable {trace} {inside : Nat → List (Entry Key Value)}

theorem forall₂_rfl (entries : List (Entry Key Value)) :
    List.Forall₂ Entry.Becomes entries entries :=
  List.forall₂_same.mpr fun _ _ => Entry.Becomes.rfl

theorem forall₂_append {entries later others othersLater : List (Entry Key Value)}
    (first : List.Forall₂ Entry.Becomes entries later)
    (second : List.Forall₂ Entry.Becomes others othersLater) :
    List.Forall₂ Entry.Becomes (entries ++ others) (later ++ othersLater) :=
  List.rel_append first second

theorem forall₂_trans {first second third : List (Entry Key Value)}
    (earlier : List.Forall₂ Entry.Becomes first second)
    (later : List.Forall₂ Entry.Becomes second third) :
    List.Forall₂ Entry.Becomes first third := by
  induction earlier generalizing third with
  | nil => exact later
  | cons head tail induction =>
      cases later with
      | cons nextHead nextTail => exact List.Forall₂.cons (head.trans nextHead) (induction nextTail)

theorem forall₂_keys {entries later : List (Entry Key Value)}
    (become : List.Forall₂ Entry.Becomes entries later) :
    later.map Entry.key = entries.map Entry.key := by
  induction become with
  | nil => rfl
  | cons head tail induction => rw [List.map_cons, List.map_cons, head.key, induction]

theorem forall₂_getElem? {entries later : List (Entry Key Value)}
    (become : List.Forall₂ Entry.Becomes entries later) {index : Nat} {entry : Entry Key Value}
    (isEntry : entries[index]? = some entry) :
    ∃ laterEntry, later[index]? = some laterEntry ∧ entry.Becomes laterEntry := by
  induction become generalizing index with
  | nil => cases isEntry
  | cons head tail induction =>
      cases index with
      | zero =>
          rw [List.getElem?_cons_zero, Option.some.injEq] at isEntry
          rw [← isEntry]
          exact ⟨_, List.getElem?_cons_zero, head⟩
      | succ index => exact induction isEntry

theorem getElem?_middle (older younger : List (Entry Key Value)) (entry : Entry Key Value)
    {index : Nat} (isLength : index = older.length) :
    (older ++ entry :: younger)[index]? = some entry := by
  rw [isLength, List.getElem?_append_right (Nat.le_refl _), Nat.sub_self, List.getElem?_cons_zero]

/-- A cycle appends what enters and forgets nothing. -/
theorem Flow.history_succ (flow : Flow trace inside) (cycle : Nat) :
    List.Forall₂ Entry.Becomes (history trace inside cycle ++ (trace cycle).entered)
      (history trace inside (cycle + 1)) := by
  obtain ⟨rest, leaving, entering⟩ := flow.step cycle
  have left := forall₂_append (forall₂_append (forall₂_rfl (completed trace cycle)) leaving)
    (forall₂_rfl (trace cycle).entered)
  have right := forall₂_append
    (forall₂_rfl (completed trace cycle ++ (trace cycle).left)) entering
  rw [← List.append_assoc, List.append_assoc _ rest] at left
  exact forall₂_trans left right

theorem Flow.getElem?_history (flow : Flow trace inside) {cycle later index : Nat}
    (ordered : cycle ≤ later) {entry : Entry Key Value}
    (isEntry : (history trace inside cycle)[index]? = some entry) :
    ∃ laterEntry, (history trace inside later)[index]? = some laterEntry ∧
      entry.Becomes laterEntry := by
  induction later with
  | zero =>
      obtain rfl : cycle = 0 := by omega
      exact ⟨entry, isEntry, Entry.Becomes.rfl⟩
  | succ later induction =>
      rcases Nat.eq_or_lt_of_le ordered with rfl | below
      · exact ⟨entry, isEntry, Entry.Becomes.rfl⟩
      · obtain ⟨middle, isMiddle, becomesMiddle⟩ := induction (Nat.le_of_lt_succ below)
        have inside := (List.getElem?_eq_some_iff.mp isMiddle).1
        rw [← List.getElem?_append_left inside] at isMiddle
        obtain ⟨last, isLast, becomesLast⟩ := forall₂_getElem? (flow.history_succ later) isMiddle
        exact ⟨last, isLast, becomesMiddle.trans becomesLast⟩

theorem Flow.length_history (flow : Flow trace inside) (cycle : Nat) :
    (history trace inside cycle).length = occurrences (enters trace) 0 cycle := by
  induction cycle with
  | zero => rw [history, flow.start]; rfl
  | succ cycle induction =>
      rw [← (flow.history_succ cycle).length_eq, List.length_append, induction,
        SynchronousRun.occurrences_succ _ (Nat.zero_le cycle), enters, Cycle.entered]
      cases (trace cycle).entering <;> rfl

/-- What has entered has left or is inside. -/
theorem Flow.entered_eq (flow : Flow trace inside) (cycle : Nat) :
    occurrences (enters trace) 0 cycle =
      occurrences (leaves trace) 0 cycle + (inside cycle).length := by
  rw [← flow.length_history, history, List.length_append, length_completed]

/-- The operation that enters gets the next place in the history. -/
theorem Flow.getElem?_entered (flow : Flow trace inside) {cycle : Nat} {key : Key}
    (entering : (trace cycle).entering = some key) {later : Nat} (isLater : cycle < later) :
    ∃ entry, (history trace inside later)[occurrences (enters trace) 0 cycle]? = some entry ∧
      entry.key = key := by
  have isNew : (history trace inside cycle ++ (trace cycle).entered)[
      occurrences (enters trace) 0 cycle]? = some ⟨key, none⟩ := by
    rw [← flow.length_history, List.getElem?_append_right (Nat.le_refl _), Nat.sub_self,
      Cycle.entered, entering]
    rfl
  obtain ⟨entry, isEntry, becomes⟩ := forall₂_getElem? (flow.history_succ cycle) isNew
  obtain ⟨last, isLast, becomesLast⟩ := flow.getElem?_history isLater isEntry
  exact ⟨last, isLast, becomesLast.key.trans becomes.key⟩

/-- The operation that leaves keeps its place, with its result. -/
theorem getElem?_left (inside : Nat → List (Entry Key Value)) {cycle : Nat} {key : Key}
    {value : Value} (leaving : (trace cycle).leaving = some (key, value)) :
    (history trace inside (cycle + 1))[occurrences (leaves trace) 0 cycle]? =
      some ⟨key, some value⟩ := by
  have isLast : (completed trace (cycle + 1))[occurrences (leaves trace) 0 cycle]? =
      some ⟨key, some value⟩ := by
    rw [← length_completed, completed, List.getElem?_append_right (Nat.le_refl _), Nat.sub_self,
      Cycle.left, leaving]
    rfl
  rw [history, List.getElem?_append_left (List.getElem?_eq_some_iff.mp isLast).1, isLast]

/-- The operation that enters in one cycle leaves in the other. -/
structure Passes (trace : Nat → Cycle Key Value) (enter leave : Nat) : Prop where
  enters : enters trace enter = true
  leaves : leaves trace leave = true
  sameRank : occurrences (InOrderHistory.enters trace) 0 enter =
    occurrences (InOrderHistory.leaves trace) 0 leave

theorem Flow.enter_lt_leave (flow : Flow trace inside) {enter leave : Nat}
    (passes : Passes trace enter leave) : enter < leave := by
  rcases Nat.lt_or_ge enter leave with earlier | notEarlier
  · exact earlier
  · obtain ⟨rest, leaving, -⟩ := flow.step leave
    have balance := flow.entered_eq leave
    have mono := SynchronousRun.occurrences_mono (enters trace) (Nat.zero_le leave) notEarlier
    have sameRank := passes.sameRank
    have nonempty : 0 < (inside leave).length := by
      have isLeaving : (trace leave).leaving.isSome = true := passes.leaves
      obtain ⟨gone, leavingEq⟩ := Option.isSome_iff_exists.mp isLeaving
      have one : (trace leave).left.length = 1 := by
        rw [Cycle.left, leavingEq]
        rfl
      rw [leaving.length_eq, List.length_append, one]
      omega
    omega

/-- Nothing leaves that has not entered. -/
theorem Flow.exists_enter (flow : Flow trace inside) {leave : Nat}
    (isLeaving : leaves trace leave = true) : ∃ enter, Passes trace enter leave := by
  have later := SynchronousRun.occurrences_lt (leaves trace) (Nat.zero_le leave) isLeaving
    (Nat.lt_add_one leave)
  have balance := flow.entered_eq (leave + 1)
  have counted : occurrences (leaves trace) 0 leave < occurrences (enters trace) 0 (leave + 1) := by
    omega
  obtain ⟨enter, -, happens, sameRank⟩ := SynchronousRun.exists_occurrence _ counted
  exact ⟨enter, happens, isLeaving, sameRank⟩

theorem Passes.enter_unique {enter other leave : Nat} (passes : Passes trace enter leave)
    (otherPasses : Passes trace other leave) : enter = other :=
  SynchronousRun.eq_of_occurrences_eq passes.enters otherPasses.enters
    (passes.sameRank.trans otherPasses.sameRank.symm)

theorem Passes.leave_unique {enter leave other : Nat} (passes : Passes trace enter leave)
    (otherPasses : Passes trace enter other) : leave = other :=
  SynchronousRun.eq_of_occurrences_eq passes.leaves otherPasses.leaves
    (passes.sameRank.symm.trans otherPasses.sameRank)

/-- A pipeline that always lets something out again while it holds something lets out
everything. -/
theorem Flow.exists_leave (flow : Flow trace inside)
    (drains : ∀ cycle, inside cycle ≠ [] → ∃ later, cycle ≤ later ∧ leaves trace later = true)
    {enter : Nat} (isEntering : enters trace enter = true) :
    ∃ leave, Passes trace enter leave := by
  have reaches : ∀ count, ∃ cycle, enter < cycle ∧
      (count ≤ occurrences (leaves trace) 0 cycle ∨
        occurrences (enters trace) 0 enter < occurrences (leaves trace) 0 cycle) := by
    intro count
    induction count with
    | zero => exact ⟨enter + 1, Nat.lt_add_one _, Or.inl (Nat.zero_le _)⟩
    | succ count induction =>
        obtain ⟨cycle, later, enough | done⟩ := induction
        · have entered := SynchronousRun.occurrences_lt (enters trace) (Nat.zero_le enter)
            isEntering later
          have balance := flow.entered_eq cycle
          by_cases empty : inside cycle = []
          · rw [empty, List.length_nil] at balance
            exact ⟨cycle, later, Or.inr (by omega)⟩
          · obtain ⟨leave, isLater, isLeaving⟩ := drains cycle empty
            have mono := SynchronousRun.occurrences_mono (leaves trace) (Nat.zero_le cycle) isLater
            have next := SynchronousRun.occurrences_lt (leaves trace) (Nat.zero_le leave)
              isLeaving (Nat.lt_add_one leave)
            exact ⟨leave + 1, by omega, Or.inl (by omega)⟩
        · exact ⟨cycle, later, Or.inr done⟩
  obtain ⟨cycle, -, enough | done⟩ := reaches (occurrences (enters trace) 0 enter + 1)
  · obtain ⟨leave, -, isLeaving, sameRank⟩ := SynchronousRun.exists_occurrence _ enough
    exact ⟨leave, isEntering, isLeaving, sameRank.symm⟩
  · obtain ⟨leave, -, isLeaving, sameRank⟩ := SynchronousRun.exists_occurrence _ done
    exact ⟨leave, isEntering, isLeaving, sameRank.symm⟩

/-- An operation leaves under the key it entered with, and with the result that was known. -/
theorem Flow.passes_key (flow : Flow trace inside) {enter leave : Nat}
    (passes : Passes trace enter leave) {key goneKey : Key} {value : Value}
    (entering : (trace enter).entering = some key)
    (leaving : (trace leave).leaving = some (goneKey, value)) : goneKey = key := by
  obtain ⟨entry, isEntry, entryKey⟩ := flow.getElem?_entered entering
    (Nat.lt_add_right 1 (flow.enter_lt_leave passes))
  have isGone := getElem?_left inside leaving
  rw [passes.sameRank, isGone, Option.some.injEq] at isEntry
  rw [← entryKey, ← isEntry]

theorem Flow.passes_result (flow : Flow trace inside) {enter leave cycle : Nat}
    (passes : Passes trace enter leave) {goneKey : Key} {value result : Value}
    (leaving : (trace leave).leaving = some (goneKey, value)) {entry : Entry Key Value}
    (isEntry : (history trace inside cycle)[occurrences (enters trace) 0 enter]? = some entry)
    (known : entry.result = some result) : value = result := by
  obtain ⟨last, isLast, becomes⟩ :=
    flow.getElem?_history (Nat.le_max_left cycle (leave + 1)) isEntry
  have isGone := getElem?_left inside leaving
  obtain ⟨gone, isGoneLater, becomesGone⟩ :=
    flow.getElem?_history (Nat.le_max_right cycle (leave + 1)) isGone
  rw [← passes.sameRank, isLast, Option.some.injEq] at isGoneLater
  have fromEntry := becomes.result result known
  have fromGone := becomesGone.result value rfl
  rw [isGoneLater, fromGone, Option.some.injEq] at fromEntry
  exact fromEntry

/-- The entry at the index is wanted, and no younger one is. -/
structure IsNewest (wanted : Key → Prop) (entries : List (Entry Key Value)) (index : Nat) :
    Prop where
  found : ∃ entry, entries[index]? = some entry ∧ wanted entry.key
  younger : ∀ later entry, index < later → entries[later]? = some entry → ¬ wanted entry.key

variable {wanted : Key → Prop} {entries : List (Entry Key Value)} {index : Nat}

theorem IsNewest.eq_last {last : Entry Key Value}
    (newest : IsNewest wanted (entries ++ [last]) index) (isWanted : wanted last.key) :
    index = entries.length := by
  obtain ⟨entry, isEntry, -⟩ := newest.found
  have inside := (List.getElem?_eq_some_iff.mp isEntry).1
  rw [List.length_append, List.length_singleton] at inside
  rcases Nat.lt_or_ge index entries.length with below | atEnd
  · have isLast : (entries ++ [last])[entries.length]? = some last := by simp
    exact absurd isWanted (newest.younger _ last below isLast)
  · omega

theorem IsNewest.init {others : List (Entry Key Value)}
    (newest : IsNewest wanted (entries ++ others) index)
    (unwanted : ∀ entry ∈ others, ¬ wanted entry.key) : IsNewest wanted entries index := by
  obtain ⟨entry, isEntry, isWanted⟩ := newest.found
  have below : index < entries.length := by
    rcases Nat.lt_or_ge index entries.length with below | notBelow
    · exact below
    · rw [List.getElem?_append_right notBelow] at isEntry
      exact absurd isWanted (unwanted entry (List.mem_of_getElem? isEntry))
  rw [List.getElem?_append_left below] at isEntry
  refine ⟨⟨entry, isEntry, isWanted⟩, fun later entry isLater isEntry => ?_⟩
  have inside := (List.getElem?_eq_some_iff.mp isEntry).1
  rw [← List.getElem?_append_left inside] at isEntry
  exact newest.younger later entry isLater isEntry

/-- The result of the newest wanted operation, or the given one if there is none. -/
def latest (wanted : Key → Prop) [DecidablePred wanted] (start : Value)
    (entries : List (Entry Key Value)) : Value :=
  entries.foldl (fun value entry => if wanted entry.key then entry.result.getD value else value)
    start

theorem latest_concat [DecidablePred wanted] (start : Value) (last : Entry Key Value) :
    latest wanted start (entries ++ [last]) =
      if wanted last.key then last.result.getD (latest wanted start entries)
      else latest wanted start entries := by
  rw [latest, List.foldl_append]
  rfl

theorem latest_of_unwanted [DecidablePred wanted] (start : Value)
    (unwanted : ∀ entry ∈ entries, ¬ wanted entry.key) : latest wanted start entries = start := by
  induction entries with
  | nil => rfl
  | cons entry entries induction =>
      rw [latest, List.foldl_cons, if_neg (unwanted entry List.mem_cons_self)]
      exact induction fun other inside => unwanted other (List.mem_cons_of_mem _ inside)

/-- Among operations whose results are known. -/
theorem IsNewest.latest [DecidablePred wanted] (start : Value)
    (known : ∀ entry ∈ entries, entry.result.isSome = true)
    (newest : IsNewest wanted entries index) :
    ∃ entry, entries[index]? = some entry ∧
      entry.result = some (InOrderHistory.latest wanted start entries) := by
  induction entries using List.reverseRecOn with
  | nil =>
      obtain ⟨entry, isEntry, -⟩ := newest.found
      cases isEntry
  | append_singleton entries last induction =>
      rw [latest_concat]
      by_cases isWanted : wanted last.key
      · obtain ⟨value, result⟩ := Option.isSome_iff_exists.mp (known last (by simp))
        rw [newest.eq_last isWanted, if_pos isWanted, result, Option.getD_some]
        exact ⟨last, by simp, result⟩
      · have older := newest.init (by simpa using isWanted)
        obtain ⟨entry, isEntry, result⟩ :=
          induction (fun entry inside => known entry (List.mem_append_left _ inside)) older
        rw [if_neg isWanted]
        refine ⟨entry, ?_, result⟩
        rw [List.getElem?_append_left (List.getElem?_eq_some_iff.mp isEntry).1, isEntry]

theorem known_completed (trace : Nat → Cycle Key Value) (cycle : Nat) :
    ∀ entry ∈ completed trace cycle, entry.result.isSome = true := by
  induction cycle with
  | zero => exact fun _ inside => by cases inside
  | succ cycle induction =>
      intro entry inside
      rcases List.mem_append.mp inside with earlier | now
      · exact induction entry earlier
      · rw [Cycle.left] at now
        cases leaving : (trace cycle).leaving with
        | none => simp [leaving] at now
        | some gone =>
            simp only [leaving, Option.map_some, Option.toList_some, List.mem_singleton] at now
            rw [now]
            rfl

/-- The newest wanted operation of the history is the one that entered last. -/
theorem Flow.isNewest (flow : Flow trace inside) {enter cycle : Nat} {key : Key}
    (entering : (trace enter).entering = some key) (isWanted : wanted key)
    (before : enter < cycle)
    (newest : ∀ between key, enter < between → between < cycle →
      (trace between).entering = some key → ¬ wanted key) :
    IsNewest wanted (history trace inside cycle) (occurrences (enters trace) 0 enter) := by
  constructor
  · obtain ⟨entry, isEntry, entryKey⟩ := flow.getElem?_entered entering before
    exact ⟨entry, isEntry, entryKey ▸ isWanted⟩
  · intro later entry isLater isEntry
    have inside := (List.getElem?_eq_some_iff.mp isEntry).1
    rw [flow.length_history] at inside
    obtain ⟨between, isBefore, happens, sameRank⟩ := SynchronousRun.exists_occurrence _ inside
    have isEntering : (trace between).entering.isSome = true := happens
    obtain ⟨otherKey, otherEntering⟩ := Option.isSome_iff_exists.mp isEntering
    obtain ⟨otherEntry, isOther, sameKey⟩ := flow.getElem?_entered otherEntering isBefore
    rw [sameRank, isEntry, Option.some.injEq] at isOther
    rw [isOther, sameKey]
    refine newest between otherKey ?_ isBefore otherEntering
    rcases Nat.lt_or_ge enter between with after | notAfter
    · exact after
    · have mono := SynchronousRun.occurrences_mono (enters trace) (Nat.zero_le between) notAfter
      omega

/-- Without a wanted operation among those that entered, the history has none. -/
theorem Flow.unwanted (flow : Flow trace inside) {cycle : Nat}
    (none : ∀ earlier key, earlier < cycle → (trace earlier).entering = some key → ¬ wanted key) :
    ∀ entry ∈ history trace inside cycle, ¬ wanted entry.key := by
  intro entry isMember
  obtain ⟨index, isEntry⟩ := List.mem_iff_getElem?.mp isMember
  have inside := (List.getElem?_eq_some_iff.mp isEntry).1
  rw [flow.length_history] at inside
  obtain ⟨earlier, isBefore, happens, sameRank⟩ := SynchronousRun.exists_occurrence _ inside
  have isEntering : (trace earlier).entering.isSome = true := happens
  obtain ⟨otherKey, otherEntering⟩ := Option.isSome_iff_exists.mp isEntering
  obtain ⟨otherEntry, isOther, sameKey⟩ := flow.getElem?_entered otherEntering isBefore
  rw [sameRank, isEntry, Option.some.injEq] at isOther
  rw [isOther, sameKey]
  exact none earlier otherKey isBefore otherEntering

end InOrderHistory
