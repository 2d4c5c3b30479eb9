/-!
# Runs of synchronous machines

A synchronous machine has one state, changed at every clock edge by a step function that also
reads the inputs of the cycle.  This file defines its runs over an infinite input stream and the
induction rules that the proofs about one machine use.
Nothing here depends on what the state and the inputs are.
-/

namespace SynchronousRun

variable {State Input Value : Type _}

/-- The state before the given cycle. -/
def run (step : State → Input → State) (start : State) (inputs : Nat → Input) : Nat → State
  | 0 => start
  | cycle + 1 => step (run step start inputs cycle) (inputs cycle)

section Run

variable {step : State → Input → State} {start : State} {inputs : Nat → Input}

@[simp]
theorem run_zero : run step start inputs 0 = start := rfl

theorem run_succ (cycle : Nat) :
    run step start inputs (cycle + 1) =
      step (run step start inputs cycle) (inputs cycle) := rfl

/-- An invariant that holds at the start and is kept by every step whose input is allowed
holds along every run whose inputs are allowed. -/
theorem run_invariant (invariant : State → Prop) (allowed : State → Input → Prop)
    (initial : invariant start)
    (preserved : ∀ state input, invariant state → allowed state input →
      invariant (step state input))
    (inputsAllowed : ∀ cycle, allowed (run step start inputs cycle) (inputs cycle)) :
    ∀ cycle, invariant (run step start inputs cycle) := by
  intro cycle
  induction cycle with
  | zero => exact initial
  | succ cycle induction => exact preserved _ _ induction (inputsAllowed cycle)

/-- The same rule inside a segment of a run: the invariant holds at the first cycle and is kept
by every step of the segment. -/
theorem segment_invariant {first : Nat} (invariant : State → Prop) {last : Nat}
    (ordered : first ≤ last)
    (initial : invariant (run step start inputs first))
    (preserved : ∀ cycle, first ≤ cycle → cycle < last →
      invariant (run step start inputs cycle) →
        invariant (run step start inputs (cycle + 1))) :
    invariant (run step start inputs last) := by
  induction last with
  | zero =>
      obtain rfl : first = 0 := by omega
      exact initial
  | succ last induction =>
      rcases Nat.lt_or_ge last first with below | above
      · obtain rfl : first = last + 1 := by omega
        exact initial
      · exact preserved last above (by omega)
          (induction above fun cycle lower upper => preserved cycle lower (by omega))

/-- An observation that no step of a segment changes is the same at both ends. -/
theorem segment_constant {first last : Nat} (observe : State → Value)
    (ordered : first ≤ last)
    (unchanged : ∀ cycle, first ≤ cycle → cycle < last →
      observe (run step start inputs (cycle + 1)) = observe (run step start inputs cycle)) :
    observe (run step start inputs last) = observe (run step start inputs first) :=
  segment_invariant
    (fun state => observe state = observe (run step start inputs first)) ordered rfl
    fun cycle lower upper same => (unchanged cycle lower upper).trans same

end Run

/-- Two runs with the same inputs stay related if every step relates their successors. -/
theorem run_related {step : State → Input → State} {start other : State} {inputs : Nat → Input}
    (relation : State → State → Prop) (allowed : State → Input → Prop)
    (initial : relation start other)
    (preserved : ∀ state state' input, relation state state' → allowed state input →
      relation (step state input) (step state' input))
    (inputsAllowed : ∀ cycle, allowed (run step start inputs cycle) (inputs cycle)) :
    ∀ cycle, relation (run step start inputs cycle) (run step other inputs cycle) := by
  intro cycle
  induction cycle with
  | zero => exact initial
  | succ cycle induction => exact preserved _ _ _ induction (inputsAllowed cycle)

/-- A run goes on from each of its states. -/
theorem run_add {step : State → Input → State} {start : State} {inputs : Nat → Input}
    (first count : Nat) :
    run step start inputs (first + count) =
      run step (run step start inputs first) (fun cycle => inputs (first + cycle)) count := by
  induction count with
  | zero => rfl
  | succ count induction => rw [← Nat.add_assoc, run_succ, run_succ, induction]

/-! ## The first occurrence of an event -/

/-- The event happens at `cycle`, for the first time since `start`. -/
structure FirstFrom (event : Nat → Prop) (start cycle : Nat) : Prop where
  after : start ≤ cycle
  happens : event cycle
  notBefore : ∀ earlier, start ≤ earlier → earlier < cycle → ¬ event earlier

instance {event : Nat → Prop} [DecidablePred event] {start cycle : Nat} :
    Decidable (FirstFrom event start cycle) :=
  decidable_of_iff
    (start ≤ cycle ∧ event cycle ∧ ∀ earlier, earlier < cycle → start ≤ earlier → ¬ event earlier)
    ⟨fun ⟨after, happens, notBefore⟩ =>
        ⟨after, happens, fun earlier lower upper => notBefore earlier upper lower⟩,
      fun first => ⟨first.after, first.happens,
        fun earlier upper lower => first.notBefore earlier lower upper⟩⟩

theorem FirstFrom.eq_start {event : Nat → Prop} {start cycle : Nat}
    (first : FirstFrom event start cycle) (now : event start) : cycle = start := by
  rcases Nat.lt_or_ge start cycle with later | notLater
  · exact absurd now (first.notBefore start (Nat.le_refl _) later)
  · exact Nat.le_antisymm notLater first.after

theorem FirstFrom.unique {event : Nat → Prop} {start cycle other : Nat}
    (first : FirstFrom event start cycle) (otherFirst : FirstFrom event start other) :
    cycle = other := by
  rcases Nat.lt_trichotomy cycle other with earlier | same | later
  · exact absurd first.happens (otherFirst.notBefore cycle first.after earlier)
  · exact same
  · exact absurd otherFirst.happens (first.notBefore other otherFirst.after later)

theorem FirstFrom.succ {event : Nat → Prop} {start cycle : Nat}
    (first : FirstFrom event start cycle) (notNow : ¬ event start) :
    FirstFrom event (start + 1) cycle where
  after := by
    rcases Nat.lt_or_ge start cycle with later | notLater
    · exact later
    · have same := Nat.le_antisymm notLater first.after
      exact absurd (same ▸ first.happens) notNow
  happens := first.happens
  notBefore := fun earlier lower upper => first.notBefore earlier (by omega) upper

/-- What holds at the start and is kept by each cycle without the event holds up to the event. -/
theorem FirstFrom.holds_upTo {event : Nat → Prop} {start last : Nat}
    (first : FirstFrom event start last) (holds : Nat → Prop) (initial : holds start)
    (preserved : ∀ cycle, start ≤ cycle → cycle < last → ¬ event cycle →
      holds cycle → holds (cycle + 1)) :
    ∀ cycle, start ≤ cycle → cycle ≤ last → holds cycle := by
  intro cycle after before
  induction cycle with
  | zero =>
      obtain rfl : start = 0 := by omega
      exact initial
  | succ cycle induction =>
      rcases Nat.eq_or_lt_of_le after with rfl | later
      · exact initial
      · exact preserved cycle (by omega) (by omega) (first.notBefore cycle (by omega) (by omega))
          (induction (by omega) (by omega))

theorem FirstFrom.holds_at {event : Nat → Prop} {start last : Nat}
    (first : FirstFrom event start last) (holds : Nat → Prop) (initial : holds start)
    (preserved : ∀ cycle, start ≤ cycle → cycle < last → ¬ event cycle →
      holds cycle → holds (cycle + 1)) : holds last :=
  first.holds_upTo holds initial preserved last first.after (Nat.le_refl last)

/-- The first event from an earlier start is the first one from a later start that it follows. -/
theorem FirstFrom.from_later {event : Nat → Prop} {start later last : Nat}
    (first : FirstFrom event start last) (after : start ≤ later) (before : later ≤ last) :
    FirstFrom event later last where
  after := before
  happens := first.happens
  notBefore := fun earlier lower upper => first.notBefore earlier (by omega) upper

/-- The event happens at `cycle`, for the last time before `bound`. -/
structure LastBefore (event : Nat → Prop) (bound cycle : Nat) : Prop where
  before : cycle < bound
  happens : event cycle
  notAfter : ∀ later, cycle < later → later < bound → ¬ event later

theorem lastBefore_succ_iff {event : Nat → Prop} {bound cycle : Nat} :
    LastBefore event (bound + 1) cycle ↔
      (event bound ∧ cycle = bound) ∨ (¬ event bound ∧ LastBefore event bound cycle) := by
  constructor
  · rintro ⟨before, happens, notAfter⟩
    rcases Nat.eq_or_lt_of_le (Nat.le_of_lt_succ before) with rfl | earlier
    · exact Or.inl ⟨happens, rfl⟩
    · exact Or.inr ⟨notAfter bound earlier (Nat.lt_succ_self bound), earlier, happens,
        fun later lower upper => notAfter later lower (by omega)⟩
  · rintro (⟨happens, rfl⟩ | ⟨notNow, last⟩)
    · exact ⟨Nat.lt_succ_self cycle, happens, fun later lower upper => by omega⟩
    · refine ⟨Nat.lt_succ_of_lt last.before, last.happens, fun later lower upper => ?_⟩
      rcases Nat.eq_or_lt_of_le (Nat.le_of_lt_succ upper) with rfl | earlier
      · exact notNow
      · exact last.notAfter later lower earlier

theorem LastBefore.unique {event : Nat → Prop} {bound cycle other : Nat}
    (last : LastBefore event bound cycle) (otherLast : LastBefore event bound other) :
    cycle = other := by
  rcases Nat.lt_trichotomy cycle other with earlier | same | later
  · exact absurd otherLast.happens (last.notAfter other earlier otherLast.before)
  · exact same
  · exact absurd last.happens (otherLast.notAfter cycle later last.before)

theorem LastBefore.congr {event other : Nat → Prop} {bound cycle : Nat}
    (last : LastBefore event bound cycle) (same : ∀ cycle, event cycle ↔ other cycle) :
    LastBefore other bound cycle where
  before := last.before
  happens := (same cycle).mp last.happens
  notAfter := fun later lower upper happens =>
    last.notAfter later lower upper ((same later).mpr happens)

/-- An event has a last occurrence, or none. -/
theorem exists_lastBefore_or_never (event : Nat → Prop) (bound : Nat) :
    (∃ cycle, LastBefore event bound cycle) ∨ ∀ cycle, cycle < bound → ¬ event cycle := by
  induction bound with
  | zero => exact Or.inr fun cycle below => absurd below (Nat.not_lt_zero cycle)
  | succ bound induction =>
      by_cases now : event bound
      · exact Or.inl ⟨bound, lastBefore_succ_iff.mpr (Or.inl ⟨now, rfl⟩)⟩
      · rcases induction with ⟨cycle, last⟩ | never
        · exact Or.inl ⟨cycle, lastBefore_succ_iff.mpr (Or.inr ⟨now, last⟩)⟩
        · refine Or.inr fun cycle below => ?_
          rcases Nat.eq_or_lt_of_le (Nat.le_of_lt_succ below) with rfl | earlier
          · exact now
          · exact never cycle earlier

/-- A condition that lasts until an event, when the event comes. -/
theorem exists_event_while (holds event : Nat → Prop) {start : Nat}
    (lasts : ∀ cycle, start ≤ cycle → holds cycle → ¬ event cycle → holds (cycle + 1))
    (initially : holds start) (eventually : ∃ cycle, start ≤ cycle ∧ event cycle) :
    ∃ cycle, start ≤ cycle ∧ event cycle ∧ holds cycle := by
  obtain ⟨last, ordered, happens⟩ := eventually
  have stillOrDone : ∀ cycle, start ≤ cycle → holds cycle ∨
      ∃ earlier, start ≤ earlier ∧ event earlier ∧ holds earlier := by
    intro cycle later
    induction cycle with
    | zero =>
        obtain rfl : start = 0 := by omega
        exact Or.inl initially
    | succ cycle induction =>
        rcases Nat.eq_or_lt_of_le later with rfl | below
        · exact Or.inl initially
        · rcases induction (Nat.le_of_lt_succ below) with still | done
          · by_cases now : event cycle
            · exact Or.inr ⟨cycle, Nat.le_of_lt_succ below, now, still⟩
            · exact Or.inl (lasts cycle (Nat.le_of_lt_succ below) still now)
          · exact Or.inr done
  rcases stillOrDone last ordered with still | done
  · exact ⟨last, ordered, happens, still⟩
  · exact done

/-! ## Counting an event -/

/-- The number of cycles from `first` up to, and without, `last` in which the event happens. -/
def occurrences (event : Nat → Bool) (first last : Nat) : Nat :=
  (List.range last).countP fun cycle => decide (first ≤ cycle) && event cycle

theorem occurrences_succ (event : Nat → Bool) {first last : Nat} (ordered : first ≤ last) :
    occurrences event first (last + 1) = occurrences event first last + (event last).toNat := by
  rw [occurrences, List.range_succ, List.countP_append, occurrences]
  cases happens : event last <;> simp [happens, ordered]

theorem occurrences_self (event : Nat → Bool) (cycle : Nat) :
    occurrences event cycle cycle = 0 := by
  rw [occurrences, List.countP_eq_zero]
  intro earlier inside
  have below := List.mem_range.mp inside
  have notAfter : ¬ cycle ≤ earlier := by omega
  simp [notAfter]

theorem occurrences_mono (event : Nat → Bool) {first last later : Nat} (ordered : first ≤ last)
    (isLater : last ≤ later) : occurrences event first last ≤ occurrences event first later := by
  induction later with
  | zero =>
      obtain rfl : last = 0 := by omega
      exact Nat.le_refl _
  | succ later induction =>
      rcases Nat.eq_or_lt_of_le isLater with rfl | below
      · exact Nat.le_refl _
      · rw [occurrences_succ event (by omega)]
        exact Nat.le_trans (induction (by omega)) (Nat.le_add_right _ _)

theorem occurrences_add (event : Nat → Bool) {start cycle : Nat} (ordered : start ≤ cycle) :
    occurrences event 0 start + occurrences event start cycle = occurrences event 0 cycle := by
  induction ordered with
  | refl => rw [occurrences_self, Nat.add_zero]
  | @step cycle ordered induction =>
      rw [Nat.succ_eq_add_one, occurrences_succ event ordered,
        occurrences_succ event (Nat.zero_le cycle), ← Nat.add_assoc, induction]

/-- An event is counted from the next cycle on. -/
theorem occurrences_lt (event : Nat → Bool) {first cycle later : Nat} (ordered : first ≤ cycle)
    (happens : event cycle = true) (isLater : cycle < later) :
    occurrences event first cycle < occurrences event first later := by
  have mono := occurrences_mono event (Nat.le_succ_of_le ordered) isLater
  rw [occurrences_succ event ordered, happens, Bool.toNat_true] at mono
  exact mono

/-- The cycle of an event is determined by the number of earlier ones. -/
theorem eq_of_occurrences_eq {event : Nat → Bool} {cycle other : Nat}
    (happens : event cycle = true) (otherHappens : event other = true)
    (sameCount : occurrences event 0 cycle = occurrences event 0 other) : cycle = other := by
  rcases Nat.lt_trichotomy cycle other with earlier | same | later
  · have := occurrences_lt event (Nat.zero_le cycle) happens earlier
    omega
  · exact same
  · have := occurrences_lt event (Nat.zero_le other) otherHappens later
    omega

/-- Every count below the present one was the count at some earlier event. -/
theorem exists_occurrence (event : Nat → Bool) {count cycle : Nat}
    (counted : count < occurrences event 0 cycle) :
    ∃ earlier, earlier < cycle ∧ event earlier = true ∧ occurrences event 0 earlier = count := by
  induction cycle with
  | zero => exact absurd counted (Nat.not_lt_zero _)
  | succ cycle induction =>
      rw [occurrences_succ event (Nat.zero_le cycle)] at counted
      rcases Nat.lt_or_ge count (occurrences event 0 cycle) with before | notBefore
      · obtain ⟨earlier, below, happens, same⟩ := induction before
        exact ⟨earlier, by omega, happens, same⟩
      · cases happens : event cycle with
        | false =>
            rw [happens, Bool.toNat_false] at counted
            omega
        | true =>
            rw [happens, Bool.toNat_true] at counted
            exact ⟨cycle, Nat.lt_succ_self _, happens, by omega⟩

/-! ## Events that carry a value -/

/-- The values an event yields in the cycles before the given one, in their order. -/
def collected (event : Nat → Option Value) : Nat → List Value
  | 0 => []
  | cycle + 1 => collected event cycle ++ (event cycle).toList

theorem collected_succ (event : Nat → Option Value) (cycle : Nat) :
    collected event (cycle + 1) = collected event cycle ++ (event cycle).toList := rfl

/-- Nothing is collected before the first event. -/
theorem collected_eq_nil {event : Nat → Option Value} {bound : Nat}
    (quiet : ∀ cycle, cycle < bound → event cycle = none) : collected event bound = [] := by
  induction bound with
  | zero => rfl
  | succ bound induction =>
      rw [collected_succ, induction fun cycle below => quiet cycle (by omega),
        quiet bound (Nat.lt_succ_self bound)]
      rfl

theorem collected_prefix (event : Nat → Option Value) {first last : Nat} (ordered : first ≤ last) :
    collected event first <+: collected event last := by
  induction last with
  | zero =>
      obtain rfl : first = 0 := by omega
      exact List.prefix_refl _
  | succ last induction =>
      rcases Nat.eq_or_lt_of_le ordered with rfl | below
      · exact List.prefix_refl _
      · exact (induction (Nat.le_of_lt_succ below)).trans (List.prefix_append _ _)

/-- A value stands at the number of the events before it. -/
theorem getElem?_collected {event : Nat → Option Value} {cycle last : Nat} {value : Value}
    (happens : event cycle = some value) (before : cycle < last) :
    (collected event last)[occurrences (fun cycle => (event cycle).isSome) 0 cycle]? =
      some value := by
  have length : ∀ cycle, (collected event cycle).length =
      occurrences (fun cycle => (event cycle).isSome) 0 cycle := by
    intro cycle
    induction cycle with
    | zero => rfl
    | succ cycle induction =>
        rw [collected_succ, List.length_append, induction,
          occurrences_succ _ (Nat.zero_le cycle)]
        cases event cycle <;> rfl
  have here : (collected event (cycle + 1))[(collected event cycle).length]? = some value := by
    rw [collected_succ, happens, List.getElem?_append_right (Nat.le_refl _), Nat.sub_self]
    rfl
  obtain ⟨later, same⟩ := collected_prefix event (Nat.succ_le_of_lt before)
  obtain ⟨inside, -⟩ := List.getElem?_eq_some_iff.mp here
  rw [← same, ← length cycle, List.getElem?_append_left inside]
  exact here

/-- Jobs that arrive one at a time and are given out in parts: if in each cycle what remains and
what arrives is what is given out and what remains afterwards, then nothing is lost, repeated or
reordered. -/
theorem collected_append_remaining {Job Part : Type _} (parts : Job → List Part)
    (arrives : Nat → Option Job) (emits : Nat → Option Part) (remaining : Nat → List Part)
    (bound : Nat) (initial : remaining 0 = [])
    (conserved : ∀ cycle, cycle < bound →
      remaining cycle ++ (arrives cycle).toList.flatMap parts =
        (emits cycle).toList ++ remaining (cycle + 1)) :
    collected emits bound ++ remaining bound = (collected arrives bound).flatMap parts := by
  induction bound with
  | zero => exact initial
  | succ bound induction =>
      have before := induction fun cycle below => conserved cycle (by omega)
      calc
        collected emits (bound + 1) ++ remaining (bound + 1) =
            collected emits bound ++ ((emits bound).toList ++ remaining (bound + 1)) := by
          rw [collected_succ, List.append_assoc]
        _ = collected emits bound ++
              (remaining bound ++ (arrives bound).toList.flatMap parts) := by
          rw [conserved bound (Nat.lt_succ_self bound)]
        _ = (collected arrives (bound + 1)).flatMap parts := by
          rw [← List.append_assoc, before, collected_succ, List.flatMap_append]

end SynchronousRun
