import RiscvCore.CommandQueue

/-!
# The fetch redirect protocol

Runs of the fetch stage on an in-order instruction bus.  After a redirect the prefetch FIFO
accepts the words from the redirect address on, in order, provided that no earlier redirect has
its own first request still outstanding: the marks of two redirects cannot be told apart.
-/

namespace RiscvCore

open BusProtocol (InOrder)
open RedirectQueue (Follows wordAddr)
open SynchronousRun (occurrences)

/-- A run of the fetch stage from reset. -/
structure FetchRun where
  pmpEnable : Bool
  bootAddr : Word
  inputs : Nat → IfStage.Input

namespace FetchRun

variable (run : FetchRun)

/-- The state before the given cycle. -/
def state (cycle : Nat) : IfStage :=
  SynchronousRun.run (IfStage.next run.pmpEnable) (IfStage.reset run.bootAddr) run.inputs cycle

theorem state_succ (cycle : Nat) :
    run.state (cycle + 1) = (run.state cycle).next run.pmpEnable (run.inputs cycle) := rfl

/-- The instruction bus. -/
def bus (cycle : Nat) : BusProtocol.Cycle Word Word where
  req := (run.state cycle).instrReq (run.inputs cycle)
  gnt := (run.inputs cycle).instrGnt
  addr := (run.state cycle).instrAddr (run.inputs cycle)
  valid := (run.inputs cycle).instrValid
  data := (run.inputs cycle).instrRdata

/-- The surroundings of the fetch stage: no request is denied, and the bus answers every grant in
order, at least one cycle later, with the word at its address. -/
structure Environment (memory : Word → Word) : Prop where
  noDenial : ∀ cycle,
    (run.state cycle).pmpErr run.pmpEnable (run.inputs cycle) = false
  inOrder : InOrder (fun addr word => word = memory addr) run.bus

/-- The bus answers only requests that it has granted. -/
def AnswersQueued : Prop :=
  ∀ cycle, (run.inputs cycle).instrValid = true → BusProtocol.pending run.bus cycle ≠ []

def redirects (cycle : Nat) : Bool := (run.inputs cycle).setPcValid

/-- The prefetch FIFO takes the word of the cycle. -/
def accepts (cycle : Nat) : Bool := (run.state cycle).accepts (run.inputs cycle)

/-- The word offered to the prefetch FIFO, its error bit left out. -/
def word (cycle : Nat) : Word := ((run.state cycle).fifoWdata (run.inputs cycle)).extractLsb' 0 32

/-- `T & ~3` for the redirect address `T` of the cycle. -/
def base (cycle : Nat) : Word := (run.inputs cycle).setPc.extractLsb' 2 30 ++ 0#2

/-- The cycle is later than the redirect, and no other redirect has come up to it. -/
structure Since (redirect cycle : Nat) : Prop where
  redirects : run.redirects redirect = true
  later : redirect < cycle
  latest : ∀ between, redirect < between → between ≤ cycle → run.redirects between = false

/-- The k-th word accepted after the most recent redirect to `T` is the memory word at
`(T & ~3) + 4k`, and it answers no request granted before the redirect. -/
def RedirectProtocol (memory : Word → Word) : Prop :=
  ∀ redirect cycle, run.Since redirect cycle → run.accepts cycle = true →
    run.word cycle =
        memory (wordAddr (run.base redirect) (occurrences run.accepts (redirect + 1) cycle)) ∧
      BusProtocol.grantsBefore run.bus redirect ≤ BusProtocol.answersBefore run.bus cycle

/-- At every redirect the stage has left reset, and no request that stays in the command FIFO
carries the mark of an earlier redirect. -/
def MarksConsumed : Prop :=
  ∀ cycle, run.redirects cycle = true → (run.state cycle).isBoot = true ∧
    ∀ slot, (run.state cycle).cmdFifo.validAt slot = true →
      (slot = 0 ∧ (run.inputs cycle).instrValid = true) ∨
        ((run.state cycle).cmdFifo.dataAt slot).getLsbD 0 = false

variable {run} {memory : Word → Word}

theorem isBoot_of_later (run : FetchRun) {earlier cycle : Nat} (later : earlier < cycle) :
    (run.state cycle).isBoot = true := by
  cases cycle with
  | zero => omega
  | succ cycle => rfl

/-- The marks in the command FIFO belong to the requests queued on the bus. -/
structure Aligned (run : FetchRun) (cycle : Nat) (marks : List Bool) : Prop where
  queue : (run.state cycle).CommandQueue marks
  length : marks.length = (BusProtocol.pending run.bus cycle).length

theorem Environment.queued (environment : run.Environment memory) : run.AnswersQueued := by
  intro cycle valid empty
  obtain ⟨addr, rest, pending, -⟩ := environment.inOrder.answered cycle valid
  rw [empty] at pending
  cases pending

theorem Aligned.nonempty {cycle : Nat} {marks : List Bool} (aligned : run.Aligned cycle marks)
    (queued : run.AnswersQueued) (valid : (run.inputs cycle).instrValid = true) : marks ≠ [] := by
  intro empty
  have length := aligned.length
  rw [empty, List.length_nil] at length
  exact queued cycle valid (List.eq_nil_of_length_eq_zero length.symm)

theorem Aligned.step {cycle : Nat} {marks : List Bool} (aligned : run.Aligned cycle marks)
    (noDenial : (run.state cycle).pmpErr run.pmpEnable (run.inputs cycle) = false)
    (queued : run.AnswersQueued) :
    run.Aligned (cycle + 1) ((run.state cycle).nextMarks (run.inputs cycle) marks) where
  queue := aligned.queue.next noDenial (aligned.nonempty queued)
  length := by
    have sameGrant : (run.state cycle).granted (run.inputs cycle) = (run.bus cycle).granted := rfl
    rw [IfStage.nextMarks, BusProtocol.pending_succ, BusProtocol.nextPending, sameGrant,
      List.length_append, List.length_append]
    have sameValid : (run.bus cycle).valid = (run.inputs cycle).instrValid := rfl
    rw [sameValid]
    cases (run.inputs cycle).instrValid <;> cases (run.bus cycle).granted <;>
      simp [aligned.length]

theorem exists_aligned
    (noDenial : ∀ cycle, (run.state cycle).pmpErr run.pmpEnable (run.inputs cycle) = false)
    (queued : run.AnswersQueued) (cycle : Nat) : ∃ marks, run.Aligned cycle marks := by
  induction cycle with
  | zero => exact ⟨[], IfStage.commandQueue_reset run.bootAddr, rfl⟩
  | succ cycle induction =>
      obtain ⟨marks, aligned⟩ := induction
      exact ⟨_, aligned.step (noDenial cycle) queued⟩

/-- The stage follows the redirect with the given number of stale requests, of which the bus
has still to answer those granted before the redirect. -/
def Following (run : FetchRun) (redirect cycle : Nat) : Prop :=
  ∃ marks stale live, run.Aligned cycle marks ∧
    Follows (run.state cycle).tracker (BusProtocol.pending run.bus cycle) marks
      (run.base redirect) (occurrences run.accepts (redirect + 1) cycle) stale live ∧
    BusProtocol.grantsBefore run.bus redirect ≤
      BusProtocol.answersBefore run.bus cycle + stale

/-- The request granted in a cycle goes to `T & ~3` in a redirect, to the prefetch address
otherwise. -/
theorem instrAddr_redirect {cycle : Nat} (redirects : run.redirects cycle = true) :
    (run.state cycle).instrAddr (run.inputs cycle) = run.base cycle := by
  have isRedirect : (run.inputs cycle).setPcValid = true := redirects
  rw [IfStage.instrAddr, IfStage.fifoClear_eq, isRedirect, if_pos rfl, IfStage.setInstrAddr,
    isRedirect, if_pos rfl, base]

theorem instrAddr_noRedirect {cycle : Nat} (noRedirect : run.redirects cycle = false) :
    (run.state cycle).instrAddr (run.inputs cycle) = (run.state cycle).tracker.nextAddr := by
  have isNone : (run.inputs cycle).setPcValid = false := noRedirect
  rw [IfStage.instrAddr, IfStage.fifoClear_eq, isNone]
  rfl

theorem updiscon_noRedirect {cycle : Nat} (noRedirect : run.redirects cycle = false) :
    (run.state cycle).updiscon (run.inputs cycle) = (run.state cycle).tracker.marking := by
  have isNone : (run.inputs cycle).setPcValid = false := noRedirect
  rw [IfStage.updiscon, IfStage.updisconNew, isNone]
  rfl

theorem word_eq (run : FetchRun) (cycle : Nat) :
    run.word cycle = (run.inputs cycle).instrRdata := by
  rw [word, IfStage.fifoWdata]
  exact BitVec.extractLsb'_append_eq_right

/-- The marks left by the answer of a redirect's cycle are all clear if the only mark in the
FIFO is the one being answered. -/
theorem Aligned.unmarked {cycle : Nat} {marks : List Bool} (aligned : run.Aligned cycle marks)
    (consumed : ∀ slot, (run.state cycle).cmdFifo.validAt slot = true →
      (slot = 0 ∧ (run.inputs cycle).instrValid = true) ∨
        ((run.state cycle).cmdFifo.dataAt slot).getLsbD 0 = false) :
    ∀ mark ∈ (if (run.inputs cycle).instrValid then marks.tail else marks), mark = false := by
  have clear := aligned.queue.holds.forall_remaining (fun word => word.getLsbD 0 = false) consumed
  intro mark inside
  rw [← IfStage.getLsbD_zero_command mark]
  apply clear
  rw [← List.map_tail, ← apply_ite (List.map IfStage.command)]
  exact List.mem_map_of_mem inside

/-- A redirect that finds no mark but one answered in the same cycle is followed from the next
cycle on. -/
theorem following_redirect (environment : run.Environment memory)
    (consumed : run.MarksConsumed) {redirect : Nat}
    (redirects : run.redirects redirect = true) : run.Following redirect (redirect + 1) := by
  obtain ⟨marks, aligned⟩ := exists_aligned environment.noDenial environment.queued redirect
  obtain ⟨booted, unmarked⟩ := consumed redirect redirects
  have clear := aligned.unmarked unmarked
  have isRedirect : (run.inputs redirect).setPcValid = true := redirects
  let pending := BusProtocol.pending run.bus redirect
  let valid := (run.inputs redirect).instrValid
  have sameLength : (if valid then marks.tail else marks).length =
      (if valid then pending.tail else pending).length := by
    have length : marks.length = pending.length := aligned.length
    cases valid <;> simp [length]
  have fresh := RedirectQueue.follows_redirect clear sameLength (run.base redirect)
  obtain ⟨live, follows⟩ := fresh.grantIf ((run.state redirect).granted (run.inputs redirect))
  have tracker := run.state_succ redirect ▸
    IfStage.tracker_next_redirect booted isRedirect (environment.inOrder.requested redirect)
  have pendingNext : BusProtocol.pending run.bus (redirect + 1) =
      (if valid then pending.tail else pending) ++
        (if (run.state redirect).granted (run.inputs redirect) then [run.base redirect]
          else []) := by
    rw [← instrAddr_redirect redirects]
    rfl
  have marksNext : (run.state redirect).nextMarks (run.inputs redirect) marks =
      (if valid then marks.tail else marks) ++
        (if (run.state redirect).granted (run.inputs redirect) then [true] else []) := by
    rw [IfStage.nextMarks, IfStage.updiscon, IfStage.updisconNew, isRedirect]
    rfl
  have staleCount : BusProtocol.grantsBefore run.bus redirect ≤
      BusProtocol.answersBefore run.bus (redirect + 1) +
        (if valid then pending.tail else pending).length := by
    have counted : BusProtocol.answersBefore run.bus redirect + pending.length = _ :=
      environment.inOrder.length_pending redirect
    have sameValid : (run.bus redirect).valid = valid := rfl
    rw [BusProtocol.answersBefore_succ, ← counted, sameValid]
    cases valid
    · simp
    · simp
      omega
  refine ⟨_, _, live, aligned.step (environment.noDenial redirect) environment.queued, ?_,
    staleCount⟩
  rw [SynchronousRun.occurrences_self, tracker, instrAddr_redirect redirects, pendingNext,
    marksNext]
  exact follows

/-- Without a redirect the stage keeps following, and what it accepts is the next word. -/
theorem following_step (environment : run.Environment memory) {redirect cycle : Nat}
    (following : run.Following redirect cycle) (later : redirect < cycle)
    (noRedirect : run.redirects cycle = false) :
    (run.accepts cycle = true →
      run.word cycle = memory
          (wordAddr (run.base redirect) (occurrences run.accepts (redirect + 1) cycle)) ∧
        BusProtocol.grantsBefore run.bus redirect ≤
          BusProtocol.answersBefore run.bus cycle) ∧
      run.Following redirect (cycle + 1) := by
  obtain ⟨marks, stale, live, aligned, follows, counted⟩ := following
  have isNone : (run.inputs cycle).setPcValid = false := noRedirect
  have marksNonempty : (run.inputs cycle).instrValid = true → marks ≠ [] :=
    aligned.nonempty environment.queued
  have answers := aligned.queue.answersMarks marksNonempty
  have acceptsEq := answers.accepts isNone
  obtain ⟨accepted, staleNext, liveNext, keeps, followsNext⟩ :=
    follows.cycle (run.inputs cycle).instrValid
      ((run.state cycle).granted (run.inputs cycle))
      (environment.queued cycle)
  rw [← acceptsEq] at accepted followsNext
  constructor
  · intro accepts
    obtain ⟨noStale, head⟩ := accepted accepts
    have valid : (run.inputs cycle).instrValid = true := by
      rw [FetchRun.accepts, acceptsEq, Bool.and_eq_true] at accepts
      exact accepts.1
    obtain ⟨addr, rest, pending, answers⟩ := environment.inOrder.answered cycle valid
    rw [pending, List.head?_cons, Option.some.injEq] at head
    rw [noStale] at counted
    exact ⟨by rw [word_eq, ← head]; exact answers, counted⟩
  · have markingDiscards : (run.state cycle).updisconQ = true →
        (run.state cycle).fifoFlush = true := follows.marking_discarding
    have tracker := run.state_succ cycle ▸
      answers.tracker_next (isBoot_of_later run later)
        (environment.inOrder.requested cycle) isNone markingDiscards
    have pendingNext : BusProtocol.pending run.bus (cycle + 1) =
        (if (run.inputs cycle).instrValid then (BusProtocol.pending run.bus cycle).tail
          else BusProtocol.pending run.bus cycle) ++
          (if (run.state cycle).granted (run.inputs cycle) then
            [(run.state cycle).tracker.nextAddr] else []) := by
      rw [← instrAddr_noRedirect noRedirect]
      rfl
    have acceptedCount : BusProtocol.answersBefore run.bus (cycle + 1) =
        BusProtocol.answersBefore run.bus cycle + (run.inputs cycle).instrValid.toNat :=
      BusProtocol.answersBefore_succ run.bus cycle
    refine ⟨_, staleNext, liveNext,
      aligned.step (environment.noDenial cycle) environment.queued, ?_, by omega⟩
    rw [SynchronousRun.occurrences_succ _ later, tracker, pendingNext, IfStage.nextMarks,
      updiscon_noRedirect noRedirect]
    exact followsNext

theorem following_of_since (environment : run.Environment memory)
    (consumed : run.MarksConsumed) {redirect cycle : Nat}
    (redirects : run.redirects redirect = true) (later : redirect < cycle)
    (latest : ∀ between, redirect < between → between < cycle →
      run.redirects between = false) : run.Following redirect cycle := by
  induction cycle with
  | zero => omega
  | succ cycle induction =>
      rcases Nat.eq_or_lt_of_le (Nat.le_of_lt_succ later) with rfl | above
      · exact following_redirect environment consumed redirects
      · have following := induction above fun between lower upper =>
          latest between lower (by omega)
        exact (following_step environment following above
          (latest cycle above (Nat.lt_succ_self _))).2

/-- The redirect protocol holds in every run in which each redirect finds the marks of the
earlier ones consumed. -/
theorem redirectProtocol_of_marksConsumed (run : FetchRun) (memory : Word → Word)
    (environment : run.Environment memory) (consumed : run.MarksConsumed) :
    run.RedirectProtocol memory := by
  intro redirect cycle since accepts
  have following := following_of_since environment consumed since.redirects since.later
    fun between lower upper => since.latest between lower (Nat.le_of_lt upper)
  exact (following_step environment following since.later
    (since.latest cycle since.later (Nat.le_refl _))).1 accepts

/-- A run in M mode without locked regions, in which the bus and the redirects follow a script
and every memory word is its own address. -/
def scripted (redirect : Nat → Option Word) (grants : Nat → Bool) (answers : Nat → Option Word) :
    FetchRun where
  pmpEnable := true
  bootAddr := 0#32
  inputs := fun cycle =>
    { fetchEnable := true
      flushF := (redirect cycle).isSome
      stallF := false
      readyId := true
      setPcValid := (redirect cycle).isSome
      setPc := (redirect cycle).getD 0#32
      privilegeMode := privLvlM
      pmpcfg := fun _ => 0#8
      pmpaddr := fun _ => 0#32
      instrGnt := grants cycle
      instrRdata := (answers cycle).getD 0#32
      instrErr := false
      instrValid := (answers cycle).isSome }

variable {redirect : Nat → Option Word} {grants : Nat → Bool} {answers : Nat → Option Word}

theorem noDenial_scripted (cycle : Nat) :
    ((scripted redirect grants answers).state cycle).pmpErr true
      ((scripted redirect grants answers).inputs cycle) = false := by
  simp [IfStage.pmpErr, Pmp.wiredPmpErr, Pmp.pmpErr, Pmp.Entries.pmpErrO,
    Pmp.Entries.mModeFail, Pmp.Entries.chainFail, Pmp.Entries.mModeEntryFail, Pmp.entriesOf,
    Pmp.pmpLock, scripted]

/-- A script that is quiet after some cycle obeys the bus protocol if it does so up to there. -/
theorem environment_scripted (bound : Nat) (noGrants : ∀ cycle, bound ≤ cycle →
      grants cycle = false) (noAnswers : ∀ cycle, bound ≤ cycle → answers cycle = none)
    (requested : ∀ cycle < bound, grants cycle = true →
      ((scripted redirect grants answers).bus cycle).req = true)
    (answered : ∀ cycle < bound, (answers cycle).isSome = true →
      (BusProtocol.pending (scripted redirect grants answers).bus cycle).head? =
        some ((answers cycle).getD 0#32)) :
    (scripted redirect grants answers).Environment id where
  noDenial := noDenial_scripted
  inOrder :=
    { requested := fun cycle granted => by
        rcases Nat.lt_or_ge cycle bound with inside | outside
        · exact requested cycle inside granted
        · have isGranted : grants cycle = true := granted
          rw [noGrants cycle outside] at isGranted
          cases isGranted
      answered := fun cycle valid => by
        have isAnswered : (answers cycle).isSome = true := valid
        rcases Nat.lt_or_ge cycle bound with inside | outside
        · obtain ⟨rest, queue⟩ := List.head?_eq_some_iff.mp (answered cycle inside isAnswered)
          exact ⟨_, rest, queue, rfl⟩
        · rw [noAnswers cycle outside] at isAnswered
          cases isAnswered }

/-- A second redirect in the cycle that answers the request of the first one. -/
def spacedRedirects : FetchRun :=
  scripted
    (fun cycle => if cycle = 1 then some 0x100#32 else if cycle = 2 then some 0x202#32 else none)
    (fun cycle => decide (cycle = 1) || decide (cycle = 3))
    (fun cycle => if cycle = 2 then some 0x100#32 else if cycle = 4 then some 0x200#32 else none)

theorem environment_spacedRedirects : spacedRedirects.Environment id :=
  environment_scripted 5 (fun cycle late => by simp; omega)
    (fun cycle late => by rw [if_neg (by omega), if_neg (by omega)])
    (by decide +kernel) (by decide +kernel)

theorem redirectProtocol_spacedRedirects : spacedRedirects.RedirectProtocol id :=
  redirectProtocol_of_marksConsumed spacedRedirects id environment_spacedRedirects
    (fun cycle redirects => by
      have early : cycle = 1 ∨ cycle = 2 := by
        change Option.isSome (if cycle = 1 then _ else if cycle = 2 then _ else none) = true
          at redirects
        split at redirects
        · exact Or.inl ‹_›
        · split at redirects
          · exact Or.inr ‹_›
          · cases redirects
      refine ⟨by rcases early with rfl | rfl <;> rfl, fun slot isValid => ?_⟩
      rcases slot with zero | zero | slot
      · rcases early with rfl | rfl
        · cases isValid
        · exact Or.inl ⟨rfl, rfl⟩
      · rcases early with rfl | rfl <;> cases isValid
      · rw [SyncFifo.validAt, dif_neg (by omega)] at isValid
        cases isValid)

/-- The request of a second redirect is granted before that of the first one is answered. -/
def overlappingRedirects : FetchRun :=
  scripted
    (fun cycle => if cycle = 1 then some 0x100#32 else if cycle = 2 then some 0x200#32 else none)
    (fun cycle => decide (cycle = 1) || decide (cycle = 2))
    (fun cycle => if cycle = 3 then some 0x100#32 else if cycle = 4 then some 0x200#32 else none)

/-- The word of the first redirect is accepted for the second one. -/
theorem redirectProtocol_fails :
    ¬ ∀ (run : FetchRun) (memory : Word → Word), run.Environment memory →
      run.RedirectProtocol memory := by
  intro protocol
  have environment : overlappingRedirects.Environment id :=
    environment_scripted 5 (fun cycle late => by simp; omega)
      (fun cycle late => by rw [if_neg (by omega), if_neg (by omega)])
      (by decide +kernel) (by decide +kernel)
  have since : overlappingRedirects.Since 2 3 :=
    { redirects := rfl
      later := by decide
      latest := fun between lower upper => by
        obtain rfl : between = 3 := by omega
        rfl }
  have accepts : overlappingRedirects.accepts 3 = true := by decide +kernel
  have stale : overlappingRedirects.word 3 = 0x100#32 := by decide +kernel
  have expected : wordAddr (overlappingRedirects.base 2)
      (occurrences overlappingRedirects.accepts (2 + 1) 3) = 0x200#32 := by decide +kernel
  have same := (protocol overlappingRedirects id environment 2 3 since accepts).1
  rw [stale, expected] at same
  cases same

end FetchRun

end RiscvCore
