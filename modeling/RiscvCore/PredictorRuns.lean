import RiscvCore.BtbLookups
import RiscvCore.PredictedTargets
import RiscvCore.Predictor
import RiscvCore.SaturatingCounter

/-!
# What the branch predictor answers

Runs of the predictor from reset, with any fetches and anything in EX.  A branch is predicted from
the outcomes that EX reported for its slot before the lookup, an indirect jump from the last jump
that EX corrected there, and a direct jump always in the same way.
-/

namespace RiscvCore

open SynchronousRun (LastBefore lastBefore_succ_iff)

namespace Bht

variable {depth : Nat} (inputs : Nat → Input)

def state : Nat → Bht depth := SynchronousRun.run next reset inputs

/-- The outcomes reported for a slot before a cycle, the latest first. -/
def outcomes (slot : BitVec (bhtWidth depth)) : Nat → List Bool
  | 0 => []
  | cycle + 1 =>
    if (inputs cycle).updateEn && slot == addr depth (inputs cycle) then
      (inputs cycle).taken :: outcomes slot cycle
    else outcomes slot cycle

/-- An update counts up to 3 and down to 0. -/
theorem toNat_updateBht : ∀ (counter : BitVec 2) (taken : Bool),
    (updateBht counter taken).toNat = SaturatingCounter.count 3 taken counter.toNat := by
  decide

/-- The upper bit of a counter says that it is in its upper half. -/
theorem getLsbD_one : ∀ counter : BitVec 2,
    counter.getLsbD 1 = decide (3 < 2 * counter.toNat) := by
  decide

variable {inputs}

theorem satCounterQ_succ (slot : BitVec (bhtWidth depth)) (cycle : Nat) :
    (state inputs (cycle + 1)).satCounterQ slot =
      if (inputs cycle).updateEn && slot == addr depth (inputs cycle) then
        updateBht ((state inputs cycle).satCounterQ slot) (inputs cycle).taken
      else (state inputs cycle).satCounterQ slot := rfl

/-- A counter has followed the outcomes of its slot. -/
theorem toNat_satCounterQ (slot : BitVec (bhtWidth depth)) (cycle : Nat) :
    ((state inputs cycle).satCounterQ slot).toNat =
      SaturatingCounter.value 3 (outcomes inputs slot cycle) := by
  induction cycle with
  | zero => rfl
  | succ cycle induction =>
      rw [satCounterQ_succ, outcomes]
      cases (inputs cycle).updateEn && slot == addr depth (inputs cycle) with
      | true =>
          rw [if_pos rfl, if_pos rfl, toNat_updateBht, induction]
          rfl
      | false => exact induction

theorem predictTaken_succ (cycle : Nat) :
    (state inputs (cycle + 1) : Bht depth).predictTaken =
      if (inputs cycle).rdEn then
        ((state inputs cycle).satCounterQ (rAddr depth (inputs cycle))).getLsbD 1
      else (state inputs cycle : Bht depth).predictTaken := rfl

/-- The output is what the last lookup found. -/
theorem predictTaken_eq {bound lookup : Nat}
    (last : LastBefore (fun cycle => (inputs cycle).rdEn = true) bound lookup) :
    (state inputs bound : Bht depth).predictTaken =
      SaturatingCounter.expects 3 (outcomes inputs (rAddr depth (inputs lookup)) lookup) := by
  induction bound with
  | zero => exact absurd last.before (Nat.not_lt_zero lookup)
  | succ bound induction =>
      rw [predictTaken_succ]
      rcases lastBefore_succ_iff.mp last with ⟨looked, rfl⟩ | ⟨holds, earlier⟩
      · rw [if_pos looked, getLsbD_one, toNat_satCounterQ]
        rfl
      · rw [if_neg holds]
        exact induction earlier

theorem predictTaken_eq_false {bound : Nat}
    (never : ∀ cycle, cycle < bound → ¬ (inputs cycle).rdEn = true) :
    (state inputs bound : Bht depth).predictTaken = false := by
  induction bound with
  | zero => rfl
  | succ bound induction =>
      rw [predictTaken_succ, if_neg (never bound (Nat.lt_succ_self bound))]
      exact induction fun cycle below => never cycle (by omega)

end Bht

namespace BranchPredict

variable {port : Input}

theorem notRvcJump_of_rvcBranch {instr : Word} (branch : rvcBranch instr = true) :
    rvcJump instr = false := by
  simp only [rvcBranch, Bool.and_eq_true, Bool.or_eq_true, beq_iff_eq] at branch
  obtain ⟨-, funct3 | funct3⟩ := branch
  · simp [rvcJump, rvcJal, rvcJ, funct3]
  · simp [rvcJump, rvcJal, rvcJ, funct3]

theorem notRvJump_of_rvBranch {instr : Word} (branch : rvBranch instr = true) :
    rvJump instr = false := by
  rw [rvBranch, beq_iff_eq] at branch
  rw [rvJump, branch]
  rfl

theorem notJump_of_isBranch (branch : isBranch port = true) : isJump port = false := by
  simp only [isBranch, Bool.and_eq_true, Bool.or_eq_true] at branch
  have notDirect : (rvcJump port.fetchRdata || rvJump port.fetchRdata) = false := by
    cases compressed : isRvc port.fetchRdata with
    | true =>
        obtain ⟨notBranch, notJump, -⟩ := notFull_of_isRvc compressed
        rw [notBranch] at branch
        have rvc := branch.2.resolve_right Bool.false_ne_true
        rw [notRvcJump_of_rvcBranch rvc, notJump, Bool.or_false]
    | false =>
        obtain ⟨notBranch, notJump, -⟩ := notRvc_of_full compressed
        rw [notBranch] at branch
        have full := branch.2.resolve_left Bool.false_ne_true
        rw [notRvJump_of_rvBranch full, notJump, Bool.or_false]
  rw [isJump, notDirect, Bool.and_false]

theorem predict_branch (branch : isBranch port = true) :
    predict port = (port.bhtPredict, port.fetchPc + imm port.fetchRdata) := by
  rw [predict, branch, isJalr_of_direct (.inl branch), notJump_of_isBranch branch]
  rfl

theorem predict_jump (jump : isJump port = true) :
    predict port = (port.enaJump, port.fetchPc + imm port.fetchRdata) := by
  have notBranch : isBranch port = false := by
    cases branch : isBranch port with
    | false => rfl
    | true => exact absurd jump (ne_of_eq_of_ne (notJump_of_isBranch branch) Bool.false_ne_true)
  rw [predict, jump, isJalr_of_direct (.inr jump), notBranch]
  rfl

theorem predict_jalr (jalr : isJalr port = true) :
    predict port = (port.btbPredict, port.btbAddr ++ 0#1) := by
  have notDirect : ¬ (isBranch port = true ∨ isJump port = true) := by
    intro direct
    rw [isJalr_of_direct direct] at jalr
    cases jalr
  rw [not_or, Bool.not_eq_true, Bool.not_eq_true] at notDirect
  rw [predict, jalr, notDirect.1, notDirect.2]

theorem predict_other (notBranch : isBranch port = false) (notJalr : isJalr port = false)
    (notJump : isJump port = false) : predict port = (false, 0#32) := by
  rw [predict, notBranch, notJalr, notJump]

end BranchPredict

namespace Predictor

variable (params : Params) (cycles : Nat → Cycle)

def state : Nat → Predictor := SynchronousRun.run (fun st now => st.next now.input) reset cycles

/-- The fetch stage looks up the next PC. -/
def Looks (cycle : Nat) : Prop := (cycles cycle).fetch.predictEn = true

def btbInputs (cycle : Nat) : Btb.Input := btbInput (cycles cycle).input

def bhtInputs (cycle : Nat) : Bht.Input := bhtInput (cycles cycle).input

/-- What EX reported before a cycle about the branches of a PC's slot, the latest first. -/
def outcomes (pc : Word) (cycle : Nat) : List Bool :=
  Bht.outcomes (bhtInputs cycles) (Bht.slot 1024 pc) cycle

/-- What the predictor reads of the fetched word. -/
def fetched (cycle : Nat) : BranchPredict.Input :=
  (state cycles cycle).predictInput params (cycles cycle).input

def answer (cycle : Nat) : Bool × Word := (state cycles cycle).predict params (cycles cycle).input

/-- The target of a direct branch or jump. -/
def directTarget (cycle : Nat) : Word :=
  (cycles cycle).fetch.fetchPc + BranchPredict.imm (cycles cycle).fetch.fetchRdata

/-- What the predictor answers in a cycle. -/
structure Foretells (cycle : Nat) : Prop where
  branch : BranchPredict.isBranch (fetched params cycles cycle) = true → ∀ lookup,
    LastBefore (Looks cycles) cycle lookup → answer params cycles cycle =
      (params.enaBht && SaturatingCounter.expects 3
        (outcomes cycles (cycles lookup).fetch.fetchPcN lookup), directTarget cycles cycle)
  /-- More than one outcome of the same kind is followed. -/
  settled : params.enaBht = true → BranchPredict.isBranch (fetched params cycles cycle) = true →
    ∀ lookup taken earlier, LastBefore (Looks cycles) cycle lookup →
      outcomes cycles (cycles lookup).fetch.fetchPcN lookup =
        List.replicate 2 taken ++ earlier →
      answer params cycles cycle = (taken, directTarget cycles cycle)
  /-- A single exception, such as the end of a loop, is forgiven. -/
  steady : params.enaBht = true → BranchPredict.isBranch (fetched params cycles cycle) = true →
    ∀ lookup taken earlier, LastBefore (Looks cycles) cycle lookup →
      outcomes cycles (cycles lookup).fetch.fetchPcN lookup =
        (!taken) :: (List.replicate 3 taken ++ earlier) →
      answer params cycles cycle = (taken, directTarget cycles cycle)
  firstBranch : BranchPredict.isBranch (fetched params cycles cycle) = true →
    (∀ lookup, lookup < cycle → ¬ Looks cycles lookup) →
      answer params cycles cycle = (false, directTarget cycles cycle)
  jump : BranchPredict.isJump (fetched params cycles cycle) = true →
    answer params cycles cycle = (params.enaJump, directTarget cycles cycle)
  jalr : params.enaBtb = true → BranchPredict.isJalr (fetched params cycles cycle) = true →
    ∀ lookup update, Btb.Answered (btbInputs cycles) lookup cycle →
      Btb.StoredFor 128 (btbInputs cycles) lookup update →
      answer params cycles cycle =
        (true, (ExStage.jumpTargetAddr (cycles update).ex).extractLsb' 1 31 ++ 0#1)
  noJalr : BranchPredict.isJalr (fetched params cycles cycle) = true →
    (¬ ∃ lookup update, Btb.Answered (btbInputs cycles) lookup cycle ∧
      Btb.StoredFor 128 (btbInputs cycles) lookup update) →
      (answer params cycles cycle).1 = false
  other : BranchPredict.isBranch (fetched params cycles cycle) = false →
    BranchPredict.isJalr (fetched params cycles cycle) = false →
    BranchPredict.isJump (fetched params cycles cycle) = false →
      answer params cycles cycle = (false, 0#32)

variable {params cycles}

theorem btb_state (cycle : Nat) :
    (state cycles cycle).btb = Btb.state 128 (btbInputs cycles) cycle := by
  induction cycle with
  | zero => rfl
  | succ cycle induction =>
      exact congrArg (fun btb => Btb.next btb (btbInputs cycles cycle)) induction

theorem bht_state (cycle : Nat) :
    (state cycles cycle).bht = Bht.state (bhtInputs cycles) cycle := by
  induction cycle with
  | zero => rfl
  | succ cycle induction =>
      exact congrArg (fun bht => Bht.next bht (bhtInputs cycles cycle)) induction

/-- EX corrects the target of a jump only when it reports a failure, which stops the lookup. -/
theorem btbRd_exclusive (cycle : Nat) (looked : (btbInputs cycles cycle).btbRd = true) :
    (btbInputs cycles cycle).btbWr = false := by
  have noFail : ExStage.predictFail (cycles cycle).ex = false := by
    change ((cycles cycle).fetch.predictEn && !ExStage.predictFail (cycles cycle).ex) = true
      at looked
    rw [Bool.and_eq_true, Bool.not_eq_true'] at looked
    exact looked.2
  rw [ExStage.predictFail, Bool.or_eq_false_iff] at noFail
  change (ExStage.btbFail (cycles cycle).ex && !(cycles cycle).flushE) = false
  rw [noFail.2, Bool.false_and]

theorem answer_branch {cycle lookup : Nat}
    (branch : BranchPredict.isBranch (fetched params cycles cycle) = true)
    (last : LastBefore (Looks cycles) cycle lookup) :
    answer params cycles cycle =
      (params.enaBht && SaturatingCounter.expects 3
        (outcomes cycles (cycles lookup).fetch.fetchPcN lookup), directTarget cycles cycle) := by
  have found : (state cycles cycle).bht.predictTaken = SaturatingCounter.expects 3
      (outcomes cycles (cycles lookup).fetch.fetchPcN lookup) := by
    rw [bht_state]
    exact Bht.predictTaken_eq last
  rw [answer, predict]
  refine (BranchPredict.predict_branch branch).trans ?_
  rw [← found]
  rfl

theorem answer_jalr {cycle : Nat}
    (jalr : BranchPredict.isJalr (fetched params cycles cycle) = true) :
    answer params cycles cycle =
      (params.enaBtb && (Btb.state 128 (btbInputs cycles) cycle).btbHit,
        (if params.enaBtb then (Btb.state 128 (btbInputs cycles) cycle).targetPcR else 0#31) ++
          0#1) := by
  rw [← btb_state]
  exact BranchPredict.predict_jalr jalr

/-- The predictor answers from what EX reported before the lookup. -/
theorem foretells (params : Params) (cycles : Nat → Cycle) (cycle : Nat) :
    Foretells params cycles cycle where
  branch := fun branch lookup last => answer_branch branch last
  settled := fun enabled branch lookup taken earlier last reported => by
    rw [answer_branch branch last, enabled, reported, Bool.true_and,
      SaturatingCounter.expects_of_row (by decide) (by decide)]
  steady := fun enabled branch lookup taken earlier last reported => by
    rw [answer_branch branch last, enabled, reported, Bool.true_and,
      SaturatingCounter.expects_of_exception (by decide)]
  firstBranch := fun branch never => by
    have none : (state cycles cycle).bht.predictTaken = false := by
      rw [bht_state]
      exact Bht.predictTaken_eq_false never
    refine (BranchPredict.predict_branch branch).trans ?_
    change (params.enaBht && (state cycles cycle).bht.predictTaken, _) = _
    rw [none, Bool.and_false]
    rfl
  jump := fun jump => BranchPredict.predict_jump jump
  jalr := fun enabled jalr lookup update answered stored => by
    rw [answer_jalr jalr, enabled,
      (Btb.btbHit_iff btbRd_exclusive (by decide) answered).mpr ⟨update, stored⟩,
      Btb.targetPcR_of_update btbRd_exclusive answered stored.last]
    rfl
  noJalr := fun jalr notStored => by
    have noHit : (Btb.state 128 (btbInputs cycles) cycle).btbHit = false := by
      rw [Bool.eq_false_iff]
      intro hit
      by_cases looked : ∃ lookup, Btb.Answered (btbInputs cycles) lookup cycle
      · obtain ⟨lookup, answered⟩ := looked
        obtain ⟨update, stored⟩ :=
          (Btb.btbHit_iff btbRd_exclusive (by decide) answered).mp hit
        exact notStored ⟨lookup, update, answered, stored⟩
      · rw [Btb.noHit_of_notAnswered looked] at hit
        cases hit
    rw [answer_jalr jalr, noHit, Bool.and_false]
  other := fun notBranch notJalr notJump => BranchPredict.predict_other notBranch notJalr notJump

/-- A `c.beqz` at `0x100` is taken twice in EX, looked up and fetched again. -/
def takenTwice (cycle : Nat) : Cycle where
  fetch :=
    { predictEn := decide (cycle = 2)
      fetchPcN := 0x100#32
      fetchPc := 0x100#32
      fetchRdata := 0xabcddc65#32
      fetchValid := decide (cycle = 3) }
  ex := { IdEx.reset with branchEx := decide (cycle < 2), compOpEx := .eq, pcEx := 0x100#32 }
  flushE := false

example : answer { enaBht := true, enaBtb := true, enaJump := true, enaRas := false }
    takenTwice 3 = (true, 0xf8#32) := by decide

end Predictor

end RiscvCore
