import RiscvCore.ExecutedInstructions
import RiscvCore.LoadValues
import RiscvCore.StoredBytes

/-!
# The instruction set with a data memory

A hart whose loads and stores go to a memory of bytes.
-/

namespace RiscvCore

open ByteMemory

namespace LoadWidth

def type : LoadWidth → LoadType
  | lb => .lb
  | lh => .lh
  | lw => .lw
  | lbu => .lbu
  | lhu => .lhu

theorem dtype_type (width : LoadWidth) : width.type.dtype = width.funct3 := by
  cases width <;> rfl

/-- A load needs two requests if it reaches beyond its word. -/
theorem reqUnalign_iff {width : LoadWidth} {access : Lsu.Access}
    (isType : access.lsuDtype = width.type.dtype) :
    Lsu.reqUnalign access = true ↔ 4 < lane access.lsuAddr + width.type.size := by
  rw [Lsu.reqUnalign, Lsu.crossesWord_iff, isType, Lsu.toNat_addrOffset,
    LoadType.accessBytes_dtype, decide_eq_true_eq]

end LoadWidth

namespace StoreWidth

def type : StoreWidth → StoreType
  | sb => .sb
  | sh => .sh
  | sw => .sw

theorem dtype_type (width : StoreWidth) : width.type.dtype = width.funct3 := by
  cases width <;> rfl

end StoreWidth

namespace Instr

/-- What a load reads at its address. -/
def loaded (instr : Instr) (data : Memory) (a : Word) : Word :=
  match instr with
  | load width _ _ imm => width.type.value data (a + imm.signExtend 32)
  | _ => 0#32

/-- The memory behind a store. -/
def stored (instr : Instr) (data : Memory) (a b : Word) : Memory :=
  match instr with
  | store width _ _ imm => writeBytes data (a + imm.signExtend 32) width.type.size b
  | _ => data

/-- None of the instructions that the core executes in another way: a load that takes the sign of
another byte, a store that rotates the bytes of its value, a jump to an odd address. -/
def Regular (instr : Instr) (data : Memory) (a b : Word) : Prop :=
  match instr with
  | load width _ _ imm => ¬ width.type.TakesOtherSign data (a + imm.signExtend 32)
  | store width _ _ imm => Lsu.RotationFixed width.type (a + imm.signExtend 32) b
  | jalr _ _ imm => IsEven (a + imm.signExtend 32)
  | _ => True

instance (instr : Instr) (data : Memory) (a b : Word) : Decidable (instr.Regular data a b) :=
  match instr with
  | load _ _ _ imm =>
      inferInstanceAs (Decidable (¬ (_ ∧ lane (a + imm.signExtend 32) = 3 ∧ _ ≠ _)))
  | store width _ _ _ => inferInstanceAs (Decidable (∀ index, index < width.type.size → _ = _))
  | jalr _ _ _ => inferInstanceAs (Decidable (_ = _))
  | arith _ | divide _ _ _ _ | branch _ _ _ _ | jal _ _ | csrReg _ _ _ _ | csrImm _ _ _ _
  | fence _ _ _ | fenceI _ _ _ | ecall | ebreak | mret | wfi => inferInstanceAs (Decidable True)

/-- The access is that of the load or store. -/
def Makes (instr : Instr) (a b : Word) (access : Lsu.Access) : Prop :=
  match instr with
  | load width _ _ imm =>
      access.lsuOp = .ld ∧ access.lsuDtype = width.type.dtype ∧
        access.lsuAddr = a + imm.signExtend 32
  | store width _ _ imm =>
      access.lsuOp = .wr ∧ access.lsuDtype = width.type.dtype ∧
        access.lsuAddr = a + imm.signExtend 32 ∧ access.lsuWdata = b
  | _ => False

/-- The loads and stores are aligned to their size, and the jumps go to even addresses. -/
def Aligned (instr : Instr) (a : Word) : Prop :=
  match instr with
  | load width _ _ imm => (a + imm.signExtend 32).toNat % width.type.size = 0
  | store width _ _ imm => (a + imm.signExtend 32).toNat % width.type.size = 0
  | jalr _ _ imm => IsEven (a + imm.signExtend 32)
  | _ => True

theorem rotationFixed_of_aligned {type : StoreType} {addr : Word}
    (aligned : addr.toNat % type.size = 0) (value : Word) : Lsu.RotationFixed type addr value := by
  intro index inside
  have same : (lane addr + index) % type.size = index := by
    have divides : lane addr % type.size = 0 := by
      rw [lane, Nat.mod_mod_of_dvd _ type.size_dvd]
      exact aligned
    rw [Nat.add_mod, divides, Nat.zero_add, Nat.mod_mod, Nat.mod_eq_of_lt inside]
  rw [same]

theorem not_takesOtherSign_of_aligned {type : LoadType} {data : Memory} {addr : Word}
    (aligned : addr.toNat % type.size = 0) : ¬ type.TakesOtherSign data addr := by
  rintro ⟨rfl, across, -⟩
  rw [LoadType.size] at aligned
  rw [lane] at across
  omega

/-- Whatever the memory holds, an aligned instruction is regular. -/
theorem regular_of_aligned {instr : Instr} {a : Word} (aligned : instr.Aligned a) (data : Memory)
    (b : Word) : instr.Regular data a b := by
  cases instr with
  | load width rd rs1 imm => exact not_takesOtherSign_of_aligned aligned
  | store width rs1 rs2 imm => exact rotationFixed_of_aligned aligned b
  | jalr rd rs1 imm => exact aligned
  | _ => trivial

variable {instr : Instr} {data : Memory} {a b : Word} {access : Lsu.Access}

/-- A request of a load leaves the memory as it is. -/
theorem apply_of_load (isLoad : access.lsuOp = .ld) (second : Bool) :
    (Lsu.request access second).apply data = data := by
  have noWrite : (Lsu.request access second).dataWr = false := by
    rw [Lsu.request, isLoad]
    rfl
  rw [DataRequest.apply, noWrite, if_neg Bool.false_ne_true]

theorem stored_of_noAccess (noAccess : instr.accesses = false) : instr.stored data a b = data := by
  cases instr with
  | store width rs1 rs2 imm => cases noAccess
  | _ => rfl

/-- The requests of an access do what the instruction does. -/
theorem foldl_requests (makes : instr.Makes a b access) (regular : instr.Regular data a b) :
    (Lsu.requests access).foldl DataRequest.apply data = instr.stored data a b := by
  cases instr with
  | load width rd rs1 imm =>
      obtain ⟨isLoad, -⟩ := makes
      rw [Lsu.requests]
      split <;> simp [apply_of_load isLoad, stored]
  | store width rs1 rs2 imm =>
      obtain ⟨isStore, dtype, addr, value⟩ := makes
      rw [stored, ← addr, ← value]
      refine (Lsu.requests_foldl_eq_iff isStore dtype).mpr ?_
      rw [addr, value]
      exact regular
  | _ => cases makes

section Issue

variable (idEx : IdEx) (ifs : IfStage) (a b : Word) (tag : Tag)

/-- EX hands on the access of a load or store that issues. -/
theorem makes_issuedAt (accesses : instr.accesses = true) :
    instr.Makes a b (CoreState.accessEx (issuedAt idEx ifs a b tag instr)) := by
  cases instr with
  | load width rd rs1 imm =>
      refine ⟨rfl, ?_, ?_⟩
      · change Decoder.funct3 (iFormat imm rs1 width.funct3 rd _) = _
        rw [funct3_iFormat, width.dtype_type]
      · change rvAdder .add a (Decoder.immItype (iFormat imm rs1 width.funct3 rd _)) = _
        rw [rvAdder_add, immItype_iFormat]
  | store width rs1 rs2 imm =>
      refine ⟨rfl, ?_, ?_, rfl⟩
      · change Decoder.funct3 (sFormat imm rs2 rs1 width.funct3 _) = _
        rw [sFormat, funct3_iFormat, width.dtype_type]
      · change rvAdder .add a (Decoder.immStype (sFormat imm rs2 rs1 width.funct3 _)) = _
        rw [rvAdder_add, immStype_sFormat]
  | _ => cases accesses

end Issue

end Instr

/-- A hart with the memory of its data. -/
structure Machine where
  hart : Hart
  data : Memory

namespace Machine

variable (machine : Machine)

/-- One instruction, with what a CSR instruction reads. -/
def step (memory : Word → Word) (csrRead : Word) : Option Machine :=
  match fetch memory machine.hart.pc with
  | some (instr, compressed) =>
      if instr.stops then none
      else
        let a := machine.hart.operand instr.source1
        let b := machine.hart.operand instr.source2
        some
          { hart := machine.hart.execute instr compressed ⟨instr.loaded machine.data a, csrRead⟩
            data := instr.stored machine.data a b }
  | none => none

/-- The machine after the given number of instructions. -/
def run (memory : Word → Word) (first : Machine) (csrRead : Nat → Word) : Nat → Option Machine
  | 0 => some first
  | number + 1 => (run memory first csrRead number).bind fun machine =>
      machine.step memory (csrRead number)

/-- The first instructions are regular. -/
def Regular (memory : Word → Word) (first : Machine) (csrRead : Nat → Word) (count : Nat) : Prop :=
  ∀ number, number < count → ∀ machine instr compressed,
    run memory first csrRead number = some machine →
      fetch memory machine.hart.pc = some (instr, compressed) →
        instr.Regular machine.data (machine.hart.operand instr.source1)
          (machine.hart.operand instr.source2)

/-- The check of the next instruction. -/
def isRegular (memory : Word → Word) : Bool :=
  match fetch memory machine.hart.pc with
  | some (instr, _) => decide (instr.Regular machine.data (machine.hart.operand instr.source1)
      (machine.hart.operand instr.source2))
  | none => true

/-- What the next instruction loads. -/
def loads (memory : Word → Word) : Word :=
  match fetch memory machine.hart.pc with
  | some (instr, _) => instr.loaded machine.data (machine.hart.operand instr.source1)
  | none => 0#32

/-- The reads of the hart, out of the memory of its data. -/
def outside (memory : Word → Word) (first : Machine) (csrRead : Nat → Word) (number : Nat) :
    Outside where
  loaded := match run memory first csrRead number with
    | some machine => machine.loads memory
    | none => 0#32
  csrRead := csrRead number

variable {machine} {memory : Word → Word} {first : Machine} {csrRead : Nat → Word}

theorem execute_of_step {next : Machine} {read : Word}
    (steps : machine.step memory read = some next) :
    ∃ instr compressed, fetch memory machine.hart.pc = some (instr, compressed) ∧
      instr.stops = false ∧
      next.hart = machine.hart.execute instr compressed
        ⟨instr.loaded machine.data (machine.hart.operand instr.source1), read⟩ ∧
      next.data = instr.stored machine.data (machine.hart.operand instr.source1)
        (machine.hart.operand instr.source2) := by
  rw [step] at steps
  split at steps
  · next instr compressed fetched =>
      split at steps
      · cases steps
      · next goesOn =>
          obtain rfl := Option.some.inj steps
          exact ⟨instr, compressed, fetched, by simpa using goesOn, rfl, rfl⟩
  · cases steps

theorem step_of_run {number : Nat} {next : Machine}
    (runs : run memory first csrRead (number + 1) = some next) :
    ∃ machine, run memory first csrRead number = some machine ∧
      machine.step memory (csrRead number) = some next :=
  Option.bind_eq_some_iff.mp runs

theorem Regular.of_le {number count : Nat} (regular : Regular memory first csrRead count)
    (few : number ≤ count) : Regular memory first csrRead number :=
  fun earlier inside => regular earlier (Nat.lt_of_lt_of_le inside few)

theorem exists_run_of_le {number later : Nat} (runs : run memory first csrRead later = some machine)
    (before : number ≤ later) : ∃ earlier, run memory first csrRead number = some earlier := by
  induction before generalizing machine with
  | refl => exact ⟨machine, runs⟩
  | step _ induction =>
      obtain ⟨previous, runsBefore, -⟩ := step_of_run runs
      exact induction runsBefore

theorem regular_of_isRegular {count : Nat}
    (checked : ∀ number, number < count →
      (run memory first csrRead number).all (isRegular · memory) = true) :
    Regular memory first csrRead count := by
  intro number inside machine instr compressed runs fetched
  have check := checked number inside
  rw [runs, Option.all_some, isRegular, fetched] at check
  exact of_decide_eq_true check

theorem loads_of_fetch {instr : Instr} {compressed : Bool}
    (fetched : fetch memory machine.hart.pc = some (instr, compressed)) :
    machine.loads memory = instr.loaded machine.data (machine.hart.operand instr.source1) := by
  rw [loads, fetched]

/-- The machine runs as its hart does with the reads of the machine. -/
theorem hart_of_run {number : Nat} (runs : run memory first csrRead number = some machine) :
    Hart.run memory first.hart (outside memory first csrRead) number = some machine.hart := by
  induction number generalizing machine with
  | zero =>
      obtain rfl : first = machine := Option.some.inj runs
      rfl
  | succ number induction =>
      obtain ⟨before, runsBefore, steps⟩ := step_of_run runs
      obtain ⟨instr, compressed, fetched, goesOn, isHart, -⟩ := execute_of_step steps
      have reads : outside memory first csrRead number =
          ⟨instr.loaded before.data (before.hart.operand instr.source1), csrRead number⟩ := by
        rw [outside, runsBefore]
        exact congrArg (Outside.mk · _) (loads_of_fetch fetched)
      rw [Hart.run, induction runsBefore, Option.bind_some, Hart.step, fetched, reads, isHart]
      exact if_neg (by rw [goesOn]; exact Bool.false_ne_true)

end Machine

end RiscvCore
