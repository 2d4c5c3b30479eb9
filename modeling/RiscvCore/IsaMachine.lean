import RiscvCore.CompressedForms
import RiscvCore.ControlTransfer
import RiscvCore.Division
import RiscvCore.LegalWords
import RiscvCore.PcParity

/-!
# The instruction set as a machine

A hart that fetches its instructions from a memory of words and executes them one after the other.
What a load or a CSR instruction reads comes from outside.
-/

namespace RiscvCore

open BitLists (eq_of_bits bits bits_append bits_extractLsb')

section Memory

variable (memory : Word → Word)

/-- The half word at an even address. -/
def halfAt (addr : Word) : Parcel :=
  (memory (addr.extractLsb' 2 30 ++ 0#2)).extractLsb' (if addr.getLsbD 1 then 16 else 0) 16

/-- A 32-bit instruction begins at the address. -/
def isLongAt (addr : Word) : Bool := (halfAt memory addr).quadrant == 0b11#2

/-- The instruction that begins at the address, zero-extended if it has one half. -/
def instrAt (addr : Word) : Word :=
  if isLongAt memory addr then halfAt memory (addr + 2#32) ++ halfAt memory addr
  else 0#16 ++ halfAt memory addr

end Memory

namespace Instr

/-- The instructions with the fields of the word, one for each form. -/
def candidates (word : Word) : List Instr :=
  let rd := Decoder.rd word
  let rs1 := Decoder.rs1 word
  let rs2 := Decoder.rs2 word
  let imm := word.extractLsb' 20 12
  let upper := word.extractLsb' 12 20
  [.arith (.lui rd upper), .arith (.auipc rd upper), .jal rd (jumpOffset word), .jalr rd rs1 imm,
    .fence imm rs1 rd, .fenceI imm rs1 rd, .ecall, .ebreak, .mret, .wfi] ++
  [ImmOp.addi, .slti, .sltiu, .xori, .ori, .andi].map (fun op => .arith (.opImm op rd rs1 imm)) ++
  [ShiftOp.sll, .srl, .sra].map (fun op => .arith (.shiftImm op rd rs1 rs2)) ++
  [RegOp.add, .sub, .sll, .slt, .sltu, .xor, .srl, .sra, .or, .and].map
    (fun op => .arith (.reg op rd rs1 rs2)) ++
  [MulOp.mul, .mulh, .mulhsu, .mulhu].map (fun op => .arith (.mult op rd rs1 rs2)) ++
  [DivOp.div, .divu, .rem, .remu].map (fun op => .divide op rd rs1 rs2) ++
  [BranchCond.beq, .bne, .blt, .bge, .bltu, .bgeu].map
    (fun cond => .branch cond rs1 rs2 (branchOffset word)) ++
  [LoadWidth.lb, .lh, .lw, .lbu, .lhu].map (fun width => .load width rd rs1 imm) ++
  [StoreWidth.sb, .sh, .sw].map (fun width => .store width rs1 rs2 (storeImm word)) ++
  [CsrInstrOp.rw, .rs, .rc].flatMap (fun op => [.csrReg op rd imm rs1, .csrImm op rd imm rs1])

/-- The instruction with the given machine word. -/
def decode (word : Word) : Option Instr :=
  (candidates word).find? fun instr => instr.encode == word

theorem encode_of_decode {word : Word} {instr : Instr} (decodes : decode word = some instr) :
    instr.encode = word := by
  rw [decode] at decodes
  have found := List.find?_some decodes
  exact beq_iff_eq.mp found

section Fields

variable (rs2 rs1 : RegAddr) (funct3 : BitVec 3) (rd : RegAddr) (opcode : BitVec 7)

theorem imm_iFormat (imm : BitVec 12) :
    (iFormat imm rs1 funct3 rd opcode).extractLsb' 20 12 = imm := by
  rw [extractLsb'_iFormat _ _ _ _ _ _ _ (Nat.le_refl 20)]
  exact BitVec.extractLsb'_eq_self

theorem upper_uFormat (upper : BitVec 20) :
    (uFormat upper rd opcode).extractLsb' 12 20 = upper := by
  apply @eq_of_bits 20
  simp only [uFormat, bits_extractLsb', BitVec.getLsbD_append]
  simp [bits, List.range, List.range.loop]

theorem storeImm_sFormat (imm : BitVec 12) :
    storeImm (sFormat imm rs2 rs1 funct3 opcode) = imm := by
  rw [storeImm, sFormat, funct7_iFormat, rd_iFormat]
  apply @eq_of_bits 12
  simp only [bits_append, bits_extractLsb']
  simp [bits, List.range, List.range.loop]

theorem branchOffset_bFormat (offset : BitVec 12) :
    branchOffset (bFormat offset rs2 rs1 funct3 opcode) = offset := by
  apply @eq_of_bits 12
  simp only [branchOffset, bFormat, iFormat, bits_append, bits_extractLsb', BitVec.getLsbD_append,
    BitVec.getLsbD_extractLsb']
  simp [bits, List.range, List.range.loop]

theorem jumpOffset_jFormat (offset : BitVec 20) :
    jumpOffset (jFormat offset rd opcode) = offset := by
  apply @eq_of_bits 20
  simp only [jumpOffset, jFormat, uFormat, bits_append, bits_extractLsb', BitVec.getLsbD_append,
    BitVec.getLsbD_extractLsb']
  simp [bits, List.range, List.range.loop]

end Fields

theorem mem_candidates (instr : Instr) : instr ∈ candidates instr.encode := by
  cases instr with
  | arith instr =>
      cases instr with
      | lui rd upper | auipc rd upper =>
          simp only [candidates, encode, ArithInstr.encode, rd_uFormat, upper_uFormat]
          simp
      | opImm op rd rs1 imm =>
          simp only [candidates, encode, ArithInstr.encode, rd_iFormat, rs1_iFormat, imm_iFormat]
          cases op <;> simp
      | shiftImm op rd rs1 shamt =>
          simp only [candidates, encode, ArithInstr.encode, rd_iFormat, rs1_iFormat, rs2_iFormat]
          cases op <;> simp
      | reg op rd rs1 rs2 =>
          simp only [candidates, encode, ArithInstr.encode, rd_iFormat, rs1_iFormat, rs2_iFormat]
          cases op <;> simp
      | mult op rd rs1 rs2 =>
          simp only [candidates, encode, ArithInstr.encode, rd_iFormat, rs1_iFormat, rs2_iFormat]
          cases op <;> simp
  | divide op rd rs1 rs2 =>
      simp only [candidates, encode, rd_iFormat, rs1_iFormat, rs2_iFormat]
      cases op <;> simp
  | branch cond rs1 rs2 offset =>
      simp only [candidates, encode, branchOffset_bFormat]
      simp only [bFormat, rs1_iFormat]
      cases cond <;> simp
  | jal rd offset =>
      simp only [candidates, encode, jumpOffset_jFormat]
      simp only [jFormat, rd_uFormat]
      simp
  | jalr rd rs1 imm =>
      simp only [candidates, encode, rd_iFormat, rs1_iFormat, imm_iFormat]
      simp
  | load width rd rs1 imm =>
      simp only [candidates, encode, rd_iFormat, rs1_iFormat, imm_iFormat]
      cases width <;> simp
  | store width rs1 rs2 imm =>
      simp only [candidates, encode, storeImm_sFormat]
      simp only [sFormat, rs1_iFormat, rs2_iFormat]
      cases width <;> simp
  | csrReg op rd csr rs1 =>
      simp only [candidates, encode, rd_iFormat, rs1_iFormat, imm_iFormat]
      cases op <;> simp
  | csrImm op rd csr uimm =>
      simp only [candidates, encode, rd_iFormat, rs1_iFormat, imm_iFormat]
      cases op <;> simp
  | fence fields rs1 rd =>
      simp only [candidates, encode, rd_iFormat, rs1_iFormat, imm_iFormat]
      simp
  | fenceI fields rs1 rd =>
      simp only [candidates, encode, rd_iFormat, rs1_iFormat, imm_iFormat]
      simp
  | ecall => simp [candidates]
  | ebreak => simp [candidates]
  | mret => simp [candidates]
  | wfi => simp [candidates]

/-- Every machine word is decoded. -/
theorem decode_isSome_iff {word : Word} : (decode word).isSome = true ↔ word.Encodes := by
  rw [decode, List.find?_isSome]
  constructor
  · rintro ⟨instr, -, same⟩
    exact ⟨instr, beq_iff_eq.mp same⟩
  · rintro ⟨instr, rfl⟩
    exact ⟨instr, mem_candidates instr, BEq.rfl⟩

end Instr

/-- The instruction at an address, and whether it is a 16-bit one. -/
def fetch (memory : Word → Word) (pc : Word) : Option (Instr × Bool) :=
  if isLongAt memory pc then (Instr.decode (instrAt memory pc)).map fun instr => (instr, false)
  else (halfAt memory pc).expand.map fun instr => (instr, true)

/-! ## Execution -/

/-- What an instruction reads outside the hart, if it is a load or a CSR instruction. -/
structure Outside where
  loaded : Word
  csrRead : Word

namespace DivOp

def result (op : DivOp) (a b : Word) : Word :=
  match op with
  | div => Div.riscvDiv true a b
  | divu => Div.riscvDiv false a b
  | rem => Div.riscvRem true a b
  | remu => Div.riscvRem false a b

end DivOp

namespace Instr

def source1 : Instr → Option RegAddr
  | arith instr => instr.source1
  | divide _ _ rs1 _ | branch _ rs1 _ _ | jalr _ rs1 _ | load _ _ rs1 _ | store _ rs1 _ _
  | csrReg _ _ _ rs1 => some rs1
  | _ => none

def source2 : Instr → Option RegAddr
  | arith instr => instr.source2
  | divide _ _ _ rs2 | branch _ _ rs2 _ | store _ _ rs2 _ => some rs2
  | _ => none

def destination : Instr → Option RegAddr
  | arith instr => some instr.rd
  | divide _ rd _ _ | jal rd _ | jalr rd _ _ | load _ rd _ _ | csrReg _ rd _ _
  | csrImm _ rd _ _ => some rd
  | _ => none

/-- The instructions that the hart does not go on behind by itself. -/
def stops : Instr → Bool
  | fenceI _ _ _ | ecall | ebreak | mret | wfi => true
  | _ => false

/-- What the instruction at `pc` writes to its destination. -/
def value (instr : Instr) (pc a b sequential : Word) (outside : Outside) : Word :=
  match instr with
  | arith instr => instr.result pc a b
  | divide op _ _ _ => op.result a b
  | jal _ _ | jalr _ _ _ => sequential
  | load _ _ _ _ => outside.loaded
  | csrReg _ _ _ _ | csrImm _ _ _ _ => outside.csrRead
  | _ => 0#32

/-- The address of the next instruction.  The target of a `jalr` loses its lowest bit. -/
def nextPc (instr : Instr) (pc a b sequential : Word) : Word :=
  match instr with
  | branch cond _ _ offset => if cond.holds a b then pc + byteOffset offset else sequential
  | jal _ offset => pc + byteOffset offset
  | jalr _ _ imm => (a + imm.signExtend 32) &&& ~~~1#32
  | _ => sequential

end Instr

/-- The program counter and the registers. -/
structure Hart where
  pc : Word
  reg : RegAddr → Word

namespace Hart

def boot (bootAddr : Word) : Hart where
  pc := bootAddr
  reg := fun _ => 0#32

variable (hart : Hart)

def operand : Option RegAddr → Word
  | some reg => hart.reg reg
  | none => 0#32

/-- A write to `x0` is lost. -/
def written (destination : Option RegAddr) (value : Word) : RegAddr → Word :=
  fun reg => if destination = some reg ∧ reg ≠ 0#5 then value else hart.reg reg

def sequential (compressed : Bool) : Word := hart.pc + if compressed then 2#32 else 4#32

def execute (instr : Instr) (compressed : Bool) (outside : Outside) : Hart where
  pc := instr.nextPc hart.pc (hart.operand instr.source1) (hart.operand instr.source2)
    (hart.sequential compressed)
  reg := hart.written instr.destination
    (instr.value hart.pc (hart.operand instr.source1) (hart.operand instr.source2)
      (hart.sequential compressed) outside)

/-- One instruction, if there is one that the hart goes on behind. -/
def step (memory : Word → Word) (outside : Outside) : Option Hart :=
  match fetch memory hart.pc with
  | some (instr, compressed) =>
      if instr.stops then none else some (hart.execute instr compressed outside)
  | none => none

/-- The hart after the given number of instructions. -/
def run (memory : Word → Word) (first : Hart) (outside : Nat → Outside) : Nat → Option Hart
  | 0 => some first
  | number + 1 => (run memory first outside number).bind fun hart =>
      hart.step memory (outside number)

/-- Every address the hart comes to is even. -/
theorem isEven_sequential (even : IsEven hart.pc) (compressed : Bool) :
    IsEven (hart.sequential compressed) := by
  refine isEven_add even ?_
  cases compressed <;> decide

end Hart

theorem Instr.isEven_byteOffset {width : Nat} (offset : BitVec width) :
    IsEven (Instr.byteOffset offset) := by
  rw [IsEven, Instr.byteOffset, BitVec.getLsbD_signExtend, if_pos (by omega),
    BitVec.getLsbD_append]
  rfl

theorem Instr.isEven_nextPc (instr : Instr) {pc sequential : Word} (a b : Word)
    (even : IsEven pc) (evenSequential : IsEven sequential) :
    IsEven (instr.nextPc pc a b sequential) := by
  cases instr with
  | branch cond rs1 rs2 offset =>
      rw [Instr.nextPc]
      split
      · exact isEven_add even (isEven_byteOffset offset)
      · exact evenSequential
  | jal rd offset => exact isEven_add even (isEven_byteOffset offset)
  | jalr rd rs1 imm =>
      rw [Instr.nextPc, IsEven, BitVec.getLsbD_and]
      exact Bool.and_false _
  | _ => exact evenSequential

namespace Hart

variable {memory : Word → Word} {first : Hart} {outside : Nat → Outside}

theorem execute_of_step {hart next : Hart} {read : Outside}
    (steps : hart.step memory read = some next) :
    ∃ instr compressed, fetch memory hart.pc = some (instr, compressed) ∧ instr.stops = false ∧
      next = hart.execute instr compressed read := by
  rw [step] at steps
  split at steps
  · next instr compressed fetched =>
      split at steps
      · cases steps
      · next goesOn =>
          exact ⟨instr, compressed, fetched, by simpa using goesOn, (Option.some.inj steps).symm⟩
  · cases steps

theorem step_of_run {number : Nat} {next : Hart}
    (runs : run memory first outside (number + 1) = some next) :
    ∃ hart, run memory first outside number = some hart ∧
      hart.step memory (outside number) = some next :=
  Option.bind_eq_some_iff.mp runs

/-- A hart that has come this far has executed the instructions before. -/
theorem exists_run_of_le {number later : Nat} {hart : Hart}
    (runs : run memory first outside later = some hart) (before : number ≤ later) :
    ∃ earlier, run memory first outside number = some earlier := by
  induction before generalizing hart with
  | refl => exact ⟨hart, runs⟩
  | step _ induction =>
      obtain ⟨previous, runsBefore, -⟩ := step_of_run runs
      exact induction runsBefore

theorem isEven_of_run (evenFirst : IsEven first.pc) {number : Nat} {hart : Hart}
    (runs : run memory first outside number = some hart) : IsEven hart.pc := by
  induction number generalizing hart with
  | zero =>
      obtain rfl : first = hart := Option.some.inj runs
      exact evenFirst
  | succ number induction =>
      obtain ⟨before, runsBefore, steps⟩ := step_of_run runs
      obtain ⟨instr, compressed, -, -, rfl⟩ := execute_of_step steps
      have even := induction runsBefore
      exact instr.isEven_nextPc _ _ even (before.isEven_sequential even compressed)

/-- `x0` stays zero. -/
theorem reg_zero_of_run (zero : first.reg 0#5 = 0#32) {number : Nat} {hart : Hart}
    (runs : run memory first outside number = some hart) : hart.reg 0#5 = 0#32 := by
  induction number generalizing hart with
  | zero =>
      obtain rfl : first = hart := Option.some.inj runs
      exact zero
  | succ number induction =>
      obtain ⟨before, runsBefore, steps⟩ := step_of_run runs
      obtain ⟨instr, compressed, -, -, rfl⟩ := execute_of_step steps
      change (if instr.destination = some 0#5 ∧ (0#5 : RegAddr) ≠ 0#5 then _
        else before.reg 0#5) = _
      rw [if_neg (fun both => both.2 rfl)]
      exact induction runsBefore

end Hart

namespace Parcel

variable {parcel : Parcel} {rd rs1 : RegAddr} {imm : BitVec 12}

/-- The computed jumps of 16 bits are in quadrant 2. -/
theorem quadrant_of_jalr (found : parcel.row = some (.jalr rd rs1 imm)) :
    parcel.quadrant = 0b10#2 := by
  unfold row at found
  split at found
  · unfold row0 at found
    split at found <;> cases found
  · unfold row1 at found
    split at found
    case h_4 => split at found <;> cases found
    case h_5 =>
      unfold row1Alu at found
      split at found
      case h_4 => split at found <;> cases found
      all_goals cases found
    all_goals cases found
  · next quadrant => exact quadrant
  · cases found

end Parcel

namespace Hart

/-- No computed jump goes to an odd address. -/
def JumpsEven (memory : Word → Word) (first : Hart) (outside : Nat → Outside) : Prop :=
  ∀ number hart rd rs1 imm compressed, run memory first outside number = some hart →
    fetch memory hart.pc = some (.jalr rd rs1 imm, compressed) →
      IsEven (hart.reg rs1 + imm.signExtend 32)

end Hart

/-- No computed jump begins with the half word. -/
def Parcel.noComputedJump (parcel : Parcel) : Bool :=
  parcel.extractLsb' 0 7 != 0b1100111#7 && parcel.quadrant != 0b10#2

theorem noComputedJump_of_fetch {memory : Word → Word} {pc : Word} {rd rs1 : RegAddr}
    {imm : BitVec 12} {compressed : Bool}
    (fetched : fetch memory pc = some (.jalr rd rs1 imm, compressed)) :
    (halfAt memory pc).noComputedJump = false := by
  rw [fetch] at fetched
  cases long : isLongAt memory pc with
  | true =>
      rw [long, if_pos rfl, Option.map_eq_some_iff] at fetched
      obtain ⟨decoded, decodes, same⟩ := fetched
      rw [Prod.mk.injEq] at same
      have encodes := Instr.encode_of_decode decodes
      have opcode : Decoder.opcode (instrAt memory pc) = 0b1100111#7 := by
        rw [← encodes, same.1]
        exact opcode_iFormat ..
      rw [instrAt, long, if_pos rfl, Decoder.opcode,
        BitVec.extractLsb'_append_eq_of_add_le (by decide)] at opcode
      rw [Parcel.noComputedJump, opcode]
      rfl
  | false =>
      rw [long, if_neg Bool.false_ne_true, Option.map_eq_some_iff] at fetched
      obtain ⟨expanded, expands, same⟩ := fetched
      rw [Prod.mk.injEq] at same
      rw [same.1] at expands
      rw [Parcel.noComputedJump, Parcel.quadrant_of_jalr (Parcel.row_of_expand expands)]
      exact Bool.and_false _

/-- A program without computed jumps. -/
theorem Hart.jumpsEven_of_noComputedJump {memory : Word → Word} {first : Hart}
    {outside : Nat → Outside}
    (none : ∀ addr, Parcel.noComputedJump ((memory addr).extractLsb' 0 16) = true ∧
      Parcel.noComputedJump ((memory addr).extractLsb' 16 16) = true) :
    Hart.JumpsEven memory first outside := by
  intro number hart rd rs1 imm compressed _ fetched
  have jumps := noComputedJump_of_fetch fetched
  obtain ⟨lower, upper⟩ := none (hart.pc.extractLsb' 2 30 ++ 0#2)
  rw [halfAt] at jumps
  split at jumps
  · rw [upper] at jumps
    cases jumps
  · rw [lower] at jumps
    cases jumps

end RiscvCore
