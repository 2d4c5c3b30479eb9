import RiscvCore.DecodedInstructions

/-!
# Legal words

Which words the decoder accepts.  Every class of opcodes ends in a default that is illegal, and
each alternative before it is an instruction of the set, with three exceptions: the width of a load
or of a store is taken over unchecked, and `uret` is accepted although nothing executes it.
-/

namespace RiscvCore

open BitLists (eq_of_bits bits bits_append bits_extractLsb')

/-- The immediate of a store and the offsets of a branch and of a jump. -/
def storeImm (word : Word) : BitVec 12 := Decoder.funct7 word ++ Decoder.rd word

def branchOffset (word : Word) : BitVec 12 :=
  word.extractLsb' 31 1 ++ word.extractLsb' 7 1 ++ word.extractLsb' 25 6 ++ word.extractLsb' 8 4

def jumpOffset (word : Word) : BitVec 20 :=
  word.extractLsb' 31 1 ++ word.extractLsb' 12 8 ++ word.extractLsb' 20 1 ++
    word.extractLsb' 21 10

theorem sFormat_fields (word : Word) :
    sFormat (storeImm word) (Decoder.rs2 word) (Decoder.rs1 word) (Decoder.funct3 word)
      (Decoder.opcode word) = word := by
  have high : (storeImm word).extractLsb' 5 7 = Decoder.funct7 word := by
    rw [storeImm, BitVec.extractLsb'_append_eq_of_le (by decide)]
    exact BitVec.extractLsb'_eq_self
  have low : (storeImm word).extractLsb' 0 5 = Decoder.rd word := by
    rw [storeImm, BitVec.extractLsb'_append_eq_of_add_le (by decide)]
    exact BitVec.extractLsb'_eq_self
  rw [sFormat, high, low, upperFields, iFormat_fields]

theorem bFormat_fields (word : Word) :
    bFormat (branchOffset word) (Decoder.rs2 word) (Decoder.rs1 word) (Decoder.funct3 word)
      (Decoder.opcode word) = word := by
  have high : (branchOffset word).extractLsb' 11 1 ++ (branchOffset word).extractLsb' 4 6 =
      Decoder.funct7 word := by
    unfold branchOffset Decoder.funct7
    apply @eq_of_bits 7
    simp only [bits_append, bits_extractLsb', BitVec.getLsbD_append, BitVec.getLsbD_extractLsb']
    simp [List.range, List.range.loop]
  have low : (branchOffset word).extractLsb' 0 4 ++ (branchOffset word).extractLsb' 10 1 =
      Decoder.rd word := by
    unfold branchOffset Decoder.rd
    apply @eq_of_bits 5
    simp only [bits_append, bits_extractLsb', BitVec.getLsbD_append, BitVec.getLsbD_extractLsb']
    simp [List.range, List.range.loop]
  rw [bFormat, high, low, upperFields, iFormat_fields]

theorem jFormat_fields (word : Word) :
    jFormat (jumpOffset word) (Decoder.rd word) (Decoder.opcode word) = word := by
  have upper : (jumpOffset word).extractLsb' 19 1 ++ (jumpOffset word).extractLsb' 0 10 ++
      (jumpOffset word).extractLsb' 10 1 ++ (jumpOffset word).extractLsb' 11 8 =
      word.extractLsb' 12 20 := by
    unfold jumpOffset
    apply @eq_of_bits 20
    simp only [bits_append, bits_extractLsb', BitVec.getLsbD_append, BitVec.getLsbD_extractLsb']
    simp [List.range, List.range.loop]
  rw [jFormat, upper, uFormat_fields]

namespace Decoder

/-- A load with a width that no instruction has. -/
def undefinedLoad (word : Word) : Bool :=
  opcode word == opcodeLoad &&
    (funct3 word == 0b011#3 || funct3 word == 0b110#3 || funct3 word == 0b111#3)

def undefinedStore (word : Word) : Bool :=
  opcode word == opcodeStore &&
    !(funct3 word == 0b000#3 || funct3 word == 0b001#3 || funct3 word == 0b010#3)

/-- The word of `uret`. -/
def uretWord : Word := 0x00200073#32

end Decoder

/-- The word is the machine word of an instruction. -/
def Word.Encodes (word : Word) : Prop := ∃ instr : Instr, instr.encode = word

namespace Decoder

/-- One class: either it is selected, or the rest decides. -/
theorem illegal_or_of_class {cond found : Prop} [Decidable cond] {out rejected rest : Decoded}
    (selected : cond → out = rejected ∨ found) (otherwise : rest = rejected ∨ found) :
    (if cond then out else rest) = rejected ∨ found := by
  by_cases holds : cond
  · rw [if_pos holds]
    exact selected holds
  · rw [if_neg holds]
    exact otherwise

/-- One alternative of a class that is not rejected. -/
theorem illegal_or_of_ite {cond found : Prop} [Decidable cond] {out rejected rest : Decoded}
    (taken : cond → found) (otherwise : rest = rejected ∨ found) :
    (if cond then out else rest) = rejected ∨ found :=
  illegal_or_of_class (fun holds => .inr (taken holds)) otherwise

variable {word} (out : Decoded)

theorem branchInstr_cases :
    branchInstr word out = illegal out ∨ ∃ cond : BranchCond, funct3 word = cond.funct3 := by
  unfold branchInstr
  refine illegal_or_of_ite (fun isBeq => ⟨.beq, isBeq⟩) ?_
  refine illegal_or_of_ite (fun isBne => ⟨.bne, isBne⟩) ?_
  refine illegal_or_of_ite (fun isBlt => ⟨.blt, isBlt⟩) ?_
  refine illegal_or_of_ite (fun isBge => ⟨.bge, isBge⟩) ?_
  refine illegal_or_of_ite (fun isBltu => ⟨.bltu, isBltu⟩) ?_
  refine illegal_or_of_ite (fun isBgeu => ⟨.bgeu, isBgeu⟩) ?_
  exact .inl rfl

theorem itypeInstr_cases :
    itypeInstr word out = illegal out ∨ (∃ op : ImmOp, funct3 word = op.funct3) ∨
      ∃ op : ShiftOp, funct3 word = shiftFunct3 op ∧ funct7 word = shiftFunct7 op := by
  unfold itypeInstr
  refine illegal_or_of_ite (fun isAddi => .inl ⟨.addi, isAddi⟩) ?_
  refine illegal_or_of_ite (fun isXori => .inl ⟨.xori, isXori⟩) ?_
  refine illegal_or_of_ite (fun isOri => .inl ⟨.ori, isOri⟩) ?_
  refine illegal_or_of_ite (fun isAndi => .inl ⟨.andi, isAndi⟩) ?_
  refine illegal_or_of_ite (fun isSlli => .inr ⟨.sll, isSlli⟩) ?_
  refine illegal_or_of_ite (fun isSrai => .inr ⟨.sra, isSrai⟩) ?_
  refine illegal_or_of_ite (fun isSrli => .inr ⟨.srl, isSrli⟩) ?_
  refine illegal_or_of_ite (fun isSlti => .inl ⟨.slti, isSlti⟩) ?_
  refine illegal_or_of_ite (fun isSltiu => .inl ⟨.sltiu, isSltiu⟩) ?_
  exact .inl rfl

theorem rtypeInstr_cases :
    rtypeInstr word out = illegal out ∨
      (∃ op : RegOp, funct3 word = op.funct3 ∧ funct7 word = op.funct7) ∨
      (∃ op : MulOp, funct7 word = 0b0000001#7 ∧ funct3 word = op.funct3) ∨
      ∃ op : DivOp, funct7 word = 0b0000001#7 ∧ funct3 word = op.funct3 := by
  unfold rtypeInstr
  refine illegal_or_of_ite (fun isAdd => .inl ⟨.add, isAdd⟩) ?_
  refine illegal_or_of_ite (fun isSub => .inl ⟨.sub, isSub⟩) ?_
  refine illegal_or_of_ite (fun isXor => .inl ⟨.xor, isXor⟩) ?_
  refine illegal_or_of_ite (fun isOr => .inl ⟨.or, isOr⟩) ?_
  refine illegal_or_of_ite (fun isAnd => .inl ⟨.and, isAnd⟩) ?_
  refine illegal_or_of_ite (fun isSll => .inl ⟨.sll, isSll⟩) ?_
  refine illegal_or_of_ite (fun isSra => .inl ⟨.sra, isSra⟩) ?_
  refine illegal_or_of_ite (fun isSrl => .inl ⟨.srl, isSrl⟩) ?_
  refine illegal_or_of_ite (fun isSlt => .inl ⟨.slt, isSlt⟩) ?_
  refine illegal_or_of_ite (fun isSltu => .inl ⟨.sltu, isSltu⟩) ?_
  refine illegal_or_of_ite (fun isMul => .inr (.inl ⟨.mul, isMul⟩)) ?_
  refine illegal_or_of_ite (fun isMulh => .inr (.inl ⟨.mulh, isMulh⟩)) ?_
  refine illegal_or_of_ite (fun isMulhsu => .inr (.inl ⟨.mulhsu, isMulhsu⟩)) ?_
  refine illegal_or_of_ite (fun isMulhu => .inr (.inl ⟨.mulhu, isMulhu⟩)) ?_
  refine illegal_or_of_ite (fun isDiv => .inr (.inr ⟨.div, isDiv⟩)) ?_
  refine illegal_or_of_ite (fun isDivu => .inr (.inr ⟨.divu, isDivu⟩)) ?_
  refine illegal_or_of_ite (fun isRem => .inr (.inr ⟨.rem, isRem⟩)) ?_
  refine illegal_or_of_ite (fun isRemu => .inr (.inr ⟨.remu, isRemu⟩)) ?_
  exact .inl rfl

theorem mismemInstr_cases :
    mismemInstr word out = illegal out ∨ funct3 word = 0b000#3 ∨ funct3 word = 0b001#3 := by
  unfold mismemInstr
  refine illegal_or_of_ite (fun isFence => .inl isFence) ?_
  refine illegal_or_of_ite (fun isFenceI => .inr isFenceI) ?_
  exact .inl rfl

theorem eq_of_sysZeroFields (isSystem : opcode word = opcodeSystem)
    (zero : sysZeroFields word = true) {upper : BitVec 12}
    (isUpper : word.extractLsb' 20 12 = upper) :
    iFormat upper 0#5 0b000#3 0#5 0b1110011#7 = word := by
  simp only [sysZeroFields, Bool.and_eq_true, beq_iff_eq] at zero
  obtain ⟨⟨rs1Zero, rdZero⟩, funct3Zero⟩ := zero
  have fields := iFormat_fields word
  rw [isUpper, rs1Zero, funct3Zero, rdZero, isSystem] at fields
  exact fields

theorem encodes_of_csrAny (isSystem : opcode word = opcodeSystem) (isCsr : csrAny word = true) :
    word.Encodes := by
  have codes : ∃ op : CsrInstrOp, word.extractLsb' 12 2 = op.code := by
    simp only [csrAny, csrrw, csrrs, csrrc, Bool.or_eq_true, Bool.and_eq_true, beq_iff_eq] at isCsr
    rcases isCsr with (⟨-, isRw⟩ | ⟨-, isRs⟩) | ⟨-, isRc⟩
    · exact ⟨.rw, isRw⟩
    · exact ⟨.rs, isRs⟩
    · exact ⟨.rc, isRc⟩
  obtain ⟨op, isOp⟩ := codes
  have isFunct3 : funct3 word = word.extractLsb' 14 1 ++ op.code := by
    rw [← isOp, funct3]
    apply @eq_of_bits 3
    simp only [bits_append, bits_extractLsb', List.range, List.range.loop, List.map]
    rfl
  have fields := iFormat_fields word
  rw [isFunct3, isSystem] at fields
  rcases BitVec.eq_zero_or_eq_one (word.extractLsb' 14 1) with isZero | isOne
  · rw [isZero] at fields
    exact ⟨.csrReg op (rd word) (word.extractLsb' 20 12) (rs1 word), fields⟩
  · rw [isOne] at fields
    exact ⟨.csrImm op (rd word) (word.extractLsb' 20 12) (rs1 word), fields⟩

theorem sysInstr_cases (isSystem : opcode word = opcodeSystem) :
    sysInstr word out = illegal out ∨ word.Encodes ∨ word = uretWord := by
  have upper := upperFields word
  unfold sysInstr
  refine illegal_or_of_ite (fun isCsr => .inl (encodes_of_csrAny isSystem isCsr.1)) ?_
  refine illegal_or_of_ite (fun isCsr => .inl (encodes_of_csrAny isSystem isCsr.1)) ?_
  refine illegal_or_of_ite
    (fun isEcall => .inl ⟨.ecall, eq_of_sysZeroFields isSystem isEcall.2 isEcall.1⟩) ?_
  refine illegal_or_of_ite
    (fun isEbreak => .inl ⟨.ebreak, eq_of_sysZeroFields isSystem isEbreak.2 isEbreak.1⟩) ?_
  refine illegal_or_of_ite
    (fun isMret => .inl ⟨.mret, eq_of_sysZeroFields isSystem isMret.2.2 ?_⟩) ?_
  · rw [← upper, isMret.1, isMret.2.1]
    rfl
  refine illegal_or_of_ite
    (fun isUret => .inr (@eq_of_sysZeroFields _ isSystem isUret.2.2 0x002#12 ?_).symm) ?_
  · rw [← upper, isUret.1, isUret.2.1]
    rfl
  -- `sret` is decoded and rejected
  refine illegal_or_of_class (fun isSret => .inl rfl) ?_
  refine illegal_or_of_ite
    (fun isWfi => .inl ⟨.wfi, eq_of_sysZeroFields isSystem isWfi.2.2 ?_⟩) ?_
  · rw [← upper, isWfi.1, isWfi.2.1]
    rfl
  exact .inl rfl

theorem encodes_of_branch (isBranch : opcode word = opcodeBranch) {cond : BranchCond}
    (isCond : funct3 word = cond.funct3) : word.Encodes := by
  refine ⟨.branch cond (rs1 word) (rs2 word) (branchOffset word), ?_⟩
  have fields := bFormat_fields word
  rw [isBranch, isCond] at fields
  exact fields

theorem encodes_of_itype (isImm : opcode word = opcodeOpImm)
    (legal : (∃ op : ImmOp, funct3 word = op.funct3) ∨
      ∃ op : ShiftOp, funct3 word = shiftFunct3 op ∧ funct7 word = shiftFunct7 op) :
    word.Encodes := by
  have fields := iFormat_fields word
  rcases legal with ⟨op, isOp⟩ | ⟨op, isOp, isFunct7⟩
  · rw [isImm, isOp] at fields
    exact ⟨.arith (.opImm op (rd word) (rs1 word) (word.extractLsb' 20 12)), fields⟩
  · rw [← upperFields, isImm, isOp, isFunct7] at fields
    exact ⟨.arith (.shiftImm op (rd word) (rs1 word) (rs2 word)), fields⟩

theorem encodes_of_rtype (isReg : opcode word = opcodeOp)
    (legal : (∃ op : RegOp, funct3 word = op.funct3 ∧ funct7 word = op.funct7) ∨
      (∃ op : MulOp, funct7 word = 0b0000001#7 ∧ funct3 word = op.funct3) ∨
      ∃ op : DivOp, funct7 word = 0b0000001#7 ∧ funct3 word = op.funct3) : word.Encodes := by
  have fields := iFormat_fields word
  rw [← upperFields, isReg] at fields
  rcases legal with ⟨op, isOp, isFunct7⟩ | ⟨op, isFunct7, isOp⟩ | ⟨op, isFunct7, isOp⟩
  · rw [isOp, isFunct7] at fields
    exact ⟨.arith (.reg op (rd word) (rs1 word) (rs2 word)), fields⟩
  · rw [isOp, isFunct7] at fields
    exact ⟨.arith (.mult op (rd word) (rs1 word) (rs2 word)), fields⟩
  · rw [isOp, isFunct7] at fields
    exact ⟨.divide op (rd word) (rs1 word) (rs2 word), fields⟩

theorem encodes_of_mismem (isMismem : opcode word = opcodeMiscmem)
    (legal : funct3 word = 0b000#3 ∨ funct3 word = 0b001#3) : word.Encodes := by
  have fields := iFormat_fields word
  rcases legal with isFence | isFenceI
  · rw [isMismem, isFence] at fields
    exact ⟨.fence (word.extractLsb' 20 12) (rs1 word) (rd word), fields⟩
  · rw [isMismem, isFenceI] at fields
    exact ⟨.fenceI (word.extractLsb' 20 12) (rs1 word) (rd word), fields⟩

/-- A load has one of five widths or an undefined one. -/
theorem load_cases (isLoad : opcode word = opcodeLoad) :
    word.Encodes ∨ undefinedLoad word = true := by
  by_cases undefined : undefinedLoad word = true
  · exact .inr undefined
  have defined : funct3 word ∈ [LoadWidth.lb, .lh, .lw, .lbu, .lhu].map LoadWidth.funct3 := by
    rw [undefinedLoad, isLoad] at undefined
    generalize funct3 word = code at undefined ⊢
    revert code
    decide
  obtain ⟨width, -, isWidth⟩ := List.mem_map.mp defined
  have fields := iFormat_fields word
  rw [isLoad, ← isWidth] at fields
  exact .inl ⟨.load width (rd word) (rs1 word) (word.extractLsb' 20 12), fields⟩

theorem store_cases (isStore : opcode word = opcodeStore) :
    word.Encodes ∨ undefinedStore word = true := by
  by_cases undefined : undefinedStore word = true
  · exact .inr undefined
  have defined : funct3 word ∈ [StoreWidth.sb, .sh, .sw].map StoreWidth.funct3 := by
    rw [undefinedStore, isStore] at undefined
    generalize funct3 word = code at undefined ⊢
    revert code
    decide
  obtain ⟨width, -, isWidth⟩ := List.mem_map.mp defined
  have fields := sFormat_fields word
  rw [isStore, ← isWidth] at fields
  exact .inl ⟨.store width (rs1 word) (rs2 word) (storeImm word), fields⟩

/-- What the decoder does with a word: it is rejected, or an instruction, or one of the
exceptions. -/
theorem decoder_cases (word : Word) :
    decoder word true = illegal (defaults word true) ∨ word.Encodes ∨
      undefinedLoad word = true ∨ undefinedStore word = true ∨ word = uretWord := by
  change instrClass word (defaults word true) = _ ∨ _
  generalize defaults word true = out
  unfold instrClass
  have fields := iFormat_fields word
  have upper := uFormat_fields word
  refine illegal_or_of_ite (fun isLui => .inl ?_) ?_
  · rw [isLui] at upper
    exact ⟨.arith (.lui (rd word) (word.extractLsb' 12 20)), upper⟩
  refine illegal_or_of_ite (fun isAuipc => .inl ?_) ?_
  · rw [isAuipc] at upper
    exact ⟨.arith (.auipc (rd word) (word.extractLsb' 12 20)), upper⟩
  refine illegal_or_of_class (fun isBranch => ?_) ?_
  · exact (branchInstr_cases out).imp_right
      fun ⟨_, isCond⟩ => .inl (encodes_of_branch isBranch isCond)
  refine illegal_or_of_class (fun isJalr => ?_) ?_
  · refine illegal_or_of_ite (fun isZero => .inl ?_) (.inl rfl)
    rw [isJalr, isZero] at fields
    exact ⟨.jalr (rd word) (rs1 word) (word.extractLsb' 20 12), fields⟩
  refine illegal_or_of_ite (fun isJal => .inl ?_) ?_
  · have jump := jFormat_fields word
    rw [isJal] at jump
    exact ⟨.jal (rd word) (jumpOffset word), jump⟩
  refine illegal_or_of_ite (fun isLoad => (load_cases isLoad).imp_right .inl) ?_
  refine illegal_or_of_ite
    (fun isStore => (store_cases isStore).imp_right fun undefined => .inr (.inl undefined)) ?_
  refine illegal_or_of_class (fun isImm => ?_) ?_
  · exact (itypeInstr_cases out).imp_right fun legal => .inl (encodes_of_itype isImm legal)
  refine illegal_or_of_class (fun isReg => ?_) ?_
  · exact (rtypeInstr_cases out).imp_right fun legal => .inl (encodes_of_rtype isReg legal)
  refine illegal_or_of_class (fun isSystem => ?_) ?_
  · exact (sysInstr_cases out isSystem).imp_right
      (Or.imp_right fun isUret => .inr (.inr isUret))
  refine illegal_or_of_class (fun isMismem => ?_) (.inl rfl)
  exact (mismemInstr_cases out).imp_right fun legal => .inl (encodes_of_mismem isMismem legal)

end Decoder

/-! ## Legality -/

namespace Instr

theorem illegalInstr_controls (instr : Instr) : instr.controls.illegalInstr = false := by
  cases instr with
  | arith instr => exact instr.illegalInstr_controls
  | _ => rfl

theorem uretEn_controls (instr : Instr) : instr.controls.uretEn = false := by
  cases instr with
  | arith instr =>
      cases instr with
      | opImm op rd rs1 imm => cases op <;> rfl
      | reg op rd rs1 rs2 => cases op <;> rfl
      | _ => rfl
  | _ => rfl

theorem undefinedLoad_encode (instr : Instr) : Decoder.undefinedLoad instr.encode = false := by
  unfold Decoder.undefinedLoad opcodeLoad
  cases instr with
  | load width rd rs1 imm =>
      rw [encode, opcode_iFormat, funct3_iFormat]
      cases width <;> rfl
  | arith instr => cases instr <;> simp [encode, ArithInstr.encode]
  | _ => simp [encode, sFormat, bFormat, jFormat]

theorem undefinedStore_encode (instr : Instr) : Decoder.undefinedStore instr.encode = false := by
  unfold Decoder.undefinedStore opcodeStore
  cases instr with
  | store width rs1 rs2 imm =>
      rw [encode, sFormat, opcode_iFormat, funct3_iFormat]
      cases width <;> rfl
  | arith instr => cases instr <;> simp [encode, ArithInstr.encode]
  | _ => simp [encode, bFormat, jFormat]

theorem encode_ne_uretWord (instr : Instr) : instr.encode ≠ Decoder.uretWord := by
  intro isUret
  have disabled := instr.uretEn_controls
  rw [← instr.decoder_encode, isUret] at disabled
  revert disabled
  decide

end Instr

namespace Decoder

/-- The words outside the instruction set that are accepted. -/
def Unchecked (word : Word) : Prop :=
  undefinedLoad word = true ∨ undefinedStore word = true ∨ word = uretWord

theorem not_encodes_of_unchecked {word : Word} (unchecked : Unchecked word) : ¬ word.Encodes := by
  rintro ⟨instr, rfl⟩
  rcases unchecked with load | store | uret
  · rw [instr.undefinedLoad_encode] at load
    cases load
  · rw [instr.undefinedStore_encode] at store
    cases store
  · exact instr.encode_ne_uretWord uret

theorem accepted_of_encodes {word : Word} (encodes : word.Encodes) :
    (decoder word true).illegalInstr = false := by
  obtain ⟨instr, rfl⟩ := encodes
  rw [instr.decoder_encode]
  exact instr.illegalInstr_controls

theorem accepted_of_unchecked {word : Word} (unchecked : Unchecked word) :
    (decoder word true).illegalInstr = false := by
  rcases unchecked with load | store | rfl
  · have isLoad : opcode word = opcodeLoad := by
      simp only [undefinedLoad, Bool.and_eq_true, beq_iff_eq] at load
      exact load.1
    simp only [decoder, instrClass, isLoad]
    rfl
  · have isStore : opcode word = opcodeStore := by
      simp only [undefinedStore, Bool.and_eq_true, beq_iff_eq] at store
      exact store.1
    simp only [decoder, instrClass, isStore]
    rfl
  · decide

/-- The enables of the execution units and of the register write. -/
def executeEnables (dec : Decoded) : List Bool :=
  [dec.adderEn, dec.compEn, dec.logicEn, dec.shiftEn, dec.multEn, dec.lsuEn, dec.csrEn, dec.branch,
    dec.jal, dec.jalr, dec.rdWrEn]

/-- The decoder accepts the word exactly if it is an instruction, and enables nothing otherwise. -/
structure Exact (word : Word) : Prop where
  accepted : (decoder word true).illegalInstr = false ↔ word.Encodes
  disabled : ¬ word.Encodes → (decoder word true).illegalInstr = true ∧
    ∀ enable ∈ executeEnables (decoder word true), enable = false

/-- An undefined width is executed as an access of some width, and `uret` enters the pipeline. -/
theorem exact_iff (word : Word) : Exact word ↔ ¬ Unchecked word := by
  constructor
  · intro exactly unchecked
    exact not_encodes_of_unchecked unchecked
      (exactly.accepted.mp (accepted_of_unchecked unchecked))
  · intro checked
    have illegalOr : decoder word true = illegal (defaults word true) ∨ word.Encodes :=
      (decoder_cases word).imp_right fun found => found.resolve_right checked
    refine ⟨⟨fun accepted => illegalOr.resolve_left ?_, accepted_of_encodes⟩,
      fun notEncodes => ?_⟩
    · intro rejected
      rw [rejected] at accepted
      cases accepted
    · rw [illegalOr.resolve_right notEncodes]
      refine ⟨rfl, ?_⟩
      intro enable isEnable
      simpa [executeEnables, illegal, defaults] using isEnable

/-- The word of `ld`, a load with an undefined width in the 32-bit set. -/
theorem not_exact_undefinedLoad : ¬ Exact 0x00003003#32 := by
  intro exactly
  have accepted : (decoder 0x00003003#32 true).illegalInstr = false := by decide
  exact not_encodes_of_unchecked (.inl (by decide)) (exactly.accepted.mp accepted)

end Decoder

end RiscvCore
