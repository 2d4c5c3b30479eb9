import RiscvCore.Decoder

/-!
# The system instructions

The decoder raises at most one of the enables that make ID wait for a trap.
-/

namespace RiscvCore

/-- What a decoded instruction asks of the trap logic. -/
inductive SystemKind where
  | ecall | ebreak | mret | uret | wfi | fence | illegal
  deriving DecidableEq, Repr

/-- The seven enables are those of one kind, or all low. -/
structure Decoded.HasKind (dec : Decoded) (kind : Option SystemKind) : Prop where
  ecall : dec.ecallEn = decide (kind = some .ecall)
  ebreak : dec.ebreakEn = decide (kind = some .ebreak)
  mret : dec.mretEn = decide (kind = some .mret)
  uret : dec.uretEn = decide (kind = some .uret)
  wfi : dec.wfiEn = decide (kind = some .wfi)
  fence : dec.fenceEn = decide (kind = some .fence)
  illegal : dec.illegalInstr = decide (kind = some .illegal)

/-- The enables are those of some kind. -/
def Decoded.Kinded (dec : Decoded) : Prop := ∃ kind, dec.HasKind kind

namespace Decoder

variable {instr : Word} {out : Decoded}

theorem hasKind_defaults (instr : Word) (instrValue : Bool) :
    (defaults instr instrValue).HasKind none := by
  constructor <;> rfl

theorem kinded_ite {condition : Prop} [Decidable condition] {left right : Decoded}
    (isLeft : left.Kinded) (isRight : right.Kinded) :
    (if condition then left else right).Kinded := by
  split
  · exact isLeft
  · exact isRight

theorem kinded_illegal (plain : out.HasKind none) : (illegal out).Kinded := by
  refine ⟨some .illegal, ?_⟩
  constructor <;> simp [illegal, plain.ecall, plain.ebreak, plain.mret, plain.uret, plain.wfi,
    plain.fence]

/-! Each instruction class leaves the enables low or raises one of them. -/

theorem kinded_branchInstr (plain : out.HasKind none) : (branchInstr instr out).Kinded := by
  unfold branchInstr
  repeat' apply kinded_ite
  all_goals first
    | exact kinded_illegal plain
    | exact ⟨none, plain.1, plain.2, plain.3, plain.4, plain.5, plain.6, plain.7⟩

theorem kinded_jalrInstr (plain : out.HasKind none) : (jalrInstr instr out).Kinded :=
  kinded_ite ⟨none, plain.1, plain.2, plain.3, plain.4, plain.5, plain.6, plain.7⟩
    (kinded_illegal plain)

theorem kinded_itypeInstr (plain : out.HasKind none) : (itypeInstr instr out).Kinded := by
  simp only [itypeInstr]
  repeat' apply kinded_ite
  all_goals first
    | exact kinded_illegal plain
    | exact ⟨none, plain.1, plain.2, plain.3, plain.4, plain.5, plain.6, plain.7⟩

theorem kinded_rtypeInstr (plain : out.HasKind none) : (rtypeInstr instr out).Kinded := by
  simp only [rtypeInstr]
  repeat' apply kinded_ite
  all_goals first
    | exact kinded_illegal plain
    | exact ⟨none, plain.1, plain.2, plain.3, plain.4, plain.5, plain.6, plain.7⟩

theorem kinded_sysInstr (plain : out.HasKind none) : (sysInstr instr out).Kinded := by
  have low := plain
  rcases low with ⟨ecall, ebreak, mret, uret, wfi, fence, illegalLow⟩
  simp only [reduceCtorEq, decide_false] at ecall ebreak mret uret wfi fence illegalLow
  unfold sysInstr
  repeat' apply kinded_ite
  · exact ⟨none, plain.1, plain.2, plain.3, plain.4, plain.5, plain.6, plain.7⟩
  · exact ⟨none, plain.1, plain.2, plain.3, plain.4, plain.5, plain.6, plain.7⟩
  · exact ⟨some .ecall, by constructor <;> simp_all⟩
  · exact ⟨some .ebreak, by constructor <;> simp_all⟩
  · exact ⟨some .mret, by constructor <;> simp_all⟩
  · exact ⟨some .uret, by constructor <;> simp_all⟩
  · exact kinded_illegal plain
  · exact ⟨some .wfi, by constructor <;> simp_all⟩
  · exact kinded_illegal plain

theorem kinded_mismemInstr (plain : out.HasKind none) : (mismemInstr instr out).Kinded := by
  have low := plain
  rcases low with ⟨ecall, ebreak, mret, uret, wfi, fence, illegalLow⟩
  simp only [reduceCtorEq, decide_false] at ecall ebreak mret uret wfi fence illegalLow
  unfold mismemInstr
  repeat' apply kinded_ite
  · exact ⟨none, plain⟩
  · exact ⟨some .fence, by constructor <;> simp_all⟩
  · exact kinded_illegal plain

theorem kinded_instrClass (plain : out.HasKind none) : (instrClass instr out).Kinded := by
  simp only [instrClass]
  refine kinded_ite ?_ <| kinded_ite ?_ <| kinded_ite ?_ <| kinded_ite ?_ <|
    kinded_ite ?_ <| kinded_ite ?_ <| kinded_ite ?_ <| kinded_ite ?_ <|
      kinded_ite ?_ <| kinded_ite ?_ <| kinded_ite ?_ ?_
  · exact ⟨none, plain.1, plain.2, plain.3, plain.4, plain.5, plain.6, plain.7⟩
  · exact ⟨none, plain.1, plain.2, plain.3, plain.4, plain.5, plain.6, plain.7⟩
  · exact kinded_branchInstr plain
  · exact kinded_jalrInstr plain
  · exact ⟨none, plain.1, plain.2, plain.3, plain.4, plain.5, plain.6, plain.7⟩
  · exact ⟨none, plain.1, plain.2, plain.3, plain.4, plain.5, plain.6, plain.7⟩
  · exact ⟨none, plain.1, plain.2, plain.3, plain.4, plain.5, plain.6, plain.7⟩
  · exact kinded_itypeInstr plain
  · exact kinded_rtypeInstr plain
  · exact kinded_sysInstr plain
  · exact kinded_mismemInstr plain
  · exact kinded_illegal plain

end Decoder

/-- Every decoded instruction is of one kind, and without a valid instruction of none. -/
theorem exists_hasKind_decoder (instr : Word) (instrValue : Bool) :
    ∃ kind, (decoder instr instrValue).HasKind kind ∧ (instrValue = false → kind = none) := by
  have plain := Decoder.hasKind_defaults instr instrValue
  cases instrValue
  · exact ⟨none, plain, fun _ => rfl⟩
  · obtain ⟨kind, hasKind⟩ := Decoder.kinded_instrClass plain
    exact ⟨kind, hasKind, fun invalid => by cases invalid⟩

end RiscvCore
