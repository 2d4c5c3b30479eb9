import RiscvCore.SystemInstructions
import RiscvCore.WriterFlow

/-!
# Operand forwarding

Of the four sources of an operand at most one is selected: the newest stage that holds a writer
of the register, or the register file if none does.
-/

namespace RiscvCore

open WriterTags (Aged Tracks Writer writersOf writersOf_append)

/-- A load or store enables no other unit. -/
def Decoded.AccessOnly (dec : Decoded) : Prop :=
  dec.lsuEn = true →
    dec.adderEn = false ∧ dec.compEn = false ∧ dec.logicEn = false ∧ dec.shiftEn = false ∧
      dec.multEn = false

namespace Decoder

variable {instr : Word} {out : Decoded}

theorem accessOnly_of_noAccess (noAccess : out.lsuEn = false) : out.AccessOnly := by
  intro access
  rw [noAccess] at access
  cases access

theorem lsuEn_ite {condition : Prop} [Decidable condition] {left right : Decoded}
    (isLeft : left.lsuEn = false) (isRight : right.lsuEn = false) :
    (if condition then left else right).lsuEn = false := by
  split
  · exact isLeft
  · exact isRight

theorem lsuEn_branchInstr (plain : out.lsuEn = false) : (branchInstr instr out).lsuEn = false := by
  unfold branchInstr
  repeat' apply lsuEn_ite
  all_goals exact plain

theorem lsuEn_itypeInstr (plain : out.lsuEn = false) : (itypeInstr instr out).lsuEn = false := by
  simp only [itypeInstr]
  repeat' apply lsuEn_ite
  all_goals exact plain

theorem lsuEn_rtypeInstr (plain : out.lsuEn = false) : (rtypeInstr instr out).lsuEn = false := by
  simp only [rtypeInstr]
  repeat' apply lsuEn_ite
  all_goals exact plain

theorem lsuEn_sysInstr (plain : out.lsuEn = false) : (sysInstr instr out).lsuEn = false := by
  unfold sysInstr
  repeat' apply lsuEn_ite
  all_goals exact plain

theorem accessOnly_ite {condition : Prop} [Decidable condition] {left right : Decoded}
    (isLeft : left.AccessOnly) (isRight : right.AccessOnly) :
    (if condition then left else right).AccessOnly := by
  split
  · exact isLeft
  · exact isRight

theorem accessOnly_instrClass : (instrClass instr (defaults instr true)).AccessOnly := by
  have plain : (defaults instr true).lsuEn = false := rfl
  have access : ∀ op, ({ defaults instr true with
      lsuEn := true, lsuOp := op } : Decoded).AccessOnly := fun _ _ => ⟨rfl, rfl, rfl, rfl, rfl⟩
  simp only [instrClass]
  refine accessOnly_ite ?_ <| accessOnly_ite ?_ <| accessOnly_ite ?_ <| accessOnly_ite ?_ <|
    accessOnly_ite ?_ <| accessOnly_ite ?_ <| accessOnly_ite ?_ <| accessOnly_ite ?_ <|
      accessOnly_ite ?_ <| accessOnly_ite ?_ <| accessOnly_ite ?_ ?_
  · exact accessOnly_of_noAccess plain
  · exact accessOnly_of_noAccess plain
  · exact accessOnly_of_noAccess (lsuEn_branchInstr plain)
  · exact accessOnly_of_noAccess (lsuEn_ite plain plain)
  · exact accessOnly_of_noAccess plain
  · exact access .ld
  · exact access .wr
  · exact accessOnly_of_noAccess (lsuEn_itypeInstr plain)
  · exact accessOnly_of_noAccess (lsuEn_rtypeInstr plain)
  · exact accessOnly_of_noAccess (lsuEn_sysInstr plain)
  · exact accessOnly_of_noAccess (lsuEn_ite plain (lsuEn_ite plain plain))
  · exact accessOnly_of_noAccess plain

end Decoder

theorem accessOnly_decoder (instr : Word) (instrValue : Bool) :
    (decoder instr instrValue).AccessOnly := by
  cases instrValue
  · exact Decoder.accessOnly_of_noAccess rfl
  · exact Decoder.accessOnly_instrClass

/-- Only a valid instruction writes a register. -/
theorem instrValue_of_rdWrEn {instr : Word} {instrValue : Bool}
    (writes : (decoder instr instrValue).rdWrEn = true) : instrValue = true := by
  cases instrValue
  · cases writes
  · rfl

namespace CoreState

variable {params : Params} {st : CoreState} {port : CoreInput} {reg : RegAddr}

/-- EX does not compute a result for a load or store. -/
def ExAccessOnly (st : CoreState) : Prop :=
  st.idEx.lsuEnEx = true → ExStage.aluEn st.idEx = false ∧ ExStage.divEn st.idEx = false

theorem exAccessOnly_step (accessOnly : st.ExAccessOnly) :
    (st.step params port).ExAccessOnly := by
  have next : (st.step params port).ExAccessOnly ↔
      ((st.nextIdExOperation params port).lsuEnEx = true →
        ExStage.aluEn (st.nextIdExOperation params port) = false ∧
          ExStage.divEn (st.nextIdExOperation params port) = false) := Iff.rfl
  rw [next]
  cases ready : st.readyEx params port
  · rw [nextIdExOperation_of_notReady ready]
    exact accessOnly
  · by_cases bubble : st.readyId params port = false ∨ st.flushD = true
    · rw [nextIdExOperation_of_bubble ready bubble]
      intro access
      cases access
    · rw [not_or, Bool.not_eq_false, Bool.not_eq_true] at bubble
      rw [nextIdExOperation_of_issue bubble.1 bubble.2]
      intro access
      obtain ⟨adder, comp, logic, shift, mult⟩ := accessOnly_decoder _ _ access
      have units : ∀ idEx : IdEx, idEx.adderEnEx = false → idEx.compEnEx = false →
          idEx.logicEnEx = false → idEx.shiftEnEx = false → idEx.multEnEx = false →
          ExStage.aluEn idEx = false ∧ ExStage.divEn idEx = false := by
        intro idEx adder comp logic shift mult
        simp [ExStage.aluEn, ExStage.divEn, adder, comp, logic, shift, mult]
      exact units _ adder comp logic shift mult

def ExWrites (st : CoreState) (reg : RegAddr) : Prop :=
  st.idEx.rdWrEnEx = true ∧ st.idEx.rdWrAddrEx = reg

def MemWrites (st : CoreState) (reg : RegAddr) : Prop :=
  st.exMem.rdWrEnMem = true ∧ st.exMem.rdWrAddrMem = reg

def WbWrites (st : CoreState) (reg : RegAddr) : Prop :=
  st.memWb.rdWrEnWb = true ∧ st.memWb.rdWrAddrWb = reg

theorem writersOf_ex : 0 < writersOf reg (st.idEx.writer.map (·.key)) ↔ st.ExWrites reg := by
  rw [WriterTags.writersOf_pos, IdEx.writer, ExWrites]
  cases st.idEx.rdWrEnEx <;> simp

theorem writersOf_mem : 0 < writersOf reg (st.exMem.writer.map (·.key)) ↔ st.MemWrites reg := by
  rw [WriterTags.writersOf_pos, ExMem.writer, MemWrites]
  cases st.exMem.rdWrEnMem <;> simp

theorem writersOf_wb : 0 < writersOf reg (st.memWb.writer.map (·.key)) ↔ st.WbWrites reg := by
  rw [WriterTags.writersOf_pos, MemWb.writer, WbWrites]
  cases st.memWb.rdWrEnWb <;> simp

variable (tracks : Tracks reg (st.rf.tag reg) (st.rf.dirtyEn reg) (st.writers.map (·.key)))
include tracks

theorem dirtyEn_iff :
    st.rf.dirtyEn reg = true ↔ st.ExWrites reg ∨ st.MemWrites reg ∨ st.WbWrites reg := by
  rw [tracks.dirty, decide_eq_true_iff, writers, List.map_append, List.map_append,
    writersOf_append, writersOf_append, ← writersOf_ex, ← writersOf_mem, ← writersOf_wb]
  omega

theorem tag_mem (writes : st.MemWrites reg) :
    st.exMem.rdWrTagMem = st.rf.tag reg ↔ ¬ st.ExWrites reg := by
  have aged := tracks.aged
  rw [writers, List.append_assoc, List.map_append, List.map_append] at aged
  have newest := aged.younger
  rw [ExMem.writer, if_pos writes.1, List.map_cons, List.map_nil, List.singleton_append]
    at newest
  have room := length_writers st
  rw [writers, List.length_append] at room
  have newestIff := newest.tag_eq_iff writes.2 (by
    rw [List.length_map, tagWidth]
    omega)
  rw [newestIff, ← writersOf_ex, Nat.not_lt, Nat.le_zero]

theorem tag_wb (writes : st.WbWrites reg) :
    st.memWb.rdWrTagWb = st.rf.tag reg ↔ ¬ st.MemWrites reg ∧ ¬ st.ExWrites reg := by
  have aged := tracks.aged
  rw [writers, List.append_assoc, List.map_append, List.map_append, MemWb.writer,
    if_pos writes.1, List.map_cons, List.map_nil, List.singleton_append] at aged
  have room := length_writers st
  rw [writers, List.append_assoc, MemWb.writer, if_pos writes.1, List.singleton_append,
    List.length_cons, List.length_append] at room
  have newestIff := Aged.tag_eq_iff aged writes.2 (by
    rw [List.length_append, List.length_map, List.length_map, tagWidth]
    omega)
  rw [newestIff, writersOf_append, ← writersOf_ex, ← writersOf_mem]
  omega

omit tracks

theorem bypass_iff (rf : RegisterFile) (notZero : reg ≠ 0#5) (forward : RegisterFile.WritePort) :
    ScoreBoard.bypass rf true reg forward = true ↔
      forward.en = true ∧ forward.addr = reg ∧ forward.tag = rf.tag reg := by
  simp only [ScoreBoard.bypass, Bool.true_and, Bool.and_eq_true, beq_iff_eq,
    Bool.not_eq_true', beq_eq_false_iff_ne, notZero, ne_eq, not_false_iff, and_true]
  rw [eq_comm (a := reg), eq_comm (a := rf.tag reg), and_assoc]

/-- EX offers only the result of a unit, never that of a load. -/
theorem writes_of_bypassEx (port : CoreInput) (notZero : reg ≠ 0#5) (accessOnly : st.ExAccessOnly)
    (bypass : ScoreBoard.bypass st.rf true reg (st.forwards port).ex = true) :
    st.ExWrites reg ∧ st.idEx.lsuEnEx = false := by
  obtain ⟨enable, addr, -⟩ := (bypass_iff st.rf notZero _).mp bypass
  simp only [forwards, ExStage.forwardEx, Bool.and_eq_true, Bool.or_eq_true] at enable addr
  refine ⟨⟨enable.1.1, addr⟩, ?_⟩
  cases access : st.idEx.lsuEnEx
  · rfl
  · obtain ⟨noAlu, noDiv⟩ := accessOnly access
    rcases enable.2 with alu | div
    · exact absurd alu (by simp [noAlu])
    · exact absurd div (by simp [noDiv])

theorem writes_of_bypassMem (port : CoreInput) (notZero : reg ≠ 0#5)
    (tracks : Tracks reg (st.rf.tag reg) (st.rf.dirtyEn reg) (st.writers.map (·.key)))
    (bypass : ScoreBoard.bypass st.rf true reg (st.forwards port).mem = true) :
    st.MemWrites reg ∧ st.exMem.lsuEnMem = false ∧ ¬ st.ExWrites reg := by
  obtain ⟨enable, addr, tag⟩ := (bypass_iff st.rf notZero _).mp bypass
  simp only [forwards, MemStage.forwardMem, Bool.and_eq_true, Bool.not_eq_true']
    at enable addr tag
  have writes : st.MemWrites reg := ⟨enable.2, addr⟩
  exact ⟨writes, enable.1, (tag_mem tracks writes).mp tag⟩

theorem writes_of_bypassWb (port : CoreInput) (notZero : reg ≠ 0#5)
    (tracks : Tracks reg (st.rf.tag reg) (st.rf.dirtyEn reg) (st.writers.map (·.key)))
    (bypass : ScoreBoard.bypass st.rf true reg (st.forwards port).wb = true) :
    st.WbWrites reg ∧ ¬ st.MemWrites reg ∧ ¬ st.ExWrites reg := by
  obtain ⟨enable, addr, tag⟩ := (bypass_iff st.rf notZero _).mp bypass
  simp only [forwards, rfWr, WbStage.rfWr, Bool.and_eq_true] at enable addr tag
  have writes : st.WbWrites reg := ⟨enable.1.2, addr⟩
  exact ⟨writes, (tag_wb tracks writes).mp tag⟩

/-- Where an available operand comes from: the newest stage that writes the register, or the
register file. -/
inductive OperandFrom (st : CoreState) (port : CoreInput) (reg : RegAddr) (data : Word) : Prop
  | ex (writes : st.ExWrites reg) (known : st.idEx.lsuEnEx = false)
      (same : data = st.rdWrDataEx port)
  | mem (noEx : ¬ st.ExWrites reg) (writes : st.MemWrites reg)
      (known : st.exMem.lsuEnMem = false) (same : data = st.exMem.rdWrDataMem)
  | wb (noEx : ¬ st.ExWrites reg) (noMem : ¬ st.MemWrites reg) (writes : st.WbWrites reg)
      (same : data = (st.rfWr port).data)
  | rf (noEx : ¬ st.ExWrites reg) (noMem : ¬ st.MemWrites reg) (noWb : ¬ st.WbWrites reg)
      (same : data = st.rf.mem reg)

theorem operandFrom_rdData (notZero : reg ≠ 0#5) (accessOnly : st.ExAccessOnly)
    (tracks : Tracks reg (st.rf.tag reg) (st.rf.dirtyEn reg) (st.writers.map (·.key)))
    (available : ScoreBoard.rdValue st.rf true reg (st.forwards port) = true) :
    st.OperandFrom port reg (ScoreBoard.rdData st.rf true reg (st.forwards port)) := by
  have fromEx := writes_of_bypassEx port notZero accessOnly
  have fromMem := writes_of_bypassMem port notZero tracks
  have fromWb := writes_of_bypassWb port notZero tracks
  have dirty := dirtyEn_iff tracks
  have data : ScoreBoard.rdData st.rf true reg (st.forwards port) =
      (ScoreBoard.gate (!st.rf.dirtyEn reg) (st.rf.mem reg) |||
        ScoreBoard.gate (ScoreBoard.bypass st.rf true reg (st.forwards port).ex)
          (st.rdWrDataEx port) |||
        ScoreBoard.gate (ScoreBoard.bypass st.rf true reg (st.forwards port).mem)
          st.exMem.rdWrDataMem |||
        ScoreBoard.gate (ScoreBoard.bypass st.rf true reg (st.forwards port).wb)
          (st.rfWr port).data) := rfl
  have someSource : (!st.rf.dirtyEn reg) = true ∨
      ScoreBoard.bypass st.rf true reg (st.forwards port).ex = true ∨
        ScoreBoard.bypass st.rf true reg (st.forwards port).mem = true ∨
          ScoreBoard.bypass st.rf true reg (st.forwards port).wb = true := by
    simpa [ScoreBoard.rdValue, ScoreBoard.rdRfDirty, or_assoc] using available
  rw [data]
  generalize ScoreBoard.bypass st.rf true reg (st.forwards port).ex = bypassEx
    at fromEx someSource
  generalize ScoreBoard.bypass st.rf true reg (st.forwards port).mem = bypassMem
    at fromMem someSource
  generalize ScoreBoard.bypass st.rf true reg (st.forwards port).wb = bypassWb
    at fromWb someSource
  -- A selected source excludes the others.
  cases bypassEx with
  | true =>
      obtain ⟨writes, known⟩ := fromEx rfl
      have isDirty : st.rf.dirtyEn reg = true := dirty.mpr (Or.inl writes)
      have noMem : bypassMem = false := Bool.eq_false_iff.mpr fun mem => (fromMem mem).2.2 writes
      have noWb : bypassWb = false := Bool.eq_false_iff.mpr fun wb => (fromWb wb).2.2 writes
      refine .ex writes known ?_
      simp [isDirty, noMem, noWb, ScoreBoard.gate]
  | false =>
      cases bypassMem with
      | true =>
          obtain ⟨writes, known, noEx⟩ := fromMem rfl
          have isDirty : st.rf.dirtyEn reg = true := dirty.mpr (Or.inr (Or.inl writes))
          have noWb : bypassWb = false := Bool.eq_false_iff.mpr fun wb => (fromWb wb).2.1 writes
          refine .mem noEx writes known ?_
          simp [isDirty, noWb, ScoreBoard.gate]
      | false =>
          cases bypassWb with
          | true =>
              obtain ⟨writes, noMem, noEx⟩ := fromWb rfl
              have isDirty : st.rf.dirtyEn reg = true := dirty.mpr (Or.inr (Or.inr writes))
              refine .wb noEx noMem writes ?_
              simp [isDirty, ScoreBoard.gate]
          | false =>
              have clean : st.rf.dirtyEn reg = false := by simpa using someSource
              have none : ¬ (st.ExWrites reg ∨ st.MemWrites reg ∨ st.WbWrites reg) := by
                rw [← dirty, clean]
                exact Bool.false_ne_true
              rw [not_or, not_or] at none
              refine .rf none.1 none.2.1 none.2.2 ?_
              simp [clean, ScoreBoard.gate]

def ZeroRegister (st : CoreState) : Prop :=
  st.rf.mem 0#5 = 0#32 ∧ st.rf.dirtyEn 0#5 = false

theorem zeroRegister_step : (st.step params port).ZeroRegister := ⟨rfl, rfl⟩

theorem rdData_zero (port : CoreInput) (zero : st.ZeroRegister) (enable : Bool) :
    ScoreBoard.rdData st.rf enable 0#5 (st.forwards port) = 0#32 := by
  cases enable <;>
    simp [ScoreBoard.rdData, ScoreBoard.rdRfData, ScoreBoard.rdRfDirty, ScoreBoard.bypass,
      ScoreBoard.gate, zero.1, zero.2]

end CoreState

end RiscvCore
