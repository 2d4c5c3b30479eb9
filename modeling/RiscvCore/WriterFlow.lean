import RiscvCore.InOrderHistory
import RiscvCore.PipelineSteps
import RiscvCore.WriterTags

/-!
# Register writers in the pipeline

While the controller is idle, the instructions in EX, MEM and WB that write a register form an
in-order pipeline between issue and the register file.  The dirty bits and tags of the register
file track the writers in it.
-/

namespace RiscvCore

open InOrderHistory (Entry forall₂_append forall₂_keys forall₂_rfl)
open WriterTags (Tracks Writer)

/-- A writer under way: its result is known unless it comes from the divider, the multiplier or
memory. -/
abbrev WriterEntry := Entry (Writer RegAddr tagWidth) Word

def IdEx.writer (ex : IdEx) : List WriterEntry :=
  if ex.rdWrEnEx then [⟨⟨ex.rdWrAddrEx, ex.rdWrTagEx⟩, none⟩] else []

def ExMem.writer (mem : ExMem) : List WriterEntry :=
  if mem.rdWrEnMem then
    [⟨⟨mem.rdWrAddrMem, mem.rdWrTagMem⟩, if mem.lsuEnMem then none else some mem.rdWrDataMem⟩]
  else []

def MemWb.writer (wb : MemWb) : List WriterEntry :=
  if wb.rdWrEnWb then
    [⟨⟨wb.rdWrAddrWb, wb.rdWrTagWb⟩, if wb.lsuEnWb then none else some wb.rdWrDataWb⟩]
  else []

namespace CoreState

variable {params : Params} {st : CoreState} {port : CoreInput}

/-- The writers in the pipeline, oldest first. -/
def writers (st : CoreState) : List WriterEntry :=
  st.memWb.writer ++ st.exMem.writer ++ st.idEx.writer

/-- The writer issued and the one written in a cycle. -/
def writerCycle (params : Params) (st : CoreState) (port : CoreInput) :
    InOrderHistory.Cycle (Writer RegAddr tagWidth) Word where
  entering :=
    if (st.invalidPort params port).en then
      some ⟨st.decoded.rdWrAddr, st.rf.newTag (st.invalidPort params port)⟩
    else none
  leaving :=
    if (st.rfWr port).en then
      some (⟨(st.rfWr port).addr, (st.rfWr port).tag⟩, (st.rfWr port).data)
    else none

theorem flushE_of_idle (idle : st.fsm = .idle) : st.flushE = false := by
  rw [flushE, idle]
  rfl

theorem stall_of_idle (idle : st.fsm = .idle) : st.stall = false := by
  rw [stall, idle]
  rfl

theorem left_of_written (idle : st.fsm = .idle) (ready : st.readyWb port = true)
    (writes : st.memWb.rdWrEnWb = true) :
    (st.writerCycle params port).left =
      [⟨⟨st.memWb.rdWrAddrWb, st.memWb.rdWrTagWb⟩, some (st.rfWr port).data⟩] := by
  have enable : (st.rfWr port).en = true := by
    simp [rfWr, WbStage.rfWr, ready, writes, flushE_of_idle idle]
  rw [InOrderHistory.Cycle.left, writerCycle, if_pos enable]
  rfl

theorem left_of_readyWb (idle : st.fsm = .idle) (ready : st.readyWb port = true) :
    List.Forall₂ Entry.Becomes st.memWb.writer (st.writerCycle params port).left := by
  rw [MemWb.writer]
  cases writes : st.memWb.rdWrEnWb with
  | false =>
      have enable : (st.rfWr port).en = false := by simp [rfWr, WbStage.rfWr, writes]
      rw [InOrderHistory.Cycle.left, writerCycle, enable]
      exact List.Forall₂.nil
  | true =>
      rw [left_of_written idle ready writes]
      refine List.Forall₂.cons ⟨rfl, fun value known => ?_⟩ List.Forall₂.nil
      cases access : st.memWb.lsuEnWb with
      | false =>
          rw [← known]
          simp [rfWr, WbStage.rfWr, access]
      | true => simp [access] at known

theorem left_of_notReadyWb (notReady : st.readyWb port = false) :
    (st.writerCycle params port).left = [] := by
  have enable : (st.rfWr port).en = false := by simp [rfWr, WbStage.rfWr, notReady]
  simp [InOrderHistory.Cycle.left, writerCycle, enable]

theorem nextMemWb_of_readyMem (idle : st.fsm = .idle) (ready : st.readyMem port = true) :
    (st.nextMemWb port).writer = st.exMem.writer := by
  have valid : st.validMem port = true := validMem_eq_readyMem.trans ready
  simp [nextMemWb, MemStage.nextOperation, MemWb.writer, ExMem.writer, valid,
    flushE_of_idle idle]

theorem nextMemWb_of_bubble (readyWb : st.readyWb port = true)
    (notReady : st.readyMem port = false) : (st.nextMemWb port).writer = [] := by
  have notValid : st.validMem port = false := validMem_eq_readyMem.trans notReady
  simp [nextMemWb, MemStage.nextOperation, MemWb.writer, notValid, readyWb]

theorem nextMemWb_of_notReadyWb (notReady : st.readyWb port = false) :
    (st.nextMemWb port).writer = st.memWb.writer := by
  rw [nextMemWb, nextMemWbOperation_of_notReady notReady]
  rfl

theorem pmpErr_of_readyEx (ready : st.readyEx params port = true) : st.pmpErr = false := by
  simp only [readyEx, excEx, Bool.and_eq_true, Bool.not_eq_true'] at ready
  cases denied : st.pmpErr
  · rfl
  · rw [denied] at ready
    cases enabled : params.illegalCsrEn <;> simp [enabled] at ready

theorem nextExMem_of_readyEx (idle : st.fsm = .idle) (ready : st.readyEx params port = true) :
    (st.nextExMem params port).writer =
      if st.idEx.rdWrEnEx then
        [⟨⟨st.idEx.rdWrAddrEx, st.idEx.rdWrTagEx⟩,
          if st.idEx.lsuEnEx then none else some (st.rdWrDataEx port)⟩]
      else [] := by
  have valid := validEx_of_readyEx ready
  simp [nextExMem, ExStage.nextOperation, ExMem.writer, valid, ready, flushE_of_idle idle,
    pmpErr_of_readyEx ready]

theorem becomes_nextExMem (idle : st.fsm = .idle) (ready : st.readyEx params port = true) :
    List.Forall₂ Entry.Becomes st.idEx.writer (st.nextExMem params port).writer := by
  rw [nextExMem_of_readyEx idle ready, IdEx.writer]
  cases st.idEx.rdWrEnEx
  · exact List.Forall₂.nil
  · exact List.Forall₂.cons ⟨rfl, fun value known => by cases known⟩ List.Forall₂.nil

theorem nextExMem_of_bubble (readyMem : st.readyMem port = true)
    (notReady : st.readyEx params port = false) : (st.nextExMem params port).writer = [] := by
  simp [nextExMem, ExStage.nextOperation, ExMem.writer, notReady, readyMem]

theorem nextExMem_of_notReadyMem (notReady : st.readyMem port = false) :
    (st.nextExMem params port).writer = st.exMem.writer := by
  rw [nextExMem, nextExMemOperation_of_notReady notReady]
  rfl

/-- EX receives the issued writer, if there is one. -/
theorem nextIdEx_of_readyEx (ready : st.readyEx params port = true) :
    (st.nextIdEx params port).writer = (st.writerCycle params port).entered := by
  have issue : (st.nextIdEx params port).writer =
      (st.nextIdExOperation params port).writer := rfl
  rw [issue, InOrderHistory.Cycle.entered, writerCycle, invalidPort]
  cases readyId : st.readyId params port
  · rw [nextIdExOperation_of_bubble ready (Or.inl readyId)]
    simp [IdEx.writer, IdEx.flushed]
  · cases flush : st.flushD
    · rw [nextIdExOperation_of_issue readyId flush]
      cases enable : st.decoded.rdWrEn <;>
        simp [IdEx.writer, IdStage.issued, invalidPort, enable, readyId, flush]
    · rw [nextIdExOperation_of_bubble ready (Or.inr flush)]
      simp [IdEx.writer, IdEx.flushed]

theorem nextIdEx_of_notReadyEx (notReady : st.readyEx params port = false) :
    (st.nextIdEx params port).writer = st.idEx.writer ∧
      (st.writerCycle params port).entered = [] := by
  have notReadyId : st.readyId params port = false := by simp [readyId, notReady]
  constructor
  · have operation : (st.nextIdEx params port).writer =
        (st.nextIdExOperation params port).writer := rfl
    rw [operation, nextIdExOperation_of_notReady notReady]
  · simp [InOrderHistory.Cycle.entered, writerCycle, invalidPort, notReadyId]

/-- In one cycle the oldest writer may be written, then one may be issued. -/
theorem writers_step (params : Params) (port : CoreInput) (idle : st.fsm = .idle) :
    ∃ rest, List.Forall₂ Entry.Becomes st.writers ((st.writerCycle params port).left ++ rest) ∧
      List.Forall₂ Entry.Becomes (rest ++ (st.writerCycle params port).entered)
        (st.step params port).writers := by
  have next : (st.step params port).writers =
      (st.nextMemWb port).writer ++ (st.nextExMem params port).writer ++
        (st.nextIdEx params port).writer := rfl
  rw [next]
  cases readyWb : st.readyWb port with
  | false =>
      have notReadyMem : st.readyMem port = false := by simp [readyMem, readyWb]
      have notReadyEx : st.readyEx params port = false := by simp [readyEx, notReadyMem]
      obtain ⟨keeps, nothing⟩ := nextIdEx_of_notReadyEx notReadyEx
      refine ⟨st.writers, ?_, ?_⟩
      · rw [left_of_notReadyWb readyWb]
        exact forall₂_rfl _
      · rw [nothing, keeps, List.append_nil, nextMemWb_of_notReadyWb readyWb,
          nextExMem_of_notReadyMem notReadyMem]
        exact forall₂_rfl _
  | true =>
      refine ⟨st.exMem.writer ++ st.idEx.writer, ?_, ?_⟩
      · rw [writers, List.append_assoc]
        exact forall₂_append (left_of_readyWb idle readyWb) (forall₂_rfl _)
      · cases readyMem : st.readyMem port with
        | false =>
            have notReadyEx : st.readyEx params port = false := by simp [readyEx, readyMem]
            obtain ⟨keeps, nothing⟩ := nextIdEx_of_notReadyEx notReadyEx
            rw [nothing, keeps, List.append_nil, nextMemWb_of_bubble readyWb readyMem,
              nextExMem_of_notReadyMem readyMem, List.nil_append]
            exact forall₂_rfl _
        | true =>
            rw [nextMemWb_of_readyMem idle readyMem]
            cases readyEx : st.readyEx params port with
            | false =>
                obtain ⟨keeps, nothing⟩ := nextIdEx_of_notReadyEx readyEx
                rw [nothing, keeps, List.append_nil, nextExMem_of_bubble readyMem readyEx,
                  List.append_nil]
                exact forall₂_rfl _
            | true =>
                rw [nextIdEx_of_readyEx readyEx]
                exact forall₂_append
                  (forall₂_append (forall₂_rfl _) (becomes_nextExMem idle readyEx)) (forall₂_rfl _)

theorem length_writers (st : CoreState) : st.writers.length ≤ 3 := by
  have wb : st.memWb.writer.length ≤ 1 := by
    rw [MemWb.writer]
    split <;> simp
  have mem : st.exMem.writer.length ≤ 1 := by
    rw [ExMem.writer]
    split <;> simp
  have ex : st.idEx.writer.length ≤ 1 := by
    rw [IdEx.writer]
    split <;> simp
  rw [writers, List.length_append, List.length_append]
  omega

/-- The score board tracks the writers of every register but register 0. -/
def ScoreBoardTracks (st : CoreState) : Prop :=
  ∀ reg, reg ≠ 0#5 →
    Tracks reg (st.rf.tag reg) (st.rf.dirtyEn reg) (st.writers.map Entry.key)

theorem clrDirty_of_idle (params : Params) (port : CoreInput) (idle : st.fsm = .idle)
    (reg : RegAddr) : RegisterFile.clrDirty (st.rfInput params port) reg = false := by
  simp [RegisterFile.clrDirty, rfInput, ExStage.clrDirtyEx, MemStage.clrDirtyMem,
    WbStage.clrDirtyWb, RegisterFile.AddrPort.hits, flushE_of_idle idle]

theorem tag_step {reg : RegAddr} (notZero : reg ≠ 0#5) :
    (st.step params port).rf.tag reg =
      if (st.invalidPort params port).hits reg then
        st.rf.tag reg + BitVec.ofNat tagWidth 1
      else st.rf.tag reg := by
  have next : (st.step params port).rf.tag reg = st.rf.tagN (st.invalidPort params port) reg := rfl
  rw [next, RegisterFile.tagN, if_neg notZero]

theorem dirtyEn_step (idle : st.fsm = .idle) {reg : RegAddr} (notZero : reg ≠ 0#5) :
    (st.step params port).rf.dirtyEn reg =
      if (st.invalidPort params port).hits reg then true
      else if (st.rfWr port).en && (st.rfWr port).addr == reg &&
          (st.rfWr port).tag == st.rf.tag reg then false
      else st.rf.dirtyEn reg := by
  have clear := clrDirty_of_idle params port idle reg
  change (if reg = 0#5 then false
    else if RegisterFile.clrDirty (st.rfInput params port) reg then false
    else _) = _
  rw [if_neg notZero, clear]
  rfl

theorem scoreBoardTracks_step (idle : st.fsm = .idle) (tracks : st.ScoreBoardTracks) :
    (st.step params port).ScoreBoardTracks := by
  intro reg notZero
  obtain ⟨rest, leaving, entering⟩ := writers_step params port idle
  have keys := forall₂_keys leaving
  have nextKeys := forall₂_keys entering
  have room := length_writers st
  rw [leaving.length_eq, List.length_append] at room
  have before := tracks reg notZero
  rw [← keys, List.map_append] at before
  rw [nextKeys, List.map_append, tag_step notZero, dirtyEn_step idle notZero]
  -- The oldest writer is written.
  have popped : Tracks reg (st.rf.tag reg)
      (if (st.rfWr port).en && (st.rfWr port).addr == reg &&
        (st.rfWr port).tag == st.rf.tag reg then false else st.rf.dirtyEn reg)
      (rest.map Entry.key) := by
    cases written : (st.rfWr port).en with
    | false =>
        simpa [InOrderHistory.Cycle.left, writerCycle, written] using before
    | true =>
        simp only [InOrderHistory.Cycle.left, writerCycle, written, if_true, Option.map_some,
          Option.toList_some, List.map_cons, List.map_nil, List.singleton_append] at before
        have pop := before.pop (by
          simp only [List.length_map, tagWidth]
          omega)
        simpa using pop
  -- A new one is issued.
  cases issued : (st.invalidPort params port).en with
  | false =>
      simpa [InOrderHistory.Cycle.entered, writerCycle, issued, RegisterFile.AddrPort.hits]
        using popped
  | true =>
      let writer : Writer RegAddr tagWidth :=
        ⟨st.decoded.rdWrAddr, st.rf.newTag (st.invalidPort params port)⟩
      have newTag : writer.reg = reg →
          writer.tag = st.rf.tag reg + BitVec.ofNat tagWidth 1 := by
        intro same
        change st.rf.newTag (st.invalidPort params port) = _
        have addr : (st.invalidPort params port).addr = reg := same
        rw [RegisterFile.newTag, RegisterFile.tagN, addr, if_neg notZero,
          RegisterFile.AddrPort.hits, issued, addr]
        simp
      have hits : (st.invalidPort params port).hits reg = decide (st.decoded.rdWrAddr = reg) := by
        rw [RegisterFile.AddrPort.hits, issued, Bool.true_and]
        rfl
      have push := popped.push newTag
      rw [hits]
      simpa [InOrderHistory.Cycle.entered, writerCycle, issued, writer] using push

theorem scoreBoardTracks_reset (bootAddr : Word) : (reset bootAddr).ScoreBoardTracks :=
  fun reg _ => WriterTags.tracks_nil reg _

end CoreState

end RiscvCore
