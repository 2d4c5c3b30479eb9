import Mathlib.Algebra.Group.Nat.Defs
import Mathlib.Data.List.Basic

/-!
# Wrapping write tags

A register counts its writers modulo a power of two, and every writer carries the count it was
given.  As long as fewer writers are under way than there are tags, the tag of the register is
the tag of its newest writer and of no other one.
-/

namespace WriterTags

variable {Reg : Type _} [DecidableEq Reg] {width : Nat}

/-- A tagged writer of a register. -/
structure Writer (Reg : Type _) (width : Nat) where
  reg : Reg
  tag : BitVec width

/-- The number of writers of a register in a queue. -/
def writersOf (reg : Reg) (queue : List (Writer Reg width)) : Nat :=
  queue.countP fun writer => decide (writer.reg = reg)

theorem writersOf_nil (reg : Reg) :
    writersOf reg ([] : List (Writer Reg width)) = 0 := rfl

theorem writersOf_cons (reg : Reg) (writer : Writer Reg width)
    (queue : List (Writer Reg width)) :
    writersOf reg (writer :: queue) =
      writersOf reg queue + if writer.reg = reg then 1 else 0 := by
  rw [writersOf, List.countP_cons, writersOf]
  simp

theorem writersOf_append (reg : Reg) (older younger : List (Writer Reg width)) :
    writersOf reg (older ++ younger) = writersOf reg older + writersOf reg younger :=
  List.countP_append

theorem writersOf_le (reg : Reg) (queue : List (Writer Reg width)) :
    writersOf reg queue ≤ queue.length := List.countP_le_length

theorem writersOf_pos {reg : Reg} {queue : List (Writer Reg width)} :
    0 < writersOf reg queue ↔ ∃ writer ∈ queue, writer.reg = reg := by
  rw [writersOf, List.countP_pos_iff]
  simp

/-- Oldest first, every writer of the register carries its tag less the number of younger
writers. -/
def Aged (reg : Reg) (current : BitVec width) : List (Writer Reg width) → Prop
  | [] => True
  | writer :: younger =>
      (writer.reg = reg →
        writer.tag + BitVec.ofNat width (writersOf reg younger) = current) ∧
          Aged reg current younger

variable {reg : Reg} {current : BitVec width} {queue : List (Writer Reg width)}
  {writer : Writer Reg width}

/-- A new writer advances the tag of its own register only. -/
theorem Aged.push (aged : Aged reg current queue)
    (newTag : writer.reg = reg → writer.tag = current + BitVec.ofNat width 1) :
    Aged reg (if writer.reg = reg then current + BitVec.ofNat width 1 else current)
      (queue ++ [writer]) := by
  induction queue with
  | nil =>
      refine ⟨fun same => ?_, trivial⟩
      rw [if_pos same, newTag same, writersOf_nil, BitVec.add_zero]
  | cons oldest younger induction =>
      obtain ⟨tag, rest⟩ := aged
      refine ⟨fun sameOldest => ?_, induction rest⟩
      rw [List.append_eq, writersOf_append, writersOf_cons, writersOf_nil, Nat.zero_add]
      by_cases same : writer.reg = reg
      · rw [if_pos same, if_pos same, BitVec.ofNat_add, ← BitVec.add_assoc, tag sameOldest]
      · rw [if_neg same, if_neg same, Nat.add_zero, tag sameOldest]

theorem Aged.younger {older younger : List (Writer Reg width)}
    (aged : Aged reg current (older ++ younger)) : Aged reg current younger := by
  induction older with
  | nil => exact aged
  | cons _ _ induction => exact induction aged.2

/-- The oldest writer carries the tag of its register only if it is the last one. -/
theorem Aged.tag_eq_iff (aged : Aged reg current (writer :: queue)) (same : writer.reg = reg)
    (room : queue.length < 2 ^ width) : writer.tag = current ↔ writersOf reg queue = 0 := by
  have tag := aged.1 same
  have small : writersOf reg queue < 2 ^ width :=
    Nat.lt_of_le_of_lt (writersOf_le reg queue) room
  constructor
  · intro sameTag
    rw [sameTag] at tag
    have isZero : BitVec.ofNat width (writersOf reg queue) = BitVec.ofNat width 0 := by
      simpa using tag
    have toNat := congrArg BitVec.toNat isZero
    rwa [BitVec.toNat_ofNat, Nat.mod_eq_of_lt small, BitVec.toNat_ofNat, Nat.zero_mod] at toNat
  · intro none
    rw [← tag, none, BitVec.add_zero]

/-- A register's tag and dirty bit describe its writers under way. -/
structure Tracks (reg : Reg) (current : BitVec width) (dirty : Bool)
    (queue : List (Writer Reg width)) : Prop where
  aged : Aged reg current queue
  dirty : dirty = decide (0 < writersOf reg queue)

theorem tracks_nil (reg : Reg) (current : BitVec width) : Tracks reg current false [] where
  aged := trivial
  dirty := rfl

variable {dirty : Bool}

/-- The oldest writer finishes: the dirty bit is cleared if its tag is the current one. -/
theorem Tracks.pop (tracks : Tracks reg current dirty (writer :: queue))
    (room : queue.length < 2 ^ width) :
    Tracks reg current (if writer.reg = reg ∧ writer.tag = current then false else dirty)
      queue where
  aged := tracks.aged.2
  dirty := by
    rw [tracks.dirty, writersOf_cons]
    by_cases same : writer.reg = reg
    · have newest := tracks.aged.tag_eq_iff same room
      by_cases none : writersOf reg queue = 0
      · rw [if_pos ⟨same, newest.mpr none⟩, none]
        rfl
      · rw [if_neg fun both => none (newest.mp both.2)]
        have some : 0 < writersOf reg queue := Nat.pos_of_ne_zero none
        rw [decide_eq_true (Nat.lt_add_right _ some), decide_eq_true some]
    · simp [same]

/-- A new writer sets the dirty bit of its register. -/
theorem Tracks.push (tracks : Tracks reg current dirty queue)
    (newTag : writer.reg = reg → writer.tag = current + BitVec.ofNat width 1) :
    Tracks reg (if writer.reg = reg then current + BitVec.ofNat width 1 else current)
      (if writer.reg = reg then true else dirty) (queue ++ [writer]) where
  aged := tracks.aged.push newTag
  dirty := by
    rw [tracks.dirty, writersOf_append, writersOf_cons, writersOf_nil]
    by_cases same : writer.reg = reg <;> simp [same]

end WriterTags
