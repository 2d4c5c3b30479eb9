import Mathlib.Algebra.Group.Nat.Defs

/-!
# A memory of bytes behind a bus of words

The bus reads and writes the four bytes of an aligned word at once, each byte of a write with an
enable of its own.  Multi-byte values lie in the memory with their low byte first, at any address;
addresses wrap.
-/

namespace ByteMemory

abbrev Address := BitVec 32

abbrev Byte := BitVec 8

abbrev Memory := Address → Byte

/-- The address of the word that contains a byte. -/
def wordAddress (addr : Address) : Address := addr.extractLsb' 2 30 ++ 0#2

/-- The place of a byte in its word. -/
def lane (addr : Address) : Nat := addr.toNat % 4

/-- A byte of a value. -/
def byteOf (value : BitVec 32) (index : Nat) : Byte := value.extractLsb' (8 * index) 8

/-- The word that the bus reads. -/
def readWord (memory : Memory) (addr : Address) : BitVec 32 :=
  memory (wordAddress addr + 3#32) ++ memory (wordAddress addr + 2#32) ++
    memory (wordAddress addr + 1#32) ++ memory (wordAddress addr)

/-- A write on the bus: the enabled bytes of the word. -/
def writeLanes (memory : Memory) (addr : Address) (enable : BitVec 4) (word : BitVec 32) :
    Memory := fun target =>
  if wordAddress target = wordAddress addr ∧ enable.getLsbD (lane target) = true then
    byteOf word (lane target)
  else memory target

/-- The low `count` bytes of a value at an address, the lowest first. -/
def writeBytes (memory : Memory) (addr : Address) (count : Nat) (value : BitVec 32) : Memory :=
  fun target =>
    if (target - addr).toNat < count then byteOf value (target - addr).toNat else memory target

theorem toNat_concat {m n : Nat} (high : BitVec m) (low : BitVec n) :
    (high ++ low).toNat = high.toNat * 2 ^ n + low.toNat := by
  rw [BitVec.toNat_append, ← Nat.shiftLeft_add_eq_or_of_lt low.isLt, Nat.shiftLeft_eq]

theorem toNat_byteOf (value : BitVec 32) (index : Nat) :
    (byteOf value index).toNat = value.toNat / 2 ^ (8 * index) % 256 := by
  rw [byteOf, BitVec.extractLsb'_toNat, Nat.shiftRight_eq_div_pow]

variable {addr target : Address}

theorem toNat_wordAddress (addr : Address) : (wordAddress addr).toNat = addr.toNat / 4 * 4 := by
  have bound := addr.isLt
  rw [wordAddress, toNat_concat, BitVec.extractLsb'_toNat, Nat.shiftRight_eq_div_pow]
  simp
  omega

theorem lane_lt (addr : Address) : lane addr < 4 := Nat.mod_lt _ (by omega)

theorem wordAddress_eq_iff :
    wordAddress target = wordAddress addr ↔ target.toNat / 4 = addr.toNat / 4 := by
  rw [← BitVec.toNat_inj, toNat_wordAddress, toNat_wordAddress]
  omega

/-- The byte `index` places above `addr` is in the word of `addr`, or in the next one. -/
theorem same_word_iff {count : Nat} (few : count ≤ 4) :
    (target.toNat / 4 = addr.toNat / 4 ∧
        lane addr ≤ lane target ∧ lane target < lane addr + count) ↔
      (target - addr).toNat < count ∧ lane addr + (target - addr).toNat < 4 := by
  have boundT := target.isLt
  have boundA := addr.isLt
  rw [BitVec.toNat_sub, lane, lane]
  omega

theorem next_word_iff {count : Nat} (few : count ≤ 4) :
    (target.toNat / 4 = (addr + 4#32).toNat / 4 ∧ lane target + 4 < lane addr + count) ↔
      (target - addr).toNat < count ∧ 4 ≤ lane addr + (target - addr).toNat := by
  have boundT := target.isLt
  have boundA := addr.isLt
  rw [BitVec.toNat_sub, BitVec.toNat_add, lane, lane]
  simp only [BitVec.toNat_ofNat]
  omega

/-- The place of a byte of a value in its word. -/
theorem lane_eq :
    lane target = (lane addr + (target - addr).toNat) % 4 := by
  have boundT := target.isLt
  have boundA := addr.isLt
  rw [BitVec.toNat_sub, lane, lane]
  omega

/-- A byte above an address, from the start of the word. -/
theorem add_eq (addr : Address) (index : Nat) :
    addr + BitVec.ofNat 32 index = wordAddress addr + BitVec.ofNat 32 (lane addr + index) := by
  have bound := addr.isLt
  apply BitVec.eq_of_toNat_eq
  rw [BitVec.toNat_add, BitVec.toNat_add, toNat_wordAddress, lane, BitVec.toNat_ofNat,
    BitVec.toNat_ofNat]
  omega

theorem eq_wordAddress_add (addr : Address) :
    addr = wordAddress addr + BitVec.ofNat 32 (lane addr) := by
  simpa using add_eq addr 0

theorem wordAddress_next (addr : Address) :
    wordAddress (addr + 4#32) = wordAddress addr + 4#32 := by
  have bound := addr.isLt
  apply BitVec.eq_of_toNat_eq
  rw [toNat_wordAddress, BitVec.toNat_add, BitVec.toNat_add, toNat_wordAddress]
  simp only [BitVec.toNat_ofNat]
  omega

/-- The next word of the memory. -/
theorem readWord_next (memory : Memory) (addr : Address) :
    readWord memory (addr + 4#32) =
      memory (wordAddress addr + 7#32) ++ memory (wordAddress addr + 6#32) ++
        memory (wordAddress addr + 5#32) ++ memory (wordAddress addr + 4#32) := by
  rw [readWord, wordAddress_next, BitVec.add_assoc, BitVec.add_assoc, BitVec.add_assoc]
  rfl

end ByteMemory
