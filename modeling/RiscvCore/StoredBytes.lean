import RiscvCore.DataTransfers

/-!
# The bytes a store writes

The byte enables of a store cover exactly its bytes, at any alignment, in one word or in two.  The
store data is repeated over the word but not rotated by the offset, so that the byte written at an
address is that of the value repeated from the start of the word.
-/

namespace RiscvCore

open BusProtocol (InOrder)
open ByteMemory

inductive StoreType where
  | sb | sh | sw
  deriving DecidableEq

namespace StoreType

/-- The `funct3` field. -/
def dtype : StoreType → LsuDtype
  | sb => 0b000#3
  | sh => 0b001#3
  | sw => 0b010#3

def size : StoreType → Nat
  | sb => 1
  | sh => 2
  | sw => 4

/-- The value repeated over a word. -/
def repeated : StoreType → Nat → Nat
  | sb, value => value % 2 ^ 8 * 0x01010101
  | sh, value => value % 2 ^ 16 * 0x00010001
  | sw, value => value

theorem repeated_byte (type : StoreType) {value place : Nat} (inside : place < 4) :
    type.repeated value / 2 ^ (8 * place) % 256 =
      value / 2 ^ (8 * (place % type.size)) % 256 := by
  have places : place = 0 ∨ place = 1 ∨ place = 2 ∨ place = 3 := by omega
  cases type with
  | sb =>
      have low : value / 2 ^ (8 * (place % 1)) % 256 = value % 2 ^ 8 := by
        rw [Nat.mod_one]
        omega
      have bound := Nat.mod_lt value (Nat.two_pow_pos 8)
      rw [size, low, repeated]
      generalize value % 2 ^ 8 = byte at bound
      have one : byte * 0x01010101 / 2 ^ 8 = byte * 0x010101 := by omega
      have two : byte * 0x01010101 / 2 ^ 16 = byte * 0x0101 := by omega
      have three : byte * 0x01010101 / 2 ^ 24 = byte := by omega
      rcases places with rfl | rfl | rfl | rfl <;> omega
  | sh =>
      have bound := Nat.mod_lt value (Nat.two_pow_pos 16)
      have low : value / 2 ^ (8 * (place % 2)) % 256 =
          value % 2 ^ 16 / 2 ^ (8 * (place % 2)) % 256 := by
        rcases Nat.mod_two_eq_zero_or_one place with even | odd
        · rw [even]
          omega
        · rw [odd]
          omega
      rw [size, low, repeated]
      generalize value % 2 ^ 16 = half at bound
      have one : half * 0x00010001 / 2 ^ 8 = half * 256 + half / 256 := by omega
      have two : half * 0x00010001 / 2 ^ 16 = half := by omega
      have three : half * 0x00010001 / 2 ^ 24 = half / 256 := by omega
      rcases places with rfl | rfl | rfl | rfl <;>
        simp only [Nat.reduceMod, Nat.reduceMul] <;> omega
  | sw => rw [size, repeated, Nat.mod_eq_of_lt inside]

theorem accessBytes_dtype (type : StoreType) : Lsu.accessBytes type.dtype = type.size := by
  cases type <;> rfl

theorem size_le (type : StoreType) : type.size ≤ 4 := by
  cases type <;> decide

theorem size_dvd (type : StoreType) : type.size ∣ 4 := by
  cases type <;> decide

end StoreType

namespace Lsu

variable {access : Access} {type : StoreType} {memory : Memory} {target : Address}

/-- The first request enables the bytes of the access that are in its word. -/
theorem dataBe_first (isType : access.lsuDtype = type.dtype) (place : Fin 4) :
    (request access false).dataBe.getLsbD place = true ↔
      lane access.lsuAddr ≤ place ∧ place < lane access.lsuAddr + type.size := by
  rw [← toNat_addrOffset]
  simp only [request, dataBe, isType]
  generalize addrOffset access = offset
  cases type <;> revert offset place <;> decide

/-- The second request enables the bytes of the access that are in the next word. -/
theorem dataBe_second (isType : access.lsuDtype = type.dtype)
    (crosses : reqUnalign access = true) (place : Fin 4) :
    (request access true).dataBe.getLsbD place = true ↔
      place + 4 < lane access.lsuAddr + type.size := by
  rw [← toNat_addrOffset]
  rw [reqUnalign, isType] at crosses
  simp only [request, dataBe, isType]
  generalize addrOffset access = offset at crosses ⊢
  cases type <;> revert offset place <;> decide

theorem toNat_dataWdata (isType : access.lsuDtype = type.dtype) :
    (dataWdata access).toNat = type.repeated access.lsuWdata.toNat := by
  rw [dataWdata, isType]
  cases type with
  | sb =>
      rw [if_pos (by decide), StoreType.repeated]
      simp only [toNat_concat, BitVec.extractLsb'_toNat, Nat.shiftRight_zero]
      omega
  | sh =>
      rw [if_neg (by decide), if_pos (by decide), StoreType.repeated]
      simp only [toNat_concat, BitVec.extractLsb'_toNat, Nat.shiftRight_zero]
      omega
  | sw => rw [if_neg (by decide), if_neg (by decide), if_pos (by decide), StoreType.repeated]

/-- The store data is the value repeated over the word. -/
theorem byteOf_dataWdata (isType : access.lsuDtype = type.dtype) {place : Nat}
    (inside : place < 4) :
    byteOf (dataWdata access) place = byteOf access.lsuWdata (place % type.size) := by
  apply BitVec.eq_of_toNat_eq
  rw [toNat_byteOf, toNat_byteOf, toNat_dataWdata isType, StoreType.repeated_byte _ inside]

theorem dataWr_request (isStore : access.lsuOp = .wr) (second : Bool) :
    (request access second).dataWr = true := by
  simp [request, isStore]

theorem reqUnalign_iff (isType : access.lsuDtype = type.dtype) :
    reqUnalign access = true ↔ 4 < lane access.lsuAddr + type.size := by
  rw [reqUnalign, crossesWord_iff, isType, toNat_addrOffset, type.accessBytes_dtype,
    decide_eq_true_eq]

/-- The byte of the value that a store places `index` bytes above its address. -/
def placedByte (type : StoreType) (access : Access) (index : Nat) : Byte :=
  byteOf access.lsuWdata ((lane access.lsuAddr + index) % type.size)

theorem byteOf_placed (isType : access.lsuDtype = type.dtype) (target : Address) :
    byteOf (dataWdata access) (lane target) =
      placedByte type access (target - access.lsuAddr).toNat := by
  rw [byteOf_dataWdata isType (lane_lt target), placedByte, lane_eq,
    Nat.mod_mod_of_dvd _ type.size_dvd]

theorem apply_first (isStore : access.lsuOp = .wr) (isType : access.lsuDtype = type.dtype) :
    (request access false).apply memory target =
      if (target - access.lsuAddr).toNat < type.size ∧
          lane access.lsuAddr + (target - access.lsuAddr).toNat < 4 then
        placedByte type access (target - access.lsuAddr).toNat
      else memory target := by
  have written : (wordAddress target = wordAddress access.lsuAddr ∧
      (request access false).dataBe.getLsbD (lane target) = true) ↔ _ :=
    (and_congr wordAddress_eq_iff (dataBe_first isType ⟨lane target, lane_lt target⟩)).trans
      (same_word_iff type.size_le)
  rw [DataRequest.apply, dataWr_request isStore, if_pos rfl, ← byteOf_placed isType]
  exact if_congr written rfl rfl

theorem apply_second (isStore : access.lsuOp = .wr) (isType : access.lsuDtype = type.dtype)
    (crosses : reqUnalign access = true) :
    (request access true).apply memory target =
      if (target - access.lsuAddr).toNat < type.size ∧
          4 ≤ lane access.lsuAddr + (target - access.lsuAddr).toNat then
        placedByte type access (target - access.lsuAddr).toNat
      else memory target := by
  have written : (wordAddress target = wordAddress (access.lsuAddr + 4#32) ∧
      (request access true).dataBe.getLsbD (lane target) = true) ↔ _ :=
    (and_congr wordAddress_eq_iff
      (dataBe_second isType crosses ⟨lane target, lane_lt target⟩)).trans
      (next_word_iff type.size_le)
  rw [DataRequest.apply, dataWr_request isStore, if_pos rfl, ← byteOf_placed isType]
  exact if_congr written rfl rfl

/-- A store writes exactly its bytes. -/
theorem requests_foldl (isStore : access.lsuOp = .wr) (isType : access.lsuDtype = type.dtype) :
    (requests access).foldl DataRequest.apply memory target =
      if (target - access.lsuAddr).toNat < type.size then
        placedByte type access (target - access.lsuAddr).toNat
      else memory target := by
  have crossing := reqUnalign_iff isType
  rw [requests_eq]
  cases crosses : reqUnalign access with
  | false =>
      rw [crosses] at crossing
      have inside : ∀ index, index < type.size → lane access.lsuAddr + index < 4 := by
        intro index below
        have notCrossing : ¬ 4 < lane access.lsuAddr + type.size :=
          fun impossible => Bool.false_ne_true (crossing.mpr impossible)
        omega
      change (request access false).apply memory target = _
      rw [apply_first isStore isType]
      by_cases written : (target - access.lsuAddr).toNat < type.size
      · rw [if_pos ⟨written, inside _ written⟩, if_pos written]
      · rw [if_neg (fun both => written both.1), if_neg written]
  | true =>
      change (request access true).apply ((request access false).apply memory) target = _
      rw [apply_second isStore isType crosses, apply_first isStore isType]
      by_cases written : (target - access.lsuAddr).toNat < type.size
      · rw [if_pos written]
        by_cases low : lane access.lsuAddr + (target - access.lsuAddr).toNat < 4
        · rw [if_neg (by omega), if_pos ⟨written, low⟩]
        · rw [if_pos ⟨written, by omega⟩]
      · rw [if_neg (fun both => written both.1), if_neg (fun both => written both.1),
          if_neg written]

/-- The value is unchanged when its bytes are rotated by the offset of the address. -/
def RotationFixed (type : StoreType) (addr : Address) (value : Word) : Prop :=
  ∀ index, index < type.size →
    byteOf value ((lane addr + index) % type.size) = byteOf value index

theorem requests_foldl_eq_iff (isStore : access.lsuOp = .wr)
    (isType : access.lsuDtype = type.dtype) :
    (requests access).foldl DataRequest.apply memory =
        writeBytes memory access.lsuAddr type.size access.lsuWdata ↔
      RotationFixed type access.lsuAddr access.lsuWdata := by
  constructor
  · intro correct index below
    have small := type.size_le
    have isTarget : (access.lsuAddr + BitVec.ofNat 32 index - access.lsuAddr).toNat = index := by
      rw [BitVec.add_comm, BitVec.add_sub_cancel, BitVec.toNat_ofNat]
      omega
    have there := congrFun correct (access.lsuAddr + BitVec.ofNat 32 index)
    rw [requests_foldl isStore isType, writeBytes, isTarget, if_pos below, if_pos below] at there
    exact there
  · intro fixed
    funext target
    rw [requests_foldl isStore isType, writeBytes]
    by_cases written : (target - access.lsuAddr).toNat < type.size
    · rw [if_pos written, if_pos written]
      exact fixed _ written
    · rw [if_neg written, if_neg written]

end Lsu

namespace CoreRun

variable {run : CoreRun}

/-- After its transfer a store has put the bytes of its value at its address, and no others, if
and only if the value is unchanged when its bytes are rotated by the offset. -/
theorem storesBytes_iff_rotationFixed (run : CoreRun) (whole : run.SplitsUncut)
    (grants : run.GrantsRequests) {access : Lsu.Access} {before first leaves : Nat}
    (transfer : run.Transfer access before first leaves) {type : StoreType}
    (isStore : access.lsuOp = .wr) (isType : access.lsuDtype = type.dtype)
    (initial : Memory) :
    run.memory initial (leaves + 1) =
        writeBytes (run.memory initial (before + 1)) access.lsuAddr type.size access.lsuWdata ↔
      Lsu.RotationFixed type access.lsuAddr access.lsuWdata := by
  have owned := splitOwned_of_splitsUncut whole grants before
  rw [transfer.memory_eq whole grants owned initial]
  exact Lsu.requests_foldl_eq_iff isStore isType

end CoreRun

/-- `addi x1, x0, 18`, `sh x1, 2(x0)` and `sh x1, 5(x0)`. -/
def Surroundings.storesHalves : Surroundings where
  program := Surroundings.programOf [0x01200093#32, 0x00101123#32, 0x001012A3#32]
  rest := 12

namespace CoreRun

open Surroundings (storesHalves)

/-- `sh` of the value 18. -/
def halfAt (addr : Address) : Lsu.Access where
  lsuEn := true
  lsuOp := .wr
  lsuDtype := StoreType.sh.dtype
  lsuAddr := addr
  lsuWdata := 18#32

theorem transfer_storesHalves :
    storesHalves.coreRun.Transfer (halfAt 2#32) 5 6 6 ∧
      storesHalves.coreRun.Transfer (halfAt 5#32) 6 7 7 := by
  decide +kernel

theorem splitsUncut_storesHalves : storesHalves.coreRun.SplitsUncut := by
  intro cycle flush
  have noFlush := storesHalves.forall_cycle_of_settled 17 (by decide) (fun _ _ => rfl)
    (by decide +kernel) (fun st _ => st.flushE = false) (by decide +kernel) cycle
  rw [noFlush] at flush
  cases flush

/-- A half word stored at an even offset. -/
theorem storesBytes_evenHalf :
    storesHalves.coreRun.memory (fun _ => 0#8) 7 =
        writeBytes (storesHalves.coreRun.memory (fun _ => 0#8) 6) 2#32 2 18#32 ↔
      Lsu.RotationFixed .sh 2#32 18#32 :=
  have isHalf : (halfAt 2#32).lsuDtype = StoreType.sh.dtype := rfl
  storesBytes_iff_rotationFixed _ splitsUncut_storesHalves
    storesHalves.wellConnected.data.requested transfer_storesHalves.1 rfl isHalf _

/-- At an odd offset the bytes change places. -/
theorem storesBytes_fails :
    ¬ ∀ (run : CoreRun), run.GrantsRequests → ∀ (access : Lsu.Access) (before first leaves : Nat),
      run.Transfer access before first leaves → ∀ (type : StoreType), access.lsuOp = .wr →
        access.lsuDtype = type.dtype → ∀ (initial : Memory),
          run.memory initial (leaves + 1) =
            writeBytes (run.memory initial (before + 1)) access.lsuAddr type.size
              access.lsuWdata := by
  intro stores
  have stored := congrFun (stores _ storesHalves.wellConnected.data.requested _ 6 7 7
    transfer_storesHalves.2 .sh rfl rfl (fun _ => 0#8)) 5#32
  revert stored
  decide +kernel

end CoreRun

end RiscvCore
