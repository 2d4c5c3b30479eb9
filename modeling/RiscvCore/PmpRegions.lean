import Mathlib.Algebra.Group.Nat.Defs
import RiscvCore.Csr
import RiscvCore.Pmp

/-!
# Region matching of the wired PMP instances

The regions that the privileged specification gives to the four address modes, and what the
`pmp` instances of the core compute instead.  Three slips come together in the instances: the
mode register has one bit per entry, the module never reaches its NA4 and NAPOT comparisons,
and the 34-bit port reads the packed vector of 32-bit CSR words at the wrong offsets.
-/

namespace RiscvCore.Pmp

/-- The words from `lower` up to, and without, `upper`. -/
structure WordRange where
  lower : Nat
  upper : Nat

namespace WordRange

variable (range other : WordRange) (word : Nat)

def Contains : Prop := range.lower ≤ word ∧ word < range.upper

/-- The word lies inside both ranges, below both, above both, or above one and below the other. -/
def AgreeAt : Prop :=
  (max range.lower other.lower ≤ word ∧ word < min range.upper other.upper) ∨
    word < min range.lower other.lower ∨ max range.upper other.upper ≤ word ∨
      (range.upper ≤ word ∧ word < other.lower) ∨ (other.upper ≤ word ∧ word < range.lower)

theorem agreeAt_iff : range.AgreeAt other word ↔ (range.Contains word ↔ other.Contains word) := by
  unfold AgreeAt Contains
  omega

end WordRange

theorem packWords_lt : ∀ (count : Nat) (words : Fin count → Word),
    packWords count words < 2 ^ (32 * count) := by
  intro count
  induction count with
  | zero => intro words; simp [packWords]
  | succ count induction =>
      intro words
      have lower := induction fun entry => words entry.castSucc
      have upper := (words (Fin.last count)).isLt
      have power : 2 ^ (32 * (count + 1)) = 2 ^ (32 * count) * 2 ^ 32 := by
        rw [← Nat.pow_add, Nat.mul_succ]
      have scaled : (words (Fin.last count)).toNat * 2 ^ (32 * count) ≤
          (2 ^ 32 - 1) * 2 ^ (32 * count) := Nat.mul_le_mul_right _ (by omega)
      rw [packWords, Nat.shiftLeft_eq, power]
      rw [Nat.mul_comm (2 ^ (32 * count))]
      rw [Nat.sub_mul, Nat.one_mul] at scaled
      have room : 2 ^ (32 * count) ≤ 2 ^ 32 * 2 ^ (32 * count) :=
        Nat.le_mul_of_pos_left _ (by decide)
      omega

/-- Bit `b` of the packed vector is bit `b % 32` of word `b / 32`. -/
theorem testBit_packWords : ∀ (count : Nat) (words : Fin count → Word) (bit : Nat),
    (packWords count words).testBit bit =
      if inside : bit / 32 < count then (words ⟨bit / 32, inside⟩).getLsbD (bit % 32)
      else false := by
  intro count
  induction count with
  | zero => intro words bit; simp [packWords]
  | succ count induction =>
      intro words bit
      have bound := packWords_lt count fun entry => words entry.castSucc
      rw [packWords, Nat.shiftLeft_eq, Nat.add_comm, Nat.mul_comm,
        Nat.testBit_two_pow_mul_add _ bound]
      by_cases lower : bit < 32 * count
      · have inside : bit / 32 < count := by omega
        rw [if_pos lower, induction, dif_pos inside, dif_pos (by omega)]
        rfl
      · rw [if_neg lower]
        by_cases inside : bit / 32 < count + 1
        · have isLast : bit / 32 = count := by omega
          have offset : bit - 32 * count = bit % 32 := by omega
          have index : (⟨bit / 32, inside⟩ : Fin (count + 1)) = Fin.last count :=
            Fin.ext isLast
          rw [dif_pos inside, index, offset]
          rfl
        · rw [dif_neg inside]
          exact BitVec.getLsbD_of_ge _ _ (by omega)

/-- The word after the last one reads as zero. -/
def wordAfter (pmpaddr : Fin pmpEntry → Word) (entry : Fin pmpEntry) : Word :=
  if inside : entry.val + 1 < pmpEntry then pmpaddr ⟨entry.val + 1, inside⟩ else 0#32

/-- Thirty bits of `{ pmpaddr[n+1], pmpaddr[n] }`, from bit `2n` upwards. -/
def wiredAddress (pmpaddr : Fin pmpEntry → Word) (entry : Fin pmpEntry) : BitVec 30 :=
  (wordAfter pmpaddr entry ++ pmpaddr entry : BitVec 64).extractLsb' (2 * entry.val) 30

/-- A bit of the port word of entry `n` is a bit of the packed vector, `34 n` places up. -/
theorem getLsbD_torAddress_portPmpaddr (pmpaddr : Fin pmpEntry → Word)
    (entry : Fin pmpEntry) (bit : Nat) (bitLt : bit < 30) :
    (torAddress (portPmpaddr pmpaddr) entry).getLsbD bit =
      (packWords pmpEntry pmpaddr).testBit (34 * entry.val + bit) := by
  have inPort : bit < 34 := by omega
  have inWord : bit < 32 := by omega
  have aboveZeros : ¬ 2 + bit < 2 := by omega
  have back : 2 + bit - 2 = bit := by omega
  simp only [torAddress, portPmpaddr, BitVec.getLsbD_extractLsb', BitVec.getLsbD_append,
    BitVec.getLsbD_ofNat, Nat.testBit_shiftRight, bitLt, inPort, inWord, aboveZeros, back,
    decide_true, Bool.true_and, if_false, Nat.zero_add]

/-- The compared address: for every entry but the first it straddles two CSRs. -/
theorem torAddress_portPmpaddr (pmpaddr : Fin pmpEntry → Word) (entry : Fin pmpEntry) :
    torAddress (portPmpaddr pmpaddr) entry = wiredAddress pmpaddr entry := by
  refine BitVec.eq_of_getLsbD_eq fun bit bitLt => ?_
  have entryLt : entry.val < 16 := entry.isLt
  rw [getLsbD_torAddress_portPmpaddr pmpaddr entry bit bitLt, testBit_packWords]
  simp only [wiredAddress, BitVec.getLsbD_extractLsb', BitVec.getLsbD_append, bitLt,
    decide_true, Bool.true_and]
  by_cases own : 2 * entry.val + bit < 32
  · have index : (34 * entry.val + bit) / 32 = entry.val := by omega
    have offset : (34 * entry.val + bit) % 32 = 2 * entry.val + bit := by omega
    simp only [index, offset, entry.isLt, own, dif_pos, if_true]
  · have index : (34 * entry.val + bit) / 32 = entry.val + 1 := by omega
    have offset : (34 * entry.val + bit) % 32 = 2 * entry.val + bit - 32 := by omega
    simp only [index, offset, own, if_false, wordAfter]
    split
    · rfl
    · exact BitVec.getLsbD_zero.symm

/-- The bound that entry `n` compares with: thirty bits of the two words that its port word
straddles. -/
def wiredBound (pmpaddr : Fin pmpEntry → Word) (entry : Fin pmpEntry) : Nat :=
  (2 ^ 32 * (wordAfter pmpaddr entry).toNat + (pmpaddr entry).toNat) / 4 ^ entry.val % 2 ^ 30

theorem toNat_wiredAddress (pmpaddr : Fin pmpEntry → Word) (entry : Fin pmpEntry) :
    (wiredAddress pmpaddr entry).toNat = wiredBound pmpaddr entry := by
  have power : 2 ^ (2 * entry.val) = 4 ^ entry.val := by rw [Nat.pow_mul]
  rw [wiredAddress, wiredBound, BitVec.extractLsb'_toNat, BitVec.toNat_append,
    ← Nat.shiftLeft_add_eq_or_of_lt (pmpaddr entry).isLt, Nat.shiftLeft_eq,
    Nat.shiftRight_eq_div_pow, power, Nat.mul_comm (2 ^ 32)]

/-- The range that an entry compares for. -/
def wiredRange (pmpaddr : Fin pmpEntry → Word) (entry : Fin pmpEntry) : WordRange where
  lower := if first : entry.val = 0 then 0 else wiredBound pmpaddr ⟨entry.val - 1, by omega⟩
  upper := wiredBound pmpaddr entry

theorem torMatch_portPmpaddr_iff (pmpaddr : Fin pmpEntry → Word) (acsAddress : Word)
    (entry : Fin pmpEntry) :
    torMatch (portPmpaddr pmpaddr) acsAddress entry = true ↔
      (wiredRange pmpaddr entry).Contains (acsWord acsAddress).toNat := by
  rw [torMatch, WordRange.Contains, wiredRange]
  by_cases first : entry.val = 0
  · simp [first, torAddress_portPmpaddr, BitVec.ult, toNat_wiredAddress]
  · simp [first, torAddress_portPmpaddr, BitVec.ult, BitVec.ule, toNat_wiredAddress]

/-- The low bit of the `A` field alone selects between no match and the top-of-range
comparison: the module never compares for NA4 and treats NAPOT as TOR. -/
theorem wiredEntryMatch_iff (pmpcfg : Fin pmpEntry → BitVec 8) (pmpaddr : Fin pmpEntry → Word)
    (acsAddress : Word) (entry : Fin pmpEntry) :
    wiredEntryMatch pmpcfg pmpaddr acsAddress entry = true ↔
      (pmpcfg entry).getLsbD 3 = true ∧
        (wiredRange pmpaddr entry).Contains (acsWord acsAddress).toNat := by
  have storedBit : pmpMode (pmpcfg entry) = BitVec.ofBool ((pmpcfg entry).getLsbD 3) := by
    generalize pmpcfg entry = cfg
    refine BitVec.eq_of_getLsbD_eq fun bit bitLt => ?_
    obtain rfl : bit = 0 := by omega
    simp [pmpMode]
  rw [← torMatch_portPmpaddr_iff, wiredEntryMatch, entryMatch]
  simp only [modeIs, storedBit]
  cases (pmpcfg entry).getLsbD 3 <;> simp [pmpTor, pmpNa4, pmpNapot]

/-- The `A` field. -/
def addrMode (cfg : BitVec 8) : PmpAddrMode := cfg.extractLsb' 3 2

/-- The number of ones below the lowest zero. -/
def trailingOnes (word : Word) : Nat :=
  ((List.range 32).takeWhile fun bit => word.getLsbD bit).length

/-- The region of an entry, as a set of word addresses `a >> 2`. -/
def InRegion (pmpcfg : Fin pmpEntry → BitVec 8) (pmpaddr : Fin pmpEntry → Word)
    (acsAddress : Word) (entry : Fin pmpEntry) : Prop :=
  let word := (acsWord acsAddress).toNat
  if addrMode (pmpcfg entry) = pmpOff then False
  else if addrMode (pmpcfg entry) = pmpTor then
    (∀ below, entry.val = below.val + 1 → (pmpaddr below).toNat ≤ word) ∧
      word < (pmpaddr entry).toNat
  else if addrMode (pmpcfg entry) = pmpNa4 then word = (pmpaddr entry).toNat
  else
    word >>> (trailingOnes (pmpaddr entry) + 1) =
      (pmpaddr entry).toNat >>> (trailingOnes (pmpaddr entry) + 1)

/-- The region of an entry in TOR or NAPOT mode, as a range. -/
def regionRange (pmpcfg : Fin pmpEntry → BitVec 8) (pmpaddr : Fin pmpEntry → Word)
    (entry : Fin pmpEntry) : WordRange :=
  if addrMode (pmpcfg entry) = pmpTor then
    { lower := if first : entry.val = 0 then 0 else (pmpaddr ⟨entry.val - 1, by omega⟩).toNat
      upper := (pmpaddr entry).toNat }
  else
    let size := 2 ^ (trailingOnes (pmpaddr entry) + 1)
    { lower := (pmpaddr entry).toNat / size * size
      upper := (pmpaddr entry).toNat / size * size + size }

theorem inRegion_iff_contains {pmpcfg : Fin pmpEntry → BitVec 8} {pmpaddr : Fin pmpEntry → Word}
    {acsAddress : Word} {entry : Fin pmpEntry} (notOff : addrMode (pmpcfg entry) ≠ pmpOff)
    (notNa4 : addrMode (pmpcfg entry) ≠ pmpNa4) :
    InRegion pmpcfg pmpaddr acsAddress entry ↔
      (regionRange pmpcfg pmpaddr entry).Contains (acsWord acsAddress).toNat := by
  by_cases isTor : addrMode (pmpcfg entry) = pmpTor
  · simp only [InRegion, regionRange, WordRange.Contains, if_neg notOff, if_pos isTor]
    by_cases first : entry.val = 0
    · simp [first]
    · have isBelow : ∀ below : Fin pmpEntry,
          entry.val = below.val + 1 ↔ below = ⟨entry.val - 1, by omega⟩ :=
        fun below => by rw [Fin.ext_iff]; dsimp only; omega
      simp [first, isBelow]
  · have size : 0 < 2 ^ (trailingOnes (pmpaddr entry) + 1) := Nat.two_pow_pos _
    simp only [InRegion, regionRange, WordRange.Contains, if_neg notOff, if_neg isTor,
      if_neg notNa4]
    rw [Nat.shiftRight_eq_div_pow, Nat.shiftRight_eq_div_pow, Nat.div_eq_iff size]
    omega

/-- Where the wired match is right.  An entry that is off always is; an NA4 entry is as long as
the address is not the one it names; for TOR and NAPOT the word must not lie between the bounds
of the region and those compared with. -/
def WiringAgrees (pmpcfg : Fin pmpEntry → BitVec 8) (pmpaddr : Fin pmpEntry → Word)
    (acsAddress : Word) (entry : Fin pmpEntry) : Prop :=
  if addrMode (pmpcfg entry) = pmpOff then True
  else if addrMode (pmpcfg entry) = pmpNa4 then
    (acsWord acsAddress).toNat ≠ (pmpaddr entry).toNat
  else
    (wiredRange pmpaddr entry).AgreeAt (regionRange pmpcfg pmpaddr entry)
      (acsWord acsAddress).toNat

/-- An instance compares the range for TOR and NAPOT entries only. -/
theorem wiredEntryMatch_iff_addrMode (pmpcfg : Fin pmpEntry → BitVec 8)
    (pmpaddr : Fin pmpEntry → Word) (acsAddress : Word) (entry : Fin pmpEntry) :
    wiredEntryMatch pmpcfg pmpaddr acsAddress entry = true ↔
      addrMode (pmpcfg entry) ≠ pmpOff ∧ addrMode (pmpcfg entry) ≠ pmpNa4 ∧
        (wiredRange pmpaddr entry).Contains (acsWord acsAddress).toNat := by
  have lowBit : (pmpcfg entry).getLsbD 3 = (addrMode (pmpcfg entry)).getLsbD 0 := by
    simp [addrMode]
  have selects : ∀ mode : PmpAddrMode,
      mode.getLsbD 0 = true ↔ mode ≠ pmpOff ∧ mode ≠ pmpNa4 := by decide
  rw [wiredEntryMatch_iff, lowBit, selects, and_assoc]

theorem wiredEntryMatch_iff_inRegion_of_agrees {pmpcfg : Fin pmpEntry → BitVec 8}
    {pmpaddr : Fin pmpEntry → Word} {acsAddress : Word} {entry : Fin pmpEntry}
    (agrees : WiringAgrees pmpcfg pmpaddr acsAddress entry) :
    wiredEntryMatch pmpcfg pmpaddr acsAddress entry = true ↔
      InRegion pmpcfg pmpaddr acsAddress entry := by
  rw [wiredEntryMatch_iff_addrMode]
  by_cases isOff : addrMode (pmpcfg entry) = pmpOff
  · simp [InRegion, isOff]
  · by_cases isNa4 : addrMode (pmpcfg entry) = pmpNa4
    · have notTor : ¬ pmpNa4 = pmpTor := by decide
      have notOff : ¬ pmpNa4 = pmpOff := by decide
      rw [WiringAgrees, if_neg isOff, if_pos isNa4] at agrees
      simp [InRegion, isNa4, notTor, notOff, agrees]
    · rw [WiringAgrees, if_neg isOff, if_neg isNa4, WordRange.agreeAt_iff] at agrees
      rw [inRegion_iff_contains isOff isNa4, ← agrees]
      simp [isOff, isNa4]

/-- For every content of the CSR arrays, every address and every entry: the wired match is the
specified one exactly under `WiringAgrees`. -/
theorem wiredEntryMatch_iff_inRegion_iff (pmpcfg : Fin pmpEntry → BitVec 8)
    (pmpaddr : Fin pmpEntry → Word) (acsAddress : Word) (entry : Fin pmpEntry) :
    (wiredEntryMatch pmpcfg pmpaddr acsAddress entry = true ↔
        InRegion pmpcfg pmpaddr acsAddress entry) ↔
      WiringAgrees pmpcfg pmpaddr acsAddress entry := by
  refine ⟨fun same => ?_, wiredEntryMatch_iff_inRegion_of_agrees⟩
  rw [wiredEntryMatch_iff_addrMode] at same
  by_cases isOff : addrMode (pmpcfg entry) = pmpOff
  · simp [WiringAgrees, isOff]
  · by_cases isNa4 : addrMode (pmpcfg entry) = pmpNa4
    · have notTor : ¬ pmpNa4 = pmpTor := by decide
      have notOff : ¬ pmpNa4 = pmpOff := by decide
      simpa [WiringAgrees, InRegion, isNa4, notTor, notOff] using same
    · rw [inRegion_iff_contains isOff isNa4] at same
      rw [WiringAgrees, if_neg isOff, if_neg isNa4, WordRange.agreeAt_iff, ← same]
      simp [isOff, isNa4]

theorem wiredBound_zero (pmpaddr : Fin pmpEntry → Word) :
    wiredBound pmpaddr (0 : Fin 16) = (pmpaddr (0 : Fin 16)).toNat % 2 ^ 30 := by
  simp only [wiredBound, Fin.val_zero, Nat.pow_zero, Nat.div_one]
  omega

theorem wiredBound_one (pmpaddr : Fin pmpEntry → Word) :
    wiredBound pmpaddr (1 : Fin 16) = (pmpaddr (1 : Fin 16)).toNat / 4 := by
  have word := (pmpaddr (1 : Fin 16)).isLt
  simp only [wiredBound, Fin.val_one, Nat.pow_one]
  omega

/-- The first entry in TOR mode is wired correctly below 4 GiB; a larger bound is cut to thirty
bits, and then only the addresses below the cut bound are decided correctly. -/
theorem wiringAgrees_tor_zero_iff (pmpcfg : Fin pmpEntry → BitVec 8)
    (pmpaddr : Fin pmpEntry → Word) (acsAddress : Word)
    (isTor : addrMode (pmpcfg (0 : Fin 16)) = pmpTor) :
    WiringAgrees pmpcfg pmpaddr acsAddress (0 : Fin 16) ↔
      (pmpaddr (0 : Fin 16)).toNat < 2 ^ 30 ∨
        (acsWord acsAddress).toNat < (pmpaddr (0 : Fin 16)).toNat % 2 ^ 30 := by
  have notOff : ¬ pmpTor = pmpOff := by decide
  have notNa4 : ¬ pmpTor = pmpNa4 := by decide
  have word : (acsWord acsAddress).toNat < 2 ^ 30 := (acsWord acsAddress).isLt
  simp only [WiringAgrees, regionRange, wiredRange, WordRange.AgreeAt, isTor, notOff, notNa4,
    if_false, if_true, Fin.val_zero, dif_pos, wiredBound_zero]
  omega

/-- The second entry in TOR mode, above a bound below 4 GiB, is cut off at a quarter of its own
bound. -/
theorem wiringAgrees_tor_one_iff (pmpcfg : Fin pmpEntry → BitVec 8)
    (pmpaddr : Fin pmpEntry → Word) (acsAddress : Word)
    (isTor : addrMode (pmpcfg (1 : Fin 16)) = pmpTor)
    (below : (pmpaddr (0 : Fin 16)).toNat < 2 ^ 30) :
    WiringAgrees pmpcfg pmpaddr acsAddress (1 : Fin 16) ↔
      (acsWord acsAddress).toNat < (pmpaddr (0 : Fin 16)).toNat ∨
        (acsWord acsAddress).toNat < (pmpaddr (1 : Fin 16)).toNat / 4 ∨
          (pmpaddr (1 : Fin 16)).toNat ≤ (acsWord acsAddress).toNat := by
  have notOff : ¬ pmpTor = pmpOff := by decide
  have notNa4 : ¬ pmpTor = pmpNa4 := by decide
  have lower : wiredBound pmpaddr ⟨(1 : Fin 16).val - 1, by decide⟩ =
      (pmpaddr (0 : Fin 16)).toNat :=
    (wiredBound_zero pmpaddr).trans (Nat.mod_eq_of_lt below)
  have notFirst : ¬ (1 : Fin 16).val = 0 := by decide
  have lowerWord : pmpaddr ⟨(1 : Fin 16).val - 1, by decide⟩ = pmpaddr (0 : Fin 16) := rfl
  simp only [WiringAgrees, regionRange, wiredRange, WordRange.AgreeAt, isTor, notOff, notNa4,
    if_false, if_true, dif_neg notFirst, lower, lowerWord, wiredBound_one]
  omega

/-- An NA4 entry that names word 0 does not match address 0. -/
theorem wiredEntryMatch_misses_na4 :
    ¬ ∀ (pmpcfg : Fin pmpEntry → BitVec 8) (pmpaddr : Fin pmpEntry → Word)
        (acsAddress : Word) (entry : Fin pmpEntry),
      wiredEntryMatch pmpcfg pmpaddr acsAddress entry = true ↔
        InRegion pmpcfg pmpaddr acsAddress entry := by
  intro rule
  have inRegion : InRegion (fun _ => 0b00010000#8) (fun _ => 0#32) 0#32 (0 : Fin 16) := by
    simp [InRegion, addrMode, acsWord, pmpOff, pmpTor, pmpNa4]
  have missed : wiredEntryMatch (fun _ => 0b00010000#8) (fun _ => 0#32) 0#32 (0 : Fin 16) =
      false := by
    decide +kernel
  rw [(rule _ _ _ _).mpr inRegion] at missed
  cases missed

end RiscvCore.Pmp
