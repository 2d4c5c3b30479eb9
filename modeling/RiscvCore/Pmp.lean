import RiscvCore.Pkg

/-!
# Physical memory protection

`pmp.sv` for any number of entries, and the port connection of the core, which wires the packed
array of 32-bit `pmpaddr` words to a port that is declared as a packed array of 34-bit words.
-/

namespace RiscvCore

namespace Pmp

variable {pmpEntry : Nat}

/-- `pmp_mode[n]` is declared with one bit per entry, so the assignment of the two-bit `A`
field keeps its low bit. -/
def pmpMode (cfg : BitVec 8) : BitVec 1 := (cfg.extractLsb' 3 2).setWidth 1

/-- A comparison with a two-bit mode extends the stored bit with a zero. -/
def modeIs (cfg : BitVec 8) (mode : PmpAddrMode) : Bool := (pmpMode cfg).setWidth 2 == mode

def pmpPms (cfg : BitVec 8) : BitVec 3 := cfg.extractLsb' 0 3

def pmpLock (cfg : BitVec 8) : Bool := cfg.getLsbD 7

/-- `tor_address[n][31:2]`, which is also `na4_address[n][31:2]`. -/
def torAddress (pmpaddrI : Fin pmpEntry → BitVec 34) (entry : Fin pmpEntry) : BitVec 30 :=
  ((pmpaddrI entry).extractLsb' 0 32 ++ 0#2 : BitVec 34).extractLsb' 2 30

/-- Bit `m` of `napot_mask[n][33:2]`. -/
def napotMaskBit (cfg : BitVec 8) (addr : BitVec 34) (m : Nat) : Bool :=
  if m = 2 then !modeIs cfg pmpNapot
  else !((List.range (m - 2)).all fun k => addr.getLsbD (k + 2))

/-- `napot_mask[n][31:2]`. -/
def napotMask (cfg : BitVec 8) (addr : BitVec 34) : BitVec 30 :=
  (List.range 30).foldr
    (fun k mask => mask ||| (BitVec.ofBool (napotMaskBit cfg addr (k + 2))).setWidth 30 <<< k)
    0#30

def acsWord (acsAddress : Word) : BitVec 30 := acsAddress.extractLsb' 2 30

def torMatch (pmpaddrI : Fin pmpEntry → BitVec 34) (acsAddress : Word)
    (entry : Fin pmpEntry) : Bool :=
  if first : entry.val = 0 then
    (acsWord acsAddress).ult (torAddress pmpaddrI entry)
  else
    (torAddress pmpaddrI ⟨entry.val - 1, by omega⟩).ule (acsWord acsAddress) &&
      (acsWord acsAddress).ult (torAddress pmpaddrI entry)

def na4Match (pmpaddrI : Fin pmpEntry → BitVec 34) (acsAddress : Word)
    (entry : Fin pmpEntry) : Bool :=
  acsWord acsAddress == torAddress pmpaddrI entry

def napotMatch (pmpcfgI : Fin pmpEntry → BitVec 8) (pmpaddrI : Fin pmpEntry → BitVec 34)
    (acsAddress : Word) (entry : Fin pmpEntry) : Bool :=
  acsWord acsAddress &&& napotMask (pmpcfgI entry) (pmpaddrI entry) ==
    (pmpaddrI entry).extractLsb' 2 30 &&& napotMask (pmpcfgI entry) (pmpaddrI entry)

def entryMatch (pmpcfgI : Fin pmpEntry → BitVec 8) (pmpaddrI : Fin pmpEntry → BitVec 34)
    (acsAddress : Word) (entry : Fin pmpEntry) : Bool :=
  (modeIs (pmpcfgI entry) pmpTor && torMatch pmpaddrI acsAddress entry) ||
    (modeIs (pmpcfgI entry) pmpNa4 && na4Match pmpaddrI acsAddress entry) ||
    (modeIs (pmpcfgI entry) pmpNapot && napotMatch pmpcfgI pmpaddrI acsAddress entry)

/-- `pms_match[n]`: the three-bit permission and access-type vectors share a set bit. -/
def pmsMatch (pms acsType : BitVec 3) : Bool :=
  (pms.getLsbD 0 && acsType.getLsbD 0) || (pms.getLsbD 1 && acsType.getLsbD 1) ||
    (pms.getLsbD 2 && acsType.getLsbD 2)

/-- What the decision logic sees of each entry. -/
structure Entries (pmpEntry : Nat) where
  entryMatch : Fin pmpEntry → Bool
  pmsMatch : Fin pmpEntry → Bool
  pmpLock : Fin pmpEntry → Bool

namespace Entries

def uModeEntryFail (entries : Entries pmpEntry) (entry : Fin pmpEntry) : Bool :=
  if entries.entryMatch entry then !entries.pmsMatch entry else false

def mModeEntryFail (entries : Entries pmpEntry) (entry : Fin pmpEntry) : Bool :=
  if entries.entryMatch entry && entries.pmpLock entry then !entries.pmsMatch entry else false

/-- `u_mode_fail[n]` and `m_mode_fail[n]` look at the entry below and at the entry itself. -/
def chainFail (entryFail : Fin pmpEntry → Bool) (entry : Fin pmpEntry) : Bool :=
  if first : entry.val = 0 then entryFail entry
  else if entryFail ⟨entry.val - 1, by omega⟩ then true else entryFail entry

def uModeFail (entries : Entries pmpEntry) : Fin pmpEntry → Bool :=
  chainFail entries.uModeEntryFail

def mModeFail (entries : Entries pmpEntry) : Fin pmpEntry → Bool :=
  chainFail entries.mModeEntryFail

def anyMatch (entries : Entries pmpEntry) : Bool :=
  (List.finRange pmpEntry).any entries.entryMatch

/-- `pmp_err_o`, for a module with at least one entry. -/
def pmpErrO (entries : Entries (pmpEntry + 1)) (privilegeMode : Privilege) (acsEn : Bool) :
    Bool :=
  if privilegeMode = privLvlM then acsEn && entries.mModeFail (Fin.last pmpEntry)
  else acsEn && (entries.uModeFail (Fin.last pmpEntry) || !entries.anyMatch)

end Entries

def entriesOf (pmpcfgI : Fin pmpEntry → BitVec 8) (pmpaddrI : Fin pmpEntry → BitVec 34)
    (acsType : BitVec 3) (acsAddress : Word) : Entries pmpEntry where
  entryMatch := entryMatch pmpcfgI pmpaddrI acsAddress
  pmsMatch := fun entry => pmsMatch (pmpPms (pmpcfgI entry)) acsType
  pmpLock := fun entry => pmpLock (pmpcfgI entry)

/-- The module `pmp`. -/
def pmpErr (pmpcfgI : Fin (pmpEntry + 1) → BitVec 8)
    (pmpaddrI : Fin (pmpEntry + 1) → BitVec 34) (privilegeMode : Privilege) (acsEn : Bool)
    (acsType : BitVec 3) (acsAddress : Word) : Bool :=
  (entriesOf pmpcfgI pmpaddrI acsType acsAddress).pmpErrO privilegeMode acsEn

/-- The packed vector of an array of 32-bit words, the first word lowest. -/
def packWords : (count : Nat) → (Fin count → Word) → Nat
  | 0, _ => 0
  | count + 1, words =>
      packWords count (fun entry => words entry.castSucc) +
        (words (Fin.last count)).toNat <<< (32 * count)

/-- The packed vector, zero-extended and read again as an array of 34-bit words. -/
def portPmpaddr (pmpaddr : Fin pmpEntry → Word) (entry : Fin pmpEntry) : BitVec 34 :=
  BitVec.ofNat 34 (packWords pmpEntry pmpaddr >>> (34 * entry.val))

/-- An instance of `pmp` as the core wires it. -/
def wiredPmpErr (pmpcfg : Fin (pmpEntry + 1) → BitVec 8) (pmpaddr : Fin (pmpEntry + 1) → Word)
    (privilegeMode : Privilege) (acsEn : Bool) (acsType : BitVec 3) (acsAddress : Word) :
    Bool :=
  pmpErr pmpcfg (portPmpaddr pmpaddr) privilegeMode acsEn acsType acsAddress

/-- `entry_match[n]` of such an instance. -/
def wiredEntryMatch (pmpcfg : Fin pmpEntry → BitVec 8) (pmpaddr : Fin pmpEntry → Word)
    (acsAddress : Word) (entry : Fin pmpEntry) : Bool :=
  entryMatch pmpcfg (portPmpaddr pmpaddr) acsAddress entry

end Pmp

end RiscvCore
