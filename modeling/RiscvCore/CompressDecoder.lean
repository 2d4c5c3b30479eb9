import RiscvCore.Pkg

/-!
# Expansion of compressed instructions

`compress_decoder.sv`: a 16-bit parcel becomes the 32-bit instruction it abbreviates, with a
flag for the encodings the expander itself rejects.
-/

namespace RiscvCore

namespace CompressDecoder

/-- The expanded word and `illegal_instr_o`. -/
abbrev Expansion := Word × Bool

/-- A bit slice of the parcel, from its highest to its lowest bit. -/
def slice (instr : Word) (hi lo : Nat) : BitVec (hi - lo + 1) :=
  instr.extractLsb' lo (hi - lo + 1)

/-- A three-bit register field names `x8` to `x15`. -/
def regPrime (instr : Word) (lo : Nat) : RegAddr := 0b01#2 ++ instr.extractLsb' lo 3

/-- Bit 12 replicated. -/
def signBits (instr : Word) (count : Nat) : BitVec count :=
  (slice instr 12 12).signExtend count

def quadrant0 (instr : Word) : Expansion :=
  let f3 := slice instr 15 13
  if f3 = 0b000#3 then
    (0#2 ++ slice instr 10 7 ++ slice instr 12 11 ++ slice instr 5 5 ++ slice instr 6 6 ++
        0#2 ++ 2#5 ++ 0#3 ++ regPrime instr 2 ++ opcodeOpImm,
      slice instr 12 5 == 0#8)
  else if f3 = 0b010#3 then
    (0#5 ++ slice instr 5 5 ++ slice instr 12 10 ++ slice instr 6 6 ++ 0#2 ++
        regPrime instr 7 ++ 0b010#3 ++ regPrime instr 2 ++ opcodeLoad,
      false)
  else if f3 = 0b110#3 then
    (0#5 ++ slice instr 5 5 ++ slice instr 12 12 ++ regPrime instr 2 ++ regPrime instr 7 ++
        0b010#3 ++ slice instr 11 10 ++ slice instr 6 6 ++ 0#2 ++ opcodeStore,
      false)
  else (0#32, true)

/-- The register-register and shift forms of quadrant 1. -/
def quadrant1Alu (instr : Word) : Expansion :=
  let rdPrime := regPrime instr 7
  let rs2Prime := regPrime instr 2
  if slice instr 11 10 = 0b00#2 ∨ slice instr 11 10 = 0b01#2 then
    (0#1 ++ slice instr 10 10 ++ 0#5 ++ slice instr 6 2 ++ rdPrime ++ 0b101#3 ++ rdPrime ++
        opcodeOpImm,
      slice instr 12 12 == 1#1 || slice instr 6 2 == 0#5)
  else if slice instr 11 10 = 0b10#2 then
    (signBits instr 6 ++ slice instr 12 12 ++ slice instr 6 2 ++ rdPrime ++ 0b111#3 ++
        rdPrime ++ opcodeOpImm,
      false)
  else if slice instr 12 12 = 0#1 ∧ slice instr 6 5 = 0b00#2 then
    (0b0100000#7 ++ rs2Prime ++ rdPrime ++ 0b000#3 ++ rdPrime ++ opcodeOp, false)
  else if slice instr 12 12 = 0#1 ∧ slice instr 6 5 = 0b01#2 then
    (0#7 ++ rs2Prime ++ rdPrime ++ 0b100#3 ++ rdPrime ++ opcodeOp, false)
  else if slice instr 12 12 = 0#1 ∧ slice instr 6 5 = 0b10#2 then
    (0#7 ++ rs2Prime ++ rdPrime ++ 0b110#3 ++ rdPrime ++ opcodeOp, false)
  else if slice instr 12 12 = 0#1 ∧ slice instr 6 5 = 0b11#2 then
    (0#7 ++ rs2Prime ++ rdPrime ++ 0b111#3 ++ rdPrime ++ opcodeOp, false)
  else (0#32, true)

def quadrant1 (instr : Word) : Expansion :=
  let f3 := slice instr 15 13
  let rdField := slice instr 11 7
  let immZero := slice instr 12 12 == 0#1 && slice instr 6 2 == 0#5
  if f3 = 0b000#3 then
    (signBits instr 6 ++ slice instr 12 12 ++ slice instr 6 2 ++ rdField ++ 0b000#3 ++
        rdField ++ opcodeOpImm,
      false)
  else if f3 = 0b001#3 ∨ f3 = 0b101#3 then
    (slice instr 12 12 ++ slice instr 8 8 ++ slice instr 10 9 ++ slice instr 6 6 ++
        slice instr 7 7 ++ slice instr 2 2 ++ slice instr 11 11 ++ slice instr 5 3 ++
        signBits instr 9 ++ 0#4 ++ ~~~slice instr 15 15 ++ opcodeJal,
      false)
  else if f3 = 0b010#3 then
    (signBits instr 6 ++ slice instr 12 12 ++ slice instr 6 2 ++ 0#5 ++ 0b000#3 ++ rdField ++
        opcodeOpImm,
      rdField == 0#5)
  else if f3 = 0b011#3 then
    if rdField = 2#5 then
      (signBits instr 3 ++ slice instr 4 3 ++ slice instr 5 5 ++ slice instr 2 2 ++
          slice instr 6 6 ++ 0#4 ++ 2#5 ++ 0b000#3 ++ 2#5 ++ opcodeOpImm,
        immZero)
    else
      (signBits instr 15 ++ slice instr 6 2 ++ rdField ++ opcodeLui,
        rdField == 0#5 || immZero)
  else if f3 = 0b100#3 then quadrant1Alu instr
  else
    (signBits instr 4 ++ slice instr 6 5 ++ slice instr 2 2 ++ 0#5 ++ regPrime instr 7 ++
        0b00#2 ++ slice instr 13 13 ++ slice instr 11 10 ++ slice instr 4 3 ++
        slice instr 12 12 ++ opcodeBranch,
      false)

/-- The jump, move and add forms of quadrant 2. -/
def quadrant2Jump (instr : Word) : Expansion :=
  let rdField := slice instr 11 7
  let rs2Field := slice instr 6 2
  if slice instr 12 12 = 0#1 then
    if rs2Field = 0#5 then
      (0#12 ++ rdField ++ 0b000#3 ++ 0#5 ++ opcodeJalr, false)
    else
      (0#7 ++ rs2Field ++ 0#5 ++ 0b000#3 ++ rdField ++ opcodeOp, false)
  else if rdField = 0#5 then
    if rs2Field ≠ 0#5 then
      (0#7 ++ rs2Field ++ rdField ++ 0b000#3 ++ rdField ++ opcodeOp, true)
    else (0x00100073#32, false)
  else if rs2Field = 0#5 then
    (0#12 ++ rdField ++ 0b000#3 ++ 1#5 ++ opcodeJalr, false)
  else
    (0#7 ++ rs2Field ++ rdField ++ 0b000#3 ++ rdField ++ opcodeOp, false)

def quadrant2 (instr : Word) : Expansion :=
  let f3 := slice instr 15 13
  let rdField := slice instr 11 7
  if f3 = 0b000#3 then
    (0#7 ++ slice instr 6 2 ++ rdField ++ 0b001#3 ++ rdField ++ opcodeOpImm,
      rdField == 0#5 || slice instr 12 12 == 1#1 || slice instr 6 2 == 0#5)
  else if f3 = 0b010#3 then
    (0#4 ++ slice instr 3 2 ++ slice instr 12 12 ++ slice instr 6 4 ++ 0#2 ++ 2#5 ++
        0b010#3 ++ rdField ++ opcodeLoad,
      rdField == 0#5)
  else if f3 = 0b100#3 then quadrant2Jump instr
  else if f3 = 0b110#3 then
    (0#4 ++ slice instr 8 7 ++ slice instr 12 12 ++ slice instr 6 2 ++ 2#5 ++ 0b010#3 ++
        slice instr 11 9 ++ 0#2 ++ opcodeStore,
      false)
  else (0#32, true)

end CompressDecoder

def compressDecoder (instr : Word) : CompressDecoder.Expansion :=
  let quadrant := instr.extractLsb' 0 2
  if quadrant = 0b00#2 then CompressDecoder.quadrant0 instr
  else if quadrant = 0b01#2 then CompressDecoder.quadrant1 instr
  else if quadrant = 0b10#2 then CompressDecoder.quadrant2 instr
  else (instr, false)

end RiscvCore
