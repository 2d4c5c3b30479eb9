/-!
# Bit vectors as lists of bits

An encoding places the bits of its fields one by one.  Two words that are put together from slices
of others are equal if they are the same list of bits, and both lists can be computed.  A scattered
field is given by a table, as instruction set manuals print it: from which bit on it stands, and
which of its bits stand there.
-/

namespace BitLists

variable {width more : Nat}

/-- The bits of a vector, the lowest first. -/
def bits (vec : BitVec width) : List Bool := (List.range width).map vec.getLsbD

theorem length_bits (vec : BitVec width) : (bits vec).length = width := by
  rw [bits, List.length_map, List.length_range]

theorem getElem?_bits (vec : BitVec width) {index : Nat} (inside : index < width) :
    (bits vec)[index]? = some (vec.getLsbD index) := by
  rw [bits, List.getElem?_map, List.getElem?_range inside]
  rfl

theorem eq_of_bits {left right : BitVec width} (same : bits left = bits right) :
    left = right := by
  apply BitVec.eq_of_getLsbD_eq
  intro index inside
  have equal : (bits left)[index]? = (bits right)[index]? := by rw [same]
  rw [getElem?_bits left inside, getElem?_bits right inside] at equal
  exact Option.some.inj equal

theorem bits_append (high : BitVec more) (low : BitVec width) :
    bits (high ++ low) = bits low ++ bits high := by
  apply List.ext_getElem?
  intro index
  rcases Nat.lt_or_ge index width with inside | outside
  · rw [List.getElem?_append_left (by rw [length_bits]; exact inside),
      getElem?_bits low inside, getElem?_bits _ (by omega), BitVec.getLsbD_append, if_pos inside]
  · rw [List.getElem?_append_right (by rw [length_bits]; exact outside), length_bits]
    rcases Nat.lt_or_ge index (more + width) with below | above
    · rw [getElem?_bits _ below, getElem?_bits _ (by omega), BitVec.getLsbD_append,
        if_neg (by omega)]
    · rw [List.getElem?_eq_none (by rw [length_bits]; exact above),
        List.getElem?_eq_none (by rw [length_bits]; omega)]

theorem bits_extractLsb' (vec : BitVec width) (start length : Nat) :
    bits (vec.extractLsb' start length) =
      (List.range length).map fun index => vec.getLsbD (start + index) := by
  rw [bits]
  apply List.map_congr_left
  intro index inside
  rw [BitVec.getLsbD_extractLsb', decide_eq_true (List.mem_range.mp inside), Bool.true_and]

theorem bits_not (vec : BitVec width) : bits (~~~vec) = (bits vec).map not := by
  rw [bits, bits, List.map_map]
  apply List.map_congr_left
  intro index inside
  rw [BitVec.getLsbD_not, decide_eq_true (List.mem_range.mp inside), Bool.true_and]
  rfl

theorem bits_signExtend (vec : BitVec width) (wide : Nat) (fits : width ≤ wide) :
    bits (vec.signExtend wide) = bits vec ++ List.replicate (wide - width) vec.msb := by
  apply List.ext_getElem?
  intro index
  rcases Nat.lt_or_ge index width with inside | outside
  · rw [List.getElem?_append_left (by rw [length_bits]; exact inside),
      getElem?_bits vec inside, getElem?_bits _ (by omega), BitVec.getLsbD_signExtend,
      if_pos inside, decide_eq_true (by omega), Bool.true_and]
  · rw [List.getElem?_append_right (by rw [length_bits]; exact outside), length_bits]
    rcases Nat.lt_or_ge index wide with below | above
    · rw [getElem?_bits _ below, BitVec.getLsbD_signExtend, if_neg (by omega),
        decide_eq_true below, Bool.true_and, List.getElem?_replicate, if_pos (by omega)]
    · rw [List.getElem?_eq_none (by rw [length_bits]; exact above),
        List.getElem?_eq_none (by rw [List.length_replicate]; omega)]

/-- The vector with the given bits. -/
def ofBits (bit : Nat → Bool) : (width : Nat) → BitVec width
  | 0 => 0#0
  | width + 1 => BitVec.cons (bit width) (ofBits bit width)

theorem getLsbD_ofBits (bit : Nat → Bool) {index : Nat} (inside : index < width) :
    (ofBits bit width).getLsbD index = bit index := by
  induction width with
  | zero => omega
  | succ width induction =>
      rw [ofBits, BitVec.getLsbD_cons]
      split
      · rename_i isTop
        rw [isTop]
      · exact induction (by omega)

/-- A table of the places of a field: the entry `(top, positions)` says which bits of the field
stand at `top`, `top - 1` and so on. -/
abbrev Places : Type := List (Nat × List Nat)

/-- Where the given bit of the field stands. -/
def Places.source (places : Places) (position : Nat) : Option Nat :=
  places.findSome? fun entry => (entry.2.idxOf? position).map fun index => entry.1 - index

/-- The field that stands at the given places; its other bits are zero. -/
def scattered (vec : BitVec more) (places : Places) (width : Nat) : BitVec width :=
  ofBits (fun position => ((places.source position).map vec.getLsbD).getD false) width

theorem getLsbD_scattered {vec : BitVec more} {places : Places} {index : Nat}
    (inside : index < width) :
    (scattered vec places width).getLsbD index =
      ((places.source index).map vec.getLsbD).getD false :=
  getLsbD_ofBits _ inside

theorem bits_scattered (vec : BitVec more) (places : Places) (width : Nat) :
    bits (scattered vec places width) =
      (List.range width).map fun position =>
        ((places.source position).map vec.getLsbD).getD false := by
  rw [bits]
  apply List.map_congr_left
  intro position inside
  exact getLsbD_scattered (List.mem_range.mp inside)

/-- A scattered load offset: bits 5 to 3 stand at 12 to 10, bit 2 at 6 and bit 6 at 5. -/
example : scattered 0b0001010000100000#16 [(12, [5, 4, 3]), (6, [2, 6])] 7 = 0b1101000#7 := by
  decide

end BitLists
