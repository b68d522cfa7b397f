import Mathlib.Data.List.Basic

/-! A return-to-zero code on two wires of an output port: for each bit both wires
go low and then one of them goes high; after the last bit both are high. -/

set_option autoImplicit false

namespace MiniMiner

/-- The port bits of the two wires. -/
structure TwoWire (width : Nat) where
  one : BitVec width
  zero : BitVec width
  apart : one &&& zero = BitVec.ofNat width 0
  one_ne_zero : one ≠ BitVec.ofNat width 0
  zero_ne_zero : zero ≠ BitVec.ofNat width 0

namespace TwoWire

variable {width : Nat} (wires : TwoWire width)

def both : BitVec width := wires.zero ||| wires.one

def wire (bit : Bool) : BitVec width := if bit then wires.one else wires.zero

/-- The two port values that send a bit, over the other bits of the port. -/
def pulse (base : BitVec width) (bit : Bool) : List (BitVec width) :=
  [base, base ||| wires.wire bit]

def encode (base : BitVec width) (bits : List Bool) : List (BitVec width) :=
  bits.flatMap (wires.pulse base) ++ [base ||| wires.both]

/-- Both wires low, then exactly one of them high. -/
def decodeBit (low high : BitVec width) : Option Bool :=
  if low &&& wires.both = BitVec.ofNat width 0 then
    if high &&& wires.both = wires.one then some true
    else if high &&& wires.both = wires.zero then some false
    else none
  else none

/-- Pulses followed by one value with both wires high; anything else is rejected. -/
def decode : List (BitVec width) → Option (List Bool)
  | [] => none
  | [final] => if final &&& wires.both = wires.both then some [] else none
  | low :: high :: rest =>
      match wires.decodeBit low high, decode rest with
      | some bit, some bits => some (bit :: bits)
      | _, _ => none

theorem one_ne_zeroWire : wires.one ≠ wires.zero := by
  intro same
  have apart := wires.apart
  rw [← same, BitVec.and_self] at apart
  exact wires.one_ne_zero apart

theorem wire_and_both (bit : Bool) : wires.wire bit &&& wires.both = wires.wire bit := by
  apply BitVec.eq_of_getLsbD_eq
  intro index _
  cases bit <;>
    simp only [wire, both, BitVec.getLsbD_and, BitVec.getLsbD_or, if_true, Bool.false_eq_true,
      if_false] <;>
    cases wires.one.getLsbD index <;> cases wires.zero.getLsbD index <;> rfl

theorem and_not_both_quiet (value : BitVec width) :
    value &&& ~~~wires.both &&& wires.both = BitVec.ofNat width 0 := by
  apply BitVec.eq_of_getLsbD_eq
  intro index bound
  simp only [BitVec.getLsbD_and, BitVec.getLsbD_not, BitVec.getLsbD_zero, bound, decide_true,
    Bool.true_and]
  cases value.getLsbD index <;> cases wires.both.getLsbD index <;> rfl

theorem and_not_both_or_both (value : BitVec width) :
    (value &&& ~~~wires.both) ||| wires.both = value ||| wires.both := by
  apply BitVec.eq_of_getLsbD_eq
  intro index bound
  simp only [BitVec.getLsbD_and, BitVec.getLsbD_or, BitVec.getLsbD_not, bound, decide_true,
    Bool.true_and]
  cases value.getLsbD index <;> cases wires.both.getLsbD index <;> rfl

variable {wires} {base : BitVec width}

private theorem or_and_both (quiet : base &&& wires.both = BitVec.ofNat width 0) (level : BitVec width)
    (inside : level &&& wires.both = level) : (base ||| level) &&& wires.both = level := by
  apply BitVec.eq_of_getLsbD_eq
  intro index bound
  have low := congrArg (·.getLsbD index) quiet
  have high := congrArg (·.getLsbD index) inside
  simp only [BitVec.getLsbD_and, BitVec.getLsbD_or, BitVec.getLsbD_zero] at low high ⊢
  revert low high
  cases base.getLsbD index <;> cases level.getLsbD index <;>
    cases wires.both.getLsbD index <;> decide

theorem or_and_not_both (quiet : base &&& wires.both = BitVec.ofNat width 0) (level : BitVec width)
    (inside : level &&& wires.both = level) : (base ||| level) &&& ~~~wires.both = base := by
  apply BitVec.eq_of_getLsbD_eq
  intro index bound
  have low := congrArg (·.getLsbD index) quiet
  have high := congrArg (·.getLsbD index) inside
  simp only [BitVec.getLsbD_and, BitVec.getLsbD_or, BitVec.getLsbD_zero, BitVec.getLsbD_not,
    bound, decide_true, Bool.true_and] at low high ⊢
  revert low high
  cases base.getLsbD index <;> cases level.getLsbD index <;>
    cases wires.both.getLsbD index <;> decide

theorem decodeBit_pulse (quiet : base &&& wires.both = BitVec.ofNat width 0) (bit : Bool) :
    wires.decodeBit base (base ||| wires.wire bit) = some bit := by
  have high := or_and_both quiet _ (wires.wire_and_both bit)
  rw [decodeBit, if_pos quiet, high]
  cases bit with
  | false => exact (if_neg (Ne.symm wires.one_ne_zeroWire)).trans (if_pos rfl)
  | true => exact if_pos rfl

/-- What is sent is what a receiver reads. -/
theorem decode_encode (quiet : base &&& wires.both = BitVec.ofNat width 0) (bits : List Bool) :
    wires.decode (wires.encode base bits) = some bits := by
  induction bits with
  | nil =>
      have high := or_and_both quiet wires.both (BitVec.and_self)
      simp only [encode, List.flatMap_nil, List.nil_append, decode, high, if_true]
  | cons bit bits ih =>
      have first := decodeBit_pulse quiet bit
      simp only [encode, List.flatMap_cons, pulse, List.cons_append, List.nil_append, decode,
        first] at ih ⊢
      rw [ih]

theorem mem_encode_and_not_both (quiet : base &&& wires.both = BitVec.ofNat width 0) {bits : List Bool}
    {value : BitVec width} (member : value ∈ wires.encode base bits) :
    value &&& ~~~wires.both = base := by
  rw [encode, List.mem_append, List.mem_flatMap, List.mem_singleton] at member
  rcases member with ⟨bit, _, sent⟩ | rfl
  · rw [pulse, List.mem_pair] at sent
    rcases sent with rfl | rfl
    · simpa using or_and_not_both quiet (BitVec.ofNat width 0) BitVec.zero_and
    · exact or_and_not_both quiet _ (wires.wire_and_both bit)
  · exact or_and_not_both quiet _ BitVec.and_self

end TwoWire

/-- The lowest bits of a word, the least significant one first. -/
def bitsOf {width : Nat} : (count : Nat) → BitVec width → List Bool
  | 0, _ => []
  | count + 1, word => word.getLsbD 0 :: bitsOf count (word >>> 1)

/-- The word with the given bits, the least significant one first. -/
def wordOf (width : Nat) : List Bool → BitVec width
  | [] => BitVec.ofNat width 0
  | bit :: bits => (wordOf width bits <<< 1) ||| (if bit then BitVec.ofNat width 1 else BitVec.ofNat width 0)

/-- Words of a fixed width, read from their bits one word after the other. -/
def wordsOf (width : Nat) : (count : Nat) → List Bool → List (BitVec width)
  | 0, _ => []
  | count + 1, bits =>
      wordOf width (bits.take width) :: wordsOf width count (bits.drop width)

theorem bitsOf_eq_map {width : Nat} (count : Nat) (word : BitVec width) :
    bitsOf count word = (List.range count).map word.getLsbD := by
  induction count generalizing word with
  | zero => rfl
  | succ count ih =>
      rw [bitsOf, ih, List.range_succ_eq_map, List.map_cons, List.map_map]
      congr 1
      apply List.map_congr_left
      intro index _
      rw [BitVec.getLsbD_ushiftRight, Nat.add_comm]
      rfl

@[simp] theorem length_bitsOf {width : Nat} (count : Nat) (word : BitVec width) :
    (bitsOf count word).length = count := by
  rw [bitsOf_eq_map, List.length_map, List.length_range]

private theorem getLsbD_wordOf {width : Nat} (bits : List Bool) {index : Nat}
    (bound : index < width) : (wordOf width bits).getLsbD index = bits.getD index false := by
  induction bits generalizing index with
  | nil => simp [wordOf]
  | cons bit bits ih =>
      cases index with
      | zero => cases bit <;> simp [wordOf, bound]
      | succ index =>
          have lowest : (if bit then BitVec.ofNat width 1 else BitVec.ofNat width 0).getLsbD (index + 1) = false := by
            cases bit <;> simp
          have shifted : ¬ index + 1 < 1 := by omega
          rw [wordOf, BitVec.getLsbD_or, lowest, Bool.or_false, BitVec.getLsbD_shiftLeft]
          simp only [bound, shifted, decide_true, decide_false, Bool.not_false, Bool.true_and,
            Nat.add_sub_cancel, List.getD_cons_succ]
          exact ih (Nat.lt_of_succ_lt bound)

theorem wordOf_bitsOf {width : Nat} (word : BitVec width) :
    wordOf width (bitsOf width word) = word := by
  apply BitVec.eq_of_getLsbD_eq
  intro index bound
  rw [getLsbD_wordOf _ bound, bitsOf_eq_map]
  simp [List.getD_eq_getElem?_getD, bound]

theorem wordsOf_flatMap_bitsOf {width : Nat} (words : List (BitVec width)) :
    wordsOf width words.length (words.flatMap (bitsOf width)) = words := by
  induction words with
  | nil => rfl
  | cons word words ih =>
      rw [List.length_cons, List.flatMap_cons, wordsOf]
      rw [List.take_left' (length_bitsOf _ _), List.drop_left' (length_bitsOf _ _),
        wordOf_bitsOf, ih]

end MiniMiner
