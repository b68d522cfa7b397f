import Mathlib.Tactic.IntervalCases

/-! Byte access to 32-bit words stored in little-endian order: the memory view
that a cast of a word pointer to a byte pointer gives. -/

set_option autoImplicit false

namespace MiniMiner.LittleEndian

abbrev Byte := BitVec 8

abbrev Word := BitVec 32

/-- The byte at an offset from 0 to 3 within a word. -/
def byteOf (word : Word) (offset : Nat) : Byte :=
  word.extractLsb' (8 * offset) 8

/-- Overwrite the byte at an offset and keep the other three. -/
def putByte (word : Word) (offset : Nat) (byte : Byte) : Word :=
  (word &&& ~~~(0xFF#32 <<< (8 * offset))) ||| (byte.setWidth 32 <<< (8 * offset))

def wordBytes (word : Word) : List Byte :=
  [byteOf word 0, byteOf word 1, byteOf word 2, byteOf word 3]

def ofBytes (byte0 byte1 byte2 byte3 : Byte) : Word :=
  byte3 ++ byte2 ++ byte1 ++ byte0

def reverseBytes (word : Word) : Word :=
  ofBytes (byteOf word 3) (byteOf word 2) (byteOf word 1) (byteOf word 0)

/-- The words of a byte string, least significant byte first; bytes that do not
fill a word are dropped. -/
def littleEndianWords : List Byte → List Word
  | byte0 :: byte1 :: byte2 :: byte3 :: rest =>
      ofBytes byte0 byte1 byte2 byte3 :: littleEndianWords rest
  | _ => []

/-- The bytes of an array of words in the order of their addresses. -/
def storedBytes {size : Nat} (words : Vector Word size) : List Byte :=
  words.toList.flatMap wordBytes

/-- Write one byte of an array of words through a byte pointer. -/
def pokeByte {size : Nat} (words : Vector Word size) (address : Fin (4 * size))
    (byte : Byte) : Vector Word size :=
  have inside : address.val / 4 < size := by omega
  words.set (address.val / 4) (putByte words[address.val / 4] (address.val % 4) byte)

theorem toNat_sub_one {width : Nat} {value : BitVec width} (positive : value ≠ 0) :
    (value - 1).toNat + 1 = value.toNat := by
  have nonzero : value.toNat ≠ 0 :=
    fun zero => positive (BitVec.eq_of_toNat_eq (by simpa using zero))
  have wide : 1 < 2 ^ width := by
    have bounded := value.isLt
    omega
  have one : (1 : BitVec width).toNat = 1 := by
    simp [Nat.mod_eq_of_lt wide]
  rw [BitVec.toNat_sub_of_le (by rw [BitVec.le_def]; omega), one]
  omega

@[simp] theorem length_wordBytes (word : Word) : (wordBytes word).length = 4 := rfl

private theorem getLsbD_byteMask (index : Nat) :
    (0xFF#32).getLsbD index = decide (index < 8) := by
  by_cases bound : index < 32
  · interval_cases index <;> rfl
  · rw [BitVec.getLsbD_of_ge _ _ (by omega)]
    simp only [Bool.false_eq, decide_eq_false_iff_not]
    omega

private theorem getLsbD_putByte (word : Word) (offset : Nat) (byte : Byte) (index : Nat)
    (bound : index < 32) : (putByte word offset byte).getLsbD index =
      if 8 * offset ≤ index ∧ index < 8 * offset + 8 then byte.getLsbD (index - 8 * offset)
      else word.getLsbD index := by
  simp only [putByte, BitVec.getLsbD_or, BitVec.getLsbD_and, BitVec.getLsbD_not,
    BitVec.getLsbD_shiftLeft, getLsbD_byteMask, bound, BitVec.getLsbD_setWidth]
  by_cases low : index < 8 * offset
  · have outside : ¬ (8 * offset ≤ index ∧ index < 8 * offset + 8) := by omega
    simp [low, outside]
  · by_cases high : index - 8 * offset < 8
    · have within : 8 * offset ≤ index ∧ index < 8 * offset + 8 := by omega
      have short : index - 8 * offset < 32 := by omega
      simp [low, high, short, within]
    · have outside : ¬ (8 * offset ≤ index ∧ index < 8 * offset + 8) := by omega
      have beyond : byte.getLsbD (index - 8 * offset) = false :=
        BitVec.getLsbD_of_ge _ _ (by omega)
      simp [low, high, outside, beyond]

theorem byteOf_putByte (word : Word) (offset : Nat) {other : Nat} (byte : Byte)
    (inside : other < 4) :
    byteOf (putByte word offset byte) other =
      if offset = other then byte else byteOf word other := by
  apply BitVec.eq_of_getLsbD_eq
  intro index bound
  simp only [byteOf, BitVec.getLsbD_extractLsb', bound, decide_true, Bool.true_and]
  rw [getLsbD_putByte _ _ _ _ (by omega)]
  by_cases same : offset = other
  · subst same
    simp [bound]
  · simp only [same, if_false]
    rw [if_neg (by omega)]
    simp [bound]

theorem ofBytes_byteOf (word : Word) :
    ofBytes (byteOf word 0) (byteOf word 1) (byteOf word 2) (byteOf word 3) = word := by
  apply BitVec.eq_of_getLsbD_eq
  intro index bound
  simp only [ofBytes, byteOf, BitVec.getLsbD_append, BitVec.getLsbD_extractLsb']
  interval_cases index <;> simp

theorem toNat_ofBytes (byte0 byte1 byte2 byte3 : Byte) :
    (ofBytes byte0 byte1 byte2 byte3).toNat =
      byte0.toNat + byte1.toNat * 2 ^ 8 + byte2.toNat * 2 ^ 16 + byte3.toNat * 2 ^ 24 := by
  have bound0 := byte0.isLt
  have bound1 := byte1.isLt
  have bound2 := byte2.isLt
  simp only [ofBytes, BitVec.toNat_append]
  rw [← Nat.shiftLeft_add_eq_or_of_lt bound2, ← Nat.shiftLeft_add_eq_or_of_lt bound1,
    ← Nat.shiftLeft_add_eq_or_of_lt bound0]
  simp only [Nat.shiftLeft_eq]
  omega

theorem toNat_byteOf (word : Word) (offset : Nat) :
    (byteOf word offset).toNat = word.toNat / 2 ^ (8 * offset) % 2 ^ 8 := by
  simp [byteOf, Nat.shiftRight_eq_div_pow]

theorem wordBytes_ofBytes (byte0 byte1 byte2 byte3 : Byte) :
    wordBytes (ofBytes byte0 byte1 byte2 byte3) = [byte0, byte1, byte2, byte3] := by
  have value := toNat_ofBytes byte0 byte1 byte2 byte3
  have bound0 := byte0.isLt
  have bound1 := byte1.isLt
  have bound2 := byte2.isLt
  have bound3 := byte3.isLt
  simp only [wordBytes, List.cons.injEq, and_true, ← BitVec.toNat_inj, toNat_byteOf, value]
  omega

theorem reverseBytes_eq_zero_iff (word : Word) : reverseBytes word = 0 ↔ word = 0 := by
  have forward := toNat_ofBytes (byteOf word 0) (byteOf word 1) (byteOf word 2) (byteOf word 3)
  have backward := toNat_ofBytes (byteOf word 3) (byteOf word 2) (byteOf word 1) (byteOf word 0)
  rw [ofBytes_byteOf] at forward
  rw [reverseBytes, ← BitVec.toNat_inj, ← BitVec.toNat_inj, forward, backward]
  show _ = 0 ↔ _ = 0
  omega

theorem length_littleEndianWords {bytes : List Byte} {words : Nat}
    (whole : bytes.length = 4 * words) : (littleEndianWords bytes).length = words := by
  induction words generalizing bytes with
  | zero =>
      rw [List.eq_nil_of_length_eq_zero whole]
      rfl
  | succ words ih =>
      match bytes, whole with
      | _ :: _ :: _ :: _ :: rest, whole =>
          simp only [List.length_cons] at whole
          have shorter : (littleEndianWords rest).length = words := ih (by omega)
          simp only [littleEndianWords, List.length_cons, shorter]

theorem littleEndianWords_drop (words : Nat) (bytes : List Byte) :
    littleEndianWords (bytes.drop (4 * words)) = (littleEndianWords bytes).drop words := by
  induction words generalizing bytes with
  | zero => rfl
  | succ words ih =>
      match bytes with
      | [] => rfl
      | [_] => rfl
      | [_, _] => rfl
      | [_, _, _] => rfl
      | _ :: _ :: _ :: _ :: rest =>
          rw [Nat.mul_succ]
          exact ih rest

/-- Reading back the words of an array from its bytes. -/
theorem littleEndianWords_flatMap (words : List Word) :
    littleEndianWords (words.flatMap wordBytes) = words := by
  induction words with
  | nil => rfl
  | cons word rest ih =>
      simp only [List.flatMap_cons, wordBytes, List.cons_append, List.nil_append,
        littleEndianWords, ofBytes_byteOf]
      rw [ih]

theorem littleEndianWords_storedBytes {size : Nat} (words : Vector Word size) :
    littleEndianWords (storedBytes words) = words.toList :=
  littleEndianWords_flatMap words.toList

theorem length_flatMap_wordBytes (words : List Word) :
    (words.flatMap wordBytes).length = 4 * words.length := by
  induction words with
  | nil => rfl
  | cons word rest ih =>
      rw [List.flatMap_cons, List.length_append, ih, length_wordBytes, List.length_cons]
      omega

@[simp] theorem length_storedBytes {size : Nat} (words : Vector Word size) :
    (storedBytes words).length = 4 * size := by
  rw [storedBytes, length_flatMap_wordBytes, Vector.length_toList]

private theorem getElem?_flatMap_wordBytes (words : List Word) (address : Nat) :
    (words.flatMap wordBytes)[address]? =
      words[address / 4]?.map fun word => byteOf word (address % 4) := by
  induction words generalizing address with
  | nil => simp
  | cons word rest ih =>
      rw [List.flatMap_cons]
      by_cases first : address < 4
      · rw [List.getElem?_append_left (by simpa using first)]
        interval_cases address <;> rfl
      · obtain ⟨remaining, rfl⟩ : ∃ remaining, address = remaining + 4 := ⟨address - 4, by omega⟩
        rw [List.getElem?_append_right (by simp), length_wordBytes, Nat.add_sub_cancel, ih]
        have quotient : (remaining + 4) / 4 = remaining / 4 + 1 := by omega
        have remainder : (remaining + 4) % 4 = remaining % 4 := by omega
        rw [quotient, remainder, List.getElem?_cons_succ]

/-- Writing through the byte pointer changes exactly the addressed byte. -/
theorem storedBytes_pokeByte {size : Nat} (words : Vector Word size)
    (address : Fin (4 * size)) (byte : Byte) :
    storedBytes (pokeByte words address byte) = (storedBytes words).set address byte := by
  have inside : address.val / 4 < size := by omega
  apply List.ext_getElem?
  intro other
  rw [List.getElem?_set, length_storedBytes]
  simp only [storedBytes, pokeByte, getElem?_flatMap_wordBytes, Vector.toList_set,
    List.getElem?_set, Vector.length_toList]
  by_cases same : address.val = other
  · subst same
    simp [inside, byteOf_putByte _ _ _ (Nat.mod_lt _ (by decide : 4 > 0))]
  · rw [if_neg same]
    by_cases sameWord : address.val / 4 = other / 4
    · have different : address.val % 4 ≠ other % 4 := by omega
      have present : other / 4 < size := by omega
      simp [sameWord, present, different,
        byteOf_putByte _ _ _ (Nat.mod_lt _ (by decide : 4 > 0))]
    · rw [if_neg sameWord]

end MiniMiner.LittleEndian
