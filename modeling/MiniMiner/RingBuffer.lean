import Mathlib.Data.List.Induction
import Mathlib.Data.Nat.ModEq
import MiniMiner.LittleEndian

/-! The byte ring of `LUFA/Drivers/Misc/RingBuffer.h`: a storage array with a
write position, a read position and a separate 16-bit counter. Insertion does
not test for a full ring and removal does not test for an empty one. -/

set_option autoImplicit false

namespace MiniMiner

open LittleEndian

/-- The pointers are kept as positions in the storage array. `linked` and `fits`
hold of every ring the firmware can build, also of an overrun one: the counter
and the distance of the positions agree modulo the size, because the sizes in
use divide the range of the counter. -/
structure RingBuffer (size : Nat) where
  data : Vector Byte size
  inPos : Fin size
  outPos : Fin size
  count : BitVec 16
  linked : inPos.val = (outPos.val + count.toNat) % size
  fits : size ∣ 2 ^ 15

namespace RingBuffer

variable {size : Nat}

/-- `if (++pointer == End) pointer = Start`. -/
def next (position : Fin size) : Fin size :=
  if inside : position.val + 1 < size then ⟨position.val + 1, inside⟩
  else ⟨0, Nat.lt_of_le_of_lt (Nat.zero_le _) position.isLt⟩

theorem next_val (position : Fin size) : (next position).val = (position.val + 1) % size := by
  unfold next
  split
  · next inside => exact (Nat.mod_eq_of_lt inside).symm
  · next outside =>
    have last : position.val + 1 = size := by omega
    rw [last, Nat.mod_self]

private theorem mod_counter (fits : size ∣ 2 ^ 15) (value : Nat) :
    value % 2 ^ 16 % size = value % size :=
  Nat.mod_mod_of_dvd value (fits.trans (by decide))

private theorem add_mod_congr {left right other : Nat} (same : left % size = right % size) :
    (other + left) % size = (other + right) % size := by
  rw [Nat.add_mod, same, ← Nat.add_mod]

/-- `RingBuffer_InitBuffer`, which leaves the storage array as it was. -/
def initBuffer (data : Vector Byte size) (fits : size ∣ 2 ^ 15) (nonempty : 0 < size) :
    RingBuffer size where
  data := data
  inPos := ⟨0, nonempty⟩
  outPos := ⟨0, nonempty⟩
  count := 0
  linked := by simp
  fits := fits

/-- `RingBuffer_GetCount`. -/
def getCount (ring : RingBuffer size) : BitVec 16 := ring.count

/-- `RingBuffer_Insert`. -/
def insert (ring : RingBuffer size) (byte : Byte) : RingBuffer size where
  data := ring.data.set ring.inPos byte
  inPos := next ring.inPos
  outPos := ring.outPos
  count := ring.count + 1
  linked := by
    have counted : (ring.count + 1).toNat = (ring.count.toNat + 1) % 2 ^ 16 := by
      rw [BitVec.toNat_add]
      rfl
    rw [next_val, counted, ring.linked, Nat.mod_add_mod, Nat.add_assoc]
    exact add_mod_congr (mod_counter ring.fits _).symm
  fits := ring.fits

/-- The state `RingBuffer_Remove` leaves. -/
def remove (ring : RingBuffer size) : RingBuffer size where
  data := ring.data
  inPos := ring.inPos
  outPos := next ring.outPos
  count := ring.count - 1
  linked := by
    have counted : (ring.count - 1).toNat = (ring.count.toNat + (2 ^ 16 - 1)) % 2 ^ 16 := by
      rw [BitVec.toNat_sub]
      simp [Nat.add_comm]
    rw [next_val, counted, Nat.mod_add_mod, Nat.add_assoc, ring.linked]
    apply add_mod_congr
    rw [Nat.add_mod 1, mod_counter ring.fits, ← Nat.add_mod, Nat.add_left_comm]
    obtain ⟨factor, product⟩ := ring.fits
    have range : 1 + (2 ^ 16 - 1) = size * (2 * factor) := by
      rw [Nat.mul_left_comm, ← product]
      rfl
    rw [range, Nat.add_mul_mod_self_left]
  fits := ring.fits

/-- `RingBuffer_Peek`, and the byte returned by `RingBuffer_Remove`. -/
def peek (ring : RingBuffer size) : Byte := ring.data[ring.outPos]

/-- The byte that an insertion has put into the storage array. -/
def stored (before after : RingBuffer size) : Byte := after.data[before.inPos]

/-- The storage cell at a distance from the read position. -/
def cell (ring : RingBuffer size) (offset : Nat) : Byte :=
  have inside := Nat.mod_lt (ring.outPos.val + offset) ring.outPos.pos
  ring.data[(ring.outPos.val + offset) % size]

/-- The bytes in the ring: `count` of them from the read position on, wrapping
at the end of the storage array. -/
def contents (ring : RingBuffer size) : List Byte :=
  (List.range ring.count.toNat).map ring.cell

theorem size_lt (ring : RingBuffer size) : size < 2 ^ 16 :=
  Nat.lt_of_le_of_lt (Nat.le_of_dvd (by decide) ring.fits) (by decide)

@[simp] theorem length_contents (ring : RingBuffer size) :
    ring.contents.length = ring.count.toNat := by
  simp [contents]

theorem contents_eq_nil_iff {ring : RingBuffer size} :
    ring.contents = [] ↔ ring.count = 0 := by
  rw [← List.length_eq_zero_iff, length_contents, ← BitVec.toNat_inj]
  rfl

theorem count_insert_of_lt (ring : RingBuffer size) (byte : Byte)
    (below : ring.count.toNat + 1 < 2 ^ 16) :
    (ring.insert byte).count.toNat = ring.count.toNat + 1 := by
  have counted : (ring.count + 1).toNat = (ring.count.toNat + 1) % 2 ^ 16 := by
    rw [BitVec.toNat_add]
    rfl
  simp only [insert, counted]
  exact Nat.mod_eq_of_lt below

theorem count_insert (ring : RingBuffer size) (byte : Byte) (room : ring.count.toNat < size) :
    (ring.insert byte).count.toNat = ring.count.toNat + 1 :=
  ring.count_insert_of_lt byte (Nat.lt_of_le_of_lt room ring.size_lt)

theorem count_remove (ring : RingBuffer size) (nonempty : ring.count ≠ 0) :
    ring.remove.count.toNat + 1 = ring.count.toNat := by
  have positive : ring.count.toNat ≠ 0 := by
    intro zero
    exact nonempty (BitVec.eq_of_toNat_eq zero)
  have bounded := ring.count.isLt
  have counted : (ring.count - 1).toNat = (2 ^ 16 - 1 + ring.count.toNat) % 2 ^ 16 := by
    rw [BitVec.toNat_sub]
    rfl
  simp only [remove, counted]
  omega

/-- An insertion writes the cell at the distance that the counter shows, which is
the first one again when the ring is full. -/
theorem cell_insert (ring : RingBuffer size) (byte : Byte) (offset : Nat) :
    (ring.insert byte).cell offset =
      if offset % size = ring.count.toNat % size then byte else ring.cell offset := by
  have written : ring.inPos.val = (ring.outPos.val + offset) % size ↔
      offset % size = ring.count.toNat % size := by
    rw [ring.linked]
    constructor
    · intro same
      exact (Nat.ModEq.add_left_cancel' ring.outPos.val same).symm
    · intro congruent
      exact add_mod_congr congruent.symm
  simp only [cell, insert, Vector.getElem_set, written]

theorem cell_add_size (ring : RingBuffer size) (offset : Nat) :
    ring.cell (offset + size) = ring.cell offset := by
  simp only [cell, ← Nat.add_assoc, Nat.add_mod_right]

theorem contents_insert (ring : RingBuffer size) (byte : Byte)
    (room : ring.count.toNat < size) :
    (ring.insert byte).contents = ring.contents ++ [byte] := by
  simp only [contents]
  rw [ring.count_insert byte room, List.range_succ, List.map_append]
  congr 1
  · apply List.map_congr_left
    intro offset member
    have before := List.mem_range.mp member
    rw [cell_insert, if_neg]
    rw [Nat.mod_eq_of_lt room, Nat.mod_eq_of_lt (by omega)]
    omega
  · rw [List.map_cons, List.map_nil, cell_insert, if_pos rfl]

theorem stored_insert (ring : RingBuffer size) (byte : Byte) :
    ring.stored (ring.insert byte) = byte := by
  simp [stored, insert]

theorem contents_eq_peek_cons (ring : RingBuffer size) (nonempty : ring.count ≠ 0) :
    ring.contents = ring.peek :: ring.remove.contents := by
  have counted := ring.count_remove nonempty
  simp only [contents]
  rw [← counted, List.range_succ_eq_map, List.map_cons, List.map_map]
  congr 1
  · simp only [cell, peek, Nat.add_zero,
      Nat.mod_eq_of_lt ring.outPos.isLt]
    rfl
  · apply List.map_congr_left
    intro offset _
    simp only [Function.comp, cell, remove, next_val, Nat.mod_add_mod, Nat.add_assoc,
      Nat.add_comm 1 offset, Nat.succ_eq_add_one]

theorem peek_of_contents {ring : RingBuffer size} {byte : Byte} {rest : List Byte}
    (filled : ring.contents = byte :: rest) :
    ring.count ≠ 0 ∧ ring.peek = byte ∧ ring.remove.contents = rest := by
  have nonempty : ring.count ≠ 0 := by
    intro zero
    rw [contents_eq_nil_iff.mpr zero] at filled
    cases filled
  rw [ring.contents_eq_peek_cons nonempty] at filled
  injection filled with first others
  exact ⟨nonempty, first, others⟩

/-- Several insertions, and several removals with the bytes they return. -/
def insertAll (ring : RingBuffer size) (bytes : List Byte) : RingBuffer size :=
  bytes.foldl insert ring

def removeMany (ring : RingBuffer size) : Nat → RingBuffer size
  | 0 => ring
  | times + 1 => (ring.removeMany times).remove

def removed (ring : RingBuffer size) : Nat → List Byte
  | 0 => []
  | times + 1 => ring.removed times ++ [(ring.removeMany times).peek]

theorem length_removed (ring : RingBuffer size) (times : Nat) :
    (ring.removed times).length = times := by
  induction times with
  | zero => rfl
  | succ times ih => rw [removed, List.length_append, ih, List.length_singleton]

theorem removeMany_add (ring : RingBuffer size) (first second : Nat) :
    ring.removeMany (first + second) = (ring.removeMany first).removeMany second := by
  induction second with
  | zero => rfl
  | succ second ih => rw [← Nat.add_assoc, removeMany, removeMany, ih]

theorem contents_insertAll (ring : RingBuffer size) (bytes : List Byte)
    (room : ring.count.toNat + bytes.length ≤ size) :
    (ring.insertAll bytes).contents = ring.contents ++ bytes := by
  induction bytes generalizing ring with
  | nil => exact (List.append_nil _).symm
  | cons byte rest ih =>
      rw [List.length_cons] at room
      have counted := ring.count_insert byte (by omega)
      have later := ih (ring.insert byte) (by omega)
      rw [ring.contents_insert byte (by omega), List.append_assoc] at later
      exact later

theorem insertAll_concat (ring : RingBuffer size) (front : List Byte) (byte : Byte) :
    ring.insertAll (front ++ [byte]) = (ring.insertAll front).insert byte := by
  simp only [insertAll, List.foldl_append, List.foldl_cons, List.foldl_nil]

theorem count_insertAll (ring : RingBuffer size) (bytes : List Byte)
    (below : ring.count.toNat + bytes.length < 2 ^ 16) :
    (ring.insertAll bytes).count.toNat = ring.count.toNat + bytes.length := by
  induction bytes generalizing ring with
  | nil => rfl
  | cons byte rest ih =>
      rw [List.length_cons] at below ⊢
      have counted := ring.count_insert_of_lt byte (by omega)
      have later := ih (ring.insert byte) (by omega)
      rw [counted] at later
      refine later.trans ?_
      omega

/-- The last `size` bytes put into a ring are in it, also when it was overrun. -/
theorem cell_insertAll (ring : RingBuffer size) {bytes : List Byte} {index : Nat} {byte : Byte}
    (below : ring.count.toNat + bytes.length < 2 ^ 16) (present : bytes[index]? = some byte)
    (latest : bytes.length ≤ index + size) :
    (ring.insertAll bytes).cell (ring.count.toNat + index) = byte := by
  induction bytes using List.reverseRecOn with
  | nil => simp at present
  | append_singleton front last ih =>
      rw [List.length_append, List.length_singleton] at below latest
      rw [insertAll_concat, cell_insert, ring.count_insertAll front (by omega)]
      rcases Nat.lt_trichotomy index front.length with earlier | atEnd | beyond
      · -- less than one turn lies between this byte and the last one
        have apart : ¬ (ring.count.toNat + index) % size =
            (ring.count.toNat + front.length) % size := by
          intro same
          have congruent : index % size = front.length % size :=
            Nat.ModEq.add_left_cancel' ring.count.toNat same
          have turns := (Nat.modEq_iff_dvd' earlier.le).mp congruent
          have turn := Nat.le_of_dvd (by omega) turns
          omega
        rw [if_neg apart]
        rw [List.getElem?_append_left earlier] at present
        exact ih (by omega) present (by omega)
      · subst atEnd
        rw [List.getElem?_concat_length] at present
        rw [if_pos rfl]
        exact Option.some.inj present
      · rw [List.getElem?_eq_none (by rw [List.length_append, List.length_singleton]; omega)]
          at present
        cases present

theorem getElem?_contents (ring : RingBuffer size) {index : Nat}
    (inside : index < ring.count.toNat) : ring.contents[index]? = some (ring.cell index) := by
  rw [contents, List.getElem?_map, List.getElem?_range inside, Option.map_some]

/-- By induction on the turns of the ring that come after a byte. -/
theorem getElem?_of_repeated (ring : RingBuffer size) {bytes : List Byte}
    (empty : ring.count.toNat = 0) (below : bytes.length < 2 ^ 16)
    (repeated : ∀ index, index + size < bytes.length → bytes[index]? = bytes[index + size]?)
    (turns : Nat) {index : Nat} (inside : index < bytes.length)
    (covered : bytes.length ≤ index + turns * size) :
    bytes[index]? = some ((ring.insertAll bytes).cell index) := by
  induction turns generalizing index with
  | zero => omega
  | succ turns ih =>
      by_cases latest : bytes.length ≤ index + size
      · have present : bytes[index]? = some bytes[index] := List.getElem?_eq_getElem inside
        have held := ring.cell_insertAll (by omega) present latest
        rw [empty, Nat.zero_add] at held
        rw [present, held]
      · rw [Nat.succ_mul] at covered
        have later := ih (by omega : index + size < bytes.length) (by omega)
        rw [repeated index (by omega), later, cell_add_size]

/-- An overrun ring still holds what was put into it exactly if every byte that was
overwritten was overwritten with itself. -/
theorem contents_insertAll_iff (ring : RingBuffer size) {bytes : List Byte}
    (empty : ring.count.toNat = 0) (below : bytes.length < 2 ^ 16) :
    (ring.insertAll bytes).contents = bytes ↔
      ∀ index, index + size < bytes.length → bytes[index]? = bytes[index + size]? := by
  have counted : (ring.insertAll bytes).count.toNat = bytes.length := by
    rw [ring.count_insertAll bytes (by omega), empty, Nat.zero_add]
  constructor
  · intro whole index inside
    rw [← counted] at inside
    have first := (ring.insertAll bytes).getElem?_contents
      (Nat.lt_of_le_of_lt (Nat.le_add_right index size) inside)
    have second := (ring.insertAll bytes).getElem?_contents inside
    rw [whole] at first second
    rw [first, second, cell_add_size]
  · intro repeated
    apply List.ext_getElem?
    intro index
    by_cases inside : index < bytes.length
    · have turns : bytes.length ≤ index + bytes.length * size :=
        Nat.le_add_left_of_le (Nat.le_mul_of_pos_right _ ring.outPos.pos)
      rw [getElem?_contents _ (counted ▸ inside),
        ring.getElem?_of_repeated empty below repeated bytes.length inside turns]
    · rw [List.getElem?_eq_none (by rw [length_contents]; omega),
        List.getElem?_eq_none (Nat.le_of_not_lt inside)]

theorem count_removeMany (ring : RingBuffer size) (times : Nat) :
    (ring.removeMany times).count = ring.count - BitVec.ofNat 16 times := by
  induction times with
  | zero => simp [removeMany]
  | succ times ih =>
      show (ring.removeMany times).count - 1 = _
      rw [ih, BitVec.ofNat_add, BitVec.sub_sub]
      rfl

theorem count_removeMany_ne_zero (ring : RingBuffer size) {times : Nat}
    (more : times < ring.count.toNat) : (ring.removeMany times).count ≠ 0 := by
  have bounded := ring.count.isLt
  intro zero
  have none := congrArg BitVec.toNat zero
  rw [count_removeMany, BitVec.toNat_sub, BitVec.toNat_ofNat] at none
  change _ = 0 at none
  omega

theorem removed_of_le (ring : RingBuffer size) {times : Nat}
    (enough : times ≤ ring.count.toNat) :
    ring.removed times = ring.contents.take times ∧
      (ring.removeMany times).contents = ring.contents.drop times := by
  induction times with
  | zero => exact ⟨rfl, rfl⟩
  | succ times ih =>
      obtain ⟨taken, remaining⟩ := ih (by omega)
      have inside : times < ring.contents.length := by
        rw [length_contents]
        omega
      have split := (ring.removeMany times).contents_eq_peek_cons
        (ring.count_removeMany_ne_zero enough)
      rw [remaining, List.drop_eq_getElem_cons inside] at split
      injection split with first rest
      refine ⟨?_, rest.symm⟩
      rw [removed, taken, ← first, List.take_append_getElem inside]

end RingBuffer

end MiniMiner
