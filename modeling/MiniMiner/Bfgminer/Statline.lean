import MiniMiner.AvalonBTC.Device
import MiniMiner.CString

/-! `driver-miniminer1.c`: how `mmo_detect_custom` takes the identity of a device
and how `mmo_statline` prints it. -/

set_option autoImplicit false

namespace MiniMiner.Bfgminer

open LittleEndian CString

structure MMOIdentity where
  version : Byte
  product : Vector Byte 8
  serial : Word
  deriving DecidableEq

structure MMOInfo where
  baud : Word
  id : MMOIdentity
  deriving DecidableEq

def mmoBaud : Word := 115200

/-- The record as it lies in memory: `id` is packed, the record itself ends with
padding that `calloc` has cleared. -/
def MMOInfo.bytes (info : MMOInfo) : List Byte :=
  wordBytes info.baud ++ ([info.id.version] ++ (info.id.product.toList ++
    (wordBytes info.id.serial ++ [0, 0, 0])))

/-- `offsetof(struct MMOInfo, id.product)`. -/
def productOffset : Nat := 5

/-- What `mmo_detect_custom` takes from a full read; the command byte is not
looked at. -/
def MMOIdentity.ofBuffer (buffer : List Byte) : MMOIdentity where
  version := buffer.getD 1 0
  product := Vector.ofFn fun index => buffer.getD (2 + index.val) 0
  serial := ofBytes (buffer.getD 10 0) (buffer.getD 11 0) (buffer.getD 12 0) (buffer.getD 13 0)

/-- `opened` is the outcome of `serial_open`, `reply` what `serial_read` has put
into the buffer, `claimed` whether another driver holds the port. The result is
the `device_data` of the device that is added. -/
def mmoDetectCustom (opened : Bool) (reply : List Byte) (claimed : Bool) (info : MMOInfo) :
    Option MMOInfo :=
  if ¬ opened then none
  else if reply.length ≠ 14 then none
  else if claimed then none
  else some { info with id := MMOIdentity.ofBuffer reply }

def mmoDetectOne (opened : Bool) (reply : List Byte) (claimed : Bool) : Option MMOInfo :=
  mmoDetectCustom opened reply claimed
    { baud := mmoBaud, id := { version := 0, product := Vector.replicate 8 0, serial := 0 } }

def hexDigit (digit : Nat) : Byte :=
  if digit < 10 then BitVec.ofNat 8 (0x30 + digit) else BitVec.ofNat 8 (0x41 + (digit - 10))

/-- `"%08X"`. -/
def formatX (value : Word) : List Byte :=
  (List.range 8).reverse.map fun place => hexDigit (value.toNat / 16 ^ place % 16)

/-- `strlen(info->id.product)`, which does not know where the field ends. -/
def MMOInfo.productLength (info : MMOInfo) : Nat :=
  strlen 0 (info.bytes.drop productOffset)

/-- The places of the record that `memcpy` reads. -/
def MMOInfo.copiedOffsets (info : MMOInfo) : List Nat :=
  (List.range info.productLength).map (productOffset + ·)

/-- The stores of `memcpy` and of `sprintf` with its terminator, as indices of
`before`. -/
def MMOInfo.statlineStores (info : MMOInfo) : List (Store Byte) :=
  storesAt 0 (info.copiedOffsets.map (info.bytes.getD · 0)) ++
    storesAt (info.productLength + 1) (formatX info.id.serial ++ [0])

/-- The initial `before`: sixteen blanks and the terminator. -/
def blankLine : List Byte := List.replicate 16 0x20 ++ [0]

/-- What `mmo_statline` prints, when every store of it stays inside `before`. -/
def mmoStatline (deviceData : Option MMOInfo) : Option (List Byte) :=
  match deviceData with
  | none => some (text 0 blankLine)
  | some info => (storeAll blankLine info.statlineStores).map (text 0)

theorem mmoDetectCustom_eq_some {opened claimed : Bool} {reply : List Byte}
    {fresh info : MMOInfo} (accepted : mmoDetectCustom opened reply claimed fresh = some info) :
    reply.length = 14 ∧ info = { fresh with id := MMOIdentity.ofBuffer reply } := by
  simp only [mmoDetectCustom] at accepted
  split at accepted
  · cases accepted
  · split at accepted
    · cases accepted
    · next full =>
      split at accepted
      · cases accepted
      · cases accepted
        exact ⟨Decidable.not_not.mp full, rfl⟩

theorem product_ofBuffer {buffer : List Byte} (full : buffer.length = 14) :
    (MMOIdentity.ofBuffer buffer).product.toList = (buffer.drop 2).take 8 := by
  apply List.ext_getElem
  · simp [full]
  · intro index left right
    have bounded : index < 8 := by simpa using left
    have inside : 2 + index < buffer.length := by omega
    simp [MMOIdentity.ofBuffer, List.getElem?_eq_getElem inside]

theorem product_of_accepted {opened claimed : Bool} {reply : List Byte} {fresh info : MMOInfo}
    (accepted : mmoDetectCustom opened reply claimed fresh = some info) :
    info.id.product.toList = (reply.drop 2).take 8 := by
  obtain ⟨full, rfl⟩ := mmoDetectCustom_eq_some accepted
  exact product_ofBuffer full

theorem length_formatX (value : Word) : (formatX value).length = 8 := by
  simp [formatX]

theorem hexDigit_ne_zero {digit : Nat} (small : digit < 16) : hexDigit digit ≠ 0 := by
  have every : ∀ digit : Fin 16, hexDigit digit.val ≠ 0 := by decide
  exact every ⟨digit, small⟩

theorem zero_notMem_formatX (value : Word) : 0 ∉ formatX value := by
  intro member
  obtain ⟨place, -, zero⟩ := List.mem_map.mp member
  exact hexDigit_ne_zero (Nat.mod_lt _ (by decide)) zero

/-- What `strlen` can see: the product, then the serial number, then the padding. -/
theorem MMOInfo.drop_productOffset (info : MMOInfo) :
    info.bytes.drop productOffset =
      info.id.product.toList ++ (wordBytes info.id.serial ++ [0, 0, 0]) := by
  rfl

theorem MMOInfo.productLength_lt_iff (info : MMOInfo) :
    info.productLength < 8 ↔ 0 ∈ info.id.product.toList := by
  rw [productLength, drop_productOffset]
  have ends := strlen_append_lt_iff 0 info.id.product.toList
    (wordBytes info.id.serial ++ [0, 0, 0])
  rwa [Vector.length_toList] at ends

theorem MMOInfo.length_copied (info : MMOInfo) :
    (info.copiedOffsets.map (info.bytes.getD · 0)).length = info.productLength := by
  simp [copiedOffsets]

theorem MMOInfo.stores_inside_iff (info : MMOInfo) :
    (∀ one ∈ info.statlineStores, one.index < 17) ↔ info.productLength < 8 := by
  rw [statlineStores, List.forall_mem_append, storesAt_inside_iff, storesAt_inside_iff,
    length_copied, List.length_append, length_formatX, List.length_singleton]
  constructor
  · rintro ⟨-, formatted⟩
    rcases formatted with empty | formatted
    · exact absurd empty (List.append_ne_nil_of_right_ne_nil _ (List.cons_ne_nil _ _))
    · omega
  · intro short
    exact ⟨Or.inr (by omega), Or.inr (by omega)⟩

theorem MMOInfo.copied_inside {info : MMOInfo} (short : info.productLength < 8) {offset : Nat}
    (copied : offset ∈ info.copiedOffsets) :
    productOffset ≤ offset ∧ offset < productOffset + 8 := by
  obtain ⟨place, member, rfl⟩ := List.mem_map.mp copied
  have inside := List.mem_range.mp member
  omega

theorem mmoStatline_inside_iff {opened claimed : Bool} {reply : List Byte} {fresh info : MMOInfo}
    (accepted : mmoDetectCustom opened reply claimed fresh = some info) :
    ((∀ one ∈ info.statlineStores, one.index < 17) ∧
      ∀ offset ∈ info.copiedOffsets, productOffset ≤ offset ∧ offset < productOffset + 8) ↔
      0 ∈ (reply.drop 2).take 8 := by
  -- what leaves the array first is the formatted number; a copy that leaves the
  -- product field goes with it
  rw [info.stores_inside_iff, ← product_of_accepted accepted, ← info.productLength_lt_iff]
  constructor
  · rintro ⟨short, -⟩
    exact short
  · intro short
    exact ⟨short, fun offset copied => MMOInfo.copied_inside short copied⟩

/-- For the identity of the AvalonBTC firmware the line is just long enough. -/
theorem mmoStatline_inside_miniOne :
    ∃ info, mmoDetectOne true (0x49 :: AvalonBTC.identity) false = some info ∧
      ((∀ one ∈ info.statlineStores, one.index < 17) ∧
        ∀ offset ∈ info.copiedOffsets, productOffset ≤ offset ∧ offset < productOffset + 8) := by
  have accepted : mmoDetectOne true (0x49 :: AvalonBTC.identity) false = some
      ⟨mmoBaud, MMOIdentity.ofBuffer (0x49 :: AvalonBTC.identity)⟩ := rfl
  exact ⟨_, accepted, (mmoStatline_inside_iff accepted).mpr (by decide)⟩

/-- The identity of the firmware with an eighth letter in its product name; `strlen`
runs through the serial number as well. -/
def longProductReply : List Byte :=
  [0x49, 1, 0x4D, 0x69, 0x6E, 0x69, 0x4F, 0x6E, 0x65, 0x32] ++ wordBytes 0x20130712

theorem mmoStatline_outside :
    ∃ info, mmoDetectOne true longProductReply false = some info ∧
      (⟨21, 0⟩ : Store Byte) ∈ info.statlineStores ∧
      productOffset + 11 ∈ info.copiedOffsets := by
  refine ⟨_, rfl, ?_, ?_⟩
  · decide
  · decide

theorem mmoStatline_isSome_iff (info : MMOInfo) :
    (mmoStatline (some info)).isSome ↔ 0 ∈ info.id.product.toList := by
  rw [mmoStatline, Option.isSome_map, storeAll_isSome_iff, ← info.productLength_lt_iff]
  exact info.stores_inside_iff

theorem blankLine_split {length : Nat} (short : length < 8) :
    ∃ rest, blankLine = List.replicate length 0x20 ++ ([0x20] ++ rest) ∧ 9 ≤ rest.length := by
  refine ⟨List.replicate (15 - length) 0x20 ++ [0], ?_, ?_⟩
  · have blanks : 16 = length + (1 + (15 - length)) := by omega
    rw [blankLine, blanks, ← List.replicate_append_replicate,
      ← List.replicate_append_replicate, List.append_assoc, List.append_assoc]
    rfl
  · rw [List.length_append, List.length_replicate, List.length_singleton]
    omega

/-- A name that leaves room, the number behind it, and the blank between them
that is kept from the initial line. -/
theorem text_storeAll_blankLine {name digits : List Byte} (short : name.length < 8)
    (eight : digits.length = 8) (cleanName : 0 ∉ name) (cleanDigits : 0 ∉ digits) :
    (storeAll blankLine (storesAt 0 name ++ storesAt (name.length + 1) (digits ++ [0]))).map
      (text 0) = some (name ++ 0x20 :: digits) := by
  obtain ⟨rest, split, room⟩ := blankLine_split short
  have named : storeAll blankLine (storesAt 0 name) = some (name ++ ([0x20] ++ rest)) := by
    rw [split]
    exact storeAll_storesAt [] List.length_replicate ([0x20] ++ rest)
  have replaced : (rest.take 9).length = (digits ++ [0]).length := by
    rw [List.length_take, List.length_append, eight, List.length_singleton]
    omega
  have numbered := storeAll_storesAt (name ++ [0x20]) replaced (rest.drop 9)
  rw [List.take_append_drop, List.length_append, List.length_singleton,
    List.append_assoc] at numbered
  have clean : 0 ∉ name ++ 0x20 :: digits := by
    intro member
    rcases List.mem_append.mp member with inName | behind
    · exact cleanName inName
    · rcases List.mem_cons.mp behind with blank | inDigits
      · exact absurd blank (by decide)
      · exact cleanDigits inDigits
  rw [storeAll_append, named, Option.bind_some, numbered, Option.map_some]
  have ended := text_of_terminated clean (rest.drop 9)
  simpa using ended

theorem MMOInfo.copied_eq_text (info : MMOInfo) :
    info.copiedOffsets.map (info.bytes.getD · 0) = text 0 (info.bytes.drop productOffset) := by
  have ends : info.productLength ≤ (info.bytes.drop productOffset).length :=
    List.Sublist.length_le (List.takeWhile_sublist _)
  have inside : productOffset + info.productLength ≤ info.bytes.length := by
    rw [List.length_drop] at ends
    simp only [bytes, List.length_append, length_wordBytes, productOffset] at ends ⊢
    omega
  rw [text_eq_take, copiedOffsets, List.map_map]
  exact map_getD_range info.bytes productOffset inside 0

/-- What is printed of an accepted device whose product ends inside its field. -/
theorem mmoStatline_of_terminated {info : MMOInfo}
    (terminated : 0 ∈ info.id.product.toList) :
    mmoStatline (some info) =
      some (text 0 info.id.product.toList ++ 0x20 :: formatX info.id.serial) := by
  have short := info.productLength_lt_iff.mpr terminated
  have copied := info.copied_eq_text
  rw [info.drop_productOffset, text_append terminated] at copied
  rw [mmoStatline, MMOInfo.statlineStores, copied, ← info.length_copied, copied]
  rw [← info.length_copied, copied] at short
  exact text_storeAll_blankLine short (length_formatX _) (terminator_notMem_text _)
    (zero_notMem_formatX _)

/-- The firmware shows as its name and its date: `MiniOne 20130712`. -/
example : (mmoDetectOne true (0x49 :: AvalonBTC.identity) false).bind
    (fun info => mmoStatline (some info)) =
      some [0x4D, 0x69, 0x6E, 0x69, 0x4F, 0x6E, 0x65, 0x20,
        0x32, 0x30, 0x31, 0x33, 0x30, 0x37, 0x31, 0x32] := by
  decide

end MiniMiner.Bfgminer
