import MiniMiner.Bfgminer.Driver
import MiniMiner.Sha256Digest

/-! `mmo_checkNonce` of `driver-miniminer1.c`: the double SHA-256 of a block header
with a nonce. The functions it calls are the miner's and the C library's, and so is
the preparation of a `struct work`; both enter as parameters, with what is assumed of
them stated beside them. -/

set_option autoImplicit false

namespace MiniMiner.Bfgminer

open LittleEndian Sha256

/-- What the driver calls. The lists hold as many bytes or words as the call passes. -/
structure Library where
  sha256 : List Byte → List Byte
  swap32yes : List Word → List Word
  htobe32 : Word → Word

/-- What their names promise on a little-endian host. -/
structure Library.Standard (library : Library) : Prop where
  sha256 : ∀ message, library.sha256 message = digest message
  swap32yes : ∀ words, library.swap32yes words = words.map reverseBytes
  htobe32 : ∀ word, library.htobe32 word = reverseBytes word

/-- The first 76 bytes of `work->data`. -/
abbrev Header := Vector Byte 76

/-- `data32`. -/
def Header.words (header : Header) : List Word := littleEndianWords header.toList

def mmoCheckNonce (library : Library) (header : Header) (nonce : Word) : Bool :=
  let swap32 := library.swap32yes header.words ++ [library.htobe32 nonce]
  let hash1 := library.sha256 (swap32.flatMap wordBytes)
  let hash2 := library.sha256 hash1
  (littleEndianWords hash2).getD 7 0 = 0

/-- The sixteen words of the block that holds the nonce. -/
def nonceBlock (data : List Word) (nonce : Word) : List Word :=
  data ++ ([nonce] ++ (0x80000000 :: (List.replicate 10 0 ++ [640])))

/-- The state after the block before it. -/
def Header.midstate (header : Header) : Working :=
  compress initialState (header.words.take 16)

/-- What the miner puts into a `struct work`: beside the header itself, the state of
its hash after the first block. -/
structure Work.Prepares (work : Work) (header : Header) : Prop where
  midstate : littleEndianWords work.midstate.toList = header.midstate.words
  data : work.data.toList = header.toList.drop 64

theorem Header.length_words (header : Header) : header.words.length = 19 :=
  length_littleEndianWords header.length_toList

theorem Work.Prepares.words {work : Work} {header : Header} (prepares : work.Prepares header) :
    littleEndianWords work.data.toList = header.words.drop 16 := by
  rw [prepares.data]
  exact littleEndianWords_drop 16 header.toList

/-- The eighty bytes that are hashed. -/
def Header.message (header : Header) (nonce : Word) : List Byte :=
  (header.words ++ [nonce]).flatMap bigEndianBytes

theorem Header.length_message (header : Header) (nonce : Word) :
    (header.message nonce).length = 80 := by
  rw [message, flatMap_bigEndianBytes, length_flatMap_wordBytes, List.length_map,
    List.length_append, header.length_words]
  rfl

theorem Header.bigEndianWords_message (header : Header) (nonce : Word) :
    bigEndianWords (header.message nonce ++ padding 80) =
      header.words.take 16 ++ nonceBlock (header.words.drop 16) nonce := by
  have padded : bigEndianWords (padding 80) = 0x80000000 :: (List.replicate 10 0 ++ [640]) := by
    decide
  rw [message, bigEndianWords_flatMap_append, padded, nonceBlock, ← List.append_assoc,
    List.take_append_drop, List.append_assoc]

theorem Header.digestState_message (header : Header) (nonce : Word) :
    digestState (header.message nonce) =
      compress header.midstate (nonceBlock (header.words.drop 16) nonce) := by
  have size : (header.words.take 16).length = 16 := by
    rw [List.length_take, header.length_words]
    rfl
  have rest : (nonceBlock (header.words.drop 16) nonce).length = 16 := by
    simp [nonceBlock, header.length_words]
  rw [digestState, header.length_message, header.bigEndianWords_message]
  simp only [List.length_append, size, rest, Nat.reduceAdd, Nat.reduceDiv, absorb]
  rw [List.take_left' size, List.drop_left' size, List.take_of_length_le rest.le]
  rfl

section

variable {library : Library} (standard : library.Standard)
include standard

theorem Library.Standard.swapped (header : Header) (nonce : Word) :
    (library.swap32yes header.words ++ [library.htobe32 nonce]).flatMap wordBytes =
      header.message nonce := by
  rw [standard.swap32yes, standard.htobe32, Header.message, flatMap_bigEndianBytes,
    List.map_append, List.map_singleton]

/-- The driver looks at the last word of the second digest. -/
theorem Library.Standard.mmoCheckNonce_eq (header : Header) (nonce : Word) :
    mmoCheckNonce library header nonce =
      decide ((digestState ((compress header.midstate
        (nonceBlock (header.words.drop 16) nonce)).words.flatMap bigEndianBytes)).h = 0) := by
  rw [← header.digestState_message]
  simp only [mmoCheckNonce, standard.swapped, standard.sha256, littleEndianWords_digest]
  -- the reversal of the last word does not matter for a test against zero
  exact decide_eq_decide.mpr (reverseBytes_eq_zero_iff _)

end

end MiniMiner.Bfgminer
