import MiniMiner.LittleEndian
import MiniMiner.Sha256

/-! The whole of SHA-256 over byte strings: message schedule, compression,
padding. A compression can be resumed after any number of rounds from the working
variables reached there. -/

set_option autoImplicit false

namespace MiniMiner.Sha256

open LittleEndian

def smallSigma0 (x : BitVec 32) : BitVec 32 :=
  x.rotateRight 7 ^^^ x.rotateRight 18 ^^^ (x >>> 3)

def smallSigma1 (x : BitVec 32) : BitVec 32 :=
  x.rotateRight 17 ^^^ x.rotateRight 19 ^^^ (x >>> 10)

/-- The word that follows at least sixteen words of a message schedule. -/
def nextWord (words : List (BitVec 32)) : BitVec 32 :=
  smallSigma1 (words.getD (words.length - 2) 0) + words.getD (words.length - 7) 0 +
    smallSigma0 (words.getD (words.length - 15) 0) + words.getD (words.length - 16) 0

def extend : Nat → List (BitVec 32) → List (BitVec 32)
  | 0, words => words
  | more + 1, words => extend more (words ++ [nextWord words])

def schedule (block : List (BitVec 32)) : List (BitVec 32) := extend 48 block

/-- The rounds after the first `done` ones. -/
def roundsFrom (done : Nat) (state : Working) (messages : List (BitVec 32)) : Working :=
  ((roundConstants.toList.drop done).zip messages).foldl
    (fun state pair => round pair.1 pair.2 state) state

def Working.add (left right : Working) : Working where
  a := left.a + right.a
  b := left.b + right.b
  c := left.c + right.c
  d := left.d + right.d
  e := left.e + right.e
  f := left.f + right.f
  g := left.g + right.g
  h := left.h + right.h

def Working.words (state : Working) : List (BitVec 32) :=
  [state.a, state.b, state.c, state.d, state.e, state.f, state.g, state.h]

def compress (state : Working) (block : List (BitVec 32)) : Working :=
  state.add (rounds state (schedule block))

def initialState : Working :=
  ⟨0x6a09e667, 0xbb67ae85, 0x3c6ef372, 0xa54ff53a, 0x510e527f, 0x9b05688c, 0x1f83d9ab, 0x5be0cd19⟩

def bigEndianBytes (word : Word) : List Byte :=
  [byteOf word 3, byteOf word 2, byteOf word 1, byteOf word 0]

def bigEndianWords : List Byte → List Word
  | byte3 :: byte2 :: byte1 :: byte0 :: rest =>
      ofBytes byte0 byte1 byte2 byte3 :: bigEndianWords rest
  | _ => []

/-- A one bit, zeros, and the length of the message in bits. -/
def padding (length : Nat) : List Byte :=
  0x80 :: (List.replicate ((119 - length % 64) % 64) 0 ++
    (List.range 8).reverse.map fun place => BitVec.ofNat 8 (8 * length / 256 ^ place))

def absorb : Nat → Working → List Word → Working
  | 0, state, _ => state
  | blocks + 1, state, words => absorb blocks (compress state (words.take 16)) (words.drop 16)

def digestState (message : List Byte) : Working :=
  let words := bigEndianWords (message ++ padding message.length)
  absorb (words.length / 16) initialState words

def digest (message : List Byte) : List Byte :=
  (digestState message).words.flatMap bigEndianBytes

theorem extend_eq_append (more : Nat) (words : List (BitVec 32)) :
    ∃ rest, extend more words = words ++ rest := by
  induction more generalizing words with
  | zero => exact ⟨[], (List.append_nil words).symm⟩
  | succ more ih =>
      obtain ⟨rest, extended⟩ := ih (words ++ [nextWord words])
      exact ⟨nextWord words :: rest, by simpa [extend] using extended⟩

theorem zip_roundConstants {first : List (BitVec 32)} (few : first.length ≤ 64)
    (rest : List (BitVec 32)) :
    roundConstants.toList.zip (first ++ rest) =
      (roundConstants.toList.take first.length).zip first ++
        (roundConstants.toList.drop first.length).zip rest := by
  have counted : (roundConstants.toList.take first.length).length = first.length := by
    simpa using few
  rw [← List.zip_append counted, List.take_append_drop]

theorem rounds_append (initial : Working) {first : List (BitVec 32)}
    (few : first.length ≤ 64) (rest : List (BitVec 32)) :
    rounds initial (first ++ rest) = roundsFrom first.length (rounds initial first) rest := by
  have used := zip_roundConstants few []
  rw [List.append_nil, List.zip_nil_right, List.append_nil] at used
  rw [rounds, zip_roundConstants few, List.foldl_append, roundsFrom, rounds, used]

theorem compress_resumed (state : Working) {known : List (BitVec 32)} (few : known.length ≤ 64)
    (rest : List (BitVec 32)) :
    compress state (known ++ rest) =
      state.add (roundsFrom known.length (rounds state known)
        ((schedule (known ++ rest)).drop known.length)) := by
  obtain ⟨more, extended⟩ := extend_eq_append 48 (known ++ rest)
  rw [compress, schedule, extended, List.append_assoc, List.drop_left, rounds_append state few]

/-- What three rounds leave: the new `a` and `e` of each, and what is moved down. -/
theorem rounds_three (state : Working) (first second third : BitVec 32) :
    rounds state [first, second, third] =
      ⟨(rounds state [first, second, third]).a, (rounds state [first, second]).a,
        (rounds state [first]).a, state.a, (rounds state [first, second, third]).e,
        (rounds state [first, second]).e, (rounds state [first]).e, state.e⟩ := rfl

theorem flatMap_bigEndianBytes (words : List Word) :
    words.flatMap bigEndianBytes = (words.map reverseBytes).flatMap wordBytes := by
  have reversed : ∀ word, wordBytes (reverseBytes word) = bigEndianBytes word :=
    fun word => wordBytes_ofBytes _ _ _ _
  simp only [List.flatMap_map, reversed]

theorem bigEndianWords_flatMap_append (words : List Word) (rest : List Byte) :
    bigEndianWords (words.flatMap bigEndianBytes ++ rest) = words ++ bigEndianWords rest := by
  induction words with
  | nil => rfl
  | cons word words ih =>
      simp only [List.flatMap_cons, bigEndianBytes, List.cons_append, List.nil_append,
        bigEndianWords, ofBytes_byteOf, ih]

theorem littleEndianWords_digest (message : List Byte) :
    littleEndianWords (digest message) = (digestState message).words.map reverseBytes := by
  rw [digest, flatMap_bigEndianBytes, littleEndianWords_flatMap]

/-- The digest of the three letters abc. -/
example : (digestState [0x61, 0x62, 0x63]).words =
    [0xba7816bf, 0x8f01cfea, 0x414140de, 0x5dae2223, 0xb00361a3, 0x96177a9c, 0xb410ff61,
      0xf20015ad] := by
  decide +kernel

end MiniMiner.Sha256
