import Mathlib.Tactic.IntervalCases

/-! The round function of the SHA-256 compression function as FIPS 180-4 states
it, over 32-bit words with addition modulo `2 ^ 32`. -/

set_option autoImplicit false

namespace MiniMiner.Sha256

/-- The eight working variables. -/
@[ext] structure Working where
  a : BitVec 32
  b : BitVec 32
  c : BitVec 32
  d : BitVec 32
  e : BitVec 32
  f : BitVec 32
  g : BitVec 32
  h : BitVec 32
  deriving DecidableEq

def ch (x y z : BitVec 32) : BitVec 32 := (x &&& y) ^^^ (~~~x &&& z)

def maj (x y z : BitVec 32) : BitVec 32 := (x &&& y) ^^^ (x &&& z) ^^^ (y &&& z)

def bigSigma0 (x : BitVec 32) : BitVec 32 :=
  x.rotateRight 2 ^^^ x.rotateRight 13 ^^^ x.rotateRight 22

def bigSigma1 (x : BitVec 32) : BitVec 32 :=
  x.rotateRight 6 ^^^ x.rotateRight 11 ^^^ x.rotateRight 25

/-- The first thirty-two bits of the fractional parts of the cube roots of the
first sixty-four primes. -/
def roundConstants : Vector (BitVec 32) 64 := #v[
  0x428a2f98, 0x71374491, 0xb5c0fbcf, 0xe9b5dba5, 0x3956c25b, 0x59f111f1, 0x923f82a4, 0xab1c5ed5,
  0xd807aa98, 0x12835b01, 0x243185be, 0x550c7dc3, 0x72be5d74, 0x80deb1fe, 0x9bdc06a7, 0xc19bf174,
  0xe49b69c1, 0xefbe4786, 0x0fc19dc6, 0x240ca1cc, 0x2de92c6f, 0x4a7484aa, 0x5cb0a9dc, 0x76f988da,
  0x983e5152, 0xa831c66d, 0xb00327c8, 0xbf597fc7, 0xc6e00bf3, 0xd5a79147, 0x06ca6351, 0x14292967,
  0x27b70a85, 0x2e1b2138, 0x4d2c6dfc, 0x53380d13, 0x650a7354, 0x766a0abb, 0x81c2c92e, 0x92722c85,
  0xa2bfe8a1, 0xa81a664b, 0xc24b8b70, 0xc76c51a3, 0xd192e819, 0xd6990624, 0xf40e3585, 0x106aa070,
  0x19a4c116, 0x1e376c08, 0x2748774c, 0x34b0bcb5, 0x391c0cb3, 0x4ed8aa4a, 0x5b9cca4f, 0x682e6ff3,
  0x748f82ee, 0x78a5636f, 0x84c87814, 0x8cc70208, 0x90befffa, 0xa4506ceb, 0xbef9a3f7, 0xc67178f2]

/-- One round with its constant and its message word. -/
def round (constant message : BitVec 32) (before : Working) : Working :=
  let t1 := before.h + bigSigma1 before.e + ch before.e before.f before.g + constant + message
  let t2 := bigSigma0 before.a + maj before.a before.b before.c
  { a := t1 + t2, b := before.a, c := before.b, d := before.c
    e := before.d + t1, f := before.e, g := before.f, h := before.g }

/-- The working variables after the first rounds of the compression, one round
for each message word given. -/
def rounds (initial : Working) (messages : List (BitVec 32)) : Working :=
  (roundConstants.toList.zip messages).foldl (fun state pair => round pair.1 pair.2 state) initial

/-- The selection written with one conjunction. -/
theorem ch_eq_xor_and (x y z : BitVec 32) : ch x y z = z ^^^ ((y ^^^ z) &&& x) := by
  apply BitVec.eq_of_getLsbD_eq
  intro index bound
  simp only [ch, BitVec.getLsbD_xor, BitVec.getLsbD_and, BitVec.getLsbD_not, bound,
    decide_true, Bool.true_and]
  cases x.getLsbD index <;> cases y.getLsbD index <;> cases z.getLsbD index <;> rfl

/-- The majority written with disjunctions. -/
theorem maj_eq_or_and (x y z : BitVec 32) : maj x y z = (z &&& (x ||| y)) ||| (x &&& y) := by
  apply BitVec.eq_of_getLsbD_eq
  intro index _
  simp only [maj, BitVec.getLsbD_xor, BitVec.getLsbD_and, BitVec.getLsbD_or]
  cases x.getLsbD index <;> cases y.getLsbD index <;> cases z.getLsbD index <;> rfl

end MiniMiner.Sha256
