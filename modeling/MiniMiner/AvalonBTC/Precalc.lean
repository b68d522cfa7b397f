import MiniMiner.LittleEndian
import MiniMiner.Sha256

/-! `asicPrecalc` of `avalon.c`: the first three SHA-256 rounds, computed by the
firmware for the ASIC. -/

set_option autoImplicit false

namespace MiniMiner.AvalonBTC

open LittleEndian

def rotate (x : Word) (y : Nat) : Word := (x <<< y) ||| (x >>> (32 - y))

/-- `#define r(x) ((x-n)&7)`, in the 16-bit integers of the controller. -/
def r (n x : Nat) : Fin 8 :=
  Fin.ofNat 8 ((BitVec.ofNat 16 x - BitVec.ofNat 16 n) &&& 7#16).toNat

def K : Vector Word 3 := #v[0x428a2f98, 0x71374491, 0xb5c0fbcf]

/-- The words of a midstate as the working variables before the first round. -/
def working (m : Vector Word 8) : Sha256.Working :=
  ⟨m[0], m[1], m[2], m[3], m[4], m[5], m[6], m[7]⟩

/-- The two stores to `precalc` that end a pass. -/
def storePass (n : Fin 3) (precalc : Vector Word 6) (first second : Word) : Vector Word 6 :=
  (precalc.set (2 - n.val) first).set (5 - n.val) second

/-- One pass of the live loop. The registers are never shifted: `m[7-n]` and
`m[3-n]` are overwritten and the others are found through wrapped indices. -/
def precalcPass (data : Vector Word 3) (n : Fin 3) (m : Vector Word 8)
    (precalc : Vector Word 6) : Vector Word 8 × Vector Word 6 :=
  let x := m[5 - n.val] ^^^ m[6 - n.val]
  let x := x &&& m[4 - n.val]
  let x := m[6 - n.val] ^^^ x
  let x := x + K[n]
  let x := x + data[n]
  let x := x + m[7 - n.val]
  let y := rotate m[4 - n.val] 26
  let z := rotate m[4 - n.val] 21
  let z := y ^^^ z
  let y := rotate m[4 - n.val] 7
  let z := y ^^^ z
  let m := m.set (7 - n.val) (z + x)
  let m := m.set (3 - n.val) (m[3 - n.val] + m[7 - n.val])
  let x := rotate m[r n 0] 30
  let y := rotate m[r n 0] 19
  let y := y ^^^ x
  let x := rotate m[r n 0] 10
  let y := x ^^^ y
  let x := m[r n 0] ||| m[r n 1]
  let x := m[r n 2] &&& x
  let z := m[r n 0] &&& m[r n 1]
  let x := x ||| z
  let m := m.set (7 - n.val) (m[7 - n.val] + (y + x))
  (m, storePass n precalc m[7 - n.val] m[3 - n.val])

/-- The live branch. `precalc` is the output array; its old contents are
overwritten. -/
def asicPrecalc (midstate : Vector Word 8) (data : Vector Word 3) (precalc : Vector Word 6) :
    Vector Word 6 :=
  ((List.finRange 3).foldl (fun state n => precalcPass data n state.1 state.2)
    (midstate, precalc)).2

/-- One pass of the loop in the `#if 0` branch. -/
def precalcPlainPass (data : Vector Word 3) (n : Fin 3) (m : Vector Word 8)
    (precalc : Vector Word 6) : Vector Word 8 × Vector Word 6 :=
  let s1 := rotate m[4] 26 ^^^ rotate m[4] 21 ^^^ rotate m[4] 7
  let ch := (m[4] &&& m[5]) ^^^ (~~~m[4] &&& m[6])
  let t1 := m[7] + s1 + ch + K[n] + data[n]
  let s0 := rotate m[0] 30 ^^^ rotate m[0] 19 ^^^ rotate m[0] 10
  let maj := (m[0] &&& m[1]) ^^^ (m[0] &&& m[2]) ^^^ (m[1] &&& m[2])
  let t2 := s0 + maj
  let m := m.set 7 m[6]
  let m := m.set 6 m[5]
  let m := m.set 5 m[4]
  let m := m.set 4 (m[3] + t1)
  let m := m.set 3 m[2]
  let m := m.set 2 m[1]
  let m := m.set 1 m[0]
  let m := m.set 0 (t1 + t2)
  (m, storePass n precalc m[0] m[4])

/-- The `#if 0` branch. -/
def asicPrecalcPlain (midstate : Vector Word 8) (data : Vector Word 3)
    (precalc : Vector Word 6) : Vector Word 6 :=
  ((List.finRange 3).foldl (fun state n => precalcPlainPass data n state.1 state.2)
    (midstate, precalc)).2

end MiniMiner.AvalonBTC
