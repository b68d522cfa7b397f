import MiniMiner.AvalonBTC.Precalc

/-! Both branches of `asicPrecalc` compute the first three rounds of SHA-256.
Each loop is read through the place where it keeps the working variables before
a pass; one pass is then one round, and the six output words are the new `a`
and `e` of the three rounds. -/

set_option autoImplicit false

namespace MiniMiner.AvalonBTC

open LittleEndian

private theorem get_eq_getElem {size : Nat} (words : Vector Word size) (index : Fin size) :
    words.get index = words[index.val] := rfl

private theorem rotate_eq_rotateRight (x : Word) (count : Nat) (bound : count < 32) :
    rotate x (32 - count) = x.rotateRight count := by
  rw [BitVec.rotateRight_def, Nat.mod_eq_of_lt bound, BitVec.or_comm, rotate]
  congr 2
  omega

private theorem rotations_eq_bigSigma1 (e : Word) :
    rotate e 26 ^^^ rotate e 21 ^^^ rotate e 7 = Sha256.bigSigma1 e := by
  rw [Sha256.bigSigma1, ← rotate_eq_rotateRight e 6 (by decide),
    ← rotate_eq_rotateRight e 11 (by decide), ← rotate_eq_rotateRight e 25 (by decide)]

private theorem rotations_eq_bigSigma0 (a : Word) :
    rotate a 30 ^^^ rotate a 19 ^^^ rotate a 10 = Sha256.bigSigma0 a := by
  rw [Sha256.bigSigma0, ← rotate_eq_rotateRight a 2 (by decide),
    ← rotate_eq_rotateRight a 13 (by decide), ← rotate_eq_rotateRight a 22 (by decide)]

/-- The working variables before pass `n`, for a loop that has moved its
registers down by `shift` places. -/
def registers (shift : Nat) (m : Vector Word 8) : Sha256.Working where
  a := m[r shift 0]
  b := m[r shift 1]
  c := m[r shift 2]
  d := m[r shift 3]
  e := m[r shift 4]
  f := m[r shift 5]
  g := m[r shift 6]
  h := m[r shift 7]

private theorem r_val {n x : Nat} (few : n ≤ 3) (inside : x < 8) :
    (r n x).val = (x + 8 - n) % 8 := by
  interval_cases n <;> interval_cases x <;> rfl

/-- A round in the order in which the live loop computes it. -/
private def liveRound (constant message : Word) (before : Sha256.Working) : Sha256.Working :=
  let t1 := (rotate before.e 7 ^^^ (rotate before.e 26 ^^^ rotate before.e 21)) +
    ((before.g ^^^ ((before.f ^^^ before.g) &&& before.e)) + constant + message + before.h)
  let t2 := (rotate before.a 10 ^^^ (rotate before.a 19 ^^^ rotate before.a 30)) +
    ((before.c &&& (before.a ||| before.b)) ||| (before.a &&& before.b))
  { a := t1 + t2, b := before.a, c := before.b, d := before.c
    e := before.d + t1, f := before.e, g := before.f, h := before.g }

private theorem liveRound_eq_round (constant message : Word) (before : Sha256.Working) :
    liveRound constant message before = Sha256.round constant message before := by
  have sigma1 : rotate before.e 7 ^^^ (rotate before.e 26 ^^^ rotate before.e 21) =
      Sha256.bigSigma1 before.e := by
    rw [← rotations_eq_bigSigma1, BitVec.xor_comm]
  have sigma0 : rotate before.a 10 ^^^ (rotate before.a 19 ^^^ rotate before.a 30) =
      Sha256.bigSigma0 before.a := by
    rw [← rotations_eq_bigSigma0, BitVec.xor_comm, BitVec.xor_comm (rotate before.a 19)]
  have t1 : Sha256.bigSigma1 before.e +
      (Sha256.ch before.e before.f before.g + constant + message + before.h) =
      before.h + Sha256.bigSigma1 before.e + Sha256.ch before.e before.f before.g +
        constant + message := by
    ac_rfl
  simp only [liveRound, Sha256.round, sigma1, sigma0, ← Sha256.ch_eq_xor_and,
    ← Sha256.maj_eq_or_and, t1]

/-- One pass of the live loop is one round on the renamed registers. -/
private theorem precalcPass_registers (data : Vector Word 3) (n : Fin 3) (m : Vector Word 8)
    (precalc : Vector Word 6) :
    registers (n.val + 1) (precalcPass data n m precalc).1 =
      Sha256.round (K.get n) (data.get n) (registers n.val m) := by
  rw [← liveRound_eq_round]
  -- the index arithmetic is closed once the pass number is known
  obtain rfl | rfl | rfl : n = 0 ∨ n = 1 ∨ n = 2 := by omega
  all_goals
    simp (disch := decide) [registers, precalcPass, liveRound, get_eq_getElem, Fin.getElem_fin,
      r_val]

private theorem precalcPass_precalc (data : Vector Word 3) (n : Fin 3) (m : Vector Word 8)
    (precalc : Vector Word 6) :
    (precalcPass data n m precalc).2 =
      storePass n precalc (registers (n.val + 1) (precalcPass data n m precalc).1).a
        (registers (n.val + 1) (precalcPass data n m precalc).1).e := by
  obtain rfl | rfl | rfl : n = 0 ∨ n = 1 ∨ n = 2 := by omega
  all_goals
    simp (disch := decide) [registers, precalcPass, Fin.getElem_fin, r_val]

/-- One pass of the plain loop is one round on registers that stay in place. -/
private theorem precalcPlainPass_registers (data : Vector Word 3) (n : Fin 3)
    (m : Vector Word 8) (precalc : Vector Word 6) :
    registers 0 (precalcPlainPass data n m precalc).1 =
      Sha256.round (K.get n) (data.get n) (registers 0 m) := by
  simp (disch := decide) [registers, precalcPlainPass, Sha256.round, get_eq_getElem,
    Fin.getElem_fin, r_val, rotations_eq_bigSigma1, rotations_eq_bigSigma0, Sha256.ch, Sha256.maj]

private theorem precalcPlainPass_precalc (data : Vector Word 3) (n : Fin 3)
    (m : Vector Word 8) (precalc : Vector Word 6) :
    (precalcPlainPass data n m precalc).2 =
      storePass n precalc (registers 0 (precalcPlainPass data n m precalc).1).a
        (registers 0 (precalcPlainPass data n m precalc).1).e := by
  simp (disch := decide) [registers, precalcPlainPass, Fin.getElem_fin, r_val]

/-- The working variables after the first `count` rounds. -/
def workingAfter (midstate : Vector Word 8) (data : Vector Word 3) (count : Nat) :
    Sha256.Working :=
  Sha256.rounds (working midstate) (data.toList.take count)

/-- The output words in terms of the working variables of the three rounds. -/
def precalcWords (midstate : Vector Word 8) (data : Vector Word 3) : Vector Word 6 :=
  #v[(workingAfter midstate data 3).a, (workingAfter midstate data 2).a,
    (workingAfter midstate data 1).a, (workingAfter midstate data 3).e,
    (workingAfter midstate data 2).e, (workingAfter midstate data 1).e]

private theorem registers_zero (m : Vector Word 8) (data : Vector Word 3) :
    registers 0 m = workingAfter m data 0 := rfl

private theorem workingAfter_succ (midstate : Vector Word 8) (data : Vector Word 3) (n : Fin 3) :
    workingAfter midstate data (n.val + 1) =
      Sha256.round (K.get n) (data.get n) (workingAfter midstate data n.val) := by
  obtain ⟨d0, d1, d2, rfl⟩ : ∃ d0 d1 d2, data = #v[d0, d1, d2] := by
    refine ⟨data[0], data[1], data[2], ?_⟩
    apply Vector.ext
    intro index bound
    interval_cases index <;> rfl
  obtain rfl | rfl | rfl : n = 0 ∨ n = 1 ∨ n = 2 := by omega
  · rfl
  · rfl
  · rfl

/-- A loop whose passes are rounds, wherever it keeps its registers, ends with
the six output words. -/
private theorem fold_passes (midstate : Vector Word 8) (data : Vector Word 3)
    (precalc : Vector Word 6) (shift : Nat → Nat)
    (pass : Fin 3 → Vector Word 8 → Vector Word 6 → Vector Word 8 × Vector Word 6)
    (start : shift 0 = 0)
    (rounds : ∀ n m output, registers (shift (n.val + 1)) (pass n m output).1 =
      Sha256.round (K.get n) (data.get n) (registers (shift n.val) m))
    (outputs : ∀ n m output, (pass n m output).2 =
      storePass n output (registers (shift (n.val + 1)) (pass n m output).1).a
        (registers (shift (n.val + 1)) (pass n m output).1).e) :
    ((List.finRange 3).foldl (fun state n => pass n state.1 state.2) (midstate, precalc)).2 =
      precalcWords midstate data := by
  have after1 : registers (shift 1) (pass 0 midstate precalc).1 =
      workingAfter midstate data 1 := by
    refine (rounds 0 midstate precalc).trans ((congrArg _ ?_).trans
      (workingAfter_succ midstate data 0).symm)
    exact (congrArg (registers · midstate) start).trans (registers_zero midstate data)
  have output1 : (pass 0 midstate precalc).2 =
      (precalc.set 2 (registers (shift 1) (pass 0 midstate precalc).1).a).set 5
        (registers (shift 1) (pass 0 midstate precalc).1).e := outputs 0 midstate precalc
  rw [after1] at output1
  generalize first : pass 0 midstate precalc = state1 at after1 output1
  have after2 : registers (shift 2) (pass 1 state1.1 state1.2).1 =
      workingAfter midstate data 2 :=
    (rounds 1 state1.1 state1.2).trans ((congrArg _ after1).trans
      (workingAfter_succ midstate data 1).symm)
  have output2 : (pass 1 state1.1 state1.2).2 =
      (state1.2.set 1 (registers (shift 2) (pass 1 state1.1 state1.2).1).a).set 4
        (registers (shift 2) (pass 1 state1.1 state1.2).1).e := outputs 1 state1.1 state1.2
  rw [after2] at output2
  generalize second : pass 1 state1.1 state1.2 = state2 at after2 output2
  have after3 : registers (shift 3) (pass 2 state2.1 state2.2).1 =
      workingAfter midstate data 3 :=
    (rounds 2 state2.1 state2.2).trans ((congrArg _ after2).trans
      (workingAfter_succ midstate data 2).symm)
  have output3 : (pass 2 state2.1 state2.2).2 =
      (state2.2.set 0 (registers (shift 3) (pass 2 state2.1 state2.2).1).a).set 3
        (registers (shift 3) (pass 2 state2.1 state2.2).1).e := outputs 2 state2.1 state2.2
  rw [after3] at output3
  have unfolded : ((List.finRange 3).foldl (fun state n => pass n state.1 state.2)
      (midstate, precalc)).2 = (pass 2 state2.1 state2.2).2 := by
    rw [← second, ← first]
    rfl
  rw [unfolded, output3, output2, output1]
  apply Vector.ext
  intro index bound
  interval_cases index <;> simp [precalcWords]

theorem asicPrecalc_eq_precalcWords (midstate : Vector Word 8) (data : Vector Word 3)
    (precalc : Vector Word 6) :
    asicPrecalc midstate data precalc = precalcWords midstate data :=
  fold_passes midstate data precalc id (precalcPass data) rfl (precalcPass_registers data)
    (precalcPass_precalc data)

private theorem asicPrecalcPlain_eq_precalcWords (midstate : Vector Word 8)
    (data : Vector Word 3) (precalc : Vector Word 6) :
    asicPrecalcPlain midstate data precalc = precalcWords midstate data :=
  fold_passes midstate data precalc (fun _ => 0) (precalcPlainPass data) rfl
    (precalcPlainPass_registers data) (precalcPlainPass_precalc data)

/-- The output of the live branch does not depend on the old output array. -/
theorem asicPrecalc_overwrites (midstate : Vector Word 8) (data : Vector Word 3)
    (precalc other : Vector Word 6) :
    asicPrecalc midstate data precalc = asicPrecalc midstate data other := by
  rw [asicPrecalc_eq_precalcWords, asicPrecalc_eq_precalcWords]

/-- The live branch, the plain branch and the first three rounds of the
standard agree on every midstate and every data, and together with two words of
the midstate the output is the complete state after those rounds. -/
theorem asicPrecalc_first_three_rounds (midstate : Vector Word 8) (data : Vector Word 3)
    (old : Vector Word 6) :
    let precalc := asicPrecalc midstate data old
    precalc = asicPrecalcPlain midstate data old ∧
      precalc = #v[(workingAfter midstate data 3).a, (workingAfter midstate data 2).a,
        (workingAfter midstate data 1).a, (workingAfter midstate data 3).e,
        (workingAfter midstate data 2).e, (workingAfter midstate data 1).e] ∧
      workingAfter midstate data 3 = ⟨precalc.get 0, precalc.get 1, precalc.get 2,
        midstate.get 0, precalc.get 3, precalc.get 4, precalc.get 5, midstate.get 4⟩ := by
  intro precalc
  have words : precalc = precalcWords midstate data := asicPrecalc_eq_precalcWords _ _ _
  refine ⟨?_, words, ?_⟩
  · rw [words, asicPrecalcPlain_eq_precalcWords]
  · rw [words]
    change workingAfter midstate data 3 = ⟨(workingAfter midstate data 3).a,
      (workingAfter midstate data 2).a, (workingAfter midstate data 1).a, midstate.get 0,
      (workingAfter midstate data 3).e, (workingAfter midstate data 2).e,
      (workingAfter midstate data 1).e, midstate.get 4⟩
    have round1 := workingAfter_succ midstate data 0
    have round2 := workingAfter_succ midstate data 1
    have round3 := workingAfter_succ midstate data 2
    simp only [Fin.val_zero, Fin.val_one, Fin.val_two] at round1 round2 round3
    have initial : workingAfter midstate data 0 = ⟨midstate.get 0, midstate.get 1,
        midstate.get 2, midstate.get 3, midstate.get 4, midstate.get 5, midstate.get 6,
        midstate.get 7⟩ := rfl
    -- every round moves `a`, `b`, `c` and `e`, `f`, `g` down by one place
    ext : 1
    · rfl
    all_goals simp [round1, round2, round3, initial, Sha256.round]

end MiniMiner.AvalonBTC
