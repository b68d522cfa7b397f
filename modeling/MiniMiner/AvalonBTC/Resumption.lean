import MiniMiner.AvalonBTC.LineProperties
import MiniMiner.Bfgminer.CheckNonce

/-! What the words on the line are for. They hold the working variables after the
third round, so that the double hash of a header can be finished from them for any
nonce; what comes out is the driver's check of that nonce. -/

set_option autoImplicit false

namespace MiniMiner.AvalonBTC

open LittleEndian Preemption Sha256

/-- The twenty words of a task, by their places. -/
structure TaskWords where
  data : List Word
  midstate : Sha256.Working
  -- the working variables after three rounds
  resumed : Sha256.Working

def TaskWords.ofLine (words : List Word) : TaskWords :=
  -- the order in which `pushWork` sends the task
  let word := fun place => words.getD place 0
  { data := [word 2, word 3, word 4]
    midstate := ⟨word 10, word 11, word 12, word 13, word 14, word 15, word 16, word 17⟩
    resumed := ⟨word 18, word 5, word 6, word 10, word 7, word 8, word 9, word 14⟩ }

/-- The double hash of a header, from the fourth round on, ends in a zero word. -/
def TaskWords.golden (task : TaskWords) (nonce : Word) : Bool :=
  let block := Bfgminer.nonceBlock task.data nonce
  let hash1 := task.midstate.add (roundsFrom 3 task.resumed ((schedule block).drop 3))
  (digestState (hash1.words.flatMap bigEndianBytes)).h = 0

/-- The same from the port values of one task. -/
def lineGolden (code : List Byte) (nonce : Word) : Option Bool :=
  (dataWires.decode code).map fun bits => (TaskWords.ofLine (wordsOf 32 20 bits)).golden nonce

theorem toList_eq_ofFn {size : Nat} (words : Vector Word size) :
    words.toList = List.ofFn words.get := by
  apply List.ext_getElem
  · simp
  · intro index _ _
    simp only [Vector.getElem_toList, List.getElem_ofFn]
    rfl

theorem words_working (midstate : Vector Word 8) : (working midstate).words = midstate.toList :=
  (toList_eq_ofFn midstate).symm

theorem words_injective {left right : Sha256.Working} (same : left.words = right.words) :
    left = right := by
  cases left
  cases right
  simpa [Sha256.Working.words] using same

theorem ofLine_lineWords (task : WorkUnit) :
    TaskWords.ofLine task.lineWords =
      ⟨task.data.toList, working task.midstate,
        ⟨task.precalc.get 0, task.precalc.get 1, task.precalc.get 2, task.midstate.get 0,
          task.precalc.get 3, task.precalc.get 4, task.precalc.get 5, task.midstate.get 4⟩⟩ := by
  rw [WorkUnit.lineWords, toList_eq_ofFn task.data, toList_eq_ofFn task.precalc,
    toList_eq_ofFn task.midstate]
  rfl

theorem WorkUnit.Holds.resumed {task : WorkUnit} {bytes : List Byte} (holds : task.Holds bytes) :
    (TaskWords.ofLine task.lineWords).resumed =
      rounds (working task.midstate) task.data.toList := by
  have computed : task.precalc = precalcWords task.midstate task.data := by
    rw [holds.precalc (.replicate 6 0), asicPrecalc_eq_precalcWords]
  rw [ofLine_lineWords, computed]
  simp only [precalcWords, workingAfter, toList_eq_ofFn task.data]
  exact (rounds_three (working task.midstate) (task.data.get 0) (task.data.get 1)
    (task.data.get 2)).symm

theorem WorkUnit.Holds.golden {task : WorkUnit} {work : Bfgminer.Work}
    {library : Bfgminer.Library} {header : Bfgminer.Header} (holds : task.Holds work.payload)
    (standard : library.Standard) (prepares : work.Prepares header) (nonce : Word) :
    (TaskWords.ofLine task.lineWords).golden nonce =
      Bfgminer.mmoCheckNonce library header nonce := by
  obtain ⟨midstate, data⟩ := holds.words
  have state : working task.midstate = header.midstate := by
    apply words_injective
    rw [words_working, midstate, prepares.midstate]
  -- the first three words of the block are those of the task, whatever the nonce
  have few : task.data.toList.length ≤ 64 := by simp
  have hash := compress_resumed (working task.midstate) few
    ([nonce] ++ (0x80000000 :: (List.replicate 10 0 ++ [640])))
  rw [← Bfgminer.nonceBlock, Vector.length_toList, ← holds.resumed] at hash
  rw [standard.mmoCheckNonce_eq, ← state, ← prepares.words, ← data, hash, TaskWords.golden,
    ofLine_lineWords]

/-- Every port value that reaches the line belongs to a task and the tasks are those of
the executed works in order. The words of a task decide every nonce of the header that
its work was prepared from, as the driver does with the miner's `sha256`. -/
theorem line_decides_checkNonce (start : Device) (choices : Choices)
    (idle : (firmware.run choices (.start start)).idle = true) :
    ∃ codes, lineWrites (firmware.run choices (.start start)).history = codes.flatten ∧
      List.Forall₂
        (fun code payload =>
          (∃ midstate data, storedBytes midstate ++ storedBytes data = payload ∧
            CarriesTask code midstate data) ∧
          ∀ (library : Bfgminer.Library) (header : Bfgminer.Header) (work : Bfgminer.Work),
            library.Standard → work.Prepares header → work.payload = payload →
            ∀ nonce, lineGolden code nonce = some (Bfgminer.mmoCheckNonce library header nonce))
        codes (works (firmware.run choices (.start start)).history) := by
  obtain ⟨tasks, payloads, held, lined⟩ := onLine_of_idle start choices idle
  refine ⟨tasks.map (lineCode (start.portb &&& ~~~dataWires.both)), ?_, ?_⟩
  · rw [lined.writes, List.flatMap_def]
  · rw [lined.loads, List.forall₂_map_left_iff]
    refine held.imp fun task payload holds =>
      ⟨⟨task.midstate, task.data, holds.stored, holds.carriesTask start.portb⟩, ?_⟩
    rintro library header work standard prepares rfl nonce
    rw [lineGolden, decode_lineCode, Option.map_some, wordsOf_lineBits,
      holds.golden standard prepares nonce]

/-- A library that does what the names promise. -/
def standardLibrary : Bfgminer.Library where
  sha256 := digest
  swap32yes := List.map reverseBytes
  htobe32 := reverseBytes

/-- The first block of the chain, as the miner keeps it. -/
def firstHeader : Bfgminer.Header :=
  #v[0x00, 0x00, 0x00, 0x01, 0x00, 0x00, 0x00, 0x00, 0x00, 0x00, 0x00, 0x00, 0x00, 0x00, 0x00,
    0x00, 0x00, 0x00, 0x00, 0x00, 0x00, 0x00, 0x00, 0x00, 0x00, 0x00, 0x00, 0x00, 0x00, 0x00, 0x00,
    0x00, 0x00, 0x00, 0x00, 0x00, 0xfd, 0xed, 0xa3, 0x3b, 0xb2, 0x12, 0x7b, 0x7a, 0x3e, 0x2c, 0xc7,
    0x7a, 0x61, 0x8f, 0x76, 0x67, 0xc3, 0x1b, 0xc8, 0x7f, 0x32, 0x51, 0x8a, 0x88, 0xaa, 0xb8, 0x9f,
    0x3a, 0x4a, 0x5e, 0x1e, 0x4b, 0x49, 0x5f, 0xab, 0x29, 0x1d, 0x00, 0xff, 0xff]

def firstWork : Bfgminer.Work where
  midstate := #v[0x33, 0x9a, 0x90, 0xbc, 0xf0, 0xbf, 0x58, 0x63, 0x7d, 0xac, 0xcc, 0x90, 0xa8, 0xca, 0x59,
    0x1e, 0xe9, 0xd8, 0xc8, 0xc3, 0xc8, 0x03, 0x01, 0x4f, 0x36, 0x87, 0xb1, 0x96, 0x1b, 0xf9,
    0x19, 0x47]
  data := #v[0x4a, 0x5e, 0x1e, 0x4b, 0x49, 0x5f, 0xab, 0x29, 0x1d, 0x00, 0xff, 0xff]

def firstChoices : Choices :=
  .call (.usbData firstWork.sendbuf) :: .replicate 1400 .main

set_option maxRecDepth 10000 in
theorem line_decides_checkNonce_first :
    lineGolden (lineWrites (firmware.run firstChoices (.start boot)).history) 0x1dac2b7c =
      some true := by
  have run : (firmware.run firstChoices (.start boot)).idle = true ∧
      works (firmware.run firstChoices (.start boot)).history = [firstWork.payload] := by
    decide +kernel
  have prepares : firstWork.Prepares firstHeader := ⟨by decide +kernel, by decide +kernel⟩
  have found : Bfgminer.mmoCheckNonce standardLibrary firstHeader 0x1dac2b7c = true := by
    decide +kernel
  obtain ⟨codes, written, decided⟩ := line_decides_checkNonce boot firstChoices run.1
  rw [run.2] at decided
  obtain ⟨code, _, ⟨_, golden⟩, rest, rfl⟩ := List.forall₂_cons_right_iff.mp decided
  cases rest
  rw [written, List.flatten_singleton, golden standardLibrary firstHeader firstWork
    ⟨fun _ => rfl, fun _ => rfl, fun _ => rfl⟩ prepares rfl, found]

end MiniMiner.AvalonBTC
