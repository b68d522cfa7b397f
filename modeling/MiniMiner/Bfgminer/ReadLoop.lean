import MiniMiner.AvalonBTC.Device
import MiniMiner.Bfgminer.Driver
import MiniMiner.Framing

/-! The loop of `mmo_scanhash` over a stream of replies. Each pass reads at most
seven bytes; a shorter read is thrown away, and a full one is taken for a reply
wherever it begins. -/

set_option autoImplicit false

namespace MiniMiner.Bfgminer

open LittleEndian

/-- A reply as the firmware sends it: a command byte and the packed state. -/
structure StateFrame where
  cmd : Byte
  state : AvalonBTC.State

def StateFrame.bytes (frame : StateFrame) : List Byte := frame.cmd :: frame.state.bytes

def StateFrame.mmoState (frame : StateFrame) : MMOState :=
  { state := frame.state.state, nonceValid := frame.state.nonceValid, nonce := frame.state.nonce }

theorem ofBuffer_bytes (frame : StateFrame) : MMOState.ofBuffer frame.bytes = frame.mmoState :=
  congrArg (MMOState.mk frame.state.state frame.state.nonceValid)
    (ofBytes_byteOf frame.state.nonce)

/-- What one pass of the loop meets: `thr->work_restart` in the loop condition, the
result of `restart_wait`, the bytes that come before the timeout of `serial_read`,
and `thr->work_restart` at the end. -/
structure Pass where
  restartBefore : Bool
  waited : Bool
  available : Nat
  restartAfter : Bool

inductive Event where
  /-- `mmo_scanhash` is called, unless a call is in its loop. -/
  | scanhash
  | pass (pass : Pass)

/-- Seven bytes that were taken for a reply, and where they began in the stream. -/
structure Window where
  offset : Nat
  buffer : List Byte
  deriving DecidableEq

structure Reading where
  scanning : Bool
  taken : Nat
  reads : List Nat
  windows : List Window
  /-- The arguments of `submit_nonce`. -/
  submitted : List Word
  returned : List Word
  deriving DecidableEq

namespace Reading

def start : Reading where
  scanning := false
  taken := 0
  reads := []
  windows := []
  submitted := []
  returned := []

/-- The loop is left, with this value in `nonce_count`. -/
def leave (reading : Reading) (nonceCount : Word) : Reading :=
  { reading with scanning := false, returned := reading.returned ++ [nonceCount] }

def read (reading : Reading) (buffer : List Byte) : Reading :=
  { reading with
    taken := reading.taken + buffer.length
    reads := reading.reads ++ [buffer.length]
    windows := if buffer.length = 7 then reading.windows ++ [⟨reading.taken, buffer⟩]
      else reading.windows }

def act (reading : Reading) : Outcome → Reading
  | .submitNonce nonce =>
      { reading.leave nonce with submitted := reading.submitted ++ [nonce] }
  | .exhausted => reading.leave 0xFFFFFFFF

def step (stream : List Byte) (reading : Reading) : Event → Reading
  | .scanhash => if reading.scanning then reading else { reading with scanning := true }
  | .pass pass =>
      if reading.scanning = false then reading
      else if pass.restartBefore ∨ ¬ pass.waited then reading.leave 0
      else
        let buffer := (stream.drop reading.taken).take (min pass.available 7)
        let next := reading.read buffer
        match if buffer.length = 7 then (MMOState.ofBuffer buffer).outcome else none with
        | some outcome => next.act outcome
        | none => if pass.restartAfter then next.leave 0 else next

/-- The calls of `mmo_scanhash` over the stream of these replies. -/
def after (sent : List StateFrame) (events : List Event) : Reading :=
  events.foldl (step (sent.flatMap StateFrame.bytes)) start

end Reading

/-- The window is one of the replies, and is taken apart into its state. -/
def Window.Coincides (sent : List StateFrame) (window : Window) : Prop :=
  7 ∣ window.offset ∧ ∃ frame, sent[window.offset / 7]? = some frame ∧
    MMOState.ofBuffer window.buffer = frame.mmoState

/-- The short reads before a full one add up to whole replies. -/
def Balanced : (short : Nat) → (reads : List Nat) → Prop
  | _, [] => True
  | short, read :: rest =>
      if read = 7 then 7 ∣ short ∧ Balanced 0 rest else Balanced (short + read) rest

def fullReads : (offset : Nat) → (reads : List Nat) → List Nat
  | _, [] => []
  | offset, read :: rest =>
      if read = 7 then offset :: fullReads (offset + read) rest else fullReads (offset + read) rest

theorem fullReads_append (offset : Nat) (reads : List Nat) (last : Nat) :
    fullReads offset (reads ++ [last]) =
      fullReads offset reads ++ if last = 7 then [offset + reads.sum] else [] := by
  induction reads generalizing offset with
  | nil => simp [fullReads]
  | cons read rest ih =>
      simp only [List.cons_append, fullReads, ih, List.sum_cons, ← Nat.add_assoc]
      split <;> rfl

/-- Only the position modulo the length of a reply matters. -/
theorem balanced_iff {offset short : Nat} (reads : List Nat) (same : offset % 7 = short % 7) :
    Balanced short reads ↔ ∀ position ∈ fullReads offset reads, 7 ∣ position := by
  induction reads generalizing offset short with
  | nil => simp [Balanced, fullReads]
  | cons read rest ih =>
      by_cases full : read = 7
      · have aligned : 7 ∣ short ↔ 7 ∣ offset := by omega
        rw [Balanced, if_pos full, fullReads, if_pos full, List.forall_mem_cons, aligned]
        refine and_congr_right fun whole => ih ?_
        omega
      · rw [Balanced, if_neg full, fullReads, if_neg full]
        refine ih ?_
        omega

/-- The record of the reads agrees with the stream, and nothing is submitted that
was not read in a window. -/
structure Tracks (stream : List Byte) (reading : Reading) : Prop where
  taken : reading.taken = reading.reads.sum
  offsets : reading.windows.map Window.offset = fullReads 0 reading.reads
  buffers : ∀ window ∈ reading.windows,
    window.buffer = (stream.drop window.offset).take 7 ∧ window.buffer.length = 7
  submitted : ∀ nonce ∈ reading.submitted, ∃ window ∈ reading.windows,
    (MMOState.ofBuffer window.buffer).outcome = some (.submitNonce nonce)

namespace Tracks

variable {stream : List Byte} {reading : Reading}

theorem leave (tracks : Tracks stream reading) (nonceCount : Word) :
    Tracks stream (reading.leave nonceCount) :=
  ⟨tracks.taken, tracks.offsets, tracks.buffers, tracks.submitted⟩

theorem read (tracks : Tracks stream reading) (available : Nat) :
    Tracks stream (reading.read ((stream.drop reading.taken).take (min available 7))) := by
  generalize received : (stream.drop reading.taken).take (min available 7) = buffer
  have taken : (reading.read buffer).taken = (reading.read buffer).reads.sum := by
    simp [Reading.read, tracks.taken]
  by_cases full : buffer.length = 7
  · have whole : buffer = (stream.drop reading.taken).take 7 := by
      have bounded := List.length_take_le (min available 7) (stream.drop reading.taken)
      rw [received, full] at bounded
      have enough : min available 7 = 7 := by omega
      rw [← received, enough]
    have windows : (reading.read buffer).windows = reading.windows ++ [⟨reading.taken, buffer⟩] :=
      if_pos full
    refine ⟨taken, ?_, ?_, ?_⟩
    · rw [windows, List.map_append, tracks.offsets]
      simp [Reading.read, fullReads_append, full, tracks.taken]
    · intro window member
      rw [windows] at member
      rcases List.mem_append.mp member with old | new
      · exact tracks.buffers window old
      · obtain rfl := List.mem_singleton.mp new
        exact ⟨whole, full⟩
    · intro nonce member
      obtain ⟨window, old, yields⟩ := tracks.submitted nonce member
      rw [windows]
      exact ⟨window, List.mem_append_left _ old, yields⟩
  · have windows : (reading.read buffer).windows = reading.windows := if_neg full
    refine ⟨taken, ?_, ?_, ?_⟩
    · rw [windows, tracks.offsets]
      simp [Reading.read, fullReads_append, full]
    · rw [windows]
      exact tracks.buffers
    · rw [windows]
      exact tracks.submitted

theorem act (tracks : Tracks stream reading) (window : Window) {outcome : Outcome}
    (member : window ∈ reading.windows)
    (yields : (MMOState.ofBuffer window.buffer).outcome = some outcome) :
    Tracks stream (reading.act outcome) := by
  cases outcome with
  | exhausted => exact tracks.leave _
  | submitNonce nonce =>
      refine ⟨tracks.taken, tracks.offsets, tracks.buffers, fun other submitted => ?_⟩
      rcases List.mem_append.mp submitted with old | new
      · exact tracks.submitted other old
      · obtain rfl := List.mem_singleton.mp new
        exact ⟨window, member, yields⟩

theorem step (tracks : Tracks stream reading) (event : Event) :
    Tracks stream (reading.step stream event) := by
  cases event with
  | scanhash =>
      simp only [Reading.step]
      split
      · exact tracks
      · exact ⟨tracks.taken, tracks.offsets, tracks.buffers, tracks.submitted⟩
  | pass pass =>
      simp only [Reading.step]
      split
      · exact tracks
      split
      · exact tracks.leave 0
      have advanced := tracks.read pass.available
      split
      · next outcome yields =>
          split at yields
          · next full =>
              refine advanced.act ⟨reading.taken, _⟩ ?_ yields
              simp [Reading.read, full]
          · cases yields
      · split
        · exact advanced.leave 0
        · exact advanced

end Tracks

theorem tracks_after (sent : List StateFrame) (events : List Event) :
    Tracks (sent.flatMap StateFrame.bytes) (Reading.after sent events) := by
  unfold Reading.after
  have initial : Tracks (sent.flatMap StateFrame.bytes) .start := ⟨rfl, rfl, nofun, nofun⟩
  generalize Reading.start = reading at initial
  induction events generalizing reading with
  | nil => exact initial
  | cons event rest ih => exact ih _ (initial.step event)

theorem Window.coincides_of_dvd {sent : List StateFrame} {window : Window}
    (buffer : window.buffer = ((sent.flatMap StateFrame.bytes).drop window.offset).take 7)
    (full : window.buffer.length = 7) (aligned : 7 ∣ window.offset) : window.Coincides sent := by
  refine ⟨aligned, ?_⟩
  have position := Nat.mul_div_cancel' aligned
  rw [← position] at buffer
  have sizes : ∀ bytes ∈ sent.map StateFrame.bytes, bytes.length = 7 := by
    intro bytes member
    obtain ⟨frame, _, rfl⟩ := List.mem_map.mp member
    rfl
  have enough : 7 * (window.offset / 7) + 7 ≤ (sent.map StateFrame.bytes).flatten.length := by
    have length := congrArg List.length buffer
    rw [full, List.length_take, List.length_drop, List.flatMap_def] at length
    omega
  have found := frame_of_window (by decide) (fun bytes member => (sizes bytes member).le)
    (fun _ _ bytes source => sizes bytes (List.mem_of_getElem? source)) (List.prefix_refl _) enough
  rw [← List.flatMap_def, ← buffer, List.getElem?_map] at found
  obtain ⟨frame, source, bytes⟩ := Option.map_eq_some_iff.mp found
  exact ⟨frame, source, by rw [← bytes, ofBuffer_bytes]⟩

/-- Every window is a reply exactly if the short reads before each full one add up
to whole replies, and then no nonce is submitted that the firmware has not sent. -/
theorem windows_coincide_iff (sent : List StateFrame) (events : List Event) :
    ((∀ window ∈ (Reading.after sent events).windows, window.Coincides sent) ↔
      Balanced 0 (Reading.after sent events).reads) ∧
    (Balanced 0 (Reading.after sent events).reads →
      ∀ nonce ∈ (Reading.after sent events).submitted, ∃ frame ∈ sent,
        frame.state.nonceValid = 1 ∧ frame.state.nonce = nonce) := by
  have tracks := tracks_after sent events
  generalize Reading.after sent events = reading at tracks ⊢
  have coincide : Balanced 0 reading.reads → ∀ window ∈ reading.windows,
      window.Coincides sent := by
    intro balanced window member
    obtain ⟨buffer, full⟩ := tracks.buffers window member
    refine Window.coincides_of_dvd buffer full ((balanced_iff _ rfl).mp balanced _ ?_)
    rw [← tracks.offsets]
    exact List.mem_map_of_mem member
  refine ⟨⟨fun coincides => (balanced_iff _ rfl).mpr fun position member => ?_, coincide⟩, ?_⟩
  · rw [← tracks.offsets] at member
    obtain ⟨window, source, rfl⟩ := List.mem_map.mp member
    exact (coincides window source).1
  · intro balanced nonce submitted
    obtain ⟨window, member, yields⟩ := tracks.submitted nonce submitted
    obtain ⟨_, frame, source, decoded⟩ := coincide balanced window member
    refine ⟨frame, List.mem_of_getElem? source, ?_⟩
    rw [decoded] at yields
    unfold MMOState.outcome at yields
    split at yields
    · next valid =>
        injection yields with same
        injection same with same
        exact ⟨valid, same⟩
    · split at yields <;> cases yields

def goldenStream : List StateFrame :=
  [⟨0x53, ⟨0x52, 1, 0x04030201⟩⟩, ⟨0x57, ⟨0x57, 0, 0⟩⟩]

def quietPass (available : Nat) : Event := .pass ⟨false, true, available, false⟩

theorem windows_coincide_whole_read :
    (Reading.after goldenStream [.scanhash, quietPass 0, quietPass 7]).windows.length = 1 ∧
      ∀ window ∈ (Reading.after goldenStream [.scanhash, quietPass 0, quietPass 7]).windows,
        window.Coincides goldenStream := by
  refine ⟨by decide, (windows_coincide_iff goldenStream _).1.mpr ?_⟩
  exact ⟨by decide, trivial⟩

/-- The first read times out after one byte; the next one straddles both replies,
and a nonce is submitted that was never sent. -/
theorem straddling_window :
    ¬ (∀ sent events, ∀ window ∈ (Reading.after sent events).windows, window.Coincides sent) ∧
      (Reading.after goldenStream [.scanhash, quietPass 1, quietPass 7]).submitted =
        [0x57040302] := by
  refine ⟨fun coincide => ?_, by decide⟩
  have aligned := (coincide goldenStream [.scanhash, quietPass 1, quietPass 7] ⟨1, _⟩
    List.mem_cons_self).1
  revert aligned
  decide

end MiniMiner.Bfgminer
