import MiniMiner.XilinxFpgaProg.Frames

/-! Reassembly over the whole range of the length byte. Three sizes meet here: the
ring of 128 bytes, the frame size of 8 bits and the counter of 16 bits. -/

set_option autoImplicit false

namespace MiniMiner.XilinxFpgaProg

open LittleEndian Preemption

/-- What `serialAddByte` returns at each of these bytes. -/
def verdicts (serial : Serial) : List Byte → List Bool
  | [] => []
  | byte :: rest => (serialAddByte byte serial).1 :: verdicts (serialAddByte byte serial).2 rest

/-- The statics after these bytes, none of which is followed by `serialProcess`. -/
def fed (serial : Serial) : List Byte → Serial
  | [] => serial
  | byte :: rest => fed (serialAddByte byte serial).2 rest

variable (serial : Serial)

theorem buffer_serialAddByte (byte : Byte) (filled : 0 < serial.buffer.count.toNat) :
    (serialAddByte byte serial).2.buffer = serial.buffer.insert byte := by
  have nonzero : ¬ serial.buffer.getCount = 0 := by
    rw [getCount_eq_iff]
    exact Nat.ne_of_gt filled
  simp only [serialAddByte, nonzero, false_and, if_false]
  generalize (if serial.buffer.getCount = 1 then byte + 2 else serial.frameSize) = frameSize
  split <;> rfl

/-- Once a frame has begun, every byte goes into the ring. -/
theorem buffer_fed (bytes : List Byte) (filled : 0 < serial.buffer.count.toNat)
    (below : serial.buffer.count.toNat + bytes.length < 2 ^ 16) :
    (fed serial bytes).buffer = serial.buffer.insertAll bytes := by
  induction bytes generalizing serial with
  | nil => rfl
  | cons byte rest ih =>
      rw [List.length_cons] at below
      have added := buffer_serialAddByte serial byte filled
      have counted := serial.buffer.count_insert_of_lt byte (by omega)
      rw [← added] at counted
      have later := ih (serialAddByte byte serial).2 (by omega) (by omega)
      rw [added] at later
      exact later

theorem serialAddByte_pending (byte : Byte) (started : 2 ≤ serial.buffer.count.toNat)
    (below : serial.buffer.count.toNat + 1 < 2 ^ 16)
    (pending : serial.buffer.count.toNat + 1 ≠ serial.frameSize.toNat) :
    ∃ next, serialAddByte byte serial = (false, next) ∧
      next.buffer.count.toNat = serial.buffer.count.toNat + 1 ∧
      next.frameSize = serial.frameSize := by
  have added := serialAddByte_payload byte started below
  rw [if_neg pending] at added
  exact ⟨_, added, serial.buffer.count_insert_of_lt byte below, rfl⟩

/-- The payload of a frame whose size is ahead of the counter. -/
theorem verdicts_missing (front : List Byte) (last : Byte)
    (started : 2 ≤ serial.buffer.count.toNat)
    (missing : serial.buffer.count.toNat + front.length + 1 = serial.frameSize.toNat) :
    verdicts serial (front ++ [last]) = List.replicate front.length false ++ [true] := by
  have small := serial.frameSize.isLt
  induction front generalizing serial with
  | nil =>
      rw [List.length_nil, Nat.add_zero] at missing
      have added := serialAddByte_payload last started (by omega)
      rw [if_pos missing] at added
      simp only [List.nil_append, verdicts, added, List.length_nil, List.replicate_zero]
  | cons byte front ih =>
      rw [List.length_cons] at missing
      obtain ⟨next, added, counted, frameSize⟩ :=
        serialAddByte_pending serial byte started (by omega) (by omega)
      rw [← frameSize] at missing small
      have later := ih next (by omega) (by omega) small
      simp only [List.cons_append, verdicts, added, later, List.length_cons, List.replicate_succ]

/-- The payload of a frame whose size has been passed by the counter. -/
theorem verdicts_passed (rest : List Byte) (started : 2 ≤ serial.buffer.count.toNat)
    (passed : serial.frameSize.toNat ≤ serial.buffer.count.toNat)
    (below : serial.buffer.count.toNat + rest.length < 2 ^ 16) :
    verdicts serial rest = List.replicate rest.length false := by
  induction rest generalizing serial with
  | nil => rfl
  | cons byte rest ih =>
      rw [List.length_cons] at below
      obtain ⟨next, added, counted, frameSize⟩ :=
        serialAddByte_pending serial byte started (by omega) (by omega)
      rw [← frameSize] at passed
      have later := ih next (by omega) (by omega) (by omega)
      simp only [verdicts, added, later, List.length_cons, List.replicate_succ]

section Frame

variable {serial : Serial} {cmd : Byte} {payload : List Byte}

theorem serialAddByte_opening (empty : serial.buffer.count.toNat = 0)
    (cleared : serial.frameSize = 0) (command : cmd < serialEndCommands) :
    ∃ opened, serialAddByte cmd serial = (false, opened) ∧
      opened.buffer = serial.buffer.insert cmd ∧ opened.buffer.count.toNat = 1 := by
  have begun := serialAddByte_command empty command
  rw [if_neg (by rw [cleared]; decide)] at begun
  have counted := serial.buffer.count_insert_of_lt cmd (by omega)
  rw [empty] at counted
  exact ⟨_, begun, rfl, counted⟩

/-- The ring after a frame, whether or not the frame was reported complete. -/
theorem buffer_fed_frame (empty : serial.buffer.count.toNat = 0) (cleared : serial.frameSize = 0)
    (command : cmd < serialEndCommands) (sized : payload.length < 256) :
    (fed serial (frameBytes cmd payload)).buffer =
      serial.buffer.insertAll (frameBytes cmd payload) := by
  obtain ⟨opened, begun, first, one⟩ := serialAddByte_opening empty cleared command
  have later := buffer_fed opened (BitVec.ofNat 8 payload.length :: payload) (by omega)
    (by rw [List.length_cons]; omega)
  rw [first] at later
  rw [frameBytes, fed, begun]
  exact later

theorem verdicts_header (empty : serial.buffer.count.toNat = 0) (cleared : serial.frameSize = 0)
    (command : cmd < serialEndCommands) : verdicts serial (frameBytes cmd []) = [false, true] := by
  obtain ⟨opened, begun, -, one⟩ := serialAddByte_opening empty cleared command
  have measured := serialAddByte_length 0 one
  rw [if_pos rfl] at measured
  show verdicts serial [cmd, 0] = _
  simp only [verdicts, begun, measured]

/-- The header leaves the payload to be counted against an 8-bit sum. -/
theorem verdicts_frame (empty : serial.buffer.count.toNat = 0) (cleared : serial.frameSize = 0)
    (command : cmd < serialEndCommands) (sized : payload.length < 256)
    (nonempty : payload.length ≠ 0) :
    ∃ header, verdicts serial (frameBytes cmd payload) = false :: false :: verdicts header payload ∧
      header.buffer.count.toNat = 2 ∧ header.frameSize.toNat = (payload.length + 2) % 256 := by
  obtain ⟨opened, begun, -, one⟩ := serialAddByte_opening empty cleared command
  have length : (BitVec.ofNat 8 payload.length).toNat = payload.length := by
    rw [BitVec.toNat_ofNat]
    exact Nat.mod_eq_of_lt sized
  have nonzero : BitVec.ofNat 8 payload.length ≠ 0 := by
    intro zero
    rw [zero] at length
    exact nonempty length.symm
  have measured := serialAddByte_length (BitVec.ofNat 8 payload.length) one
  rw [if_neg nonzero] at measured
  have two := opened.buffer.count_insert_of_lt (BitVec.ofNat 8 payload.length) (by omega)
  rw [one] at two
  have size : (BitVec.ofNat 8 payload.length + 2).toNat = (payload.length + 2) % 256 := by
    rw [BitVec.toNat_add, length]
    rfl
  refine ⟨⟨opened.buffer.insert (BitVec.ofNat 8 payload.length),
    BitVec.ofNat 8 payload.length + 2⟩, ?_, two, size⟩
  simp only [frameBytes, verdicts, begun, measured]

/-- The last byte completes the frame exactly if the sum has not wrapped. -/
theorem verdicts_frame_iff (empty : serial.buffer.count.toNat = 0) (cleared : serial.frameSize = 0)
    (command : cmd < serialEndCommands) (sized : payload.length < 256) :
    verdicts serial (frameBytes cmd payload) =
        List.replicate (payload.length + 1) false ++ [true] ↔
      payload.length ≤ 253 := by
  rcases List.eq_nil_or_concat' payload with rfl | ⟨front, last, rfl⟩
  · rw [verdicts_header empty cleared command]
    simp
  · obtain ⟨header, split, two, size⟩ :=
      verdicts_frame empty cleared command sized (by simp)
    rw [split]
    rw [List.length_append, List.length_singleton] at sized size ⊢
    constructor
    · intro complete
      by_contra wrapped
      -- lengths of 254 and 255 give sizes of 0 and 1, which the counter has passed
      have never := verdicts_passed header (front ++ [last]) two.ge (by omega)
        (by rw [List.length_append, List.length_singleton]; omega)
      have member : true ∈ false :: false :: verdicts header (front ++ [last]) := by
        rw [complete]
        exact List.mem_append_right _ (List.mem_singleton_self true)
      rw [never] at member
      simp at member
    · intro short
      rw [verdicts_missing header front last two.ge (by omega)]
      rfl

theorem removed_eq_contents {size : Nat} {ring : RingBuffer size} {times : Nat}
    (counted : ring.count.toNat = times) : ring.removed times = ring.contents := by
  rw [(ring.removed_of_le counted.ge).1, List.take_of_length_le]
  rw [RingBuffer.length_contents]
  exact counted.le

/-- What `serialProcess` takes from the ring is the frame exactly if the frame is
there and its command takes all of it. -/
theorem processed_eq_iff (command : cmd < serialEndCommands) (sized : payload.length < 256)
    (counted : serial.buffer.count.toNat = payload.length + 2) :
    serial.processed = frameBytes cmd payload ↔
      serial.buffer.removed (payload.length + 2) = frameBytes cmd payload ∧
        TakesLength cmd payload.length := by
  have header (whole : serial.buffer.removed (payload.length + 2) = frameBytes cmd payload) :
      serial.processed =
        serial.buffer.removed (2 + consumed cmd (BitVec.ofNat 8 payload.length)) := by
    rw [removed_eq_contents counted] at whole
    obtain ⟨-, first, others⟩ := RingBuffer.peek_of_contents whole
    obtain ⟨-, second, -⟩ := RingBuffer.peek_of_contents others
    rw [Serial.processed, first, second]
  rw [takesLength_iff command sized]
  constructor
  · intro processed
    have length := congrArg List.length processed
    rw [Serial.processed, RingBuffer.length_removed] at length
    have whole : serial.buffer.removed (payload.length + 2) = frameBytes cmd payload := by
      rw [← processed, Serial.processed, length]
      rfl
    refine ⟨whole, ?_⟩
    have lengths := congrArg List.length ((header whole).symm.trans processed)
    rw [RingBuffer.length_removed] at lengths
    change 2 + _ = payload.length + 2 at lengths
    omega
  · rintro ⟨whole, takes⟩
    rw [header whole, takes, Nat.add_comm]
    exact whole

/-- From the empty state, a frame is reported complete at its last byte and can be
taken from the ring as it came exactly if its length leaves the 8-bit sum below its
range and every byte that lies one turn of the ring before another is equal to it;
this is what `serialProcess` takes exactly if the command takes its length. -/
theorem frame_reassembled_iff (empty : serial.buffer.count = 0) (cleared : serial.frameSize = 0)
    (command : cmd < serialEndCommands) (sized : payload.length < 256) :
    ((verdicts serial (frameBytes cmd payload) =
          List.replicate (payload.length + 1) false ++ [true] ∧
        (fed serial (frameBytes cmd payload)).buffer.removed (payload.length + 2) =
          frameBytes cmd payload) ↔
      payload.length ≤ 253 ∧ ∀ index, index + 128 < payload.length + 2 →
        (frameBytes cmd payload)[index]? = (frameBytes cmd payload)[index + 128]?) ∧
    ((verdicts serial (frameBytes cmd payload) =
          List.replicate (payload.length + 1) false ++ [true] ∧
        (fed serial (frameBytes cmd payload)).processed = frameBytes cmd payload) ↔
      (payload.length ≤ 253 ∧ ∀ index, index + 128 < payload.length + 2 →
        (frameBytes cmd payload)[index]? = (frameBytes cmd payload)[index + 128]?) ∧
      TakesLength cmd payload.length) := by
  have none : serial.buffer.count.toNat = 0 := congrArg BitVec.toNat empty
  have length : (frameBytes cmd payload).length = payload.length + 2 := rfl
  have ring := buffer_fed_frame none cleared command sized
  have counted : (fed serial (frameBytes cmd payload)).buffer.count.toNat =
      payload.length + 2 := by
    rw [ring, RingBuffer.count_insertAll _ _ (by omega), none, Nat.zero_add, length]
  have held := serial.buffer.contents_insertAll_iff none (by omega :
    (frameBytes cmd payload).length < 2 ^ 16)
  rw [← ring, ← removed_eq_contents counted] at held
  rw [processed_eq_iff command sized counted, verdicts_frame_iff none cleared command sized, held,
    and_assoc]
  exact ⟨Iff.rfl, Iff.rfl⟩

end Frame

theorem frame_reassembled_usartData :
    verdicts boot.serial (frameBytes serialUsartData [0x11, 0x22]) = [false, false, false, true] ∧
      (fed boot.serial (frameBytes serialUsartData [0x11, 0x22])).processed =
        frameBytes serialUsartData [0x11, 0x22] := by
  refine (frame_reassembled_iff rfl rfl (by decide) (by decide)).2.mpr ⟨⟨?_, ?_⟩, ?_⟩
  · decide
  · intro index inside
    change index + 128 < 4 at inside
    omega
  · decide

/-- With 127 payload bytes the last one takes the place of the command, and with
254 the frame size is 0. -/
theorem frame_not_reassembled :
    (fed boot.serial (frameBytes serialDownloadData (List.replicate 127 0))).buffer.peek = 0 ∧
      (fed boot.serial (frameBytes serialDownloadData (List.replicate 127 0))).buffer.removed 129 ≠
        frameBytes serialDownloadData (List.replicate 127 0) ∧
      (fed boot.serial (frameBytes serialDownloadData (List.replicate 127 0))).processed ≠
        frameBytes serialDownloadData (List.replicate 127 0) ∧
      verdicts boot.serial (frameBytes serialDownloadData (List.replicate 254 0)) =
        List.replicate 256 false := by
  refine ⟨?_, ?_, ?_, ?_⟩
  · decide +kernel
  · decide +kernel
  · decide +kernel
  · decide +kernel

end MiniMiner.XilinxFpgaProg
