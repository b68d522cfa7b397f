import Mathlib.Data.List.Induction
import MiniMiner.XilinxFpgaProg.Parser

/-! Frames. A frame of up to 126 payload bytes is reassembled whole, and executed
at its last byte; it is consumed exactly if its length is the one its command
takes. -/

set_option autoImplicit false

namespace MiniMiner.XilinxFpgaProg

open LittleEndian Preemption

/-- The lengths that a command takes. -/
def WellFormed (cmd : Byte) (size : Nat) : Prop :=
  (cmd ∈ [0, serialDownloadData, serialSpiData, serialUsartData] ∧ size ≤ 126) ∨
    (cmd = serialSpiSelect ∧ size = 1) ∨
    (cmd ∈ [serialStartConfig, serialUseUsart, serialUseSpi, serialFpgaReset, serialFpgaStart] ∧
      size = 0)

instance (cmd : Byte) (size : Nat) : Decidable (WellFormed cmd size) :=
  inferInstanceAs (Decidable (_ ∨ _ ∨ _))

def frameBytes (cmd : Byte) (payload : List Byte) : List Byte :=
  cmd :: BitVec.ofNat 8 payload.length :: payload

theorem lt_endCommands {cmd : Byte} (command : cmd < serialEndCommands) :
    cmd ∈ ([0, 1, 2, 3, 4, 5, 6, 7, 8, 9] : List Byte) := by
  revert cmd
  decide

/-- `WellFormed` for every length byte, whether or not the frame fits the ring. -/
def TakesLength (cmd : Byte) (size : Nat) : Prop :=
  cmd ∈ [0, serialDownloadData, serialSpiData, serialUsartData] ∨
    (cmd = serialSpiSelect ∧ size = 1) ∨
    (cmd ∈ [serialStartConfig, serialUseUsart, serialUseSpi, serialFpgaReset, serialFpgaStart] ∧
      size = 0)

instance (cmd : Byte) (size : Nat) : Decidable (TakesLength cmd size) :=
  inferInstanceAs (Decidable (_ ∨ _ ∨ _))

theorem takesLength_iff {cmd : Byte} {size : Nat} (command : cmd < serialEndCommands)
    (sized : size < 256) : TakesLength cmd size ↔ consumed cmd (BitVec.ofNat 8 size) = size := by
  have small : size % 256 = size := Nat.mod_eq_of_lt sized
  have cases := lt_endCommands command
  simp only [List.mem_cons, List.not_mem_nil, or_false] at cases
  rcases cases with rfl | rfl | rfl | rfl | rfl | rfl | rfl | rfl | rfl | rfl
  all_goals simp [TakesLength, consumed, serialStartConfig, serialDownloadData, serialSpiData,
    serialSpiSelect, serialUsartData, serialUseUsart, serialUseSpi, serialFpgaReset,
    serialFpgaStart, small, eq_comm]

theorem wellFormed_iff {cmd : Byte} {size : Nat} (command : cmd < serialEndCommands)
    (short : size ≤ 126) : WellFormed cmd size ↔ consumed cmd (BitVec.ofNat 8 size) = size := by
  rw [← takesLength_iff command (by omega), WellFormed, TakesLength, and_iff_left short]

theorem consumed_le (cmd size : Byte) : consumed cmd size ≤ max 1 size.toNat := by
  unfold consumed
  repeat' split
  all_goals omega

theorem Log.draw_of_ne (log : Log) {ring : RingBuffer 128} (filled : ring.count ≠ 0) :
    log.draw ring = log := by
  unfold draw
  rw [if_neg filled]
  rfl

/-- The bytes that `serialProcess` removes: the header it finds in the ring, and
what the command there takes. -/
def Serial.processed (serial : Serial) : List Byte :=
  serial.buffer.removed (2 + consumed serial.buffer.peek serial.buffer.remove.peek)

namespace View

variable {current : View}

theorem serial_take (current : View) (sink : Sink) (times : Nat) :
    (current.take sink times).serial =
      { current.serial with buffer := current.serial.buffer.removeMany times } := by
  induction times with
  | zero => rfl
  | succ times ih =>
      rw [take, draw, ih]
      rfl

theorem outputs_take (current : View) (sink : Sink) (times : Nat) :
    (current.take sink times).spi =
        current.spi ++ (if sink = .spi then current.serial.buffer.removed times else []) ∧
      (current.take sink times).usart =
        current.usart ++ (if sink = .usart then current.serial.buffer.removed times else []) := by
  induction times with
  | zero => simp [take, RingBuffer.removed]
  | succ times ih =>
      obtain ⟨spi, usart⟩ := ih
      simp only [take, draw, serial_take, RingBuffer.removed, spi, usart]
      cases sink with
      | spi => simp
      | usart => simp
      | nowhere => simp

theorem log_take {sink : Sink} {times : Nat}
    (enough : times ≤ current.serial.buffer.count.toNat) :
    (current.take sink times).log = current.log := by
  induction times with
  | zero => rfl
  | succ times ih =>
      rw [take, draw, ih (Nat.le_of_succ_le enough), serial_take]
      exact Log.draw_of_ne _ (current.serial.buffer.count_removeMany_ne_zero enough)

end View

theorem getCount_insert_iff {ring : RingBuffer 128} (below : ring.count.toNat + 1 < 2 ^ 16)
    (byte frameSize : Byte) :
    (ring.insert byte).getCount = frameSize.setWidth 16 ↔
      ring.count.toNat + 1 = frameSize.toNat := by
  have counted := ring.count_insert_of_lt byte below
  have small := frameSize.isLt
  rw [← BitVec.toNat_inj, BitVec.toNat_setWidth, Nat.mod_eq_of_lt (by omega)]
  show (ring.insert byte).count.toNat = _ ↔ _
  rw [counted]

section AddByte

variable {serial : Serial}

theorem getCount_eq_iff {ring : RingBuffer 128} (count : BitVec 16) :
    ring.getCount = count ↔ ring.count.toNat = count.toNat :=
  BitVec.toNat_inj.symm

/-- Between frames, a byte that is no command is passed over. -/
theorem serialAddByte_noise {byte : Byte} (empty : serial.buffer.count.toNat = 0)
    (noise : serialEndCommands ≤ byte) : serialAddByte byte serial = (false, serial) :=
  if_pos ⟨(getCount_eq_iff 0).mpr empty, noise⟩

/-- A frame size of 1 would complete the frame at its first byte. -/
theorem serialAddByte_command {cmd : Byte} (empty : serial.buffer.count.toNat = 0)
    (command : cmd < serialEndCommands) :
    serialAddByte cmd serial =
      if serial.frameSize = 1 then
        (true, { buffer := serial.buffer.insert cmd, frameSize := 0 })
      else (false, { buffer := serial.buffer.insert cmd, frameSize := serial.frameSize }) := by
  have first : ¬ serial.buffer.getCount = 1 := by
    rw [getCount_eq_iff, empty]
    decide
  have complete : (serial.buffer.insert cmd).getCount = serial.frameSize.setWidth 16 ↔
      serial.frameSize = 1 := by
    rw [getCount_insert_iff (by omega), empty, ← BitVec.toNat_inj]
    exact eq_comm
  have known : ¬ serialEndCommands ≤ cmd := BitVec.not_le.mpr command
  unfold serialAddByte
  simp only [known, and_false, if_false, if_neg first, complete]

/-- The frame size is an 8-bit sum, yet it is 2 only for a length of 0. -/
theorem serialAddByte_length (size : Byte) (second : serial.buffer.count.toNat = 1) :
    serialAddByte size serial =
      if size = 0 then (true, { buffer := serial.buffer.insert size, frameSize := 0 })
      else (false, { buffer := serial.buffer.insert size, frameSize := size + 2 }) := by
  have filled : ¬ serial.buffer.getCount = 0 := by
    rw [getCount_eq_iff, second]
    decide
  have one : serial.buffer.getCount = 1 := (getCount_eq_iff 1).mpr second
  have complete : (serial.buffer.insert size).getCount = (size + 2).setWidth 16 ↔ size = 0 := by
    rw [getCount_insert_iff (by omega), ← BitVec.toNat_inj, BitVec.toNat_add]
    have bounded := size.isLt
    show _ = (size.toNat + 2) % 256 ↔ size.toNat = 0
    omega
  unfold serialAddByte
  simp only [filled, false_and, if_false, if_pos one, complete]

theorem serialAddByte_payload (byte : Byte) (started : 2 ≤ serial.buffer.count.toNat)
    (below : serial.buffer.count.toNat + 1 < 2 ^ 16) :
    serialAddByte byte serial =
      if serial.buffer.count.toNat + 1 = serial.frameSize.toNat then
        (true, { buffer := serial.buffer.insert byte, frameSize := 0 })
      else (false, { buffer := serial.buffer.insert byte, frameSize := serial.frameSize }) := by
  have filled : ¬ serial.buffer.getCount = 0 := by
    rw [getCount_eq_iff]
    show ¬ _ = 0
    omega
  have later : ¬ serial.buffer.getCount = 1 := by
    rw [getCount_eq_iff]
    show ¬ _ = 1
    omega
  unfold serialAddByte
  simp only [filled, false_and, if_false, if_neg later, getCount_insert_iff below]

end AddByte

namespace View

variable {current : View}

/-- These bytes have been put into the ring, and the frame size is cleared. -/
def stored (current : View) (bytes : List Byte) : View :=
  { current with
    log := { current.log with arrived := current.log.arrived ++ bytes }
    serial := { buffer := current.serial.buffer.insertAll bytes, frameSize := 0 } }

theorem receive_complete {received : Received} {serial : Serial}
    (complete : serialAddByte received.byte current.serial = (true, serial)) :
    current.receive received =
      { current with log := current.log.arrive received.byte, serial := serial }.process
        received.pins := by
  unfold receive add
  rw [complete]
  rfl

theorem receive_incomplete {received : Received} {serial : Serial}
    (incomplete : serialAddByte received.byte current.serial = (false, serial)) :
    current.receive received =
      { current with log := current.log.arrive received.byte, serial := serial } := by
  unfold receive add
  rw [incomplete]
  rfl

/-- A byte has been put into the ring before the frame is complete. -/
def kept (current : View) (byte : Byte) : View :=
  { current with
    log := current.log.arrive byte
    serial := { current.serial with buffer := current.serial.buffer.insert byte } }

theorem stored_kept (current : View) (byte : Byte) (rest : List Byte) :
    (current.kept byte).stored rest = current.stored (byte :: rest) := by
  simp only [stored, kept, Log.arrive, List.append_assoc]
  rfl

/-- The rest of a frame after its header, by induction on what is still missing. -/
theorem foldl_receive_payload (current : View) {arriving : List Received}
    (started : 2 ≤ current.serial.buffer.count.toNat) (nonempty : arriving ≠ [])
    (missing : current.serial.buffer.count.toNat + arriving.length =
      current.serial.frameSize.toNat)
    (short : current.serial.frameSize.toNat ≤ 128) :
    ∃ pins, arriving.foldl receive current =
      (current.stored (arriving.map Received.byte)).process pins := by
  induction arriving generalizing current with
  | nil => exact absurd rfl nonempty
  | cons received rest ih =>
      simp only [List.length_cons] at missing
      have added := serialAddByte_payload received.byte started (by omega)
      cases rest with
      | nil =>
          rw [if_pos (by simpa using missing)] at added
          exact ⟨received.pins, receive_complete added⟩
      | cons next rest =>
          simp only [List.length_cons] at missing
          rw [if_neg (by omega)] at added
          have counted : (current.kept received.byte).serial.buffer.count.toNat =
              current.serial.buffer.count.toNat + 1 :=
            current.serial.buffer.count_insert received.byte (by omega)
          have frameSize : (current.kept received.byte).serial.frameSize =
              current.serial.frameSize := rfl
          obtain ⟨pins, processed⟩ := ih (current.kept received.byte) (by omega)
            (List.cons_ne_nil _ _) (by rw [frameSize, List.length_cons]; omega) short
          refine ⟨pins, ?_⟩
          rw [List.foldl_cons, receive_incomplete added, List.map_cons, ← stored_kept]
          exact processed

/-- A frame is executed at its last byte, with all its bytes in the ring. -/
theorem foldl_receive_frame (current : View) {cmd : Byte} {payload : List Byte}
    {arriving : List Received} (bytes : arriving.map Received.byte = frameBytes cmd payload)
    (empty : current.serial.buffer.count.toNat = 0) (unset : current.serial.frameSize ≠ 1)
    (command : cmd < serialEndCommands) (short : payload.length ≤ 126) :
    ∃ pins, arriving.foldl receive current =
      (current.stored (frameBytes cmd payload)).process pins := by
  obtain ⟨first, others, rfl, rfl, tail⟩ := List.map_eq_cons_iff.mp bytes
  obtain ⟨second, rest, rfl, size, same⟩ := List.map_eq_cons_iff.mp tail
  have small : second.byte.toNat = payload.length := by
    rw [size, BitVec.toNat_ofNat]
    omega
  have one : (current.kept first.byte).serial.buffer.count.toNat = 1 := by
    have counted := current.serial.buffer.count_insert first.byte (by omega)
    rw [empty] at counted
    exact counted
  have two : ((current.kept first.byte).serial.buffer.insert second.byte).count.toNat = 2 := by
    rw [RingBuffer.count_insert _ _ (by omega), one]
  have begun := serialAddByte_command empty command
  rw [if_neg unset] at begun
  have started : current.receive first = current.kept first.byte := receive_incomplete begun
  have added := serialAddByte_length second.byte one
  have whole : current.stored (frameBytes first.byte payload) =
      ((current.kept first.byte).kept second.byte).stored payload := by
    rw [stored_kept, stored_kept, size]
    rfl
  rw [List.foldl_cons, List.foldl_cons, started, whole]
  by_cases zero : second.byte = 0
  · rw [if_pos zero] at added
    rw [zero] at small
    obtain rfl := List.length_eq_zero_iff.mp small.symm
    obtain rfl := List.map_eq_nil_iff.mp same
    refine ⟨second.pins, (receive_complete added).trans ?_⟩
    simp only [stored, kept, List.append_nil]
    rfl
  · rw [if_neg zero] at added
    have frameSize : (second.byte + 2).toNat = payload.length + 2 := by
      rw [BitVec.toNat_add, small]
      show (payload.length + 2) % 256 = _
      omega
    have positive : payload.length ≠ 0 := by
      rw [← small]
      exact fun none => zero (BitVec.eq_of_toNat_eq none)
    rw [receive_incomplete added, ← same]
    refine foldl_receive_payload _ two.ge ?_ ?_ ?_
    · rintro rfl
      rw [← same] at positive
      exact positive rfl
    · show _ = (second.byte + 2).toNat
      rw [frameSize, two, ← same, List.length_map, Nat.add_comm]
    · show (second.byte + 2).toNat ≤ 128
      omega

/-- `serialProcess` after the two bytes of the header. -/
def begun (current : View) : View :=
  { current with
    log := current.log.begin
    serial := { current.serial with buffer := current.serial.buffer.removeMany 2 } }

variable {cmd : Byte} {payload : List Byte}

theorem execute_frame
    (contents : current.serial.buffer.contents = frameBytes cmd payload) :
    current.execute =
        current.begun.take (sinkOf cmd) (consumed cmd (BitVec.ofNat 8 payload.length)) ∧
      current.serial.buffer.peek = cmd ∧ current.begun.serial.buffer.contents = payload := by
  obtain ⟨filled, first, others⟩ := RingBuffer.peek_of_contents contents
  obtain ⟨more, second, rest⟩ := RingBuffer.peek_of_contents others
  have header : { current with log := current.log.begin }.take .nowhere 2 = current.begun := by
    simp only [take, draw, Serial.remove, Log.draw_of_ne _ filled, Log.draw_of_ne _ more]
    rfl
  refine ⟨?_, first, rest⟩
  unfold execute
  simp only [first, second, header]

theorem buffer_execute (current : View) :
    current.execute.serial.buffer =
      current.serial.buffer.removeMany current.serial.processed.length := by
  rw [Serial.processed, RingBuffer.length_removed, RingBuffer.removeMany_add]
  unfold execute
  rw [serial_take, serial_take]

theorem count_execute (contents : current.serial.buffer.contents = frameBytes cmd payload) :
    current.execute.serial.buffer.count =
      BitVec.ofNat 16 (payload.length + 2) -
        BitVec.ofNat 16 (2 + consumed cmd (BitVec.ofNat 8 payload.length)) := by
  obtain ⟨-, first, others⟩ := RingBuffer.peek_of_contents contents
  obtain ⟨-, second, -⟩ := RingBuffer.peek_of_contents others
  have counted : current.serial.buffer.count.toNat = payload.length + 2 := by
    rw [← RingBuffer.length_contents, contents]
    rfl
  rw [buffer_execute, RingBuffer.count_removeMany, Serial.processed, RingBuffer.length_removed,
    first, second, ← counted, BitVec.ofNat_toNat, BitVec.setWidth_eq]

theorem count_process (contents : current.serial.buffer.contents = frameBytes cmd payload)
    (short : payload.length ≤ 126) (pins : Pins) :
    (current.process pins).serial.buffer.count = 0 ↔
      consumed cmd (BitVec.ofNat 8 payload.length) = payload.length := by
  have emptied : (current.process pins).serial.buffer.count = _ := count_execute contents
  have few := consumed_le cmd (BitVec.ofNat 8 payload.length)
  rw [BitVec.toNat_ofNat] at few
  rw [emptied, ← BitVec.toNat_inj, BitVec.toNat_sub, BitVec.toNat_ofNat, BitVec.toNat_ofNat]
  show _ = 0 ↔ _
  omega

/-- A frame of the length its command takes is consumed, and answered. -/
theorem process_frame (contents : current.serial.buffer.contents = frameBytes cmd payload)
    (whole : consumed cmd (BitVec.ofNat 8 payload.length) = payload.length) (pins : Pins) :
    (current.process pins).log =
        { current.log with
          processed := current.log.processed ++ [current.log.arrived.length]
          answers := current.log.answers ++ [if accepts pins cmd then serialAck else serialNak, 0]
          left := current.log.left ++ [(0, current.serial.frameSize)] } ∧
      (current.process pins).serial.frameSize = current.serial.frameSize ∧
      (current.process pins).spi =
        current.spi ++ (if sinkOf cmd = .spi then payload else []) ∧
      (current.process pins).usart =
        current.usart ++ (if sinkOf cmd = .usart then payload else []) := by
  obtain ⟨executed, first, rest⟩ := execute_frame contents
  rw [whole] at executed
  have counted : current.begun.serial.buffer.count.toNat = payload.length := by
    rw [← rest, RingBuffer.length_contents]
  have taken := (current.begun.serial.buffer.removed_of_le counted.ge).1
  rw [rest, List.take_length] at taken
  have log : current.execute.log = current.log.begin := by
    rw [executed, log_take counted.ge]
    rfl
  have zero : current.execute.serial.buffer.count = 0 := by
    rw [count_execute contents, whole, Nat.add_comm]
    exact BitVec.sub_self _
  have frameSize : current.execute.serial.frameSize = current.serial.frameSize := by
    rw [executed, serial_take]
    rfl
  refine ⟨?_, frameSize, ?_, ?_⟩
  · unfold process answer Log.leave
    rw [log, first, zero, frameSize]
    simp only [Log.answer, List.append_assoc]
    rfl
  · show current.execute.spi = _
    rw [executed, (outputs_take _ _ _).1, taken]
    rfl
  · show current.execute.usart = _
    rw [executed, (outputs_take _ _ _).2, taken]
    rfl

theorem underflows_take (current : View) (sink : Sink) (times : Nat) :
    current.log.underflows ≤ (current.take sink times).log.underflows := by
  induction times with
  | zero => exact Nat.le_refl _
  | succ times ih => exact ih.trans (Nat.le_add_right _ _)

theorem underflows_process (current : View) (pins : Pins) :
    current.log.underflows + (if current.serial.buffer.count = 0 then 1 else 0) +
        (if current.serial.buffer.remove.count = 0 then 1 else 0) ≤
      (current.process pins).log.underflows := by
  show _ ≤ current.execute.log.underflows
  unfold execute
  exact underflows_take ({ current with log := current.log.begin }.take .nowhere 2) _ _

theorem underflows_receive (current : View) (received : Received) :
    current.log.underflows ≤ (current.receive received).log.underflows := by
  unfold receive
  split
  · have processed := underflows_process (current.add received.byte) received.pins
    have same : (current.add received.byte).log.underflows = current.log.underflows := rfl
    omega
  · exact Nat.le_refl _

theorem underflows_foldl (current : View) (arriving : List Received) :
    current.log.underflows ≤ (arriving.foldl receive current).log.underflows := by
  induction arriving generalizing current with
  | nil => exact Nat.le_refl _
  | cons received rest ih => exact (current.underflows_receive received).trans (ih _)

/-- A frame size of 1 completes a frame at its command byte, whose length byte is
then removed from an empty ring. -/
theorem underflows_receive_command {received : Received}
    (empty : current.serial.buffer.count.toNat = 0) (set : current.serial.frameSize = 1)
    (command : received.byte < serialEndCommands) :
    current.log.underflows < (current.receive received).log.underflows := by
  have added := serialAddByte_command empty command
  rw [if_pos set] at added
  have counted : ((current.serial.buffer.insert received.byte).remove).count = 0 := by
    show current.serial.buffer.count + 1 - 1 = 0
    rw [BitVec.add_sub_cancel]
    exact BitVec.eq_of_toNat_eq empty
  have processed := underflows_process
    { current with
      log := current.log.arrive received.byte
      serial := { buffer := current.serial.buffer.insert received.byte, frameSize := 0 } }
    received.pins
  rw [if_pos counted] at processed
  rw [receive_complete added]
  exact Nat.lt_of_lt_of_le (Nat.lt_succ_of_le (Nat.le_add_right _ _)) processed

theorem processed_take (current : View) (sink : Sink) (times : Nat) :
    (current.take sink times).log.processed = current.log.processed := by
  induction times with
  | zero => rfl
  | succ times ih => exact ih

theorem processed_process (current : View) (pins : Pins) :
    (current.process pins).log.processed =
      current.log.processed ++ [current.log.arrived.length] := by
  show current.execute.log.processed = _
  unfold execute
  rw [processed_take, processed_take]
  rfl

theorem contents_stored (current : View) (cmd : Byte) (empty : current.serial.buffer.count = 0)
    (short : payload.length ≤ 126) :
    (current.stored (frameBytes cmd payload)).serial.buffer.contents = frameBytes cmd payload := by
  have room : current.serial.buffer.count.toNat + (frameBytes cmd payload).length ≤ 128 := by
    rw [empty]
    show 0 + (payload.length + 2) ≤ 128
    omega
  refine (current.serial.buffer.contents_insertAll _ room).trans ?_
  rw [RingBuffer.contents_eq_nil_iff.mpr empty, List.nil_append]

theorem foldl_receive_consumed_iff (current : View) {arriving : List Received}
    (empty : current.serial.buffer.count = 0)
    (bytes : arriving.map Received.byte = frameBytes cmd payload)
    (command : cmd < serialEndCommands) (short : payload.length ≤ 126) :
    (arriving.foldl receive current).serial.buffer.count = 0 ∧
        (arriving.foldl receive current).log.underflows = current.log.underflows ↔
      current.serial.frameSize ≠ 1 ∧ WellFormed cmd payload.length := by
  have none : current.serial.buffer.count.toNat = 0 := congrArg BitVec.toNat empty
  by_cases set : current.serial.frameSize = 1
  · -- the removal of the length byte underflows, whatever follows
    obtain ⟨received, others, rfl, rfl, _⟩ := List.map_eq_cons_iff.mp bytes
    have more := underflows_receive_command none set command
    have later := underflows_foldl (current.receive received) others
    constructor
    · rintro ⟨_, same⟩
      rw [List.foldl_cons] at same
      omega
    · rintro ⟨unset, _⟩
      exact absurd set unset
  · obtain ⟨pins, processed⟩ := foldl_receive_frame current bytes none set command short
    have contents := current.contents_stored cmd empty short
    rw [processed, count_process contents short pins, wellFormed_iff command short]
    constructor
    · rintro ⟨whole, _⟩
      exact ⟨set, whole⟩
    · rintro ⟨_, whole⟩
      refine ⟨whole, ?_⟩
      rw [(process_frame contents whole pins).1]
      rfl

end View

theorem received_run_main (config : Config Point Device Interrupt Call) (steps : Nat) :
    received (firmware.run (List.replicate steps .main) config).history =
      received config.history := by
  induction steps generalizing config with
  | zero => rfl
  | succ steps ih =>
      refine (ih (firmware.advance config .main)).trans ?_
      obtain ⟨code, state, history⟩ := config
      cases code <;> rfl

theorem completes (choices : Choices) :
    ∃ steps, (after (choices ++ List.replicate steps .main)).idle = true ∧
      received (after (choices ++ List.replicate steps .main)).history =
        received (after choices).history := by
  obtain ⟨steps, finished⟩ := firmware.run_finishes (after choices)
  have continued : after (choices ++ List.replicate steps .main) =
      firmware.run (List.replicate steps .main) (after choices) :=
    firmware.run_append _ _ _
  refine ⟨steps, ?_, ?_⟩
  · rw [continued]
    exact finished
  · rw [continued]
    exact received_run_main _ steps

/-- From an empty ring, a frame is executed at its last byte. It is consumed
exactly, without a removal from the empty ring, if and only if its length is the
one its command takes (and no frame size of 1 has been left behind, by a length
byte of 255 and a wrapped counter). -/
theorem frame_consumed_iff {first rest : Choices} {arriving : List Received} {cmd : Byte}
    {payload : List Byte} (ready : (after first).idle = true)
    (empty : (after first).state.serial.buffer.count = 0)
    (sent : received (after (first ++ rest)).history = received (after first).history ++ arriving)
    (bytes : arriving.map Received.byte = frameBytes cmd payload)
    (command : cmd < serialEndCommands) (short : payload.length ≤ 126) :
    (∃ steps, (after (first ++ rest ++ List.replicate steps .main)).idle = true ∧
      received (after (first ++ rest ++ List.replicate steps .main)).history =
        received (after first).history ++ arriving) ∧
    ((after (first ++ rest)).idle = true →
      ((after (first ++ rest)).state.serial.buffer.count = 0 ∧
          (log (after (first ++ rest)).history).underflows =
            (log (after first).history).underflows ↔
        (after first).state.serial.frameSize ≠ 1 ∧ WellFormed cmd payload.length) ∧
      ((after first).state.serial.frameSize ≠ 1 →
        (log (after (first ++ rest)).history).processed =
          (log (after first).history).processed ++
            [(log (after first).history).arrived.length + (frameBytes cmd payload).length])) := by
  refine ⟨?_, fun idle => ?_⟩
  · rw [← sent]
    exact completes _
  have served : view (after (first ++ rest)).state (after (first ++ rest)).history =
      arriving.foldl View.receive (view (after first).state (after first).history) := by
    rw [view_after idle, view_after ready, sent, List.foldl_append]
  have consumed := View.foldl_receive_consumed_iff (view (after first).state (after first).history)
    empty bytes command short
  rw [← served] at consumed
  refine ⟨consumed, fun unset => ?_⟩
  obtain ⟨pins, processed⟩ := View.foldl_receive_frame
    (view (after first).state (after first).history) bytes (congrArg BitVec.toNat empty) unset
    command short
  have logged := congrArg (fun reached => reached.log.processed) (served.trans processed)
  rw [View.processed_process] at logged
  rw [← List.length_append]
  exact logged

/-- These bytes come in one packet, and the call is run to its end. -/
def onePacket (bytes : List Byte) (steps : Nat) : Choices :=
  .call (.usbData (bytes.map fun byte => ⟨byte, ⟨fun _ => false, false⟩⟩)) ::
    List.replicate steps .main

theorem frame_consumed_spiSelect :
    (after (onePacket [0x04, 0x01, 0x00] 9)).idle = true ∧
      (after (onePacket [0x04, 0x01, 0x00] 9)).state.serial.buffer.count = 0 ∧
      (log (after (onePacket [0x04, 0x01, 0x00] 9)).history).underflows = 0 := by
  have idle : (after (onePacket [0x04, 0x01, 0x00] 9)).idle = true := by decide +kernel
  have sent : received (after ([] ++ onePacket [0x04, 0x01, 0x00] 9)).history =
      received (after []).history ++
        ([0x04, 0x01, 0x00] : List Byte).map fun byte => ⟨byte, ⟨fun _ => false, false⟩⟩ := rfl
  have consumed := (frame_consumed_iff rfl rfl sent (rfl : _ = frameBytes 0x04 [0x00])
    (by decide) (by decide)).2 idle
  exact ⟨idle, consumed.1.mpr ⟨by decide, by decide⟩⟩

theorem spiSelect_underflows :
    (after []).state.serial.buffer.count = 0 ∧
      (received (after (onePacket [0x04, 0x00] 8)).history).map Received.byte =
        frameBytes serialSpiSelect [] ∧
      (after (onePacket [0x04, 0x00] 8)).idle = true ∧
      (log (after (onePacket [0x04, 0x00] 8)).history).processed = [2] ∧
      (log (after (onePacket [0x04, 0x00] 8)).history).underflows = 1 ∧
      (after (onePacket [0x04, 0x00] 8)).state.serial.buffer.count = 65535 := by
  decide +kernel

end MiniMiner.XilinxFpgaProg
