import MiniMiner.XilinxFpgaProg.Frames

/-! Streams of frames with noise between them. Each item of the stream starts and
ends with an empty ring and no frame size, whatever its payload looks like. -/

set_option autoImplicit false

namespace MiniMiner.XilinxFpgaProg

open LittleEndian Preemption

inductive Item where
  | noise (byte : Byte)
  | frame (cmd : Byte) (payload : List Byte)

namespace Item

def bytes : Item → List Byte
  | noise byte => [byte]
  | frame cmd payload => frameBytes cmd payload

def WellFormed : Item → Prop
  | noise byte => serialEndCommands ≤ byte
  | frame cmd payload => XilinxFpgaProg.WellFormed cmd payload.length

def isFrame : Item → Bool
  | noise _ => false
  | frame _ _ => true

def spiPayload : Item → List Byte
  | noise _ => []
  | frame cmd payload => if cmd = serialDownloadData ∨ cmd = serialSpiData then payload else []

def usartPayload : Item → List Byte
  | noise _ => []
  | frame cmd payload => if cmd = serialUsartData then payload else []

end Item

/-- How many bytes have arrived at the last byte of each frame. -/
def frameEnds (start : Nat) : List Item → List Nat
  | [] => []
  | item :: rest =>
      (if item.isFrame then [start + item.bytes.length] else []) ++
        frameEnds (start + item.bytes.length) rest

def replyPair (accepted : Bool) : List Byte :=
  [if accepted then serialAck else serialNak, 0]

/-- What a stretch of the stream does to the view. -/
structure Served (items : List Item) (before after : View) : Prop where
  arrived : after.log.arrived = before.log.arrived ++ items.flatMap Item.bytes
  processed : after.log.processed =
    before.log.processed ++ frameEnds before.log.arrived.length items
  answers : ∃ verdicts : List Bool, verdicts.length = items.countP Item.isFrame ∧
    after.log.answers = before.log.answers ++ verdicts.flatMap replyPair
  left : after.log.left =
    before.log.left ++ List.replicate (items.countP Item.isFrame) (0, 0)
  spi : after.spi = before.spi ++ items.flatMap Item.spiPayload
  usart : after.usart = before.usart ++ items.flatMap Item.usartPayload
  emptied : after.serial.buffer.count = 0
  cleared : after.serial.frameSize = 0

theorem Served.nil {current : View} (empty : current.serial.buffer.count = 0)
    (unset : current.serial.frameSize = 0) : Served [] current current where
  arrived := (List.append_nil _).symm
  processed := (List.append_nil _).symm
  answers := ⟨[], rfl, (List.append_nil _).symm⟩
  left := (List.append_nil _).symm
  spi := (List.append_nil _).symm
  usart := (List.append_nil _).symm
  emptied := empty
  cleared := unset

theorem Served.cons {item : Item} {rest : List Item} {before middle after : View}
    (first : Served [item] before middle) (others : Served rest middle after) :
    Served (item :: rest) before after := by
  obtain ⟨verdicts, counted, answered⟩ := first.answers
  obtain ⟨moreVerdicts, moreCounted, moreAnswered⟩ := others.answers
  have split : item :: rest = [item] ++ rest := rfl
  refine ⟨?_, ?_, ⟨verdicts ++ moreVerdicts, ?_, ?_⟩, ?_, ?_, ?_, others.emptied, others.cleared⟩
  · rw [others.arrived, first.arrived, split, List.flatMap_append, List.append_assoc]
  · rw [others.processed, first.processed, first.arrived, List.length_append, List.append_assoc]
    simp [frameEnds]
  · rw [split, List.countP_append, List.length_append, counted, moreCounted]
  · rw [moreAnswered, answered, List.flatMap_append, List.append_assoc]
  · rw [others.left, first.left, split, List.countP_append, List.replicate_add,
      List.append_assoc]
  · rw [others.spi, first.spi, split, List.flatMap_append, List.append_assoc]
  · rw [others.usart, first.usart, split, List.flatMap_append, List.append_assoc]

section Items

variable {current : View} {arriving : List Received}

theorem served_noise {byte : Byte} (noise : serialEndCommands ≤ byte)
    (bytes : arriving.map Received.byte = [byte]) (empty : current.serial.buffer.count = 0)
    (unset : current.serial.frameSize = 0) :
    Served [.noise byte] current (arriving.foldl View.receive current) := by
  obtain ⟨received, rfl, rfl⟩ := List.map_eq_singleton_iff.mp bytes
  have skipped := View.receive_incomplete
    (serialAddByte_noise (congrArg BitVec.toNat empty) noise)
  rw [List.foldl_cons, skipped]
  have unchanged := Served.nil empty unset
  exact { unchanged with arrived := rfl }

theorem command_of_wellFormed {cmd : Byte} {size : Nat} (wellFormed : WellFormed cmd size) :
    cmd < serialEndCommands ∧ size ≤ 126 := by
  have carrying : ∀ cmd ∈ [0, serialDownloadData, serialSpiData, serialUsartData],
      cmd < serialEndCommands := by decide
  have bare : ∀ cmd ∈ [serialStartConfig, serialUseUsart, serialUseSpi, serialFpgaReset,
      serialFpgaStart], cmd < serialEndCommands := by decide
  rcases wellFormed with ⟨member, short⟩ | ⟨rfl, rfl⟩ | ⟨member, rfl⟩
  · exact ⟨carrying cmd member, short⟩
  · decide
  · exact ⟨bare cmd member, by decide⟩

theorem sinkOf_eq_spi_iff {cmd : Byte} :
    sinkOf cmd = .spi ↔ cmd = serialDownloadData ∨ cmd = serialSpiData := by
  unfold sinkOf
  split
  · next carried => simp [carried]
  · next other =>
    split <;> simp [other]

theorem sinkOf_eq_usart_iff {cmd : Byte} : sinkOf cmd = .usart ↔ cmd = serialUsartData := by
  unfold sinkOf
  split
  · next carried =>
    rcases carried with rfl | rfl <;> decide
  · split
    · next same => simp [same]
    · next other => simp [other]

theorem served_frame {cmd : Byte} {payload : List Byte}
    (wellFormed : WellFormed cmd payload.length)
    (bytes : arriving.map Received.byte = frameBytes cmd payload)
    (empty : current.serial.buffer.count = 0) (unset : current.serial.frameSize = 0) :
    Served [.frame cmd payload] current (arriving.foldl View.receive current) := by
  obtain ⟨command, short⟩ := command_of_wellFormed wellFormed
  have zero : current.serial.frameSize ≠ 1 := by
    rw [unset]
    decide
  obtain ⟨pins, processed⟩ := current.foldl_receive_frame bytes (congrArg BitVec.toNat empty) zero
    command short
  have contents := current.contents_stored cmd empty short
  have whole := (wellFormed_iff command short).mp wellFormed
  obtain ⟨log, frameSize, spi, usart⟩ := View.process_frame contents whole pins
  rw [processed]
  refine ⟨?_, ?_, ⟨[accepts pins cmd], rfl, ?_⟩, ?_, ?_, ?_,
    (View.count_process contents short pins).mpr whole, frameSize⟩
  · rw [log]
    simp [View.stored, Item.bytes]
  · rw [log]
    simp [View.stored, frameEnds, Item.bytes, Item.isFrame]
  · rw [log]
    rfl
  · rw [log]
    rfl
  · rw [spi]
    simp [View.stored, Item.spiPayload, sinkOf_eq_spi_iff]
  · rw [usart]
    simp [View.stored, Item.usartPayload, sinkOf_eq_usart_iff]

theorem served_item {item : Item} (wellFormed : item.WellFormed)
    (bytes : arriving.map Received.byte = item.bytes)
    (empty : current.serial.buffer.count = 0) (unset : current.serial.frameSize = 0) :
    Served [item] current (arriving.foldl View.receive current) := by
  cases item with
  | noise byte => exact served_noise wellFormed bytes empty unset
  | frame cmd payload => exact served_frame wellFormed bytes empty unset

theorem served_stream {items : List Item} (wellFormed : ∀ item ∈ items, item.WellFormed)
    (bytes : arriving.map Received.byte = items.flatMap Item.bytes)
    (empty : current.serial.buffer.count = 0) (unset : current.serial.frameSize = 0) :
    Served items current (arriving.foldl View.receive current) := by
  induction items generalizing current arriving with
  | nil =>
      obtain rfl := List.map_eq_nil_iff.mp bytes
      exact .nil empty unset
  | cons item rest ih =>
      rw [List.flatMap_cons] at bytes
      obtain ⟨ours, others, rfl, oursBytes, othersBytes⟩ := List.map_eq_append_iff.mp bytes
      rw [List.foldl_append]
      have first := served_item (wellFormed item List.mem_cons_self) oursBytes empty unset
      refine first.cons (ih (fun other member => ?_) othersBytes first.emptied
        first.cleared)
      exact wellFormed other (List.mem_cons_of_mem _ member)

end Items

/-- For every stream of well-formed frames with noise between them, cut into
packets in any way and with any interrupts and other calls between and during
them: each frame is executed once, at its last byte and in order, its payload is
handed on, one pair of bytes is queued for it, and it leaves the parser as it found
it. -/
theorem frame_stream_served (items : List Item) (wellFormed : ∀ item ∈ items, item.WellFormed)
    (choices : Choices)
    (stream : (received (after choices).history).map Received.byte =
      items.flatMap Item.bytes) :
    (∃ steps, (after (choices ++ List.replicate steps .main)).idle = true ∧
      received (after (choices ++ List.replicate steps .main)).history =
        received (after choices).history) ∧
    ((after choices).idle = true →
      (log (after choices).history).arrived = items.flatMap Item.bytes ∧
      (log (after choices).history).processed = frameEnds 0 items ∧
      (after choices).state.spi = items.flatMap Item.spiPayload ∧
      (after choices).state.usart = items.flatMap Item.usartPayload ∧
      (∃ verdicts : List Bool, verdicts.length = items.countP Item.isFrame ∧
        (log (after choices).history).answers = verdicts.flatMap replyPair) ∧
      (log (after choices).history).left =
        List.replicate (items.countP Item.isFrame) (0, 0) ∧
      (after choices).state.serial.buffer.count = 0 ∧
      (after choices).state.serial.frameSize = 0) := by
  refine ⟨completes choices, fun idle => ?_⟩
  have served : Served items (.start boot) (view (after choices).state (after choices).history) := by
    rw [view_after idle]
    exact served_stream wellFormed stream rfl rfl
  exact ⟨served.arrived, served.processed, served.spi, served.usart, served.answers,
    served.left, served.emptied, served.cleared⟩

/-- The payload of a frame comes in the packet after its header, and a reception is
in between. -/
def twoPackets : Choices :=
  onePacket [0xFF, 0x05, 0x02] 3 ++ [.interrupt (.usart 0x41 true)] ++
    onePacket [0x0A, 0x01, 0x20, 0x04, 0x01, 0x01] 20

theorem frame_stream_served_twoPackets :
    (after twoPackets).idle = true ∧
      (after twoPackets).state.usart = [0x0A, 0x01] ∧
      (log (after twoPackets).history).processed = [5, 9] := by
  have idle : (after twoPackets).idle = true := by decide +kernel
  have served := (frame_stream_served
    [.noise 0xFF, .frame 0x05 [0x0A, 0x01], .noise 0x20, .frame 0x04 [0x01]] ?_ twoPackets
    (by decide +kernel)).2 idle
  · exact ⟨idle, served.2.2.2.1, served.2.1⟩
  · intro item member
    simp only [List.mem_cons, List.not_mem_nil, or_false] at member
    rcases member with rfl | rfl | rfl | rfl <;> simp only [Item.WellFormed] <;> decide

end MiniMiner.XilinxFpgaProg
