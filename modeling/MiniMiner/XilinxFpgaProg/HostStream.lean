import Mathlib.Data.List.ModifyLast
import MiniMiner.Framing
import MiniMiner.Lufa.CdcSendProperties
import MiniMiner.XilinxFpgaProg.Footprint
import MiniMiner.XilinxFpgaProg.FrameStream
import MiniMiner.XilinxFpgaProg.Relay

/-! The stream to the host. Two parts of the main loop write to the transmit ring: the
verdicts on the host's frames, and the frames that carry USART bytes. Neither breaks into
the other, and the first two bytes of each tell where it ends. -/

set_option autoImplicit false

namespace MiniMiner.XilinxFpgaProg

open LittleEndian Preemption Preemption.Program

/-- What has been queued for the host, as far as it is written. -/
def hostFrames : Past → List (List Byte)
  | [] => []
  | transition :: earlier =>
      match transition.label with
      | .main .verdict => hostFrames earlier ++ [[writtenByte transition]]
      | .main .relayCmd => hostFrames earlier ++ [[writtenByte transition]]
      | .main .zero => (hostFrames earlier).modifyLast (· ++ [writtenByte transition])
      | .main .relayCount => (hostFrames earlier).modifyLast (· ++ [writtenByte transition])
      | .main .relayByte => (hostFrames earlier).modifyLast (· ++ [writtenByte transition])
      | _ => hostFrames earlier

def isRelayed (frame : List Byte) : Bool := frame.head? = some serialUsartData

/-- The verdicts among the frames, and the frames with USART bytes. -/
def verdictBytes (frames : List (List Byte)) : List Byte :=
  (frames.filter fun frame => !isRelayed frame).flatten

def relayedFrames (frames : List (List Byte)) : List (List Byte) := frames.filter isRelayed

theorem sort_verdict {frame : List Byte} (verdict : isRelayed frame = false)
    (frames : List (List Byte)) :
    verdictBytes (frames ++ [frame]) = verdictBytes frames ++ frame ∧
      relayedFrames (frames ++ [frame]) = relayedFrames frames := by
  simp [verdictBytes, relayedFrames, List.filter_append, verdict]

theorem sort_relayed {frame : List Byte} (carries : isRelayed frame = true)
    (frames : List (List Byte)) :
    verdictBytes (frames ++ [frame]) = verdictBytes frames ∧
      relayedFrames (frames ++ [frame]) = relayedFrames frames ++ [frame] := by
  simp [verdictBytes, relayedFrames, List.filter_append, carries]

/-- How many bytes follow the first two of a frame. -/
def tailSize (header : List Byte) : Nat :=
  if isRelayed header then (header.getD 1 0).toNat else 0

def hostFraming : Framing Byte (List Byte) := .headed 2 Nat.two_pos tailSize

def Whole (frame : List Byte) : Prop := Counted frame ∨ ∃ accepted, frame = replyPair accepted

theorem Whole.length {frame : List Byte} (whole : Whole frame) :
    frame.length = 2 + tailSize (frame.take 2) := by
  rcases whole with ⟨count, payload, rfl, counted⟩ | ⟨accepted, rfl⟩
  · have size : tailSize ((serialUsartData :: count :: payload).take 2) = count.toNat := rfl
    rw [size, counted, List.length_cons, List.length_cons]
    omega
  · cases accepted <;> rfl

def Point.queues : Point → Bool
  | .verdict | .zero | .relayCmd | .relayCount | .relayByte => true
  | _ => false

def queuesByte : Step → Bool
  | .main point => point.queues
  | _ => false

/-- A byte for the host finds a free place in the transmit ring. -/
def roomToQueue (label : Step) (device : Device) (_ : Past) : Prop :=
  queuesByte label = true → device.usartToUsbBuffer.count.toNat < 128

instance (label : Step) (device : Device) (history : Past) :
    Decidable (roomToQueue label device history) :=
  inferInstanceAs (Decidable (_ → _))

def streaming : Setting Point Device Interrupt Call where
  machine := firmware
  allowed := roomToQueue
  always := fun device history => device.endpoint <+: (hostFrames history).flatten

/-- The frames that are verdicts, and those that are relayed, as the two parts of the program
have written them. -/
structure Sorted (history : Past) : Prop where
  answers : verdictBytes (hostFrames history) = (log history).answers
  relays : relayedFrames (hostFrames history) = (relayed history).frames.reverse

/-- The endpoint and the ring hold the frames, of which this is known. -/
structure Streamed (facts : List (List Byte) → Prop) (device : Device) (history : Past) : Prop
    extends Sorted history where
  stream : device.endpoint ++ device.usartToUsbBuffer.contents = (hostFrames history).flatten
  facts : facts (hostFrames history)

def AllWhole (frames : List (List Byte)) : Prop := ∀ frame ∈ frames, Whole frame

/-- The last frame is being written. -/
def Ending (current : List Byte) (frames : List (List Byte)) : Prop :=
  ∃ earlier, frames = earlier ++ [current] ∧ AllWhole earlier

variable {facts : List (List Byte) → Prop}

theorem endpoint_kept {source : Interrupt} {before after : Device}
    (handled : handler source before = some after) :
    after.endpoint = before.endpoint ∧ after.usartToUsbBuffer = before.usartToUsbBuffer := by
  cases source with
  | tick =>
      cases handled
      exact ⟨rfl, rfl⟩
  | usart byte configured =>
      cases configured with
      | false =>
          cases handled
          exact ⟨rfl, rfl⟩
      | true =>
          cases handled
          exact ⟨rfl, rfl⟩

theorem steady_streamed : streaming.Steady (Streamed facts) where
  stable := by
    intro source before after history handled _ streamed
    obtain ⟨endpoint, ring⟩ := endpoint_kept handled
    refine ⟨⟨streamed.answers, streamed.relays⟩, ?_, streamed.facts⟩
    rw [endpoint, ring]
    exact streamed.stream
  always := fun _ _ streamed => ⟨_, streamed.stream⟩

theorem frames_unqueued {point : Point} (unqueued : point.queues = false) (before after : Device)
    (history : Past) :
    hostFrames (⟨.main point, before, after⟩ :: history) = hostFrames history ∧
      (log (⟨.main point, before, after⟩ :: history)).answers = (log history).answers ∧
      (relayed (⟨.main point, before, after⟩ :: history)).frames = (relayed history).frames := by
  cases point <;> first | exact ⟨rfl, rfl, rfl⟩ | cases unqueued

theorem Sorted.unqueued {point : Point} {history : Past} (sorted : Sorted history)
    (unqueued : point.queues = false) (before after : Device) :
    Sorted (⟨.main point, before, after⟩ :: history) := by
  obtain ⟨frames, answers, relays⟩ := frames_unqueued unqueued before after history
  refine ⟨?_, ?_⟩
  · rw [frames, answers]
    exact sorted.answers
  · rw [frames, relays]
    exact sorted.relays

/-- Statements that do not write for the host. -/
structure Quiet (point : Point) (before after : Device) : Prop where
  unqueued : point.queues = false
  usartToUsbBuffer : after.usartToUsbBuffer = before.usartToUsbBuffer
  endpoint : after.endpoint = before.endpoint

theorem Quiet.keeps {point : Point} {before after : Device} (quiet : Quiet point before after) :
    streaming.Keeps (Streamed facts) point before after := by
  intro history _ streamed
  obtain ⟨frames, _⟩ := frames_unqueued quiet.unqueued before after history
  refine ⟨streamed.toSorted.unqueued quiet.unqueued before after, ?_, ?_⟩
  · rw [frames, quiet.endpoint, quiet.usartToUsbBuffer]
    exact streamed.stream
  · rw [frames]
    exact streamed.facts

theorem kept_quiet {Value : Type} {program : Firmware Value} (within : program.Within Quiet) :
    streaming.Triple (Streamed facts) program fun _ => Streamed facts :=
  .kept steady_streamed (within.imp fun _ _ _ quiet => quiet.keeps)

theorem queue_streamed {point : Point} {byte : Byte} {later : List (List Byte) → Prop}
    (queues : point.queues = true) (recorded : List (List Byte) → List (List Byte))
    (records : ∀ before after history,
      before.usartToUsbBuffer.stored after.usartToUsbBuffer = byte →
      hostFrames (⟨.main point, before, after⟩ :: history) = recorded (hostFrames history))
    (step : ∀ frames, facts frames →
      later (recorded frames) ∧ (recorded frames).flatten = frames.flatten ++ [byte])
    (sorts : ∀ before after history,
      before.usartToUsbBuffer.stored after.usartToUsbBuffer = byte →
      facts (hostFrames history) → Sorted history →
      Sorted (⟨.main point, before, after⟩ :: history)) :
    streaming.Triple (Streamed facts) (queue point byte) fun _ => Streamed later := by
  refine .assign steady_streamed steady_streamed fun device history streamed admitted => ?_
  have room : device.usartToUsbBuffer.count.toNat < 128 := admitted queues
  have written := device.usartToUsbBuffer.stored_insert byte
  obtain ⟨reached, longer⟩ := step _ streamed.facts
  refine ⟨sorts device _ history written streamed.facts streamed.toSorted, ?_, ?_⟩
  · rw [records device _ history written, longer,
      device.usartToUsbBuffer.contents_insert byte room, ← List.append_assoc, streamed.stream]
  · rw [records device _ history written]
    exact reached

theorem step_begin {byte : Byte} {frames : List (List Byte)} (whole : AllWhole frames) :
    Ending [byte] (frames ++ [[byte]]) ∧
      (frames ++ [[byte]]).flatten = frames.flatten ++ [byte] := by
  refine ⟨⟨frames, rfl, whole⟩, ?_⟩
  rw [List.flatten_append, List.flatten_singleton]

theorem step_extend (byte : Byte) {current : List Byte} {frames : List (List Byte)}
    (ending : Ending current frames) :
    Ending (current ++ [byte]) (frames.modifyLast (· ++ [byte])) ∧
      (frames.modifyLast (· ++ [byte])).flatten = frames.flatten ++ [byte] := by
  obtain ⟨earlier, rfl, whole⟩ := ending
  rw [List.modifyLast_concat]
  refine ⟨⟨earlier, rfl, whole⟩, ?_⟩
  simp only [List.flatten_append, List.flatten_singleton, List.append_assoc]

theorem Ending.close {current : List Byte} {frames : List (List Byte)}
    (ending : Ending current frames) (whole : Whole current) : AllWhole frames := by
  obtain ⟨earlier, rfl, others⟩ := ending
  intro frame member
  rcases List.mem_append.mp member with old | last
  · exact others frame old
  · obtain rfl := List.mem_singleton.mp last
    exact whole

theorem Streamed.imp {later : List (List Byte) → Prop} {device : Device} {history : Past}
    (streamed : Streamed facts device history) (weaken : ∀ frames, facts frames → later frames) :
    Streamed later device history :=
  ⟨streamed.toSorted, streamed.stream, weaken _ streamed.facts⟩

theorem verdict_triple (accepted : Bool) :
    streaming.Triple (Streamed AllWhole)
      (queue .verdict (if accepted then serialAck else serialNak))
      fun _ => Streamed (Ending [if accepted then serialAck else serialNak]) := by
  have begins : ∀ before after history,
      before.usartToUsbBuffer.stored after.usartToUsbBuffer =
        (if accepted then serialAck else serialNak) →
      hostFrames (⟨.main .verdict, before, after⟩ :: history) =
        hostFrames history ++ [[if accepted then serialAck else serialNak]] := by
    intro before after history written
    simp only [hostFrames, writtenByte, written]
  refine queue_streamed rfl (· ++ [[_]]) begins (fun _ => step_begin) ?_
  intro before after history written _ sorted
  have verdict : isRelayed [if accepted then serialAck else serialNak] = false := by
    cases accepted <;> rfl
  obtain ⟨answers, relays⟩ := sort_verdict verdict (hostFrames history)
  refine ⟨?_, ?_⟩
  · rw [begins before after history written, answers, sorted.answers]
    exact congrArg (fun byte => (log history).answers ++ [byte]) written.symm
  · rw [begins before after history written, relays, sorted.relays]
    rfl

theorem zero_triple (accepted : Bool) :
    streaming.Triple (Streamed (Ending [if accepted then serialAck else serialNak]))
      (queue .zero 0) fun _ => Streamed AllWhole := by
  have records : ∀ before after history,
      before.usartToUsbBuffer.stored after.usartToUsbBuffer = 0 →
      hostFrames (⟨.main .zero, before, after⟩ :: history) =
        (hostFrames history).modifyLast (· ++ [0]) := by
    intro before after history written
    exact congrArg (fun byte => (hostFrames history).modifyLast (· ++ [byte])) written
  refine queue_streamed rfl (List.modifyLast (· ++ [0])) records ?_ ?_
  · intro frames ending
    obtain ⟨longer, flat⟩ := step_extend 0 ending
    exact ⟨longer.close (.inr ⟨accepted, rfl⟩), flat⟩
  · -- with its second byte a verdict is still not taken for a relayed frame
    intro before after history written ending sorted
    obtain ⟨earlier, frames, _⟩ := ending
    have one : isRelayed [if accepted then serialAck else serialNak] = false := by
      cases accepted <;> rfl
    have pair : isRelayed ([if accepted then serialAck else serialNak] ++ [0]) = false := by
      cases accepted <;> rfl
    obtain ⟨answersOne, relaysOne⟩ := sort_verdict one earlier
    obtain ⟨answersPair, relaysPair⟩ := sort_verdict pair earlier
    have answers := sorted.answers
    have relays := sorted.relays
    rw [frames] at answers relays
    have extended : hostFrames (⟨.main .zero, before, after⟩ :: history) =
        earlier ++ [[if accepted then serialAck else serialNak] ++ [0]] := by
      rw [records before after history written, frames, List.modifyLast_concat]
    refine ⟨?_, ?_⟩
    · rw [extended, answersPair, ← List.append_assoc, ← answersOne, answers]
      exact congrArg (fun byte => (log history).answers ++ [byte]) written.symm
    · rw [extended, relaysPair, ← relaysOne, relays]
      rfl

theorem extend_triple {point : Point} (byte : Byte) {current : List Byte}
    (queues : point.queues = true) (carries : ∀ more, isRelayed (current ++ more) = true)
    (records : ∀ before after history,
      before.usartToUsbBuffer.stored after.usartToUsbBuffer = byte →
      hostFrames (⟨.main point, before, after⟩ :: history) =
        (hostFrames history).modifyLast (· ++ [byte]) ∧
      (log (⟨.main point, before, after⟩ :: history)).answers = (log history).answers ∧
      (relayed (⟨.main point, before, after⟩ :: history)).frames =
        ((relayed history).extend byte).frames) :
    streaming.Triple (Streamed (Ending current)) (queue point byte)
      fun _ => Streamed (Ending (current ++ [byte])) := by
  refine queue_streamed queues (List.modifyLast (· ++ [byte]))
    (fun before after history written => (records before after history written).1)
    (fun _ => step_extend byte) ?_
  intro before after history written ending sorted
  obtain ⟨earlier, frames, _⟩ := ending
  obtain ⟨extended, answered, relayed⟩ := records before after history written
  have whole : isRelayed current = true := by
    have none := carries []
    rwa [List.append_nil] at none
  obtain ⟨answersOld, relaysOld⟩ := sort_relayed whole earlier
  obtain ⟨answersNew, relaysNew⟩ := sort_relayed (carries [byte]) earlier
  have answers := sorted.answers
  have relays := sorted.relays
  rw [frames] at answers relays
  rw [frames, List.modifyLast_concat] at extended
  refine ⟨?_, ?_⟩
  · rw [extended, answersNew, ← answersOld, answers, answered]
  · -- The frame that is being written is also the first one of the relay's own record.
    have own := congrArg List.reverse (relaysOld.symm.trans relays)
    rw [List.reverse_append, List.reverse_reverse, List.reverse_singleton,
      List.singleton_append] at own
    rw [extended, relaysNew, relayed, Relayed.extend, ← own, List.reverse_cons,
      List.reverse_reverse]

theorem relayCmd_streamed :
    streaming.Triple (Streamed AllWhole) (queue .relayCmd serialUsartData)
      fun _ => Streamed (Ending [serialUsartData]) := by
  have begins : ∀ before after history,
      before.usartToUsbBuffer.stored after.usartToUsbBuffer = serialUsartData →
      hostFrames (⟨.main .relayCmd, before, after⟩ :: history) =
        hostFrames history ++ [[serialUsartData]] := by
    intro before after history written
    simp only [hostFrames, writtenByte, written]
  refine queue_streamed rfl (· ++ [[serialUsartData]]) begins (fun _ => step_begin) ?_
  intro before after history written _ sorted
  have carries : isRelayed [serialUsartData] = true := rfl
  obtain ⟨answers, relays⟩ := sort_relayed carries (hostFrames history)
  refine ⟨?_, ?_⟩
  · rw [begins before after history written, answers, sorted.answers]
    rfl
  · rw [begins before after history written, relays, sorted.relays, ← List.reverse_cons]
    exact congrArg (fun byte => ([byte] :: (relayed history).frames).reverse) written.symm

/-- A frame with this many of its bytes copied. -/
def Copied (count : Byte) (copied : Nat) (frames : List (List Byte)) : Prop :=
  ∃ payload, payload.length = copied ∧ Ending (serialUsartData :: count :: payload) frames

theorem relayByte_streamed (count byte : Byte) (copied : Nat) :
    streaming.Triple (Streamed (Copied count copied)) (queue .relayByte byte)
      fun _ => Streamed (Copied count (copied + 1)) := by
  intro device history streamed
  obtain ⟨payload, length, ending⟩ := streamed.facts
  have extended : streaming.Triple (Streamed (Ending (serialUsartData :: count :: payload)))
      (queue .relayByte byte)
      fun _ => Streamed (Ending (serialUsartData :: count :: payload ++ [byte])) := by
    refine extend_triple byte rfl (fun _ => rfl) fun before after history written => ?_
    refine ⟨congrArg (fun byte => (hostFrames history).modifyLast (· ++ [byte])) written, rfl, ?_⟩
    exact congrArg (fun byte => ((relayed history).extend byte).frames) written
  refine (extended device history ⟨streamed.toSorted, streamed.stream, ending⟩).weaken ?_
  intro _ after later reached
  refine reached.imp fun frames ending => ⟨payload ++ [byte], ?_, ending⟩
  rw [List.length_append, length, List.length_singleton]

theorem relay_streamed : streaming.Triple (Streamed AllWhole) relay fun _ => Streamed AllWhole := by
  refine .seq (kept_quiet (.fetch fun _ => ⟨rfl, rfl, rfl⟩)) fun count => ?_
  refine .onlyIf steady_streamed (fun _ => ?_) fun _ _ _ streamed => streamed
  have counted : streaming.Triple (Streamed (Ending [serialUsartData])) (queue .relayCount count)
      fun _ => Streamed (Ending ([serialUsartData] ++ [count])) := by
    refine extend_triple count rfl (fun _ => rfl) fun before after history written => ?_
    refine ⟨congrArg (fun byte => (hostFrames history).modifyLast (· ++ [byte])) written, rfl, ?_⟩
    exact congrArg (fun byte => ((relayed history).extend byte).frames) written
  have copies : streaming.Triple (Streamed (Copied count 0))
      (each (List.range count.toNat) fun _ => do
        let byte ← .statement .relayTake
          (fun device => { device with serialRxBuffer := device.serialRxBuffer.remove })
          fun device => .done device.serialRxBuffer.peek
        queue .relayByte byte)
      fun _ => Streamed (Copied count count.toNat) := by
    refine .eachRange (fun copied => Streamed (Copied count copied)) steady_streamed
      fun index _ => ?_
    refine .seq (kept_quiet ⟨fun _ => ⟨rfl, rfl, rfl⟩, fun _ => trivial⟩) fun byte => ?_
    exact relayByte_streamed count byte index
  refine relayCmd_streamed.seq fun _ => counted.seq fun _ => ?_
  refine copies.conseq (fun _ _ streamed => ?_) fun _ _ _ streamed => ?_
  · exact streamed.imp fun frames ending => ⟨[], rfl, ending⟩
  · refine streamed.imp fun frames copied => ?_
    obtain ⟨payload, length, ending⟩ := copied
    exact ending.close (.inl ⟨count, payload, rfl, length.symm⟩)

theorem coversFrame_quiet : CoversFrame Quiet where
  removeSelect := fun _ _ => ⟨rfl, rfl, rfl⟩
  payload := fun _ _ _ _ _ => ⟨rfl, rfl, rfl⟩
  ports := fun _ _ _ => ⟨rfl, rfl, rfl⟩
  useSpi := fun _ => ⟨rfl, rfl, rfl⟩
  useUsart := fun _ => ⟨rfl, rfl, rfl⟩
  removeCmd := fun _ _ => ⟨rfl, rfl, rfl⟩
  removeSize := fun _ _ => ⟨rfl, rfl, rfl⟩

theorem receiveByte_streamed (received : Received) :
    streaming.Triple (Streamed AllWhole) (receiveByte received) fun _ => Streamed AllWhole := by
  refine .seq (kept_quiet ⟨fun _ => ⟨rfl, rfl, rfl⟩, fun _ => trivial⟩) fun complete => ?_
  refine .onlyIf steady_streamed (fun _ => ?_) fun _ _ _ streamed => streamed
  refine .seq (kept_quiet (serialProcess_within coversFrame_quiet received.pins)) fun accepted => ?_
  exact (verdict_triple accepted).seq fun _ => zero_triple accepted

theorem appUsbDataReceived_streamed (more : List Received) :
    streaming.Triple (Streamed AllWhole) (appUsbDataReceived more)
      fun _ => Streamed AllWhole :=
  .each (fun _ => Streamed AllWhole) steady_streamed more fun received _ _ =>
    receiveByte_streamed received

theorem appService_streamed :
    streaming.Triple (Streamed AllWhole) appService fun _ => Streamed AllWhole := by
  have covers : CoversTimeout Quiet := by
    intro point device timer timing
    refine ⟨?_, rfl, rfl⟩
    cases point <;> first | rfl | cases timing
  refine .seq (kept_quiet (serialTimeoutExpired_within covers)) fun due => ?_
  refine .onlyIf steady_streamed (fun _ => relay_streamed.seq fun _ => ?_)
    fun _ _ _ streamed => streamed
  exact kept_quiet (serialTimeoutRestart_within covers)

/-- What is known of the past between calls. -/
structure Recorded (history : Past) : Prop extends Sorted history where
  whole : AllWhole (hostFrames history)

theorem records_frames :
    transmitter.Records streaming (fun history => (hostFrames history).flatten) Recorded where
  undisturbed := fun _ _ _ handled => ⟨(endpoint_kept handled).2, (endpoint_kept handled).1⟩
  interrupt := fun _ _ _ _ =>
    ⟨rfl, fun recorded => ⟨⟨recorded.answers, recorded.relays⟩, recorded.whole⟩⟩
  main := by
    intro point own before after history
    have unqueued : point.queues = false := by
      simp only [Transmitter.points, transmitter, List.mem_cons, List.not_mem_nil, or_false] at own
      rcases own with rfl | rfl | rfl | rfl | rfl <;> rfl
    obtain ⟨frames, _⟩ := frames_unqueued unqueued before after history
    refine ⟨by rw [frames], fun recorded => ⟨recorded.toSorted.unqueued unqueued before after, ?_⟩⟩
    rw [frames]
    exact recorded.whole
  always := fun _ _ sent _ => sent

theorem flushReplies_streamed (results : List Bool) :
    streaming.Triple (Streamed AllWhole) (flushReplies results) fun _ => Streamed AllWhole := by
  rw [flushReplies_eq]
  refine (records_frames.preserves.flush results).conseq (fun _ _ streamed => ?_)
    fun _ _ _ streams => ?_
  · exact ⟨streamed.stream, streamed.toSorted, streamed.facts⟩
  · exact ⟨streams.facts.toSorted, streams.stream, streams.facts.whole⟩

theorem calls_streamed (entry : Call) (device : Device) (history : Past)
    (streamed : Streamed AllWhole device history) :
    streaming.Ensures (fun _ => Streamed AllWhole) (body entry) device
      (⟨.call entry, device, device⟩ :: history) := by
  have called : Streamed AllWhole device (⟨.call entry, device, device⟩ :: history) :=
    ⟨⟨streamed.answers, streamed.relays⟩, streamed.stream, streamed.facts⟩
  cases entry with
  | usbData more => exact appUsbDataReceived_streamed more _ _ called
  | flush results => exact flushReplies_streamed results _ _ called
  | service => exact appService_streamed _ _ called

theorem streamed_boot : Streamed AllWhole boot [] := by
  have empty : boot.usartToUsbBuffer.count = 0 := rfl
  refine ⟨⟨rfl, rfl⟩, ?_, nofun⟩
  rw [RingBuffer.contents_eq_nil_iff.mpr empty]
  rfl

theorem streamed_of_idle {choices : Choices} (room : Meets roomToQueue (after choices).history)
    (idle : (after choices).idle = true) :
    Streamed AllWhole (after choices).state (after choices).history :=
  streaming.run_between steady_streamed streamed_boot
    (fun entry device history streamed _ => calls_streamed entry device history streamed)
    choices room idle

theorem tokens_of_allWhole {frames : List (List Byte)} (whole : AllWhole frames) :
    hostFraming.tokens frames.flatten = frames :=
  Framing.tokens_flatten rfl fun frame member rest =>
    Framing.next_headed Nat.two_pos (whole frame member).length rest

theorem payloads_eq (frames : List (List Byte)) :
    payloads frames = frames.reverse.flatMap fun frame => frame.drop 2 := by
  induction frames with
  | nil => rfl
  | cons frame earlier ih =>
      rw [payloads, ih, List.reverse_cons, List.flatMap_append, List.flatMap_singleton]

theorem usartBytes_of_idle {choices : Choices}
    (received : Meets roomForByte (after choices).history)
    (idle : (after choices).idle = true) :
    payloads (relayed (after choices).history).frames ++
        (after choices).state.serialRxBuffer.contents =
      usartBytes (after choices).history := by
  have standing : Standing Settled 0 (after choices).state (after choices).history :=
    relaying.run_between steady_standing standing_boot
      (fun entry device history standing _ => calls_standing entry device history standing)
      choices received idle
  have carried := standing.carried
  rw [Carried, Relayed.bytes, standing.facts.1, List.append_nil] at carried
  exact carried

/-- As long as no ring is overrun and the link is not broken: the packets that the host
collects cut into frames, each a verdict or a number of USART bytes with their count. Together
with what is still on its way these are all verdicts that the parser has queued and all bytes
that the USART has received, in order, but for those in the serial ring. -/
theorem host_reads_frames (choices : Choices) (sender : Lufa.Sender)
    (inward : List Lufa.SendAction)
    (idle : (after choices).idle = true)
    (between : (Lufa.sending.run inward sender.attached).1.code = .idle)
    (taken : Lufa.sentBytes (Lufa.sending.run inward sender.attached).2 =
      (after choices).state.endpoint)
    (kept : .lost ∉ (Lufa.sending.run inward sender.attached).2)
    (room : Meets roomToQueue (after choices).history)
    (received : Meets roomForByte (after choices).history) :
    let collected := (Lufa.collected (Lufa.sending.run inward sender.attached).2).flatten
    let coming := (Lufa.sending.run inward sender.attached).1.bank ++
      (after choices).state.usartToUsbBuffer.contents
    hostFraming.tokens collected <+: hostFraming.tokens (collected ++ coming) ∧
      (hostFraming.tokens (collected ++ coming)).flatten = collected ++ coming ∧
      verdictBytes (hostFraming.tokens (collected ++ coming)) =
        (log (after choices).history).answers ∧
      (relayedFrames (hostFraming.tokens (collected ++ coming))).flatMap (fun frame =>
          frame.drop 2) ++ (after choices).state.serialRxBuffer.contents =
        usartBytes (after choices).history := by
  intro collected coming
  have streamed := streamed_of_idle room idle
  have stream : collected ++ coming = (hostFrames (after choices).history).flatten := by
    rw [← streamed.stream, ← taken, ← Lufa.collected_of_kept sender inward kept between,
      List.append_assoc]
  have tokens : hostFraming.tokens (collected ++ coming) = hostFrames (after choices).history := by
    rw [stream]
    exact tokens_of_allWhole streamed.facts
  refine ⟨hostFraming.tokens_initial _ _, ?_, ?_, ?_⟩
  · rw [tokens, stream]
  · rw [tokens]
    exact streamed.answers
  · rw [tokens, streamed.relays, ← payloads_eq]
    exact usartBytes_of_idle received idle

/-- A frame is acknowledged, two USART bytes are relayed and a third arrives on the way, and
four bytes get through. -/
def ackAndRelay : Choices :=
  onePacket [0x07, 0x00] 8 ++ burst [0x41, 0x42] [0x43] 11 ++
    [.call (.flush (.replicate 4 true))] ++ .replicate 12 .main

def fourBytes : List Lufa.SendAction :=
  [0x80, 0x00, 0x05, 0x02].flatMap (fun byte =>
    .call (.sendByte byte) :: .replicate 6 (.main ⟨false, false, false, 0⟩)) ++
  [.call .flush] ++ .replicate 7 (.main ⟨false, false, false, 0⟩) ++ [.inToken]

theorem host_reads_frames_ackAndRelay :
    (after ackAndRelay).state.endpoint = [0x80, 0x00, 0x05, 0x02] ∧
      verdictBytes (hostFraming.tokens ([0x80, 0x00, 0x05, 0x02] ++ [0x41, 0x42])) =
        (log (after ackAndRelay).history).answers := by
  refine ⟨by decide +kernel, ?_⟩
  have read := host_reads_frames ackAndRelay Lufa.openSender fourBytes
    (by decide +kernel) (by decide +kernel) (by decide +kernel) (by decide +kernel)
    (by decide +kernel) (by decide +kernel)
  have bytes :
      (Lufa.collected (Lufa.sending.run fourBytes Lufa.openSender.attached).2).flatten ++
        ((Lufa.sending.run fourBytes Lufa.openSender.attached).1.bank ++
          (after ackAndRelay).state.usartToUsbBuffer.contents) =
      [0x80, 0x00, 0x05, 0x02] ++ [0x41, 0x42] := by
    decide +kernel
  rw [← bytes]
  exact read.2.2.1

end MiniMiner.XilinxFpgaProg
