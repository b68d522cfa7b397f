import MiniMiner.XilinxFpgaProg.Parser

/-! The relay of USART bytes to the host. The receive interrupt appends to the
serial ring at any time, also between the count and the copies of a frame; it does
not look at the free space. -/

set_option autoImplicit false

namespace MiniMiner.XilinxFpgaProg

open LittleEndian Preemption Preemption.Program

/-- The frames queued by `appService` as written, the latest first, and the bytes
removed from the serial ring but not yet written. -/
structure Relayed where
  frames : List (List Byte)
  held : List Byte

namespace Relayed

def begin (relayed : Relayed) (byte : Byte) : Relayed :=
  { relayed with frames := [byte] :: relayed.frames }

def extend (relayed : Relayed) (byte : Byte) : Relayed :=
  match relayed.frames with
  | [] => relayed.begin byte
  | frame :: earlier => { relayed with frames := (frame ++ [byte]) :: earlier }

def take (relayed : Relayed) (byte : Byte) : Relayed :=
  { relayed with held := relayed.held ++ [byte] }

def release (relayed : Relayed) : Relayed := { relayed with held := relayed.held.tail }

end Relayed

def relayed : Past → Relayed
  | [] => ⟨[], []⟩
  | transition :: earlier =>
      match transition.label with
      | .main .relayCmd => (relayed earlier).begin (writtenByte transition)
      | .main .relayCount => (relayed earlier).extend (writtenByte transition)
      | .main .relayTake => (relayed earlier).take transition.source.serialRxBuffer.peek
      | .main .relayByte => ((relayed earlier).extend (writtenByte transition)).release
      | _ => relayed earlier

/-- The byte that the receive interrupt hands to `appSerialDataReceived`. -/
def receivedByte : Step → Option Byte
  | .interrupt (.usart byte true) => some byte
  | _ => none

def usartBytes : Past → List Byte
  | [] => []
  | transition :: earlier =>
      match receivedByte transition.label with
      | some byte => usartBytes earlier ++ [byte]
      | none => usartBytes earlier

/-- What follows the two bytes of the header, in the order of the frames. -/
def payloads : List (List Byte) → List Byte
  | [] => []
  | frame :: earlier => payloads earlier ++ frame.drop 2

/-- A frame whose count byte is the number of bytes that follow it. -/
def Counted (frame : List Byte) : Prop :=
  ∃ count payload, frame = serialUsartData :: count :: payload ∧ count.toNat = payload.length

/-- A reception finds a free place in the serial ring. -/
def roomForByte (label : Step) (device : Device) (_ : Past) : Prop :=
  (receivedByte label).isSome = true → device.serialRxBuffer.count.toNat < 64

instance (label : Step) (device : Device) (history : Past) :
    Decidable (roomForByte label device history) :=
  inferInstanceAs (Decidable (_ → _))

def Relayed.bytes (relayed : Relayed) : List Byte := payloads relayed.frames ++ relayed.held

def Carried (device : Device) (history : Past) : Prop :=
  (relayed history).bytes ++ device.serialRxBuffer.contents = usartBytes history

def relaying : Setting Point Device Interrupt Call where
  machine := firmware
  allowed := roomForByte
  always := Carried

/-- Facts about the frames, which no interrupt changes, and how many bytes at least
are in the serial ring. -/
structure Standing (facts : Relayed → Prop) (waiting : Nat) (device : Device) (history : Past) :
    Prop where
  facts : facts (relayed history)
  carried : Carried device history
  waiting : waiting ≤ device.serialRxBuffer.count.toNat

variable {facts : Relayed → Prop} {waiting : Nat}

theorem steady_standing : relaying.Steady (Standing facts waiting) where
  stable := by
    intro source before after history handled admitted standing
    cases source with
    | tick =>
        cases handled
        exact ⟨standing.facts, standing.carried, standing.waiting⟩
    | usart byte configured =>
        cases handled
        cases configured with
        | false => exact ⟨standing.facts, standing.carried, standing.waiting⟩
        | true =>
            have room : before.serialRxBuffer.count.toNat < 64 := admitted rfl
            have counted := before.serialRxBuffer.count_insert byte room
            refine ⟨standing.facts, ?_, standing.waiting.trans ?_⟩
            · show _ ++ (before.serialRxBuffer.insert byte).contents = usartBytes history ++ [byte]
              rw [before.serialRxBuffer.contents_insert byte room, ← standing.carried,
                List.append_assoc]
              rfl
            · show _ ≤ (before.serialRxBuffer.insert byte).count.toNat
              omega
  always := fun _ _ standing => standing.carried

/-- A byte is queued, and is no byte from the serial ring or one already removed. -/
theorem queue_standing {point : Point} {byte : Byte} {later : Relayed → Prop}
    (recorded : Relayed → Relayed)
    (records : ∀ before after history,
      before.usartToUsbBuffer.stored after.usartToUsbBuffer = byte →
      relayed (⟨.main point, before, after⟩ :: history) = recorded (relayed history))
    (step : ∀ relayed, facts relayed →
      later (recorded relayed) ∧ (recorded relayed).bytes = relayed.bytes) :
    relaying.Triple (Standing facts waiting) (queue point byte)
      fun _ => Standing later waiting := by
  refine .assign steady_standing steady_standing fun device history standing _ => ?_
  obtain ⟨reached, same⟩ := step _ standing.facts
  have written := device.usartToUsbBuffer.stored_insert byte
  refine ⟨?_, ?_, standing.waiting⟩
  · rw [records device _ history written]
    exact reached
  · unfold Carried
    rw [records device _ history written, same]
    exact standing.carried

/-- Every frame is complete, and no byte is on its way. -/
def Settled (relayed : Relayed) : Prop :=
  relayed.held = [] ∧ ∀ frame ∈ relayed.frames, Counted frame

def Begun (relayed : Relayed) : Prop :=
  relayed.held = [] ∧ ∃ earlier, relayed.frames = [serialUsartData] :: earlier ∧
    ∀ frame ∈ earlier, Counted frame

/-- The frame that is being written has this many payload bytes. -/
def Copying (count : Byte) (copied : Nat) (held : List Byte) (relayed : Relayed) : Prop :=
  relayed.held = held ∧ ∃ payload earlier,
    relayed.frames = (serialUsartData :: count :: payload) :: earlier ∧
      payload.length = copied ∧ ∀ frame ∈ earlier, Counted frame

theorem relayCmd_triple :
    relaying.Triple (Standing Settled waiting) (queue .relayCmd serialUsartData)
      fun _ => Standing Begun waiting := by
  refine queue_standing (fun relayed => relayed.begin serialUsartData) ?_ ?_
  · intro before after history written
    exact congrArg (relayed history).begin written
  · rintro ⟨frames, held⟩ ⟨rfl, counted⟩
    refine ⟨⟨rfl, frames, rfl, counted⟩, ?_⟩
    simp [Relayed.begin, Relayed.bytes, payloads]

theorem relayCount_triple (count : Byte) :
    relaying.Triple (Standing Begun waiting) (queue .relayCount count)
      fun _ => Standing (Copying count 0 []) waiting := by
  refine queue_standing (fun relayed => relayed.extend count) ?_ ?_
  · intro before after history written
    exact congrArg (relayed history).extend written
  · rintro ⟨frames, held⟩ ⟨rfl, earlier, rfl, counted⟩
    refine ⟨⟨rfl, [], earlier, rfl, rfl, counted⟩, ?_⟩
    simp [Relayed.extend, Relayed.bytes, payloads]

theorem relayByte_triple (count byte : Byte) (copied : Nat) :
    relaying.Triple (Standing (Copying count copied [byte]) waiting) (queue .relayByte byte)
      fun _ => Standing (Copying count (copied + 1) []) waiting := by
  refine queue_standing (fun relayed => (relayed.extend byte).release) ?_ ?_
  · intro before after history written
    exact congrArg (fun byte => ((relayed history).extend byte).release) written
  · rintro ⟨frames, held⟩ ⟨rfl, payload, earlier, rfl, length, counted⟩
    refine ⟨⟨rfl, payload ++ [byte], earlier, rfl, ?_, counted⟩, ?_⟩
    · rw [List.length_append, length]
      rfl
    · simp [Relayed.extend, Relayed.release, Relayed.bytes, payloads]

theorem relayTake_triple (count : Byte) (copied : Nat) :
    relaying.Triple (Standing (Copying count copied []) (waiting + 1))
      (.statement .relayTake
        (fun device => { device with serialRxBuffer := device.serialRxBuffer.remove })
        fun device => .done device.serialRxBuffer.peek)
      fun byte => Standing (Copying count copied [byte]) waiting := by
  refine .statement steady_standing (fun _ => steady_standing) ?_
  intro device history standing _
  have filled : device.serialRxBuffer.count ≠ 0 := by
    intro zero
    have none := standing.waiting
    rw [zero] at none
    cases none
  have counted := device.serialRxBuffer.count_remove filled
  have split := device.serialRxBuffer.contents_eq_peek_cons filled
  have more := standing.waiting
  obtain ⟨none, frames⟩ := standing.facts
  refine ⟨⟨?_, frames⟩, ?_, ?_⟩
  · show (relayed history).held ++ [device.serialRxBuffer.peek] = _
    rw [none]
    rfl
  · have carried := standing.carried
    unfold Carried at carried
    rw [split] at carried
    show payloads _ ++ ((relayed history).held ++ [device.serialRxBuffer.peek]) ++ _ = _
    rw [← List.append_assoc, List.append_assoc _ [device.serialRxBuffer.peek]]
    exact carried
  · show waiting ≤ device.serialRxBuffer.remove.count.toNat
    omega

/-- By induction on the copied bytes. Receptions during the loop are appended
behind the bytes that the frame has announced. -/
theorem copy_triple (count : Byte) :
    relaying.Triple (Standing (Copying count 0 []) count.toNat)
      (each (List.range count.toNat) fun _ => do
        let byte ← .statement .relayTake
          (fun device => { device with serialRxBuffer := device.serialRxBuffer.remove })
          fun device => .done device.serialRxBuffer.peek
        queue .relayByte byte)
      fun _ => Standing (Copying count count.toNat []) (count.toNat - count.toNat) := by
  refine Setting.Triple.eachRange
    (fun copied => Standing (Copying count copied []) (count.toNat - copied)) steady_standing ?_
  intro copied more
  have next : count.toNat - copied = count.toNat - (copied + 1) + 1 := by omega
  rw [next]
  exact (relayTake_triple count copied).seq fun byte => relayByte_triple count byte copied

theorem settled_of_copying {count : Byte} {relayed : Relayed}
    (copying : Copying count count.toNat [] relayed) : Settled relayed := by
  obtain ⟨none, payload, earlier, frames, length, counted⟩ := copying
  refine ⟨none, ?_⟩
  rw [frames]
  exact List.forall_mem_cons.mpr ⟨⟨count, payload, rfl, length.symm⟩, counted⟩

theorem Standing.imp {stronger : Relayed → Prop} {more : Nat} {device : Device} {history : Past}
    (standing : Standing stronger more device history)
    (weaken : ∀ relayed, stronger relayed → facts relayed) (fewer : waiting ≤ more) :
    Standing facts waiting device history :=
  ⟨weaken _ standing.facts, standing.carried, fewer.trans standing.waiting⟩

theorem relay_triple :
    relaying.Triple (Standing Settled 0) relay fun _ => Standing Settled 0 := by
  have checked : relaying.Triple (Standing Settled 0)
      (fetch .relayCheck fun device => device.serialRxBuffer.getCount.setWidth 8)
      fun count : Byte => Standing Settled count.toNat := by
    refine .fetch steady_standing (fun _ => steady_standing) fun device history standing _ => ?_
    refine ⟨standing.facts, standing.carried, ?_⟩
    rw [BitVec.toNat_setWidth]
    exact Nat.mod_le _ _
  refine checked.seq fun count => .onlyIf steady_standing (fun _ => ?_) fun _ _ _ standing => ?_
  · refine relayCmd_triple.seq fun _ => (relayCount_triple count).seq fun _ => ?_
    exact (copy_triple count).conseq (fun _ _ standing => standing) fun _ _ _ standing =>
      standing.imp (fun _ => settled_of_copying) (Nat.zero_le _)
  · exact standing.imp (fun _ settled => settled) (Nat.zero_le _)

def Point.relays : Point → Bool
  | .relayCmd | .relayCount | .relayTake | .relayByte => true
  | _ => false

structure Apart (point : Point) (before after : Device) : Prop where
  relays : point.relays = false
  serialRxBuffer : after.serialRxBuffer = before.serialRxBuffer

theorem Apart.keeps {point : Point} {before after : Device} (apart : Apart point before after) :
    relaying.Keeps (Standing facts waiting) point before after := by
  intro history _ standing
  have same : relayed (⟨.main point, before, after⟩ :: history) = relayed history := by
    have relays := apart.relays
    cases point <;> first | rfl | cases relays
  have bytes : usartBytes (⟨.main point, before, after⟩ :: history) = usartBytes history := rfl
  refine ⟨?_, ?_, ?_⟩
  · rw [same]
    exact standing.facts
  · unfold Carried
    rw [same, bytes, apart.serialRxBuffer]
    exact standing.carried
  · rw [apart.serialRxBuffer]
    exact standing.waiting

theorem coversReception_apart : CoversReception Apart where
  removeSelect := fun _ _ => ⟨rfl, rfl⟩
  payload := fun _ _ _ _ _ => ⟨rfl, rfl⟩
  ports := fun _ _ _ => ⟨rfl, rfl⟩
  useSpi := fun _ => ⟨rfl, rfl⟩
  useUsart := fun _ => ⟨rfl, rfl⟩
  removeCmd := fun _ _ => ⟨rfl, rfl⟩
  removeSize := fun _ _ => ⟨rfl, rfl⟩
  addByte := fun _ _ _ => ⟨rfl, rfl⟩
  verdict := fun _ _ => ⟨rfl, rfl⟩
  zero := fun _ _ => ⟨rfl, rfl⟩

theorem coversTimeout_apart : CoversTimeout Apart := by
  intro point device timer timing
  refine ⟨?_, rfl⟩
  cases point <;> first | rfl | cases timing

theorem coversFlush_apart : CoversFlush Apart where
  flushCount := fun _ => ⟨rfl, rfl⟩
  flushTimer := fun _ _ => ⟨rfl, rfl⟩
  flushRestart := fun _ _ => ⟨rfl, rfl⟩
  sendByte := fun _ _ => ⟨rfl, rfl⟩
  removeSent := fun _ _ => ⟨rfl, rfl⟩

theorem kept_apart {Value : Type} {program : Firmware Value} (within : program.Within Apart) :
    relaying.Triple (Standing facts waiting) program fun _ => Standing facts waiting :=
  .kept steady_standing (within.imp fun _ _ _ apart => apart.keeps)

theorem appService_relaying_triple :
    relaying.Triple (Standing Settled 0) appService fun _ => Standing Settled 0 := by
  refine .seq (kept_apart (serialTimeoutExpired_within coversTimeout_apart)) fun expired => ?_
  refine .onlyIf steady_standing (fun _ => relay_triple.seq fun _ => ?_)
    fun _ _ _ standing => standing
  exact kept_apart (serialTimeoutRestart_within coversTimeout_apart)

theorem calls_standing (entry : Call) (device : Device) (history : Past)
    (standing : Standing Settled 0 device history) :
    relaying.Ensures (fun _ => Standing Settled 0) (body entry) device
      (⟨.call entry, device, device⟩ :: history) := by
  have called : Standing Settled 0 device (⟨.call entry, device, device⟩ :: history) :=
    ⟨standing.facts, standing.carried, standing.waiting⟩
  cases entry with
  | usbData more =>
      exact kept_apart (appUsbDataReceived_within coversReception_apart more) _ _ called
  | flush results => exact kept_apart (flushReplies_within coversFlush_apart results) _ _ called
  | service => exact appService_relaying_triple _ _ called

theorem standing_boot : Standing Settled 0 boot [] := by
  refine ⟨⟨rfl, nofun⟩, ?_, Nat.zero_le _⟩
  have empty : boot.serialRxBuffer.count = 0 := rfl
  unfold Carried
  rw [RingBuffer.contents_eq_nil_iff.mpr empty]
  rfl

/-- If every reception finds room in the serial ring, then in every state of the run
the payloads queued so far, the byte on its way if there is one, and the bytes in
the serial ring are the bytes received so far. Between calls no byte is on its way,
and each frame is the command, the number of its payload bytes, and those bytes. -/
theorem usart_relay_lossless (choices : Choices)
    (room : Meets roomForByte (after choices).history) :
    payloads (relayed (after choices).history).frames ++ (relayed (after choices).history).held ++
        (after choices).state.serialRxBuffer.contents =
      usartBytes (after choices).history ∧
    ((after choices).idle = true →
      (relayed (after choices).history).held = [] ∧
      ∀ frame ∈ (relayed (after choices).history).frames, Counted frame) := by
  have calls := fun entry device history standing
      (_ : relaying.allowed (.call entry) device history) =>
    calls_standing entry device history standing
  constructor
  · exact relaying.run_always steady_standing standing_boot calls choices room
  · intro idle
    exact (relaying.run_between steady_standing standing_boot calls choices room idle).facts

/-- These bytes arrive one after the other, the timeout passes, and `appService` is
run to its end with these receptions after its first six statements. -/
def burst (bytes later : List Byte) (steps : Nat) : Choices :=
  bytes.map (fun byte => .interrupt (.usart byte true)) ++
    List.replicate 101 (.interrupt .tick) ++ [.call .service] ++ List.replicate 6 .main ++
    later.map (fun byte => .interrupt (.usart byte true)) ++ List.replicate steps .main

theorem usart_relay_lossless_burst :
    (after (burst [0x41, 0x42] [0x43] 10)).idle = true ∧
      payloads (relayed (after (burst [0x41, 0x42] [0x43] 10)).history).frames ++
          (after (burst [0x41, 0x42] [0x43] 10)).state.serialRxBuffer.contents =
        [0x41, 0x42, 0x43] := by
  have idle : (after (burst [0x41, 0x42] [0x43] 10)).idle = true := by decide +kernel
  have lossless := usart_relay_lossless (burst [0x41, 0x42] [0x43] 10) (by decide +kernel)
  have sent : usartBytes (after (burst [0x41, 0x42] [0x43] 10)).history = [0x41, 0x42, 0x43] := by
    decide +kernel
  rw [(lossless.2 idle).1, List.append_nil, sent] at lossless
  exact ⟨idle, lossless.1⟩

theorem usart_burst_overruns :
    (after (burst ((List.range 65).map (BitVec.ofNat 8)) [] 140)).idle = true ∧
      usartBytes (after (burst ((List.range 65).map (BitVec.ofNat 8)) [] 140)).history =
        (List.range 65).map (BitVec.ofNat 8) ∧
      (relayed (after (burst ((List.range 65).map (BitVec.ofNat 8)) [] 140)).history).frames =
        [serialUsartData :: 65 :: 64 :: ((List.range 65).map (BitVec.ofNat 8)).tail] ∧
      (after (burst ((List.range 65).map (BitVec.ofNat 8)) [] 140)).state.serialRxBuffer.contents =
        [] := by
  decide +kernel

end MiniMiner.XilinxFpgaProg
