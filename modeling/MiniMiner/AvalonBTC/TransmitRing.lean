import MiniMiner.AvalonBTC.Replies

/-! The transmit ring. Replies are the only insertions and the pass over the ring
in the loop of `main` the only removals; `usbWrite` does not look at the free
space. -/

set_option autoImplicit false

namespace MiniMiner.AvalonBTC

open LittleEndian Preemption Preemption.Program

def Caller.frameSize : Caller → Nat
  | .command .I => 14
  | _ => 7

/-- An assertion about the transmit ring: the statements that leave the ring alone
keep it, so only the replies and the pass over the ring are left to prove. -/
structure RingBoundary (setting : Setting Point Device Interrupt Call)
    (between : Device → Past → Prop) : Prop where
  steady : setting.Steady between
  call : ∀ entry device history,
    between device history → between device (⟨.call entry, device, device⟩ :: history)
  keeps : ∀ point before after, point.mute = true →
    after.usartToUsbBuffer = before.usartToUsbBuffer → setting.Keeps between point before after
  sends : ∀ caller cmd data size, caller.frameSize = size + 1 →
    setting.Triple between (sendCmdReply caller cmd data size) fun _ => between
  flush : ∀ results, setting.Triple between (flushReplies results) fun _ => between

namespace RingBoundary

variable {setting : Setting Point Device Interrupt Call} {between : Device → Past → Prop}
  (ring : RingBoundary setting between)
include ring

theorem aside {point : Point} {effect : Device → Device} (mute : point.mute = true)
    (same : ∀ device, (effect device).usartToUsbBuffer = device.usartToUsbBuffer) :
    setting.Triple between (assign point effect) fun _ => between :=
  .kept ring.steady (.assign fun device => ring.keeps _ _ _ mute (same device))

theorem asic (caller : Caller) : CoversAsic (setting.Keeps between) caller where
  clearReportCount := fun _ _ => ring.keeps _ _ _ rfl rfl
  clearReportValid := fun _ _ => ring.keeps _ _ _ rfl rfl
  resetLow := fun _ => ring.keeps _ _ _ rfl rfl
  resetHigh := fun _ => ring.keeps _ _ _ rfl rfl
  disableSpi := fun _ => ring.keeps _ _ _ rfl rfl
  enableSpi := fun _ => ring.keeps _ _ _ rfl rfl

theorem stop (caller : Caller) : setting.Triple between (asicStop caller) fun _ => between :=
  .kept ring.steady (asicStop_within (ring.asic caller))

theorem reset (caller : Caller) : setting.Triple between (asicReset caller) fun _ => between :=
  .kept ring.steady (asicReset_within (ring.asic caller))

theorem resetSpi (caller : Caller) :
    setting.Triple between (asicResetSpi caller) fun _ => between :=
  .kept ring.steady (asicResetSpi_within (ring.asic caller))

theorem setState (caller : Caller) (value : Byte) :
    setting.Triple between (setState caller value) fun _ => between :=
  ring.aside rfl fun _ => rfl

theorem setNonce (caller : Caller) (value : Word) :
    setting.Triple between (setNonce caller value) fun _ => between :=
  ring.aside rfl fun _ => rfl

theorem setNonceValid (caller : Caller) (value : Byte) :
    setting.Triple between (setNonceValid caller value) fun _ => between :=
  ring.aside rfl fun _ => rfl

theorem serviceReport : setting.Triple between serviceReport fun _ => between := by
  have read : asicGetNonce.Within (setting.Keeps between) :=
    .bind (clearReport_within (ring.asic .report) _) fun _ =>
      .fetch fun _ => ring.keeps _ _ _ rfl rfl
  refine .seq (.kept ring.steady read) fun nonce => ?_
  refine .seq (ring.aside rfl fun _ => rfl) fun _ => ?_
  refine (ring.stop .report).seq fun _ => (ring.resetSpi .report).seq fun _ => ?_
  refine (ring.setState .report _).seq fun _ => .seq (ring.aside rfl fun _ => rfl) fun _ => ?_
  refine (ring.setNonce .report _).seq fun _ => (ring.setNonceValid .report _).seq fun _ => ?_
  exact ring.sends _ _ _ _ rfl

theorem serviceExpiry : setting.Triple between serviceExpiry fun _ => between := by
  refine (ring.stop .expiry).seq fun _ => (ring.resetSpi .expiry).seq fun _ => ?_
  refine (ring.setState .expiry _).seq fun _ => ?_
  refine (ring.setNonce .expiry _).seq fun _ => (ring.setNonceValid .expiry _).seq fun _ => ?_
  exact ring.sends _ _ _ _ rfl

theorem service : setting.Triple between appService fun _ => between := by
  have tested : asicReportValid.Within (setting.Keeps between) :=
    .fetch fun _ => ring.keeps _ _ _ rfl rfl
  have expired : workTimerExpired.Within (setting.Keeps between) :=
    ⟨fun _ => ring.keeps _ _ _ rfl rfl, fun _ => trivial⟩
  refine .seq (.kept ring.steady tested) fun _ => ?_
  refine .seq (.onlyIf ring.steady (fun _ => ring.serviceReport) fun _ _ _ holds => holds)
    fun _ => ?_
  refine .seq (.kept ring.steady expired) fun _ => ?_
  exact .onlyIf ring.steady (fun _ => ring.serviceExpiry) fun _ _ _ holds => holds

theorem work : setting.Triple between commandW fun _ => between := by
  have fill : CoversFill (setting.Keeps between) :=
    ⟨fun _ _ _ _ => ring.keeps _ _ _ rfl rfl, fun _ _ _ _ => ring.keeps _ _ _ rfl rfl⟩
  have line : ∀ device value,
      setting.Keeps between .dataPort device { device with portb := value } :=
    fun _ _ => ring.keeps _ _ _ rfl rfl
  refine .seq (ring.aside rfl fun _ => rfl) fun _ => ?_
  refine .seq (.kept ring.steady (fillWork_within fill)) fun _ => ?_
  refine .seq (ring.aside rfl fun _ => rfl) fun _ => ?_
  refine (ring.setState _ _).seq fun _ => (ring.setNonceValid _ _).seq fun _ => ?_
  refine (ring.setNonce _ _).seq fun _ => (ring.reset _).seq fun _ => ?_
  refine (ring.resetSpi _).seq fun _ => ?_
  refine .seq (.kept ring.steady (.fetch fun _ => ring.keeps _ _ _ rfl rfl)) fun work => ?_
  refine .seq (.kept ring.steady (pushWork_within line work)) fun _ => ?_
  exact .seq (ring.aside rfl fun _ => rfl) fun _ => ring.sends _ _ _ _ rfl

theorem single (count : BitVec 16) {command : Command} (notW : command ≠ .W) :
    setting.Triple between (dispatch count command) fun _ => between := by
  have removed : setting.Triple between (removeCommand command) fun _ => between :=
    ring.aside rfl fun _ => rfl
  cases command with
  | L => exact removed.seq fun _ => ring.aside rfl fun _ => rfl
  | R =>
      refine removed.seq fun _ => (ring.reset _).seq fun _ => (ring.resetSpi _).seq fun _ => ?_
      exact (ring.setState _ _).seq fun _ => ring.sends _ _ _ _ rfl
  | I => exact removed.seq fun _ => ring.sends _ _ _ _ rfl
  | A =>
      refine removed.seq fun _ => (ring.setState _ _).seq fun _ => ?_
      exact (ring.stop _).seq fun _ => ring.sends _ _ _ _ rfl
  | S => exact removed.seq fun _ => ring.sends _ _ _ _ rfl
  | W => exact absurd rfl notW
  | other byte => exact removed

theorem boundary : Boundary setting between where
  steady := ring.steady
  call := fun entry device history _ holds => ring.call entry device history holds
  receive := fun _ _ => ring.keeps _ _ _ rfl rfl
  getCount := fun _ => ring.keeps _ _ _ rfl rfl
  peekCommand := fun _ => ring.keeps _ _ _ rfl rfl
  single := fun count _ notW => ring.single count notW
  work := ring.work
  flush := ring.flush
  service := fun device history _ holds => ring.service _ _ (ring.call .service device history holds)

end RingBoundary

/-- The statements that write a reply insert one byte each. -/
def Inserts (history : Past) : Prop :=
  ∀ transition ∈ history, writesReply transition.label = true →
    transition.target.usartToUsbBuffer.count = transition.source.usartToUsbBuffer.count + 1

def inserting : Setting Point Device Interrupt Call where
  machine := firmware
  allowed := fun _ _ _ => True
  always := fun _ => Inserts

theorem Inserts.later {label : Step} {before after : Device} {history : Past}
    (inserts : Inserts history)
    (inserted : writesReply label = true →
      after.usartToUsbBuffer.count = before.usartToUsbBuffer.count + 1) :
    Inserts (⟨label, before, after⟩ :: history) :=
  List.forall_mem_cons.mpr ⟨inserted, inserts⟩

theorem writesReply_mute {point : Point} (mute : point.mute = true) :
    writesReply (.main point) = false := by
  cases point <;> first | rfl | cases mute

theorem keeps_inserts_mute {point : Point} (mute : point.mute = true) (before after : Device) :
    inserting.Keeps (fun _ => Inserts) point before after := by
  intro history _ inserts
  refine inserts.later fun writes => ?_
  rw [writesReply_mute mute] at writes
  cases writes

theorem steady_inserts : inserting.Steady fun _ => Inserts where
  stable := fun _ _ _ _ _ _ inserts => inserts.later nofun
  always := fun _ _ inserts => inserts

theorem ringBoundary_inserts : RingBoundary inserting fun _ => Inserts where
  steady := steady_inserts
  call := fun _ _ _ inserts => inserts.later nofun
  keeps := fun _ before after mute _ => keeps_inserts_mute mute before after
  sends := by
    intro caller cmd data size _
    have written (offset : Nat) (data : Device → List Byte) (size : Nat) :
        (usbWrite caller offset data size).Within (inserting.Keeps fun _ => Inserts) :=
      .each fun _ _ => .assign fun _ _ _ inserts => inserts.later fun _ => rfl
    exact .kept steady_inserts (.bind (written _ _ _) fun _ => written _ _ _)
  flush := by
    intro results
    refine .kept steady_inserts (flushReplies_within ?_ results)
    constructor
    all_goals intros
    all_goals exact keeps_inserts_mute rfl _ _

theorem inserts_run (choices : Choices) : Inserts (after choices).history := by
  have initial : Inserts [] := fun _ member => by cases member
  have boundary := ringBoundary_inserts.boundary
  exact inserting.run_always boundary.steady initial boundary.calls choices
    (Meets.trivial _)

/-- A run that never has more than 256 bytes in the ring finds room for every byte
it writes. -/
theorem withinTransmitRing_of_states {choices : Choices}
    (within : ∀ early, early <+: choices →
      (after early).state.usartToUsbBuffer.count.toNat ≤ 256) :
    Meets withinTransmitRing (after choices).history := by
  induction choices using List.reverseRecOn with
  | nil => trivial
  | append_singleton choices choice ih =>
      have earlier := ih fun early before => within early (before.trans (List.prefix_append _ _))
      have before := within choices (List.prefix_append _ _)
      have reached := within (choices ++ [choice]) (List.prefix_refl _)
      have inserts := inserts_run (choices ++ [choice])
      have last : after (choices ++ [choice]) = firmware.advance (after choices) choice :=
        firmware.run_append choices [choice] _
      rw [last] at reached inserts ⊢
      rcases firmware.advance_step (after choices) choice with same | step
      · rw [same]
        exact earlier
      generalize after choices = config at *
      generalize firmware.advance config choice = next at *
      have fits {label : Step} {source target : Device} {history : Past}
          (inserts : Inserts (⟨label, source, target⟩ :: history))
          (before : source.usartToUsbBuffer.count.toNat ≤ 256)
          (reached : target.usartToUsbBuffer.count.toNat ≤ 256) :
          withinTransmitRing label source history := by
        intro writes
        have inserted := (List.forall_mem_cons.mp inserts).1 writes
        change target.usartToUsbBuffer.count = source.usartToUsbBuffer.count + 1 at inserted
        rw [inserted, BitVec.toNat_add] at reached
        change (source.usartToUsbBuffer.count.toNat + 1) % 2 ^ 16 ≤ 256 at reached
        omega
      cases step <;> exact ⟨fits inserts before reached, earlier⟩

/-- As long as the transmit ring never holds more than 256 bytes, the endpoint and
the ring hold the replies in order, whatever the results of the sends: between
calls exactly, and in the middle of a call the endpoint has received an initial
part, of which only the last reply can be incomplete. -/
theorem reply_stream_lossless (choices : Choices)
    (within : ∀ early, early <+: choices →
      (after early).state.usartToUsbBuffer.count.toNat ≤ 256) :
    ((after choices).idle = true →
      (after choices).state.endpoint ++ (after choices).state.usartToUsbBuffer.contents =
        (replies (after choices).history).flatMap Reply.frame) ∧
    (after choices).state.endpoint <+: (replies (after choices).history).flatMap Reply.bytes ∧
    ∃ complete rest, replies (after choices).history = complete ++ rest ∧ rest.length ≤ 1 ∧
      (∀ reply ∈ complete, reply.bytes = reply.frame) ∧
      ∀ reply ∈ rest, reply.bytes <+: reply.frame := by
  have fits := withinTransmitRing_of_states within
  obtain ⟨sent, parts, _⟩ := replies_run choices fits
  refine ⟨fun idle => ?_, sent, parts⟩
  have replied : Replied (after choices).state (after choices).history :=
    replying.run_between boundary_replied.steady replied_boot boundary_replied.calls choices
      (meets_replying choices fits) idle
  rw [List.flatMap_congr fun reply member => (replied.complete reply member).symm]
  exact replied.stream

/-- A status reply of which two bytes are sent before an error, and an identity
reply behind it. -/
def twoReplies : Choices :=
  [.call (.usbData [0x53])] ++ List.replicate 11 .main ++
    [.call (.flush [true, true, false])] ++ List.replicate 8 .main ++
    [.call (.usbData [0x49])] ++ List.replicate 18 .main

theorem reply_stream_lossless_twoReplies :
    (replies (after twoReplies).history).map Reply.caller = [.command .S, .command .I] ∧
      (after twoReplies).state.endpoint.length = 2 ∧
      (after twoReplies).state.endpoint ++ (after twoReplies).state.usartToUsbBuffer.contents =
        (replies (after twoReplies).history).flatMap Reply.frame := by
  refine ⟨by decide +kernel, by decide +kernel, (reply_stream_lossless twoReplies ?_).1 ?_⟩
  · have bounded : ∀ count < 41,
        (after (twoReplies.take count)).state.usartToUsbBuffer.count.toNat ≤ 256 := by
      decide +kernel
    intro early before
    rw [List.prefix_iff_eq_take.mp before]
    exact bounded _ (Nat.lt_succ_of_le before.length_le)
  · decide +kernel

def replyBegun : Step → Option Caller
  | .main (.write caller 0) => some caller
  | _ => none

/-- A reply is begun only if the ring has room for all of it. -/
def roomForReply (label : Step) (device : Device) (_ : Past) : Prop :=
  ∀ caller ∈ replyBegun label, device.usartToUsbBuffer.count.toNat + caller.frameSize ≤ 256

instance (label : Step) (device : Device) (history : Past) :
    Decidable (roomForReply label device history) :=
  inferInstanceAs (Decidable (∀ caller ∈ replyBegun label,
    device.usartToUsbBuffer.count.toNat + caller.frameSize ≤ 256))

def reserving : Setting Point Device Interrupt Call where
  machine := firmware
  allowed := roomForReply
  always := fun device _ => device.usartToUsbBuffer.count.toNat ≤ 256

def Room (bytes : Nat) (device : Device) (_ : Past) : Prop :=
  device.usartToUsbBuffer.count.toNat + bytes ≤ 256

theorem steady_room (bytes : Nat) : reserving.Steady (Room bytes) where
  stable := by
    intro source before after history handled _ room
    unfold Room
    rw [(endpoint_handled handled).2.1]
    exact room
  always := fun _ _ room => Nat.le_trans (Nat.le_add_right _ _) room

theorem Room.insert {bytes : Nat} {device : Device} {earlier later : Past}
    (room : Room (bytes + 1) device earlier) (byte : Byte) :
    Room bytes { device with usartToUsbBuffer := device.usartToUsbBuffer.insert byte } later := by
  unfold Room at room
  have counted := device.usartToUsbBuffer.count_insert byte (by omega)
  show (device.usartToUsbBuffer.insert byte).count.toNat + bytes ≤ 256
  omega

theorem sendCmdReply_room_triple {caller : Caller} {size : Nat} (cmd : Byte)
    (data : Device → List Byte) (sized : caller.frameSize = size + 1) :
    reserving.Triple (Room 0) (sendCmdReply caller cmd data size) fun _ => Room 0 := by
  have first : reserving.Triple (Room 0) (usbWrite caller 0 (fun _ => [cmd]) 1)
      fun _ => Room size := by
    refine .seq (.assign (steady_room 0) (steady_room size) ?_) fun _ => .done (steady_room size)
    intro device history _ admitted
    have room : Room caller.frameSize device history := admitted caller rfl
    rw [sized] at room
    exact room.insert _
  have rest : reserving.Triple (Room (size - 0)) (usbWrite caller 1 data size)
      fun _ => Room (size - size) := by
    refine Setting.Triple.eachRange (fun index => Room (size - index)) (steady_room _) ?_
    intro index inside
    have left : size - index = size - (index + 1) + 1 := by omega
    rw [left]
    exact .assign (steady_room _) (steady_room _) fun _ _ room _ => room.insert _
  rw [Nat.sub_self] at rest
  exact first.seq fun _ => rest

theorem keeps_room {point : Point} {before after : Device}
    (same : after.usartToUsbBuffer = before.usartToUsbBuffer) :
    reserving.Keeps (Room 0) point before after := by
  intro history _ room
  unfold Room
  rw [same]
  exact room

theorem preserves_room : transmitter.Preserves reserving (Room 0) (Room 0) where
  steadyWhole := steady_room 0
  steadyHalf := steady_room 0
  undisturbed := fun _ _ _ handled => (endpoint_handled handled).2.1
  flushCount := fun _ => keeps_room rfl
  flushTimer := fun _ => keeps_room rfl
  flushRestart := fun _ => keeps_room rfl
  refused := fun _ => keeps_room rfl
  sent := fun _ _ _ room _ => room
  removed := by
    intro device history nonempty room _
    have bounded : device.usartToUsbBuffer.count.toNat + 0 ≤ 256 := room
    have counted := device.usartToUsbBuffer.count_remove nonempty
    show device.usartToUsbBuffer.remove.count.toNat + 0 ≤ 256
    omega

theorem flushReplies_room_triple (results : List Bool) :
    reserving.Triple (Room 0) (flushReplies results) fun _ => Room 0 := by
  rw [flushReplies_eq]
  exact preserves_room.flush results

theorem ringBoundary_room : RingBoundary reserving (Room 0) where
  steady := steady_room 0
  call := fun _ _ _ room => room
  keeps := fun _ _ _ _ same => keeps_room same
  sends := fun _ cmd data _ sized => sendCmdReply_room_triple cmd data sized
  flush := flushReplies_room_triple

/-- In every run in which a reply is begun only if there is room for it, the ring
never holds more bytes than its size. -/
theorem transmit_ring_bounded (choices : Choices)
    (room : Meets roomForReply (after choices).history) :
    (after choices).state.usartToUsbBuffer.count.toNat ≤ 256 := by
  have boundary := ringBoundary_room.boundary
  have empty : Room 0 boot [] := by
    show 0 + 0 ≤ 256
    decide
  exact reserving.run_always boundary.steady empty boundary.calls choices room

theorem transmit_ring_bounded_twoReplies :
    (after twoReplies).state.usartToUsbBuffer.count.toNat ≤ 256 :=
  transmit_ring_bounded twoReplies (by decide +kernel)

/-- One pass of the loop of `main` with a host that asks for the status and does
not read the replies. -/
def unreadPass : Choices :=
  [.call (.usbData [0x53])] ++ List.replicate 11 .main ++
    [.call (.flush [false])] ++ List.replicate 4 .main ++
    [.call .service] ++ List.replicate 2 .main

/-- Thirty-six replies fit; the next one is written over the first. -/
theorem transmit_ring_overrun :
    ¬ ∀ choices, (after choices).state.usartToUsbBuffer.count.toNat ≤ 256 := by
  intro bounded
  have held := bounded (List.replicate 37 unreadPass).flatten
  revert held
  decide +kernel

end MiniMiner.AvalonBTC
