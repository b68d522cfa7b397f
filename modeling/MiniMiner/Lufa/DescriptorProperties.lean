import MiniMiner.Framing
import MiniMiner.Lufa.ControlRequestProperties

/-! What a host reads when it asks for a descriptor. Every descriptor begins with its own
length, so that a list of them can be cut; the configuration is such a list, and its endpoints
are those that the class driver allocates. -/

set_option autoImplicit false

namespace MiniMiner.Lufa

open LittleEndian

/-- A descriptor is as long as its first byte says. -/
def descriptorFraming : Framing Byte (List Byte) :=
  .headed 1 Nat.one_pos fun header => (header.headD 0).toNat - 1

/-- The length that the header of a descriptor gives for all of it. -/
def announcedLength (descriptor : List Byte) : Nat :=
  if descriptor.getD 1 0 = dtypeConfiguration then
    (descriptor.getD 2 0).toNat + 256 * (descriptor.getD 3 0).toNat
  else (descriptor.getD 0 0).toNat

/-- `USB_Endpoint_Table_t`, without the number of banks. -/
structure EndpointEntry where
  address : Byte
  type : Byte
  size : Nat
  deriving DecidableEq

def epTypeBulk : Byte := 0x02
def epTypeInterrupt : Byte := 0x03

/-- The endpoints of `VirtualSerial_CDC_Interface`, in the order in which
`CDC_Device_ConfigureEndpoints` gives them their types and configures them. -/
def endpointTable : List EndpointEntry :=
  [⟨cdcTxEpAddr, epTypeBulk, endpointSize⟩, ⟨cdcRxEpAddr, epTypeBulk, endpointSize⟩,
    ⟨cdcNotificationEpAddr, epTypeInterrupt, cdcNotificationEpSize⟩]

/-- `Endpoint_ConfigureEndpoint`. -/
def UsbDevice.configureEndpoint (device : UsbDevice) (entry : EndpointEntry) : UsbDevice :=
  let number := entry.address.toNat % 16
  { device with
    enabled := setBit device.enabled number, stalled := clearBit device.stalled number }

/-- The endpoint that an endpoint descriptor describes. -/
def describedEndpoint (descriptor : List Byte) : Option EndpointEntry :=
  if descriptor.getD 1 0 = dtypeEndpoint then
    some ⟨descriptor.getD 2 0, descriptor.getD 3 0,
      (descriptor.getD 4 0).toNat + 256 * (descriptor.getD 5 0).toNat⟩
  else none

/-- A descriptor by itself: its first byte is its length. -/
structure Part (descriptor : List Byte) : Prop where
  sized : (descriptor.headD 0).toNat = descriptor.length
  header : 2 ≤ descriptor.length

theorem Part.next {part : List Byte} (isPart : Part part) (rest : List Byte) :
    descriptorFraming.next (part ++ rest) = some (part, rest) := by
  obtain ⟨sized, header⟩ := isPart
  refine Framing.next_headed Nat.one_pos ?_ rest
  cases part with
  | nil => cases header
  | cons first others =>
      rw [List.headD_cons] at sized
      rw [List.take_succ_cons, List.headD_cons, sized]
      omega

theorem tokens_parts {parts : List (List Byte)} (each : ∀ part ∈ parts, Part part) :
    descriptorFraming.tokens parts.flatten = parts :=
  Framing.tokens_flatten rfl fun part member rest => (each part member).next rest

theorem interfaceDescriptor_part (number endpoints class_ subClass protocol : Byte) :
    Part (interfaceDescriptor number endpoints class_ subClass protocol) :=
  ⟨rfl, by simp [interfaceDescriptor]⟩

theorem endpointDescriptor_part (address attributes : Byte) (size : Nat) (interval : Byte) :
    Part (endpointDescriptor address attributes size interval) :=
  ⟨rfl, by simp [endpointDescriptor, le16]⟩

theorem describedEndpoint_endpointDescriptor (address attributes interval : Byte) {size : Nat}
    (fits : size < 2 ^ 16) :
    describedEndpoint (endpointDescriptor address attributes size interval) =
      some ⟨address, attributes, size⟩ := by
  have low : ((BitVec.ofNat 16 size).setWidth 8 : Byte).toNat = size % 256 := by
    rw [BitVec.toNat_setWidth, BitVec.toNat_ofNat, Nat.mod_eq_of_lt fits]
  have high : ((BitVec.ofNat 16 size >>> 8).setWidth 8 : Byte).toNat = size / 256 := by
    rw [BitVec.toNat_setWidth, BitVec.toNat_ushiftRight, BitVec.toNat_ofNat,
      Nat.mod_eq_of_lt fits, Nat.shiftRight_eq_div_pow]
    omega
  have whole : size % 256 + 256 * (size / 256) = size := Nat.mod_add_div size 256
  rw [← low, ← high] at whole
  exact congrArg (fun value => some (EndpointEntry.mk address attributes value)) whole

theorem length_stringDescriptor (characters : Nat) (text : List (BitVec 16)) :
    (stringDescriptor characters text).length = 2 + 2 * characters := by
  have units : ∀ places : List Nat,
      (places.flatMap fun index => le16 (text.getD index 0)).length = 2 * places.length := by
    intro places
    induction places with
    | nil => rfl
    | cons place places ih =>
        rw [List.flatMap_cons, List.length_append, ih, List.length_cons]
        simp only [le16, List.length_cons, List.length_nil]
        omega
  rw [stringDescriptor, List.length_append, units, List.length_range]
  rfl

/-- The length byte of a string has room for 126 characters. -/
theorem stringDescriptor_part {characters : Nat} (few : characters ≤ 126)
    (text : List (BitVec 16)) : Part (stringDescriptor characters text) := by
  have length := length_stringDescriptor characters text
  refine ⟨?_, by omega⟩
  rw [length]
  show (BitVec.ofNat 8 (2 + 2 * characters)).toNat = _
  rw [BitVec.toNat_ofNat]
  omega

theorem deviceDescriptor_part : Part deviceDescriptor := ⟨rfl, by decide⟩

def configurationParts : List (List Byte) :=
  [configurationHeader, interfaceDescriptor 0 1 0x02 0x02 0x01,
    [5, dtypeCSInterface, 0x00] ++ le16 0x0110, [4, dtypeCSInterface, 0x02, 0x06],
    [5, dtypeCSInterface, 0x06, 0, 1],
    endpointDescriptor cdcNotificationEpAddr 0x03 cdcNotificationEpSize 0xFF,
    interfaceDescriptor 1 2 0x0A 0x00 0x00, endpointDescriptor cdcRxEpAddr 0x02 endpointSize 0x05,
    endpointDescriptor cdcTxEpAddr 0x02 endpointSize 0x05]

theorem configurationDescriptor_eq : configurationDescriptor = configurationParts.flatten := by
  simp only [configurationDescriptor, configurationParts, List.flatten_cons, List.flatten_nil,
    List.append_nil, List.append_assoc]

theorem configurationParts_part : ∀ part ∈ configurationParts, Part part := by
  simp only [configurationParts, List.forall_mem_cons, List.not_mem_nil, false_implies,
    implies_true, and_true]
  exact ⟨⟨rfl, by decide⟩, interfaceDescriptor_part _ _ _ _ _, ⟨rfl, by decide⟩,
    ⟨rfl, by decide⟩, ⟨rfl, by decide⟩, endpointDescriptor_part _ _ _ _,
    interfaceDescriptor_part _ _ _ _ _, endpointDescriptor_part _ _ _ _,
    endpointDescriptor_part _ _ _ _⟩

theorem describedEndpoints_configuration :
    (configurationParts.filterMap describedEndpoint).Perm endpointTable := by
  have notification := describedEndpoint_endpointDescriptor cdcNotificationEpAddr 0x03 0xFF
    (show cdcNotificationEpSize < 2 ^ 16 by decide)
  have dataOut := describedEndpoint_endpointDescriptor cdcRxEpAddr 0x02 0x05
    (show endpointSize < 2 ^ 16 by decide)
  have dataIn := describedEndpoint_endpointDescriptor cdcTxEpAddr 0x02 0x05
    (show endpointSize < 2 ^ 16 by decide)
  have described : configurationParts.filterMap describedEndpoint =
      [⟨cdcNotificationEpAddr, 0x03, cdcNotificationEpSize⟩, ⟨cdcRxEpAddr, 0x02, endpointSize⟩,
        ⟨cdcTxEpAddr, 0x02, endpointSize⟩] := by
    simp only [configurationParts, List.filterMap_cons, notification, dataOut, dataIn]
    rfl
  rw [described]
  decide

/-- The state of the class driver is cleared, and the table is configured. -/
theorem configureEndpoints_eq (device : UsbDevice) :
    configureEndpoints device =
      endpointTable.foldl UsbDevice.configureEndpoint
        { device with lineEncoding := ⟨0, 0, 0, 0⟩, hostToDevice := 0 } := by
  have enabled : device.enabled ||| 0x1C =
      setBit (setBit (setBit device.enabled 3) 4) 2 := by
    rw [setBit, setBit, setBit, BitVec.or_assoc, BitVec.or_assoc]
    rfl
  have stalled : device.stalled &&& ~~~0x1C =
      clearBit (clearBit (clearBit device.stalled 3) 4) 2 := by
    rw [clearBit, clearBit, clearBit, BitVec.and_assoc, BitVec.and_assoc]
    rfl
  rw [configureEndpoints, enabled, stalled]
  rfl

/-- Only `REQ_GetDescriptor` is answered by a stream. -/
theorem Handling.streamed {signature : Vector Byte 10} {request : Request} {device : UsbDevice}
    {result : Response × UsbDevice} {bytes : List Byte}
    (handling : Handling signature request device result) (streamed : result.1 = .stream bytes) :
    request.wValue = 0x03DC ∧ bytes = internalSerialDescriptor signature ∨
      getDescriptor request.wValue = some bytes := by
  cases handling with
  | serial _ asked =>
      cases streamed
      exact .inl ⟨asked, rfl⟩
  | descriptor _ found =>
      cases streamed
      exact .inr found
  | _ => cases streamed

theorem getDescriptor_eq_some {wValue : BitVec 16} {descriptor : List Byte}
    (found : getDescriptor wValue = some descriptor) :
    ((wValue >>> 8).setWidth 8 = dtypeDevice ∧ descriptor = deviceDescriptor) ∨
      ((wValue >>> 8).setWidth 8 = dtypeConfiguration ∧ descriptor = configurationDescriptor) ∨
      ((wValue >>> 8).setWidth 8 = dtypeString ∧
        ∃ characters text, characters ≤ 126 ∧ descriptor = stringDescriptor characters text) := by
  simp only [getDescriptor] at found
  split at found
  · next device => exact .inl ⟨device, (Option.some.inj found).symm⟩
  split at found
  · next configuration => exact .inr (.inl ⟨configuration, (Option.some.inj found).symm⟩)
  split at found
  · next string =>
    refine .inr (.inr ⟨string, ?_⟩)
    split at found
    · exact ⟨_, _, by decide, (Option.some.inj found).symm⟩
    split at found
    · exact ⟨_, _, by decide, (Option.some.inj found).symm⟩
    split at found
    · exact ⟨_, _, by decide, (Option.some.inj found).symm⟩
    · cases found
  · cases found

/-- A descriptor of the type that was asked for, complete by its own header, and a list of
descriptors that each are as long as they say. -/
structure WellFormed (type : Byte) (descriptor : List Byte) : Prop where
  typed : descriptor.getD 1 0 = type
  announced : announcedLength descriptor = descriptor.length
  whole : (descriptorFraming.tokens descriptor).flatten = descriptor
  parts : ∀ part ∈ descriptorFraming.tokens descriptor, Part part

theorem Part.wellFormed {type : Byte} {descriptor : List Byte} (isPart : Part descriptor)
    (typed : descriptor.getD 1 0 = type) (single : type ≠ dtypeConfiguration) :
    WellFormed type descriptor := by
  have tokens : descriptorFraming.tokens descriptor = [descriptor] := by
    have cut := @tokens_parts [descriptor] fun part member => by
      rw [List.mem_singleton.mp member]
      exact isPart
    rwa [List.flatten_singleton] at cut
  refine ⟨typed, ?_, ?_, ?_⟩
  · rw [announcedLength, typed, if_neg single, ← isPart.sized]
    cases descriptor <;> rfl
  · rw [tokens, List.flatten_singleton]
  · rw [tokens]
    intro part member
    rw [List.mem_singleton.mp member]
    exact isPart

theorem tokens_configuration :
    descriptorFraming.tokens configurationDescriptor = configurationParts := by
  rw [configurationDescriptor_eq, tokens_parts configurationParts_part]

theorem configuration_wellFormed : WellFormed dtypeConfiguration configurationDescriptor where
  typed := rfl
  announced := rfl
  whole := by rw [tokens_configuration, configurationDescriptor_eq]
  parts := by
    rw [tokens_configuration]
    exact configurationParts_part

/-- Whatever request is answered with a descriptor, that of the internal serial number included:
the descriptor is well formed and of the type asked for. A configuration describes the endpoints
of the table, and a configuration of the device enables just these. -/
theorem descriptors_wellFormed (signature : Vector Byte 10) (request : Request)
    (device : UsbDevice) {descriptor : List Byte}
    (answered : (processControlRequest signature request device).1 = .stream descriptor) :
    WellFormed ((request.wValue >>> 8).setWidth 8) descriptor ∧
      ((request.wValue >>> 8).setWidth 8 = dtypeConfiguration →
        ((descriptorFraming.tokens descriptor).filterMap describedEndpoint).Perm endpointTable ∧
        configureEndpoints device =
          endpointTable.foldl UsbDevice.configureEndpoint
            { device with lineEncoding := ⟨0, 0, 0, 0⟩, hostToDevice := 0 }) := by
  have strings (type : (request.wValue >>> 8).setWidth 8 = dtypeString) {characters : Nat}
      (few : characters ≤ 126) (text : List (BitVec 16)) :
      WellFormed ((request.wValue >>> 8).setWidth 8) (stringDescriptor characters text) := by
    rw [type]
    exact (stringDescriptor_part few text).wellFormed rfl (by decide)
  rcases (handling_request signature request device).streamed answered with ⟨serial, rfl⟩ | found
  · have type : (request.wValue >>> 8).setWidth 8 = dtypeString := by
      rw [serial]
      rfl
    refine ⟨strings type (by decide) _, fun other => ?_⟩
    exact absurd (type.symm.trans other) (by decide)
  rcases getDescriptor_eq_some found with
    ⟨type, rfl⟩ | ⟨type, rfl⟩ | ⟨type, characters, text, few, rfl⟩
  · rw [type]
    exact ⟨deviceDescriptor_part.wellFormed rfl (by decide), fun other => absurd other (by decide)⟩
  · rw [type]
    refine ⟨configuration_wellFormed, fun _ => ⟨?_, configureEndpoints_eq device⟩⟩
    rw [tokens_configuration]
    exact describedEndpoints_configuration
  · exact ⟨strings type few text, fun other => absurd (type.symm.trans other) (by decide)⟩

/-- The serial number, in a device that is not configured. -/
theorem descriptors_wellFormed_serial :
    WellFormed dtypeString (internalSerialDescriptor (.replicate 10 0xA5)) :=
  (descriptors_wellFormed (.replicate 10 0xA5) ⟨0x80, 6, 0x03DC, 0x0409, 255, none, 0⟩
    ⟨.addressed, 3, true, 0, false, false, 1, 0, ⟨0, 0, 0, 0⟩, 0⟩ rfl).1

end MiniMiner.Lufa
