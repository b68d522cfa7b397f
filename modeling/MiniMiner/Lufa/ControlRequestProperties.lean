import Mathlib.Data.List.Induction
import MiniMiner.Lufa.ControlRequest

/-! Every control request is answered in the direction it asks for, and what it changes is
known; the line encoding is followed over whole sessions of requests and bus events. -/

set_option autoImplicit false

namespace MiniMiner.Lufa

open LittleEndian

/-- The host asks for data. -/
def Request.Reads (request : Request) : Prop := request.bmRequestType &&& deviceToHost ≠ 0

instance (request : Request) : Decidable request.Reads :=
  inferInstanceAs (Decidable (_ ≠ _))

/-- An answer in the direction of the request; only a request to the device can change it. -/
inductive Answered (request : Request) (device : UsbDevice) : Response × UsbDevice → Prop where
  | data (reads : request.Reads) (bytes : List Byte) : Answered request device (.data bytes, device)
  | stream (reads : request.Reads) (bytes : List Byte) :
      Answered request device (.stream bytes, device)
  | acknowledged (writes : ¬ request.Reads) (next : UsbDevice) :
      Answered request device (.acknowledged, next)
  | abandoned (writes : ¬ request.Reads) : Answered request device (.abandoned, device)

/-- A `CDC_REQ_SetLineEncoding` whose data arrive. -/
def Request.SetsLine (request : Request) : Prop :=
  request.wIndex = 0 ∧ request.bRequest = 0x20 ∧
    request.bmRequestType = classRequest ||| interfaceRecipient ∧ request.data.isSome = true

/-- A `REQ_SetConfiguration` with a configuration that exists. -/
def Request.Configures (request : Request) : Prop :=
  request.bRequest = 9 ∧ request.bmRequestType = 0 ∧ ¬ request.wValue.setWidth 8 > (1 : Byte)

instance (request : Request) : Decidable request.SetsLine :=
  inferInstanceAs (Decidable (_ ∧ _ ∧ _ ∧ _))

instance (request : Request) : Decidable request.Configures :=
  inferInstanceAs (Decidable (_ ∧ _ ∧ ¬ _))

/-- All that a control request can do, with what it asks for in each case. -/
inductive Handling (signature : Vector Byte 10) (request : Request) (device : UsbDevice) :
    Response × UsbDevice → Prop where
  | stalled : Handling signature request device (.stalled, device)
  | data (reads : request.Reads) (bytes : List Byte) :
      Handling signature request device (.data bytes, device)
  | serial (reads : request.Reads) (asked : request.wValue = 0x03DC) :
      Handling signature request device (.stream (internalSerialDescriptor signature), device)
  | descriptor (reads : request.Reads) {bytes : List Byte}
      (found : getDescriptor request.wValue = some bytes) :
      Handling signature request device (.stream bytes, device)
  | abandoned (writes : ¬ request.Reads) : Handling signature request device (.abandoned, device)
  | ignored (writes : ¬ request.Reads) : Handling signature request device (.acknowledged, device)
  | lineEncoding (sets : request.SetsLine) {data : List Byte} (sent : request.data = some data) :
      Handling signature request device
        (.acknowledged, { device with lineEncoding := readLineEncoding data request.floating })
  | controlLine (writes : ¬ request.Reads) :
      Handling signature request device
        (.acknowledged, { device with hostToDevice := request.wValue })
  | remoteWakeup (writes : ¬ request.Reads) (enabled : Bool) :
      Handling signature request device
        (.acknowledged, { device with remoteWakeupEnabled := enabled })
  | halt (command : request.bRequest = 1 ∨ request.bRequest = 3)
      (typed : request.bmRequestType = endpointRecipient)
      (feature : request.wValue.setWidth 8 = (0 : Byte))
      (enabled : device.enabled.getLsbD request.endpointIndex = true) :
      Handling signature request device
        (.acknowledged,
          { device with
            stalled := if request.bRequest = 3 then setBit device.stalled request.endpointIndex
              else clearBit device.stalled request.endpointIndex })
  | address (addresses : request.bRequest = 5 ∧ request.bmRequestType = 0) :
      Handling signature request device
        (.acknowledged,
          { device with
            address := request.wValue.setWidth 8 &&& 0x7F, addressSet := true
            deviceState :=
              if request.wValue.setWidth 8 &&& (0x7F : Byte) ≠ 0 then .addressed else .default })
  | configuration (configures : request.Configures) :
      Handling signature request device
        (.acknowledged, configureEndpoints
          { device with
            configurationNumber := request.wValue.setWidth 8
            deviceState := resumedState
              { device with configurationNumber := request.wValue.setWidth 8 } })

section

variable {signature : Vector Byte 10} {request : Request} {device : UsbDevice}
  {result : Response × UsbDevice}

theorem reads_of_type {type : Byte} (typed : request.bmRequestType = type)
    (direction : type &&& deviceToHost ≠ 0) : request.Reads := by
  rw [Request.Reads, typed]
  exact direction

theorem writes_of_type {type : Byte} (typed : request.bmRequestType = type)
    (direction : type &&& deviceToHost = 0) : ¬ request.Reads := by
  rw [Request.Reads, typed]
  exact not_not.mpr direction

theorem handling_cdc (handled : processCdcRequest request device = some result) :
    Handling signature request device result := by
  unfold processCdcRequest at handled
  split at handled
  · cases handled
  next index =>
  split at handled
  · split at handled
    · next typed =>
      cases handled
      exact .data (reads_of_type typed (by decide)) _
    · cases handled
  split at handled
  · next command =>
    split at handled
    · next typed =>
      split at handled
      · cases handled
        exact .abandoned (writes_of_type typed (by decide))
      · next data sent =>
        cases handled
        exact .lineEncoding ⟨not_not.mp index, command, typed, by rw [sent]; rfl⟩ sent
    · cases handled
  split at handled
  · split at handled
    · next typed =>
      cases handled
      exact .controlLine (writes_of_type typed (by decide))
    · cases handled
  split at handled
  · split at handled
    · next typed =>
      cases handled
      exact .ignored (writes_of_type typed (by decide))
    · cases handled
  · cases handled

theorem handling_getStatus (handled : getStatus request device = some result) :
    Handling signature request device result := by
  unfold getStatus at handled
  split at handled
  · next typed =>
    cases handled
    exact .data (reads_of_type typed (by decide)) _
  split at handled
  · next typed =>
    cases handled
    exact .data (reads_of_type typed (by decide)) _
  · cases handled

theorem handling_clearSetFeature (command : request.bRequest = 1 ∨ request.bRequest = 3)
    (handled : clearSetFeature request device = some result) :
    Handling signature request device result := by
  unfold clearSetFeature at handled
  dsimp only at handled
  split at handled
  · next typed =>
    split at handled
    · cases handled
      exact .remoteWakeup (writes_of_type typed (by decide)) _
    · cases handled
  split at handled
  · next typed =>
    have writes := writes_of_type typed (by decide)
    split at handled
    · next feature =>
      split at handled
      · cases handled
      split at handled
      · next enabled =>
        cases handled
        exact .halt command typed feature enabled
      · cases handled
        exact .ignored writes
    · cases handled
      exact .ignored writes
  · cases handled

theorem handling_setAddress (command : request.bRequest = 5)
    (handled : setAddress request device = some result) :
    Handling signature request device result := by
  unfold setAddress at handled
  split at handled
  · next typed =>
    cases handled
    exact .address ⟨command, typed⟩
  · cases handled

theorem handling_getDescriptor
    (handled : getDescriptorRequest signature request device = some result) :
    Handling signature request device result := by
  unfold getDescriptorRequest at handled
  split at handled
  · next typed =>
    have reads : request.Reads := by
      rcases typed with typed | typed
      · exact reads_of_type typed (by decide)
      · exact reads_of_type typed (by decide)
    split at handled
    · next asked =>
      cases handled
      exact .serial reads asked
    · obtain ⟨descriptor, found, rfl⟩ := Option.map_eq_some_iff.mp handled
      exact .descriptor reads found
  · cases handled

theorem handling_getConfiguration (handled : getConfiguration request device = some result) :
    Handling signature request device result := by
  unfold getConfiguration at handled
  split at handled
  · next typed =>
    cases handled
    exact .data (reads_of_type typed (by decide)) _
  · cases handled

theorem handling_setConfiguration (command : request.bRequest = 9)
    (handled : setConfiguration request device = some result) :
    Handling signature request device result := by
  unfold setConfiguration at handled
  dsimp only at handled
  split at handled
  · next typed =>
    split at handled
    · cases handled
    · next known =>
      cases handled
      exact .configuration ⟨command, typed, known⟩
  · cases handled

theorem handling_standard
    (handled : processStandardRequest signature request device = some result) :
    Handling signature request device result := by
  unfold processStandardRequest at handled
  split at handled
  · exact handling_getStatus handled
  split at handled
  · next command => exact handling_clearSetFeature command handled
  split at handled
  · next command => exact handling_setAddress command handled
  split at handled
  · exact handling_getDescriptor handled
  split at handled
  · exact handling_getConfiguration handled
  split at handled
  · next command => exact handling_setConfiguration command handled
  · cases handled

theorem handling_request (signature : Vector Byte 10) (request : Request) (device : UsbDevice) :
    Handling signature request device (processControlRequest signature request device) := by
  unfold processControlRequest
  cases cdc : processCdcRequest request device with
  | some result => exact handling_cdc cdc
  | none =>
      cases standard : processStandardRequest signature request device with
      | some result => exact handling_standard standard
      | none => exact .stalled

theorem Handling.answered (handling : Handling signature request device result) :
    result = (.stalled, device) ∨ Answered request device result := by
  cases handling with
  | stalled => exact .inl rfl
  | data reads bytes => exact .inr (.data reads bytes)
  | serial reads | descriptor reads => exact .inr (.stream reads _)
  | abandoned writes => exact .inr (.abandoned writes)
  | ignored writes | controlLine writes | remoteWakeup writes =>
      exact .inr (.acknowledged writes _)
  | lineEncoding sets => exact .inr (.acknowledged (writes_of_type sets.2.2.1 (by decide)) _)
  | halt _ typed => exact .inr (.acknowledged (writes_of_type typed (by decide)) _)
  | address addresses =>
      exact .inr (.acknowledged (writes_of_type addresses.2 (by decide)) _)
  | configuration configures =>
      exact .inr (.acknowledged (writes_of_type configures.2.1 (by decide)) _)

theorem Handling.lineEncoding_kept (handling : Handling signature request device result)
    (sets : ¬ request.SetsLine) (configures : ¬ request.Configures) :
    result.2.lineEncoding = device.lineEncoding := by
  cases handling with
  | lineEncoding isSet => exact absurd isSet sets
  | configuration isConfiguration => exact absurd isConfiguration configures
  | _ => rfl

end

/-- A request that nobody takes is stalled and changes nothing. Every other one is answered in
the direction that it asks for: a request for data gets data and changes nothing; a request to
the device gets none, and is abandoned without effect if its own data never come. -/
theorem controlRequest_answered (signature : Vector Byte 10) (request : Request)
    (device : UsbDevice) :
    processControlRequest signature request device = (.stalled, device) ∨
      Answered request device (processControlRequest signature request device) :=
  (handling_request signature request device).answered

def BusEvent.TouchesLine : BusEvent → Prop
  | .request setup => setup.SetsLine ∨ setup.Configures
  | .reset | .suspend | .wakeUp => False

section

variable {signature : Vector Byte 10} {request : Request} {device : UsbDevice}

theorem processControlRequest_setsLine (sets : request.SetsLine) {data : List Byte}
    (sent : request.data = some data) :
    processControlRequest signature request device =
      (.acknowledged,
        { device with lineEncoding := readLineEncoding data request.floating }) := by
  obtain ⟨index, command, typed, _⟩ := sets
  have handled : processCdcRequest request device =
      some (.acknowledged,
        { device with lineEncoding := readLineEncoding data request.floating }) := by
    rw [processCdcRequest, if_neg (by simpa using index),
      if_neg (by rw [command]; decide), if_pos command, if_pos typed, sent]
  rw [processControlRequest, handled]
  rfl

theorem lineEncoding_setsLine (sets : request.SetsLine) {data : List Byte}
    (sent : request.data = some data) :
    (processControlRequest signature request device).2.lineEncoding =
      readLineEncoding data request.floating := by
  rw [processControlRequest_setsLine sets sent]

theorem processCdcRequest_of_command (below : request.bRequest < 0x20) :
    processCdcRequest request device = none := by
  have others : ∀ command : Byte, 0x20 ≤ command → request.bRequest ≠ command := by
    intro command above same
    rw [same] at below
    exact absurd below (BitVec.not_lt.mpr above)
  unfold processCdcRequest
  rw [if_neg (others 0x21 (by decide)), if_neg (others 0x20 (by decide)),
    if_neg (others 0x22 (by decide)), if_neg (others 0x23 (by decide))]
  split <;> rfl

theorem processControlRequest_of_command (below : request.bRequest < 0x20) :
    processControlRequest signature request device =
      (processStandardRequest signature request device).getD (.stalled, device) := by
  rw [processControlRequest, processCdcRequest_of_command below, Option.none_or]

theorem processControlRequest_configures (configures : request.Configures) :
    processControlRequest signature request device =
      (.acknowledged, configureEndpoints
        { device with
          configurationNumber := request.wValue.setWidth 8
          deviceState := resumedState
            { device with configurationNumber := request.wValue.setWidth 8 } }) := by
  obtain ⟨command, typed, known⟩ := configures
  rw [processControlRequest_of_command (by rw [command]; decide)]
  have standard : processStandardRequest signature request device =
      setConfiguration request device := by
    simp [processStandardRequest, command]
  rw [standard, setConfiguration, if_pos typed]
  dsimp only
  rw [if_neg known, Option.getD_some]

theorem lineEncoding_configures (configures : request.Configures) :
    (processControlRequest signature request device).2.lineEncoding = ⟨0, 0, 0, 0⟩ := by
  rw [processControlRequest_configures configures]
  rfl

end

theorem busRun_append (signature : Vector Byte 10) (device : UsbDevice)
    (first second : List BusEvent) :
    busRun signature device (first ++ second) =
      busRun signature (busRun signature device first) second :=
  List.foldl_append

theorem lineEncoding_busStep (signature : Vector Byte 10) (device : UsbDevice) {event : BusEvent}
    (untouched : ¬ event.TouchesLine) :
    (busStep signature device event).2.lineEncoding = device.lineEncoding := by
  cases event with
  | reset | suspend | wakeUp => rfl
  | request setup =>
      exact (handling_request signature setup device).lineEncoding_kept
        (fun sets => untouched (.inl sets)) fun configures => untouched (.inr configures)

theorem lineEncoding_untouched (signature : Vector Byte 10) (device : UsbDevice)
    {events : List BusEvent} (untouched : ∀ event ∈ events, ¬ event.TouchesLine) :
    (busRun signature device events).lineEncoding = device.lineEncoding := by
  induction events generalizing device with
  | nil => rfl
  | cons event events ih =>
      have rest := ih (busStep signature device event).2
        fun other member => untouched other (List.mem_cons_of_mem _ member)
      exact rest.trans (lineEncoding_busStep signature device (untouched event List.mem_cons_self))

theorem lineEncodingBytes_read {data : List Byte} (floating : Byte) (whole : 7 ≤ data.length) :
    lineEncodingBytes (readLineEncoding data floating) = data.take 7 := by
  match data, whole with
  | byte0 :: byte1 :: byte2 :: byte3 :: byte4 :: byte5 :: byte6 :: rest, _ =>
      simp [lineEncodingBytes, readLineEncoding, wordBytes_ofBytes]

/-- `CDC_REQ_GetLineEncoding`. -/
def Request.GetsLine (request : Request) : Prop :=
  request.wIndex = 0 ∧ request.bRequest = 0x21 ∧
    request.bmRequestType = deviceToHost ||| classRequest ||| interfaceRecipient

theorem response_getsLine {request : Request} (gets : request.GetsLine)
    (signature : Vector Byte 10) (device : UsbDevice) :
    (processControlRequest signature request device).1 =
      .data (lineEncodingBytes device.lineEncoding) := by
  obtain ⟨index, command, typed⟩ := gets
  have handled : processCdcRequest request device =
      some (.data (lineEncodingBytes device.lineEncoding), device) := by
    rw [processCdcRequest, if_neg (by simpa using index), if_pos command, if_pos typed]
  rw [processControlRequest, handled]
  rfl

/-- The host reads back the seven bytes of the line encoding that it has set, whatever
requests, resets, suspensions and wake-ups come between, as long as it neither sets another
one nor configures the device again. -/
theorem lineEncoding_roundTrip (signature : Vector Byte 10) (device : UsbDevice)
    (earlier later : List BusEvent) {set get : Request} {data : List Byte} (sets : set.SetsLine)
    (sent : set.data = some data) (whole : 7 ≤ data.length)
    (untouched : ∀ event ∈ later, ¬ event.TouchesLine) (gets : get.GetsLine) :
    (processControlRequest signature get
      (busRun signature device (earlier ++ .request set :: later))).1 = .data (data.take 7) := by
  have split : busRun signature device (earlier ++ .request set :: later) =
      busRun signature
        (busStep signature (busRun signature device earlier) (.request set)).2 later :=
    busRun_append _ _ _ _
  have stored : (busStep signature (busRun signature device earlier) (.request set)).2.lineEncoding =
      readLineEncoding data set.floating := lineEncoding_setsLine sets sent
  rw [response_getsLine gets, split, lineEncoding_untouched signature _ untouched, stored,
    lineEncodingBytes_read _ whole]

def openingRequest : Request := ⟨0x21, 0x20, 0, 0, 7, some [0x80, 0x25, 0, 0, 0, 0, 8], 0⟩

def addressedDevice : UsbDevice :=
  ⟨.addressed, 3, true, 0, false, false, 1, 0, ⟨0, 0, 0, 0⟩, 0⟩

/-- A terminal at 9600 baud, with a bus reset and a wake-up before it is read back. -/
theorem lineEncoding_roundTrip_reset :
    (processControlRequest (.replicate 10 0) ⟨0xA1, 0x21, 0, 0, 7, none, 0⟩
      (busRun (.replicate 10 0) addressedDevice
        ([] ++ .request openingRequest ::
          [.reset, .request ⟨0x00, 5, 3, 0, 0, none, 0⟩, .wakeUp]))).1 =
      .data [0x80, 0x25, 0, 0, 0, 0, 8] := by
  have sent : openingRequest.data = some [0x80, 0x25, 0, 0, 0, 0, 8] := rfl
  have untouched : ∀ event ∈
      ([.reset, .request ⟨0x00, 5, 3, 0, 0, none, 0⟩, .wakeUp] : List BusEvent),
      ¬ event.TouchesLine := by
    simp [BusEvent.TouchesLine, Request.SetsLine, Request.Configures]
  exact lineEncoding_roundTrip _ _ [] _ ⟨rfl, rfl, rfl, rfl⟩ sent (Nat.le_refl 7) untouched
    ⟨rfl, rfl, rfl⟩

/-- The gate of all calls of the class driver: `USB_DeviceState` and the baud rate. -/
def UsbDevice.gate (device : UsbDevice) : Prop :=
  device.deviceState = .configured ∧ device.lineEncoding.baudRateBPS ≠ 0

/-- After power-up the calls of the class driver stay closed until the host has set a line
encoding, and again after every configuration: while they are open, the line encoding is
that of a request after which there was no other and no configuration. -/
theorem gate_opened_by_host (signature : Vector Byte 10) (device : UsbDevice)
    (closed : device.lineEncoding.baudRateBPS = 0) (events : List BusEvent)
    (gate : (busRun signature device events).gate) :
    ∃ earlier set later data, events = earlier ++ .request set :: later ∧ set.SetsLine ∧
      set.data = some data ∧ (∀ event ∈ later, ¬ event.TouchesLine) ∧
      (busRun signature device events).lineEncoding = readLineEncoding data set.floating := by
  -- from the last event back to the one that has set the line encoding
  replace gate := gate.2
  induction events using List.reverseRecOn with
  | nil => exact absurd closed gate
  | append_singleton events event ih =>
      have last : busRun signature device (events ++ [event]) =
          (busStep signature (busRun signature device events) event).2 := busRun_append _ _ _ _
      rw [last] at gate ⊢
      by_cases touches : event.TouchesLine
      · cases event with
        | reset | suspend | wakeUp => exact touches.elim
        | request setup =>
            rcases touches with sets | configures
            · obtain ⟨data, sent⟩ := Option.isSome_iff_exists.mp sets.2.2.2
              exact ⟨events, setup, [], data, rfl, sets, sent, nofun,
                lineEncoding_setsLine sets sent⟩
            · have zero : (busStep signature (busRun signature device events)
                  (.request setup)).2.lineEncoding = ⟨0, 0, 0, 0⟩ :=
                lineEncoding_configures configures
              rw [zero] at gate
              exact absurd rfl gate
      · have kept := lineEncoding_busStep signature (busRun signature device events) touches
        rw [kept] at gate ⊢
        obtain ⟨earlier, set, later, data, rfl, sets, sent, untouched, read⟩ :=
          ih gate
        refine ⟨earlier, set, later ++ [event], data, by simp, sets, sent, ?_, read⟩
        intro other member
        rcases List.mem_append.mp member with before | here
        · exact untouched other before
        · rw [List.mem_singleton.mp here]
          exact touches

/-- Configured, and opened at 9600 baud. -/
theorem gate_opened_by_host_session :
    ∃ earlier set later, [.request ⟨0x00, 9, 1, 0, 0, none, 0⟩, .request openingRequest] =
      earlier ++ BusEvent.request set :: later ∧ set.SetsLine := by
  have opened : (busRun (.replicate 10 0) addressedDevice
      [.request ⟨0x00, 9, 1, 0, 0, none, 0⟩, .request openingRequest]).gate := by
    constructor <;> decide +kernel
  obtain ⟨earlier, set, later, _, events, sets, _⟩ := gate_opened_by_host _ _ rfl _ opened
  exact ⟨earlier, set, later, events, sets⟩

end MiniMiner.Lufa
