import MiniMiner.Lufa.CdcSendProperties
import MiniMiner.Lufa.ControlRequestProperties

/-! One device behind the sending calls. Control requests and the events of the bus change the
state of the device, and with it the registers and variables that the calls look at and the bank
that they fill. Each of them is one of the actions that the calls are verified against. -/

set_option autoImplicit false

namespace MiniMiner.Lufa

open LittleEndian

structure Port where
  device : UsbDevice
  selected : Endpoint
  frameNumber : BitVec 16
  -- the bank of the data IN endpoint
  queued : Bool
  bank : List Byte
  code : SendCode

/-- What the sending calls see; the data IN endpoint has the number 3. -/
def Port.sender (port : Port) : Sender where
  deviceState := port.device.deviceState
  baudRateBPS := port.device.lineEncoding.baudRateBPS
  selected := port.selected
  frameNumber := port.frameNumber
  enabled := port.device.enabled.getLsbD 3
  stalled := port.device.stalled.getLsbD 3
  queued := port.queued
  bank := port.bank
  code := port.code

/-- What happens in the main thread and on the data endpoints. -/
inductive Traffic where
  | call (call : SendCall)
  | usbTask
  | receive
  | main (registers : Registers)
  | inToken
  | startOfFrame (number : BitVec 16)
  deriving DecidableEq

def Traffic.toSend : Traffic → SendAction
  | .call entry => .call entry
  | .usbTask => .usbTask
  | .receive => .receive
  | .main registers => .main registers
  | .inToken => .inToken
  | .startOfFrame number => .startOfFrame number

inductive PortAction where
  | traffic (traffic : Traffic)
  | request (request : Request)
  -- a reset may come inside a control request; the controller decides which endpoints it leaves
  -- enabled
  | reset (nested : Bool) (enabled : BitVec 16)
  | suspend
  | wakeUp
  deriving DecidableEq

/-- `CLEAR_FEATURE` for the halt of an endpoint that is enabled. -/
def Request.ClearsHalt (request : Request) (device : UsbDevice) : Prop :=
  request.bRequest = 1 ∧ request.bmRequestType = endpointRecipient ∧
    request.wValue.setWidth 8 = (0 : Byte) ∧ request.endpointIndex ≠ 0 ∧
    device.enabled.getLsbD request.endpointIndex = true

instance (request : Request) (device : UsbDevice) : Decidable (request.ClearsHalt device) :=
  inferInstanceAs (Decidable (_ ∧ _ ∧ _ ∧ _ ∧ _))

/-- The endpoints whose banks a request clears, by `Endpoint_ConfigureEndpoint` or by
`Endpoint_ResetEndpoint`. -/
def Request.resets (request : Request) (device : UsbDevice) : BitVec 16 :=
  if request.Configures then 0x1C
  else if request.ClearsHalt device then 1#16 <<< request.endpointIndex
  else 0

/-- The control endpoint interrupt selects the endpoint again that it has found selected. -/
def Port.step (signature : Vector Byte 10) (port : Port) :
    PortAction → Option (Port × Option SendEvent)
  | .traffic traffic =>
      (sending.step port.sender traffic.toSend).map fun (next, event) =>
        ({ port with
          selected := next.selected, frameNumber := next.frameNumber, queued := next.queued
          bank := next.bank, code := next.code }, event)
  | .request request =>
      let device := (busStep signature port.device (.request request)).2
      if (request.resets port.device).getLsbD 3 then
        some ({ port with device := device, queued := false, bank := [] }, some .lost)
      else some ({ port with device := device }, none)
  | .reset nested enabled =>
      let device := (busStep signature port.device .reset).2
      some ({ port with
        device := { device with enabled := setBit enabled 0 }
        selected := if nested then port.selected else .control
        queued := false, bank := [] }, some .lost)
  | .suspend => some ({ port with device := (busStep signature port.device .suspend).2 }, none)
  | .wakeUp => some ({ port with device := (busStep signature port.device .wakeUp).2 }, none)

def porting (signature : Vector Byte 10) : System Port PortAction SendEvent :=
  ⟨Port.step signature⟩

/-- The halt of the data IN endpoint is meant. -/
def Request.MeansHalt (request : Request) (device : UsbDevice) : Prop :=
  request.bmRequestType = endpointRecipient ∧ request.wValue.setWidth 8 = (0 : Byte) ∧
    request.endpointIndex = 3 ∧ device.enabled.getLsbD 3 = true

instance (request : Request) (device : UsbDevice) : Decidable (request.MeansHalt device) :=
  inferInstanceAs (Decidable (_ ∧ _ ∧ _ ∧ _))

/-- The action of a request on the sending calls, if it has one. -/
def Request.action (request : Request) (device : UsbDevice) : Option SendAction :=
  if request.SetsLine then
    request.data.map fun data =>
      .setLineEncoding (readLineEncoding data request.floating).baudRateBPS
  else if request.Configures then
    some (.configure
      (resumedState { device with configurationNumber := request.wValue.setWidth 8 }) true)
  else if request.bRequest = 5 ∧ request.bmRequestType = 0 then
    some (.deviceState
      (if request.wValue.setWidth 8 &&& (0x7F : Byte) ≠ 0 then .addressed else .default))
  else if request.MeansHalt device ∧ request.bRequest = 1 then some .clearHalt
  else if request.MeansHalt device ∧ request.bRequest = 3 then some .setHalt
  else none

def Port.action (port : Port) : PortAction → Option SendAction
  | .traffic traffic => some traffic.toSend
  | .request request => request.action port.device
  | .reset nested enabled => some (.reset nested (enabled.getLsbD 3))
  | .suspend => some (.deviceState .unattached)
  | .wakeUp => some (.deviceState (resumedState port.device))

/-- Two devices that the sending calls cannot tell apart. -/
structure UsbDevice.Alike (left right : UsbDevice) : Prop where
  deviceState : left.deviceState = right.deviceState
  baudRateBPS : left.lineEncoding.baudRateBPS = right.lineEncoding.baudRateBPS
  enabled : left.enabled.getLsbD 3 = right.enabled.getLsbD 3
  stalled : left.stalled.getLsbD 3 = right.stalled.getLsbD 3

section Requests

variable {signature : Vector Byte 10} {request : Request} {device : UsbDevice}
  {result : Response × UsbDevice}

theorem getLsbD_shiftLeft_one {index : Nat} (inside : index < 16) :
    (1#16 <<< index).getLsbD 3 = decide (index = 3) := by
  interval_cases index <;> rfl

theorem getLsbD_setBit (mask : BitVec 16) {index : Nat} (inside : index < 16) :
    (setBit mask index).getLsbD 3 = (mask.getLsbD 3 || decide (index = 3)) := by
  rw [setBit, BitVec.getLsbD_or, getLsbD_shiftLeft_one inside]

theorem getLsbD_clearBit (mask : BitVec 16) {index : Nat} (inside : index < 16) :
    (clearBit mask index).getLsbD 3 = (mask.getLsbD 3 && decide (index ≠ 3)) := by
  rw [clearBit, BitVec.getLsbD_and, BitVec.getLsbD_not, getLsbD_shiftLeft_one inside, decide_not]
  rfl

theorem Request.endpointIndex_lt (request : Request) : request.endpointIndex < 16 :=
  Nat.mod_lt _ (by decide)

theorem Handling.alike (handling : Handling signature request device result)
    (sets : ¬ request.SetsLine) (configures : ¬ request.Configures)
    (address : ¬ (request.bRequest = 5 ∧ request.bmRequestType = 0))
    (halt : request.bRequest = 1 ∨ request.bRequest = 3 → ¬ request.MeansHalt device) :
    result.2.Alike device := by
  cases handling with
  | lineEncoding isSet => exact absurd isSet sets
  | configuration isConfiguration => exact absurd isConfiguration configures
  | address isAddress => exact absurd isAddress address
  | halt command typed feature enabled =>
      have elsewhere : request.endpointIndex ≠ 3 := fun dataIn =>
        halt command ⟨typed, feature, dataIn, dataIn ▸ enabled⟩
      refine ⟨rfl, rfl, rfl, ?_⟩
      dsimp only
      split
      · rw [getLsbD_setBit _ request.endpointIndex_lt, decide_eq_false elsewhere, Bool.or_false]
      · rw [getLsbD_clearBit _ request.endpointIndex_lt, decide_eq_true elsewhere, Bool.and_true]
  | _ => exact ⟨rfl, rfl, rfl, rfl⟩

theorem processControlRequest_setsAddress
    (address : request.bRequest = 5 ∧ request.bmRequestType = 0) :
    processControlRequest signature request device =
      (.acknowledged,
        { device with
          address := request.wValue.setWidth 8 &&& 0x7F, addressSet := true
          deviceState :=
            if request.wValue.setWidth 8 &&& (0x7F : Byte) ≠ 0 then .addressed
            else .default }) := by
  obtain ⟨command, typed⟩ := address
  rw [processControlRequest_of_command (by rw [command]; decide)]
  simp [processStandardRequest, command, setAddress, typed]

theorem processControlRequest_halt (command : request.bRequest = 1 ∨ request.bRequest = 3)
    (halt : request.MeansHalt device) :
    processControlRequest signature request device =
      (.acknowledged,
        { device with
          stalled := if request.bRequest = 3 then setBit device.stalled 3
            else clearBit device.stalled 3 }) := by
  obtain ⟨typed, feature, dataIn, enabled⟩ := halt
  have below : request.bRequest < 0x20 := by
    rcases command with command | command <;> rw [command] <;> decide
  rw [processControlRequest_of_command below]
  have standard : processStandardRequest signature request device =
      clearSetFeature request device := by
    rcases command with command | command <;> simp [processStandardRequest, command]
  have recipient : ¬ request.bmRequestType = 0 := by
    rw [typed]
    decide
  rw [standard, clearSetFeature, if_neg recipient, if_pos typed, if_pos feature, dataIn]
  simp [enabled]

end Requests

section Traffic

variable {sender next : Sender} {event : Option SendEvent}

/-- The state of the device, the line encoding and the configuration of the endpoint. -/
structure Sender.SameGate (sender next : Sender) : Prop where
  deviceState : next.deviceState = sender.deviceState
  baudRateBPS : next.baudRateBPS = sender.baudRateBPS
  enabled : next.enabled = sender.enabled
  stalled : next.stalled = sender.stalled

theorem sameGate_goto {code : SendCode} (stepped : sender.goto code = some (next, event)) :
    sender.SameGate next := by
  cases stepped
  exact ⟨rfl, rfl, rfl, rfl⟩

theorem sameGate_clearIN {code : SendCode} (stepped : sender.clearIN code = some (next, event)) :
    sender.SameGate next := by
  unfold Sender.clearIN at stepped
  split at stepped
  · cases stepped
    exact ⟨rfl, rfl, rfl, rfl⟩
  · exact sameGate_goto stepped

theorem sameGate_write8 {byte : Byte} {code : SendCode}
    (stepped : sender.write8 byte code = some (next, event)) : sender.SameGate next := by
  unfold Sender.write8 at stepped
  split at stepped
  · split at stepped <;> cases stepped <;> exact ⟨rfl, rfl, rfl, rfl⟩
  · cases stepped
    exact ⟨rfl, rfl, rfl, rfl⟩

theorem sameGate_mainStep {registers : Registers}
    (stepped : sender.mainStep registers = some (next, event)) : sender.SameGate next := by
  unfold Sender.mainStep at stepped
  cases code : sender.code with
  | idle => rw [code] at stepped; cases stepped
  | clear | clearBank | clearAgain =>
      rw [code] at stepped
      exact sameGate_clearIN stepped
  | write =>
      rw [code] at stepped
      exact sameGate_write8 stepped
  | select | returning =>
      rw [code] at stepped
      cases stepped
      exact ⟨rfl, rfl, rfl, rfl⟩
  | waitFrame =>
      rw [code] at stepped
      simp only at stepped
      split at stepped
      · split at stepped
        · exact sameGate_goto stepped
        · cases stepped
          exact ⟨rfl, rfl, rfl, rfl⟩
      · exact sameGate_goto stepped
  | _ =>
      rw [code] at stepped
      exact sameGate_goto stepped

theorem sameGate_traffic {traffic : Traffic}
    (stepped : sending.step sender traffic.toSend = some (next, event)) :
    sender.SameGate next := by
  cases traffic with
  | main registers => exact sameGate_mainStep stepped
  | call entry | usbTask =>
      exact sameGate_goto (Option.ite_none_right_eq_some.mp stepped).2
  | receive =>
      cases (Option.ite_none_right_eq_some.mp stepped).2
      exact ⟨rfl, rfl, rfl, rfl⟩
  | inToken =>
      cases (Option.ite_none_right_eq_some.mp stepped).2
      exact ⟨rfl, rfl, rfl, rfl⟩
  | startOfFrame number =>
      cases stepped
      exact ⟨rfl, rfl, rfl, rfl⟩

end Traffic

section Projection

variable {signature : Vector Byte 10} {request : Request} {port next : Port}
  {event : Option SendEvent}

/-- The bank of the data IN endpoint is cleared by a configuration and with its halt. -/
def Request.ClearsBank (request : Request) (device : UsbDevice) : Prop :=
  request.Configures ∨ request.MeansHalt device ∧ request.bRequest = 1

theorem getLsbD_resets (device : UsbDevice) :
    (request.resets device).getLsbD 3 = true ↔ request.ClearsBank device := by
  unfold Request.resets
  split
  · next configures => exact ⟨fun _ => .inl configures, fun _ => rfl⟩
  next other =>
  split
  · next clears =>
    obtain ⟨command, typed, feature, _, enabled⟩ := clears
    rw [getLsbD_shiftLeft_one request.endpointIndex_lt, decide_eq_true_iff]
    refine ⟨fun dataIn => .inr ⟨⟨typed, feature, dataIn, dataIn ▸ enabled⟩, command⟩, ?_⟩
    rintro (configures | ⟨halt, _⟩)
    · exact absurd configures other
    · exact halt.2.2.1
  · next clears =>
    refine ⟨fun set => (Bool.false_ne_true set).elim, ?_⟩
    rintro (configures | ⟨⟨typed, feature, dataIn, enabled⟩, command⟩)
    · exact absurd configures other
    · refine absurd ⟨command, typed, feature, ?_, dataIn ▸ enabled⟩ clears
      rw [dataIn]
      decide

/-- Only the commands 1 and 9 clear a bank. -/
theorem keepsBank_of_command {device : UsbDevice} {command : Byte}
    (commanded : request.bRequest = command) (others : command ≠ 9 ∧ command ≠ 1) :
    ¬ request.ClearsBank device := by
  rintro (configures | ⟨_, clear⟩)
  · exact others.1 (commanded.symm.trans configures.1)
  · exact others.2 (commanded.symm.trans clear)

theorem step_clearing (clears : request.ClearsBank port.device)
    (stepped : port.step signature (.request request) = some (next, event)) :
    next = { port with
        device := (processControlRequest signature request port.device).2
        queued := false, bank := [] } ∧
      event = some .lost := by
  unfold Port.step busStep at stepped
  dsimp only at stepped
  rw [if_pos ((getLsbD_resets _).mpr clears)] at stepped
  cases stepped
  exact ⟨rfl, rfl⟩

theorem step_keeping (keeps : ¬ request.ClearsBank port.device)
    (stepped : port.step signature (.request request) = some (next, event)) :
    next = { port with device := (processControlRequest signature request port.device).2 } ∧
      event = none := by
  unfold Port.step busStep at stepped
  dsimp only at stepped
  rw [if_neg fun reset => keeps ((getLsbD_resets _).mp reset)] at stepped
  cases stepped
  exact ⟨rfl, rfl⟩

/-- The step of a request is that of its action, or not seen. -/
theorem request_projected
    (stepped : port.step signature (.request request) = some (next, event)) :
    sending.Shows port.sender next.sender event (request.action port.device) := by
  unfold Request.action
  by_cases sets : request.SetsLine
  · obtain ⟨data, sent⟩ := Option.isSome_iff_exists.mp sets.2.2.2
    obtain ⟨rfl, rfl⟩ := step_keeping (keepsBank_of_command sets.2.1 (by decide)) stepped
    rw [if_pos sets, sent, processControlRequest_setsLine sets sent]
    rfl
  rw [if_neg sets]
  by_cases configures : request.Configures
  · obtain ⟨rfl, rfl⟩ := step_clearing (.inl configures) stepped
    rw [if_pos configures, processControlRequest_configures configures]
    simp [System.Shows, sending, Sender.step, Sender.cleared, Port.sender, configureEndpoints]
  rw [if_neg configures]
  by_cases address : request.bRequest = 5 ∧ request.bmRequestType = 0
  · obtain ⟨rfl, rfl⟩ := step_keeping (keepsBank_of_command address.1 (by decide)) stepped
    rw [if_pos address, processControlRequest_setsAddress address]
    rfl
  rw [if_neg address]
  by_cases clears : request.MeansHalt port.device ∧ request.bRequest = 1
  · obtain ⟨rfl, rfl⟩ := step_clearing (.inr clears) stepped
    have ended : (clearBit port.device.stalled 3).getLsbD 3 = false := by
      rw [getLsbD_clearBit _ (by decide), decide_eq_false (not_not.mpr rfl), Bool.and_false]
    have command : request.bRequest ≠ 3 := by
      rw [clears.2]
      decide
    rw [if_pos clears, processControlRequest_halt (.inl clears.2) clears.1]
    simp only [if_neg command, System.Shows, sending, Sender.step, Sender.cleared, Port.sender,
      ended]
  rw [if_neg clears]
  obtain ⟨rfl, rfl⟩ := step_keeping (not_or.mpr ⟨configures, clears⟩) stepped
  by_cases halts : request.MeansHalt port.device ∧ request.bRequest = 3
  · have begun : (setBit port.device.stalled 3).getLsbD 3 = true := by
      rw [getLsbD_setBit _ (by decide), decide_eq_true rfl, Bool.or_true]
    rw [processControlRequest_halt (.inr halts.2) halts.1, if_pos halts]
    simp only [if_pos halts.2, System.Shows, sending, Sender.step, Port.sender, begun]
  · rw [if_neg halts]
    have alike : (processControlRequest signature request port.device).2.Alike port.device :=
      (handling_request signature request port.device).alike sets configures address
        fun command halt => command.elim (fun clear => clears ⟨halt, clear⟩) fun set => halts ⟨halt, set⟩
    simp only [System.Shows, Port.sender, alike.deviceState, alike.baudRateBPS, alike.enabled,
      alike.stalled, and_self]

theorem sending_projected (signature : Vector Byte 10) :
    (porting signature).Projects sending Port.sender Port.action := by
  intro port action next event stepped
  cases action with
  | traffic traffic =>
      obtain ⟨⟨sender, shown⟩, moved, result⟩ := Option.map_eq_some_iff.mp stepped
      cases result
      have same := sameGate_traffic moved
      refine moved.trans ?_
      cases sender
      simp only [Port.sender, Option.some.injEq, Prod.mk.injEq, Sender.mk.injEq, and_true, true_and]
      exact ⟨same.deviceState, same.baudRateBPS, same.enabled, same.stalled⟩
  | request request => exact request_projected stepped
  | reset nested enabled =>
      cases stepped
      have kept : (setBit enabled 0).getLsbD 3 = enabled.getLsbD 3 := by
        rw [getLsbD_setBit _ (by decide), decide_eq_false (by decide), Bool.or_false]
      simp only [System.Shows, Port.action, sending, Sender.step, Sender.cleared, Port.sender,
        busStep, kept]
      rfl
  | suspend | wakeUp =>
      cases stepped
      rfl

/-- Whatever the main thread, the host and the bus do with one device, the sending calls see a
run of the actions they are verified against: each control request and each event of the bus is
the one that `Port.action` names, with the same effect on the gate, the selected endpoint and the
bank, and the same loss. So the whole device keeps the promises of the pipe. -/
theorem port_runs_as_sender (signature : Vector Byte 10) (port : Port)
    (schedule : List PortAction) :
    let run := (porting signature).run schedule port
    sending.run ((porting signature).relabelled Port.action schedule port) port.sender =
        (run.1.sender, run.2) ∧
      ∀ pipe, Tracks port.sender pipe →
        ∃ following, Pipe.specification.replay pipe run.2 = some following ∧
          Tracks run.1.sender following := by
  have projected := System.Projects.run (sending_projected signature) schedule port
  refine ⟨projected, fun pipe tracks => ?_⟩
  have simulated := System.Simulated.run sending_simulated
    ((porting signature).relabelled Port.action schedule port) tracks
  rwa [projected] at simulated

end Projection

end MiniMiner.Lufa
