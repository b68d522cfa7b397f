import MiniMiner.Transmission
import MiniMiner.XilinxFpgaProg.Application

/-! What the statements of each routine can do to the device. A kind of statement that
covers these effects covers the whole routine. -/

set_option autoImplicit false

namespace MiniMiner.XilinxFpgaProg

open LittleEndian Preemption Preemption.Program

variable {kind : Point → Device → Device → Prop}

/-- The execution of a frame that does not change the mode. -/
structure CoversExecution (kind : Point → Device → Device → Prop) : Prop where
  removeSelect : ∀ device serial, kind .removeSelect device { device with serial := serial }
  payload : ∀ sink device serial spi usart,
    kind (.payload sink) device { device with serial := serial, spi := spi, usart := usart }
  ports : ∀ device portb portd, kind .ports device { device with portb := portb, portd := portd }

structure CoversMode (kind : Point → Device → Device → Prop) : Prop where
  useSpi : ∀ device, kind .ports device (useSpi device)
  useUsart : ∀ device, kind .ports device (useUsart device)

structure CoversFrame (kind : Point → Device → Device → Prop) : Prop
    extends CoversExecution kind, CoversMode kind where
  removeCmd : ∀ device serial, kind .removeCmd device { device with serial := serial }
  removeSize : ∀ device serial, kind .removeSize device { device with serial := serial }

structure CoversFlush (kind : Point → Device → Device → Prop) : Prop where
  flushCount : ∀ device, kind .flushCount device device
  flushTimer : ∀ device timer, kind .flushTimer device { device with flushTimer := timer }
  flushRestart : ∀ device timer, kind .flushRestart device { device with flushTimer := timer }
  sendByte : ∀ device bytes, kind .sendByte device { device with endpoint := bytes }
  removeSent : ∀ device ring, kind .removeSent device { device with usartToUsbBuffer := ring }

/-- Receptions from the host: the frames, and the verdicts on them. -/
structure CoversReception (kind : Point → Device → Device → Prop) : Prop
    extends CoversFrame kind where
  addByte : ∀ byte device serial, kind (.addByte byte) device { device with serial := serial }
  verdict : ∀ device ring, kind .verdict device { device with usartToUsbBuffer := ring }
  zero : ∀ device ring, kind .zero device { device with usartToUsbBuffer := ring }

def Point.timing : Point → Bool
  | .timeoutClock | .timeoutActive | .timeoutStart | .timeoutElapsed | .timeoutClear => true
  | .restartActive | .restartClock | .restartStart => true
  | _ => false

/-- The checks and the restart of the timeout of `appService`. -/
def CoversTimeout (kind : Point → Device → Device → Prop) : Prop :=
  ∀ point device timer, point.timing = true →
    kind point device { device with serialTimeout := timer }

structure CoversRelay (kind : Point → Device → Device → Prop) : Prop where
  relayCheck : ∀ device, kind .relayCheck device device
  relayCmd : ∀ device ring, kind .relayCmd device { device with usartToUsbBuffer := ring }
  relayCount : ∀ device ring, kind .relayCount device { device with usartToUsbBuffer := ring }
  relayTake : ∀ device ring, kind .relayTake device { device with serialRxBuffer := ring }
  relayByte : ∀ device ring, kind .relayByte device { device with usartToUsbBuffer := ring }

theorem takePayload_within (covers : CoversExecution kind) (sink : Sink) (size : Byte) :
    (takePayload sink size).Within kind := by
  refine .each fun _ _ => .assign fun device => ?_
  cases sink with
  | spi => exact covers.payload .spi device _ _ device.usart
  | usart => exact covers.payload .usart device _ device.spi _
  | nowhere => exact covers.payload .nowhere device _ device.spi device.usart

theorem setPortb_within (covers : CoversExecution kind) (value : Byte → Byte) :
    (setPorts fun device => { device with portb := value device.portb }).Within kind :=
  .assign fun device => covers.ports device _ device.portd

theorem execute_within (covers : CoversExecution kind) (pins : Pins) {cmd : Byte} (size : Byte)
    (mode : cmd = serialUseSpi ∨ cmd = serialUseUsart → CoversMode kind) :
    (execute pins cmd size).Within kind := by
  have taken (sink : Sink) (value : Bool) :
      (takePayload sink size >>= fun _ => pure value).Within kind :=
    .bind (takePayload_within covers sink size) fun _ => trivial
  have pulsed (line : Byte) : (pulse line >>= fun _ => pure true).Within kind :=
    .bind (.bind (setPortb_within covers (· ||| line)) fun _ =>
      setPortb_within covers (· &&& ~~~line)) fun _ => trivial
  unfold execute
  refine .ite (fun _ => ?_) fun _ => ?_
  · exact .bind (setPortb_within covers (· &&& ~~~programB)) fun _ =>
      .bind (setPortb_within covers (· ||| programB)) fun _ => trivial
  refine .ite (fun _ => ?_) fun _ => ?_
  · refine .bind (setPortb_within covers (· ^^^ led1)) fun _ =>
      .bind (takePayload_within covers .spi size) fun _ => ?_
    split
    · trivial
    · split <;> trivial
  refine .ite (fun chosen => ?_) fun _ => ?_
  · exact .bind (.assign (mode (.inl chosen)).useSpi) fun _ => trivial
  refine .ite (fun _ => ?_) fun _ => ?_
  · exact .bind (setPortb_within covers (· ^^^ led2)) fun _ => taken .spi true
  refine .ite (fun _ => ?_) fun _ => ?_
  · refine .bind ⟨fun device => covers.removeSelect device _, fun _ => trivial⟩ fun prop =>
      .bind (.assign fun device => ?_) fun _ => trivial
    exact covers.ports device device.portb _
  refine .ite (fun chosen => ?_) fun _ => ?_
  · exact .bind (.assign (mode (.inr chosen)).useUsart) fun _ => trivial
  refine .ite (fun _ => ?_) fun _ => ?_
  · exact taken .usart true
  refine .ite (fun _ => ?_) fun _ => ?_
  · exact pulsed (bit 1)
  refine .ite (fun _ => ?_) fun _ => ?_
  · exact pulsed (bit 2)
  exact taken .nowhere false

theorem serialProcess_within (covers : CoversFrame kind) (pins : Pins) :
    (serialProcess pins).Within kind :=
  .bind ⟨fun device => covers.removeCmd device _, fun _ => trivial⟩ fun _ =>
    .bind ⟨fun device => covers.removeSize device _, fun _ => trivial⟩ fun size =>
    execute_within covers.toCoversExecution pins size fun _ => covers.toCoversMode

theorem receiveByte_within (covers : CoversReception kind) (received : Received) :
    (receiveByte received).Within kind := by
  refine .bind ⟨fun device => covers.addByte received.byte device _, fun _ => trivial⟩
    fun complete => ?_
  refine .onlyIf (.bind (serialProcess_within covers.toCoversFrame received.pins)
    fun accepted => ?_)
  exact .bind (.assign fun device => covers.verdict device _) fun _ =>
    .assign fun device => covers.zero device _

theorem appUsbDataReceived_within (covers : CoversReception kind) (more : List Received) :
    (appUsbDataReceived more).Within kind :=
  .each fun received _ => receiveByte_within covers received

theorem serialTimeoutExpired_within (covers : CoversTimeout kind) :
    serialTimeoutExpired.Within kind := by
  refine .bind (.fetch fun device => covers .timeoutClock device _ rfl) fun time => ?_
  refine .bind (.fetch fun device => covers .timeoutActive device _ rfl) fun active => ?_
  split
  · trivial
  refine .bind (.fetch fun device => covers .timeoutStart device _ rfl) fun start => ?_
  refine .bind (.fetch fun device => covers .timeoutElapsed device _ rfl) fun expired => ?_
  exact .bind (.onlyIf (.assign fun device => covers .timeoutClear device _ rfl)) fun _ => trivial

theorem serialTimeoutRestart_within (covers : CoversTimeout kind) :
    serialTimeoutRestart.Within kind :=
  .bind (.assign fun device => covers .restartActive device _ rfl) fun _ =>
    .bind (.fetch fun device => covers .restartClock device _ rfl) fun _ =>
    .assign fun device => covers .restartStart device _ rfl

theorem relay_within (covers : CoversRelay kind) : relay.Within kind := by
  refine .bind (.fetch covers.relayCheck) fun count => .onlyIf ?_
  refine .bind (.assign fun device => covers.relayCmd device _) fun _ => ?_
  refine .bind (.assign fun device => covers.relayCount device _) fun _ => ?_
  refine .each fun _ _ => .bind ⟨fun device => covers.relayTake device _, fun _ => trivial⟩ ?_
  exact fun byte => .assign fun device => covers.relayByte device _

theorem appService_within (timeout : CoversTimeout kind) (relay : CoversRelay kind) :
    appService.Within kind :=
  .bind (serialTimeoutExpired_within timeout) fun _ =>
    .onlyIf (.bind (relay_within relay) fun _ => serialTimeoutRestart_within timeout)

/-- The pass over the transmit ring in the loop of `main`. -/
def transmitter : Transmitter Point Device 128 where
  flushCount := .flushCount
  flushTimer := .flushTimer
  flushRestart := .flushRestart
  sendByte := .sendByte
  removeSent := .removeSent
  ring := Device.usartToUsbBuffer
  endpoint := Device.endpoint
  due := fun device => timerDue device.flushTimer device.time
  expire := fun device =>
    { device with flushTimer := timerExpired device.flushTimer device.time }
  restart := fun device =>
    { device with flushTimer := timerRestart device.flushTimer device.time }
  send := fun device =>
    { device with endpoint := device.endpoint ++ [device.usartToUsbBuffer.peek] }
  remove := fun device => { device with usartToUsbBuffer := device.usartToUsbBuffer.remove }
  ring_expire := fun _ => rfl
  ring_restart := fun _ => rfl
  ring_send := fun _ => rfl
  ring_remove := fun _ => rfl
  endpoint_expire := fun _ => rfl
  endpoint_restart := fun _ => rfl
  endpoint_send := fun _ => rfl
  endpoint_remove := fun _ => rfl

theorem sendLoop_eq (bufferCount : Nat) (results : List Bool) :
    sendLoop bufferCount results = transmitter.sendLoop bufferCount results := by
  induction bufferCount generalizing results with
  | zero => rfl
  | succ bufferCount ih =>
      simp only [sendLoop, Transmitter.sendLoop, ih]
      rfl

theorem flushReplies_eq (results : List Bool) :
    flushReplies results = transmitter.flush results := by
  simp only [flushReplies, sendLoop_eq]
  rfl

theorem flushReplies_within (covers : CoversFlush kind) (results : List Bool) :
    (flushReplies results).Within kind := by
  have covered : transmitter.Covered kind :=
    { flushCount := covers.flushCount
      flushTimer := fun device => covers.flushTimer device _
      flushRestart := fun device => covers.flushRestart device _
      sent := fun device => covers.sendByte device _
      refused := fun device => covers.sendByte device device.endpoint
      removeSent := fun device => covers.removeSent device _ }
  rw [flushReplies_eq]
  exact transmitter.flush_within covered results

end MiniMiner.XilinxFpgaProg
