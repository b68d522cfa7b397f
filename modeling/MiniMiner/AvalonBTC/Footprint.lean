import MiniMiner.AvalonBTC.Main
import MiniMiner.Transmission

/-! What the statements of each routine can do to the device. A kind of
statement that covers these effects covers the whole routine. -/

set_option autoImplicit false

namespace MiniMiner.AvalonBTC

open LittleEndian Preemption Preemption.Program

theorem handler_eq_some {source : Interrupt} {before after : Device}
    (handled : handler source before = some after) :
    (source = .tick ∧ after = { before with time := before.time + 1 }) ∨
      ∃ spdr polls, source = .spi spdr polls ∧ before.spcr &&& spie ≠ 0 ∧
        after = spiStc spdr polls before := by
  cases source with
  | tick =>
      injection handled with same
      exact .inl ⟨rfl, same.symm⟩
  | spi spdr polls =>
      simp only [handler] at handled
      split at handled
      · cases handled
      · next enabled =>
        injection handled with same
        exact .inr ⟨spdr, polls, rfl, enabled, same.symm⟩

variable {kind : Point → Device → Device → Prop} {caller : Caller}

/-- A reply only fills the transmit ring. -/
def CoversReply (kind : Point → Device → Device → Prop) (caller : Caller) : Prop :=
  ∀ index device ring, kind (.write caller index) device { device with usartToUsbBuffer := ring }

/-- The routines of `avalon.c` that reset or stop the ASIC. -/
structure CoversAsic (kind : Point → Device → Device → Prop) (caller : Caller) : Prop where
  clearReportCount : ∀ routine device,
    kind (.clearReportCount routine caller) device { device with reportCount := 0 }
  clearReportValid : ∀ routine device,
    kind (.clearReportValid routine caller) device { device with reportValid := 0 }
  resetLow : ∀ device,
    kind (.resetLow caller) device { device with portd := device.portd &&& ~~~resetPin }
  resetHigh : ∀ device,
    kind (.resetHigh caller) device { device with portd := device.portd ||| resetPin }
  disableSpi : ∀ device,
    kind (.disableSpi caller) device { device with ddrd := device.ddrd &&& ~~~spiEnablePin }
  enableSpi : ∀ device,
    kind (.enableSpi caller) device { device with ddrd := device.ddrd ||| spiEnablePin }

/-- Assignments to `app->state`. -/
structure CoversState (kind : Point → Device → Device → Prop) (caller : Caller) : Prop where
  setState : ∀ device value,
    kind (.setState caller) device { device with state := { device.state with state := value } }
  setNonceValid : ∀ device value,
    kind (.setNonceValid caller) device
      { device with state := { device.state with nonceValid := value } }
  setNonce : ∀ device value,
    kind (.setNonce caller) device { device with state := { device.state with nonce := value } }

/-- The pass over the transmit ring in the loop of `main`. -/
structure CoversFlush (kind : Point → Device → Device → Prop) : Prop where
  flushCount : ∀ device, kind .flushCount device device
  flushTimer : ∀ device timer, kind .flushTimer device { device with flushTimer := timer }
  flushRestart : ∀ device timer, kind .flushRestart device { device with flushTimer := timer }
  sendByte : ∀ device bytes, kind .sendByte device { device with endpoint := bytes }
  removeSent : ∀ device ring, kind .removeSent device { device with usartToUsbBuffer := ring }

theorem usbWrite_within (covers : CoversReply kind caller) (offset : Nat)
    (data : Device → List Byte) (size : Nat) : (usbWrite caller offset data size).Within kind :=
  .each fun _ _ => .assign fun device => covers _ device _

theorem sendCmdReply_within (covers : CoversReply kind caller) (cmd : Byte)
    (data : Device → List Byte) (size : Nat) : (sendCmdReply caller cmd data size).Within kind :=
  .bind (usbWrite_within covers _ _ _) fun _ => usbWrite_within covers _ _ _

theorem sendState_within (covers : CoversReply kind caller) (cmd : Byte) :
    (sendState caller cmd).Within kind :=
  sendCmdReply_within covers _ _ _

theorem clearReport_within (covers : CoversAsic kind caller) (routine : Routine) :
    (clearReport routine caller).Within kind :=
  .bind (.assign (covers.clearReportCount routine)) fun _ =>
    .assign (covers.clearReportValid routine)

theorem asicResetSpi_within (covers : CoversAsic kind caller) :
    (asicResetSpi caller).Within kind :=
  .bind (clearReport_within covers _) fun _ =>
    .bind (.assign covers.disableSpi) fun _ => .assign covers.enableSpi

theorem asicStop_within (covers : CoversAsic kind caller) : (asicStop caller).Within kind :=
  .bind (clearReport_within covers _) fun _ => .assign covers.resetLow

theorem asicReset_within (covers : CoversAsic kind caller) : (asicReset caller).Within kind :=
  .bind (clearReport_within covers _) fun _ =>
    .bind (.assign covers.resetLow) fun _ => .assign covers.resetHigh

section Line

variable (covers : ∀ device value, kind .dataPort device { device with portb := value })
include covers

theorem sendBits_within (passes : Nat) (word : Word) : (sendBits passes word).Within kind := by
  induction passes generalizing word with
  | zero => trivial
  | succ passes ih =>
      exact .bind (.assign fun device => covers device _) fun _ =>
        .bind (.assign fun device => covers device _) fun _ => ih _

theorem asicSend_within (buffer : List Word) (size : Nat) : (asicSend buffer size).Within kind :=
  .each fun _ _ => sendBits_within covers _ _

theorem pushWork_within (work : WorkUnit) : (pushWork work).Within kind :=
  .bind (asicSend_within covers _ _) fun _ => .bind (asicSend_within covers _ _) fun _ =>
    .bind (asicSend_within covers _ _) fun _ => .bind (asicSend_within covers _ _) fun _ =>
      .bind (asicSend_within covers _ _) fun _ => .bind (asicSend_within covers _ _) fun _ =>
        .assign fun device => covers device _

end Line

/-- The pass over the transmit ring in the loop of `main`. -/
def transmitter : Transmitter Point Device 256 where
  flushCount := .flushCount
  flushTimer := .flushTimer
  flushRestart := .flushRestart
  sendByte := .sendByte
  removeSent := .removeSent
  ring := Device.usartToUsbBuffer
  endpoint := Device.endpoint
  due := fun device => timerDue device.flushTimer device.time
  expire := fun device =>
    { device with flushTimer := timerExpired device.flushTimer device.time }
  restart := fun device =>
    { device with flushTimer := timerRestart device.flushTimer device.time }
  send := fun device =>
    { device with endpoint := device.endpoint ++ [device.usartToUsbBuffer.peek] }
  remove := fun device => { device with usartToUsbBuffer := device.usartToUsbBuffer.remove }
  ring_expire := fun _ => rfl
  ring_restart := fun _ => rfl
  ring_send := fun _ => rfl
  ring_remove := fun _ => rfl
  endpoint_expire := fun _ => rfl
  endpoint_restart := fun _ => rfl
  endpoint_send := fun _ => rfl
  endpoint_remove := fun _ => rfl

theorem sendLoop_eq (bufferCount : Nat) (results : List Bool) :
    sendLoop bufferCount results = transmitter.sendLoop bufferCount results := by
  induction bufferCount generalizing results with
  | zero => rfl
  | succ bufferCount ih =>
      simp only [sendLoop, Transmitter.sendLoop, ih]
      rfl

theorem flushReplies_eq (results : List Bool) :
    flushReplies results = transmitter.flush results := by
  simp only [flushReplies, sendLoop_eq]
  rfl

theorem flushReplies_within (covers : CoversFlush kind) (results : List Bool) :
    (flushReplies results).Within kind := by
  have covered : transmitter.Covered kind :=
    { flushCount := covers.flushCount
      flushTimer := fun device => covers.flushTimer device _
      flushRestart := fun device => covers.flushRestart device _
      sent := fun device => covers.sendByte device _
      refused := fun device => covers.sendByte device device.endpoint
      removeSent := fun device => covers.removeSent device _ }
  rw [flushReplies_eq]
  exact transmitter.flush_within covered results

/-- What the commands and the branches of `appService` have in common. -/
structure CoversCaller (kind : Point → Device → Device → Prop) (caller : Caller) : Prop where
  reply : CoversReply kind caller
  asic : CoversAsic kind caller
  state : CoversState kind caller

structure CoversService (kind : Point → Device → Device → Prop) : Prop where
  report : CoversCaller kind .report
  expiry : CoversCaller kind .expiry
  timerStop : ∀ device timer, kind .timerStop device { device with workTimer := timer }
  timerExpired : ∀ device timer, kind .timerExpired device { device with workTimer := timer }
  testReport : ∀ device, kind .testReport device device
  readReport : ∀ device, kind .readReport device device
  enableInterrupt : ∀ device value, kind .enableInterrupt device { device with spcr := value }

/-- Statements that neither take a byte from the receive ring nor complete a
command. -/
def Point.silent : Point → Bool
  | .removeCommand _ => false
  | .fillMidstate _ => false
  | .fillData _ => false
  | .precalc => false
  | _ => true

/-- Statements that neither complete a task nor read it nor write to the line. -/
def Point.offLine : Point → Bool
  | .precalc => false
  | .loadWork => false
  | .dataPort => false
  | _ => true

/-- A statement that has nothing to do with the receive ring, the task and the
line to the ASIC. -/
structure Calm (point : Point) (before after : Device) : Prop where
  silent : point.silent = true
  offLine : point.offLine = true
  buffer : after.buffer = before.buffer
  worktask : after.worktask = before.worktask
  portb : after.portb = before.portb

theorem coversCaller_of_calm
    (covers : ∀ point before after, Calm point before after → kind point before after)
    (caller : Caller) : CoversCaller kind caller where
  reply := fun _ _ _ => covers _ _ _ ⟨rfl, rfl, rfl, rfl, rfl⟩
  asic :=
    { clearReportCount := fun _ _ => covers _ _ _ ⟨rfl, rfl, rfl, rfl, rfl⟩
      clearReportValid := fun _ _ => covers _ _ _ ⟨rfl, rfl, rfl, rfl, rfl⟩
      resetLow := fun _ => covers _ _ _ ⟨rfl, rfl, rfl, rfl, rfl⟩
      resetHigh := fun _ => covers _ _ _ ⟨rfl, rfl, rfl, rfl, rfl⟩
      disableSpi := fun _ => covers _ _ _ ⟨rfl, rfl, rfl, rfl, rfl⟩
      enableSpi := fun _ => covers _ _ _ ⟨rfl, rfl, rfl, rfl, rfl⟩ }
  state :=
    { setState := fun _ _ => covers _ _ _ ⟨rfl, rfl, rfl, rfl, rfl⟩
      setNonceValid := fun _ _ => covers _ _ _ ⟨rfl, rfl, rfl, rfl, rfl⟩
      setNonce := fun _ _ => covers _ _ _ ⟨rfl, rfl, rfl, rfl, rfl⟩ }

theorem coversService_of_calm
    (covers : ∀ point before after, Calm point before after → kind point before after) :
    CoversService kind where
  report := coversCaller_of_calm covers .report
  expiry := coversCaller_of_calm covers .expiry
  timerStop := fun _ _ => covers _ _ _ ⟨rfl, rfl, rfl, rfl, rfl⟩
  timerExpired := fun _ _ => covers _ _ _ ⟨rfl, rfl, rfl, rfl, rfl⟩
  testReport := fun _ => covers _ _ _ ⟨rfl, rfl, rfl, rfl, rfl⟩
  readReport := fun _ => covers _ _ _ ⟨rfl, rfl, rfl, rfl, rfl⟩
  enableInterrupt := fun _ _ => covers _ _ _ ⟨rfl, rfl, rfl, rfl, rfl⟩

theorem coversFlush_of_calm
    (covers : ∀ point before after, Calm point before after → kind point before after) :
    CoversFlush kind where
  flushCount := fun _ => covers _ _ _ ⟨rfl, rfl, rfl, rfl, rfl⟩
  flushTimer := fun _ _ => covers _ _ _ ⟨rfl, rfl, rfl, rfl, rfl⟩
  flushRestart := fun _ _ => covers _ _ _ ⟨rfl, rfl, rfl, rfl, rfl⟩
  sendByte := fun _ _ => covers _ _ _ ⟨rfl, rfl, rfl, rfl, rfl⟩
  removeSent := fun _ _ => covers _ _ _ ⟨rfl, rfl, rfl, rfl, rfl⟩

theorem startWork_within (covers : CoversCaller kind (.command .W))
    (loadWork : ∀ device, kind .loadWork device device)
    (dataPort : ∀ device value, kind .dataPort device { device with portb := value })
    (timerSet : ∀ device timer, kind .timerSet device { device with workTimer := timer }) :
    startWork.Within kind :=
  .bind (.assign fun device => covers.state.setState device _) fun _ =>
    .bind (.assign fun device => covers.state.setNonceValid device _) fun _ =>
    .bind (.assign fun device => covers.state.setNonce device _) fun _ =>
    .bind (asicReset_within covers.asic) fun _ =>
    .bind (asicResetSpi_within covers.asic) fun _ =>
    .bind (.fetch loadWork) fun _ =>
    .bind (pushWork_within dataPort _) fun _ =>
    .bind (.assign fun device => timerSet device _) fun _ =>
    sendState_within covers.reply _

/-- The filling of the task from the receive ring. -/
structure CoversFill (kind : Point → Device → Device → Prop) : Prop where
  fillMidstate : ∀ index device ring task,
    kind (.fillMidstate index) device { device with buffer := ring, worktask := task }
  fillData : ∀ index device ring task,
    kind (.fillData index) device { device with buffer := ring, worktask := task }

theorem fillWork_within (covers : CoversFill kind) : fillWork.Within kind :=
  .bind (.each fun _ _ => .assign fun device => covers.fillMidstate _ device _ _) fun _ =>
    .each fun _ _ => .assign fun device => covers.fillData _ device _ _

/-- A whole `'W'`. -/
structure CoversWork (kind : Point → Device → Device → Prop) : Prop where
  caller : CoversCaller kind (.command .W)
  fill : CoversFill kind
  remove : ∀ device ring, kind (.removeCommand .W) device { device with buffer := ring }
  precalc : ∀ device task, kind .precalc device { device with worktask := task }
  loadWork : ∀ device, kind .loadWork device device
  dataPort : ∀ device value, kind .dataPort device { device with portb := value }
  timerSet : ∀ device timer, kind .timerSet device { device with workTimer := timer }

theorem commandW_within (covers : CoversWork kind) : commandW.Within kind :=
  .bind (.assign fun device => covers.remove device _) fun _ =>
    .bind (fillWork_within covers.fill) fun _ =>
    .bind (.assign fun device => covers.precalc device _) fun _ =>
    startWork_within covers.caller covers.loadWork covers.dataPort covers.timerSet

theorem serviceReport_within (covers : CoversService kind) : serviceReport.Within kind :=
  .bind (.bind (clearReport_within covers.report.asic _) fun _ => .fetch covers.readReport)
    fun _ =>
    .bind (.assign fun device => covers.timerStop device _) fun _ =>
    .bind (asicStop_within covers.report.asic) fun _ =>
    .bind (asicResetSpi_within covers.report.asic) fun _ =>
    .bind (.assign fun device => covers.report.state.setState device _) fun _ =>
    .bind (.assign fun device => covers.enableInterrupt device _) fun _ =>
    .bind (.assign fun device => covers.report.state.setNonce device _) fun _ =>
    .bind (.assign fun device => covers.report.state.setNonceValid device _) fun _ =>
    sendState_within covers.report.reply _

theorem serviceExpiry_within (covers : CoversCaller kind .expiry) : serviceExpiry.Within kind :=
  .bind (asicStop_within covers.asic) fun _ =>
    .bind (asicResetSpi_within covers.asic) fun _ =>
    .bind (.assign fun device => covers.state.setState device _) fun _ =>
    .bind (.assign fun device => covers.state.setNonce device _) fun _ =>
    .bind (.assign fun device => covers.state.setNonceValid device _) fun _ =>
    sendState_within covers.reply _

theorem appService_within (covers : CoversService kind) : appService.Within kind :=
  .bind (.fetch covers.testReport) fun _ =>
    .bind (.onlyIf (serviceReport_within covers)) fun _ =>
    .bind ⟨fun device => covers.timerExpired device _, fun _ => trivial⟩ fun _ =>
    .onlyIf (serviceExpiry_within covers.expiry)

theorem commandR_rest_within (covers : CoversCaller kind (.command .R)) :
    (do
      asicReset (.command .R)
      asicResetSpi (.command .R)
      setState (.command .R) stateReset
      sendState (.command .R) Command.R.toByte).Within kind :=
  .bind (asicReset_within covers.asic) fun _ =>
    .bind (asicResetSpi_within covers.asic) fun _ =>
    .bind (.assign fun device => covers.state.setState device _) fun _ =>
    sendState_within covers.reply _

theorem commandA_rest_within (covers : CoversCaller kind (.command .A)) :
    (do
      setState (.command .A) stateReset
      asicStop (.command .A)
      sendState (.command .A) Command.A.toByte).Within kind :=
  .bind (.assign fun device => covers.state.setState device _) fun _ =>
    .bind (asicStop_within covers.asic) fun _ => sendState_within covers.reply _

theorem dispatch_within
    (covers : ∀ command, command ≠ .W → CoversCaller kind (.command command))
    (remove : ∀ command, command ≠ .W → ∀ device,
      kind (.removeCommand command) device { device with buffer := device.buffer.remove })
    (toggle : ∀ device value, kind .toggleLed device { device with portd := value })
    (count : BitVec 16) {command : Command} (notW : command ≠ .W) :
    (dispatch count command).Within kind := by
  have removed := Within.assign (remove command notW)
  cases command with
  | L => exact removed.bind fun _ => .assign fun device => toggle device _
  | R => exact removed.bind fun _ => commandR_rest_within (covers .R notW)
  | I => exact removed.bind fun _ => sendCmdReply_within (covers .I notW).reply _ _ _
  | A => exact removed.bind fun _ => commandA_rest_within (covers .A notW)
  | S => exact removed.bind fun _ => sendState_within (covers .S notW).reply _
  | W => exact absurd rfl notW
  | other byte => exact removed

/-- An assertion that holds between calls, proved command by command. -/
structure Boundary (setting : Setting Point Device Interrupt Call)
    (between : Device → Past → Prop) : Prop where
  steady : setting.Steady between
  call : ∀ entry device history, setting.allowed (.call entry) device history →
    between device history → between device (⟨.call entry, device, device⟩ :: history)
  receive : ∀ device ring, setting.Keeps between .receive device { device with buffer := ring }
  getCount : ∀ device, setting.Keeps between .getCount device device
  peekCommand : ∀ device, setting.Keeps between .peekCommand device device
  single : ∀ count command, command ≠ .W →
    setting.Triple between (dispatch count command) fun _ => between
  work : setting.Triple between commandW fun _ => between
  flush : ∀ results, setting.Triple between (flushReplies results) fun _ => between
  service : ∀ device history, setting.allowed (.call .service) device history →
    between device history → setting.Ensures (fun _ => between) appService device
      (⟨.call .service, device, device⟩ :: history)

namespace Boundary

variable {setting : Setting Point Device Interrupt Call} {between : Device → Past → Prop}
  (boundary : Boundary setting between)
include boundary

theorem dispatch (count : BitVec 16) (command : Command) :
    setting.Triple between (dispatch count command) fun _ => between := by
  by_cases isW : command = .W
  · subst isW
    exact .onlyIf boundary.steady (fun _ => boundary.work) fun _ _ _ holds => holds
  · exact boundary.single count command isW

theorem usbData (received : List Byte) :
    setting.Triple between (appUsbDataReceived received) fun _ => between := by
  have stored : setting.Triple between
      (each received fun byte =>
        assign .receive fun device => { device with buffer := device.buffer.insert byte })
      fun _ => between :=
    .kept boundary.steady (.each fun _ _ => .assign fun device => boundary.receive device _)
  refine stored.seq fun _ => ?_
  refine .read (fun _ => True) boundary.steady boundary.getCount (fun _ _ _ => trivial)
    fun count _ => ?_
  refine .onlyIf boundary.steady (fun _ => ?_) fun _ _ _ holds => holds
  exact .read (fun _ => True) boundary.steady boundary.peekCommand (fun _ _ _ => trivial)
    fun cmd _ => boundary.dispatch count (Command.ofByte cmd)

theorem calls (entry : Call) (device : Device) (history : Past)
    (holds : between device history) (admitted : setting.allowed (.call entry) device history) :
    setting.Ensures (fun _ => between) (body entry) device
      (⟨.call entry, device, device⟩ :: history) := by
  have entered := boundary.call entry device history admitted holds
  cases entry with
  | usbData received => exact boundary.usbData received _ _ entered
  | flush results => exact boundary.flush results _ _ entered
  | service => exact boundary.service device history admitted holds

end Boundary

end MiniMiner.AvalonBTC
