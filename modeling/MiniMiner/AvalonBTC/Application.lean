import MiniMiner.AvalonBTC.Avalon

/-! `application.c` and the loop of `main.c`. A call of `appUsbDataReceived`
carries the bytes that `CDC_Device_ReceiveByte` delivers before it returns a
negative value; a pass over the transmit ring carries the results of
`CDC_Device_SendByte`. -/

set_option autoImplicit false

namespace MiniMiner.AvalonBTC

open LittleEndian Preemption.Program

/-- `usbWrite`: `size` bytes read from memory into the transmit ring. The
`offset` numbers the bytes within a reply. -/
def usbWrite (caller : Caller) (offset : Nat) (data : Device → List Byte) (size : Nat) :
    Firmware Unit :=
  each (List.range size) fun i =>
    assign (.write caller (offset + i)) fun device =>
      { device with
        usartToUsbBuffer := device.usartToUsbBuffer.insert ((data device).getD i 0) }

def sendCmdReply (caller : Caller) (cmd : Byte) (data : Device → List Byte) (size : Nat) :
    Firmware Unit := do
  usbWrite caller 0 (fun _ => [cmd]) 1
  usbWrite caller 1 data size

/-- The reply that carries `app->state`. -/
def sendState (caller : Caller) (cmd : Byte) : Firmware Unit :=
  sendCmdReply caller cmd (fun device => device.state.bytes) 6

def pushWork (work : WorkUnit) : Firmware Unit := do
  asicSend clockConfig.toList 2
  asicSend work.data.toList 3
  asicSend (work.precalc.toList.drop 1) 5
  asicSend work.midstate.toList 8
  asicSend work.precalc.toList 1
  asicSend [0] 1
  asicIdle

def removeCommand (command : Command) : Firmware Unit :=
  assign (.removeCommand command) fun device => { device with buffer := device.buffer.remove }

def setState (caller : Caller) (value : Byte) : Firmware Unit :=
  assign (.setState caller) fun device =>
    { device with state := { device.state with state := value } }

def setNonceValid (caller : Caller) (value : Byte) : Firmware Unit :=
  assign (.setNonceValid caller) fun device =>
    { device with state := { device.state with nonceValid := value } }

def setNonce (caller : Caller) (value : Word) : Firmware Unit :=
  assign (.setNonce caller) fun device =>
    { device with state := { device.state with nonce := value } }

/-- The two fill loops of the case `'W'`, through byte pointers into the task. -/
def fillWork : Firmware Unit := do
  each (List.finRange 32) fun i =>
    assign (.fillMidstate i) fun device =>
      { device with
        buffer := device.buffer.remove
        worktask := { device.worktask with
          midstate := pokeByte device.worktask.midstate i device.buffer.peek } }
  each (List.finRange 12) fun i =>
    assign (.fillData i) fun device =>
      { device with
        buffer := device.buffer.remove
        worktask := { device.worktask with
          data := pokeByte device.worktask.data i device.buffer.peek } }

def commandL : Firmware Unit := do
  removeCommand .L
  assign .toggleLed fun device => { device with portd := device.portd ^^^ bv 0 }

def commandR : Firmware Unit := do
  removeCommand .R
  asicReset (.command .R)
  asicResetSpi (.command .R)
  setState (.command .R) stateReset
  sendState (.command .R) Command.R.toByte

def commandI : Firmware Unit := do
  removeCommand .I
  sendCmdReply (.command .I) Command.I.toByte (fun _ => identity) 13

def commandA : Firmware Unit := do
  removeCommand .A
  setState (.command .A) stateReset
  asicStop (.command .A)
  sendState (.command .A) Command.A.toByte

def commandS : Firmware Unit := do
  removeCommand .S
  sendState (.command .S) Command.S.toByte

/-- The case `'W'` from the first assignment to `app->state` on. -/
def startWork : Firmware Unit := do
  setState (.command .W) stateWorking
  setNonceValid (.command .W) 0
  setNonce (.command .W) 0
  asicReset (.command .W)
  asicResetSpi (.command .W)
  let work ← fetch .loadWork fun device => device.worktask
  pushWork work
  assign .timerSet fun device =>
    { device with workTimer := timerSet device.workTimer 16000 device.time }
  sendState (.command .W) Command.W.toByte

/-- The case `'W'` once its forty-four payload bytes are in the ring. -/
def commandW : Firmware Unit := do
  removeCommand .W
  fillWork
  assign .precalc fun device =>
    { device with
      worktask := { device.worktask with
        precalc := asicPrecalc device.worktask.midstate device.worktask.data
          device.worktask.precalc } }
  startWork

/-- The switch of `serialProcess` on the peeked byte. -/
def dispatch (count : BitVec 16) : Command → Firmware Unit
  | .L => commandL
  | .R => commandR
  | .I => commandI
  | .A => commandA
  | .S => commandS
  | .W => onlyIf (count > 44) commandW
  | .other byte => removeCommand (.other byte)

def serialProcess : Firmware Unit := do
  let count ← fetch .getCount fun device => device.buffer.getCount
  onlyIf (count ≠ 0) do
    let cmd ← fetch .peekCommand fun device => device.buffer.peek
    dispatch count (Command.ofByte cmd)

def appInit : Firmware Unit := do
  assign .initRings fun device =>
    { device with
      usartToUsbBuffer := .initBuffer device.usartToUsbBuffer.data transmitRing_fits transmitRing_nonempty
      buffer := .initBuffer device.buffer.data receiveRing_fits receiveRing_nonempty
      state := { device.state with state := stateReset } }
  asicInit
  asicStop .appInit

/-- The byte-wise reversal of a report, without the offset of the ASIC. -/
def nonceOfReport (nonce : Word) : Word :=
  let reversed : Word := 0
  let reversed := reversed ||| (nonce &&& 0xFF)
  let nonce := nonce >>> 8
  let reversed := reversed <<< 8
  let reversed := reversed ||| (nonce &&& 0xFF)
  let nonce := nonce >>> 8
  let reversed := reversed <<< 8
  let reversed := reversed ||| (nonce &&& 0xFF)
  let nonce := nonce >>> 8
  let reversed := reversed <<< 8
  let reversed := reversed ||| (nonce &&& 0xFF)
  reversed - 0xC0

/-- The body of the first `if` of `appService`. -/
def serviceReport : Firmware Unit := do
  let nonce ← asicGetNonce
  assign .timerStop fun device => { device with workTimer := timerStop device.workTimer }
  asicStop .report
  asicResetSpi .report
  setState .report stateReset
  assign .enableInterrupt fun device => { device with spcr := device.spcr ||| spie }
  setNonce .report (nonceOfReport nonce)
  setNonceValid .report 1
  sendState .report Command.S.toByte

/-- The body of the second `if` of `appService`. -/
def serviceExpiry : Firmware Unit := do
  asicStop .expiry
  asicResetSpi .expiry
  setState .expiry stateReset
  setNonce .expiry 0
  setNonceValid .expiry 0
  sendState .expiry Command.S.toByte

/-- The call of `timerExpired` on the work timer. -/
def workTimerExpired : Firmware Bool :=
  .statement .timerExpired
    (fun device => { device with workTimer := timerExpired device.workTimer device.time })
    fun device => .done (timerDue device.workTimer device.time)

def appService : Firmware Unit := do
  let valid ← asicReportValid
  onlyIf (valid ≠ 0) serviceReport
  let expired ← workTimerExpired
  onlyIf (expired = true) serviceExpiry

def appUsbDataReceived (received : List Byte) : Firmware Unit := do
  each received fun byte =>
    assign .receive fun device => { device with buffer := device.buffer.insert byte }
  serialProcess

/-- The loop over the transmit ring; it stops at the first send error. -/
def sendLoop : (bufferCount : Nat) → (results : List Bool) → Firmware Unit
  | 0, _ => pure ()
  | bufferCount + 1, results =>
      if results.headD false then do
        assign .sendByte fun device =>
          { device with endpoint := device.endpoint ++ [device.usartToUsbBuffer.peek] }
        assign .removeSent fun device =>
          { device with usartToUsbBuffer := device.usartToUsbBuffer.remove }
        sendLoop bufferCount results.tail
      else assign .sendByte id

/-- The middle part of the loop of `main`. -/
def flushReplies (results : List Bool) : Firmware Unit := do
  let bufferCount ← fetch .flushCount fun device => device.usartToUsbBuffer.getCount
  let expired ← .statement .flushTimer
    (fun device => { device with flushTimer := timerExpired device.flushTimer device.time })
    fun device => .done (timerDue device.flushTimer device.time)
  onlyIf (expired = true ∨ bufferCount > 0) do
    assign .flushRestart fun device =>
      { device with flushTimer := timerRestart device.flushTimer device.time }
    sendLoop bufferCount.toNat results

end MiniMiner.AvalonBTC
