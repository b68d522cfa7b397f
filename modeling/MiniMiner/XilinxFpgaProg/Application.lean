import MiniMiner.XilinxFpgaProg.Serial

/-! `application.c` and `XilinxFpgaProg.c` as a preempted machine. Each received
byte comes with the pins that its frame may read; the loop of `main` makes its
calls in any order. -/

set_option autoImplicit false

namespace MiniMiner.XilinxFpgaProg

open LittleEndian Preemption Preemption.Program

structure Received where
  byte : Byte
  pins : Pins

def queue (point : Point) (byte : Byte) : Firmware Unit :=
  assign point fun device =>
    { device with usartToUsbBuffer := device.usartToUsbBuffer.insert byte }

/-- The body of the loop of `appUsbDataReceived`. -/
def receiveByte (received : Received) : Firmware Unit := do
  let complete ← .statement (.addByte received.byte)
    (fun device => { device with serial := (serialAddByte received.byte device.serial).2 })
    fun device => .done (serialAddByte received.byte device.serial).1
  onlyIf (complete = true) do
    let accepted ← serialProcess received.pins
    queue .verdict (if accepted then serialAck else serialNak)
    queue .zero 0

def appUsbDataReceived (received : List Received) : Firmware Unit :=
  each received receiveByte

/-- `timerExpired` on `serial_timeout`, which the receive interrupt restarts: one
statement for each read of the record. -/
def serialTimeoutExpired : Firmware Bool := do
  let time ← fetch .timeoutClock fun device => device.time
  let active ← fetch .timeoutActive fun device => device.serialTimeout.active
  if active = 0 then pure false
  else do
    let start ← fetch .timeoutStart fun device => device.serialTimeout.start
    let expired ← fetch .timeoutElapsed fun device =>
      if start < time then decide (device.serialTimeout.interval < time - device.serialTimeout.start)
      else decide (device.serialTimeout.interval ≤ ~~~device.serialTimeout.start + time + 1)
    onlyIf (expired = true) (assign .timeoutClear fun device =>
      { device with serialTimeout := { device.serialTimeout with active := 0 } })
    pure expired

/-- `timerRestart` on `serial_timeout`. -/
def serialTimeoutRestart : Firmware Unit := do
  assign .restartActive fun device =>
    { device with serialTimeout := { device.serialTimeout with active := 1 } }
  let time ← fetch .restartClock fun device => device.time
  assign .restartStart fun device =>
    { device with serialTimeout := { device.serialTimeout with start := time } }

/-- The frame that carries the bytes of the serial ring. -/
def relay : Firmware Unit := do
  let count : Byte ← fetch .relayCheck fun device =>
    device.serialRxBuffer.getCount.setWidth 8
  onlyIf (count > 0) do
    queue .relayCmd serialUsartData
    queue .relayCount count
    each (List.range count.toNat) fun _ => do
      let byte ← .statement .relayTake
        (fun device => { device with serialRxBuffer := device.serialRxBuffer.remove })
        fun device => .done device.serialRxBuffer.peek
      queue .relayByte byte

def appService : Firmware Unit := do
  let expired ← serialTimeoutExpired
  onlyIf (expired = true) do
    relay
    serialTimeoutRestart

/-- The loop over the transmit ring; it stops at the first send error. -/
def sendLoop : (bufferCount : Nat) → (results : List Bool) → Firmware Unit
  | 0, _ => pure ()
  | bufferCount + 1, results =>
      if results.headD false then do
        assign .sendByte fun device =>
          { device with endpoint := device.endpoint ++ [device.usartToUsbBuffer.peek] }
        assign .removeSent fun device =>
          { device with usartToUsbBuffer := device.usartToUsbBuffer.remove }
        sendLoop bufferCount results.tail
      else assign .sendByte id

/-- The middle part of the loop of `main`. -/
def flushReplies (results : List Bool) : Firmware Unit := do
  let bufferCount ← fetch .flushCount fun device => device.usartToUsbBuffer.getCount
  let expired ← .statement .flushTimer
    (fun device => { device with flushTimer := timerExpired device.flushTimer device.time })
    fun device => .done (timerDue device.flushTimer device.time)
  onlyIf (expired = true ∨ bufferCount > 0) do
    assign .flushRestart fun device =>
      { device with flushTimer := timerRestart device.flushTimer device.time }
    sendLoop bufferCount.toNat results

/-- The interrupts: the millisecond clock, and a byte from the USART while the USB
device is configured or not. -/
inductive Interrupt where
  | tick
  | usart (byte : Byte) (configured : Bool)

inductive Call where
  | usbData (received : List Received)
  | flush (results : List Bool)
  | service

def appSerialDataReceived (byte : Byte) (device : Device) : Device :=
  { device with
    serialRxBuffer := device.serialRxBuffer.insert byte
    serialTimeout := timerRestart device.serialTimeout device.time }

def handler : Interrupt → Device → Option Device
  | .tick, device => some { device with time := device.time + 1 }
  | .usart byte configured, device =>
      some (if configured then appSerialDataReceived byte device else device)

def body : Call → Firmware Unit
  | .usbData received => appUsbDataReceived received
  | .flush results => flushReplies results
  | .service => appService

def firmware : Machine Point Device Interrupt Call where
  handler := handler
  body := body

/-- The zero-initialised statics and registers. -/
def powerOn : Device where
  ddrb := 0
  portb := 0
  ddrd := 0
  portd := 0
  spcr := 0
  spsr := 0
  time := 0
  serial :=
    { buffer := .initBuffer (.replicate 128 0) ring_fits ring_nonempty, frameSize := 0 }
  usartToUsbBuffer := .initBuffer (.replicate 128 0) ring_fits ring_nonempty
  serialRxBuffer := .initBuffer (.replicate 64 0) serialRing_fits serialRing_nonempty
  serialTimeout := { active := 0, start := 0, interval := 0 }
  flushTimer := { active := 0, start := 0, interval := 0 }
  spi := []
  usart := []
  endpoint := []

/-- `SetupHardware`: the ports, `clockInit`, `LEDs_Init`, `serialInit` and
`xilinxInit`. The LED mask is a macro without brackets, so only its first half is
complemented. -/
def setupHardware (device : Device) : Device :=
  useSpi { device with
    ddrb := 0x27 ||| (led1 ||| led2)
    portb := 0x38 &&& (~~~led1 ||| led2)
    ddrd := 0x08
    portd := 0x44
    time := 0
    serial :=
      { buffer := .initBuffer device.serial.buffer.data ring_fits ring_nonempty
        frameSize := 0 } }

def appInit (device : Device) : Device :=
  { device with
    usartToUsbBuffer := .initBuffer device.usartToUsbBuffer.data ring_fits ring_nonempty
    serialRxBuffer :=
      .initBuffer device.serialRxBuffer.data serialRing_fits serialRing_nonempty
    serialTimeout := timerSet device.serialTimeout 100 device.time }

/-- `main` up to `sei()`; interrupts are off until then. -/
def boot : Device :=
  let device := appInit (setupHardware powerOn)
  { device with
    portb := (device.portb &&& ~~~led1) ||| led2 ||| led1
    flushTimer := timerSet device.flushTimer 10 device.time }

abbrev Choices := List (Choice Interrupt Call)

abbrev Past := History Point Device Interrupt Call

abbrev Step := Label Point Interrupt Call

/-- The configuration that a list of choices reaches from the end of the
start-up code. -/
def after (choices : Choices) : Config Point Device Interrupt Call :=
  firmware.run choices (.start boot)

end MiniMiner.XilinxFpgaProg
