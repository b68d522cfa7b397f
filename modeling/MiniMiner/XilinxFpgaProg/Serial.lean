import MiniMiner.XilinxFpgaProg.Device

/-! `serial.c` with `XilinxProtocol.c`: the reassembly of frames and the execution
of a frame. Delays are not statements. -/

set_option autoImplicit false

namespace MiniMiner.XilinxFpgaProg

open LittleEndian Preemption.Program

/-- The pins that a frame can read: the successive polls of `isSetInitB`, and
`isSetDone`. -/
structure Pins where
  initB : Nat → Bool
  done : Bool

/-- `serialAddByte`: its result and the statics it leaves. -/
def serialAddByte (byte : Byte) (serial : Serial) : Bool × Serial :=
  if serial.buffer.getCount = 0 ∧ serialEndCommands ≤ byte then (false, serial)
  else
    let frameSize := if serial.buffer.getCount = 1 then byte + 2 else serial.frameSize
    let buffer := serial.buffer.insert byte
    if buffer.getCount = frameSize.setWidth 16 then (true, { buffer := buffer, frameSize := 0 })
    else (false, { buffer := buffer, frameSize := frameSize })

/-- `SPI_Init` with the options of both callers, and the two lines after it. -/
def useSpi (device : Device) : Device :=
  let ddrb := device.ddrb ||| bit 0 ||| (bit 1 ||| bit 2)
  let ddrb := ddrb &&& ~~~bit 3 &&& ~~~bit 0
  { device with
    ddrb := ddrb ||| bit 0
    portb := device.portb ||| bit 0 ||| bit 3 ||| bit 0
    spsr := device.spsr ||| bit 0
    -- SPE, the divider's two bits (one of them again SPE), MSTR
    spcr := bit 6 ||| (bit 6 ||| bit 0 ||| bit 4) }

/-- `SPI_Disable` and the two lines after it. -/
def useUsart (device : Device) : Device :=
  { device with
    ddrb := device.ddrb &&& ~~~(bit 1 ||| bit 2) ||| (bit 1 ||| bit 2)
    portb := device.portb &&& ~~~(bit 0 ||| bit 3) &&& ~~~(bit 1 ||| bit 2)
    spcr := 0
    spsr := 0 }

/-- What is left of `timeout` when the loop of `xilinxSetupConfiguration` ends. -/
def waitInitB (initB : Nat → Bool) : (timeout poll : Nat) → Nat
  | 0, _ => 0
  | timeout + 1, poll =>
      if initB poll then timeout + 1 else waitInitB initB timeout (poll + 1)

def setPorts (effect : Device → Device) : Firmware Unit := assign .ports effect

def xilinxSetupConfiguration (pins : Pins) : Firmware Bool := do
  setPorts fun device => { device with portb := device.portb &&& ~~~programB }
  setPorts fun device => { device with portb := device.portb ||| programB }
  pure (waitInitB pins.initB 1000 0 ≠ 0)

/-- `RingBuffer_Remove` on `buffer_`. -/
def Serial.remove (serial : Serial) : Serial := { serial with buffer := serial.buffer.remove }

def removeByte (point : Point) : Firmware Byte :=
  .statement point (fun device => { device with serial := device.serial.remove })
    fun device => .done device.serial.buffer.peek

def Sink.take (sink : Sink) (device : Device) : Device :=
  match sink with
  | .spi => { device with
      serial := device.serial.remove, spi := device.spi ++ [device.serial.buffer.peek] }
  | .usart => { device with
      serial := device.serial.remove, usart := device.usart ++ [device.serial.buffer.peek] }
  | .nowhere => { device with serial := device.serial.remove }

def takePayload (sink : Sink) (size : Byte) : Firmware Unit :=
  each (List.range size.toNat) fun _ => assign (.payload sink) sink.take

def toggleLed (led : Byte) : Firmware Unit :=
  setPorts fun device => { device with portb := device.portb ^^^ led }

def pulse (line : Byte) : Firmware Unit := do
  setPorts fun device => { device with portb := device.portb ||| line }
  setPorts fun device => { device with portb := device.portb &&& ~~~line }

def downloadData (pins : Pins) (size : Byte) : Firmware Bool := do
  toggleLed led1
  takePayload .spi size
  if pins.done then pure true
  else if ¬ pins.initB 0 then pure false
  else pure true

def spiSelect : Firmware Bool := do
  let prop ← removeByte .removeSelect
  setPorts fun device =>
    { device with
      portd := if prop ≠ 0 then device.portd &&& ~~~bit 3 else device.portd ||| bit 3 }
  pure true

/-- `serialProcess` after the two bytes of the header. -/
def execute (pins : Pins) (cmd size : Byte) : Firmware Bool :=
  if cmd = serialStartConfig then xilinxSetupConfiguration pins
  else if cmd = serialDownloadData then downloadData pins size
  else if cmd = serialUseSpi then do
    setPorts useSpi
    pure true
  else if cmd = serialSpiData then do
    toggleLed led2
    takePayload .spi size
    pure true
  else if cmd = serialSpiSelect then spiSelect
  else if cmd = serialUseUsart then do
    setPorts useUsart
    pure true
  else if cmd = serialUsartData then do
    takePayload .usart size
    pure true
  else if cmd = serialFpgaReset then do
    pulse (bit 1)
    pure true
  else if cmd = serialFpgaStart then do
    pulse (bit 2)
    pure true
  else do
    takePayload .nowhere size
    pure false

def serialProcess (pins : Pins) : Firmware Bool := do
  let cmd ← removeByte .removeCmd
  let size ← removeByte .removeSize
  execute pins cmd size

end MiniMiner.XilinxFpgaProg
