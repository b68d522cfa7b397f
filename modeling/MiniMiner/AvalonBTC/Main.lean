import MiniMiner.AvalonBTC.Application

/-! The firmware as a preempted machine. In every pass the loop of `main` calls
`appUsbDataReceived` if bytes are waiting, then serves the transmit ring, then
calls `appService`; the machine allows these calls in any order. -/

set_option autoImplicit false

namespace MiniMiner.AvalonBTC

open LittleEndian Preemption

/-- The interrupts: the millisecond clock, and the end of an SPI transfer with
the byte in the data register and the later polls of the handler. -/
inductive Interrupt where
  | tick
  | spi (spdr : Byte) (polls : Nat → Option Byte)

inductive Call where
  | usbData (received : List Byte)
  | flush (results : List Bool)
  | service

/-- The clock interrupt is never masked; the SPI interrupt needs `SPIE`. -/
def handler : Interrupt → Device → Option Device
  | .tick, device => some { device with time := device.time + 1 }
  | .spi spdr polls, device =>
      if device.spcr &&& spie = 0 then none else some (spiStc spdr polls device)

def body : Call → Firmware Unit
  | .usbData received => appUsbDataReceived received
  | .flush results => flushReplies results
  | .service => appService

def firmware : Machine Point Device Interrupt Call where
  handler := handler
  body := body

/-- The zero-initialised statics and registers. -/
def powerOn : Device where
  spcr := 0
  ddrb := 0
  portb := 0
  ddrd := 0
  portd := 0
  report := 0
  reportValid := 0
  reportCount := 0
  reportTimeout := 0
  time := 0
  usartToUsbBuffer := .initBuffer (.replicate 256 0) transmitRing_fits transmitRing_nonempty
  buffer := .initBuffer (.replicate 128 0) receiveRing_fits receiveRing_nonempty
  worktask := { midstate := .replicate 8 0, data := .replicate 3 0, precalc := .replicate 6 0 }
  state := { state := 0, nonceValid := 0, nonce := 0 }
  workTimer := { active := 0, start := 0, interval := 0 }
  flushTimer := { active := 0, start := 0, interval := 0 }
  endpoint := []

/-- The register writes of `SetupHardware` with `clockInit` and `LEDs_Init`. -/
def setupHardware (device : Device) : Device :=
  { device with
    ddrb := 0x0C
    portb := 0x0F
    ddrd := 0x43 ||| (bv 0 ||| bv 1)
    portd := 0x40 &&& ~~~(bv 0 ||| bv 1)
    time := 0 }

/-- `main` up to `sei()`; interrupts are off until then. -/
def boot : Device :=
  let device := (appInit.alone (setupHardware powerOn)).2
  { device with
    portd := (device.portd &&& ~~~(bv 0 ||| bv 1)) ||| bv 0
    flushTimer := timerSet device.flushTimer 10 device.time }

abbrev Choices := List (Choice Interrupt Call)

abbrev Past := History Point Device Interrupt Call

abbrev Step := Label Point Interrupt Call

/-- The configuration that a list of choices reaches from the end of the
start-up code. -/
def after (choices : Choices) : Config Point Device Interrupt Call :=
  firmware.run choices (.start boot)

end MiniMiner.AvalonBTC
