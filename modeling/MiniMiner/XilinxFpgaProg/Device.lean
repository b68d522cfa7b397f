import MiniMiner.Preemption.Machine
import MiniMiner.RingBuffer
import MiniMiner.Timer

/-! The state of the XilinxFpgaProg firmware: the registers it touches, the statics
of `serial.c` and `clock.c`, the `Application` record, and what has been handed to
the peripherals. -/

set_option autoImplicit false

namespace MiniMiner.XilinxFpgaProg

open LittleEndian

/-- `(1 << n)` on an 8-bit register. -/
def bit (position : Nat) : Byte := 1#8 <<< position

def led1 : Byte := bit 6
def led2 : Byte := bit 7
def programB : Byte := bit 5

def serialStartConfig : Byte := 0x01
def serialDownloadData : Byte := 0x02
def serialSpiData : Byte := 0x03
def serialSpiSelect : Byte := 0x04
def serialUsartData : Byte := 0x05
def serialUseUsart : Byte := 0x06
def serialUseSpi : Byte := 0x07
def serialFpgaReset : Byte := 0x08
def serialFpgaStart : Byte := 0x09
def serialEndCommands : Byte := 0x0a
def serialAck : Byte := 0x80
def serialNak : Byte := 0x81

/-- The statics of `serial.c`. -/
structure Serial where
  buffer : RingBuffer 128
  frameSize : Byte

structure Device where
  ddrb : Byte
  portb : Byte
  ddrd : Byte
  portd : Byte
  spcr : Byte
  spsr : Byte
  time : Word
  serial : Serial
  usartToUsbBuffer : RingBuffer 128
  serialRxBuffer : RingBuffer 64
  serialTimeout : Timer
  /-- The local `timer` of `main`. -/
  flushTimer : Timer
  /-- The bytes handed to `SPI_SendByte` and to `Serial_SendByte`. -/
  spi : List Byte
  usart : List Byte
  /-- The bytes `CDC_Device_SendByte` has put into the endpoint so far. -/
  endpoint : List Byte

theorem ring_fits : 128 ∣ 2 ^ 15 := by decide

theorem ring_nonempty : 0 < 128 := by decide

theorem serialRing_fits : 64 ∣ 2 ^ 15 := by decide

theorem serialRing_nonempty : 0 < 64 := by decide

/-- Where a payload byte goes. -/
inductive Sink where
  | spi | usart | nowhere
  deriving DecidableEq

/-- Program points. The interrupts touch only the clock, the serial ring and its
timer, so code that touches none of these is cut only where a run is observed. -/
inductive Point where
  | addByte (byte : Byte)
  | removeCmd | removeSize | removeSelect
  | payload (sink : Sink)
  | ports
  | verdict | zero
  | timeoutClock | timeoutActive | timeoutStart | timeoutElapsed | timeoutClear
  | relayCheck | relayCmd | relayCount | relayTake | relayByte
  | restartActive | restartClock | restartStart
  | flushCount | flushTimer | flushRestart | sendByte | removeSent
  deriving DecidableEq

abbrev Firmware := Preemption.Program Point Device

end MiniMiner.XilinxFpgaProg
