import MiniMiner.AvalonBTC.Device

/-! `avalon.c`: the report interrupt, the reset lines and the serial line to
the ASIC. Delays are not statements: an interrupt may come before and after
them anyway. -/

set_option autoImplicit false

namespace MiniMiner.AvalonBTC

open LittleEndian Preemption.Program

/-- The statics that the capture loop of the interrupt handler updates. -/
structure Capture where
  report : Word
  count : Byte
  timeout : BitVec 16
  deriving DecidableEq

/-- The loop of `ISR(SPI_STC_vect)` over the polls of the status register, each
finding nothing or one byte. The fuel bounds the number of loop tests. -/
def capture (polls : Nat → Option Byte) : (fuel poll : Nat) → Capture → Capture
  | 0, _, state => state
  | fuel + 1, poll, state =>
      if state.count = 4 then state
      else
        match polls poll with
        | some byte =>
            capture polls fuel (poll + 1)
              { report := (state.report <<< 8) ||| byte.setWidth 32
                count := state.count + 1
                timeout := 0 }
        | none =>
            if state.timeout + 1 = 1000 then { state with timeout := state.timeout + 1 }
            else capture polls fuel (poll + 1) { state with timeout := state.timeout + 1 }

/-- `ISR(SPI_STC_vect)`, entered with the byte `spdr` in the data register. At
most three bytes follow, each after fewer than 1000 empty polls. -/
def spiStc (spdr : Byte) (polls : Nat → Option Byte) (device : Device) : Device :=
  let final := capture polls 3001 0 { report := spdr.setWidth 32, count := 1, timeout := 0 }
  { device with
    spcr := device.spcr &&& ~~~spie
    report := final.report
    reportCount := final.count
    reportTimeout := final.timeout
    reportValid := 1 }

/-- The remaining passes of the loop of `send32`: both lines low, then one high. -/
def sendBits : Nat → Word → Firmware Unit
  | 0, _ => pure ()
  | passes + 1, word => do
      assign .dataPort fun device =>
        { device with portb := device.portb &&& ~~~(dataN ||| dataP) }
      assign .dataPort fun device =>
        { device with portb := device.portb ||| (if word &&& 1 = 1 then dataP else dataN) }
      sendBits passes (word >>> 1)

def send32 (word : Word) : Firmware Unit := sendBits 32 word

def asicSend (buffer : List Word) (size : Nat) : Firmware Unit :=
  each (buffer.take size) send32

def asicIdle : Firmware Unit :=
  assign .dataPort fun device => { device with portb := device.portb ||| (dataN ||| dataP) }

def asicInit : Firmware Unit := do
  assign .initPorts fun device =>
    { device with
      ddrb := 0x38
      portb := 0x30
      ddrd := device.ddrd ||| resetPin
      portd := device.portd ||| resetPin }
  -- SPIE, SPE, CPHA and DORD
  assign .initSpi fun device => { device with spcr := spie ||| bv 6 ||| bv 2 ||| bv 5 }

/-- The two assignments with which every routine below begins. -/
def clearReport (routine : Routine) (caller : Caller) : Firmware Unit := do
  assign (.clearReportCount routine caller) fun device => { device with reportCount := 0 }
  assign (.clearReportValid routine caller) fun device => { device with reportValid := 0 }

def asicResetSpi (caller : Caller) : Firmware Unit := do
  clearReport .asicResetSpi caller
  assign (.disableSpi caller) fun device =>
    { device with ddrd := device.ddrd &&& ~~~spiEnablePin }
  assign (.enableSpi caller) fun device => { device with ddrd := device.ddrd ||| spiEnablePin }

def asicStop (caller : Caller) : Firmware Unit := do
  clearReport .asicStop caller
  assign (.resetLow caller) fun device => { device with portd := device.portd &&& ~~~resetPin }

def asicReset (caller : Caller) : Firmware Unit := do
  clearReport .asicReset caller
  assign (.resetLow caller) fun device => { device with portd := device.portd &&& ~~~resetPin }
  assign (.resetHigh caller) fun device => { device with portd := device.portd ||| resetPin }

/-- `asicReportValid` returns the flag narrowed to a byte. -/
def asicReportValid : Firmware Byte :=
  fetch .testReport fun device => device.reportValid.setWidth 8

def asicGetNonce : Firmware Word := do
  clearReport .asicGetNonce .report
  fetch .readReport fun device => device.report

end MiniMiner.AvalonBTC
