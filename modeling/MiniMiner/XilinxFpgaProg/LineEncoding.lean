import MiniMiner.Lufa.ControlRequestProperties
import MiniMiner.XilinxFpgaProg.Device

/-! The USART behind the virtual serial port: `EVENT_CDC_Device_LineEncodingChanged`, which
the class driver calls when the host has set a line encoding. -/

set_option autoImplicit false

namespace MiniMiner.XilinxFpgaProg

open LittleEndian Lufa

structure Usart where
  ucsr1a : Byte
  ucsr1b : Byte
  ucsr1c : Byte
  ubrr1 : BitVec 16
  deriving DecidableEq

/-- `F_CPU / 8`. -/
def doubleSpeedClock : Word := 2000000

/-- `SERIAL_2X_UBBRVAL`, with what the division routine returns for a divisor of 0. -/
def serial2xUbbrval (byZero baud : Word) : Word :=
  (if baud = 0 then byZero else (doubleSpeedClock + baud / 2) / baud) - 1

/-- `ConfigMask`: `UPM11`, `UPM10`, `USBS1`, `UCSZ11` and `UCSZ10` are bits 5 to 1. -/
def configMask (encoding : LineEncoding) : Byte :=
  let mask : Byte :=
    if encoding.parityType = 1 then bit 5 ||| bit 4
    else if encoding.parityType = 2 then bit 5
    else 0
  let mask := if encoding.charFormat = 2 then mask ||| bit 3 else mask
  if encoding.dataBits = 6 then mask ||| bit 1
  else if encoding.dataBits = 7 then mask ||| bit 2
  else if encoding.dataBits = 8 then mask ||| (bit 2 ||| bit 1)
  else mask

/-- The registers that `EVENT_CDC_Device_LineEncodingChanged` leaves. -/
def lineEncodingChanged (byZero : Word) (encoding : LineEncoding) : Usart where
  ucsr1a := bit 1
  ucsr1b := bit 7 ||| bit 3 ||| bit 4
  ucsr1c := configMask encoding
  ubrr1 := (serial2xUbbrval byZero encoding.baudRateBPS).setWidth 16

inductive Parity where
  | none | odd | even
  deriving DecidableEq

structure FrameFormat where
  parity : Parity
  twoStopBits : Bool
  dataBits : Nat
  deriving DecidableEq

/-- The format that the controller reads from its registers. -/
def Usart.format (usart : Usart) : FrameFormat where
  parity :=
    if usart.ucsr1c &&& bit 5 = 0 then .none
    else if usart.ucsr1c &&& bit 4 = 0 then .even
    else .odd
  twoStopBits := usart.ucsr1c &&& bit 3 ≠ 0
  dataBits := 5 + ((usart.ucsr1c >>> 1) &&& 3).toNat

/-- The format that the host gets: one and a half stop bits become one, mark and space
parity none, and lengths that the controller does not know five bits. -/
def granted (encoding : LineEncoding) : FrameFormat where
  parity :=
    if encoding.parityType = 1 then .odd else if encoding.parityType = 2 then .even else .none
  twoStopBits := encoding.charFormat = 2
  dataBits :=
    if encoding.dataBits = 6 then 6
    else if encoding.dataBits = 7 then 7
    else if encoding.dataBits = 8 then 8
    else 5

/-- The three fields of the mask, each from its own part of the encoding. -/
def parityMask (encoding : LineEncoding) : Byte :=
  if encoding.parityType = 1 then bit 5 ||| bit 4 else if encoding.parityType = 2 then bit 5 else 0

def stopMask (encoding : LineEncoding) : Byte := if encoding.charFormat = 2 then bit 3 else 0

def sizeMask (encoding : LineEncoding) : Byte :=
  if encoding.dataBits = 6 then bit 1
  else if encoding.dataBits = 7 then bit 2
  else if encoding.dataBits = 8 then bit 2 ||| bit 1
  else 0

theorem configMask_eq (encoding : LineEncoding) :
    configMask encoding = parityMask encoding ||| stopMask encoding ||| sizeMask encoding := by
  unfold configMask parityMask stopMask sizeMask
  generalize (if encoding.parityType = 1 then bit 5 ||| bit 4
    else if encoding.parityType = 2 then bit 5 else 0) = parity
  by_cases two : encoding.charFormat = 2
  · simp only [two, if_true]
    split_ifs <;> simp
  · simp only [two, if_false]
    split_ifs <;> simp

theorem or_and_eq_zero {left right mask : Byte} (high : left &&& mask = 0)
    (low : right &&& mask = 0) : (left ||| right) &&& mask = 0 := by
  rw [BitVec.and_comm, BitVec.and_or_distrib_left, BitVec.and_comm mask, BitVec.and_comm mask,
    high, low]
  rfl

section Fields

variable (byZero : Word) (encoding : LineEncoding) {mask : Byte}

theorem parityMask_and (high : bit 5 &&& mask = 0) (low : bit 4 &&& mask = 0) :
    parityMask encoding &&& mask = 0 := by
  unfold parityMask
  split_ifs
  · exact or_and_eq_zero high low
  · exact high
  · exact BitVec.zero_and

theorem stopMask_and (apart : bit 3 &&& mask = 0) : stopMask encoding &&& mask = 0 := by
  unfold stopMask
  split_ifs
  · exact apart
  · exact BitVec.zero_and

theorem sizeMask_and (high : bit 2 &&& mask = 0) (low : bit 1 &&& mask = 0) :
    sizeMask encoding &&& mask = 0 := by
  unfold sizeMask
  split_ifs
  · exact low
  · exact high
  · exact or_and_eq_zero high low
  · exact BitVec.zero_and

theorem configMask_and :
    configMask encoding &&& mask =
      (parityMask encoding &&& mask) ||| (stopMask encoding &&& mask) |||
        (sizeMask encoding &&& mask) := by
  rw [configMask_eq, BitVec.and_comm, BitVec.and_or_distrib_left, BitVec.and_or_distrib_left]
  simp only [BitVec.and_comm mask]

theorem parity_lineEncodingChanged :
    (lineEncodingChanged byZero encoding).format.parity = (granted encoding).parity := by
  have high : configMask encoding &&& bit 5 = parityMask encoding &&& bit 5 := by
    rw [configMask_and, stopMask_and _ rfl, sizeMask_and _ rfl rfl]
    simp
  have low : configMask encoding &&& bit 4 = parityMask encoding &&& bit 4 := by
    rw [configMask_and, stopMask_and _ rfl, sizeMask_and _ rfl rfl]
    simp
  simp only [Usart.format, lineEncodingChanged, high, low, granted, parityMask]
  by_cases odd : encoding.parityType = 1
  · simp only [odd, if_true]
    rfl
  · by_cases even : encoding.parityType = 2
    · simp only [even]
      rfl
    · simp only [odd, even, if_false]
      rfl

theorem twoStopBits_lineEncodingChanged :
    (lineEncodingChanged byZero encoding).format.twoStopBits = (granted encoding).twoStopBits := by
  have field : configMask encoding &&& bit 3 = stopMask encoding &&& bit 3 := by
    rw [configMask_and, parityMask_and _ rfl rfl, sizeMask_and _ rfl rfl]
    simp
  simp only [Usart.format, lineEncodingChanged, field, granted, stopMask]
  by_cases two : encoding.charFormat = 2
  · simp only [two, if_true]
    rfl
  · simp only [two, if_false]
    rfl

theorem dataBits_lineEncodingChanged :
    (lineEncodingChanged byZero encoding).format.dataBits = (granted encoding).dataBits := by
  have field : (configMask encoding >>> 1) &&& (3 : Byte) =
      (sizeMask encoding &&& (bit 2 ||| bit 1)) >>> 1 := by
    have shifted : (configMask encoding >>> 1) &&& (3 : Byte) =
        (configMask encoding &&& (bit 2 ||| bit 1)) >>> 1 := by
      rw [BitVec.ushiftRight_and_distrib]
      rfl
    rw [shifted, configMask_and, parityMask_and _ rfl rfl, stopMask_and _ rfl]
    simp
  simp only [Usart.format, lineEncodingChanged, field, granted, sizeMask]
  by_cases six : encoding.dataBits = 6
  · simp only [six, if_true]
    rfl
  · by_cases seven : encoding.dataBits = 7
    · simp only [seven]
      rfl
    · by_cases eight : encoding.dataBits = 8
      · simp only [eight]
        rfl
      · simp only [six, seven, eight, if_false]
        rfl

theorem format_lineEncodingChanged :
    (lineEncodingChanged byZero encoding).format = granted encoding := by
  have parity := parity_lineEncodingChanged byZero encoding
  have stop := twoStopBits_lineEncodingChanged byZero encoding
  have size := dataBits_lineEncodingChanged byZero encoding
  cases format : (lineEncodingChanged byZero encoding).format
  rw [format] at parity stop size
  cases parity
  cases stop
  cases size
  rfl

end Fields

/-- The divisor in the register is the nearest one to what the host has asked for. -/
def Nearest (divisor baud : Nat) : Prop :=
  2 * (divisor * baud) ≤ 4000000 + baud ∧ 4000000 ≤ 2 * (divisor * baud) + baud

theorem toNat_serial2xUbbrval (byZero : Word) {baud : Word} (running : baud ≠ 0)
    (fast : baud.toNat ≤ 4000000) :
    (serial2xUbbrval byZero baud).toNat + 1 = (2000000 + baud.toNat / 2) / baud.toNat := by
  have divided : ((doubleSpeedClock + baud / 2) / baud).toNat =
      (2000000 + baud.toNat / 2) / baud.toNat := by
    have clock : doubleSpeedClock.toNat = 2000000 := rfl
    have half : (baud / 2).toNat = baud.toNat / 2 := BitVec.toNat_udiv
    rw [BitVec.toNat_udiv, BitVec.toNat_add, clock, half, Nat.mod_eq_of_lt (by omega)]
  have positive : 0 < baud.toNat := Nat.pos_of_ne_zero fun zero =>
    running (BitVec.eq_of_toNat_eq zero)
  have nonzero : (doubleSpeedClock + baud / 2) / baud ≠ 0 := by
    intro zero
    rw [zero] at divided
    have one : 1 ≤ (2000000 + baud.toNat / 2) / baud.toNat :=
      (Nat.one_le_div_iff positive).mpr (by omega)
    rw [← divided] at one
    cases one
  rw [serial2xUbbrval, if_neg running, toNat_sub_one nonzero, divided]

/-- From 489 baud to four million the register holds the divisor nearest to what the host has
asked for. -/
theorem ubrr1_nearest (byZero : Word) {encoding : LineEncoding}
    (slow : 489 ≤ encoding.baudRateBPS.toNat) (fast : encoding.baudRateBPS.toNat ≤ 4000000) :
    (lineEncodingChanged byZero encoding).ubrr1.toNat < 4096 ∧
      Nearest ((lineEncodingChanged byZero encoding).ubrr1.toNat + 1)
        encoding.baudRateBPS.toNat := by
  have running : encoding.baudRateBPS ≠ 0 := by
    intro zero
    rw [zero] at slow
    exact absurd slow (by decide)
  have value := toNat_serial2xUbbrval byZero running fast
  generalize encoding.baudRateBPS.toNat = baud at slow fast value
  have below : (2000000 + baud / 2) / baud * baud ≤ 2000000 + baud / 2 := Nat.div_mul_le_self _ _
  have above : 2000000 + baud / 2 < ((2000000 + baud / 2) / baud + 1) * baud :=
    Nat.lt_mul_of_div_lt (Nat.lt_succ_self _) (by omega)
  have short : (2000000 + baud / 2) / baud < 4097 := Nat.div_lt_of_lt_mul (by omega)
  have register : (lineEncodingChanged byZero encoding).ubrr1.toNat + 1 =
      (2000000 + baud / 2) / baud := by
    rw [← value]
    exact congrArg (· + 1) ((BitVec.toNat_setWidth _ _).trans (Nat.mod_eq_of_lt (by omega)))
  rw [register]
  rw [Nat.add_mul, Nat.one_mul] at above
  exact ⟨by omega, by omega, by omega⟩

/-- The port as the host can set it up: the device, and the USART behind it. -/
structure Terminal where
  device : UsbDevice
  usart : Usart

def changesLine : BusEvent → Bool
  | .request setup => setup.SetsLine
  | _ => false

def Terminal.step (signature : Vector Byte 10) (byZero : Word) (terminal : Terminal)
    (event : BusEvent) : Terminal :=
  let device := (busStep signature terminal.device event).2
  { device := device
    usart := if changesLine event then lineEncodingChanged byZero device.lineEncoding
      else terminal.usart }

def Terminal.run (signature : Vector Byte 10) (byZero : Word) (terminal : Terminal)
    (events : List BusEvent) : Terminal :=
  events.foldl (Terminal.step signature byZero) terminal

/-- The USART is set up for the line encoding, if there is one. -/
def Terminal.Matched (byZero : Word) (terminal : Terminal) : Prop :=
  terminal.device.lineEncoding.baudRateBPS ≠ 0 →
    terminal.usart = lineEncodingChanged byZero terminal.device.lineEncoding

theorem Terminal.Matched.step {byZero : Word} {terminal : Terminal}
    (matched : terminal.Matched byZero) (signature : Vector Byte 10) (event : BusEvent) :
    (terminal.step signature byZero event).Matched byZero := by
  intro running
  cases changes : changesLine event with
  | true => simp only [Terminal.step, changes, if_true]
  | false =>
      have same : (terminal.step signature byZero event).usart = terminal.usart := by
        simp only [Terminal.step, changes]
        rfl
      -- A configuration clears the line encoding and leaves the USART as it is.
      by_cases touches : event.TouchesLine
      · cases event with
        | reset | suspend | wakeUp => exact touches.elim
        | request setup =>
            rcases touches with sets | configures
            · exact absurd sets (of_decide_eq_false changes)
            · have zero : (terminal.step signature byZero (.request setup)).device.lineEncoding =
                  ⟨0, 0, 0, 0⟩ := lineEncoding_configures configures
              rw [zero] at running
              exact absurd rfl running
      · have kept : (terminal.step signature byZero event).device.lineEncoding =
            terminal.device.lineEncoding := lineEncoding_busStep signature _ touches
        rw [kept] at running ⊢
        rw [same]
        exact matched running

theorem Terminal.Matched.run {byZero : Word} {terminal : Terminal}
    (matched : terminal.Matched byZero) (signature : Vector Byte 10) (events : List BusEvent) :
    (terminal.run signature byZero events).Matched byZero := by
  induction events generalizing terminal with
  | nil => exact matched
  | cons event events ih => exact ih (matched.step signature event)

/-- Whatever happens on the bus from power-up on: whenever the port can be used, the USART
has the frame format that is granted for the line encoding the host reads back, and for rates
that fit its register the divisor nearest to the rate. -/
theorem usart_matches_lineEncoding (signature : Vector Byte 10) (byZero : Word)
    (terminal : Terminal) (closed : terminal.device.lineEncoding.baudRateBPS = 0)
    (events : List BusEvent)
    (gate : (terminal.run signature byZero events).device.gate) :
    (terminal.run signature byZero events).usart.format =
        granted (terminal.run signature byZero events).device.lineEncoding ∧
      (489 ≤ (terminal.run signature byZero events).device.lineEncoding.baudRateBPS.toNat →
        (terminal.run signature byZero events).device.lineEncoding.baudRateBPS.toNat ≤ 4000000 →
        (terminal.run signature byZero events).usart.ubrr1.toNat < 4096 ∧
        Nearest ((terminal.run signature byZero events).usart.ubrr1.toNat + 1)
          (terminal.run signature byZero events).device.lineEncoding.baudRateBPS.toNat) := by
  have start : terminal.Matched byZero := fun running => absurd closed running
  have matched := start.run signature events gate.2
  rw [matched]
  exact ⟨format_lineEncodingChanged byZero _, ubrr1_nearest byZero⟩

/-- Configured, and opened at 9600 baud with eight data bits. -/
theorem usart_matches_lineEncoding_session :
    (Terminal.run (.replicate 10 0) 0 ⟨addressedDevice, ⟨0, 0, 0, 0⟩⟩
      [.request ⟨0x00, 9, 1, 0, 0, none, 0⟩, .request openingRequest]).usart.format =
        ⟨.none, false, 8⟩ := by
  have opened : (Terminal.run (.replicate 10 0) 0 ⟨addressedDevice, ⟨0, 0, 0, 0⟩⟩
      [.request ⟨0x00, 9, 1, 0, 0, none, 0⟩, .request openingRequest]).device.gate := by
    constructor <;> decide +kernel
  rw [(usart_matches_lineEncoding _ _ _ rfl _ opened).1]
  decide +kernel

end MiniMiner.XilinxFpgaProg
