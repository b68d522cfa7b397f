import MiniMiner.AvalonBTC.Precalc
import MiniMiner.Preemption.Machine
import MiniMiner.RingBuffer
import MiniMiner.Timer

/-! The state of the AvalonBTC firmware: the controller registers it touches,
the statics of `avalon.c` and `clock.c`, and the `Application` record. -/

set_option autoImplicit false

namespace MiniMiner.AvalonBTC

open LittleEndian

/-- `_BV(n)`. -/
def bv (position : Nat) : Byte := 1#8 <<< position

def dataN : Byte := bv 4
def dataP : Byte := bv 5
def resetPin : Byte := bv 6
def spiEnablePin : Byte := bv 7
def spie : Byte := bv 7

theorem set_and_ne_zero (register : Byte) {pin : Byte} (nonzero : pin ≠ 0) :
    (register ||| pin) &&& pin ≠ 0 := by
  have absorbed : (register ||| pin) &&& pin = pin := by
    ext position
    simpa using Or.inr
  rw [absorbed]
  exact nonzero

theorem clear_and_eq_zero (register pin : Byte) : (register &&& ~~~pin) &&& pin = 0 := by
  rw [BitVec.and_assoc]
  simp

/-- `STATE_WORKING`, the letter W. -/
def stateWorking : Byte := 0x57

/-- `STATE_RESET`, the letter R. -/
def stateReset : Byte := 0x52

theorem reset_ne_working : stateReset ≠ stateWorking := by decide

structure WorkUnit where
  midstate : Vector Word 8
  data : Vector Word 3
  precalc : Vector Word 6
  deriving DecidableEq

structure State where
  state : Byte
  nonceValid : Byte
  nonce : Word
  deriving DecidableEq

/-- The packed record as it lies in memory. -/
def State.bytes (state : State) : List Byte :=
  state.state :: state.nonceValid :: wordBytes state.nonce

/-- `ID`: version, product and serial number. -/
def identity : List Byte :=
  [1, 0x4D, 0x69, 0x6E, 0x69, 0x4F, 0x6E, 0x65, 0x00] ++ wordBytes 0x20130712

def clockConfig : Vector Word 2 :=
  #v[(256 <<< 18) ||| 0x00030007, 0x00000172]

structure Device where
  spcr : Byte
  ddrb : Byte
  portb : Byte
  ddrd : Byte
  portd : Byte
  report : Word
  reportValid : Word
  reportCount : Byte
  reportTimeout : BitVec 16
  time : Word
  usartToUsbBuffer : RingBuffer 256
  buffer : RingBuffer 128
  worktask : WorkUnit
  state : State
  workTimer : Timer
  /-- The local `timer` of `main`. -/
  flushTimer : Timer
  /-- The bytes `CDC_Device_SendByte` has put into the endpoint so far. -/
  endpoint : List Byte

theorem transmitRing_fits : 256 ∣ 2 ^ 15 := by decide

theorem transmitRing_nonempty : 0 < 256 := by decide

theorem receiveRing_fits : 128 ∣ 2 ^ 15 := by decide

theorem receiveRing_nonempty : 0 < 128 := by decide

/-- Host commands by their first byte. -/
inductive Command where
  | L | R | I | A | S | W
  | other (byte : Byte)
  deriving DecidableEq

def Command.ofByte (byte : Byte) : Command :=
  if byte = 0x4C then .L
  else if byte = 0x52 then .R
  else if byte = 0x49 then .I
  else if byte = 0x41 then .A
  else if byte = 0x53 then .S
  else if byte = 0x57 then .W
  else .other byte

def Command.toByte : Command → Byte
  | .L => 0x4C
  | .R => 0x52
  | .I => 0x49
  | .A => 0x41
  | .S => 0x53
  | .W => 0x57
  | .other byte => byte

/-- The places from which the routines of `avalon.c` and the replies are called. -/
inductive Caller where
  | appInit
  | command (command : Command)
  | report
  | expiry
  deriving DecidableEq

/-- The routines of `avalon.c` that clear the report flag. -/
inductive Routine where
  | asicReset | asicStop | asicResetSpi | asicGetNonce
  deriving DecidableEq

/-- Program points: one for each statement that interrupts can come between.
Statements that only touch locals of the main thread are merged with the one
whose value they use. -/
inductive Point where
  | initRings | initPorts | initSpi
  | receive
  | getCount | peekCommand
  | removeCommand (command : Command)
  | toggleLed
  | fillMidstate (index : Fin 32)
  | fillData (index : Fin 12)
  | precalc
  | setState (caller : Caller)
  | setNonceValid (caller : Caller)
  | setNonce (caller : Caller)
  | clearReportCount (routine : Routine) (caller : Caller)
  | clearReportValid (routine : Routine) (caller : Caller)
  | resetLow (caller : Caller)
  | resetHigh (caller : Caller)
  | disableSpi (caller : Caller)
  | enableSpi (caller : Caller)
  | loadWork
  | dataPort
  | timerSet
  | timerStop
  | testReport
  | readReport
  | enableInterrupt
  | timerExpired
  | write (caller : Caller) (index : Nat)
  | flushCount | flushTimer | flushRestart | sendByte | removeSent
  deriving DecidableEq

abbrev Firmware := Preemption.Program Point Device

end MiniMiner.AvalonBTC
