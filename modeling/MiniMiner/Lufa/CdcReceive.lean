import MiniMiner.Lufa.CdcSend

/-! The OUT direction of `CDCClassDevice.c`: `CDC_Device_BytesReceived`, and the loop over
`CDC_Device_ReceiveByte` in `appUsbDataReceived` that the main loop of both firmwares enters
if there are any. The bank belongs to the host until a packet has arrived, and again after
`Endpoint_ClearOUT`. -/

set_option autoImplicit false

namespace MiniMiner.Lufa

open LittleEndian

/-- The next statement of the main thread. A byte that has been read is on its way to
the application. -/
inductive ReceiveCode where
  | idle
  | countState | countBaud | countSelect | countReceived | countBytes | countClear | countAgain
  | byteState | byteBaud | byteSelect | byteReceived | byteBytes | byteRead
  | byteAgain (byte : Option Byte) | byteClear (byte : Option Byte)
  | byteReturn (byte : Option Byte)
  deriving DecidableEq

structure Receiver where
  deviceState : DeviceState
  baudRateBPS : Word
  selected : Endpoint
  -- the data OUT endpoint
  enabled : Bool
  outReceived : Bool
  bank : List Byte
  code : ReceiveCode
  deriving DecidableEq

/-- What the registers show while another endpoint is selected, or the endpoint is not
enabled; the byte count also while the bank belongs to the host. -/
structure OutRegisters where
  outReceived : Bool
  byteCount : Byte
  data : Byte
  deriving DecidableEq

inductive ReceiveEvent where
  | packet (bytes : List Byte)
  | read (byte : Byte)
  -- read from another endpoint, or from a bank without a byte
  | stray (byte : Byte)
  -- freed with bytes in it
  | dropped
  -- handed to the application
  | received (byte : Byte)
  -- `appUsbDataReceived` has left its loop
  | ended
  | lost
  deriving DecidableEq

inductive ReceiveAction where
  -- the test that the main loop begins with
  | poll
  -- a call that selects the IN endpoint
  | send
  | main (registers : OutRegisters)
  -- the host sends a packet, which is refused while the bank is not free
  | outToken (bytes : List Byte)
  | reset (nested enabled : Bool)
  | configure (state : DeviceState) (success : Bool)
  | setLineEncoding (baudRateBPS : Word)
  | clearHalt
  | deviceState (state : DeviceState)
  deriving DecidableEq

namespace Receiver

def active (receiver : Receiver) : Bool := receiver.selected = .dataOut && receiver.enabled

def isOUTReceived (receiver : Receiver) (registers : OutRegisters) : Bool :=
  if receiver.active then receiver.outReceived else registers.outReceived

def bytesInEndpoint (receiver : Receiver) (registers : OutRegisters) : Byte :=
  if receiver.active && receiver.outReceived then BitVec.ofNat 8 receiver.bank.length
  else registers.byteCount

abbrev Result := Option (Receiver × Option ReceiveEvent)

def goto (receiver : Receiver) (code : ReceiveCode) : Result :=
  some ({ receiver with code := code }, none)

/-- `Endpoint_ClearOUT`. -/
def clearOUT (receiver : Receiver) (code : ReceiveCode) : Result :=
  if receiver.active then
    some ({ receiver with outReceived := false, bank := [], code := code },
      if receiver.bank = [] then none else some .dropped)
  else receiver.goto code

/-- `Endpoint_Read_8`. -/
def read8 (receiver : Receiver) (registers : OutRegisters) : Result :=
  match receiver.active, receiver.bank with
  | true, byte :: rest =>
      some ({ receiver with bank := rest, code := .byteAgain (some byte) }, some (.read byte))
  | _, _ =>
      some ({ receiver with code := .byteAgain (some registers.data) },
        some (.stray registers.data))

def mainStep (receiver : Receiver) (registers : OutRegisters) : Result :=
  match receiver.code with
  | .idle => none
  | .countState =>
      receiver.goto (if receiver.deviceState = .configured then .countBaud else .idle)
  | .countBaud => receiver.goto (if receiver.baudRateBPS ≠ 0 then .countSelect else .idle)
  | .countSelect => some ({ receiver with selected := .dataOut, code := .countReceived }, none)
  | .countReceived =>
      receiver.goto (if receiver.isOUTReceived registers then .countBytes else .idle)
  | .countBytes =>
      receiver.goto (if receiver.bytesInEndpoint registers = 0 then .countClear else .countAgain)
  | .countClear => receiver.clearOUT .idle
  | .countAgain =>
      receiver.goto (if receiver.bytesInEndpoint registers = 0 then .idle else .byteState)
  | .byteState =>
      receiver.goto (if receiver.deviceState = .configured then .byteBaud else .byteReturn none)
  | .byteBaud => receiver.goto (if receiver.baudRateBPS ≠ 0 then .byteSelect else .byteReturn none)
  | .byteSelect => some ({ receiver with selected := .dataOut, code := .byteReceived }, none)
  | .byteReceived =>
      receiver.goto (if receiver.isOUTReceived registers then .byteBytes else .byteReturn none)
  | .byteBytes =>
      receiver.goto (if receiver.bytesInEndpoint registers = 0 then .byteAgain none else .byteRead)
  | .byteRead => receiver.read8 registers
  | .byteAgain byte =>
      receiver.goto (if receiver.bytesInEndpoint registers = 0 then .byteClear byte
        else .byteReturn byte)
  | .byteClear byte => receiver.clearOUT (.byteReturn byte)
  | .byteReturn none => some ({ receiver with code := .idle }, some .ended)
  | .byteReturn (some byte) => some ({ receiver with code := .byteState }, some (.received byte))

def cleared (receiver : Receiver) : Receiver := { receiver with outReceived := false, bank := [] }

def step (receiver : Receiver) : ReceiveAction → Result
  | .poll => if receiver.code = .idle then receiver.goto .countState else none
  | .send =>
      if receiver.code = .idle then some ({ receiver with selected := .dataIn }, none) else none
  | .main registers => receiver.mainStep registers
  | .outToken bytes =>
      if receiver.enabled ∧ receiver.outReceived = false ∧ bytes.length ≤ endpointSize then
        some ({ receiver with outReceived := true, bank := bytes }, some (.packet bytes))
      else none
  | .reset nested enabled =>
      some ({ receiver.cleared with
        deviceState := .default, enabled := enabled
        selected := if nested then receiver.selected else .control }, some .lost)
  | .configure state success =>
      some ({ receiver.cleared with deviceState := state, baudRateBPS := 0, enabled := success },
        some .lost)
  | .setLineEncoding baudRateBPS => some ({ receiver with baudRateBPS := baudRateBPS }, none)
  | .clearHalt => some (receiver.cleared, some .lost)
  | .deviceState state => some ({ receiver with deviceState := state }, none)

end Receiver

def receiving : System Receiver ReceiveAction ReceiveEvent := ⟨Receiver.step⟩

/-- What the calls promise: the bytes of the packets, each once and in order. -/
structure Feed where
  -- the rest of the packet that arrived last
  pending : List Byte
  -- the byte on its way to the application
  taken : Option Byte
  -- the bank has been cleared at some time
  cleared : Bool
  deriving DecidableEq

namespace Feed

def accept (feed : Feed) : ReceiveEvent → Option Feed
  | .packet bytes =>
      if feed.pending = [] ∧ bytes.length ≤ endpointSize then some { feed with pending := bytes }
      else none
  | .read byte =>
      match feed.pending with
      | [] => none
      | first :: rest =>
          if first = byte ∧ feed.taken = none then
            some { feed with pending := rest, taken := some byte }
          else none
  | .stray byte =>
      if feed.taken = none ∧ feed.cleared = true then some { feed with taken := some byte }
      else none
  | .dropped => if feed.cleared = true then some { feed with pending := [] } else none
  | .received byte => if feed.taken = some byte then some { feed with taken := none } else none
  | .ended => if feed.taken = none then some feed else none
  | .lost => some { feed with pending := [], cleared := true }

def specification : Specification Feed ReceiveEvent := ⟨accept⟩

def empty : Feed := ⟨[], none, false⟩

end Feed

end MiniMiner.Lufa
