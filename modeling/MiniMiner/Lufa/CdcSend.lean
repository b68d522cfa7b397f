import MiniMiner.LittleEndian
import MiniMiner.Simulation

/-! The IN direction of `CDCClassDevice.c`: `CDC_Device_SendByte`, `CDC_Device_Flush` and
`CDC_Device_USBTask` with `Endpoint_WaitUntilReady`, cut at every access to a register or
to a variable that interrupts change. The endpoint has one bank of sixteen bytes, which
belongs to the program until `Endpoint_ClearIN` queues it and again after the host has
collected the packet. -/

set_option autoImplicit false

namespace MiniMiner.Lufa

open LittleEndian

/-- `USB_DeviceState`. -/
inductive DeviceState where
  | unattached | powered | default | addressed | configured | suspended
  deriving DecidableEq

/-- The endpoint that `UENUM` selects. -/
inductive Endpoint where
  | control | notification | dataIn | dataOut
  deriving DecidableEq

/-- `ENDPOINT_READYWAIT_` and `ENDPOINT_RWSTREAM_`, which have the same values. -/
inductive ErrorCode where
  | noError | endpointStalled | deviceDisconnected | busSuspended | timeout
  deriving DecidableEq

/-- `CDC_TXRX_EPSIZE`. -/
def endpointSize : Nat := 16

/-- `USB_STREAM_TIMEOUT_MS`. -/
def streamTimeout : Byte := 100

inductive SendCall where
  | sendByte (byte : Byte)
  | flush
  deriving DecidableEq

/-- The local variables of `Endpoint_WaitUntilReady`. -/
structure Waiting where
  timeoutMSRem : Byte
  previousFrameNumber : BitVec 16
  deriving DecidableEq

/-- The next statement of the main thread. -/
inductive SendCode where
  | idle
  | taskState | taskBaud
  | stateTest (call : SendCall) | baudTest (call : SendCall) | select (call : SendCall)
  | allowed (byte : Byte) | clear (byte : Byte) | write (byte : Byte)
  | bytes | full | clearBank (bankFull : Bool) | clearAgain
  | waitBegin (call : SendCall)
  | waitReady (call : SendCall) (waiting : Waiting)
  | waitState (call : SendCall) (waiting : Waiting)
  | waitStalled (call : SendCall) (waiting : Waiting)
  | waitFrame (call : SendCall) (waiting : Waiting)
  | returning (call : SendCall) (code : ErrorCode)
  deriving DecidableEq

structure Sender where
  deviceState : DeviceState
  baudRateBPS : Word
  selected : Endpoint
  frameNumber : BitVec 16
  -- the data IN endpoint
  enabled : Bool
  stalled : Bool
  queued : Bool
  bank : List Byte
  code : SendCode
  deriving DecidableEq

/-- What the registers of the selected endpoint show while it is not the data IN
endpoint, or not enabled; the byte count also while the bank is queued. -/
structure Registers where
  readWriteAllowed : Bool
  ready : Bool
  stalled : Bool
  byteCount : Byte
  deriving DecidableEq

inductive SendEvent where
  | accepted (byte : Byte)
  -- written while another endpoint was selected
  | elsewhere (byte : Byte)
  -- written into a bank that has no room for it
  | overflow (byte : Byte)
  | handed (packet : List Byte)
  | delivered (packet : List Byte)
  -- the bank was cleared
  | lost
  -- a wait goes on after a change of the frame number
  | frame
  | returned (call : SendCall) (code : ErrorCode)
  deriving DecidableEq

inductive SendAction where
  | call (call : SendCall)
  | usbTask
  -- a call that selects the OUT endpoint
  | receive
  | main (registers : Registers)
  -- the host collects the packet
  | inToken
  | startOfFrame (number : BitVec 16)
  -- the end of a bus reset, in the main thread or inside a control request
  | reset (nested enabled : Bool)
  -- the control requests that reach the endpoint or the gate of the calls
  | configure (state : DeviceState) (success : Bool)
  | setLineEncoding (baudRateBPS : Word)
  | setHalt
  | clearHalt
  -- suspension, wake-up, a new address
  | deviceState (state : DeviceState)
  deriving DecidableEq

namespace Sender

def active (sender : Sender) : Bool := sender.selected = .dataIn && sender.enabled

def isReadWriteAllowed (sender : Sender) (registers : Registers) : Bool :=
  if sender.active then !sender.queued && sender.bank.length < endpointSize
  else registers.readWriteAllowed

/-- The two tests of `Endpoint_WaitUntilReady`, by the direction of the endpoint. -/
def isReady (sender : Sender) (registers : Registers) : Bool :=
  if sender.active then !sender.queued else registers.ready

def isStalled (sender : Sender) (registers : Registers) : Bool :=
  if sender.active then sender.stalled else registers.stalled

def bytesInEndpoint (sender : Sender) (registers : Registers) : Byte :=
  if sender.active && !sender.queued then BitVec.ofNat 8 sender.bank.length
  else registers.byteCount

abbrev Result := Option (Sender × Option SendEvent)

def goto (sender : Sender) (code : SendCode) : Result := some ({ sender with code := code }, none)

/-- `Endpoint_ClearIN`. The two flags of a queued bank are clear already. -/
def clearIN (sender : Sender) (code : SendCode) : Result :=
  if sender.active && !sender.queued then
    some ({ sender with queued := true, code := code }, some (.handed sender.bank))
  else sender.goto code

/-- `Endpoint_Write_8`. -/
def write8 (sender : Sender) (byte : Byte) (code : SendCode) : Result :=
  if sender.active then
    if !sender.queued && sender.bank.length < endpointSize then
      some ({ sender with bank := sender.bank ++ [byte], code := code }, some (.accepted byte))
    else some ({ sender with code := code }, some (.overflow byte))
  else some ({ sender with code := code }, some (.elsewhere byte))

def afterWait : SendCall → SendCode
  | .sendByte byte => .write byte
  | .flush => .clearAgain

def mainStep (sender : Sender) (registers : Registers) : Result :=
  match sender.code with
  | .idle => none
  | .taskState =>
      sender.goto (if sender.deviceState = .configured then .taskBaud else .idle)
  | .taskBaud => sender.goto (if sender.baudRateBPS ≠ 0 then .stateTest .flush else .idle)
  | .stateTest call =>
      sender.goto (if sender.deviceState = .configured then .baudTest call
        else .returning call .deviceDisconnected)
  | .baudTest call =>
      sender.goto (if sender.baudRateBPS ≠ 0 then .select call
        else .returning call .deviceDisconnected)
  | .select call =>
      let code := match call with
        | .sendByte byte => .allowed byte
        | .flush => .bytes
      some ({ sender with selected := .dataIn, code := code }, none)
  | .allowed byte =>
      sender.goto (if sender.isReadWriteAllowed registers then .write byte else .clear byte)
  | .clear byte => sender.clearIN (.waitBegin (.sendByte byte))
  | .write byte => sender.write8 byte (.returning (.sendByte byte) .noError)
  | .bytes =>
      sender.goto (if sender.bytesInEndpoint registers = 0 then .returning .flush .noError
        else .full)
  | .full => sender.goto (.clearBank (!sender.isReadWriteAllowed registers))
  | .clearBank bankFull =>
      sender.clearIN (if bankFull then .waitBegin .flush else .returning .flush .noError)
  | .clearAgain => sender.clearIN (.returning .flush .noError)
  | .waitBegin call => sender.goto (.waitReady call ⟨streamTimeout, sender.frameNumber⟩)
  | .waitReady call waiting =>
      sender.goto (if sender.isReady registers then afterWait call else .waitState call waiting)
  | .waitState call waiting =>
      sender.goto (
        if sender.deviceState = .unattached then .returning call .deviceDisconnected
        else if sender.deviceState = .suspended then .returning call .busSuspended
        else .waitStalled call waiting)
  | .waitStalled call waiting =>
      sender.goto (if sender.isStalled registers then .returning call .endpointStalled
        else .waitFrame call waiting)
  | .waitFrame call waiting =>
      if sender.frameNumber ≠ waiting.previousFrameNumber then
        if waiting.timeoutMSRem = 0 then sender.goto (.returning call .timeout)
        else
          some ({ sender with
            code := .waitReady call ⟨waiting.timeoutMSRem - 1, sender.frameNumber⟩ }, some .frame)
      else sender.goto (.waitReady call waiting)
  | .returning call code => some ({ sender with code := .idle }, some (.returned call code))

/-- A bank that is cleared belongs to the program. -/
def cleared (sender : Sender) : Sender := { sender with queued := false, bank := [] }

def step (sender : Sender) : SendAction → Result
  | .call call => if sender.code = .idle then sender.goto (.stateTest call) else none
  | .usbTask => if sender.code = .idle then sender.goto .taskState else none
  | .receive =>
      if sender.code = .idle then some ({ sender with selected := .dataOut }, none) else none
  | .main registers => sender.mainStep registers
  | .inToken =>
      if sender.queued && !sender.stalled then some (sender.cleared, some (.delivered sender.bank))
      else none
  | .startOfFrame number => some ({ sender with frameNumber := number }, none)
  | .reset nested enabled =>
      some ({ sender.cleared with
        deviceState := .default, stalled := false, enabled := enabled
        selected := if nested then sender.selected else .control }, some .lost)
  | .configure state success =>
      some ({ sender.cleared with
        deviceState := state, baudRateBPS := 0, stalled := false, enabled := success }, some .lost)
  | .setLineEncoding baudRateBPS => some ({ sender with baudRateBPS := baudRateBPS }, none)
  | .setHalt => some ({ sender with stalled := true }, none)
  | .clearHalt => some ({ sender.cleared with stalled := false }, some .lost)
  | .deviceState state => some ({ sender with deviceState := state }, none)

end Sender

def sending : System Sender SendAction SendEvent := ⟨Sender.step⟩

/-- What the calls promise: a bank that is filled, offered to the host as a packet, and
collected. -/
structure Pipe where
  loading : List Byte
  offered : Option (List Byte)
  -- the packet offered last is a full one, after which the host expects more
  unterminated : Bool
  -- a call has failed after the last byte was accepted
  failed : Bool
  -- the byte that the call under way has written
  taken : Option Byte
  -- the bank has been cleared at some time
  cleared : Bool
  -- the changes of the frame number during the call under way
  frames : Nat
  deriving DecidableEq

namespace Pipe

/-- `CDC_Device_SendByte` reports success exactly if it has written its byte. After a
successful `CDC_Device_Flush` nothing is left in the bank, and the host has seen or will
see the end of the transfer unless a call has failed. A timeout takes all its frames. -/
def Promised (pipe : Pipe) (code : ErrorCode) (call : SendCall) : Prop :=
  (match call with
    | .sendByte byte => pipe.taken = if code = .noError then some byte else none
    | .flush => pipe.taken = none ∧ (code = .noError →
        pipe.loading = [] ∧ (pipe.unterminated = true → pipe.failed = true))) ∧
    (code = .timeout → pipe.frames = streamTimeout.toNat)

instance (pipe : Pipe) (code : ErrorCode) (call : SendCall) : Decidable (pipe.Promised code call) :=
  match call with
  | .sendByte byte => inferInstanceAs (Decidable
      ((pipe.taken = if code = .noError then some byte else none) ∧
      (code = .timeout → pipe.frames = streamTimeout.toNat)))
  | .flush => inferInstanceAs (Decidable ((pipe.taken = none ∧ (code = .noError →
      pipe.loading = [] ∧ (pipe.unterminated = true → pipe.failed = true))) ∧
      (code = .timeout → pipe.frames = streamTimeout.toNat)))

def accept (pipe : Pipe) : SendEvent → Option Pipe
  | .accepted byte =>
      if pipe.offered = none ∧ pipe.loading.length < endpointSize ∧ pipe.taken = none then
        some { pipe with loading := pipe.loading ++ [byte], taken := some byte, failed := false }
      else none
  | .elsewhere byte =>
      if pipe.taken = none ∧ pipe.cleared = true then some { pipe with taken := some byte }
      else none
  | .overflow _ => none
  | .handed packet =>
      if pipe.offered = none ∧ pipe.loading = packet then
        some { pipe with
          loading := [], offered := some packet, unterminated := packet.length = endpointSize }
      else none
  | .delivered packet =>
      if pipe.offered = some packet then some { pipe with offered := none } else none
  | .lost =>
      some { pipe with loading := [], offered := none, unterminated := false, cleared := true }
  | .frame =>
      if pipe.frames < streamTimeout.toNat then some { pipe with frames := pipe.frames + 1 }
      else none
  | .returned call code =>
      if pipe.Promised code call then
        some { pipe with
          failed := pipe.failed || decide (code ≠ .noError), taken := none, frames := 0 }
      else none

def specification : Specification Pipe SendEvent := ⟨accept⟩

def empty : Pipe :=
  { loading := [], offered := none, unterminated := false, failed := false, taken := none
    cleared := false, frames := 0 }

end Pipe

end MiniMiner.Lufa
