import MiniMiner.Lufa.ControlStream
import MiniMiner.Lufa.Descriptors

/-! Control requests: `USB_Device_ProcessControlRequest` (`DeviceStandardReq.c`) with
`CDC_Device_ProcessControlRequest` and `CDC_Device_ConfigureEndpoints`, and the changes of
`USB_DeviceState` by the events of the bus (`USBInterrupt_AVR8.c`). -/

set_option autoImplicit false

namespace MiniMiner.Lufa

open LittleEndian

structure LineEncoding where
  baudRateBPS : Word
  charFormat : Byte
  parityType : Byte
  dataBits : Byte
  deriving DecidableEq

structure UsbDevice where
  deviceState : DeviceState
  -- `UDADDR`: the address, and whether it is enabled
  address : Byte
  addressSet : Bool
  configurationNumber : Byte
  currentlySelfPowered : Bool
  remoteWakeupEnabled : Bool
  -- one bit for each endpoint number
  enabled : BitVec 16
  stalled : BitVec 16
  lineEncoding : LineEncoding
  -- `ControlLineStates.HostToDevice`
  hostToDevice : BitVec 16
  deriving DecidableEq

structure Request where
  bmRequestType : Byte
  bRequest : Byte
  wValue : BitVec 16
  wIndex : BitVec 16
  wLength : BitVec 16
  -- the data stage of a request to the device, if it comes before the device is unplugged
  data : Option (List Byte)
  -- what `UEDATX` shows beyond the data
  floating : Byte
  deriving DecidableEq

/-- What the host sees after the SETUP packet; all but a stall and an abandoned request end
with a status stage. -/
inductive Response where
  | stalled
  | abandoned
  | acknowledged
  | data (bytes : List Byte)
  | stream (bytes : List Byte)
  deriving DecidableEq

def deviceToHost : Byte := 0x80
def classRequest : Byte := 0x20
def interfaceRecipient : Byte := 0x01
def endpointRecipient : Byte := 0x02

/-- A handler has no result if it leaves the SETUP packet to the next one. -/
abbrev Handled := Option (Response × UsbDevice)

def lineEncodingBytes (encoding : LineEncoding) : List Byte :=
  wordBytes encoding.baudRateBPS ++ [encoding.charFormat, encoding.parityType, encoding.dataBits]

/-- The seven bytes that `CDC_REQ_SetLineEncoding` reads. -/
def readLineEncoding (data : List Byte) (floating : Byte) : LineEncoding :=
  let byte := fun index => data.getD index floating
  { baudRateBPS := ofBytes (byte 0) (byte 1) (byte 2) (byte 3)
    charFormat := byte 4, parityType := byte 5, dataBits := byte 6 }

/-- `CDC_Device_ProcessControlRequest`. -/
def processCdcRequest (request : Request) (device : UsbDevice) : Handled :=
  if request.wIndex ≠ 0 then none
  else if request.bRequest = 0x21 then
    if request.bmRequestType = deviceToHost ||| classRequest ||| interfaceRecipient then
      some (.data (lineEncodingBytes device.lineEncoding), device)
    else none
  else if request.bRequest = 0x20 then
    if request.bmRequestType = classRequest ||| interfaceRecipient then
      match request.data with
      | none => some (.abandoned, device)
      | some data =>
          some (.acknowledged,
            { device with lineEncoding := readLineEncoding data request.floating })
    else none
  else if request.bRequest = 0x22 then
    if request.bmRequestType = classRequest ||| interfaceRecipient then
      some (.acknowledged, { device with hostToDevice := request.wValue })
    else none
  else if request.bRequest = 0x23 then
    if request.bmRequestType = classRequest ||| interfaceRecipient then
      some (.acknowledged, device)
    else none
  else none

/-- `(uint8_t)wIndex & ENDPOINT_EPNUM_MASK`. -/
def Request.endpointIndex (request : Request) : Nat := request.wIndex.toNat % 16

def getStatus (request : Request) (device : UsbDevice) : Handled :=
  if request.bmRequestType = deviceToHost then
    let selfPowered : BitVec 16 := if device.currentlySelfPowered then 1 else 0
    let remoteWakeup : BitVec 16 := if device.remoteWakeupEnabled then 2 else 0
    some (.data (le16 (selfPowered ||| remoteWakeup)), device)
  else if request.bmRequestType = deviceToHost ||| endpointRecipient then
    some (.data (le16 (if device.stalled.getLsbD request.endpointIndex then 1 else 0)), device)
  else none

def setBit (mask : BitVec 16) (index : Nat) : BitVec 16 := mask ||| 1#16 <<< index
def clearBit (mask : BitVec 16) (index : Nat) : BitVec 16 := mask &&& ~~~(1#16 <<< index)

def clearSetFeature (request : Request) (device : UsbDevice) : Handled :=
  let set := request.bRequest = 3
  if request.bmRequestType = 0 then
    if request.wValue.setWidth 8 = (1 : Byte) then
      some (.acknowledged, { device with remoteWakeupEnabled := set })
    else none
  else if request.bmRequestType = endpointRecipient then
    if request.wValue.setWidth 8 = (0 : Byte) then
      let index := request.endpointIndex
      if index = 0 then none
      else if device.enabled.getLsbD index then
        some (.acknowledged,
          { device with
            stalled := if set then setBit device.stalled index else clearBit device.stalled index })
      else some (.acknowledged, device)
    else some (.acknowledged, device)
  else none

def setAddress (request : Request) (device : UsbDevice) : Handled :=
  if request.bmRequestType = 0 then
    let address : Byte := request.wValue.setWidth 8 &&& 0x7F
    some (.acknowledged,
      { device with
        address := address, addressSet := true
        deviceState := if address ≠ 0 then .addressed else .default })
  else none

def getDescriptorRequest (signature : Vector Byte 10) (request : Request) (device : UsbDevice) :
    Handled :=
  if request.bmRequestType = deviceToHost ∨
      request.bmRequestType = deviceToHost ||| interfaceRecipient then
    if request.wValue = 0x03DC then some (.stream (internalSerialDescriptor signature), device)
    else (getDescriptor request.wValue).map fun descriptor => (.stream descriptor, device)
  else none

def getConfiguration (request : Request) (device : UsbDevice) : Handled :=
  if request.bmRequestType = deviceToHost then
    some (.data [device.configurationNumber], device)
  else none

/-- `CDC_Device_ConfigureEndpoints`: the state of the interface is cleared, and the three
endpoints are allocated again. -/
def configureEndpoints (device : UsbDevice) : UsbDevice :=
  { device with
    lineEncoding := ⟨0, 0, 0, 0⟩, hostToDevice := 0
    enabled := device.enabled ||| 0x1C, stalled := device.stalled &&& ~~~0x1C }

/-- `USB_DeviceState` after a configuration or a wake-up. -/
def resumedState (device : UsbDevice) : DeviceState :=
  if device.configurationNumber ≠ 0 then .configured
  else if device.addressSet then .configured
  else .powered

def setConfiguration (request : Request) (device : UsbDevice) : Handled :=
  if request.bmRequestType = 0 then
    let number : Byte := request.wValue.setWidth 8
    if number > 1 then none
    else
      let device := { device with configurationNumber := number }
      some (.acknowledged, configureEndpoints { device with deviceState := resumedState device })
  else none

/-- The switch of `USB_Device_ProcessControlRequest`. -/
def processStandardRequest (signature : Vector Byte 10) (request : Request) (device : UsbDevice) :
    Handled :=
  if request.bRequest = 0 then getStatus request device
  else if request.bRequest = 1 ∨ request.bRequest = 3 then clearSetFeature request device
  else if request.bRequest = 5 then setAddress request device
  else if request.bRequest = 6 then getDescriptorRequest signature request device
  else if request.bRequest = 8 then getConfiguration request device
  else if request.bRequest = 9 then setConfiguration request device
  else none

/-- `USB_Device_ProcessControlRequest`: the class driver, the library, and else a stall. -/
def processControlRequest (signature : Vector Byte 10) (request : Request) (device : UsbDevice) :
    Response × UsbDevice :=
  ((processCdcRequest request device).or (processStandardRequest signature request device)).getD
    (.stalled, device)

inductive BusEvent where
  | request (request : Request)
  | reset
  | suspend
  | wakeUp
  deriving DecidableEq

/-- The answer to an event, if it is a request, and the state it leaves. A bus reset
disables the address and ends every stall. -/
def busStep (signature : Vector Byte 10) (device : UsbDevice) :
    BusEvent → Option Response × UsbDevice
  | .request request =>
      let result := processControlRequest signature request device
      (some result.1, result.2)
  | .reset =>
      (none, { device with
        deviceState := .default, configurationNumber := 0, address := 0, addressSet := false
        enabled := setBit device.enabled 0, stalled := 0 })
  | .suspend => (none, { device with deviceState := .unattached })
  | .wakeUp => (none, { device with deviceState := resumedState device })

def busRun (signature : Vector Byte 10) (device : UsbDevice) (events : List BusEvent) : UsbDevice :=
  events.foldl (fun device event => (busStep signature device event).2) device

end MiniMiner.Lufa
