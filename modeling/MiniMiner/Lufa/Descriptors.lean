import MiniMiner.Lufa.CdcSend

/-! `Descriptors.c`, the same file in both firmwares: what the device tells the host about
itself, and `CALLBACK_USB_GetDescriptor`. -/

set_option autoImplicit false

namespace MiniMiner.Lufa

open LittleEndian

def dtypeDevice : Byte := 0x01
def dtypeConfiguration : Byte := 0x02
def dtypeString : Byte := 0x03
def dtypeInterface : Byte := 0x04
def dtypeEndpoint : Byte := 0x05
def dtypeCSInterface : Byte := 0x24

def endpointDirIn : Byte := 0x80

def cdcNotificationEpAddr : Byte := endpointDirIn ||| 2
def cdcTxEpAddr : Byte := endpointDirIn ||| 3
def cdcRxEpAddr : Byte := 4

def cdcNotificationEpSize : Nat := 8

/-- `USE_INTERNAL_SERIAL`. -/
def useInternalSerial : Byte := 0xDC

/-- A 16-bit field. -/
def le16 (value : BitVec 16) : List Byte := [value.setWidth 8, (value >>> 8).setWidth 8]

def deviceDescriptor : List Byte :=
  [18, dtypeDevice] ++ le16 0x0110 ++ [0x02, 0x00, 0x00, 8] ++ le16 0x03EB ++ le16 0x204B ++
    le16 0x0001 ++ [0x01, 0x02, useInternalSerial, 1]

def configurationHeader : List Byte :=
  [9, dtypeConfiguration] ++ le16 62 ++ ([2, 1, 0, 0x80 ||| 0x40, 100 >>> 1] : List Byte)

/-- `USB_Descriptor_Interface_t`, with its alternate setting and without a string. -/
def interfaceDescriptor (number endpoints class_ subClass protocol : Byte) : List Byte :=
  [9, dtypeInterface, number, 0, endpoints, class_, subClass, protocol, 0]

/-- `USB_Descriptor_Endpoint_t`. -/
def endpointDescriptor (address attributes : Byte) (size : Nat) (interval : Byte) : List Byte :=
  [7, dtypeEndpoint, address, attributes] ++ le16 (BitVec.ofNat 16 size) ++ [interval]

def configurationDescriptor : List Byte :=
  configurationHeader ++
    interfaceDescriptor 0 1 0x02 0x02 0x01 ++
    ([5, dtypeCSInterface, 0x00] ++ le16 0x0110) ++
    [4, dtypeCSInterface, 0x02, 0x06] ++
    [5, dtypeCSInterface, 0x06, 0, 1] ++
    endpointDescriptor cdcNotificationEpAddr 0x03 cdcNotificationEpSize 0xFF ++
    interfaceDescriptor 1 2 0x0A 0x00 0x00 ++
    endpointDescriptor cdcRxEpAddr 0x02 endpointSize 0x05 ++
    endpointDescriptor cdcTxEpAddr 0x02 endpointSize 0x05

/-- A string descriptor with the length that its header gives; the character after the
text is its terminator. -/
def stringDescriptor (characters : Nat) (text : List (BitVec 16)) : List Byte :=
  [BitVec.ofNat 8 (2 + 2 * characters), dtypeString] ++
    (List.range characters).flatMap fun index => le16 (text.getD index 0)

def unicode (text : String) : List (BitVec 16) :=
  text.toList.map fun character => BitVec.ofNat 16 character.toNat

def languageString : List Byte := stringDescriptor 1 [0x0409]
def manufacturerString : List Byte := stringDescriptor 11 (unicode "Dean Camera")
def productString : List Byte := stringDescriptor 23 (unicode "LUFA USB-RS232 Adapter")

/-- `CALLBACK_USB_GetDescriptor`; `none` is `NO_DESCRIPTOR`. -/
def getDescriptor (wValue : BitVec 16) : Option (List Byte) :=
  let descriptorType : Byte := (wValue >>> 8).setWidth 8
  let descriptorNumber : Byte := wValue.setWidth 8
  if descriptorType = dtypeDevice then some deviceDescriptor
  else if descriptorType = dtypeConfiguration then some configurationDescriptor
  else if descriptorType = dtypeString then
    if descriptorNumber = 0x00 then some languageString
    else if descriptorNumber = 0x01 then some manufacturerString
    else if descriptorNumber = 0x02 then some productString
    else none
  else none

/-- The ten bytes of the signature row as hexadecimal digits, the low digit of each byte
first (`USB_Device_GetSerialString`). -/
def serialString (signature : Vector Byte 10) : List (BitVec 16) :=
  signature.toList.flatMap fun byte => [digit (byte &&& 0x0F), digit (byte >>> 4 &&& 0x0F)]
where
  digit (value : Byte) : BitVec 16 :=
    if value ≥ 10 then (0x41 - 10) + value.setWidth 16 else 0x30 + value.setWidth 16

def internalSerialDescriptor (signature : Vector Byte 10) : List Byte :=
  stringDescriptor 20 (serialString signature)

/-- The value of a hexadecimal digit. -/
def digitValue (digit : BitVec 16) : Byte :=
  if digit ≥ 0x41 then (digit - (0x41 - 10)).setWidth 8 else (digit - 0x30).setWidth 8

def signatureOf : List (BitVec 16) → List Byte
  | low :: high :: rest => (digitValue low ||| digitValue high <<< 4) :: signatureOf rest
  | _ => []

theorem digitValue_digits (byte : Byte) :
    digitValue (serialString.digit (byte &&& 0x0F)) |||
      digitValue (serialString.digit (byte >>> 4 &&& 0x0F)) <<< 4 = byte := by
  revert byte
  decide +kernel

theorem signatureOf_serialString (signature : Vector Byte 10) :
    signatureOf (serialString signature) = signature.toList := by
  unfold serialString
  induction signature.toList with
  | nil => rfl
  | cons byte rest ih =>
      rw [List.flatMap_cons, List.cons_append, List.cons_append, List.nil_append, signatureOf,
        ih, digitValue_digits]

/-- Two devices with different signature rows have different serial numbers. -/
theorem serialString_injective : Function.Injective serialString := by
  intro left right same
  have bytes := congrArg signatureOf same
  rw [signatureOf_serialString, signatureOf_serialString] at bytes
  exact Vector.toList_inj.mp bytes

end MiniMiner.Lufa
