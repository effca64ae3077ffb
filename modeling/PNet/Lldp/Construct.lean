import PNet.Lldp.Parse

/-! # The LLDP frame of a port

`pf_lldp_construct_frame` with the functions that get what it sends: the chassis id and the port
id in both modes, the management address, the link status. A string is a list of its characters.
-/

namespace PNet.Lldp

open Block

def PF_FRAME_BUFFER_SIZE : ℕ := 1500
def PNAL_ETHTYPE_LLDP : BitVec 16 := 0x88CC#16
def PF_LLDP_TTL : BitVec 16 := 20#16
def PF_LLDP_SUBTYPE_MAC : Byte := 4#8
def PF_LLDP_SUBTYPE_LOCALLY_ASSIGNED : Byte := 7#8
def PNET_INTERFACE_NAME_MAX_SIZE : ℕ := 16
def PNET_PRODUCT_NAME_MAX_LEN : ℕ := 25
def PNET_ORDER_ID_MAX_LEN : ℕ := 20
def PNET_SERIAL_NUMBER_MAX_LEN : ℕ := 16

def lldpDstAddr : Vector Byte 6 := #v[0x01#8, 0x80#8, 0xc2#8, 0x00#8, 0x00#8, 0x0e#8]

/-- The characters of a string in an array of `size` characters, with its terminator. -/
structure Str (size : ℕ) where
  chars : List Byte
  fits : chars.length < size
  noNul : 0#8 ∉ chars

def Str.nil (size : ℕ) : Str (size + 1) := ⟨[], Nat.succ_pos size, List.not_mem_nil⟩

/-- `pf_lldp_name_of_device_mode_t`. -/
inductive NameOfDeviceMode where
  | PF_LLDP_NAME_OF_DEVICE_MODE_LEGACY
  | PF_LLDP_NAME_OF_DEVICE_MODE_STANDARD
deriving DecidableEq, Repr

/-- What an LLDP frame says of the device. -/
structure Device where
  mode : NameOfDeviceMode
  stationName : Str PNET_STATION_NAME_MAX_SIZE
  macAddress : Vector Byte 6
  ipAddr : BitVec 32
  /-- `pnal_get_interface_index` for the main port. -/
  interfaceIndex : BitVec 32
  productName : Str (PNET_PRODUCT_NAME_MAX_LEN + 1)
  imOrderId : Str (PNET_ORDER_ID_MAX_LEN + 1)
  imSerialNumber : Str (PNET_SERIAL_NUMBER_MAX_LEN + 1)
  imHardwareRevision : BitVec 16
  imSwRevisionPrefix : Byte
  imSwRevisionFunctionalEnhancement : Byte
  imSwRevisionBugFix : Byte
  imSwRevisionInternalChange : Byte

/-- `pnal_eth_status_t`, as `pf_pdport_get_eth_status_filtered_mau` gives it. -/
structure EthStatus where
  isAutonegotiationSupported : Bool
  isAutonegotiationEnabled : Bool
  autonegotiationAdvertisedCapabilities : BitVec 16
  operationalMauType : BitVec 16
deriving DecidableEq, Repr

/-- What an LLDP frame says of the port. -/
structure Port where
  portNum : Byte
  netifName : Str PNET_INTERFACE_NAME_MAX_SIZE
  netifMacAddress : Vector Byte 6
  ethStatus : EthStatus

/-! ## Formatted text -/

def charByte (c : Char) : Byte := BitVec.ofNat 8 c.toNat

/-- `%u`. -/
def decimal (n : ℕ) : List Byte := (Nat.toDigits 10 n).map charByte

/-- Right-justified, `%3u` with a blank and `%03u` with a zero. -/
def padLeft (width : ℕ) (fill : Char) (text : List Byte) : List Byte :=
  List.replicate (width - text.length) (charByte fill) ++ text

/-- Left-justified, `%-25s`. -/
def padRight (width : ℕ) (text : List Byte) : List Byte :=
  text ++ List.replicate (width - text.length) (charByte ' ')

/-- `%02X`. -/
def hexByte (b : Byte) : List Byte :=
  [charByte (Nat.digitChar (b.toNat / 16)).toUpper, charByte (Nat.digitChar (b.toNat % 16)).toUpper]

/-- `snprintf` into `size` characters, with its terminator. -/
def snprintf (size : ℕ) (text : List Byte) : List Byte := text.take (size - 1)

/-! ## The parts of the frame -/

/-- The name that `pf_port_init` gives a port. -/
def Port.portName (port : Port) : List Byte :=
  snprintf PNET_PORT_NAME_MAX_SIZE
    (['p', 'o', 'r', 't', '-'].map charByte ++ padLeft 3 '0' (decimal port.portNum.toNat))

/-- `pf_lldp_mac_address_to_string`. -/
def macAddressToString (mac : Vector Byte 6) (size : ℕ) : List Byte :=
  snprintf size (hexByte (mac.get 0) ++ charByte '-' :: (hexByte (mac.get 1) ++ charByte '-' ::
    (hexByte (mac.get 2) ++ charByte '-' :: (hexByte (mac.get 3) ++ charByte '-' ::
      (hexByte (mac.get 4) ++ charByte '-' :: hexByte (mac.get 5))))))

/-- The text of `pf_lldp_get_system_description`. Its length is what the function returns. -/
def Device.systemDescription (d : Device) : List Byte :=
  padRight PNET_PRODUCT_NAME_MAX_LEN d.productName.chars ++ charByte ' ' ::
    (padRight PNET_ORDER_ID_MAX_LEN d.imOrderId.chars ++ charByte ' ' ::
      (padRight PNET_SERIAL_NUMBER_MAX_LEN d.imSerialNumber.chars ++ charByte ' ' ::
        (padLeft 5 ' ' (decimal d.imHardwareRevision.toNat) ++ charByte ' ' ::
          d.imSwRevisionPrefix ::
            (padLeft 3 ' ' (decimal d.imSwRevisionFunctionalEnhancement.toNat) ++
              (padLeft 3 ' ' (decimal d.imSwRevisionBugFix.toNat) ++
                padLeft 3 ' ' (decimal d.imSwRevisionInternalChange.toNat))))))

/-- `pf_lldp_get_chassis_id`. -/
def getOwnChassisId (d : Device) : Id :=
  match d.mode with
  | .PF_LLDP_NAME_OF_DEVICE_MODE_LEGACY =>
    let stationName := d.stationName.chars
    if stationName.length = 0 ∨ PNET_LLDP_CHASSIS_ID_MAX_SIZE ≤ stationName.length then
      ⟨d.macAddress.toList, PF_LLDP_SUBTYPE_MAC, true, 6⟩
    else ⟨stationName, PF_LLDP_SUBTYPE_LOCALLY_ASSIGNED, true, stationName.length⟩
  | .PF_LLDP_NAME_OF_DEVICE_MODE_STANDARD =>
    ⟨snprintf PNET_LLDP_CHASSIS_ID_MAX_SIZE d.systemDescription, PF_LLDP_SUBTYPE_LOCALLY_ASSIGNED,
      true, d.systemDescription.length⟩

/-- `pf_lldp_get_port_id`. -/
def getOwnPortId (d : Device) (port : Port) : Id :=
  let string := match d.mode with
    | .PF_LLDP_NAME_OF_DEVICE_MODE_LEGACY => snprintf PNET_LLDP_PORT_ID_MAX_SIZE port.portName
    | .PF_LLDP_NAME_OF_DEVICE_MODE_STANDARD =>
      let stationName :=
        if d.stationName.chars.length = 0 then
          macAddressToString d.macAddress PNET_STATION_NAME_MAX_SIZE
        else d.stationName.chars
      snprintf PNET_LLDP_PORT_ID_MAX_SIZE (port.portName ++ charByte '.' :: stationName)
  ⟨string, PF_LLDP_SUBTYPE_LOCALLY_ASSIGNED, true, string.length⟩

/-- `pf_lldp_get_port_description`. -/
def getOwnPortDescription (port : Port) : PortDescription :=
  let string := snprintf PNET_MAX_PORT_DESCRIPTION_SIZE port.netifName.chars
  ⟨string, true, string.length⟩

/-- `pf_lldp_get_management_address`. -/
def getOwnManagementAddress (d : Device) : ManagementAddress :=
  ⟨bytes32 true d.ipAddr, 1, 4, ⟨d.interfaceIndex, 2⟩, true⟩

/-- `pf_lldp_get_link_status`. -/
def getOwnLinkStatus (port : Port) : LinkStatus :=
  ⟨port.ethStatus.isAutonegotiationSupported, port.ethStatus.isAutonegotiationEnabled,
    port.ethStatus.autonegotiationAdvertisedCapabilities, port.ethStatus.operationalMauType, true⟩

/-! ## The frame -/

/-- `pf_lldp_add_ethernet_header`. -/
def addEthernetHeader (dstAddr srcAddr : Vector Byte 6) (w : Writer) : Writer :=
  putUint16 true PNAL_ETHTYPE_LLDP PF_FRAME_BUFFER_SIZE
    (putMem srcAddr.toList PF_FRAME_BUFFER_SIZE (putMem dstAddr.toList PF_FRAME_BUFFER_SIZE w))

/-- `pf_lldp_add_tlv_header`, whose length is a `uint8_t`. -/
def addTlvHeader (typ len : Byte) (w : Writer) : Writer :=
  putUint16 true ((typ.setWidth 16 <<< LLDP_TYPE_SHIFT) + (len.setWidth 16 &&& LLDP_LENGTH_MASK))
    PF_FRAME_BUFFER_SIZE w

/-- `pf_lldp_add_pnio_header` and `pf_lldp_add_ieee_header`. -/
def addOrgHeader (id : Vector Byte 3) (len : Byte) (w : Writer) : Writer :=
  putByte id[2] PF_FRAME_BUFFER_SIZE (putByte id[1] PF_FRAME_BUFFER_SIZE
    (putByte id[0] PF_FRAME_BUFFER_SIZE
      (addTlvHeader (BitVec.ofNat 8 LLDP_TYPE_ORG_SPEC) (len + 3) w)))

def addPnioHeader (len : Byte) (w : Writer) : Writer := addOrgHeader orgIdPnio len w

def addIeeeHeader (len : Byte) (w : Writer) : Writer := addOrgHeader orgIdIeee8023 len w

/-- An id in a TLV of the given type. -/
def addIdTlv (typ : ℕ) (id : Id) (w : Writer) : Writer :=
  putMem id.string PF_FRAME_BUFFER_SIZE (putByte id.subtype PF_FRAME_BUFFER_SIZE
    (addTlvHeader (BitVec.ofNat 8 typ) (BitVec.ofNat 8 (1 + id.len)) w))

/-- `pf_lldp_add_chassis_id_tlv`. -/
def addChassisIdTlv (chassisId : Id) (w : Writer) : Writer :=
  addIdTlv LLDP_TYPE_CHASSIS_ID chassisId w

/-- `pf_lldp_add_port_id_tlv`. -/
def addPortIdTlv (portId : Id) (w : Writer) : Writer := addIdTlv LLDP_TYPE_PORT_ID portId w

/-- `pf_lldp_add_ttl_tlv`. -/
def addTtlTlv (w : Writer) : Writer :=
  putUint16 true PF_LLDP_TTL PF_FRAME_BUFFER_SIZE
    (addTlvHeader (BitVec.ofNat 8 LLDP_TYPE_TTL) 2 w)

/-- `pf_lldp_add_port_status`. -/
def addPortStatus (rtclass2Status rtclass3Status : BitVec 16) (w : Writer) : Writer :=
  putUint16 true rtclass3Status PF_FRAME_BUFFER_SIZE
    (putUint16 true rtclass2Status PF_FRAME_BUFFER_SIZE
      (putByte LLDP_PNIO_SUBTYPE_PORT_STATUS PF_FRAME_BUFFER_SIZE (addPnioHeader 5 w)))

/-- `pf_lldp_add_chassis_mac`, which copies the address without a look at the size. -/
def addChassisMac (macAddress : Vector Byte 6) (w : Writer) : Writer :=
  (putByte LLDP_PNIO_SUBTYPE_CHASSIS_MAC PF_FRAME_BUFFER_SIZE (addPnioHeader (1 + 6) w)).append
    macAddress.toList

/-- The flags of `pf_lldp_add_ieee_mac_phy`. -/
def LinkStatus.autonegStatus (status : LinkStatus) : Byte :=
  (if status.isAutonegotiationSupported then LLDP_AUTONEG_SUPPORTED else 0) |||
    if status.isAutonegotiationEnabled then LLDP_AUTONEG_ENABLED else 0

/-- `pf_lldp_add_ieee_mac_phy`. -/
def addIeeeMacPhy (status : LinkStatus) (w : Writer) : Writer :=
  putUint16 true status.operationalMauType PF_FRAME_BUFFER_SIZE
    (putUint16 true status.autonegotiationAdvertisedCapabilities PF_FRAME_BUFFER_SIZE
      (putByte status.autonegStatus PF_FRAME_BUFFER_SIZE
        (putByte LLDP_IEEE_SUBTYPE_MAC_PHY PF_FRAME_BUFFER_SIZE (addIeeeHeader 6 w))))

/-- `pf_lldp_add_management`. -/
def addManagement (manAddress : ManagementAddress) (w : Writer) : Writer :=
  putByte 0 PF_FRAME_BUFFER_SIZE
    (putUint32 true manAddress.interfaceNumber.value PF_FRAME_BUFFER_SIZE
      (putByte manAddress.interfaceNumber.subtype PF_FRAME_BUFFER_SIZE
        (putMem (manAddress.value.take manAddress.len) PF_FRAME_BUFFER_SIZE
          (putByte manAddress.subtype PF_FRAME_BUFFER_SIZE
            (putByte (BitVec.ofNat 8 (1 + manAddress.len)) PF_FRAME_BUFFER_SIZE
              (addTlvHeader (BitVec.ofNat 8 LLDP_TYPE_MANAGEMENT_ADDRESS) 12 w))))))

/-- `pf_lldp_construct_frame` into the buffer `buf`. -/
def constructFrame (d : Device) (port : Port) (buf : ℕ → Byte) : Writer :=
  let w := addEthernetHeader lldpDstAddr port.netifMacAddress ⟨buf, 0⟩
  let w := addTtlTlv (addPortIdTlv (getOwnPortId d port) (addChassisIdTlv (getOwnChassisId d) w))
  let w := addChassisMac d.macAddress (addPortStatus 0 0 w)
  let w := addManagement (getOwnManagementAddress d) (addIeeeMacPhy (getOwnLinkStatus port) w)
  addTlvHeader (BitVec.ofNat 8 LLDP_TYPE_END) 0 w

end PNet.Lldp
