import PNet.Block.Exact

/-! # Parsing an LLDP packet

The loop of `pf_lldp_parse_packet` over the TLVs of a packet. The position is the 16 bit `offset`
of the source. The organizational header `org` is a local variable that keeps what it held when a
header cannot be read.
-/

namespace PNet.Lldp

open Block

@[match_pattern] abbrev LLDP_TYPE_END : ℕ := 0
@[match_pattern] abbrev LLDP_TYPE_CHASSIS_ID : ℕ := 1
@[match_pattern] abbrev LLDP_TYPE_PORT_ID : ℕ := 2
@[match_pattern] abbrev LLDP_TYPE_TTL : ℕ := 3
@[match_pattern] abbrev LLDP_TYPE_PORT_DESCRIPTION : ℕ := 4
@[match_pattern] abbrev LLDP_TYPE_MANAGEMENT_ADDRESS : ℕ := 8
@[match_pattern] abbrev LLDP_TYPE_ORG_SPEC : ℕ := 127

def LLDP_TYPE_MASK : BitVec 16 := 0xFE00#16
def LLDP_TYPE_SHIFT : ℕ := 9
def LLDP_LENGTH_MASK : BitVec 16 := 0x1FF#16

def LLDP_PNIO_SUBTYPE_MEAS_DELAY_VALUES : Byte := 1#8
def LLDP_PNIO_SUBTYPE_PORT_STATUS : Byte := 2#8
def LLDP_PNIO_SUBTYPE_CHASSIS_MAC : Byte := 5#8
def LLDP_IEEE_SUBTYPE_MAC_PHY : Byte := 1#8

def LLDP_PNIO_SUBTYPE_MEAS_DELAY_VALUES_TLV_LEN : ℕ := 24
def LLDP_PNIO_SUBTYPE_PORT_STATUS_TLV_LEN : ℕ := 8
def LLDP_PNIO_SUBTYPE_CHASSIS_MAC_TLV_LEN : ℕ := 10
def LLDP_IEEE_SUBTYPE_MAC_PHY_TLV_LEN : ℕ := 9

def LLDP_AUTONEG_SUPPORTED : Byte := 1#8
def LLDP_AUTONEG_ENABLED : Byte := 2#8

def orgIdPnio : Vector Byte 3 := #v[0x00#8, 0x0e#8, 0xcf#8]
def orgIdIeee8023 : Vector Byte 3 := #v[0x00#8, 0x12#8, 0x0f#8]

def PNET_STATION_NAME_MAX_SIZE : ℕ := 241
def PNET_PORT_NAME_MAX_SIZE : ℕ := 15
def PNET_LLDP_CHASSIS_ID_MAX_SIZE : ℕ := 241
def PNET_LLDP_PORT_ID_MAX_SIZE : ℕ := PNET_STATION_NAME_MAX_SIZE + PNET_PORT_NAME_MAX_SIZE
def PNET_MAX_PORT_DESCRIPTION_SIZE : ℕ := 60

/-- The longest frame that is received. -/
def PNAL_BUF_MAX_SIZE : ℕ := 1522

/-- `lldp_tlv_t`. -/
structure Tlv where
  type : ℕ
  len : ℕ
deriving DecidableEq, Repr

/-- `pf_lldp_org_header_t`. -/
structure OrgHeader where
  id : Vector Byte 3
  subtype : Byte
deriving DecidableEq, Repr

/-- `pf_lldp_chassis_id_t` and `pf_lldp_port_id_t`. The string is what stands before the
terminator that the parser sets. -/
structure Id where
  string : List Byte
  subtype : Byte
  isValid : Bool
  len : ℕ
deriving DecidableEq, Repr

/-- `pf_lldp_port_description_t`. -/
structure PortDescription where
  string : List Byte
  isValid : Bool
  len : ℕ
deriving DecidableEq, Repr

/-- `pf_lldp_interface_number_t`. -/
structure InterfaceNumber where
  value : BitVec 32
  subtype : Byte
deriving DecidableEq, Repr

/-- `pf_lldp_management_address_t`. Of `value` only the first `len` bytes. -/
structure ManagementAddress where
  value : List Byte
  subtype : Byte
  len : ℕ
  interfaceNumber : InterfaceNumber
  isValid : Bool
deriving DecidableEq, Repr

/-- `pf_lldp_signal_delay_t`. -/
structure SignalDelay where
  rxDelayLocal : BitVec 32
  rxDelayRemote : BitVec 32
  txDelayLocal : BitVec 32
  txDelayRemote : BitVec 32
  cableDelayLocal : BitVec 32
  isValid : Bool
deriving DecidableEq, Repr

/-- `pf_lldp_link_status_t`. -/
structure LinkStatus where
  isAutonegotiationSupported : Bool
  isAutonegotiationEnabled : Bool
  autonegotiationAdvertisedCapabilities : BitVec 16
  operationalMauType : BitVec 16
  isValid : Bool
deriving DecidableEq, Repr

/-- `pf_lldp_peer_info_t`, of which the parser does not set the line delay. -/
structure PeerInfo where
  chassisId : Id
  portId : Id
  ttl : BitVec 16
  portDescription : PortDescription
  managementAddress : ManagementAddress
  portDelay : SignalDelay
  portStatus : Vector Byte 4
  macAddress : Vector Byte 6
  phyConfig : LinkStatus
deriving DecidableEq, Repr

/-! ## After `memset` -/

def Id.zero : Id := ⟨[], 0, false, 0⟩
def PortDescription.zero : PortDescription := ⟨[], false, 0⟩
def ManagementAddress.zero : ManagementAddress := ⟨[], 0, 0, ⟨0, 0⟩, false⟩
def SignalDelay.zero : SignalDelay := ⟨0, 0, 0, 0, 0, false⟩
def LinkStatus.zero : LinkStatus := ⟨false, false, 0, 0, false⟩

def PeerInfo.zero : PeerInfo where
  chassisId := .zero
  portId := .zero
  ttl := 0
  portDescription := .zero
  managementAddress := .zero
  portDelay := .zero
  portStatus := Vector.replicate 4 0
  macAddress := Vector.replicate 6 0
  phyConfig := .zero

/-! ## The parsers of the TLVs -/

/-- `*offset += n`. -/
def skip (n : ℤ) : Get Unit := fun r => ((), { r with pos := ((r.pos + n) % 65536).toNat })

/-- `parse_info->result = PF_PARSE_ERROR`. -/
def parseError : Get Unit := fun r => ((), r.fail .PF_PARSE_ERROR)

def Tlv.ofHead (tlvHead : BitVec 16) : Tlv where
  type := ((tlvHead &&& LLDP_TYPE_MASK) >>> LLDP_TYPE_SHIFT).toNat
  len := (tlvHead &&& LLDP_LENGTH_MASK).toNat

/-- `pf_lldp_get_tlv_from_packet`. -/
def getTlv : Get Tlv := do
  let tlvHead ← getUint16
  let r ← get
  if r.info.result = .PF_PARSE_OK then return .ofHead tlvHead
  else return ⟨LLDP_TYPE_END, 0⟩

/-- `pf_lldp_get_org_header_from_packet`. -/
def getOrgHeader (header : OrgHeader) : Get OrgHeader := do
  let id ← getMem header.id
  let subtype ← getByte
  return ⟨id, subtype⟩

/-- The parser of a chassis id or port id, with at most `maxLen` characters. -/
def getId (maxLen tlvLen : ℕ) (id : Id) : Get Id := do
  if tlvLen = 0 then return id
  else if maxLen < tlvLen - 1 then
    skip tlvLen
    return { id with len := tlvLen - 1 }
  else
    let subtype ← getByte
    let string ← getBytes id.string (tlvLen - 1)
    return ⟨string.take (tlvLen - 1), subtype, true, tlvLen - 1⟩

/-- `pf_lldp_get_chassis_id_from_packet`. -/
def getChassisId (tlvLen : ℕ) (chassisId : Id) : Get Id :=
  getId (PNET_LLDP_CHASSIS_ID_MAX_SIZE - 1) tlvLen chassisId

/-- `pf_lldp_get_port_id_from_packet`. -/
def getPortId (tlvLen : ℕ) (portId : Id) : Get Id :=
  getId (PNET_LLDP_PORT_ID_MAX_SIZE - 1) tlvLen portId

/-- `pf_lldp_get_ttl_from_packet`. -/
def getTtl (tlvLen : ℕ) (ttl : BitVec 16) : Get (BitVec 16) := do
  if tlvLen ≠ 2 then
    parseError
    return ttl
  else getUint16

/-- `pf_lldp_get_port_description_from_packet`. -/
def getPortDescription (tlvLen : ℕ) (portDescription : PortDescription) :
    Get PortDescription := do
  if PNET_MAX_PORT_DESCRIPTION_SIZE - 1 < tlvLen then
    skip tlvLen
    return portDescription
  else
    let string ← getBytes portDescription.string tlvLen
    return ⟨string.take tlvLen, true, tlvLen⟩

/-- `pf_lldp_get_management_address_from_packet`. The length is a `size_t`, so that a string length
of zero gives the largest number. -/
def getManagementAddress (tlvLen : ℕ) : Get ManagementAddress := do
  let stringLen ← getByte
  if stringLen.toNat < 2 ∨ 32 < stringLen.toNat then
    skip (tlvLen - 1)
    return { ManagementAddress.zero with len := (stringLen.setWidth 64 - 1#64).toNat }
  else
    let len := stringLen.toNat - 1
    let subtype ← getByte
    let value ← getBytes (List.replicate len 0) len
    let interfaceSubtype ← getByte
    let interfaceValue ← getUint32
    let oidLen ← getByte
    skip oidLen.toNat
    return ⟨value, subtype, len, ⟨interfaceValue, interfaceSubtype⟩, true⟩

/-- `pf_lldp_management_address_is_ipv4`. -/
def ManagementAddress.isIpv4 (address : ManagementAddress) : Bool :=
  address.isValid && address.subtype == 1#8 && address.len == 4

/-- `pf_lldp_get_signal_delay_from_packet`. -/
def getSignalDelay (tlvLen : ℕ) (delay : SignalDelay) : Get SignalDelay := do
  if tlvLen ≠ LLDP_PNIO_SUBTYPE_MEAS_DELAY_VALUES_TLV_LEN then
    parseError
    return delay
  else
    let rxDelayLocal ← getUint32
    let rxDelayRemote ← getUint32
    let txDelayLocal ← getUint32
    let txDelayRemote ← getUint32
    let cableDelayLocal ← getUint32
    return ⟨rxDelayLocal, rxDelayRemote, txDelayLocal, txDelayRemote, cableDelayLocal, true⟩

/-- A value that is copied as it is from a TLV of length `wanted`. -/
def getFixed {n : ℕ} (wanted tlvLen : ℕ) (dest : Vector Byte n) : Get (Vector Byte n) := do
  if tlvLen ≠ wanted then
    parseError
    return dest
  else getMem dest

/-- `pf_lldp_get_port_status_from_packet`. -/
def getPortStatus (tlvLen : ℕ) (status : Vector Byte 4) : Get (Vector Byte 4) :=
  getFixed LLDP_PNIO_SUBTYPE_PORT_STATUS_TLV_LEN tlvLen status

/-- `pf_lldp_get_chassis_mac_from_packet`. -/
def getChassisMac (tlvLen : ℕ) (chassisMac : Vector Byte 6) : Get (Vector Byte 6) :=
  getFixed LLDP_PNIO_SUBTYPE_CHASSIS_MAC_TLV_LEN tlvLen chassisMac

/-- `pf_lldp_get_link_status_from_packet`. -/
def getLinkStatus (tlvLen : ℕ) : Get LinkStatus := do
  if tlvLen ≠ LLDP_IEEE_SUBTYPE_MAC_PHY_TLV_LEN then
    parseError
    return LinkStatus.zero
  else
    let anegSupportStatus ← getByte
    let capabilities ← getUint16
    let mauType ← getUint16
    return ⟨anegSupportStatus &&& LLDP_AUTONEG_SUPPORTED != 0,
      anegSupportStatus &&& LLDP_AUTONEG_ENABLED != 0, capabilities, mauType, true⟩

/-- The value of an organizationally specific TLV behind its header. -/
def handleOrg (tlvLen : ℕ) (org : OrgHeader) (info : PeerInfo) : Get PeerInfo := do
  if orgIdPnio = org.id then
    if org.subtype = LLDP_PNIO_SUBTYPE_MEAS_DELAY_VALUES then
      let portDelay ← getSignalDelay tlvLen info.portDelay
      return { info with portDelay }
    else if org.subtype = LLDP_PNIO_SUBTYPE_PORT_STATUS then
      let portStatus ← getPortStatus tlvLen info.portStatus
      return { info with portStatus }
    else if org.subtype = LLDP_PNIO_SUBTYPE_CHASSIS_MAC then
      let macAddress ← getChassisMac tlvLen info.macAddress
      return { info with macAddress }
    else
      skip (tlvLen - 4)
      return info
  else if orgIdIeee8023 = org.id then
    if org.subtype = LLDP_IEEE_SUBTYPE_MAC_PHY then
      let phyConfig ← getLinkStatus tlvLen
      return { info with phyConfig }
    else
      skip (tlvLen - 4)
      return info
  else
    skip (tlvLen - 4)
    return info

/-- The switch of the loop over the type of a TLV. -/
def handle (tlv : Tlv) (org : OrgHeader) (info : PeerInfo) : Get (OrgHeader × PeerInfo) := do
  match tlv.type with
  | LLDP_TYPE_CHASSIS_ID =>
    let chassisId ← getChassisId tlv.len info.chassisId
    return (org, { info with chassisId })
  | LLDP_TYPE_PORT_ID =>
    let portId ← getPortId tlv.len info.portId
    return (org, { info with portId })
  | LLDP_TYPE_TTL =>
    let ttl ← getTtl tlv.len info.ttl
    return (org, { info with ttl })
  | LLDP_TYPE_PORT_DESCRIPTION =>
    let portDescription ← getPortDescription tlv.len info.portDescription
    return (org, { info with portDescription })
  | LLDP_TYPE_MANAGEMENT_ADDRESS =>
    let managementAddress ← getManagementAddress tlv.len
    return (org, if managementAddress.isIpv4 then { info with managementAddress } else info)
  | LLDP_TYPE_ORG_SPEC =>
    let org ← getOrgHeader org
    let info ← handleOrg tlv.len org info
    return (org, info)
  | _ =>
    skip tlv.len
    return (org, info)

/-! ## The loop -/

/-- A received packet: the bytes behind the Ethernet header. -/
structure Packet where
  buf : ℕ → Byte
  len : ℕ
  len_le : len ≤ PNAL_BUF_MAX_SIZE

/-- The state at the head of the loop: the TLV that is to be handled, with the parser at its
value. -/
structure Scan where
  tlv : Tlv
  org : OrgHeader
  info : PeerInfo
  reader : Reader

def Packet.first (p : Packet) (org : OrgHeader) : Scan :=
  let (tlv, reader) := getTlv ⟨⟨.PF_PARSE_OK, true, p.buf, p.len⟩, 0⟩
  ⟨tlv, org, .zero, reader⟩

/-- The state of the parser when the TLV has been handled. -/
def Scan.handled (s : Scan) : (OrgHeader × PeerInfo) × Reader :=
  handle s.tlv s.org s.info s.reader

def Scan.next (s : Scan) : Scan :=
  let ((org, info), reader) := s.handled
  let (tlv, reader) := getTlv reader
  ⟨tlv, org, info, reader⟩

def loop : ℕ → Scan → Option Scan
  | 0, _ => none
  | fuel + 1, s => if s.tlv.type = LLDP_TYPE_END then some s else loop fuel s.next

/-- The result of the parser, and what it has stored. -/
def Scan.answer (s : Scan) : ℤ × PeerInfo :=
  (if s.reader.info.result ≠ .PF_PARSE_OK then -1 else 0, s.info)

/-- `pf_lldp_parse_packet`, with the contents of the local variable `org`. -/
def parsePacket (fuel : ℕ) (p : Packet) (org : OrgHeader) : Option (ℤ × PeerInfo) :=
  (loop fuel (p.first org)).map Scan.answer

/-- The heads of the loop that parsing a packet comes to. -/
inductive Visits (p : Packet) (org : OrgHeader) : Scan → Prop
  | first : Visits p org (p.first org)
  | next {s : Scan} (h : Visits p org s) (hne : s.tlv.type ≠ LLDP_TYPE_END) :
    Visits p org s.next

end PNet.Lldp
