import PNet.Lldp.Construct
import PNet.Rpc.Read

/-! # The ports of the device

The port part of the stack (`pf_port.c`, and the peer names of `pf_lldp.c`): what is kept for a port,
the subslot of a port, and the iterator that hands out the port numbers.
-/

namespace PNet.Pdport

open Block Lldp

def PNET_SUBSLOT_DAP_WHOLE_MODULE : BitVec 16 := 0x0000
def PNET_SUBSLOT_DAP_IDENT : BitVec 16 := 0x0001
def PNET_SUBSLOT_DAP_INTERFACE_1_PORT_1_IDENT : BitVec 16 := 0x8001

/-! ## What is kept for a port -/

/-- `pf_check_peer_t`, of each array the part that its length tells. -/
structure CheckPeer where
  peerPortName : List Byte
  peerStationName : List Byte
  portName_lt : peerPortName.length < 256
  stationName_lt : peerStationName.length < 256

/-- `pf_adjust_peer_to_peer_boundary_t`. -/
structure PeerToPeerBoundary where
  doNotSendLldpFrames : Bool
  doNotSendPctpDelayRequestFrames : Bool
  doNotSendPathDelayRequestFrames : Bool
  adjustProperties : BitVec 16
deriving DecidableEq, Repr

/-- `check` of `pf_pdport_t`. -/
structure Check where
  active : Bool
  peer : CheckPeer

/-- `adjust` of `pf_pdport_t`. -/
structure Adjust where
  active : Bool
  peerToPeerBoundary : PeerToPeerBoundary

/-- `pnal_eth_status_t` with the link state. -/
structure LinkStatus where
  running : Bool
  operationalMauType : BitVec 16
deriving DecidableEq, Repr

/-- `pf_port_t`. -/
structure Port where
  portName : Str PNET_PORT_NAME_MAX_SIZE
  check : Check
  adjust : Adjust
  isPeerInfoReceived : Bool
  peerInfo : PeerInfo
  lineDelay : BitVec 32
  ethStatus : LinkStatus
  /-- From the configuration of the port. -/
  defaultMauType : BitVec 16

/-- `pf_pdport_get_eth_status_filtered_mau`. -/
def Port.ethStatusFilteredMau (port : Port) : LinkStatus :=
  if port.ethStatus.operationalMauType = 0 ∧ port.ethStatus.running = false then
    { port.ethStatus with operationalMauType := port.defaultMauType }
  else port.ethStatus

/-- `pf_mediatype_values_t`. -/
inductive MediaType where
  | PF_PD_MEDIATYPE_UNKNOWN
  | PF_PD_MEDIATYPE_COPPER
  | PF_PD_MEDIATYPE_FIBER
  | PF_PD_MEDIATYPE_RADIO
deriving DecidableEq, Repr

def MediaType.value : MediaType → BitVec 32
  | .PF_PD_MEDIATYPE_UNKNOWN => 0
  | .PF_PD_MEDIATYPE_COPPER => 1
  | .PF_PD_MEDIATYPE_FIBER => 2
  | MediaType.PF_PD_MEDIATYPE_RADIO => 3

def copperMauTypes : List (BitVec 16) := [0x05, 0x0F, 0x10, 0x1D, 0x1E]
def fiberMauTypes : List (BitVec 16) := [0x11, 0x12, 0x15, 0x16]

/-- `pf_port_get_media_type`. -/
def getMediaType (mauType : BitVec 16) : MediaType :=
  if mauType = 0 then MediaType.PF_PD_MEDIATYPE_RADIO
  else if copperMauTypes.contains mauType then .PF_PD_MEDIATYPE_COPPER
  else if fiberMauTypes.contains mauType then .PF_PD_MEDIATYPE_FIBER
  else .PF_PD_MEDIATYPE_UNKNOWN

/-! ## The names of the peer -/

/-- What C takes for the string in an array. -/
def cString (chars : List Byte) : List Byte := chars.takeWhile (· ≠ 0)

/-- The address that stands in the array of a chassis id. -/
def macOf (chars : List Byte) : Vector Byte 6 := Vector.ofFn fun i => chars.getD i 0

/-- `pf_lldp_get_peer_station_name`. Its result is -1 when the name is empty. -/
def getPeerStationName (info : PeerInfo) : List Byte :=
  let portId := cString info.portId.string
  if info.portId.isValid = true ∧ portId.contains (charByte '.') = true then
    snprintf PNET_STATION_NAME_MAX_SIZE (portId.dropWhile (· ≠ charByte '.')).tail
  else if info.chassisId.isValid = true then
    if info.chassisId.subtype ≠ PF_LLDP_SUBTYPE_MAC then
      snprintf PNET_STATION_NAME_MAX_SIZE (cString info.chassisId.string)
    else macAddressToString (macOf info.chassisId.string) PNET_STATION_NAME_MAX_SIZE
  else []

/-- `pf_lldp_get_peer_port_name`. Its result is -1 when the name is empty. -/
def getPeerPortName (info : PeerInfo) : List Byte :=
  if info.portId.isValid = false then []
  else (((info.portId.string.take info.portId.len).takeWhile
    fun c => c ≠ 0 ∧ c ≠ charByte '.')).take (PNET_PORT_NAME_MAX_SIZE - 1)

/-! ## Port numbers and subslots -/

/-- `pf_port_is_valid`, for `n` ports. -/
def portIsValid (n : ℕ) (port : ℤ) : Bool := 0 < port ∧ port ≤ n

/-- `pf_port_dap_subslot_to_local_port`: 0 for no port. -/
def dapSubslotToLocalPort (n : ℕ) (subslot : BitVec 16) : ℕ :=
  let port : ℤ := 1 + subslot.toNat - PNET_SUBSLOT_DAP_INTERFACE_1_PORT_1_IDENT.toNat
  if portIsValid n port = true then port.toNat else 0

/-- `pf_port_subslot_is_dap_port_id`. -/
def subslotIsDapPortId (n : ℕ) (subslot : BitVec 16) : Bool :=
  dapSubslotToLocalPort n subslot ≠ 0

/-- `pf_port_loc_port_num_to_dap_subslot`. -/
def locPortNumToDapSubslot (port : ℕ) : BitVec 16 :=
  PNET_SUBSLOT_DAP_INTERFACE_1_PORT_1_IDENT + BitVec.ofNat 16 port - 1

theorem dapSubslotToLocalPort_le (n : ℕ) (subslot : BitVec 16) :
    dapSubslotToLocalPort n subslot ≤ n := by
  unfold dapSubslotToLocalPort
  dsimp only
  split
  · rename_i h
    simp only [portIsValid, decide_eq_true_eq] at h
    omega
  · exact Nat.zero_le n

/-! ## The iterator -/

/-- `pf_port_iterator_t`. -/
structure PortIterator where
  nextPort : ℕ
  numberOfPorts : ℕ
deriving DecidableEq, Repr

/-- `pf_port_init_iterator_over_ports`. -/
def PortIterator.init (n : ℕ) : PortIterator := ⟨1, n⟩

/-- `pf_port_get_next`. -/
def PortIterator.next (it : PortIterator) : ℕ × PortIterator :=
  if it.nextPort = it.numberOfPorts ∨ it.nextPort = 0 then (it.nextPort, { it with nextPort := 0 })
  else if it.numberOfPorts < it.nextPort then (0, { it with nextPort := 0 })
  else (it.nextPort, { it with nextPort := it.nextPort + 1 })

theorem PortIterator.next_of_le {k n : ℕ} (hk : 0 < k) (hkn : k ≤ n) :
    (⟨k, n⟩ : PortIterator).next = (k, ⟨if k = n then 0 else k + 1, n⟩) := by
  unfold PortIterator.next
  dsimp only
  split
  · rename_i h
    have hkn : k = n := by omega
    rw [if_pos hkn]
  · rename_i h
    have hne : k ≠ n := by omega
    rw [if_neg (by omega), if_neg hne]

theorem PortIterator.next_zero (n : ℕ) : (⟨0, n⟩ : PortIterator).next = (0, ⟨0, n⟩) := by
  unfold PortIterator.next
  rw [if_pos (.inr rfl)]

end PNet.Pdport
