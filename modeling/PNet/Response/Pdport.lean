import PNet.Pdport.Port
import PNet.Response.Stmt

/-! # The blocks about the ports and the interface

The PDPort and PDInterface writers of `pf_block_writer.c`.
-/

namespace PNet.Response

open Block Rpc Pdport

def PF_BT_PDPORTCHECK : BitVec 16 := 0x0200
def PF_BT_BOUNDARY_ADJUST : BitVec 16 := 0x0202
def PF_BT_CHECKPEERS : BitVec 16 := 0x020a
def PF_BT_PDPORTDATAREAL : BitVec 16 := 0x020f
def PF_BT_PEER_TO_PEER_BOUNDARY : BitVec 16 := 0x0224
def PF_BT_INTERFACE_REAL_DATA : BitVec 16 := 0x0240
def PF_BT_INTERFACE_ADJUST : BitVec 16 := 0x0250
def PF_BT_PORT_STATISTICS : BitVec 16 := 0x0251
def PF_BT_MULTIPLEBLOCK_HEADER : BitVec 16 := 0x0400

def PF_PD_LINK_STATE_LINK_UP : BitVec 16 := 1
def PF_PD_LINK_STATE_LINK_DOWN : BitVec 16 := 2
def PF_PD_LINK_STATE_PORT_UNKNOWN : BitVec 16 := 0

/-- `pnal_port_stats_t`. -/
structure PortStats where
  ifInOctets : BitVec 32
  ifOutOctets : BitVec 32
  ifInDiscards : BitVec 32
  ifOutDiscards : BitVec 32
  ifInErrors : BitVec 32
  ifOutErrors : BitVec 32
deriving DecidableEq, Repr

/-- After `memset`. -/
def PortStats.zero : PortStats := ⟨0, 0, 0, 0, 0, 0⟩

/-- What the writers are told of the interface. -/
structure InterfaceReal where
  macAddress : Vector Byte 6
  ipAddress : BitVec 32
  netmask : BitVec 32
  gateway : BitVec 32
  stationName : Lldp.Str Lldp.PNET_STATION_NAME_MAX_SIZE

/-! ## The writers -/

section
variable {extra start : ℕ} (e : Bool)

/-- The block header of the check of the peers, whose length is put together from the lengths of the
names. -/
def checkPeersLength (peer : CheckPeer) : BitVec 16 :=
  BitVec.ofNat 16 (5 + peer.peerPortName.length + peer.peerStationName.length)

/-- `pf_put_pdport_data_check`. -/
def putPdportDataCheck (slot subslot : BitVec 16) (peer : CheckPeer) : Stmt extra start :=
  .block e PF_BT_PDPORTCHECK PNET_BLOCK_VERSION_LOW fun _ => .seq [
    .padding 2,
    .uint16 e slot,
    .uint16 e subslot,
    .header e PF_BT_CHECKPEERS (checkPeersLength peer) PNET_BLOCK_VERSION_LOW,
    .byte 1,
    .byte (BitVec.ofNat 8 peer.peerPortName.length),
    .mem peer.peerPortName,
    .byte (BitVec.ofNat 8 peer.peerStationName.length),
    .mem peer.peerStationName,
    .align 4]

/-- The part of `pf_put_pdport_data_real` about the peer. -/
def putPeer (peerStationName peerPortName : List Byte) (port : Port) : Stmt extra start :=
  .seq [
    .byte (BitVec.ofNat 8 peerPortName.length),
    .mem peerPortName,
    .byte (BitVec.ofNat 8 peerStationName.length),
    .mem peerStationName,
    .align 4,
    .uint32 e port.lineDelay,
    .mem port.peerInfo.macAddress.toList,
    .padding 2]

def linkState (running : Bool) : BitVec 16 :=
  (if running then PF_PD_LINK_STATE_LINK_UP else PF_PD_LINK_STATE_LINK_DOWN) |||
    (PF_PD_LINK_STATE_PORT_UNKNOWN <<< 8)

/-- `pf_put_pdport_data_real`. -/
def putPdportDataReal (subslot : BitVec 16) (peerStationName peerPortName : List Byte) (port : Port)
    (mediaType : MediaType) (ethStatus : LinkStatus) : Stmt extra start :=
  .block e PF_BT_PDPORTDATAREAL PNET_BLOCK_VERSION_LOW fun _ => .seq [
    .padding 2,
    .uint16 e PNET_SLOT_DAP_IDENT,
    .uint16 e subslot,
    .byte (BitVec.ofNat 8 port.portName.chars.length),
    .mem port.portName.chars,
    .byte (if port.isPeerInfoReceived then 1 else 0),
    .padding 2,
    if port.isPeerInfoReceived then putPeer e peerStationName peerPortName port else .seq [],
    .uint16 e ethStatus.operationalMauType,
    .padding 2,
    .uint32 e 0,
    .uint32 e 0,
    .uint16 e (linkState ethStatus.running),
    .padding 2,
    .uint32 e mediaType.value]

/-- `pf_put_pdport_statistics`. -/
def putPdportStatistics (stats : PortStats) : Stmt extra start :=
  .block e PF_BT_PORT_STATISTICS PNET_BLOCK_VERSION_LOW fun _ => .seq [
    .padding 2,
    .uint32 e stats.ifInOctets,
    .uint32 e stats.ifOutOctets,
    .uint32 e stats.ifInDiscards,
    .uint32 e stats.ifOutDiscards,
    .uint32 e stats.ifInErrors,
    .uint32 e stats.ifOutErrors]

/-- `pf_put_pdinterface_data_real`. -/
def putPdinterfaceDataReal (real : InterfaceReal) : Stmt extra start :=
  .block e PF_BT_INTERFACE_REAL_DATA PNET_BLOCK_VERSION_LOW fun _ => .seq [
    .byte (BitVec.ofNat 8 real.stationName.chars.length),
    .mem real.stationName.chars,
    .align 4,
    .mem real.macAddress.toList,
    .padding 2,
    .uint32 e real.ipAddress,
    .uint32 e real.netmask,
    .uint32 e real.gateway]

/-- `pf_put_pd_multiblock_interface_and_statistics`. -/
def putPdMultiblockInterfaceAndStatistics (api : BitVec 32) (real : InterfaceReal)
    (stats : PortStats) : Stmt extra start :=
  .block e PF_BT_MULTIPLEBLOCK_HEADER PNET_BLOCK_VERSION_LOW fun _ => .seq [
    .padding 2,
    .uint32 e api,
    .uint16 e PNET_SLOT_DAP_IDENT,
    .uint16 e PNET_SUBSLOT_DAP_INTERFACE_1_IDENT,
    putPdinterfaceDataReal e real,
    putPdportStatistics e stats]

/-- `pf_put_pd_multiblock_port_and_statistics`. Its inner block is always big-endian. -/
def putPdMultiblockPortAndStatistics (api : BitVec 32) (subslot : BitVec 16)
    (peerStationName peerPortName : List Byte) (port : Port) (mediaType : MediaType)
    (ethStatus : LinkStatus) (stats : PortStats) : Stmt extra start :=
  .block e PF_BT_MULTIPLEBLOCK_HEADER PNET_BLOCK_VERSION_LOW fun _ => .seq [
    .padding 2,
    .uint32 e api,
    .uint16 e PNET_SLOT_DAP_IDENT,
    .uint16 e subslot,
    putPdportDataReal true subslot peerStationName peerPortName port mediaType ethStatus,
    putPdportStatistics e stats]

def boundaryBits (boundary : PeerToPeerBoundary) : BitVec 32 :=
  putBits (bit boundary.doNotSendPathDelayRequestFrames) 1 2
    (putBits (bit boundary.doNotSendPctpDelayRequestFrames) 1 1
      (putBits (bit boundary.doNotSendLldpFrames) 1 0 0))

/-- `pf_put_peer_to_peer_boundary`. -/
def putPeerToPeerBoundary (boundary : PeerToPeerBoundary) : Stmt extra start :=
  .block e PF_BT_PEER_TO_PEER_BOUNDARY PNET_BLOCK_VERSION_LOW fun _ => .seq [
    .padding 2,
    .uint32 e (boundaryBits boundary),
    .uint16 e boundary.adjustProperties,
    .padding 2]

/-- `pf_put_pdport_data_adj`. -/
def putPdportDataAdj (subslot : BitVec 16) (boundary : PeerToPeerBoundary) : Stmt extra start :=
  .block e PF_BT_BOUNDARY_ADJUST PNET_BLOCK_VERSION_LOW fun _ => .seq [
    .padding 2,
    .uint16 e PNET_SLOT_DAP_IDENT,
    .uint16 e subslot,
    putPeerToPeerBoundary e boundary]

/-- The value of the mode in the enumeration of the source. -/
def modeValue : Lldp.NameOfDeviceMode → BitVec 32
  | .PF_LLDP_NAME_OF_DEVICE_MODE_LEGACY => 0
  | .PF_LLDP_NAME_OF_DEVICE_MODE_STANDARD => 1

/-- `pf_put_pd_interface_adj`, which leaves out the subslot that it is told. -/
def putPdInterfaceAdj (mode : Lldp.NameOfDeviceMode) : Stmt extra start :=
  .block e PF_BT_INTERFACE_ADJUST PNET_BLOCK_VERSION_LOW fun _ => .seq [
    .padding 2,
    .uint32 e (putBits (modeValue mode) 1 0 0),
    .align 4]

/-! ## At the end of the room -/

/-- The position in front of the padding of `pf_put_pdport_data_check`. -/
def checkEnd (limit pos : ℕ) (peer : CheckPeer) : ℕ :=
  fit limit peer.peerStationName.length
    (cut limit 1 (fit limit peer.peerPortName.length (cut limit 20 pos)))

/-- The position in front of the padding of `pf_put_pdport_data_real`. -/
def realEnd (limit pos : ℕ) (peerStationName peerPortName : List Byte) (port : Port) : ℕ :=
  fit limit peerStationName.length (cut limit 1 (fit limit peerPortName.length
    (cut limit 4 (fit limit port.portName.chars.length (cut limit 13 pos)))))

theorem putPdportDataCheck_ends (slot subslot : BitVec 16) (peer : CheckPeer) (limit pos : ℕ) :
    ((putPdportDataCheck e slot subslot peer : Stmt extra start).move limit pos).isSome = true ↔
      AlignsWithin limit pos 4 (checkEnd limit pos peer) := by
  have hmove : (putPdportDataCheck e slot subslot peer : Stmt extra start).move limit pos =
      Move.seq (.bytes 20 :: .whole peer.peerPortName.length :: .bytes 1 ::
        [.whole peer.peerStationName.length, .align pos 4]) limit pos := by
    show Move.seq (.bytes 6 :: .bytes 2 :: .bytes 2 :: .bytes 2 :: .bytes 6 :: .bytes 1 :: .bytes 1 ::
      _) limit pos = _
    simp only [Move.seq_bytes_bytes]
    rfl
  rw [hmove]
  show ((Move.align pos 4 limit (checkEnd limit pos peer)).bind (Move.seq [] limit)).isSome = true ↔ _
  rw [Move.isSome_bind_of_total (fun _ _ => rfl), Move.isSome_align]

theorem putPdInterfaceAdj_ends (mode : Lldp.NameOfDeviceMode) (limit pos : ℕ) :
    ((putPdInterfaceAdj e mode : Stmt extra start).move limit pos).isSome = true ↔
      AlignsWithin limit pos 4 (cut limit 12 pos) := by
  have hmove : (putPdInterfaceAdj e mode : Stmt extra start).move limit pos =
      Move.seq [.bytes 12, .align pos 4] limit pos := by
    show Move.seq (.bytes 6 :: .bytes 2 :: .bytes 4 :: [.align pos 4]) limit pos = _
    simp only [Move.seq_bytes_bytes]
  rw [hmove]
  show ((Move.align pos 4 limit (cut limit 12 pos)).bind (Move.seq [] limit)).isSome = true ↔ _
  rw [Move.isSome_bind_of_total (fun _ _ => rfl), Move.isSome_align]

theorem putPdportStatistics_total (stats : PortStats) :
    (putPdportStatistics e stats : Stmt extra start).Total := by
  apply Stmt.total_block_seq
  intro _
  simp only [List.forall_mem_cons, Stmt.total_padding, Stmt.total_uint32, true_and]
  exact List.forall_mem_nil _

theorem putPeerToPeerBoundary_total (boundary : PeerToPeerBoundary) :
    (putPeerToPeerBoundary e boundary : Stmt extra start).Total := by
  apply Stmt.total_block_seq
  intro _
  simp only [List.forall_mem_cons, Stmt.total_padding, Stmt.total_uint32, Stmt.total_uint16, true_and]
  exact List.forall_mem_nil _

theorem putPdportDataAdj_total (subslot : BitVec 16) (boundary : PeerToPeerBoundary) :
    (putPdportDataAdj e subslot boundary : Stmt extra start).Total := by
  apply Stmt.total_block_seq
  intro _
  simp only [List.forall_mem_cons, Stmt.total_padding, Stmt.total_uint16,
    putPeerToPeerBoundary_total, true_and]
  exact List.forall_mem_nil _

theorem putPeer_ends (peerStationName peerPortName : List Byte) (port : Port)
    (limit pos blockPos : ℕ) :
    ((putPeer e peerStationName peerPortName port : Stmt extra blockPos).move limit pos).isSome =
      true ↔ AlignsWithin limit blockPos 4 (fit limit peerStationName.length
        (cut limit 1 (fit limit peerPortName.length (cut limit 1 pos)))) := by
  have htotal : Move.Total (.seq [.bytes 4, .whole port.peerInfo.macAddress.toList.length,
      .bytes 2]) := by
    apply Move.total_seq
    simp only [List.forall_mem_cons]
    exact ⟨Move.total_bytes 4, Move.total_whole _, Move.total_bytes 2, List.forall_mem_nil _⟩
  show ((Move.align blockPos 4 limit _).bind (Move.seq [.bytes 4,
    .whole port.peerInfo.macAddress.toList.length, .bytes 2] limit)).isSome = true ↔ _
  rw [Move.isSome_bind_of_total htotal, Move.isSome_align]

theorem putPdportDataReal_ends (subslot : BitVec 16) (peerStationName peerPortName : List Byte)
    (port : Port) (mediaType : MediaType) (ethStatus : LinkStatus) (limit pos : ℕ) :
    ((putPdportDataReal e subslot peerStationName peerPortName port mediaType ethStatus :
      Stmt extra start).move limit pos).isSome = true ↔
      (port.isPeerInfoReceived = true →
        AlignsWithin limit pos 4 (realEnd limit pos peerStationName peerPortName port)) := by
  have htotal : Move.Total (.seq [.bytes 2, .bytes 2, .bytes 4, .bytes 4, .bytes 2, .bytes 2,
      .bytes 4]) := by
    apply Move.total_seq
    simp only [List.forall_mem_cons]
    exact ⟨Move.total_bytes 2, Move.total_bytes 2, Move.total_bytes 4, Move.total_bytes 4,
      Move.total_bytes 2, Move.total_bytes 2, Move.total_bytes 4, List.forall_mem_nil _⟩
  have hmove (peer : Stmt extra pos) : Move.seq (.bytes 6 :: .bytes 2 :: .bytes 2 :: .bytes 2 ::
      .bytes 1 :: .whole port.portName.chars.length :: .bytes 1 :: .bytes 2 :: peer.move ::
      [.bytes 2, .bytes 2, .bytes 4, .bytes 4, .bytes 2, .bytes 2, .bytes 4]) limit pos =
      (peer.move limit (cut limit 3 (fit limit port.portName.chars.length (cut limit 13 pos)))).bind
        (Move.seq [.bytes 2, .bytes 2, .bytes 4, .bytes 4, .bytes 2, .bytes 2, .bytes 4] limit) := by
    rw [Move.seq_bytes_bytes, Move.seq_bytes_bytes, Move.seq_bytes_bytes, Move.seq_bytes_bytes]
    show (Move.seq (.bytes 1 :: .bytes 2 :: _) limit _) = _
    rw [Move.seq_bytes_bytes]
    rfl
  have hreal : (putPdportDataReal e subslot peerStationName peerPortName port mediaType ethStatus :
      Stmt extra start).move limit pos = Move.seq (.bytes 6 :: .bytes 2 :: .bytes 2 :: .bytes 2 ::
      .bytes 1 :: .whole port.portName.chars.length :: .bytes 1 :: .bytes 2 ::
      (if port.isPeerInfoReceived then putPeer e peerStationName peerPortName port
        else .seq [] : Stmt extra pos).move ::
      [.bytes 2, .bytes 2, .bytes 4, .bytes 4, .bytes 2, .bytes 2, .bytes 4]) limit pos := rfl
  rw [hreal, hmove, Move.isSome_bind_of_total htotal]
  cases port.isPeerInfoReceived with
  | false => exact ⟨fun _ h => absurd h Bool.false_ne_true, fun _ => rfl⟩
  | true =>
    have hsum : cut limit 1 (cut limit 3 (fit limit port.portName.chars.length (cut limit 13 pos))) =
        cut limit 4 (fit limit port.portName.chars.length (cut limit 13 pos)) :=
      Option.some.inj (Move.bytes_bytes 3 1 limit _)
    have hpeer := @putPeer_ends extra e peerStationName peerPortName port limit
      (cut limit 3 (fit limit port.portName.chars.length (cut limit 13 pos))) pos
    rw [hsum] at hpeer
    exact ⟨fun h _ => hpeer.mp h, fun h => hpeer.mpr (h rfl)⟩

end

end PNet.Response
