import PNet.Connect.CheckPeers
import PNet.Pdport.Read

/-! # Writing the records of the ports

`pf_pdport_write_req`: the check and the adjustments of a port are parsed into a local variable and
taken over when the parser has no error, the adjustment of the interface is parsed into what is kept
and always accepted. None of them looks at what is behind the record.

* `pdportWriteReq_lawful_iff`: a refused write leaves the records as they were, and one that is
  accepted has stored the whole record, exactly when the record meets `PdKeeps`.
-/

namespace PNet.Pdport

open Block Rpc

/-! ## What is kept of the records -/

/-- `pf_check_peer_t`, each array with all its bytes. -/
structure PeerArrays where
  lengthPeerPortName : Byte
  peerPortName : Vector Byte Connect.PNET_LLDP_PORT_ID_MAX_SIZE
  lengthPeerStationName : Byte
  peerStationName : Vector Byte Connect.PNET_STATION_NAME_MAX_SIZE

/-- What is kept of the records about a port. -/
structure PortRecords where
  checkActive : Bool
  peer : PeerArrays
  adjustActive : Bool
  peerToPeerBoundary : PeerToPeerBoundary

/-- What is kept of the records about the ports and the interface. -/
structure PdRecords where
  numberOfPorts : ℕ
  /-- From port 1 on. -/
  port : ℕ → PortRecords
  nameOfDevice : NameOfDevice
  /-- `PF_BGJOB_SAVE_PDPORT_NVM_DATA` has been started, which writes the files of the ports. -/
  saveJob : Bool

/-- An array of zeros into which a name has been copied. -/
def nameArray (n : ℕ) (name : List Byte) : Vector Byte n := Vector.ofFn fun i => name.getD i 0

/-- What `get_check_peer` leaves in a structure of zeros. -/
def PeerArrays.ofRead (p : Connect.CheckPeer) : PeerArrays :=
  ⟨p.lengthPeerPortName, nameArray _ (p.peerPortName.getD []), p.lengthPeerStationName,
    nameArray _ (p.peerStationName.getD [])⟩

/-! ## The records -/

/-- `pf_pdport_write_data_check`, less the check of the peer that follows. -/
def writeDataCheck (bytes : ℕ → Byte) (dataLength : ℕ) (port : PortRecords) : ℤ × PortRecords :=
  let (peers, r) := Connect.getWriteDataCheck (.ready bytes dataLength 0)
  if r.info.result = .PF_PARSE_OK then
    (peers.getD []).head?.elim (-1, port) fun peer =>
      (0, { port with peer := .ofRead peer, checkActive := true })
  else (-1, port)

/-- `pf_get_port_data_adjust_peer_to_peer_boundary`. -/
def getPeerToPeerBoundary : Get PeerToPeerBoundary := do
  let _ ← Connect.getBytes 2
  let temp ← getUint32
  let adjustProperties ← getUint16
  return ⟨Connect.getFlag temp 0 1, Connect.getFlag temp 1 1, Connect.getFlag temp 2 1,
    adjustProperties⟩

/-- The part of `pf_pdport_write_data_adj` that reads; `pf_get_port_data_adjust` reads the fields of
`pf_get_port_data_check`. -/
def getWriteDataAdj : Get (Option PeerToPeerBoundary) := do
  let adjust ← Connect.getPortDataCheck
  if adjust.blockHeader.blockType = Response.PF_BT_PEER_TO_PEER_BOUNDARY then
    let boundary ← getPeerToPeerBoundary
    return some boundary
  else return none

/-- `pf_pdport_write_data_adj`, less the start or stop of LLDP that follows. -/
def writeDataAdj (bytes : ℕ → Byte) (dataLength : ℕ) (port : PortRecords) : ℤ × PortRecords :=
  let (boundary, r) := getWriteDataAdj (.ready bytes dataLength 0)
  if r.info.result = .PF_PARSE_OK then
    boundary.elim (-1, port) fun boundary =>
      (0, { port with adjustActive := true, peerToPeerBoundary := boundary })
  else (-1, port)

/-- `pf_get_interface_adjust`. -/
def getInterfaceAdjust : Get Lldp.NameOfDeviceMode := do
  let _ ← Connect.getBytes 2
  let temp ← getUint32
  return if Connect.getFlag temp 0 1 then .PF_LLDP_NAME_OF_DEVICE_MODE_STANDARD
    else .PF_LLDP_NAME_OF_DEVICE_MODE_LEGACY

/-- `pf_pdport_write_interface_adj`, less the restart of LLDP that follows. -/
def writeInterfaceAdj (bytes : ℕ → Byte) (dataLength : ℕ) (store : PdRecords) : ℤ × PdRecords :=
  let (mode, _) := getInterfaceAdjust (.ready bytes dataLength 0)
  (0, { store with nameOfDevice := ⟨true, mode⟩ })

/-- The switch for a port. -/
def writePort (index : BitVec 16) (bytes : ℕ → Byte) (dataLength : ℕ) (port : PortRecords) :
    ℤ × PortRecords :=
  if index = PF_IDX_SUB_PDPORT_DATA_CHECK then writeDataCheck bytes dataLength port
  else if index = PF_IDX_SUB_PDPORT_DATA_ADJ then writeDataAdj bytes dataLength port
  else (-1, port)

/-- `pf_pdport_write_req`. -/
def pdportWriteReq (index subslot : BitVec 16) (bytes : ℕ → Byte) (dataLength : ℕ)
    (store : PdRecords) : ℤ × PdRecords :=
  let port := dapSubslotToLocalPort store.numberOfPorts subslot
  if 0 < port then
    let (ret, records) := writePort index bytes dataLength (store.port port)
    let store := { store with port := Function.update store.port port records }
    (ret, if ret = 0 then { store with saveJob := true } else store)
  else if index = PF_IDX_SUB_PDINTF_ADJUST then writeInterfaceAdj bytes dataLength store
  else (-1, store)

/-! ## What a record holds -/

/-- Where the check of one peer ends. -/
def checkEnd (bytes : ℕ → Byte) : ℕ :=
  15 + (bytes 13).toNat + (bytes (14 + (bytes 13).toNat)).toNat

/-- The names that a record of `dataLength` bytes checks, with nothing but padding behind them. -/
def checkRecord (bytes : ℕ → Byte) (dataLength : ℕ) : Option (List Byte × List Byte) :=
  if join2 (bytes 6) (bytes 7) = Connect.PF_BT_CHECKPEERS ∧ bytes 12 = 1 ∧
      checkEnd bytes ≤ dataLength ∧ dataLength < checkEnd bytes + 4 then
    some (Buffer.slice bytes 14 (bytes 13).toNat,
      Buffer.slice bytes (15 + (bytes 13).toNat) (bytes (14 + (bytes 13).toNat)).toNat)
  else none

/-- The adjustments that a record of `dataLength` bytes asks for. -/
def adjustRecord (bytes : ℕ → Byte) (dataLength : ℕ) : Option PeerToPeerBoundary :=
  if join2 (bytes 6) (bytes 7) = Response.PF_BT_PEER_TO_PEER_BOUNDARY ∧
      20 ≤ dataLength ∧ dataLength < 24 then
    let flags := join4 (bytes 14) (bytes 15) (bytes 16) (bytes 17)
    some ⟨Connect.getFlag flags 0 1, Connect.getFlag flags 1 1, Connect.getFlag flags 2 1,
      join2 (bytes 18) (bytes 19)⟩
  else none

/-- The mode that a record of `dataLength` bytes asks for. -/
def interfaceRecord (bytes : ℕ → Byte) (dataLength : ℕ) : Option Lldp.NameOfDeviceMode :=
  if 6 ≤ dataLength ∧ dataLength < 10 then
    let flags := join4 (bytes 2) (bytes 3) (bytes 4) (bytes 5)
    some (if Connect.getFlag flags 0 1 then .PF_LLDP_NAME_OF_DEVICE_MODE_STANDARD
      else .PF_LLDP_NAME_OF_DEVICE_MODE_LEGACY)
  else none

/-- The array holds the name and its terminator. -/
def HoldsName {n : ℕ} (chars : Vector Byte n) (name : List Byte) : Prop :=
  ∀ i ≤ name.length, chars[i]? = (name ++ [0])[i]?

/-- The structure holds the two names. -/
def PeerArrays.Holds (p : PeerArrays) (names : List Byte × List Byte) : Prop :=
  p.lengthPeerPortName.toNat = names.1.length ∧ HoldsName p.peerPortName names.1 ∧
    p.lengthPeerStationName.toNat = names.2.length ∧ HoldsName p.peerStationName names.2

/-- The whole record is stored, and the file of a port is going to be written. -/
def PdStored (index subslot : BitVec 16) (bytes : ℕ → Byte) (dataLength : ℕ) (store : PdRecords) :
    Prop :=
  let port := store.port (dapSubslotToLocalPort store.numberOfPorts subslot)
  if index = PF_IDX_SUB_PDPORT_DATA_CHECK then
    (∃ names, checkRecord bytes dataLength = some names ∧ port.peer.Holds names) ∧
      port.checkActive = true ∧ store.saveJob = true
  else if index = PF_IDX_SUB_PDPORT_DATA_ADJ then
    adjustRecord bytes dataLength = some port.peerToPeerBoundary ∧
      port.adjustActive = true ∧ store.saveJob = true
  else
    interfaceRecord bytes dataLength = some store.nameOfDevice.mode ∧
      store.nameOfDevice.active = true

/-- A refused write leaves the records as they were; one that is accepted has stored its record. -/
def PdLawful (index subslot : BitVec 16) (bytes : ℕ → Byte) (dataLength : ℕ) (store : PdRecords) :
    Prop :=
  let out := pdportWriteReq index subslot bytes dataLength store
  (out.1 ≠ 0 → out.2 = store) ∧ (out.1 = 0 → PdStored index subslot bytes dataLength out.2)

/-! ## What a record needs -/

/-- A check that is read without an error has one peer, whose station name has room for its
terminator, and no more than padding behind it. -/
def CheckKeeps (bytes : ℕ → Byte) (dataLength : ℕ) : Prop :=
  join2 (bytes 6) (bytes 7) = Connect.PF_BT_CHECKPEERS → bytes 12 ≠ 0 →
    checkEnd bytes ≤ dataLength →
    bytes 12 = 1 ∧ dataLength < checkEnd bytes + 4 ∧ (bytes (14 + (bytes 13).toNat)).toNat < 241

/-- Adjustments that are read without an error have no more than padding behind them. -/
def AdjustKeeps (bytes : ℕ → Byte) (dataLength : ℕ) : Prop :=
  join2 (bytes 6) (bytes 7) = Response.PF_BT_PEER_TO_PEER_BOUNDARY → 20 ≤ dataLength →
    dataLength < 24

/-- What a write of a record about the ports needs. -/
def PdKeeps (numberOfPorts : ℕ) (index subslot : BitVec 16) (bytes : ℕ → Byte) (dataLength : ℕ) :
    Prop :=
  if 0 < dapSubslotToLocalPort numberOfPorts subslot then
    (index = PF_IDX_SUB_PDPORT_DATA_CHECK → CheckKeeps bytes dataLength) ∧
      (index = PF_IDX_SUB_PDPORT_DATA_ADJ → AdjustKeeps bytes dataLength)
  else index = PF_IDX_SUB_PDINTF_ADJUST → 6 ≤ dataLength ∧ dataLength < 10

/-! ## What the getters read -/

section
variable {buf : ℕ → Byte} {len pos : ℕ}

theorem getBytes_ready {n : ℕ} (h : pos + n ≤ len) :
    Connect.getBytes n (.ready buf len pos) =
      (some (Buffer.slice buf pos n), .ready buf len (pos + n)) := by
  have hroom : ¬ (Reader.ready buf len pos).info.len < (Reader.ready buf len pos).pos + n :=
    not_lt.mpr h
  unfold Connect.getBytes
  rw [if_neg (fun hbad => hbad rfl), if_neg hroom]
  rfl

theorem exact_getBytes (n : ℕ) : Exact n (Connect.getBytes n) := by
  constructor
  · intro r hok hlen
    unfold Connect.getBytes
    rw [if_neg (fun hbad => hbad hok), if_neg (by omega)]
  · intro r hr
    unfold Connect.getBytes
    split
    · assumption
    · rename_i hok
      rw [if_pos (by have := hr.resolve_left hok; omega)]
      exact endOfInput_ne_ok

theorem exact_portDataCheck : Exact 12 Connect.getPortDataCheck := by
  have hheader : Exact 6 getBlockHeader :=
    exact_uint16.bind fun _ => exact_uint16.bind fun _ => exact_byte.bind fun _ => exact_byte.map _
  exact (exact_getBytes 2).bind fun _ => exact_uint16.bind fun _ => exact_uint16.bind fun _ =>
    hheader.map _

theorem getPortDataCheck_ready (h : 12 ≤ len) :
    (Connect.getPortDataCheck (.ready buf len 0)).1.blockHeader.blockType =
        join2 (buf 6) (buf 7) ∧
      (Connect.getPortDataCheck (.ready buf len 0)).2 = .ready buf len 12 := by
  constructor
  · have hrun (r : Reader) : (Connect.getPortDataCheck r).1.blockHeader.blockType =
        (getUint16 (getUint16 (getUint16 (Connect.getBytes 2 r).2).2).2).1 := by
      simp only [Connect.getPortDataCheck, getBlockHeader, bind_run, pure_run]
    rw [hrun, getBytes_ready (by omega), getUint16_ready (by omega), getUint16_ready (by omega),
      getUint16_ready (by omega)]
  · exact exact_portDataCheck.takes _ rfl (by exact h)

/-- The length that stands at `pos` and the name behind it. -/
theorem getCheckPeer_ready
    (h : pos + 2 + (buf pos).toNat + (buf (pos + 1 + (buf pos).toNat)).toNat ≤ len) :
    Connect.getCheckPeer (.ready buf len pos) =
      (⟨buf pos, some (Buffer.slice buf (pos + 1) (buf pos).toNat),
        buf (pos + 1 + (buf pos).toNat),
        some (Buffer.slice buf (pos + 2 + (buf pos).toNat)
          (buf (pos + 1 + (buf pos).toNat)).toNat)⟩,
      .ready buf len
        (pos + 2 + (buf pos).toNat + (buf (pos + 1 + (buf pos).toNat)).toNat)) := by
  have hrun (r : Reader) : Connect.getCheckPeer r =
      let l := getByte r
      let n := Connect.getBytes l.1.toNat l.2
      let l' := getByte n.2
      let n' := Connect.getBytes l'.1.toNat l'.2
      (⟨l.1, n.1, l'.1, n'.1⟩, n'.2) := rfl
  have hpos : pos + 1 + (buf pos).toNat + 1 = pos + 2 + (buf pos).toNat := by omega
  rw [hrun, getByte_ready (by omega)]
  dsimp only
  rw [getBytes_ready (by omega)]
  dsimp only
  rw [getByte_ready (by omega)]
  dsimp only
  rw [hpos, getBytes_ready (by omega)]

theorem getCheckPeer_short (hpos : pos ≤ len)
    (h : len < pos + 2 + (buf pos).toNat + (buf (pos + 1 + (buf pos).toNat)).toNat) :
    (Connect.getCheckPeer (.ready buf len pos)).2.info.result ≠ .PF_PARSE_OK := by
  have hrun (r : Reader) : (Connect.getCheckPeer r).2 =
      (Connect.getBytes (getByte (Connect.getBytes (getByte r).1.toNat (getByte r).2).2).1.toNat
        (getByte (Connect.getBytes (getByte r).1.toNat (getByte r).2).2).2).2 := rfl
  have hname (n : ℕ) := (exact_getBytes n).keepsError
  rw [hrun]
  by_cases hlength : pos + 1 ≤ len
  · rw [getByte_ready hlength]
    by_cases hport : pos + 1 + (buf pos).toNat ≤ len
    · rw [getBytes_ready hport]
      by_cases hstation : pos + 1 + (buf pos).toNat + 1 ≤ len
      · rw [getByte_ready hstation]
        dsimp only
        exact (exact_getBytes _).errs_ready hstation (by omega)
      · exact hname _ _ (exact_byte.errs_ready hport (by omega))
    · have hshort : len < pos + 1 + (buf pos).toNat := by omega
      exact hname _ _ (exact_byte.keepsError _ ((exact_getBytes _).errs_ready hlength hshort))
  · exact hname _ _ (exact_byte.keepsError _ (hname _ _ (exact_byte.errs_ready hpos (by omega))))

end

/-! ## The check of a port -/

section
variable {bytes : ℕ → Byte} {dataLength : ℕ}

theorem getWriteDataCheck_run (r : Reader) :
    Connect.getWriteDataCheck r =
      if (Connect.getPortDataCheck r).1.blockHeader.blockType = Connect.PF_BT_CHECKPEERS then
        (some (Connect.getCheckPeers Connect.PF_CHECK_PEERS_PER_PORT
          (Connect.getPortDataCheck r).2).1,
        (Connect.getCheckPeers Connect.PF_CHECK_PEERS_PER_PORT (Connect.getPortDataCheck r).2).2)
      else (none, (Connect.getPortDataCheck r).2) := by
  rw [Connect.getWriteDataCheck, bind_run]
  split
  · rw [bind_run, pure_run]
  · rw [pure_run]

theorem keepsError_checkPeers (n : ℕ) : KeepsError (Connect.getCheckPeers n) :=
  (moves_byte.bind fun _ => Connect.moves_getTimes Connect.moves_checkPeer _).keepsError

/-- One peer, of any number of them. -/
theorem getCheckPeers_ready (h : 12 < dataLength) (hpeers : bytes 12 ≠ 0) :
    Connect.getCheckPeers Connect.PF_CHECK_PEERS_PER_PORT (.ready bytes dataLength 12) =
      ([(Connect.getCheckPeer (.ready bytes dataLength 13)).1],
        (Connect.getCheckPeer (.ready bytes dataLength 13)).2) := by
  have hcount : min (bytes 12).toNat Connect.PF_CHECK_PEERS_PER_PORT = 1 := by
    have hne : (bytes 12).toNat ≠ 0 := fun hzero => hpeers (BitVec.eq_of_toNat_eq hzero)
    have hone : Connect.PF_CHECK_PEERS_PER_PORT = 1 := rfl
    omega
  rw [Connect.getCheckPeers, bind_run, getByte_ready h]
  dsimp only
  rw [hcount]
  rfl

/-- The check as it is stored. -/
def readPeer (bytes : ℕ → Byte) : PeerArrays :=
  .ofRead ⟨bytes 13, some (Buffer.slice bytes 14 (bytes 13).toNat),
    bytes (14 + (bytes 13).toNat),
    some (Buffer.slice bytes (15 + (bytes 13).toNat) (bytes (14 + (bytes 13).toNat)).toNat)⟩

/-- The check is taken over when it is read without an error. -/
theorem writeDataCheck_eq (port : PortRecords) :
    writeDataCheck bytes dataLength port =
      if join2 (bytes 6) (bytes 7) = Connect.PF_BT_CHECKPEERS ∧ bytes 12 ≠ 0 ∧
          checkEnd bytes ≤ dataLength then
        (0, { port with peer := readPeer bytes, checkActive := true })
      else (-1, port) := by
  have hend : checkEnd bytes = 13 + 2 + (bytes 13).toNat +
      (bytes (13 + 1 + (bytes 13).toNat)).toNat := rfl
  unfold writeDataCheck
  rw [getWriteDataCheck_run]
  by_cases hheader : 12 ≤ dataLength
  · rcases @getPortDataCheck_ready bytes dataLength hheader with ⟨htype, hr⟩
    rw [htype, hr]
    by_cases hcheck : join2 (bytes 6) (bytes 7) = Connect.PF_BT_CHECKPEERS
    · rw [if_pos hcheck]
      dsimp only
      by_cases hnumber : 12 < dataLength
      · by_cases hpeers : bytes 12 ≠ 0
        · rw [getCheckPeers_ready hnumber hpeers]
          dsimp only
          by_cases hroom : checkEnd bytes ≤ dataLength
          · rw [getCheckPeer_ready (hend ▸ hroom), if_pos ready_ok, if_pos ⟨hcheck, hpeers, hroom⟩]
            rfl
          · have herr := getCheckPeer_short hnumber (by omega : dataLength <
              13 + 2 + (bytes 13).toNat + (bytes (13 + 1 + (bytes 13).toNat)).toNat)
            rw [if_neg herr, if_neg (fun h : _ ∧ _ ∧ _ => hroom h.2.2)]
        · have hno : Connect.getCheckPeers Connect.PF_CHECK_PEERS_PER_PORT
              (.ready bytes dataLength 12) = ([], .ready bytes dataLength 13) := by
            rw [Connect.getCheckPeers, bind_run, getByte_ready hnumber, not_not.mp hpeers]
            rfl
          rw [hno, if_pos ready_ok, if_neg (fun h : _ ∧ _ => hpeers h.2.1)]
          rfl
      · have herr : (Connect.getCheckPeers Connect.PF_CHECK_PEERS_PER_PORT
            (.ready bytes dataLength 12)).2.info.result ≠ .PF_PARSE_OK :=
          (Connect.moves_getTimes Connect.moves_checkPeer _).keepsError _
            (exact_byte.errs_ready hheader (by omega))
        rw [if_neg herr, if_neg (fun h => by omega)]
    · rw [if_neg hcheck, if_neg (fun h : _ ∧ _ => hcheck h.1)]
      dsimp only
      rw [if_pos ready_ok]
      rfl
  · have herr : (Connect.getPortDataCheck (.ready bytes dataLength 0)).2.info.result ≠
        .PF_PARSE_OK := exact_portDataCheck.errs_ready (Nat.zero_le _) (by omega)
    have herr' := keepsError_checkPeers Connect.PF_CHECK_PEERS_PER_PORT _ herr
    have hno : ¬ (join2 (bytes 6) (bytes 7) = Connect.PF_BT_CHECKPEERS ∧ bytes 12 ≠ 0 ∧
        checkEnd bytes ≤ dataLength) := fun h => by omega
    rw [if_neg hno]
    by_cases hcheck : (Connect.getPortDataCheck (.ready bytes dataLength 0)).1.blockHeader.blockType =
        Connect.PF_BT_CHECKPEERS
    · rw [if_pos hcheck]
      exact if_neg herr'
    · rw [if_neg hcheck]
      exact if_neg herr

theorem holdsName_iff {n : ℕ} (name : List Byte) :
    HoldsName (nameArray n name) name ↔ name.length < n := by
  constructor
  · intro h
    have hlast := h name.length le_rfl
    rw [List.getElem?_concat_length] at hlast
    by_contra hlong
    rw [Vector.getElem?_eq_none (by omega)] at hlast
    cases hlast
  · intro h i hi
    have hlt : i < n := by omega
    rw [Vector.getElem?_eq_getElem hlt, nameArray, Vector.getElem_ofFn]
    show some (name.getD i 0) = _
    by_cases hlast : i = name.length
    · rw [hlast, List.getElem?_concat_length, List.getD_eq_getElem?_getD,
        List.getElem?_eq_none le_rfl]
      rfl
    · have hlt' : i < name.length := by omega
      rw [List.getElem?_append_left hlt', List.getD_eq_getElem?_getD,
        List.getElem?_eq_getElem hlt']
      rfl

/-- The structure holds the names of the record when the station name has room. -/
theorem readPeer_holds_iff :
    (readPeer bytes).Holds
        (Buffer.slice bytes 14 (bytes 13).toNat,
          Buffer.slice bytes (15 + (bytes 13).toNat) (bytes (14 + (bytes 13).toNat)).toNat) ↔
      (bytes (14 + (bytes 13).toNat)).toNat < 241 := by
  have hport : (bytes 13).toNat < 256 := (bytes 13).isLt
  have hlength (pos n : ℕ) : (Buffer.slice bytes pos n).length = n := Buffer.slice_length _ _ _
  have hportName := @holdsName_iff Connect.PNET_LLDP_PORT_ID_MAX_SIZE
    (Buffer.slice bytes 14 (bytes 13).toNat)
  have hstationName := @holdsName_iff Connect.PNET_STATION_NAME_MAX_SIZE
    (Buffer.slice bytes (15 + (bytes 13).toNat) (bytes (14 + (bytes 13).toNat)).toNat)
  rw [hlength] at hportName hstationName
  constructor
  · intro h
    exact hstationName.mp h.2.2.2
  · intro h
    exact ⟨(hlength _ _).symm, hportName.mpr hport, (hlength _ _).symm, hstationName.mpr h⟩

/-- A check that is taken over is the one of the record when that has no more than padding behind
its only peer, and a station name that has room. -/
theorem checkRecord_holds_iff (htype : join2 (bytes 6) (bytes 7) = Connect.PF_BT_CHECKPEERS)
    (hend : checkEnd bytes ≤ dataLength) :
    (∃ names, checkRecord bytes dataLength = some names ∧ (readPeer bytes).Holds names) ↔
      bytes 12 = 1 ∧ dataLength < checkEnd bytes + 4 ∧
        (bytes (14 + (bytes 13).toNat)).toNat < 241 := by
  constructor
  · rintro ⟨names, hrecord, hholds⟩
    unfold checkRecord at hrecord
    split at hrecord
    · rename_i h
      cases hrecord
      exact ⟨h.2.1, h.2.2.2, readPeer_holds_iff.mp hholds⟩
    · cases hrecord
  · rintro ⟨hone, hpadding, hstation⟩
    refine ⟨_, ?_, readPeer_holds_iff.mpr hstation⟩
    unfold checkRecord
    rw [if_pos ⟨htype, hone, hend, hpadding⟩]

end

/-! ## The adjustments -/

section
variable {bytes : ℕ → Byte} {dataLength : ℕ}

theorem exact_peerToPeerBoundary : Exact 8 getPeerToPeerBoundary :=
  (exact_getBytes 2).bind fun _ => exact_uint32.bind fun _ => exact_uint16.map _

theorem getPeerToPeerBoundary_ready (h : 20 ≤ dataLength) :
    getPeerToPeerBoundary (.ready bytes dataLength 12) =
      (⟨Connect.getFlag (join4 (bytes 14) (bytes 15) (bytes 16) (bytes 17)) 0 1,
        Connect.getFlag (join4 (bytes 14) (bytes 15) (bytes 16) (bytes 17)) 1 1,
        Connect.getFlag (join4 (bytes 14) (bytes 15) (bytes 16) (bytes 17)) 2 1,
        join2 (bytes 18) (bytes 19)⟩, .ready bytes dataLength 20) := by
  simp only [getPeerToPeerBoundary, bind_run, pure_run]
  rw [getBytes_ready (by omega), getUint32_ready (by omega), getUint16_ready (by omega)]

theorem getWriteDataAdj_run (r : Reader) :
    getWriteDataAdj r =
      if (Connect.getPortDataCheck r).1.blockHeader.blockType =
          Response.PF_BT_PEER_TO_PEER_BOUNDARY then
        (some (getPeerToPeerBoundary (Connect.getPortDataCheck r).2).1,
          (getPeerToPeerBoundary (Connect.getPortDataCheck r).2).2)
      else (none, (Connect.getPortDataCheck r).2) := by
  rw [getWriteDataAdj, bind_run]
  split
  · rw [bind_run, pure_run]
  · rw [pure_run]

/-- The adjustments are taken over when they are read without an error. -/
theorem writeDataAdj_eq (port : PortRecords) :
    writeDataAdj bytes dataLength port =
      if join2 (bytes 6) (bytes 7) = Response.PF_BT_PEER_TO_PEER_BOUNDARY ∧ 20 ≤ dataLength then
        (0, { port with
          adjustActive := true
          peerToPeerBoundary :=
            ⟨Connect.getFlag (join4 (bytes 14) (bytes 15) (bytes 16) (bytes 17)) 0 1,
              Connect.getFlag (join4 (bytes 14) (bytes 15) (bytes 16) (bytes 17)) 1 1,
              Connect.getFlag (join4 (bytes 14) (bytes 15) (bytes 16) (bytes 17)) 2 1,
              join2 (bytes 18) (bytes 19)⟩ })
      else (-1, port) := by
  unfold writeDataAdj
  rw [getWriteDataAdj_run]
  by_cases hheader : 12 ≤ dataLength
  · rcases @getPortDataCheck_ready bytes dataLength hheader with ⟨htype, hr⟩
    rw [htype, hr]
    by_cases hadjust : join2 (bytes 6) (bytes 7) = Response.PF_BT_PEER_TO_PEER_BOUNDARY
    · rw [if_pos hadjust]
      dsimp only
      by_cases hroom : 20 ≤ dataLength
      · rw [getPeerToPeerBoundary_ready hroom, if_pos ready_ok, if_pos ⟨hadjust, hroom⟩]
        rfl
      · have herr : (getPeerToPeerBoundary (.ready bytes dataLength 12)).2.info.result ≠
            .PF_PARSE_OK := exact_peerToPeerBoundary.errs_ready hheader (by omega)
        rw [if_neg herr, if_neg (fun h : _ ∧ _ => hroom h.2)]
    · rw [if_neg hadjust, if_neg (fun h : _ ∧ _ => hadjust h.1)]
      dsimp only
      rw [if_pos ready_ok]
      rfl
  · have herr : (Connect.getPortDataCheck (.ready bytes dataLength 0)).2.info.result ≠
        .PF_PARSE_OK := exact_portDataCheck.errs_ready (Nat.zero_le _) (by omega)
    have hno : ¬ (join2 (bytes 6) (bytes 7) = Response.PF_BT_PEER_TO_PEER_BOUNDARY ∧
        20 ≤ dataLength) := fun h => by omega
    rw [if_neg hno]
    by_cases hadjust : (Connect.getPortDataCheck
        (.ready bytes dataLength 0)).1.blockHeader.blockType = Response.PF_BT_PEER_TO_PEER_BOUNDARY
    · rw [if_pos hadjust]
      exact if_neg (exact_peerToPeerBoundary.keepsError _ herr)
    · rw [if_neg hadjust]
      exact if_neg herr

theorem getInterfaceAdjust_ready (h : 6 ≤ dataLength) :
    (getInterfaceAdjust (.ready bytes dataLength 0)).1 =
      if Connect.getFlag (join4 (bytes 2) (bytes 3) (bytes 4) (bytes 5)) 0 1 then
        .PF_LLDP_NAME_OF_DEVICE_MODE_STANDARD
      else .PF_LLDP_NAME_OF_DEVICE_MODE_LEGACY := by
  simp only [getInterfaceAdjust, bind_run, pure_run]
  rw [getBytes_ready (by omega), getUint32_ready (by omega)]

end

/-! ## A write -/

section
variable {index subslot : BitVec 16} {bytes : ℕ → Byte} {dataLength : ℕ} {store : PdRecords}

/-- A record for a port that is refused. -/
theorem pdportWriteReq_refused (hport : 0 < dapSubslotToLocalPort store.numberOfPorts subslot)
    (h : writePort index bytes dataLength
        (store.port (dapSubslotToLocalPort store.numberOfPorts subslot)) =
      (-1, store.port (dapSubslotToLocalPort store.numberOfPorts subslot))) :
    pdportWriteReq index subslot bytes dataLength store = (-1, store) := by
  have hret : (-1 : ℤ) ≠ 0 := by decide
  unfold pdportWriteReq
  dsimp only
  rw [if_pos hport, h, Function.update_eq_self]
  dsimp only
  rw [if_neg hret]

/-- A record for a port that is taken over. -/
theorem pdportWriteReq_stored {records : PortRecords}
    (hport : 0 < dapSubslotToLocalPort store.numberOfPorts subslot)
    (h : writePort index bytes dataLength
        (store.port (dapSubslotToLocalPort store.numberOfPorts subslot)) = (0, records)) :
    pdportWriteReq index subslot bytes dataLength store =
      (0, { store with
        port := Function.update store.port (dapSubslotToLocalPort store.numberOfPorts subslot)
          records
        saveJob := true }) := by
  unfold pdportWriteReq
  dsimp only
  rw [if_pos hport, h, if_pos rfl]

theorem pdLawful_of_refused (h : pdportWriteReq index subslot bytes dataLength store = (-1, store)) :
    PdLawful index subslot bytes dataLength store := by
  have hne : (-1 : ℤ) ≠ 0 := by decide
  unfold PdLawful
  rw [h]
  exact ⟨fun _ => rfl, fun hret => absurd hret hne⟩

theorem pdLawful_of_accepted {store' : PdRecords}
    (h : pdportWriteReq index subslot bytes dataLength store = (0, store')) :
    PdLawful index subslot bytes dataLength store ↔
      PdStored index subslot bytes dataLength store' := by
  unfold PdLawful
  rw [h]
  constructor
  · rintro ⟨_, hstored⟩
    exact hstored rfl
  · intro hstored
    exact ⟨fun hret => absurd rfl hret, fun _ => hstored⟩

theorem dataCheck_lawful_iff
    (hport : 0 < dapSubslotToLocalPort store.numberOfPorts subslot) :
    PdLawful PF_IDX_SUB_PDPORT_DATA_CHECK subslot bytes dataLength store ↔
      CheckKeeps bytes dataLength := by
  have hwrite : writePort PF_IDX_SUB_PDPORT_DATA_CHECK bytes dataLength
      (store.port (dapSubslotToLocalPort store.numberOfPorts subslot)) = _ :=
    (if_pos rfl).trans (writeDataCheck_eq _)
  by_cases htaken : join2 (bytes 6) (bytes 7) = Connect.PF_BT_CHECKPEERS ∧ bytes 12 ≠ 0 ∧
      checkEnd bytes ≤ dataLength
  · rw [if_pos htaken] at hwrite
    rw [pdLawful_of_accepted (pdportWriteReq_stored hport hwrite)]
    unfold PdStored CheckKeeps
    dsimp only
    rw [if_pos rfl, Function.update_self, ← checkRecord_holds_iff htaken.1 htaken.2.2]
    constructor
    · intro h _ _ _
      exact h.1
    · intro h
      exact ⟨h htaken.1 htaken.2.1 htaken.2.2, rfl, rfl⟩
  · rw [if_neg htaken] at hwrite
    constructor
    · intro _ htype hpeers hend
      exact absurd ⟨htype, hpeers, hend⟩ htaken
    · intro _
      exact pdLawful_of_refused (pdportWriteReq_refused hport hwrite)

theorem dataAdj_lawful_iff (hport : 0 < dapSubslotToLocalPort store.numberOfPorts subslot) :
    PdLawful PF_IDX_SUB_PDPORT_DATA_ADJ subslot bytes dataLength store ↔
      AdjustKeeps bytes dataLength := by
  have hwrite : writePort PF_IDX_SUB_PDPORT_DATA_ADJ bytes dataLength
      (store.port (dapSubslotToLocalPort store.numberOfPorts subslot)) = _ :=
    ((if_neg (by decide)).trans (if_pos rfl)).trans (writeDataAdj_eq _)
  by_cases htaken : join2 (bytes 6) (bytes 7) = Response.PF_BT_PEER_TO_PEER_BOUNDARY ∧
      20 ≤ dataLength
  · rw [if_pos htaken] at hwrite
    rw [pdLawful_of_accepted (pdportWriteReq_stored hport hwrite)]
    unfold PdStored AdjustKeeps adjustRecord
    dsimp only
    rw [if_neg (by decide), if_pos rfl, Function.update_self]
    by_cases hpadding : dataLength < 24
    · rw [if_pos ⟨htaken.1, htaken.2, hpadding⟩]
      exact iff_of_true ⟨rfl, rfl, rfl⟩ fun _ _ => hpadding
    · rw [if_neg fun h : _ ∧ _ ∧ _ => hpadding h.2.2]
      refine iff_of_false ?_ fun h => hpadding (h htaken.1 htaken.2)
      rintro ⟨h, _⟩
      cases h
  · rw [if_neg htaken] at hwrite
    constructor
    · intro _ htype hend
      exact absurd ⟨htype, hend⟩ htaken
    · intro _
      exact pdLawful_of_refused (pdportWriteReq_refused hport hwrite)

theorem interfaceAdj_lawful_iff
    (hport : ¬ 0 < dapSubslotToLocalPort store.numberOfPorts subslot) :
    PdLawful PF_IDX_SUB_PDINTF_ADJUST subslot bytes dataLength store ↔
      6 ≤ dataLength ∧ dataLength < 10 := by
  have hwrite : pdportWriteReq PF_IDX_SUB_PDINTF_ADJUST subslot bytes dataLength store =
      (0, { store with
        nameOfDevice := ⟨true, (getInterfaceAdjust (.ready bytes dataLength 0)).1⟩ }) :=
    (if_neg hport).trans (if_pos rfl)
  rw [pdLawful_of_accepted hwrite]
  unfold PdStored interfaceRecord
  dsimp only
  rw [if_neg (by decide), if_neg (by decide)]
  by_cases hlength : 6 ≤ dataLength ∧ dataLength < 10
  · rw [if_pos hlength, getInterfaceAdjust_ready hlength.1]
    exact iff_of_true ⟨rfl, rfl⟩ hlength
  · rw [if_neg hlength]
    refine iff_of_false ?_ hlength
    rintro ⟨h, _⟩
    cases h

end

/-- A write of a record about the ports leaves the records as they were when it is refused, and
stores the whole record when it is accepted, exactly when the record meets `PdKeeps`. -/
theorem pdportWriteReq_lawful_iff (index subslot : BitVec 16) (bytes : ℕ → Byte) (dataLength : ℕ)
    (store : PdRecords) :
    PdLawful index subslot bytes dataLength store ↔
      PdKeeps store.numberOfPorts index subslot bytes dataLength := by
  unfold PdKeeps
  by_cases hport : 0 < dapSubslotToLocalPort store.numberOfPorts subslot
  · rw [if_pos hport]
    by_cases hcheck : index = PF_IDX_SUB_PDPORT_DATA_CHECK
    · rw [hcheck, dataCheck_lawful_iff hport]
      exact ⟨fun h => ⟨fun _ => h, fun h' => absurd h' (by decide)⟩, fun h => h.1 rfl⟩
    by_cases hadj : index = PF_IDX_SUB_PDPORT_DATA_ADJ
    · rw [hadj, dataAdj_lawful_iff hport]
      exact ⟨fun h => ⟨fun h' => absurd h' (by decide), fun _ => h⟩, fun h => h.2 rfl⟩
    · refine iff_of_true ?_ ⟨fun h => absurd h hcheck, fun h => absurd h hadj⟩
      exact pdLawful_of_refused
        (pdportWriteReq_refused hport ((if_neg hcheck).trans (if_neg hadj)))
  · rw [if_neg hport]
    by_cases hintf : index = PF_IDX_SUB_PDINTF_ADJUST
    · rw [hintf, interfaceAdj_lawful_iff hport]
      exact ⟨fun h _ => h, fun h => h rfl⟩
    · refine iff_of_true ?_ fun h => absurd h hintf
      exact pdLawful_of_refused ((if_neg hport).trans (if_neg hintf))

end PNet.Pdport
