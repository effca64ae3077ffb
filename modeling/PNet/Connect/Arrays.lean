import PNet.Connect.Parse

/-! # The arrays behind a request

The block readers once more, with what they store: `Event` is an element put into an array of the
AR, or the count beside it. A reader reads what the getter without arrays reads (`Fills`), and the
elements that it stores are those of the list that the getter answers.

Counts come from the request. The readers look at the size of some arrays before they store
(`exp_apis`, `modules`), and of others they do not.
-/

namespace PNet.Connect

open Block Rpc

/-! ## Data -/

def PF_CHECK_PEERS_PER_PORT : ℕ := 1
def PNET_PORT_NAME_MAX_SIZE : ℕ := 15
def PNET_LLDP_PORT_ID_MAX_SIZE : ℕ := PNET_STATION_NAME_MAX_SIZE + PNET_PORT_NAME_MAX_SIZE

/-- An array, with the indices of what it is in: `ioData cr api` is
`iocrs[cr].param.apis[api].io_data`. -/
inductive ArrayRef where
  | iocrs
  | crApis (cr : ℕ)
  | ioData (cr api : ℕ)
  | iocs (cr api : ℕ)
  | expApis
  | modules (api : ℕ)
  | submodules (api module : ℕ)
  | dataDescriptor (api module submodule : ℕ)
  | peers
  | peerPortName (peer : ℕ)
  | peerStationName (peer : ℕ)
deriving DecidableEq, Repr

/-- The declared size. -/
def ArrayRef.size : ArrayRef → ℕ
  | iocrs => PNET_MAX_CR
  | crApis _ => PNET_MAX_API
  | ioData _ _ | iocs _ _ => PNET_MAX_SLOTS * PNET_MAX_SUBSLOTS
  | expApis => PNET_MAX_API
  | modules _ => PNET_MAX_SLOTS
  | submodules _ _ => PNET_MAX_SUBSLOTS
  | dataDescriptor _ _ _ => 2
  | peers => PF_CHECK_PEERS_PER_PORT
  | peerPortName _ => PNET_LLDP_PORT_ID_MAX_SIZE
  | peerStationName _ => PNET_STATION_NAME_MAX_SIZE

inductive Event where
  /-- An element is stored, or the terminator of a string. -/
  | store (a : ArrayRef) (ix : ℕ)
  /-- The count of the array gets this value. -/
  | count (a : ArrayRef) (n : ℕ)
deriving DecidableEq, Repr

/-- The index is below the declared size. -/
def Event.InBounds : Event → Prop
  | store a ix => ix < a.size
  | count _ _ => True

structure FillState where
  reader : Reader
  trace : List Event

/-- A reader that stores what it reads. -/
abbrev Fill := StateM FillState

def read {α : Type} (g : Get α) : Fill α := fun s =>
  ((g s.reader).1, { s with reader := (g s.reader).2 })

def note (es : List Event) : Fill Unit := fun s => ((), { s with trace := s.trace ++ es })

/-- `for (; ix < end; ix++)` with `n` turns left, each of which stores an element. -/
def fillTimes {α : Type} (a : ArrayRef) (g : ℕ → Fill α) : ℕ → ℕ → Fill (List α)
  | 0, _ => pure []
  | n + 1, ix => do
    note [.store a ix]
    let v ← g ix
    let vs ← fillTimes a g n (ix + 1)
    return v :: vs

/-! ## The readers of a connect request -/

/-- `pf_get_iocr_api_entry`. -/
def fillIocrApiEntry (cr iy : ℕ) : Fill ApiEntry := do
  let api ← read getUint32
  let nbrIoData ← read getUint16
  note [.count (.ioData cr iy) nbrIoData.toNat]
  let ioData ← fillTimes (.ioData cr iy) (fun _ => read getFrameDescriptor) nbrIoData.toNat 0
  let nbrIocs ← read getUint16
  note [.count (.iocs cr iy) nbrIocs.toNat]
  let iocs ← fillTimes (.iocs cr iy) (fun _ => read getFrameDescriptor) nbrIocs.toNat 0
  return ⟨api, ioData, iocs⟩

/-- `pf_get_iocr_param`. -/
def fillIocrParam (ix : ℕ) : Fill IocrParam := do
  note [.store .iocrs ix]
  let fixed ← read getIocrFixed
  note [.count (.crApis ix) fixed.2]
  let apis ← fillTimes (.crApis ix) (fillIocrApiEntry ix) fixed.2 0
  return { fixed.1 with apis }

/-- `pf_get_exp_submodule`. -/
def fillExpSubmodule (api module ix : ℕ) : Fill ExpSubmodule := do
  let subslotNumber ← read getUint16
  let submoduleIdentNumber ← read getUint32
  let properties ← read getUint16
  let submoduleProperties := submodulePropertiesOf properties
  note [.store (.dataDescriptor api module ix) 0]
  let first ← read getDataDescriptor
  note [.count (.dataDescriptor api module ix) 1]
  if submoduleProperties.type = PNET_DIR_IO then
    note [.store (.dataDescriptor api module ix) 1]
    let second ← read getDataDescriptor
    note [.count (.dataDescriptor api module ix) 2]
    return ⟨subslotNumber, submoduleIdentNumber, submoduleProperties, [first, second]⟩
  else return ⟨subslotNumber, submoduleIdentNumber, submoduleProperties, [first]⟩

/-- "Get a new module", `module` of the API `api`. -/
def fillExpModule (api module : ℕ) (slotNumber : BitVec 16) : Fill ExpModule := do
  note [.store (.modules api) module]
  note [.count (.modules api) (module + 1)]
  let fixed ← read (getExpModuleFixed slotNumber)
  note [.count (.submodules api module) fixed.2]
  let submodules ← fillTimes (.submodules api module) (fillExpSubmodule api module) fixed.2 0
  return { fixed.1 with submodules }

/-- What is stored for an entry: "allocate a new API". -/
def placeEvents (st : ExpState) (api : BitVec 32) : List Event :=
  if findExpApi st.expApis api st.pApi = none ∧ st.expApis.length < PNET_MAX_API then
    [.store .expApis st.expApis.length, .count .expApis (st.expApis.length + 1),
      .count (.modules st.expApis.length) 0]
  else []

/-- An entry behind its API: "get a new module". -/
def fillExpSlot (placed : ExpState) : Fill ExpState :=
  match placed.pApi with
  | none => do
    read (failWith .PF_PARSE_OUT_OF_API_RESOURCES)
    return placed
  | some i => do
    let slotNumber ← read getUint16
    if modulesAt placed.expApis i < PNET_MAX_SLOTS then
      let m ← fillExpModule i (modulesAt placed.expApis i) slotNumber
      return { placed with expApis := addModule placed.expApis i m }
    else
      read (failWith .PF_PARSE_OUT_OF_EXP_SUBMODULE_RESOURCES)
      return placed

/-- One entry of `pf_get_exp_api_module`. -/
def fillExpEntry (st : ExpState) : Fill ExpState := do
  let api ← read getUint32
  note (placeEvents st api)
  fillExpSlot (placeExpApi st api)

/-- The loop of `pf_get_exp_api_module`. -/
def fillExpEntries : ℕ → ExpState → Fill ExpState
  | 0, st => pure st
  | n + 1, st => do
    let st ← fillExpEntry st
    fillExpEntries n st

/-- `pf_get_exp_api_module`. -/
def fillExpApiModule (expApis : List ExpApi) : Fill (List ExpApi) := do
  let nbrExpApi ← read getUint16
  let st ← fillExpEntries nbrExpApi.toNat ⟨expApis, none⟩
  return st.expApis

/-- What a block of the request stores in the arrays. -/
def BlockRead.trace (b : BlockRead) : List Event :=
  let ar := b.state.ar
  if b.header.blockType = PF_BT_IOCR_BLOCK_REQ then
    if ar.nbrIocrs < PNET_MAX_CR then (fillIocrParam ar.nbrIocrs ⟨b.state.reader, []⟩).2.trace
    else []
  else if b.header.blockType = PF_BT_EXPECTED_SUBMODULE_BLOCK then
    (fillExpApiModule ar.expApis ⟨b.state.reader, []⟩).2.trace
  else []

/-- What a connect request stores in the arrays. -/
def connectTrace (argsLength : BitVec 32) (stat : PnetResult) (start : Reader) : List Event :=
  (rmConnectInterpretInd argsLength stat start).1.flatMap BlockRead.trace

/-! ## The readers of a check of the port -/

def PF_BT_CHECKPEERS : BitVec 16 := 0x020a

/-- `pf_port_data_check_t`. -/
structure PortDataCheck where
  slotNumber : BitVec 16
  subslotNumber : BitVec 16
  blockHeader : BlockHeader
deriving DecidableEq, Repr

/-- `pf_get_port_data_check`. -/
def getPortDataCheck : Get PortDataCheck := do
  let _ ← getBytes 2
  let slotNumber ← getUint16
  let subslotNumber ← getUint16
  let blockHeader ← getBlockHeader
  return ⟨slotNumber, subslotNumber, blockHeader⟩

/-- `pf_check_peer_t`; a name is `none` when it could not be copied. -/
structure CheckPeer where
  lengthPeerPortName : Byte
  peerPortName : Option (List Byte)
  lengthPeerStationName : Byte
  peerStationName : Option (List Byte)
deriving DecidableEq, Repr

/-- `get_check_peer`. -/
def getCheckPeer : Get CheckPeer := do
  let lengthPeerPortName ← getByte
  let peerPortName ← getBytes lengthPeerPortName.toNat
  let lengthPeerStationName ← getByte
  let peerStationName ← getBytes lengthPeerStationName.toNat
  return ⟨lengthPeerPortName, peerPortName, lengthPeerStationName, peerStationName⟩

/-- `pf_get_port_data_check_check_peers`; more peers than `maxPeers` are left out. -/
def getCheckPeers (maxPeers : ℕ) : Get (List CheckPeer) := do
  let numberOfPeers ← getByte
  getTimes getCheckPeer (min numberOfPeers.toNat maxPeers)

/-- The part of `pf_pdport_write_data_check` that reads. -/
def getWriteDataCheck : Get (Option (List CheckPeer)) := do
  let check ← getPortDataCheck
  if check.blockHeader.blockType = PF_BT_CHECKPEERS then
    let peers ← getCheckPeers PF_CHECK_PEERS_PER_PORT
    return some peers
  else return none

/-- A name behind its length, as `pf_get_mem` stores it, and its terminator. -/
def fillName (a : ArrayRef) : Fill (Byte × Option (List Byte)) := do
  let length ← read getByte
  note [.count a length.toNat]
  let name ← read (getBytes length.toNat)
  note ((List.range (name.elim 0 List.length)).map (.store a))
  note [.store a length.toNat]
  return (length, name)

/-- `get_check_peer`. -/
def fillCheckPeer (i : ℕ) : Fill CheckPeer := do
  let port ← fillName (.peerPortName i)
  let station ← fillName (.peerStationName i)
  return ⟨port.1, port.2, station.1, station.2⟩

/-- `pf_get_port_data_check_check_peers`. -/
def fillCheckPeers (maxPeers : ℕ) : Fill (List CheckPeer) := do
  let numberOfPeers ← read getByte
  let number := min numberOfPeers.toNat maxPeers
  note [.count .peers number]
  fillTimes .peers fillCheckPeer number 0

/-- The part of `pf_pdport_write_data_check` that reads. -/
def fillWriteDataCheck : Fill (Option (List CheckPeer)) := do
  let check ← read getPortDataCheck
  if check.blockHeader.blockType = PF_BT_CHECKPEERS then
    let peers ← fillCheckPeers PF_CHECK_PEERS_PER_PORT
    return some peers
  else return none

/-- The input of `pf_pdport_write_data_check`. -/
def recordReader (bytes : ℕ → Byte) (dataLength : ℕ) : Reader :=
  ⟨⟨.PF_PARSE_OK, true, bytes, dataLength⟩, 0⟩

/-- What a record stores in the arrays. -/
def recordTrace (bytes : ℕ → Byte) (dataLength : ℕ) : List Event :=
  (fillWriteDataCheck ⟨recordReader bytes dataLength, []⟩).2.trace

end PNet.Connect
