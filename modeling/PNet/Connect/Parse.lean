import PNet.Connect.Param
import PNet.Rpc.Write

/-! # Reading a connect request

The blocks of a connect request and `pf_cmrpc_rm_connect_interpret_ind`, which goes through them.
Here an array of the AR is a list without an end, so that the AR says what the request asks for.
-/

namespace PNet.Connect

open Block Rpc

/-! ## Loops and bytes -/

/-- `for (ix = 0; ix < n; ix++)`. -/
def getTimes {α : Type} (g : Get α) : ℕ → Get (List α)
  | 0 => pure []
  | n + 1 => do
    let v ← g
    let vs ← getTimes g n
    return v :: vs

/-- `pf_get_mem` of a length that comes from the input; `none` when nothing is copied. -/
def getBytes (n : ℕ) : Get (Option (List Byte)) := fun r =>
  if r.info.result ≠ .PF_PARSE_OK then (none, r)
  else if r.info.len < r.pos + n then (none, r.fail .PF_PARSE_END_OF_INPUT)
  else (some (Buffer.slice r.info.buf r.pos n), { r with pos := r.pos + n })

/-- `getBits` of a `uint16_t`. -/
def getBits16 (bits : BitVec 16) (pos len : ℕ) : BitVec 16 :=
  (getBits (bits.setWidth 32) pos len).setWidth 16

def getFlag (bits : BitVec 32) (pos len : ℕ) : Bool := getBits bits pos len ≠ 0

/-! ## The AR and its CRs -/

def PNET_STATION_NAME_MAX_SIZE : ℕ := 241

/-- `strlen`. -/
def strlen (name : List Byte) : ℕ := (name.takeWhile (· ≠ 0)).length

/-- The `ar_properties` of an AR block. -/
def arPropertiesOf (bits : BitVec 32) : ArProperties where
  state := (getBits bits 0 3).setWidth 16
  supervisorTakeoverAllowed := getFlag bits 3 1
  parameterizationServer := (getBits bits 4 1).setWidth 8
  deviceAccess := getFlag bits 8 1
  companionAr := (getBits bits 9 2).setWidth 16
  acknowledgeCompanionAr := getFlag bits 11 1
  combinedObjectContainer := getFlag bits 29 1
  startupMode := getFlag bits 30 1
  pullModuleAlarmAllowed := getFlag bits 31 1

/-- `pf_get_ar_param`. -/
def getArParam (dest : ArParam) : Get ArParam := do
  let arType ← getUint16
  let arUuid ← getUuid dest.arUuid
  let sessionKey ← getUint16
  let cmInitiatorMacAdd ← getMem dest.cmInitiatorMacAdd
  let cmInitiatorObjectUuid ← getUuid dest.cmInitiatorObjectUuid
  let properties ← getUint32
  let cmInitiatorActivityTimeoutFactor ← getUint16
  let cmInitiatorUdpRtPort ← getUint16
  let strLen ← getUint16
  -- a longer name is cut off
  let stored := min strLen.toNat (PNET_STATION_NAME_MAX_SIZE - 1)
  let name ← getBytes stored
  return {
    arType, arUuid, sessionKey, cmInitiatorMacAdd, cmInitiatorObjectUuid
    arProperties := arPropertiesOf properties
    cmInitiatorActivityTimeoutFactor, cmInitiatorUdpRtPort
    cmInitiatorStationNameLen := strLen
    cmInitiatorStationName := (name.getD dest.cmInitiatorStationName).take stored }

/-- `pf_get_frame_descriptor`. -/
def getFrameDescriptor : Get FrameDescriptor := do
  let slotNumber ← getUint16
  let subslotNumber ← getUint16
  let frameOffset ← getUint16
  return ⟨slotNumber, subslotNumber, frameOffset⟩

/-- `pf_get_iocr_api_entry`. -/
def getIocrApiEntry : Get ApiEntry := do
  let api ← getUint32
  let nbrIoData ← getUint16
  let ioData ← getTimes getFrameDescriptor nbrIoData.toNat
  let nbrIocs ← getUint16
  let iocs ← getTimes getFrameDescriptor nbrIocs.toNat
  return ⟨api, ioData, iocs⟩

/-- The `iocr_properties` of an IOCR block. -/
def iocrPropertiesOf (bits : BitVec 32) : IocrProperties where
  rtClass := getBits bits 0 4
  reserved1 := if getFlag bits 4 9 then 1 else 0
  reserved2 := if getFlag bits 13 11 then 1 else 0
  reserved3 := if getFlag bits 24 8 then 1 else 0

/-- `pf_get_iocr_param` up to the APIs, of which it answers the number. -/
def getIocrFixed : Get (IocrParam × ℕ) := do
  let iocrType ← getUint16
  let iocrReference ← getUint16
  let ltField ← getUint16
  let properties ← getUint32
  let cSduLength ← getUint16
  let frameId ← getUint16
  let sendClockFactor ← getUint16
  let reductionRatio ← getUint16
  let phase ← getUint16
  let sequence ← getUint16
  let frameSendOffset ← getUint32
  let watchdogFactor ← getUint16
  let dataHoldFactor ← getUint16
  let tagHeader ← getUint16
  let iocrMulticastMacAdd ← getMem (Vector.replicate 6 0)
  let nbrApis ← getUint16
  return ({
    iocrType, iocrReference, ltField
    iocrProperties := iocrPropertiesOf properties
    cSduLength, frameId, sendClockFactor, reductionRatio, phase, sequence, frameSendOffset
    watchdogFactor := watchdogFactor.setWidth 32
    dataHoldFactor
    iocrTagHeader := ⟨getBits16 tagHeader 0 11, getBits16 tagHeader 13 3⟩
    iocrMulticastMacAdd, apis := [] }, nbrApis.toNat)

/-- `pf_get_iocr_param`. -/
def getIocrParam : Get IocrParam := do
  let fixed ← getIocrFixed
  let apis ← getTimes getIocrApiEntry fixed.2
  return { fixed.1 with apis }

/-! ## The expected configuration -/

def getDataDescriptor : Get DataDescriptor := do
  let dataDirection ← getUint16
  let submoduleDataLength ← getUint16
  let lengthIocs ← getByte
  let lengthIops ← getByte
  return { dataDirection, submoduleDataLength, lengthIops, lengthIocs }

/-- The `submodule_properties` of an expected submodule. -/
def submodulePropertiesOf (bits : BitVec 16) : SubmoduleProperties where
  type := (getBits16 bits 0 2).setWidth 8
  sharedInput := getFlag (bits.setWidth 32) 2 1
  reduceInputSubmoduleDataLength := getFlag (bits.setWidth 32) 3 1
  reduceOutputSubmoduleDataLength := getFlag (bits.setWidth 32) 4 1
  discardIoxs := getFlag (bits.setWidth 32) 5 1

/-- `pf_get_exp_submodule`. -/
def getExpSubmodule : Get ExpSubmodule := do
  let subslotNumber ← getUint16
  let submoduleIdentNumber ← getUint32
  let properties ← getUint16
  let submoduleProperties := submodulePropertiesOf properties
  let first ← getDataDescriptor
  if submoduleProperties.type = PNET_DIR_IO then
    let second ← getDataDescriptor
    return ⟨subslotNumber, submoduleIdentNumber, submoduleProperties, [first, second]⟩
  else return ⟨subslotNumber, submoduleIdentNumber, submoduleProperties, [first]⟩

/-- What the loop of `pf_get_exp_api_module` works on: the APIs, each of which has got a module
and so is `valid`, and `p_api`. -/
structure ExpState where
  expApis : List ExpApi
  pApi : Option ℕ

/-- "Find the API if we are augmenting it"; a `p_api` of an earlier entry stays otherwise. -/
def findExpApi (expApis : List ExpApi) (api : BitVec 32) (pApi : Option ℕ) : Option ℕ :=
  (List.range expApis.length).foldl
    (fun p iy => if (expApis[iy]?).any (·.api = api) then some iy else p) pApi

/-- `p_api` for an entry: found, left over, or "allocate a new API". -/
def placeExpApi (st : ExpState) (api : BitVec 32) : ExpState :=
  let pApi := findExpApi st.expApis api st.pApi
  if pApi = none ∧ st.expApis.length < PNET_MAX_API then
    ⟨st.expApis ++ [⟨api, []⟩], some st.expApis.length⟩
  else ⟨st.expApis, pApi⟩

/-- How many modules the API at the index has. -/
def modulesAt (expApis : List ExpApi) (i : ℕ) : ℕ := (expApis[i]?).elim 0 (·.modules.length)

def addModule (expApis : List ExpApi) (i : ℕ) (m : ExpModule) : List ExpApi :=
  expApis.modify i fun a => { a with modules := a.modules ++ [m] }

/-- A module behind its slot number, up to its submodules, of which it answers the number. -/
def getExpModuleFixed (slotNumber : BitVec 16) : Get (ExpModule × ℕ) := do
  let moduleIdentNumber ← getUint32
  let moduleProperties ← getUint16
  let nbrSubmodules ← getUint16
  return (⟨slotNumber, moduleIdentNumber, moduleProperties, []⟩, nbrSubmodules.toNat)

def getExpModule (slotNumber : BitVec 16) : Get ExpModule := do
  let fixed ← getExpModuleFixed slotNumber
  let submodules ← getTimes getExpSubmodule fixed.2
  return { fixed.1 with submodules }

def failWith (e : GetResult) : Get Unit := fun r => ((), r.fail e)

/-- An entry behind its API: "get a new module". -/
def getExpSlot (placed : ExpState) : Get ExpState :=
  match placed.pApi with
  | none => do
    failWith .PF_PARSE_OUT_OF_API_RESOURCES
    return placed
  | some i => do
    let slotNumber ← getUint16
    if modulesAt placed.expApis i < PNET_MAX_SLOTS then
      let m ← getExpModule slotNumber
      return { placed with expApis := addModule placed.expApis i m }
    else
      failWith .PF_PARSE_OUT_OF_EXP_SUBMODULE_RESOURCES
      return placed

/-- One entry of `pf_get_exp_api_module`. -/
def getExpEntry (st : ExpState) : Get ExpState := do
  let api ← getUint32
  getExpSlot (placeExpApi st api)

/-- The loop of `pf_get_exp_api_module`. -/
def getExpEntries : ℕ → ExpState → Get ExpState
  | 0, st => pure st
  | n + 1, st => do
    let st ← getExpEntry st
    getExpEntries n st

/-- `pf_get_exp_api_module`. -/
def getExpApiModule (expApis : List ExpApi) : Get (List ExpApi) := do
  let nbrExpApi ← getUint16
  let st ← getExpEntries nbrExpApi.toNat ⟨expApis, none⟩
  return st.expApis

/-! ## The other blocks -/

/-- `pf_alarm_cr_tag_header_t`, whose `vlan_id` is a byte. -/
structure AlarmCrTagHeader where
  vlanId : Byte
  alarmUserPriority : Byte
deriving DecidableEq, Repr

/-- `pf_alarm_cr_request_t`. -/
structure AlarmCrRequest where
  alarmCrType : BitVec 32
  ltField : BitVec 16
  priority : Bool
  transportUdp : Bool
  rtaTimeoutFactor : BitVec 16
  rtaRetries : BitVec 16
  localAlarmReference : BitVec 16
  maxAlarmDataLength : BitVec 16
  alarmCrTagHeaderHigh : AlarmCrTagHeader
  alarmCrTagHeaderLow : AlarmCrTagHeader
deriving DecidableEq, Repr

def alarmCrTagHeaderOf (bits : BitVec 16) : AlarmCrTagHeader :=
  ⟨(getBits16 bits 0 12).setWidth 8, (getBits16 bits 13 3).setWidth 8⟩

/-- `pf_get_alarm_cr_request`. -/
def getAlarmCrRequest : Get AlarmCrRequest := do
  let alarmCrType ← getUint16
  let ltField ← getUint16
  let properties ← getUint32
  let rtaTimeoutFactor ← getUint16
  let rtaRetries ← getUint16
  let localAlarmReference ← getUint16
  let maxAlarmDataLength ← getUint16
  let high ← getUint16
  let low ← getUint16
  return {
    alarmCrType := alarmCrType.setWidth 32
    ltField
    priority := getFlag properties 0 1
    transportUdp := getFlag properties 1 1
    rtaTimeoutFactor, rtaRetries, localAlarmReference, maxAlarmDataLength
    alarmCrTagHeaderHigh := alarmCrTagHeaderOf high
    alarmCrTagHeaderLow := alarmCrTagHeaderOf low }

/-- `pf_prm_server_t`; a name is `none` when it could not be copied. -/
structure PrmServer where
  parameterServerObjectUuid : Uuid
  cmInitiatorActivityTimeoutFactor : BitVec 16
  parameterServerStationNameLen : BitVec 16
  parameterServerStationName : Option (List Byte)
deriving DecidableEq, Repr

/-- `pf_get_ar_prm_server_request`. -/
def getArPrmServerRequest : Get PrmServer := do
  let parameterServerObjectUuid ← getUuid zeroUuid
  let _ ← getUint32
  let cmInitiatorActivityTimeoutFactor ← getUint16
  let len ← getUint16
  let name ← getBytes len.toNat
  return ⟨parameterServerObjectUuid, cmInitiatorActivityTimeoutFactor, len, name⟩

/-- `pf_multicast_cr_t`. -/
structure MulticastCr where
  iocrReference : BitVec 16
  protocol : Byte
  resolutionFactor : Byte
  mciTimeoutFactor : BitVec 16
  lengthProviderStationName : BitVec 16
  providerStationName : Option (List Byte)
deriving DecidableEq, Repr

/-- `pf_get_mcr_request`. -/
def getMcrRequest : Get MulticastCr := do
  let iocrReference ← getUint16
  let protocol ← getByte
  let resolutionFactor ← getByte
  let mciTimeoutFactor ← getUint16
  let len ← getUint16
  let name ← getBytes len.toNat
  return ⟨iocrReference, protocol, resolutionFactor, mciTimeoutFactor, len, name⟩

/-- `pf_ar_vendor_request_t`. -/
structure ArVendorRequest where
  apStructureIdentifier : BitVec 32
  api : BitVec 32
  lengthDataRequest : BitVec 16
  dataRequest : Option (List Byte)
deriving DecidableEq, Repr

/-- `pf_get_ar_vendor_request`. -/
def getArVendorRequest : Get ArVendorRequest := do
  let apStructureIdentifier ← getUint32
  let api ← getUint32
  let len ← getUint16
  let data ← getBytes len.toNat
  return ⟨apStructureIdentifier, api, len, data⟩

/-- `pf_dfp_iocr_t`. -/
structure DfpIocr where
  iocrReference : BitVec 16
  subframeOffset : BitVec 16
  subframePosition : Byte
  subframeLength : Byte
deriving DecidableEq, Repr

/-- `pf_get_dfp_iocr`. -/
def getDfpIocr : Get DfpIocr := do
  let iocrReference ← getUint16
  let subframeOffset ← getUint16
  let subframePosition ← getByte
  let subframeLength ← getByte
  return ⟨iocrReference, subframeOffset, subframePosition, subframeLength⟩

/-- `pf_ir_info_t`. -/
structure IrInfo where
  irDataUuid : Uuid
  dfpIocrs : List DfpIocr
deriving DecidableEq, Repr

/-- `pf_get_ir_info_request`. -/
def getIrInfoRequest : Get IrInfo := do
  let irDataUuid ← getUuid zeroUuid
  let nbrIocrs ← getUint16
  let dfpIocrs ← getTimes getDfpIocr nbrIocrs.toNat
  return ⟨irDataUuid, dfpIocrs⟩

/-! ## The request -/

def PF_BT_AR_BLOCK_REQ : BitVec 16 := 0x0101
def PF_BT_IOCR_BLOCK_REQ : BitVec 16 := 0x0102
def PF_BT_ALARM_CR_BLOCK_REQ : BitVec 16 := 0x0103
def PF_BT_EXPECTED_SUBMODULE_BLOCK : BitVec 16 := 0x0104
def PF_BT_PRM_SERVER_REQ : BitVec 16 := 0x0105
def PF_BT_MCR_REQ : BitVec 16 := 0x0106
def PF_BT_RPC_SERVER_REQ : BitVec 16 := 0x0107
def PF_BT_AR_VENDOR_BLOCK_REQ : BitVec 16 := 0x0108
def PF_BT_IR_INFO_BLOCK_REQ : BitVec 16 := 0x0109

/-- The part of `pf_ar_t` that a connect request fills. An array is what has been put into it;
an IOCR that has been refused stays behind the `nbr_iocrs` ones. -/
structure AskedAr where
  nbrArParam : ℕ
  arParam : ArParam
  iocrs : List IocrParam
  nbrIocrs : ℕ
  inputCrCnt : ℕ
  outputCrCnt : ℕ
  mcrConsCnt : ℕ
  rtc3Present : Bool
  expApis : List ExpApi
  nbrAlarmCr : ℕ
  alarmCrRequest : Option AlarmCrRequest
  nbrPrmServer : ℕ
  prmServer : Option PrmServer
  nbrMcr : ℕ
  mcrRequest : List MulticastCr
  nbrRpcServer : ℕ
  /-- `initiator_rpc_server_port`. -/
  arRpcRequest : BitVec 16
  nbrArVendor : ℕ
  arVendorRequest : List ArVendorRequest
  nbrIrInfo : ℕ
  irInfo : Option IrInfo
deriving DecidableEq, Repr

def clearedArParam : ArParam where
  arType := 0
  arUuid := zeroUuid
  sessionKey := 0
  cmInitiatorMacAdd := Vector.replicate 6 0
  cmInitiatorObjectUuid := zeroUuid
  arProperties := arPropertiesOf 0
  cmInitiatorActivityTimeoutFactor := 0
  cmInitiatorUdpRtPort := 0
  cmInitiatorStationNameLen := 0
  cmInitiatorStationName := []

/-- An AR as `pf_ar_allocate` leaves it. -/
def allocatedAr : AskedAr :=
  ⟨0, clearedArParam, [], 0, 0, 0, 0, false, [], 0, none, 0, none, 0, [], 0, 0, 0, [], 0, none⟩

/-- What the loop of `pf_cmrpc_rm_connect_interpret_ind` works on. -/
structure ConnectState where
  ar : AskedAr
  stat : PnetResult
  reader : Reader
  /-- `ret == 0`. -/
  ok : Bool
  firstBlock : Bool

def connectError (stat : PnetResult) (code1 code2 : Byte) : PnetResult :=
  setError stat PNET_ERROR_CODE_CONNECT PNET_ERROR_DECODE_PNIO code1 code2

def ConnectState.refuse (st : ConnectState) (code1 code2 : Byte) : ConnectState :=
  { st with stat := connectError st.stat code1 code2, ok := false }

/-- `pf_check_block_header`; `count` counts a block that is right. -/
def ConnectState.checkBlockHeader (st : ConnectState) (blockLength : BitVec 16)
    (header : BlockHeader) (errCode1 : Byte) (count : AskedAr → AskedAr) : ConnectState :=
  if header.blockLength ≠ blockLength then st.refuse errCode1 PNET_ERROR_CODE_2_INVALID_BLOCK_LEN
  else if header.blockVersionHigh ≠ PNET_BLOCK_VERSION_HIGH then
    st.refuse errCode1 PNET_ERROR_CODE_2_INVALID_BLOCK_VERSION_HIGH
  else if header.blockVersionLow ≠ PNET_BLOCK_VERSION_LOW then
    st.refuse errCode1 PNET_ERROR_CODE_2_INVALID_BLOCK_VERSION_LOW
  else { st with ar := count st.ar }

/-- What all blocks but the first are followed by: they are not for a device access, and have the
length that has been read. -/
def ConnectState.closeBlock (st : ConnectState) (dataPos : ℕ) (header : BlockHeader)
    (errCode1 : Byte) (count : AskedAr → AskedAr) : ConnectState :=
  if st.ar.arParam.arProperties.deviceAccess then
    st.refuse PNET_ERROR_CODE_1_CMRPC PNET_ERROR_CODE_2_CMRPC_UNKNOWN_BLOCKS
  else st.checkBlockHeader (BitVec.ofNat 16 (st.reader.pos - dataPos + 2)) header errCode1 count

/-- The AR block. -/
def readArBlock (header : BlockHeader) (st : ConnectState) : ConnectState :=
  let (arParam, reader) := getArParam st.ar.arParam st.reader
  let st := { st with ar := { st.ar with arParam }, reader }
  if st.firstBlock = false then st.refuse PNET_ERROR_CODE_1_CONN_FAULTY_AR_BLOCK_REQ 0
  else
    st.checkBlockHeader (BitVec.ofNat 16 (54 + strlen arParam.cmInitiatorStationName)) header
      PNET_ERROR_CODE_1_CONN_FAULTY_AR_BLOCK_REQ
      fun ar => { ar with nbrArParam := ar.nbrArParam + 1 }

/-- "Count the types for error discovery". -/
def countIocr (p : IocrParam) (ar : AskedAr) : AskedAr :=
  { ar with
    inputCrCnt := ar.inputCrCnt + if p.iocrType = PF_IOCR_TYPE_INPUT then 1 else 0
    outputCrCnt := ar.outputCrCnt + if p.iocrType = PF_IOCR_TYPE_OUTPUT then 1 else 0
    mcrConsCnt := ar.mcrConsCnt + if p.iocrType = PF_IOCR_TYPE_MC_CONSUMER then 1 else 0
    rtc3Present := ar.rtc3Present || p.iocrProperties.rtClass = PF_RT_CLASS_3 }

/-- An IOCR block. -/
def readIocrBlock (header : BlockHeader) (st : ConnectState) : ConnectState :=
  if st.ar.nbrIocrs < PNET_MAX_CR then
    let (param, reader) := getIocrParam st.reader
    let ar := countIocr param { st.ar with iocrs := st.ar.iocrs ++ [param] }
    ConnectState.closeBlock { st with ar, reader } st.reader.pos header
      PNET_ERROR_CODE_1_CONN_FAULTY_IOCR_BLOCK_REQ
      fun ar => { ar with nbrIocrs := ar.nbrIocrs + 1 }
  else st.refuse PNET_ERROR_CODE_1_CMRPC PNET_ERROR_CODE_2_CMRPC_WRONG_BLOCK_COUNT

/-- A block of the expected configuration. -/
def readExpBlock (header : BlockHeader) (st : ConnectState) : ConnectState :=
  let (expApis, reader) := getExpApiModule st.ar.expApis st.reader
  let st' := { st with ar := { st.ar with expApis }, reader }
  match reader.info.result with
  | .PF_PARSE_OK =>
    st'.closeBlock st.reader.pos header PNET_ERROR_CODE_1_CONN_FAULTY_EXP_BLOCK_REQ id
  | .PF_PARSE_END_OF_INPUT | .PF_PARSE_OUT_OF_API_RESOURCES
  | .PF_PARSE_OUT_OF_EXP_SUBMODULE_RESOURCES =>
    st'.refuse PNET_ERROR_CODE_1_CMRPC PNET_ERROR_CODE_2_CMRPC_OUT_OF_MEMORY
  | .PF_PARSE_NULL_POINTER | .PF_PARSE_ERROR =>
    st'.refuse PNET_ERROR_CODE_1_CMRPC PNET_ERROR_CODE_2_CMRPC_UNKNOWN_BLOCKS

/-- A block that only has to be read, checked and counted. -/
def readPlainBlock {α : Type} (get : Get α) (put : α → AskedAr → AskedAr) (errCode1 : Byte)
    (count : AskedAr → AskedAr) (header : BlockHeader) (st : ConnectState) : ConnectState :=
  let (v, reader) := get st.reader
  ConnectState.closeBlock { st with ar := put v st.ar, reader } st.reader.pos header errCode1 count

def readAlarmCrBlock : BlockHeader → ConnectState → ConnectState :=
  readPlainBlock getAlarmCrRequest (fun v ar => { ar with alarmCrRequest := some v })
    PNET_ERROR_CODE_1_CONN_FAULTY_ALARM_BLOCK_REQ
    fun ar => { ar with nbrAlarmCr := ar.nbrAlarmCr + 1 }

def readPrmServerBlock : BlockHeader → ConnectState → ConnectState :=
  readPlainBlock getArPrmServerRequest (fun v ar => { ar with prmServer := some v })
    PNET_ERROR_CODE_1_CONN_FAULTY_PRM_SERVER_BLOCK_REQ
    fun ar => { ar with nbrPrmServer := ar.nbrPrmServer + 1 }

def readMcrBlock : BlockHeader → ConnectState → ConnectState :=
  readPlainBlock getMcrRequest (fun v ar => { ar with mcrRequest := ar.mcrRequest ++ [v] })
    PNET_ERROR_CODE_1_CONN_FAULTY_MCR_BLOCK_REQ
    fun ar => { ar with nbrMcr := ar.nbrMcr + 1 }

def readRpcServerBlock : BlockHeader → ConnectState → ConnectState :=
  readPlainBlock getUint16 (fun v ar => { ar with arRpcRequest := v })
    PNET_ERROR_CODE_1_CONN_FAULTY_AR_RPC_BLOCK_REQ
    fun ar => { ar with nbrRpcServer := ar.nbrRpcServer + 1 }

def readArVendorBlock : BlockHeader → ConnectState → ConnectState :=
  readPlainBlock getArVendorRequest
    (fun v ar => { ar with arVendorRequest := ar.arVendorRequest ++ [v] })
    PNET_ERROR_CODE_1_CONN_FAULTY_FAULTY_RECORD
    fun ar => { ar with nbrArVendor := ar.nbrArVendor + 1 }

def readIrInfoBlock : BlockHeader → ConnectState → ConnectState :=
  readPlainBlock getIrInfoRequest (fun v ar => { ar with irInfo := some v })
    PNET_ERROR_CODE_1_CONN_FAULTY_IR_INFO
    fun ar => { ar with nbrIrInfo := ar.nbrIrInfo + 1 }

/-- The `switch` over the block types. -/
def readBlock (header : BlockHeader) (st : ConnectState) : ConnectState :=
  if header.blockType = PF_BT_AR_BLOCK_REQ then readArBlock header st
  else if header.blockType = PF_BT_IOCR_BLOCK_REQ then readIocrBlock header st
  else if header.blockType = PF_BT_EXPECTED_SUBMODULE_BLOCK then readExpBlock header st
  else if header.blockType = PF_BT_ALARM_CR_BLOCK_REQ then readAlarmCrBlock header st
  else if header.blockType = PF_BT_PRM_SERVER_REQ then readPrmServerBlock header st
  else if header.blockType = PF_BT_MCR_REQ then readMcrBlock header st
  else if header.blockType = PF_BT_RPC_SERVER_REQ then readRpcServerBlock header st
  else if header.blockType = PF_BT_AR_VENDOR_BLOCK_REQ then readArVendorBlock header st
  else if header.blockType = PF_BT_IR_INFO_BLOCK_REQ then readIrInfoBlock header st
  else st.refuse PNET_ERROR_CODE_1_CMRPC PNET_ERROR_CODE_2_CMRPC_UNKNOWN_BLOCKS

/-- A block that has been read: its header, and the state behind the header. -/
structure BlockRead where
  header : BlockHeader
  state : ConnectState

/-- The loop of `pf_cmrpc_rm_connect_interpret_ind`, `fuel` turns of it; the flag tells that it has
come to its end. -/
def connectBlocks : ℕ → ConnectState → List BlockRead × ConnectState × Bool
  | 0, st => ([], st, false)
  | fuel + 1, st =>
    if st.ok ∧ st.reader.info.result = .PF_PARSE_OK ∧
        st.reader.pos + blockHeaderSize ≤ st.reader.info.len then
      let (header, reader) := getBlockHeader st.reader
      let st := { st with reader }
      if blockFits header reader then
        let (blocks, out, returned) :=
          connectBlocks fuel { readBlock header st with firstBlock := false }
        (⟨header, st⟩ :: blocks, out, returned)
      else
        ([], st.refuse PNET_ERROR_CODE_1_CMRPC PNET_ERROR_CODE_2_CMRPC_UNKNOWN_BLOCKS, true)
    else ([], st, true)

/-- `pf_cmrpc_rm_connect_interpret_ind`. A block takes its header at least, so that there are not
more turns than bytes. -/
def rmConnectInterpretInd (argsLength : BitVec 32) (stat : PnetResult) (start : Reader) :
    List BlockRead × ConnectState :=
  let (blocks, st, _) := connectBlocks (start.info.len + 1) ⟨allocatedAr, stat, start, true, true⟩
  let wrongLength := st.refuse PNET_ERROR_CODE_1_CMRPC PNET_ERROR_CODE_2_CMRPC_ARGSLENGTH_INVALID
  if st.ok = false then (blocks, st)
  else if st.reader.info.result ≠ .PF_PARSE_OK then (blocks, wrongLength)
  else if st.reader.pos ≠ st.reader.info.len then (blocks, wrongLength)
  else if BitVec.ofInt 32 ((st.reader.pos : ℤ) - start.pos) ≠ argsLength then (blocks, wrongLength)
  else (blocks, st)

end PNet.Connect
