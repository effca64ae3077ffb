import PNet.Block.Writer
import PNet.Options

/-! # Name and address of the device

`pf_cmina.c`: the current and the permanent DCP data, what a DCP Set and a reset do to them, and
the state machine. An IP address is a number in host byte order, a name is the characters before
its terminator.
-/

namespace PNet.Cmina

/-! ## DCP options -/

def PF_DCP_OPT_IP : Byte := 1
def PF_DCP_OPT_DEVICE_PROPERTIES : Byte := 2
def PF_DCP_OPT_DHCP : Byte := 3
def PF_DCP_OPT_CONTROL : Byte := 5
def PF_DCP_OPT_DEVICE_INITIATIVE : Byte := 6
def PF_DCP_OPT_ALL : Byte := 0xFF

def PF_DCP_SUB_ALL : Byte := 0xFF

def PF_DCP_SUB_IP_MAC : Byte := 1
def PF_DCP_SUB_IP_PAR : Byte := 2
def PF_DCP_SUB_IP_SUITE : Byte := 3

def PF_DCP_SUB_DEV_PROP_VENDOR : Byte := 1
def PF_DCP_SUB_DEV_PROP_NAME : Byte := 2
def PF_DCP_SUB_DEV_PROP_ID : Byte := 3
def PF_DCP_SUB_DEV_PROP_ROLE : Byte := 4
def PF_DCP_SUB_DEV_PROP_OPTIONS : Byte := 5
def PF_DCP_SUB_DEV_PROP_ALIAS : Byte := 6
def PF_DCP_SUB_DEV_PROP_INSTANCE : Byte := 7
def PF_DCP_SUB_DEV_PROP_OEM_ID : Byte := 8
def PF_DCP_SUB_DEV_PROP_GATEWAY : Byte := 9

def PF_DCP_SUB_CONTROL_START : Byte := 1
def PF_DCP_SUB_CONTROL_STOP : Byte := 2
def PF_DCP_SUB_CONTROL_SIGNAL : Byte := 3
def PF_DCP_SUB_CONTROL_RESPONSE : Byte := 4
def PF_DCP_SUB_CONTROL_FACTORY_RESET : Byte := 5
def PF_DCP_SUB_CONTROL_RESET_TO_FACTORY : Byte := 6

def PF_DCP_SUB_DEV_INITIATIVE_SUPPORT : Byte := 1

def PF_DCP_BLOCK_ERROR_NO_ERROR : Byte := 0
def PF_DCP_BLOCK_ERROR_OPTION_NOT_SUPPORTED : Byte := 1
def PF_DCP_BLOCK_ERROR_SUBOPTION_NOT_SUPPORTED : Byte := 2
def PF_DCP_BLOCK_ERROR_SUBOPTION_NOT_SET : Byte := 3

/-! ## Data -/

/-- With the terminator. -/
def PNET_STATION_NAME_MAX_SIZE : ℕ := 241

/-- Without the terminator. -/
def PNET_PRODUCT_NAME_MAX_LEN : ℕ := 25

/-- `pf_ip_suite_t`. -/
structure IpSuite where
  ipAddr : BitVec 32
  ipMask : BitVec 32
  ipGateway : BitVec 32
deriving DecidableEq, Repr

/-- `pf_full_ip_suite_t`. -/
structure FullIpSuite where
  ipSuite : IpSuite
  dnsAddr : List (BitVec 32)
deriving DecidableEq, Repr

/-- `pnet_cfg_device_id_t`. -/
structure DeviceId where
  vendorIdHi : Byte
  vendorIdLo : Byte
  deviceIdHi : Byte
  deviceIdLo : Byte
deriving DecidableEq, Repr

/-- `pf_cmina_dcp_ase_t`. -/
structure DcpAse where
  stationName : List Byte
  productName : List Byte
  deviceRole : Byte
  deviceInitiative : BitVec 16
  instanceIdHigh : Byte
  instanceIdLow : Byte
  deviceId : DeviceId
  oemDeviceId : DeviceId
  macAddress : List Byte
  standardGwValue : BitVec 16
  dhcpEnable : Bool
  fullIpSuite : FullIpSuite
deriving DecidableEq, Repr

/-- `pf_cmina_state_values_t`. -/
inductive CminaState where
  | PF_CMINA_STATE_SETUP
  | PF_CMINA_STATE_SET_NAME
  | PF_CMINA_STATE_SET_IP
  | PF_CMINA_STATE_W_CONNECT
deriving DecidableEq, Repr

/-- An AR, as far as it is aborted here. -/
structure Ar where
  inUse : Bool
  errCls : Byte
  errCode : Byte
deriving DecidableEq, Repr

/-- The user configuration, and what an abort does to the ARs: `stateInd ix ars` is
`pf_cmdev_state_ind` for the AR `ix`, with `PNET_EVENT_ABORT`. -/
structure Env where
  sendHello : Bool
  deviceId : DeviceId
  oemDeviceId : DeviceId
  stationName : List Byte
  productName : List Byte
  ipCfg : IpSuite
  dhcpEnable : Bool
  macAddress : List Byte
  stateInd : ℕ → (ℕ → Ar) → ℕ → Ar

/-- The CMINA part of `pnet_t`, the file with the IP settings (`none` when it cannot be loaded),
and the request to save it. -/
structure Net where
  nonvolatile : DcpAse
  current : DcpAse
  state : CminaState
  errorDecode : Byte
  errorCode1 : Byte
  helloCount : ℕ
  /-- The Hello timer is running. -/
  helloTimeout : Bool
  commitIpSuite : Bool
  file : Option DcpAse
  saveAseNvmData : Bool
  ars : ℕ → Ar

/-! ## Valid values -/

def isNetmaskValid (netmask : BitVec 32) : Bool := netmask &&& (~~~netmask >>> 1) = 0

def isIpAddressValid (netmask ip : BitVec 32) : Bool :=
  let hostPart := ip &&& ~~~netmask
  if netmask = 0 ∧ ip = 0 then true
  else if isNetmaskValid netmask = false then false
  else if hostPart = 0 ∨ hostPart = ~~~netmask then false
  else if ip ≤ 0x00FFFFFF then false
  else if 0x7F000000 ≤ ip ∧ ip ≤ 0x7FFFFFFF then false
  else if 0xE0000000 ≤ ip ∧ ip ≤ 0xEFFFFFFF then false
  else if 0xF0000000 ≤ ip ∧ ip ≤ 0xFFFFFFFF then false
  else true

def isGatewayValid (ip netmask gateway : BitVec 32) : Bool :=
  ¬ (gateway ≠ 0 ∧ ip &&& netmask ≠ gateway &&& netmask)

def isIpsuiteValid (x : IpSuite) : Bool :=
  isNetmaskValid x.ipMask ∧ isIpAddressValid x.ipMask x.ipAddr ∧
    isGatewayValid x.ipAddr x.ipMask x.ipGateway

def isDigit (c : Byte) : Bool := 0x30 ≤ c ∧ c ≤ 0x39

def isLower (c : Byte) : Bool := 0x61 ≤ c ∧ c ≤ 0x7A

def hyphen : Byte := 0x2D
def dot : Byte := 0x2E

/-- The characters of `port-`. -/
def portPrefix : List Byte := [0x70, 0x6F, 0x72, 0x74, 0x2D]

/-- The variables of the loop over a name. -/
structure NameScan where
  labelOffset : ℕ
  prev : Byte
  labels : ℕ
  nonDigit : ℕ

/-- One character; `none` when the name is refused. -/
def scanChar (st : NameScan) (c : Byte) : Option NameScan :=
  if c = dot then
    if st.prev = hyphen then none
    else some { st with labels := st.labels + 1, labelOffset := 0, prev := c }
  else if ¬ (isLower c ∨ isDigit c ∨ c = hyphen) then none
  else if st.labelOffset = 0 ∧ c = hyphen then none
  else if 63 ≤ st.labelOffset then none
  else
    some { st with
      nonDigit := if isDigit c then st.nonDigit else st.nonDigit + 1
      labelOffset := st.labelOffset + 1
      prev := c }

/-- `pf_cmina_is_stationname_valid`. -/
def isStationnameValid (name : List Byte) : Bool :=
  if name = [] then true
  else if name.head? = some hyphen ∨ PNET_STATION_NAME_MAX_SIZE ≤ name.length then false
  else if name.take 5 = portPrefix ∧ (name.length = 8 ∨ name.length = 14) ∧
      (name.drop 5).all (fun c => isDigit c ∨ c = hyphen) then false
  else
    match name.foldlM scanChar ⟨0, 0x61, 1, 0⟩ with
    | none => false
    | some st => ¬ (st.labels = 4 ∧ st.nonDigit = 0) ∧ st.prev ≠ hyphen

/-! ## Defaults -/

def IpSuite.zero : IpSuite := ⟨0, 0, 0⟩

/-- Some part of the suite is set. -/
def IpSuite.isSet (x : IpSuite) : Bool := x.ipAddr ≠ 0 ∨ x.ipMask ≠ 0 ∨ x.ipGateway ≠ 0

namespace DcpAse

def ipSuite (x : DcpAse) : IpSuite := x.fullIpSuite.ipSuite

def withIpSuite (x : DcpAse) (ipSuite : IpSuite) : DcpAse :=
  { x with fullIpSuite := { x.fullIpSuite with ipSuite } }

end DcpAse

/-- `pf_cmina_set_default_cfg`, which has a configuration and so returns 0. The loop that removes
trailing spaces of the product name begins at its terminator and removes none. -/
def setDefaultCfg (env : Env) (net : Net) (resetMode : BitVec 16) : ℤ × Net :=
  let ase := { net.nonvolatile with
    deviceInitiative := if env.sendHello then 1 else 0
    deviceRole := 1
    macAddress := env.macAddress
    deviceId := env.deviceId
    oemDeviceId := env.oemDeviceId
    dhcpEnable := env.dhcpEnable }
  let ase :=
    if resetMode = 0 then
      match net.file with
      | some fileAse => { ase.withIpSuite fileAse.ipSuite with stationName := fileAse.stationName }
      | none => { ase.withIpSuite env.ipCfg with stationName := env.stationName }
    else ase
  let clear : Bool := resetMode = 2 ∨ 3 ≤ resetMode
  let ase := if clear then { ase.withIpSuite .zero with stationName := [] } else ase
  let ase := { ase with
    standardGwValue := 0
    instanceIdHigh := 0
    instanceIdLow := 0
    productName := env.productName.take PNET_PRODUCT_NAME_MAX_LEN }
  (0, { net with
    nonvolatile := ase
    current := ase
    file := if clear then none else net.file
    saveAseNvmData := true })

/-- `pf_cmina_dcp_set_commit`, without the call that sets the address of the interface. -/
def dcpSetCommit (net : Net) : Net :=
  if net.commitIpSuite then { net with commitIpSuite := false } else net

def PF_CMINA_FS_HELLO_RETRY : ℕ := 3

/-- `pf_cmina_init`; before it the permanent data are cleared. -/
def init (env : Env) (net : Net) : Net :=
  let net := { net with
    helloCount := 0
    helloTimeout := false
    errorDecode := 0
    errorCode1 := 0
    commitIpSuite := false
    state := .PF_CMINA_STATE_SETUP
    nonvolatile := ⟨[], [], 0, 0, 0, 0, ⟨0, 0, 0, 0⟩, ⟨0, 0, 0, 0⟩, List.replicate 6 0, 0, false,
      ⟨.zero, List.replicate 4 0⟩⟩ }
  let net := (setDefaultCfg env net 0).2
  let net :=
    if net.current.stationName = [] then
      { net with
        commitIpSuite := !net.current.dhcpEnable
        state := .PF_CMINA_STATE_SET_NAME }
    else if net.current.ipSuite.isSet = false then
      { net with
        commitIpSuite := !net.current.dhcpEnable
        state := .PF_CMINA_STATE_SET_IP }
    else
      let hello : Bool := net.current.deviceInitiative = 1
      { net with
        commitIpSuite := true
        helloCount := if hello then PF_CMINA_FS_HELLO_RETRY else net.helloCount
        helloTimeout := hello
        state := .PF_CMINA_STATE_W_CONNECT }
  dcpSetCommit net

/-- `pf_cmina_save_ase` in the background worker; the file stays when it cannot be saved. -/
def saveAse (net : Net) (saved : Bool) : Net :=
  if net.saveAseNvmData then
    { net with
      saveAseNvmData := false
      file := if saved then some net.nonvolatile else net.file }
  else net

/-! ## Active ARs -/

def PNET_ERROR_CODE_1_RTA_ERR_CLS_PROTOCOL : Byte := 0xFD
def PNET_ERROR_CODE_2_ABORT_DCP_STATION_NAME_CHANGED : Byte := 0x1F
def PNET_ERROR_CODE_2_ABORT_DCP_RESET_TO_FACTORY : Byte := 0x20

/-- `pf_cmina_abort_active_ars`, over the ARs `ixs`: how many are aborted, and the ARs. -/
def abortActiveArs (env : Env) (errCode : Byte) : List ℕ → (ℕ → Ar) → ℕ × (ℕ → Ar)
  | [], ars => (0, ars)
  | ix :: ixs, ars =>
    if (ars ix).inUse then
      let aborted : Ar := ⟨true, PNET_ERROR_CODE_1_RTA_ERR_CLS_PROTOCOL, errCode⟩
      let rest := abortActiveArs env errCode ixs
        (env.stateInd ix fun i => if i = ix then aborted else ars i)
      (rest.1 + 1, rest.2)
    else abortActiveArs env errCode ixs ars

/-- `pf_cmina_nbr_of_active_ars`. -/
def nbrOfActiveArs (ars : ℕ → Ar) : ℕ := (List.range PNET_MAX_AR).countP fun ix => (ars ix).inUse

/-! ## Setting -/

/-- What a DCP Set has done to the data before the state is looked at. -/
structure Edit where
  /-- It is not refused so far. -/
  ok : Bool
  blockError : Byte
  changeIp : Bool
  changeName : Bool
  changeDhcp : Bool
  /-- The mode of a reset to factory. -/
  resetMode : Option (BitVec 16)
  net : Net

namespace Edit

/-- The data stay. -/
def refused (net : Net) (blockError : Byte) : Edit :=
  ⟨false, blockError, false, false, false, none, net⟩

/-- `PF_DCP_SUB_IP_PAR`. -/
def ipPar (net : Net) (temp : Bool) (value : IpSuite) (blockError : Byte) : Edit :=
  if isIpsuiteValid value then
    { ok := true
      blockError
      changeIp := net.current.ipSuite ≠ value
      changeName := false
      changeDhcp := false
      resetMode := none
      net := { net with
        current := net.current.withIpSuite value
        nonvolatile := net.nonvolatile.withIpSuite (if temp then .zero else value) } }
  else refused net PF_DCP_BLOCK_ERROR_SUBOPTION_NOT_SET

/-- `PF_DCP_SUB_IP_SUITE` with a value of 12 bytes, which is all that `pf_dcp_set_req` lets through:
the part of the suite without the name servers. -/
def ipSuite (net : Net) (temp : Bool) (value : IpSuite) (blockError : Byte) : Edit :=
  if isIpsuiteValid value then
    let current := net.current.withIpSuite value
    { ok := true
      blockError
      changeIp := net.current.ipSuite ≠ value
      changeName := false
      changeDhcp := false
      resetMode := none
      net := { net with
        current
        nonvolatile := { net.nonvolatile with
          fullIpSuite := if temp then ⟨.zero, List.replicate 4 0⟩ else current.fullIpSuite } } }
  else refused net PF_DCP_BLOCK_ERROR_SUBOPTION_NOT_SET

/-- `PF_DCP_SUB_DEV_PROP_NAME`. -/
def stationName (net : Net) (temp : Bool) (value : List Byte) (blockError : Byte) : Edit :=
  if value.length < PNET_STATION_NAME_MAX_SIZE then
    if isStationnameValid value then
      { ok := true
        blockError
        changeIp := false
        changeName := net.current.stationName ≠ value
        changeDhcp := false
        resetMode := none
        net := { net with
          current := { net.current with stationName := value }
          nonvolatile := { net.nonvolatile with stationName := if temp then [] else value } } }
    else refused net PF_DCP_BLOCK_ERROR_SUBOPTION_NOT_SET
  else refused net PF_DCP_BLOCK_ERROR_SUBOPTION_NOT_SET

def reset (net : Net) (resetMode : BitVec 16) (blockError : Byte) : Edit :=
  ⟨true, blockError, false, false, false, some resetMode, net⟩

end Edit

/-- The value of a DCP Set. -/
structure SetValue where
  /-- For an option about IP, in host byte order. -/
  ipSuite : IpSuite
  bytes : List Byte

/-- The first part of `pf_cmina_dcp_set_ind`. -/
def edit (net : Net) (opt sub : Byte) (blockQualifier : BitVec 16) (value : SetValue)
    (blockError : Byte) : Edit :=
  let temp : Bool := blockQualifier &&& 1 = 0
  if opt = PF_DCP_OPT_IP then
    if sub = PF_DCP_SUB_IP_PAR then .ipPar net temp value.ipSuite blockError
    else if sub = PF_DCP_SUB_IP_SUITE then .ipSuite net temp value.ipSuite blockError
    else .refused net PF_DCP_BLOCK_ERROR_SUBOPTION_NOT_SUPPORTED
  else if opt = PF_DCP_OPT_DEVICE_PROPERTIES then
    if sub = PF_DCP_SUB_DEV_PROP_NAME then .stationName net temp value.bytes blockError
    else .refused net PF_DCP_BLOCK_ERROR_SUBOPTION_NOT_SUPPORTED
  else if opt = PF_DCP_OPT_DHCP then
    { Edit.refused net PF_DCP_BLOCK_ERROR_OPTION_NOT_SUPPORTED with changeDhcp := true }
  else if opt = PF_DCP_OPT_CONTROL then
    if sub = PF_DCP_SUB_CONTROL_FACTORY_RESET then .reset net 99 blockError
    else if sub = PF_DCP_SUB_CONTROL_RESET_TO_FACTORY then
      .reset net (blockQualifier >>> 1) blockError
    else .refused net blockError
  else .refused net PF_DCP_BLOCK_ERROR_OPTION_NOT_SUPPORTED

def PNET_ERROR_DECODE_PNIORW : Byte := 0x80
def PNET_ERROR_CODE_1_ACC_STATE_CONFLICT : Byte := 0xB5
def PNET_ERROR_CODE_1_ACC_INVALID_PARAMETER : Byte := 0xB8

/-- The part of `pf_cmina_dcp_set_ind` that depends on the state, for an edit that has not been
refused. A change of the DHCP settings is always refused before. -/
def useEdit (env : Env) (x : Edit) : ℤ × Net :=
  let net := { x.net with saveAseNvmData := true }
  let haveName : Bool := net.current.stationName ≠ []
  let haveIp := net.current.ipSuite.isSet
  let abort (errCode : Byte) := abortActiveArs env errCode (List.range PNET_MAX_AR) net.ars
  match net.state with
  | .PF_CMINA_STATE_SETUP =>
    (-1, { net with
      errorDecode := PNET_ERROR_DECODE_PNIORW
      errorCode1 := PNET_ERROR_CODE_1_ACC_STATE_CONFLICT })
  | .PF_CMINA_STATE_SET_NAME | .PF_CMINA_STATE_SET_IP =>
    if x.changeName ∨ x.changeIp then
      if haveName ∧ haveIp then
        (0, { net with commitIpSuite := true, state := .PF_CMINA_STATE_W_CONNECT })
      else if haveName = false then (0, { net with state := .PF_CMINA_STATE_SET_NAME })
      else (0, { net with state := .PF_CMINA_STATE_SET_IP })
    else (0, net)
  | .PF_CMINA_STATE_W_CONNECT =>
    if x.changeName = false ∧ x.changeIp = false ∧ x.resetMode = none then (0, net)
    else if haveName = false ∨ x.resetMode ≠ none then
      (0, { net with ars := (abort (if x.resetMode = none then
        PNET_ERROR_CODE_2_ABORT_DCP_STATION_NAME_CHANGED
        else PNET_ERROR_CODE_2_ABORT_DCP_RESET_TO_FACTORY)).2 })
    else if haveName ∧ x.changeName ∨ haveIp = false then
      let aborted := abort PNET_ERROR_CODE_2_ABORT_DCP_STATION_NAME_CHANGED
      (0, { net with
        ars := aborted.2
        commitIpSuite := net.commitIpSuite || decide (aborted.1 = 0)
        state := .PF_CMINA_STATE_SET_IP })
    else if haveIp ∧ x.changeIp then
      if nbrOfActiveArs net.ars = 0 then (0, { net with commitIpSuite := true })
      else
        -- a change of the address with an active connection
        (-1, { net with
          errorDecode := PNET_ERROR_DECODE_PNIORW
          errorCode1 := PNET_ERROR_CODE_1_ACC_INVALID_PARAMETER })
    else
      (-1, { net with
        errorDecode := PNET_ERROR_DECODE_PNIORW
        errorCode1 := PNET_ERROR_CODE_1_ACC_INVALID_PARAMETER })

/-- `Do_Check` of the state table; what the device has is known only when nothing was refused at
first. -/
def doCheck (x : Edit) (net : Net) : Net :=
  if (net.state = .PF_CMINA_STATE_SET_IP ∨ net.state = .PF_CMINA_STATE_SET_NAME) ∧ x.ok ∧
      x.net.current.stationName ≠ [] ∧ x.net.current.ipSuite.isSet then
    { net with state := .PF_CMINA_STATE_W_CONNECT }
  else net

/-- `pf_cmina_dcp_set_ind`: what it returns, the block error and the state. -/
def dcpSetInd (env : Env) (net : Net) (opt sub : Byte) (blockQualifier : BitVec 16)
    (value : SetValue) (blockError : Byte) : ℤ × Byte × Net :=
  let x := edit { net with helloTimeout := false } opt sub blockQualifier value blockError
  let used := if x.ok then useEdit env x else (-1, x.net)
  let net := doCheck x used.2
  match x.resetMode with
  | none => (used.1, x.blockError, net)
  | some resetMode =>
    let done := setDefaultCfg env net resetMode
    (done.1, x.blockError, done.2)

end PNet.Cmina
