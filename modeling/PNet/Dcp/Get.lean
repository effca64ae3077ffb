import PNet.Dcp.Block
import PNet.Cmina.Model

/-! # The values of a DCP Get

`pf_cmina_dcp_get_req` points to a value in memory, in the byte order of the processor, and
`pf_dcp_get_req` makes a block of it.
-/

namespace PNet.Dcp

open Block Cmina

/-! ## Values in memory -/

/-- The byte order of the processor, and what is in memory behind the two strings. -/
structure Machine where
  isBigEndian : Bool
  behindStationName : ℕ → Byte
  behindProductName : ℕ → Byte

/-- `value_length` and the memory that `p_value` points to. -/
structure Value where
  length : ℕ
  memory : ℕ → Byte

/-- Some bytes, with what is behind them. -/
def memoryOf (bs : List Byte) (behind : ℕ → Byte) : ℕ → Byte := fun i => bs.getD i (behind i)

/-- A field. -/
def field (bs : List Byte) (length : ℕ) : Value := ⟨length, memoryOf bs fun _ => 0⟩

/-- A terminated string. -/
def string (chars : List Byte) (behind : ℕ → Byte) (length : ℕ) : Value :=
  ⟨length, memoryOf (chars ++ [0]) behind⟩

namespace Value

/-- The first bytes. -/
def bytes (v : Value) : List Byte := Buffer.slice v.memory 0 v.length

end Value

def ipSuiteBytes (isBigEndian : Bool) (x : IpSuite) : List Byte :=
  bytes32 isBigEndian x.ipAddr ++ bytes32 isBigEndian x.ipMask ++ bytes32 isBigEndian x.ipGateway

def fullIpSuiteBytes (isBigEndian : Bool) (x : FullIpSuite) : List Byte :=
  ipSuiteBytes isBigEndian x.ipSuite ++ x.dnsAddr.flatMap (bytes32 isBigEndian)

def deviceIdBytes (x : DeviceId) : List Byte :=
  [x.vendorIdHi, x.vendorIdLo, x.deviceIdHi, x.deviceIdLo]

/-- `pf_cmina_dcp_get_req`: the value, or the block error. For `PF_DCP_OPT_ALL` there is nothing to
point to. -/
def dcpGetReq (m : Machine) (ase : DcpAse) (opt sub : Byte) : Except Byte Value :=
  if opt = PF_DCP_OPT_ALL then .ok (field [] 0)
  else if opt = PF_DCP_OPT_IP then
    if sub = PF_DCP_SUB_IP_MAC then .ok (field ase.macAddress 6)
    else if sub = PF_DCP_SUB_IP_PAR then .ok (field (ipSuiteBytes m.isBigEndian ase.ipSuite) 12)
    else if sub = PF_DCP_SUB_IP_SUITE then
      .ok (field (fullIpSuiteBytes m.isBigEndian ase.fullIpSuite) 28)
    else .error PF_DCP_BLOCK_ERROR_SUBOPTION_NOT_SUPPORTED
  else if opt = PF_DCP_OPT_DEVICE_PROPERTIES then
    if sub = PF_DCP_SUB_DEV_PROP_VENDOR then
      .ok (string ase.productName m.behindProductName PNET_PRODUCT_NAME_MAX_LEN)
    else if sub = PF_DCP_SUB_DEV_PROP_NAME then
      .ok (string ase.stationName m.behindStationName PNET_STATION_NAME_MAX_SIZE)
    else if sub = PF_DCP_SUB_DEV_PROP_ID then .ok (field (deviceIdBytes ase.deviceId) 4)
    else if sub = PF_DCP_SUB_DEV_PROP_ROLE then
      -- the initiative follows in memory
      .ok (field (ase.deviceRole :: bytes16 m.isBigEndian ase.deviceInitiative) 1)
    else if sub = PF_DCP_SUB_DEV_PROP_INSTANCE then
      .ok (field [ase.instanceIdHigh, ase.instanceIdLow] 2)
    else if sub = PF_DCP_SUB_DEV_PROP_OEM_ID then .ok (field (deviceIdBytes ase.oemDeviceId) 4)
    else if sub = PF_DCP_SUB_DEV_PROP_GATEWAY then
      .ok (field (bytes16 m.isBigEndian ase.standardGwValue) 2)
    else .error PF_DCP_BLOCK_ERROR_SUBOPTION_NOT_SUPPORTED
  else if opt = PF_DCP_OPT_DHCP then .error PF_DCP_BLOCK_ERROR_SUBOPTION_NOT_SUPPORTED
  else if opt = PF_DCP_OPT_CONTROL then .error PF_DCP_BLOCK_ERROR_OPTION_NOT_SUPPORTED
  else if opt = PF_DCP_OPT_DEVICE_INITIATIVE then
    if sub = PF_DCP_SUB_DEV_INITIATIVE_SUPPORT then
      .ok (field (bytes16 m.isBigEndian ase.deviceInitiative) 2)
    else .error PF_DCP_BLOCK_ERROR_SUBOPTION_NOT_SUPPORTED
  else .error PF_DCP_BLOCK_ERROR_OPTION_NOT_SUPPORTED

/-! ## Blocks -/

def deviceOptions : List (Byte × Byte) :=
  [(PF_DCP_OPT_IP, PF_DCP_SUB_IP_PAR),
    (PF_DCP_OPT_IP, PF_DCP_SUB_IP_MAC),
    (PF_DCP_OPT_DEVICE_PROPERTIES, PF_DCP_SUB_DEV_PROP_VENDOR),
    (PF_DCP_OPT_DEVICE_PROPERTIES, PF_DCP_SUB_DEV_PROP_NAME),
    (PF_DCP_OPT_DEVICE_PROPERTIES, PF_DCP_SUB_DEV_PROP_ID),
    (PF_DCP_OPT_DEVICE_PROPERTIES, PF_DCP_SUB_DEV_PROP_ROLE),
    (PF_DCP_OPT_DEVICE_PROPERTIES, PF_DCP_SUB_DEV_PROP_OPTIONS),
    (PF_DCP_OPT_DEVICE_PROPERTIES, PF_DCP_SUB_DEV_PROP_ALIAS),
    (PF_DCP_OPT_CONTROL, PF_DCP_SUB_CONTROL_START),
    (PF_DCP_OPT_CONTROL, PF_DCP_SUB_CONTROL_STOP),
    (PF_DCP_OPT_CONTROL, PF_DCP_SUB_CONTROL_SIGNAL),
    (PF_DCP_OPT_CONTROL, PF_DCP_SUB_CONTROL_FACTORY_RESET),
    (PF_DCP_OPT_CONTROL, PF_DCP_SUB_CONTROL_RESET_TO_FACTORY),
    (PF_DCP_OPT_ALL, PF_DCP_SUB_ALL)]

def deviceOptionBytes : List Byte := deviceOptions.flatMap fun option => [option.1, option.2]

/-- The block info of an address: BIT(0) when there is one. -/
def ipBlockInfo (x : IpSuite) : BitVec 16 := if x.isSet then 1 else 0

/-- A positive answer. -/
def positive (opt sub : Byte) (blockInfo : BitVec 16) (value : List Byte) : AnswerBlock :=
  ⟨opt, sub, some blockInfo, value⟩

/-- A SetResBlock, a SetNegResBlock or a GetNegResBlock. -/
def response (opt sub blockError : Byte) : AnswerBlock :=
  ⟨PF_DCP_OPT_CONTROL, PF_DCP_SUB_CONTROL_RESPONSE, none, [opt, sub, blockError]⟩

/-- `pf_dcp_get_req`: the block that is put, if any. -/
def getReq (m : Machine) (ase : DcpAse) (opt sub : Byte) (requestIsIdentify : Bool)
    (aliasName : Option (List Byte)) : Option AnswerBlock :=
  let skip : Bool :=
    opt = PF_DCP_OPT_IP ∧ sub = PF_DCP_SUB_IP_MAC ∧ requestIsIdentify ∨
      opt = PF_DCP_OPT_DEVICE_PROPERTIES ∧ sub = PF_DCP_SUB_DEV_PROP_ALIAS ∧ aliasName = none ∨
      opt = PF_DCP_OPT_CONTROL ∨ opt = PF_DCP_OPT_ALL
  if skip then none
  else if opt = PF_DCP_OPT_DEVICE_PROPERTIES ∧ sub = PF_DCP_SUB_DEV_PROP_OPTIONS then
    some (positive opt sub 0 deviceOptionBytes)
  else if opt = PF_DCP_OPT_DEVICE_PROPERTIES ∧ sub = PF_DCP_SUB_DEV_PROP_ALIAS then
    some (positive opt sub 0 (aliasName.getD []))
  else
    match dcpGetReq m ase opt sub with
    | .error blockError => some (response opt sub blockError)
    | .ok value =>
      if opt = PF_DCP_OPT_IP then
        if sub = PF_DCP_SUB_IP_PAR then
          some (positive opt sub (ipBlockInfo ase.ipSuite) (ipSuiteBytes true ase.ipSuite))
        else if sub = PF_DCP_SUB_IP_SUITE then
          some (positive opt sub (ipBlockInfo ase.ipSuite)
            (field (fullIpSuiteBytes true ase.fullIpSuite) 28).bytes)
        else some (positive opt sub 0 value.bytes)
      else if opt = PF_DCP_OPT_DEVICE_PROPERTIES then
        if sub = PF_DCP_SUB_DEV_PROP_GATEWAY then
          some (positive opt sub 0 (bytes16 true ase.standardGwValue))
        else if sub = PF_DCP_SUB_DEV_PROP_NAME then some (positive opt sub 0 ase.stationName)
        else if sub = PF_DCP_SUB_DEV_PROP_VENDOR then some (positive opt sub 0 ase.productName)
        else if sub = PF_DCP_SUB_DEV_PROP_ROLE then
          some (positive opt sub 0 (Buffer.slice value.memory 0 (value.length + 1)))
        else some (positive opt sub 0 value.bytes)
      else if opt = PF_DCP_OPT_DEVICE_INITIATIVE then
        some (positive opt sub 0 (bytes16 true ase.deviceInitiative))
      else some (positive opt sub 0 value.bytes)

/-- The blocks of the answer to an Identify. -/
def identifyBlocks (m : Machine) (ase : DcpAse) (aliasName : Option (List Byte)) :
    List AnswerBlock :=
  deviceOptions.filterMap fun option => getReq m ase option.1 option.2 true aliasName

end PNet.Dcp
