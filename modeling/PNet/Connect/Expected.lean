import PNet.Connect.Param

/-! # Looking up the expected configuration

How `pf_cmdev.c` finds what a connect request expects of a subslot.
-/

namespace PNet.Connect

inductive DevStatusType where
  | PF_DEV_STATUS_TYPE_IOCS
  | PF_DEV_STATUS_TYPE_IOPS
deriving DecidableEq, Repr

/-- `pf_cmdev_get_exp_api`. -/
def getExpApi (expApis : List ExpApi) (apiId : BitVec 32) : Option ExpApi :=
  expApis.find? fun a => a.api = apiId

/-- `pf_cmdev_get_exp_sub`. -/
def getExpSub (expApis : List ExpApi) (apiId : BitVec 32) (slotNbr subslotNbr : BitVec 16) :
    Option ExpSubmodule := do
  let api ← getExpApi expApis apiId
  let mod ← api.modules.find? fun m => m.slotNumber = slotNbr
  mod.submodules.find? fun s => s.subslotNumber = subslotNbr

/-- `pf_cmdev_calculate_exp_sub_data_descriptor_direction`. -/
def calculateExpSubDataDescriptorDirection (submoduleDir : Byte) (dataDir : BitVec 16)
    (statusType : DevStatusType) : Option (BitVec 16) :=
  let input : Bool := dataDir = PF_DIRECTION_INPUT ∧ statusType = .PF_DEV_STATUS_TYPE_IOPS ∨
    dataDir = PF_DIRECTION_OUTPUT ∧ statusType = .PF_DEV_STATUS_TYPE_IOCS
  let output : Bool := dataDir = PF_DIRECTION_INPUT ∧ statusType = .PF_DEV_STATUS_TYPE_IOCS ∨
    dataDir = PF_DIRECTION_OUTPUT ∧ statusType = .PF_DEV_STATUS_TYPE_IOPS
  if submoduleDir = PNET_DIR_NO_IO ∨ submoduleDir = PNET_DIR_INPUT then
    if input then some PF_DIRECTION_INPUT else none
  else if submoduleDir = PNET_DIR_IO then
    if input then some PF_DIRECTION_INPUT else some PF_DIRECTION_OUTPUT
  else if submoduleDir = PNET_DIR_OUTPUT then
    if output then some PF_DIRECTION_OUTPUT else none
  else none

/-- `pf_cmdev_get_exp_sub_data_descriptor`. -/
def getExpSubDataDescriptor (sub : ExpSubmodule) (dir : BitVec 16) (statusType : DevStatusType) :
    Option DataDescriptor := do
  let direction ←
    calculateExpSubDataDescriptorDirection sub.submoduleProperties.type dir statusType
  sub.dataDescriptor.find? fun d => d.dataDirection = direction

end PNet.Connect
