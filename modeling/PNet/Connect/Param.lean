import PNet.Rpc.Header

/-! # What a connect request asks for

The blocks of a connect request, as `pf_types.h` keeps them in the AR. An array with its
count is a list; a value has the width it has in the AR.
-/

namespace PNet.Connect

open Rpc

/-! ## The CRs -/

def PF_IOCR_TYPE_INPUT : BitVec 16 := 1
def PF_IOCR_TYPE_OUTPUT : BitVec 16 := 2
def PF_IOCR_TYPE_MC_PROVIDER : BitVec 16 := 3
def PF_IOCR_TYPE_MC_CONSUMER : BitVec 16 := 4

def PF_RT_CLASS_1 : BitVec 32 := 1
def PF_RT_CLASS_2 : BitVec 32 := 2
def PF_RT_CLASS_3 : BitVec 32 := 3
def PF_RT_CLASS_UDP : BitVec 32 := 4
def PF_RT_CLASS_STREAM : BitVec 32 := 5

def PNAL_ETHTYPE_IP : BitVec 16 := 0x0800
def PNAL_ETHTYPE_VLAN : BitVec 16 := 0x8100
def PNAL_ETHTYPE_PROFINET : BitVec 16 := 0x8892

/-- `pf_frame_descriptor_t`. -/
structure FrameDescriptor where
  slotNumber : BitVec 16
  subslotNumber : BitVec 16
  frameOffset : BitVec 16
deriving DecidableEq, Repr

/-- `pf_api_entry_t`. -/
structure ApiEntry where
  api : BitVec 32
  ioData : List FrameDescriptor
  iocs : List FrameDescriptor
deriving DecidableEq, Repr

/-- `pf_iocr_properties_t`. -/
structure IocrProperties where
  rtClass : BitVec 32
  reserved1 : BitVec 16
  reserved2 : BitVec 16
  reserved3 : BitVec 16
deriving DecidableEq, Repr

/-- `pf_iocr_tag_header_t`. -/
structure IocrTagHeader where
  vlanId : BitVec 16
  iocrUserPriority : BitVec 16
deriving DecidableEq, Repr

/-- `pf_iocr_param_t`. -/
structure IocrParam where
  iocrType : BitVec 16
  iocrReference : BitVec 16
  ltField : BitVec 16
  iocrProperties : IocrProperties
  cSduLength : BitVec 16
  frameId : BitVec 16
  sendClockFactor : BitVec 16
  reductionRatio : BitVec 16
  phase : BitVec 16
  sequence : BitVec 16
  frameSendOffset : BitVec 32
  watchdogFactor : BitVec 32
  dataHoldFactor : BitVec 16
  iocrTagHeader : IocrTagHeader
  iocrMulticastMacAdd : Vector Byte 6
  apis : List ApiEntry
deriving DecidableEq, Repr

/-! ## The AR -/

/-- `pf_ar_properties_t`. -/
structure ArProperties where
  state : BitVec 16
  supervisorTakeoverAllowed : Bool
  parameterizationServer : Byte
  deviceAccess : Bool
  companionAr : BitVec 16
  acknowledgeCompanionAr : Bool
  combinedObjectContainer : Bool
  /-- `false` is legacy, `true` is advanced. -/
  startupMode : Bool
  pullModuleAlarmAllowed : Bool
deriving DecidableEq, Repr

/-- `pf_ar_param_t`; the name is what stands before its terminator. -/
structure ArParam where
  arType : BitVec 16
  arUuid : Uuid
  sessionKey : BitVec 16
  cmInitiatorMacAdd : Vector Byte 6
  cmInitiatorObjectUuid : Uuid
  arProperties : ArProperties
  cmInitiatorActivityTimeoutFactor : BitVec 16
  cmInitiatorUdpRtPort : BitVec 16
  cmInitiatorStationNameLen : BitVec 16
  cmInitiatorStationName : List Byte
deriving DecidableEq, Repr

/-! ## The expected configuration -/

def PF_DIRECTION_INPUT : BitVec 16 := 1
def PF_DIRECTION_OUTPUT : BitVec 16 := 2

def PNET_DIR_NO_IO : Byte := 0
def PNET_DIR_INPUT : Byte := 1
def PNET_DIR_OUTPUT : Byte := 2
def PNET_DIR_IO : Byte := 3

/-- `pf_data_descriptor_t`. -/
structure DataDescriptor where
  dataDirection : BitVec 16
  submoduleDataLength : BitVec 16
  lengthIops : Byte
  lengthIocs : Byte
deriving DecidableEq, Repr

/-- `pf_submodule_properties_t`. -/
structure SubmoduleProperties where
  type : Byte
  sharedInput : Bool
  reduceInputSubmoduleDataLength : Bool
  reduceOutputSubmoduleDataLength : Bool
  discardIoxs : Bool
deriving DecidableEq, Repr

/-- `pf_exp_submodule_t`. -/
structure ExpSubmodule where
  subslotNumber : BitVec 16
  submoduleIdentNumber : BitVec 32
  submoduleProperties : SubmoduleProperties
  dataDescriptor : List DataDescriptor
deriving DecidableEq, Repr

/-- `pf_exp_module_t`. -/
structure ExpModule where
  slotNumber : BitVec 16
  moduleIdentNumber : BitVec 32
  moduleProperties : BitVec 16
  submodules : List ExpSubmodule
deriving DecidableEq, Repr

/-- `pf_exp_api_t`. -/
structure ExpApi where
  api : BitVec 32
  modules : List ExpModule
deriving DecidableEq, Repr

end PNet.Connect
