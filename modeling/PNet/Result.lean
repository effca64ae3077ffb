import PNet.Block.Reader

/-! # Results

The status a device answers with, and its error codes.
-/

namespace PNet

open Block

/-- `pnet_pnio_status_t`. -/
structure PnioStatus where
  errorCode : Byte
  errorDecode : Byte
  errorCode1 : Byte
  errorCode2 : Byte
deriving DecidableEq, Repr

/-- `pnet_result_t`. -/
structure PnetResult where
  pnioStatus : PnioStatus
  addData1 : BitVec 16
  addData2 : BitVec 16
deriving DecidableEq, Repr

def PNET_ERROR_CODE_NOERROR : Byte := 0
def PNET_ERROR_DECODE_NOERROR : Byte := 0
def PNET_ERROR_CODE_PNIO : Byte := 0x81
def PNET_ERROR_CODE_CONNECT : Byte := 0xDB
def PNET_ERROR_CODE_CONTROL : Byte := 0xDD
def PNET_ERROR_CODE_READ : Byte := 0xDE
def PNET_ERROR_CODE_WRITE : Byte := 0xDF
def PNET_ERROR_DECODE_PNIORW : Byte := 0x80
def PNET_ERROR_DECODE_PNIO : Byte := 0x81
def PNET_ERROR_CODE_1_APP_NOT_SUPPORTED : Byte := 0xA9
def PNET_ERROR_CODE_1_ACC_INVALID_INDEX : Byte := 0xB0
def PNET_ERROR_CODE_1_ACC_WRITE_LENGTH_ERROR : Byte := 0xB1
def PNET_ERROR_CODE_1_ACC_INVALID_AREA_API : Byte := 0xB4
def PNET_ERROR_CODE_1_ACC_STATE_CONFLICT : Byte := 0xB5
def PNET_ERROR_CODE_1_ACC_ACCESS_DENIED : Byte := 0xB6
def PNET_ERROR_CODE_1_ACC_BACKUP : Byte := 0xBA
def PNET_ERROR_CODE_1_CONN_FAULTY_AR_BLOCK_REQ : Byte := 0x01
def PNET_ERROR_CODE_1_CONN_FAULTY_IOCR_BLOCK_REQ : Byte := 0x02
def PNET_ERROR_CODE_1_CONN_FAULTY_EXP_BLOCK_REQ : Byte := 0x03
def PNET_ERROR_CODE_1_CONN_FAULTY_ALARM_BLOCK_REQ : Byte := 0x04
def PNET_ERROR_CODE_1_CONN_FAULTY_PRM_SERVER_BLOCK_REQ : Byte := 0x05
def PNET_ERROR_CODE_1_CONN_FAULTY_MCR_BLOCK_REQ : Byte := 0x06
def PNET_ERROR_CODE_1_CONN_FAULTY_AR_RPC_BLOCK_REQ : Byte := 0x07
def PNET_ERROR_CODE_1_CONN_FAULTY_FAULTY_RECORD : Byte := 0x08
def PNET_ERROR_CODE_1_CONN_FAULTY_IR_INFO : Byte := 0x09
def PNET_ERROR_CODE_1_DCTRL_FAULTY_CONNECT : Byte := 0x14
def PNET_ERROR_CODE_1_CMRPC : Byte := 0x40
def PNET_ERROR_CODE_2_CMRPC_ARGSLENGTH_INVALID : Byte := 0x00
def PNET_ERROR_CODE_2_CMRPC_UNKNOWN_BLOCKS : Byte := 0x01
def PNET_ERROR_CODE_2_CMRPC_WRONG_BLOCK_COUNT : Byte := 0x03
def PNET_ERROR_CODE_2_CMRPC_AR_UUID_UNKNOWN : Byte := 0x05
def PNET_ERROR_CODE_2_CMRPC_STATE_CONFLICT : Byte := 0x06
def PNET_ERROR_CODE_2_CMRPC_OUT_OF_MEMORY : Byte := 0x08
def PNET_ERROR_CODE_2_INVALID_BLOCK_LEN : Byte := 0x01
def PNET_ERROR_CODE_2_INVALID_BLOCK_VERSION_HIGH : Byte := 0x02
def PNET_ERROR_CODE_2_INVALID_BLOCK_VERSION_LOW : Byte := 0x03
def PNET_ERROR_CODE_2_DCTRL_FAULTY_CONNECT_CONTROLCOMMAND : Byte := 0x08
def PNET_ERROR_CODE_1_RTA_ERR_CLS_PROTOCOL : Byte := 0xFD
def PNET_ERROR_CODE_2_ABORT_CODE_SEQ : Byte := 0x01
def PNET_ERROR_CODE_2_ABORT_AR_ALARM_IND_ERROR : Byte := 0x0B
def PNET_ERROR_CODE_2_ABORT_AR_PROTOCOL_VIOLATION : Byte := 0x12
def PNET_ERROR_CODE_2_ABORT_PDEV_CHECK_FAILED : Byte := 0x24

/-- A result that has been cleared by `memset`. -/
def noError : PnetResult := ⟨⟨0, 0, 0, 0⟩, 0, 0⟩

/-- `pf_set_error`: an earlier error is overwritten. -/
def setError (stat : PnetResult) (code decode code1 code2 : Byte) : PnetResult :=
  { stat with pnioStatus := ⟨code, decode, code1, code2⟩ }

/-- `pf_set_error_if_not_already_set`. -/
def setErrorIfNotAlreadySet (stat : PnetResult) (code decode code1 code2 : Byte) : PnetResult :=
  if stat.pnioStatus.errorCode = PNET_ERROR_CODE_NOERROR ∧
      stat.pnioStatus.errorDecode = PNET_ERROR_DECODE_NOERROR then
    setError stat code decode code1 code2
  else stat

/-- `pf_get_pnio_status`. -/
def getPnioStatus : Get PnioStatus := do
  let errorCode ← getByte
  let errorDecode ← getByte
  let errorCode1 ← getByte
  let errorCode2 ← getByte
  return ⟨errorCode, errorDecode, errorCode1, errorCode2⟩

end PNet
