import PNet.Lib.StopAndWait
import PNet.Result

/-! # Receiving alarms

An APMX instance of `pf_alarm.c`: APMR receives the RTA DATA PDUs of the controller,
acknowledges them (TACK) and hands alarm acknowledgements to ALPMI and alarm notifications to
ALPMR; APMS takes the acknowledgement numbers.
-/

namespace PNet.Alarm

open Block

/-! ## PDUs -/

def PF_RTA_PDU_TYPE_DATA : Byte := 1
def PF_RTA_PDU_TYPE_NACK : Byte := 2
def PF_RTA_PDU_TYPE_ACK : Byte := 3
def PF_ALARM_PDU_TYPE_VERSION_1 : Byte := 1

def PF_BT_ALARM_NOTIFICATION_HIGH : BitVec 16 := 0x0001
def PF_BT_ALARM_NOTIFICATION_LOW : BitVec 16 := 0x0002
def PF_BT_ALARM_ACK_HIGH : BitVec 16 := 0x8001
def PF_BT_ALARM_ACK_LOW : BitVec 16 := 0x8002

/-- `pf_alarm_fixed_t`. -/
structure AlarmFixed where
  dstRef : BitVec 16
  srcRef : BitVec 16
  pduType : Byte
  version : Byte
  windowSize : Byte
  tack : Bool
  sendSeqNum : BitVec 16
  ackSeqNbr : BitVec 16
deriving DecidableEq, Repr

/-- `pf_block_header_t`. -/
structure BlockHeader where
  blockType : BitVec 16
  blockLength : BitVec 16
  blockVersionHigh : Byte
  blockVersionLow : Byte
deriving DecidableEq, Repr

/-- `pnet_alarm_spec_t`. -/
structure AlarmSpec where
  channelDiagnosis : Bool
  manufacturerDiagnosis : Bool
  submoduleDiagnosis : Bool
  arDiagnosis : Bool
deriving DecidableEq, Repr

/-- `pf_alarm_data_t`, without the payload. -/
structure AlarmData where
  alarmType : BitVec 16
  apiId : BitVec 32
  slotNbr : BitVec 16
  subslotNbr : BitVec 16
  moduleIdent : BitVec 32
  submoduleIdent : BitVec 16
  alarmSpecifier : AlarmSpec
  sequenceNumber : BitVec 16
deriving DecidableEq, Repr

/-- `pf_get_block_header`. -/
def getBlockHeader : Get BlockHeader := do
  let blockType ← getUint16
  let blockLength ← getUint16
  let blockVersionHigh ← getByte
  let blockVersionLow ← getByte
  return ⟨blockType, blockLength, blockVersionHigh, blockVersionLow⟩

/-- `pf_get_alarm_data`; the record keeps 16 bits of the submodule identifier. -/
def getAlarmData : Get AlarmData := do
  let alarmType ← getUint16
  let apiId ← getUint32
  let slotNbr ← getUint16
  let subslotNbr ← getUint16
  let moduleIdent ← getUint32
  let submoduleIdent ← getUint32
  let bits ← getUint16
  let flag pos := getBits (bits.setWidth 32) pos 1 != 0
  return {
    alarmType, apiId, slotNbr, subslotNbr, moduleIdent
    submoduleIdent := submoduleIdent.setWidth 16
    alarmSpecifier := ⟨flag 11, flag 12, flag 13, flag 15⟩
    sequenceNumber := (getBits (bits.setWidth 32) 0 11).setWidth 16 }

/-- An RTA DATA PDU with its parser, which stands behind the fixed part; `dataLen` is the
length of the variable part. -/
structure DataFrame where
  fixed : AlarmFixed
  dataLen : BitVec 16
  reader : Reader

/-- What APMR hands upward. -/
inductive AlarmPdu where
  /-- The argument of `pf_alarm_alpmi_apmr_a_data_ind`. -/
  | ack (status : PnioStatus)
  /-- The arguments of `pf_alarm_alpmr_apmr_a_data_ind`. -/
  | notification (data : AlarmData) (dataUsi : BitVec 16) (payload : List Byte)
deriving DecidableEq, Repr

/-! ## States -/

inductive ApmsState where
  | PF_APMS_STATE_CLOSED
  | PF_APMS_STATE_OPEN
  | PF_APMS_STATE_WTACK
deriving DecidableEq, Repr

inductive ApmrState where
  | PF_APMR_STATE_CLOSED
  | PF_APMR_STATE_OPEN
  | PF_APMR_STATE_WCNF
deriving DecidableEq, Repr

inductive AlpmrState where
  | PF_ALPMR_STATE_W_START
  | PF_ALPMR_STATE_W_NOTIFY
  | PF_ALPMR_STATE_W_USER_ACK
  | PF_ALPMR_STATE_W_TACK
deriving DecidableEq, Repr

inductive AlpmiState where
  | PF_ALPMI_STATE_W_START
  | PF_ALPMI_STATE_W_ALARM
  | PF_ALPMI_STATE_W_ACK
deriving DecidableEq, Repr

/-- The machines next to APMR. -/
structure Neighbours where
  alpmiState : AlpmiState
  alpmrState : AlpmrState
  apmsState : ApmsState
  sendSeqCount : BitVec 16
  sendSeqCountO : BitVec 16
  /-- Whether `p_rta` holds a frame for retransmission. -/
  rta : Bool
deriving DecidableEq, Repr

/-- What leaves APMR. -/
inductive Output where
  | sent (fixed : AlarmFixed)
  | handed (pdu : AlarmPdu)
  | errorInd (errCls errCode : Byte)
  | logBook (status : PnioStatus)
deriving DecidableEq, Repr

/-- `pf_apmx_t`, with the error of its AR and what has left it, in order. -/
structure Apmx where
  srcRef : BitVec 16
  dstRef : BitVec 16
  blockTypeAlarmNotify : BitVec 16
  blockTypeAlarmAck : BitVec 16
  apmrState : ApmrState
  expSeqCount : BitVec 16
  expSeqCountO : BitVec 16
  neighbours : Neighbours
  errCls : Byte
  errCode : Byte
  log : List Output

/-- What the rest of the system does while one PDU is handled. -/
structure Surroundings where
  /-- Whether `pf_alarm_apms_a_data_req` sends the answer: there is a buffer, and the Ethernet
  driver takes it. -/
  sends : Bool
  /-- The application in the callbacks of FSPM. -/
  alarmInd : Neighbours → Neighbours
  alarmCnf : Neighbours → Neighbours
  alarmAckCnf : Neighbours → Neighbours

namespace Apmx

def emit (x : Apmx) (o : Output) : Apmx := { x with log := x.log ++ [o] }

/-- `pf_alarm_close`, as far as it concerns one instance. -/
def close (x : Apmx) : Apmx :=
  { x with
    apmrState := .PF_APMR_STATE_CLOSED
    neighbours := { x.neighbours with
      alpmiState := .PF_ALPMI_STATE_W_START, alpmrState := .PF_ALPMR_STATE_W_START
      apmsState := .PF_APMS_STATE_CLOSED, rta := false } }

/-- `pf_alarm_error_ind`: CMDEV aborts the AR, and CMSU closes the alarms. -/
def errorInd (x : Apmx) (errCls errCode : Byte) : Apmx :=
  close ({ x with errCls, errCode }.emit (.errorInd errCls errCode))

/-- `pf_alarm_alpmr_apms_a_data_cnf`, positive. -/
def alpmrApmsDataCnf (env : Surroundings) (x : Apmx) : Apmx :=
  match x.neighbours.alpmrState with
  | .PF_ALPMR_STATE_W_START | .PF_ALPMR_STATE_W_NOTIFY | .PF_ALPMR_STATE_W_USER_ACK => x
  | .PF_ALPMR_STATE_W_TACK =>
    let n := env.alarmAckCnf x.neighbours
    { x with neighbours := { n with alpmrState := .PF_ALPMR_STATE_W_NOTIFY } }

/-- `pf_alarm_apms_a_data_ind`. ALPMI ignores a positive confirmation. -/
def apmsDataInd (env : Surroundings) (fixed : AlarmFixed) (x : Apmx) : Apmx :=
  if fixed.pduType = PF_RTA_PDU_TYPE_ACK ∨ fixed.pduType = PF_RTA_PDU_TYPE_DATA then
    if x.neighbours.apmsState = .PF_APMS_STATE_WTACK ∧
        fixed.ackSeqNbr = x.neighbours.sendSeqCount then
      let x := alpmrApmsDataCnf env { x with neighbours := { x.neighbours with
        sendSeqCountO := x.neighbours.sendSeqCount
        sendSeqCount := (x.neighbours.sendSeqCount + 1) &&& 0x7fff
        rta := false } }
      { x with neighbours := { x.neighbours with apmsState := .PF_APMS_STATE_OPEN } }
    else x
  else x

/-- The fixed part of an answer of APMR. -/
def answer (x : Apmx) (pduType : Byte) : AlarmFixed where
  srcRef := x.srcRef
  dstRef := x.dstRef
  pduType := pduType
  version := PF_ALARM_PDU_TYPE_VERSION_1
  windowSize := 1
  tack := false
  sendSeqNum := x.neighbours.sendSeqCountO
  ackSeqNbr := x.expSeqCountO

def send (env : Surroundings) (pduType : Byte) (x : Apmx) : ℤ × Apmx :=
  if env.sends then (0, x.emit (.sent (x.answer pduType))) else (-1, x)

/-- `pf_alarm_apmr_send_ack`. -/
def sendAck (env : Surroundings) (x : Apmx) : ℤ × Apmx := x.send env PF_RTA_PDU_TYPE_ACK

/-- `pf_alarm_apmr_send_nack`. -/
def sendNack (env : Surroundings) (x : Apmx) : ℤ × Apmx := x.send env PF_RTA_PDU_TYPE_NACK

/-- `pf_alarm_alpmi_apmr_a_data_ind`. -/
def alpmiDataInd (env : Surroundings) (status : PnioStatus) (x : Apmx) : ℤ × Apmx :=
  let x := x.emit (.handed (.ack status))
  match x.neighbours.alpmiState with
  | .PF_ALPMI_STATE_W_START | .PF_ALPMI_STATE_W_ALARM => (0, x)
  | .PF_ALPMI_STATE_W_ACK =>
    (0, { x with neighbours :=
      env.alarmCnf { x.neighbours with alpmiState := .PF_ALPMI_STATE_W_ALARM } })

/-- `pf_alarm_alpmr_apmr_a_data_ind`. -/
def alpmrDataInd (env : Surroundings) (data : AlarmData) (dataUsi : BitVec 16)
    (payload : List Byte) (x : Apmx) : ℤ × Apmx :=
  let x := x.emit (.handed (.notification data dataUsi payload))
  match x.neighbours.alpmrState with
  | .PF_ALPMR_STATE_W_START => (0, x)
  | .PF_ALPMR_STATE_W_NOTIFY =>
    (0, { x with neighbours :=
      env.alarmInd { x.neighbours with alpmrState := .PF_ALPMR_STATE_W_USER_ACK } })
  | .PF_ALPMR_STATE_W_USER_ACK | .PF_ALPMR_STATE_W_TACK =>
    (-1, x.errorInd PNET_ERROR_CODE_1_RTA_ERR_CLS_PROTOCOL
      PNET_ERROR_CODE_2_ABORT_AR_PROTOCOL_VIOLATION)

/-- The next PDU is expected from now on. -/
def advance (x : Apmx) : Apmx :=
  { x with expSeqCountO := x.expSeqCount, expSeqCount := (x.expSeqCount + 1) &&& 0x7fff }

/-- An answer 0 opens APMR again. -/
def reopen (r : ℤ × Apmx) : ℤ × Apmx :=
  if r.1 = 0 then (r.1, { r.2 with apmrState := .PF_APMR_STATE_OPEN }) else r

/-- An Alarm ACK PDU in sequence; `r` is the parser behind the block header. -/
def ackInSequence (env : Surroundings) (f : DataFrame) (r : Reader) (x : Apmx) : ℤ × Apmx :=
  let (ret, x) := sendAck env (advance (apmsDataInd env f.fixed x))
  if ret = 0 then
    let x := { x with apmrState := .PF_APMR_STATE_WCNF }
    reopen (alpmiDataInd env (getPnioStatus r).1 x)
  else (ret, x)

/-- The body of an Alarm Notification PDU: AlarmData, USI and payload. -/
def notificationOf (f : DataFrame) (r : Reader) : Option (AlarmData × BitVec 16 × List Byte) :=
  let (data, r) := getAlarmData r
  let (usi, r) := getUint16 r
  if r.info.result = .PF_PARSE_OK then
    let dataLen := f.dataLen - BitVec.ofNat 16 (r.pos - f.reader.pos)
    some (data, usi, Buffer.slice r.info.buf r.pos dataLen.toNat)
  else none

/-- An Alarm Notification PDU in sequence. -/
def notifyInSequence (env : Surroundings) (f : DataFrame) (r : Reader) (x : Apmx) : ℤ × Apmx :=
  let (ret, x) := sendAck env (advance (apmsDataInd env f.fixed x))
  if ret = 0 then
    let x := { x with apmrState := .PF_APMR_STATE_WCNF }
    match notificationOf f r with
    | some (data, usi, payload) => reopen (alpmrDataInd env data usi payload x)
    | none => (-1, x)
  else (ret, x)

/-- The PDU with the expected number. -/
def inSequence (env : Surroundings) (f : DataFrame) (x : Apmx) : ℤ × Apmx :=
  let (block, r) := getBlockHeader f.reader
  if block.blockType = x.blockTypeAlarmAck then ackInSequence env f r x
  else if block.blockType = x.blockTypeAlarmNotify then notifyInSequence env f r x
  else
    (-1, x.errorInd PNET_ERROR_CODE_1_RTA_ERR_CLS_PROTOCOL
      PNET_ERROR_CODE_2_ABORT_AR_ALARM_IND_ERROR)

/-- Any other number. -/
def outOfSequence (env : Surroundings) (x : Apmx) : ℤ × Apmx :=
  let x := { x with
    errCls := PNET_ERROR_CODE_1_RTA_ERR_CLS_PROTOCOL, errCode := PNET_ERROR_CODE_2_ABORT_CODE_SEQ }
  let x := x.emit (.logBook ⟨ PNET_ERROR_CODE_PNIO, PNET_ERROR_DECODE_PNIO, x.errCls, x.errCode⟩)
  (0, (x.sendNack env).2)

/-- `pf_alarm_apmr_a_data_ind`. -/
def apmrDataInd (env : Surroundings) (f : DataFrame) (x : Apmx) : ℤ × Apmx :=
  match x.apmrState with
  | .PF_APMR_STATE_CLOSED => (0, x)
  | .PF_APMR_STATE_OPEN =>
    if f.fixed.tack = false then (0, x)
    else if f.fixed.sendSeqNum = x.expSeqCount then inSequence env f x
    else if f.fixed.sendSeqNum = x.expSeqCountO then
      (0, (sendAck env (apmsDataInd env f.fixed x)).2)
    else outOfSequence env x
  | .PF_APMR_STATE_WCNF => (-1, x)

/-- `pf_alarm_apmx_activate`, for the high (1) or the low (0) priority. -/
def activate (high : Bool) (srcRef dstRef : BitVec 16) : Apmx where
  srcRef := srcRef
  dstRef := dstRef
  blockTypeAlarmNotify :=
    if high then PF_BT_ALARM_NOTIFICATION_HIGH else PF_BT_ALARM_NOTIFICATION_LOW
  blockTypeAlarmAck := if high then PF_BT_ALARM_ACK_HIGH else PF_BT_ALARM_ACK_LOW
  apmrState := .PF_APMR_STATE_OPEN
  expSeqCount := 0xffff
  expSeqCountO := 0xfffe
  neighbours := ⟨.PF_ALPMI_STATE_W_ALARM, .PF_ALPMR_STATE_W_NOTIFY, .PF_APMS_STATE_OPEN, 0xffff,
    0xfffe, false⟩
  errCls := 0
  errCode := 0
  log := []

end Apmx

end PNet.Alarm
