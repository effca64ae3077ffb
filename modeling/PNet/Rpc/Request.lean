import PNet.Rpc.Receive

/-! # The parts of a request

What the requests of the device interface begin with, and the control, read and write blocks.
-/

namespace PNet.Rpc

open Block

def uuidIoDeviceInterface : Uuid :=
  ⟨0xDEA00001, 0x6C97, 0x11D1, #v[0x82, 0x71, 0x00, 0xA0, 0x24, 0x42, 0xDF, 0x7D]⟩

/-- `implicit_ar`. -/
def implicitAr : Uuid := zeroUuid

def PF_RPC_DEV_OPNUM_READ : BitVec 16 := 2
def PF_RPC_DEV_OPNUM_CONTROL : BitVec 16 := 4
def PF_RPC_DEV_OPNUM_READ_IMPLICIT : BitVec 16 := 5

def PF_BT_IOD_WRITE_REQ_HEADER : BitVec 16 := 0x0008
def PF_BT_IOD_READ_REQ_HEADER : BitVec 16 := 0x0009
def PF_BT_PRMEND_REQ : BitVec 16 := 0x0110
def PF_BT_PRMBEGIN_REQ : BitVec 16 := 0x0118
def PF_BT_INTERFACE_ADJUST : BitVec 16 := 0x0250

/-- `pf_block_header_t`. -/
structure BlockHeader where
  blockType : BitVec 16
  blockLength : BitVec 16
  blockVersionHigh : Byte
  blockVersionLow : Byte
deriving DecidableEq, Repr

/-- `sizeof (pf_block_header_t)`. -/
def blockHeaderSize : ℕ := 6

/-- `pf_control_block_t`. -/
structure ControlBlock where
  arUuid : Uuid
  sessionKey : BitVec 16
  alarmSequenceNumber : BitVec 16
  controlCommand : BitVec 16
  controlBlockProperties : BitVec 16
deriving DecidableEq, Repr

def clearedControl : ControlBlock := ⟨zeroUuid, 0, 0, 0, 0⟩

/-- `pf_get_ndr_data`. -/
def getNdrData : Get NdrData := do
  let argsMaximum ← getUint32
  let argsLength ← getUint32
  let maximumCount ← getUint32
  let offset ← getUint32
  let actualCount ← getUint32
  return ⟨argsMaximum, argsLength, maximumCount, offset, actualCount⟩

/-- `pf_get_block_header`. -/
def getBlockHeader : Get BlockHeader := do
  let blockType ← getUint16
  let blockLength ← getUint16
  let blockVersionHigh ← getByte
  let blockVersionLow ← getByte
  return ⟨blockType, blockLength, blockVersionHigh, blockVersionLow⟩

/-- `pf_get_control`. -/
def getControl (dest : ControlBlock) : Get ControlBlock := do
  let _ ← getUint16
  let arUuid ← getUuid dest.arUuid
  let sessionKey ← getUint16
  let alarmSequenceNumber ← getUint16
  let controlCommand ← getUint16
  let controlBlockProperties ← getUint16
  return ⟨arUuid, sessionKey, alarmSequenceNumber, controlCommand, controlBlockProperties⟩

def getPadding : ℕ → Get Unit
  | 0 => pure ()
  | n + 1 => do
    let _ ← getByte
    getPadding n

/-- `pf_iod_write_request_t`, less its padding. -/
structure WriteRequest where
  sequenceNumber : BitVec 16
  arUuid : Uuid
  api : BitVec 32
  slotNumber : BitVec 16
  subslotNumber : BitVec 16
  index : BitVec 16
  recordDataLength : BitVec 32
deriving DecidableEq, Repr

def clearedWriteRequest : WriteRequest := ⟨0, zeroUuid, 0, 0, 0, 0, 0⟩

/-- `pf_get_write_request`. -/
def getWriteRequest (dest : WriteRequest) : Get WriteRequest := do
  let sequenceNumber ← getUint16
  let arUuid ← getUuid dest.arUuid
  let api ← getUint32
  let slotNumber ← getUint16
  let subslotNumber ← getUint16
  getPadding 2
  let index ← getUint16
  let recordDataLength ← getUint32
  getPadding 24
  return ⟨sequenceNumber, arUuid, api, slotNumber, subslotNumber, index, recordDataLength⟩

/-- `pf_iod_read_request_t`, less its padding. -/
structure ReadRequest where
  sequenceNumber : BitVec 16
  arUuid : Uuid
  api : BitVec 32
  slotNumber : BitVec 16
  subslotNumber : BitVec 16
  index : BitVec 16
  recordDataLength : BitVec 32
  targetArUuid : Uuid
deriving DecidableEq, Repr

def clearedReadRequest : ReadRequest := ⟨0, zeroUuid, 0, 0, 0, 0, 0, zeroUuid⟩

/-- `pf_get_read_request`. -/
def getReadRequest (dest : ReadRequest) : Get ReadRequest := do
  let sequenceNumber ← getUint16
  let arUuid ← getUuid dest.arUuid
  let api ← getUint32
  let slotNumber ← getUint16
  let subslotNumber ← getUint16
  getPadding 2
  let index ← getUint16
  let recordDataLength ← getUint32
  let targetArUuid ← getUuid dest.targetArUuid
  getPadding 8
  return ⟨sequenceNumber, arUuid, api, slotNumber, subslotNumber, index, recordDataLength,
    targetArUuid⟩

/-- The header fits the input, and so does the rest of the block. -/
def blockFits (header : BlockHeader) (r : Reader) : Bool :=
  r.pos + header.blockLength.toNat + 4 - blockHeaderSize ≤ r.info.len ∧
    r.info.result = .PF_PARSE_OK

/-! ## Their lengths -/

theorem takes_uuid (dest : Uuid) : Takes 16 (getUuid dest) :=
  takes_uint32.bind fun _ => takes_uint16.bind fun _ => takes_uint16.bind fun _ =>
    (takes_mem dest.data4).map _

theorem agree_uuid (dest dest' : Uuid) : Agree 16 (getUuid dest) (getUuid dest') :=
  takes_uint32.agree fun _ => takes_uint16.agree fun _ => takes_uint16.agree fun _ =>
    (agree_mem dest.data4 dest'.data4).bind (takes_mem dest.data4) fun _ => Agree.refl _

theorem takes_padding (n : ℕ) : Takes n (getPadding n) := by
  induction n with
  | zero => exact Takes.pure ()
  | succ n ih =>
    have h : Takes (1 + n) (getPadding (n + 1)) := takes_byte.bind fun _ => ih
    rwa [Nat.add_comm] at h

theorem takes_blockHeader : Takes blockHeaderSize getBlockHeader :=
  takes_uint16.bind fun _ => takes_uint16.bind fun _ => takes_byte.bind fun _ => takes_byte.map _

theorem moves_blockHeader : Moves getBlockHeader :=
  moves_uint16.bind fun _ => moves_uint16.bind fun _ => moves_byte.bind fun _ => moves_byte.map _

theorem moves_uuid (dest : Uuid) : Moves (getUuid dest) :=
  moves_uint32.bind fun _ => moves_uint16.bind fun _ => moves_uint16.bind fun _ =>
    (moves_mem dest.data4).map _

theorem moves_padding (n : ℕ) : Moves (getPadding n) := by
  induction n with
  | zero => exact Moves.pure ()
  | succ n ih => exact moves_byte.bind fun _ => ih

theorem moves_writeRequest (dest : WriteRequest) : Moves (getWriteRequest dest) :=
  moves_uint16.bind fun _ => (moves_uuid _).bind fun _ => moves_uint32.bind fun _ =>
    moves_uint16.bind fun _ => moves_uint16.bind fun _ => (moves_padding 2).bind fun _ =>
    moves_uint16.bind fun _ => moves_uint32.bind fun _ => (moves_padding 24).map _

/-- The length of a write header behind its block header. -/
def writeRequestSize : ℕ := 58

theorem takes_writeRequest (dest : WriteRequest) : Takes writeRequestSize (getWriteRequest dest) :=
  takes_uint16.bind fun _ => (takes_uuid _).bind fun _ => takes_uint32.bind fun _ =>
    takes_uint16.bind fun _ => takes_uint16.bind fun _ => (takes_padding 2).bind fun _ =>
    takes_uint16.bind fun _ => takes_uint32.bind fun _ => (takes_padding 24).map _

theorem agree_writeRequest (dest dest' : WriteRequest) :
    Agree writeRequestSize (getWriteRequest dest) (getWriteRequest dest') :=
  takes_uint16.agree fun _ => (agree_uuid _ _).bind (takes_uuid _) fun _ =>
    takes_uint32.agree fun _ => takes_uint16.agree fun _ => takes_uint16.agree fun _ =>
    (takes_padding 2).agree fun _ => takes_uint16.agree fun _ => takes_uint32.agree fun _ =>
    (takes_padding 24).agree fun _ => Agree.refl _

end PNet.Rpc
