import PNet.Block.Reader

/-! # The DCE RPC header

`pf_put_dce_rpc_header` and `pf_get_dce_rpc_header`: 80 bytes in either byte order.

* `appends_header`: what the writer puts, and where the body length stands in it.
* `reads_header`: the reader gets back every field of what the writer has put, for the
  headers whose fields fit the wire (`RpcHeader.Fits`).
-/

namespace PNet.Rpc

open Block

/-! ## Fields -/

/-- `pf_uuid_t`. -/
structure Uuid where
  data1 : BitVec 32
  data2 : BitVec 16
  data3 : BitVec 16
  data4 : Vector Byte 8
deriving DecidableEq, Repr

def zeroUuid : Uuid := ⟨0, 0, 0, Vector.replicate 8 0⟩

/-- `pf_rpc_flags_t`. -/
structure RpcFlags where
  lastFragment : Bool
  fragment : Bool
  noFack : Bool
  maybe : Bool
  idempotent : Bool
  broadcast : Bool
deriving DecidableEq, Repr

/-- `pf_rpc_header_t`. -/
structure RpcHeader where
  version : Byte
  packetType : Byte
  flags : RpcFlags
  /-- `flags2`, of one member. -/
  cancelPending : Bool
  isBigEndian : Bool
  floatRepr : Byte
  reserved : Byte
  /-- High octet of the fragment number. -/
  serialHigh : Byte
  objectUuid : Uuid
  interfaceUuid : Uuid
  activityUuid : Uuid
  serverBootTime : BitVec 32
  interfaceVersion : BitVec 32
  sequenceNmb : BitVec 32
  opnum : BitVec 16
  interfaceHint : BitVec 16
  activityHint : BitVec 16
  lengthOfBody : BitVec 16
  fragmentNmb : BitVec 16
  authProtocol : Byte
  /-- Low octet of the fragment number. -/
  serialLow : Byte
deriving DecidableEq, Repr

def PF_RPC_F_LAST_FRAGMENT : ℕ := 1
def PF_RPC_F_FRAGMENT : ℕ := 2
def PF_RPC_F_NO_FACK : ℕ := 3
def PF_RPC_F_MAYBE : ℕ := 4
def PF_RPC_F_IDEMPOTENT : ℕ := 5
def PF_RPC_F_BROADCAST : ℕ := 6
def PF_RPC_F2_CANCEL_PENDING : ℕ := 1

/-! ## Writing -/

def putUuid (isBigEndian : Bool) (uuid : Uuid) (resLen : ℕ) (w : Writer) : Writer :=
  putMem uuid.data4.toList resLen
    (putUint16 isBigEndian uuid.data3 resLen
      (putUint16 isBigEndian uuid.data2 resLen (putUint32 isBigEndian uuid.data1 resLen w)))

def bit (b : Bool) : BitVec 32 := if b then 1 else 0

/-- The byte of the flags. -/
def flagsByte (f : RpcFlags) : Byte :=
  (putBits (bit f.broadcast) 1 PF_RPC_F_BROADCAST
    (putBits (bit f.idempotent) 1 PF_RPC_F_IDEMPOTENT
      (putBits (bit f.maybe) 1 PF_RPC_F_MAYBE
        (putBits (bit f.noFack) 1 PF_RPC_F_NO_FACK
          (putBits (bit f.fragment) 1 PF_RPC_F_FRAGMENT
            (putBits (bit f.lastFragment) 1 PF_RPC_F_LAST_FRAGMENT 0)))))).setWidth 8

/-- The byte of the data representation: always ASCII. -/
def dataReprByte (isBigEndian : Bool) : Byte :=
  (putBits (if isBigEndian then 0 else 1) 4 4 0).setWidth 8

/-- `pf_put_dce_rpc_header` up to the length of the body. -/
def putHeaderFront (h : RpcHeader) (resLen : ℕ) (w : Writer) : Writer :=
  let e := h.isBigEndian
  let w := putByte h.version resLen w
  let w := putByte h.packetType resLen w
  let w := putByte (flagsByte h.flags) resLen w
  let w := putByte 0 resLen w
  let w := putByte (dataReprByte e) resLen w
  let w := putByte h.floatRepr resLen w
  let w := putByte h.reserved resLen w
  let w := putByte h.serialHigh resLen w
  let w := putUuid e h.objectUuid resLen w
  let w := putUuid e h.interfaceUuid resLen w
  let w := putUuid e h.activityUuid resLen w
  let w := putUint32 e h.serverBootTime resLen w
  let w := putUint32 e h.interfaceVersion resLen w
  let w := putUint32 e h.sequenceNmb resLen w
  let w := putUint16 e h.opnum resLen w
  let w := putUint16 e h.interfaceHint resLen w
  putUint16 e h.activityHint resLen w

/-- `pf_put_dce_rpc_header` from the length of the body on. -/
def putHeaderBack (h : RpcHeader) (resLen : ℕ) (w : Writer) : Writer :=
  let e := h.isBigEndian
  let w := putUint16 e h.lengthOfBody resLen w
  let w := putUint16 e h.fragmentNmb resLen w
  let w := putByte h.authProtocol resLen w
  putByte h.serialLow resLen w

/-- `pf_put_dce_rpc_header`, with `*p_pos_body_len`. -/
def putDceRpcHeader (h : RpcHeader) (resLen : ℕ) (w : Writer) : Writer × ℕ :=
  let w := putHeaderFront h resLen w
  (putHeaderBack h resLen w, w.pos)

/-! ## Reading -/

def getUuid (dest : Uuid) : Get Uuid := do
  let data1 ← getUint32
  let data2 ← getUint16
  let data3 ← getUint16
  let data4 ← getMem dest.data4
  return ⟨data1, data2, data3, data4⟩

def getFlag (byte : Byte) (pos : ℕ) : Bool := getBits (byte.setWidth 32) pos 1 != 0

def flagsOf (byte : Byte) : RpcFlags where
  lastFragment := getFlag byte PF_RPC_F_LAST_FRAGMENT
  fragment := getFlag byte PF_RPC_F_FRAGMENT
  noFack := getFlag byte PF_RPC_F_NO_FACK
  maybe := getFlag byte PF_RPC_F_MAYBE
  idempotent := getFlag byte PF_RPC_F_IDEMPOTENT
  broadcast := getFlag byte PF_RPC_F_BROADCAST

/-- The rest of the input is read in this byte order. -/
def setBigEndian (e : Bool) : Get Unit :=
  modify fun r => { r with info := { r.info with isBigEndian := e } }

/-- `pf_get_dce_rpc_header`; `dest` is what the destination holds before. -/
def getDceRpcHeader (dest : RpcHeader) : Get RpcHeader := do
  let version ← getByte
  let packetType ← getByte
  let flags ← getByte
  let flags2 ← getByte
  let dataRepr ← getByte
  let isBigEndian := getBits (dataRepr.setWidth 32) 4 4 == 0
  setBigEndian isBigEndian
  let _ ← getByte
  let reserved ← getByte
  let serialHigh ← getByte
  let objectUuid ← getUuid dest.objectUuid
  let interfaceUuid ← getUuid dest.interfaceUuid
  let activityUuid ← getUuid dest.activityUuid
  let serverBootTime ← getUint32
  let interfaceVersion ← getUint32
  let sequenceNmb ← getUint32
  let opnum ← getUint16
  let interfaceHint ← getUint16
  let activityHint ← getUint16
  let lengthOfBody ← getUint16
  let fragmentNmb ← getUint16
  let authProtocol ← getByte
  let serialLow ← getByte
  return {
    version, packetType := packetType &&& 0x1f, flags := flagsOf flags
    cancelPending := getFlag flags2 PF_RPC_F2_CANCEL_PENDING
    isBigEndian, floatRepr := 0, reserved, serialHigh
    objectUuid, interfaceUuid, activityUuid, serverBootTime, interfaceVersion, sequenceNmb
    opnum, interfaceHint, activityHint, lengthOfBody, fragmentNmb, authProtocol, serialLow }

/-! ## The bytes of a header -/

def uuidBytes (e : Bool) (u : Uuid) : List Byte :=
  bytes32 e u.data1 ++ bytes16 e u.data2 ++ bytes16 e u.data3 ++ u.data4.toList

@[simp] theorem uuidBytes_length (e : Bool) (u : Uuid) : (uuidBytes e u).length = 16 := by
  simp [uuidBytes]

/-- Up to the length of the body. -/
def frontBytes (h : RpcHeader) : List Byte :=
  [h.version] ++ [h.packetType] ++ [flagsByte h.flags] ++ [0] ++ [dataReprByte h.isBigEndian] ++
    [h.floatRepr] ++ [h.reserved] ++ [h.serialHigh] ++ uuidBytes h.isBigEndian h.objectUuid ++
    uuidBytes h.isBigEndian h.interfaceUuid ++ uuidBytes h.isBigEndian h.activityUuid ++
    bytes32 h.isBigEndian h.serverBootTime ++ bytes32 h.isBigEndian h.interfaceVersion ++
    bytes32 h.isBigEndian h.sequenceNmb ++ bytes16 h.isBigEndian h.opnum ++
    bytes16 h.isBigEndian h.interfaceHint ++ bytes16 h.isBigEndian h.activityHint

/-- Past the length of the body. -/
def endBytes (h : RpcHeader) : List Byte :=
  bytes16 h.isBigEndian h.fragmentNmb ++ [h.authProtocol] ++ [h.serialLow]

def headerBytes (h : RpcHeader) : List Byte :=
  frontBytes h ++ bytes16 h.isBigEndian h.lengthOfBody ++ endBytes h

@[simp] theorem frontBytes_length (h : RpcHeader) : (frontBytes h).length = 74 := by
  simp [frontBytes]

@[simp] theorem endBytes_length (h : RpcHeader) : (endBytes h).length = 4 := by
  simp [endBytes]

@[simp] theorem headerBytes_length (h : RpcHeader) : (headerBytes h).length = 80 := by
  simp [headerBytes]

/-- The header with another length of the body. -/
def RpcHeader.withLength (h : RpcHeader) (len : BitVec 16) : RpcHeader :=
  { h with lengthOfBody := len }

/-! ## Writing and reading agree -/

theorem appends_uuid {resLen : ℕ} (e : Bool) (u : Uuid) :
    Appends resLen (putUuid e u resLen) (uuidBytes e u) :=
  (((appends_uint32 e _).comp (appends_uint16 e _)).comp (appends_uint16 e _)).comp (appends_mem _)

theorem appends_front {resLen : ℕ} (h : RpcHeader) :
    Appends resLen (putHeaderFront h resLen) (frontBytes h) :=
  (((((((((((((((((appends_byte _).comp (appends_byte _)).comp (appends_byte _)).comp
    (appends_byte _)).comp (appends_byte _)).comp (appends_byte _)).comp (appends_byte _)).comp
    (appends_byte _)).comp (appends_uuid _ _)).comp (appends_uuid _ _)).comp
    (appends_uuid _ _)).comp (appends_uint32 _ _)).comp (appends_uint32 _ _)).comp
    (appends_uint32 _ _)).comp (appends_uint16 _ _)).comp (appends_uint16 _ _)).comp
    (appends_uint16 _ _))

theorem appends_back {resLen : ℕ} (h : RpcHeader) :
    Appends resLen (putHeaderBack h resLen)
      (bytes16 h.isBigEndian h.lengthOfBody ++ endBytes h) := by
  have hb : Appends resLen (putHeaderBack h resLen) (bytes16 h.isBigEndian h.lengthOfBody ++
      bytes16 h.isBigEndian h.fragmentNmb ++ [h.authProtocol] ++ [h.serialLow]) :=
    (((appends_uint16 _ _).comp (appends_uint16 _ _)).comp (appends_byte _)).comp (appends_byte _)
  rw [List.append_assoc, List.append_assoc] at hb
  rw [endBytes, List.append_assoc]
  exact hb

/-- With room for it the writer puts the 80 bytes of the header; the body length stands
at 74. -/
theorem putDceRpcHeader_eq {resLen : ℕ} (h : RpcHeader) (w : Writer)
    (hroom : w.pos + 80 ≤ resLen) :
    putDceRpcHeader h resLen w = (w.append (headerBytes h), w.pos + 74) := by
  have hfront : putHeaderFront h resLen w = w.append (frontBytes h) :=
    appends_front h w (by rw [frontBytes_length]; omega)
  have hback : putHeaderBack h resLen (w.append (frontBytes h)) =
      (w.append (frontBytes h)).append (bytes16 h.isBigEndian h.lengthOfBody ++ endBytes h) := by
    refine appends_back h _ ?_
    simp only [Writer.append, frontBytes_length, List.length_append, bytes16_length,
      endBytes_length]
    omega
  rw [putDceRpcHeader, hfront, hback, Writer.append_append, ← List.append_assoc]
  simp [headerBytes, Writer.append]

/-- The fields that have fewer values on the wire than in the record. -/
structure RpcHeader.Fits (h : RpcHeader) : Prop where
  packetType : h.packetType.toNat < 32
  cancelPending : h.cancelPending = false
  floatRepr : h.floatRepr = 0

theorem RpcHeader.Fits.withLength {h : RpcHeader} (hfit : h.Fits) (len : BitVec 16) :
    (h.withLength len).Fits :=
  ⟨hfit.packetType, hfit.cancelPending, hfit.floatRepr⟩

theorem yields_floatRepr (dest : RpcHeader) :
    Yields (fun h => h.floatRepr = 0) (getDceRpcHeader dest) := by
  rw [getDceRpcHeader]
  iterate 22 refine Yields.bind fun _ => ?_
  intro r
  rfl

theorem flagsOf_flagsByte (f : RpcFlags) : flagsOf (flagsByte f) = f := by
  obtain ⟨a, b, c, d, e, f⟩ := f
  cases a <;> cases b <;> cases c <;> cases d <;> cases e <;> cases f <;> rfl

theorem dataReprByte_read (e : Bool) : (getBits ((dataReprByte e).setWidth 32) 4 4 == 0) = e := by
  cases e <;> rfl

theorem reads_setBigEndian (e e' : Bool) : Reads e (setBigEndian e') [] () e' := by
  intro r _ _ _ _
  rfl

theorem reads_uuid (e : Bool) (dest u : Uuid) : Reads e (getUuid dest) (uuidBytes e u) u e := by
  have h : Reads e (getUuid dest)
      (bytes32 e u.data1 ++ (bytes16 e u.data2 ++ (bytes16 e u.data3 ++ u.data4.toList))) u e :=
    (reads_uint32 e _).bind ((reads_uint16 e _).bind
      ((reads_uint16 e _).bind ((reads_mem e _ _).map _)))
  rw [← List.append_assoc, ← List.append_assoc] at h
  exact h

/-- What the reader makes of a header on the wire. -/
theorem reads_header (e : Bool) (dest h : RpcHeader) (hfit : h.Fits) :
    Reads e (getDceRpcHeader dest) (headerBytes h) h h.isBigEndian := by
  set e' := h.isBigEndian with he'
  have hread : Reads e (getDceRpcHeader dest)
      ([h.version] ++ ([h.packetType] ++ ([flagsByte h.flags] ++ ([0] ++ ([dataReprByte e'] ++
        ([] ++ ([h.floatRepr] ++ ([h.reserved] ++ ([h.serialHigh] ++ (uuidBytes e' h.objectUuid ++
        (uuidBytes e' h.interfaceUuid ++ (uuidBytes e' h.activityUuid ++
        (bytes32 e' h.serverBootTime ++ (bytes32 e' h.interfaceVersion ++
        (bytes32 e' h.sequenceNmb ++ (bytes16 e' h.opnum ++ (bytes16 e' h.interfaceHint ++
        (bytes16 e' h.activityHint ++ (bytes16 e' h.lengthOfBody ++ (bytes16 e' h.fragmentNmb ++
        ([h.authProtocol] ++ [h.serialLow])))))))))))))))))))))
      { h with
        packetType := h.packetType &&& 0x1f, flags := flagsOf (flagsByte h.flags)
        cancelPending := getFlag 0 PF_RPC_F2_CANCEL_PENDING
        isBigEndian := getBits ((dataReprByte e').setWidth 32) 4 4 == 0, floatRepr := 0 } e' := by
    refine (reads_byte e _).bind <| (reads_byte e _).bind <| (reads_byte e _).bind <|
      (reads_byte e _).bind <| (reads_byte e _).bind ?_
    rw [dataReprByte_read]
    exact (reads_setBigEndian e e').bind <| (reads_byte e' _).bind <| (reads_byte e' _).bind <|
      (reads_byte e' _).bind <| (reads_uuid e' _ _).bind <| (reads_uuid e' _ _).bind <|
      (reads_uuid e' _ _).bind <| (reads_uint32 e' _).bind <| (reads_uint32 e' _).bind <|
      (reads_uint32 e' _).bind <| (reads_uint16 e' _).bind <| (reads_uint16 e' _).bind <|
      (reads_uint16 e' _).bind <| (reads_uint16 e' _).bind <| (reads_uint16 e' _).bind <|
      (reads_byte e' _).bind <| (reads_byte e' _).map _
  have hbytes : headerBytes h = [h.version] ++ ([h.packetType] ++ ([flagsByte h.flags] ++ ([0] ++
      ([dataReprByte e'] ++ ([] ++ ([h.floatRepr] ++ ([h.reserved] ++ ([h.serialHigh] ++
      (uuidBytes e' h.objectUuid ++ (uuidBytes e' h.interfaceUuid ++ (uuidBytes e' h.activityUuid ++
      (bytes32 e' h.serverBootTime ++ (bytes32 e' h.interfaceVersion ++
      (bytes32 e' h.sequenceNmb ++ (bytes16 e' h.opnum ++ (bytes16 e' h.interfaceHint ++
      (bytes16 e' h.activityHint ++ (bytes16 e' h.lengthOfBody ++ (bytes16 e' h.fragmentNmb ++
      ([h.authProtocol] ++ [h.serialLow])))))))))))))))))))) := by
    simp [headerBytes, frontBytes, endBytes, ← he']
  have htype : h.packetType &&& 0x1f = h.packetType := by
    apply BitVec.eq_of_toNat_eq
    have hlt := hfit.packetType
    rw [BitVec.toNat_and]
    exact (Nat.and_two_pow_sub_one_eq_mod _ 5).trans (Nat.mod_eq_of_lt hlt)
  rw [htype, flagsOf_flagsByte, dataReprByte_read] at hread
  have hval : { h with
      packetType := h.packetType, flags := h.flags
      cancelPending := getFlag 0 PF_RPC_F2_CANCEL_PENDING
      isBigEndian := e', floatRepr := 0 } = h := by
    have hc : getFlag 0 PF_RPC_F2_CANCEL_PENDING = h.cancelPending := by
      rw [hfit.cancelPending]
      rfl
    rw [hc, ← hfit.floatRepr]
  rw [hval] at hread
  rw [hbytes]
  exact hread

end PNet.Rpc
