import PNet.Options
import PNet.Result
import PNet.Rpc.Header

/-! # RPC sessions

`pf_session_info_t`: one session for each activity UUID, with the request that is being
put together in `inBuffer` and the response that is being sent from `outBuffer`. A
pointer to an AR is the index of the AR in `cmrpc_ar`.
-/

namespace PNet.Rpc

open Block

/-! ## Sessions -/

/-- `pf_ndr_data_t`, with its array. -/
structure NdrData where
  argsMaximum : BitVec 32
  argsLength : BitVec 32
  maximumCount : BitVec 32
  offset : BitVec 32
  actualCount : BitVec 32
deriving DecidableEq, Repr

/-- `pf_session_info_t`. The lengths and positions are `uint16_t`. -/
structure Session where
  inUse : Bool
  releaseInProgress : Bool
  killSession : Bool
  socket : ℤ
  /-- `p_ar`. -/
  ar : Option ℕ
  fromMe : Bool
  activityUuid : Uuid
  ipAddr : BitVec 32
  port : BitVec 16
  inBuffer : ℕ → Byte
  inBufLen : ℕ
  inFragmentNbr : BitVec 16
  outBuffer : ℕ → Byte
  outBufLen : ℕ
  outBufSentPos : ℕ
  outBufSendLen : ℕ
  outFragmentNbr : BitVec 16
  getInfo : GetInfo
  isBigEndian : Bool
  rpcResult : PnetResult
  ndrData : NdrData
  dcontrolSequenceNmb : BitVec 32
  dcontrolResult : PnetResult
  /-- Whether `resend_timeout` is running. -/
  resendTimeout : Bool
  resendCounter : ℕ

/-- A session cleared by `memset`, its socket closed. -/
def clearedSession : Session where
  inUse := false
  releaseInProgress := false
  killSession := false
  socket := -1
  ar := none
  fromMe := false
  activityUuid := zeroUuid
  ipAddr := 0
  port := 0
  inBuffer := fun _ => 0
  inBufLen := 0
  inFragmentNbr := 0
  outBuffer := fun _ => 0
  outBufLen := 0
  outBufSentPos := 0
  outBufSendLen := 0
  outFragmentNbr := 0
  getInfo := ⟨.PF_PARSE_OK, false, fun _ => 0, 0⟩
  isBigEndian := false
  rpcResult := noError
  ndrData := ⟨0, 0, 0, 0, 0⟩
  dcontrolSequenceNmb := 0
  dcontrolResult := noError
  resendTimeout := false
  resendCounter := 0

def uint16 (n : ℕ) : ℕ := n % 2 ^ 16

theorem uint16_of_lt {n : ℕ} (h : n < 2 ^ 16) : uint16 n = n := Nat.mod_eq_of_lt h

/-! ## Packets -/

def PF_RPC_PT_REQUEST : Byte := 0
def PF_RPC_PT_PING : Byte := 1
def PF_RPC_PT_RESPONSE : Byte := 2
def PF_RPC_PT_FAULT : Byte := 3
def PF_RPC_PT_REJECT : Byte := 6
def PF_RPC_PT_CL_CANCEL : Byte := 8
def PF_RPC_PT_FRAG_ACK : Byte := 9

def PF_CMRPC_NUMBER_OF_RESENDS : ℕ := 3

/-- The payload of a UDP packet: `len` bytes of a buffer. -/
structure Datagram where
  buf : ℕ → Byte
  len : ℕ

/-- A datagram with its originator. -/
structure Packet extends Datagram where
  ipAddr : BitVec 32
  port : BitVec 16

/-- The header `rpc_req` before it has been filled in. -/
def blankHeader : RpcHeader :=
  ⟨0, 0, ⟨false, false, false, false, false, false⟩, false, false, 0, 0, 0, zeroUuid, zeroUuid,
    zeroUuid, 0, 0, 0, 0, 0, 0, 0, 0, 0, 0⟩

/-- The header of a datagram, and the parser behind it. -/
@[irreducible] def received (d : Datagram) : RpcHeader × Reader :=
  getDceRpcHeader blankHeader ⟨⟨.PF_PARSE_OK, false, d.buf, d.len⟩, 0⟩

theorem received_floatRepr (d : Datagram) : (received d).1.floatRepr = 0 := by
  rw [received]
  exact yields_floatRepr blankHeader _

/-- A datagram as its receiver takes it apart. -/
structure Pdu where
  header : RpcHeader
  body : List Byte

/-- The body are the `length_of_body` bytes behind the header, as far as they are there. -/
def pduOf (d : Datagram) : Pdu :=
  let (rpc, r) := received d
  ⟨rpc, Buffer.slice d.buf r.pos (min rpc.lengthOfBody.toNat (d.len - r.pos))⟩

/-- The test of `pf_cmrpc_dce_packet` for the end of a message. -/
def Pdu.endsMessage (p : Pdu) : Bool := !p.header.flags.fragment || p.header.flags.lastFragment

/-- A datagram that starts with a header. -/
theorem received_eq {d : Datagram} {h : RpcHeader} (hfit : h.Fits)
    (hhdr : Buffer.slice d.buf 0 80 = headerBytes h) (hlen : 80 ≤ d.len) :
    received d = (h, ⟨⟨.PF_PARSE_OK, h.isBigEndian, d.buf, d.len⟩, 80⟩) := by
  have hread := reads_header false blankHeader h hfit ⟨⟨.PF_PARSE_OK, false, d.buf, d.len⟩, 0⟩ rfl
    rfl (by rw [headerBytes_length]; exact hhdr)
    (by rw [headerBytes_length]; show 0 + 80 ≤ d.len; omega)
  rw [received, hread, headerBytes_length]
  rfl

/-- A header with a body behind it, on the wire. -/
def datagramOf (h : RpcHeader) (body : List Byte) : Datagram :=
  ⟨Buffer.write (Buffer.write (fun _ => 0) 0 (headerBytes h)) 80 body, 80 + body.length⟩

theorem received_datagramOf {h : RpcHeader} (hfit : h.Fits) (body : List Byte) :
    (received (datagramOf h body)).1 = h := by
  have hself := Buffer.slice_write_self (fun _ => (0 : Byte)) 0 (headerBytes h)
  rw [headerBytes_length] at hself
  have hhdr : Buffer.slice (datagramOf h body).buf 0 80 = headerBytes h := by
    rw [← hself]
    exact Buffer.slice_write_disjoint (by omega)
  rw [received_eq hfit hhdr (Nat.le_add_right 80 _)]

/-- A datagram that holds a header and the body the header announces. -/
theorem pduOf_eq {d : Datagram} {h : RpcHeader} (hfit : h.Fits)
    (hhdr : Buffer.slice d.buf 0 80 = headerBytes h) (hlen : 80 + h.lengthOfBody.toNat ≤ d.len) :
    pduOf d = ⟨h, Buffer.slice d.buf 80 h.lengthOfBody.toNat⟩ := by
  have hmin : min h.lengthOfBody.toNat (d.len - 80) = h.lengthOfBody.toNat := by omega
  simp only [pduOf, received_eq hfit hhdr (by omega), hmin]

/-- Patching the length of the body. -/
theorem slice_patch {b : ℕ → Byte} {h : RpcHeader} (hhdr : Buffer.slice b 0 80 = headerBytes h)
    (val : BitVec 16) :
    Buffer.slice (Buffer.write b 74 (bytes16 h.isBigEndian val)) 0 80 =
      headerBytes (h.withLength val) := by
  have hsplit : Buffer.slice b 0 74 ++ Buffer.slice b 74 2 ++ Buffer.slice b 76 4 =
      frontBytes h ++ bytes16 h.isBigEndian h.lengthOfBody ++ endBytes h := by
    rw [← Buffer.slice_add, ← Buffer.slice_add b 0 (74 + 2) 4]
    exact hhdr
  have h1 := List.append_inj hsplit (by simp)
  have h2 := List.append_inj h1.1 (by simp)
  have hfront : Buffer.slice (Buffer.write b 74 (bytes16 h.isBigEndian val)) 0 74 =
      frontBytes h := by
    rw [Buffer.slice_write_disjoint (by omega)]
    exact h2.1
  have hend : Buffer.slice (Buffer.write b 74 (bytes16 h.isBigEndian val)) 76 4 = endBytes h := by
    rw [Buffer.slice_write_disjoint (by rw [bytes16_length]; omega)]
    exact h1.2
  have hmid : Buffer.slice (Buffer.write b 74 (bytes16 h.isBigEndian val)) 74 2 =
      bytes16 h.isBigEndian val := by
    have hself := Buffer.slice_write_self b 74 (bytes16 h.isBigEndian val)
    rwa [bytes16_length] at hself
  calc Buffer.slice (Buffer.write b 74 (bytes16 h.isBigEndian val)) 0 80
      = Buffer.slice (Buffer.write b 74 (bytes16 h.isBigEndian val)) 0 74 ++
          Buffer.slice (Buffer.write b 74 (bytes16 h.isBigEndian val)) 74 2 ++
          Buffer.slice (Buffer.write b 74 (bytes16 h.isBigEndian val)) 76 4 := by
        rw [← Buffer.slice_add, ← Buffer.slice_add]
    _ = frontBytes h ++ bytes16 h.isBigEndian val ++ endBytes h := by rw [hfront, hmid, hend]

end PNet.Rpc
