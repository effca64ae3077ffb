import PNet.Rpc.Session

/-! # Receiving a packet

The first half of `pf_cmrpc_dce_packet`: an incoming packet is filed in its session, the
fragments of a request are put together in `inBuffer`.
-/

namespace PNet.Rpc

open Block

/-- The error of a fragment that does not fit what has been received so far. -/
def stateConflict (s : Session) : Session :=
  { s with
    rpcResult := setError s.rpcResult PNET_ERROR_CODE_CONNECT PNET_ERROR_DECODE_PNIO
      PNET_ERROR_CODE_1_CMRPC PNET_ERROR_CODE_2_CMRPC_STATE_CONFLICT }

/-- What an unfragmented message and the first fragment of a message set. -/
def startMessage (p : Packet) (rpcReq : RpcHeader) (s : Session) : Session :=
  { s with
    inBufLen := 0
    ipAddr := p.ipAddr
    port := p.port
    activityUuid := rpcReq.activityUuid
    isBigEndian := s.getInfo.isBigEndian
    inFragmentNbr := 0
    killSession := false }

/-- "Fragment validation"; answers the position of the parser as well. -/
def addFragment (p : Packet) (rpcReq : RpcHeader) (reqPos : ℕ) (s : Session) : Session × ℕ :=
  if s.inFragmentNbr ≠ rpcReq.fragmentNmb then (stateConflict s, reqPos)
  else if PNET_MAX_SESSION_BUFFER_SIZE < s.inBufLen + rpcReq.lengthOfBody.toNat then
    (stateConflict s, reqPos)
  else
    -- the length of the body is not compared with the length of the packet
    let s := { s with
      inBuffer := Buffer.write s.inBuffer s.inBufLen
        (Buffer.slice p.buf reqPos rpcReq.lengthOfBody.toNat)
      inBufLen := uint16 (s.inBufLen + rpcReq.lengthOfBody.toNat)
      inFragmentNbr := s.inFragmentNbr + 1 }
    if rpcReq.flags.lastFragment then
      ({ s with getInfo := { s.getInfo with buf := s.inBuffer, len := s.inBufLen } }, 0)
    else (s, reqPos)

/-- The endianness of a fragment that follows the first one. -/
def checkEndian (rpcReq : RpcHeader) (s : Session) : Session :=
  if s.isBigEndian ≠ rpcReq.isBigEndian then stateConflict s else s

/-- `pf_cmrpc_dce_packet`, from the session that has been found for the packet up to where
the resending stops. -/
def receivePacket (p : Packet) (s : Session) : Session × ℕ :=
  let (rpcReq, r) := received p.toDatagram
  let s := { s with getInfo := r.info, rpcResult := noError }
  let (s, reqPos) :=
    if rpcReq.flags.fragment = false then (startMessage p rpcReq s, r.pos)
    else
      let s := if rpcReq.fragmentNmb = 0 then startMessage p rpcReq s else checkEndian rpcReq s
      addFragment p rpcReq r.pos s
  ({ s with resendTimeout := false }, reqPos)

end PNet.Rpc
