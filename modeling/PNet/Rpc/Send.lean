import PNet.Rpc.Receive

/-! # Sending a response

The response half of `pf_cmrpc_dce_packet`: the first packet of a response, and the next
fragment on every acknowledgement of the peer.

* `reply_delivered_iff`: the responses that reach a peer that acknowledges every fragment.
-/

namespace PNet.Rpc

open Block

/-! ## Model -/

/-- `pf_cmrpc_send_once`: what goes out, if anything. -/
def sendOnce (s : Session) : Option Datagram :=
  if s.outBufSendLen = 0 then none else some ⟨s.outBuffer, s.outBufSendLen⟩

/-- `pf_cmrpc_send_with_timeout`, while there are resends left. -/
def sendWithTimeout (s : Session) : Session × Option Datagram :=
  if s.socket < 0 then (s, none)
  else
    let s := { s with resendTimeout := false, resendCounter := s.resendCounter - 1 }
    match sendOnce s with
    | some d => ({ s with resendTimeout := true }, some d)
    | none => (s, none)

/-- The header of a response, not fragmented. -/
def responseHeader (s : Session) (rpcReq : RpcHeader) : RpcHeader :=
  { rpcReq with
    packetType := PF_RPC_PT_RESPONSE
    flags := ⟨false, false, true, false, true, false⟩
    cancelPending := false
    fragmentNmb := s.outFragmentNbr
    serialHigh := (s.outFragmentNbr >>> 8).setWidth 8
    serialLow := s.outFragmentNbr.setWidth 8
    isBigEndian := s.getInfo.isBigEndian }

/-- "A new request - clear the response buffer". -/
def clearResponse (s : Session) : Session :=
  { s with outBufLen := 0, outBufSentPos := 0, outBufSendLen := 0, outFragmentNbr := 0 }

/-- What `pf_cmrpc_dce_packet` remembers of the header in the response buffer. -/
structure ResponseStart where
  rpcRes : RpcHeader
  maxRspLen : ℕ
  rpcHdrStartPos : ℕ
  lengthOfBodyPos : ℕ
  startPos : ℕ

/-- "Insert the response header to get pos of rpc response body." -/
def beginResponse (rpcReq : RpcHeader) (maxRspLen : ℕ) (s : Session) :
    Session × ResponseStart :=
  let rpcRes := responseHeader s rpcReq
  let r := putDceRpcHeader rpcRes maxRspLen ⟨s.outBuffer, s.outBufLen⟩
  ({ s with outBuffer := r.1.bytes, outBufLen := r.1.pos },
    ⟨rpcRes, maxRspLen, s.outBufLen, r.2, r.1.pos⟩)

/-- "Also set the fragment bit in the RPC response header". -/
def fragmented (rpcRes : RpcHeader) : RpcHeader :=
  { rpcRes with flags := { rpcRes.flags with fragment := true, noFack := false } }

/-- The fragment in the buffer is sent, and sent again until the peer reacts. -/
def sendFragment (buf : ℕ → Byte) (sendLen : ℕ) (s : Session) : Session × Option Datagram :=
  sendWithTimeout { s with
    outBuffer := buf, outBufSendLen := sendLen, resendCounter := PF_CMRPC_NUMBER_OF_RESENDS }

/-- From "Our response will fit into send buffer" on: the response goes out, the whole of it
or the first fragment. -/
def endResponse (b : ResponseStart) (s : Session) : Session × Option Datagram :=
  if s.outBufLen < PF_MAX_UDP_PAYLOAD_SIZE then
    let w := putUint16 b.rpcRes.isBigEndian (BitVec.ofNat 16 (s.outBufLen - b.startPos))
      s.outBufLen ⟨s.outBuffer, b.lengthOfBodyPos⟩
    let s := { s with outBuffer := w.bytes, outBufSendLen := s.outBufLen }
    (s, sendOnce s)
  else
    let r := putDceRpcHeader (fragmented b.rpcRes) b.maxRspLen ⟨s.outBuffer, b.rpcHdrStartPos⟩
    let w := putUint16 b.rpcRes.isBigEndian
      (BitVec.ofNat 16 (PF_MAX_UDP_PAYLOAD_SIZE - b.startPos)) PF_MAX_UDP_PAYLOAD_SIZE
      ⟨r.1.bytes, r.2⟩
    sendFragment w.bytes PF_MAX_UDP_PAYLOAD_SIZE s

/-- The header of a fragment that follows the first one. -/
def fragmentHeader (s : Session) (rpcReq : RpcHeader) : RpcHeader :=
  { rpcReq with
    packetType := if s.fromMe then PF_RPC_PT_REQUEST else PF_RPC_PT_RESPONSE
    flags := ⟨false, true, false, false, true, false⟩
    cancelPending := false
    fragmentNmb := s.outFragmentNbr
    serialHigh := (s.outFragmentNbr >>> 8).setWidth 8
    serialLow := s.outFragmentNbr.setWidth 8
    isBigEndian := if s.fromMe then true else s.getInfo.isBigEndian }

def lastFragment (rpcRes : RpcHeader) : RpcHeader :=
  { rpcRes with flags := { rpcRes.flags with lastFragment := true } }

/-- "The fragment acknowledgment is valid (expected)": the next fragment. -/
def nextFragment (rpcReq : RpcHeader) (s : Session) : Session × Option Datagram :=
  let rpcRes := fragmentHeader s rpcReq
  let r := putDceRpcHeader rpcRes PF_MAX_UDP_PAYLOAD_SIZE ⟨s.outBuffer, 0⟩
  let startPos := r.1.pos
  let rest := s.outBufLen - s.outBufSentPos
  if rest < PF_MAX_UDP_PAYLOAD_SIZE - startPos then
    let r := putDceRpcHeader (lastFragment rpcRes) PF_MAX_UDP_PAYLOAD_SIZE ⟨r.1.bytes, 0⟩
    moveUp rpcRes rest startPos r.2 r.1.bytes s
  else
    moveUp rpcRes (PF_MAX_UDP_PAYLOAD_SIZE - startPos) startPos r.2 r.1.bytes s
where
  /-- The next `sendLen` bytes of the response follow the header and go out. -/
  moveUp (rpcRes : RpcHeader) (sendLen startPos lengthOfBodyPos : ℕ) (buf : ℕ → Byte)
      (s : Session) : Session × Option Datagram :=
    let w := putMemOverlapping s.outBufSentPos sendLen PF_MAX_UDP_PAYLOAD_SIZE ⟨buf, startPos⟩
    let w := putUint16 rpcRes.isBigEndian (BitVec.ofNat 16 sendLen) PF_MAX_UDP_PAYLOAD_SIZE
      ⟨w.bytes, lengthOfBodyPos⟩
    sendFragment w.bytes (sendLen + startPos) s

/-- "Update how much the controller has received (ack'ed)". -/
def acknowledge (s : Session) : Session :=
  { s with
    outBufSentPos := uint16 (s.outBufSentPos + s.outBufSendLen)
    outFragmentNbr := s.outFragmentNbr + 1 }

/-- The case `PF_RPC_PT_FRAG_ACK`; `rpcReq` is the header of the acknowledgement. -/
def fragAck (rpcReq : RpcHeader) (s : Session) : Session × Option Datagram :=
  if (acknowledge s).outBufSentPos < s.outBufLen then nextFragment rpcReq (acknowledge s)
  else (clearResponse (acknowledge s), none)

/-- `pf_cmrpc_dce_packet` changes the header in the buffer for a reply of the endpoint mapper. -/
def lookupResponse (b : ResponseStart) : ResponseStart :=
  { b with rpcRes := { b.rpcRes with
      fragmentNmb := 0, flags := { b.rpcRes.flags with idempotent := false } } }

/-! ## Exchanges -/

/-- A packet that acknowledges a fragment. -/
def IsFragAck (p : Packet) : Prop :=
  (received p.toDatagram).1.packetType = PF_RPC_PT_FRAG_ACK ∧
    (received p.toDatagram).1.flags.fragment = false

/-- The fragments sent for these acknowledgements; after the last fragment there is nothing
left to acknowledge. -/
def acknowledged : List Packet → Session → List Pdu
  | [], _ => []
  | ack :: acks, s =>
    match fragAck (received ack.toDatagram).1 (receivePacket ack s).1 with
    | (s', some d) => pduOf d :: acknowledged acks s'
    | (_, none) => []

/-- All that is sent for a response; only a fragment is acknowledged. -/
def exchange (b : ResponseStart) (acks : List Packet) (s : Session) : List Pdu :=
  match endResponse b s with
  | (s', some d) =>
    pduOf d :: if (pduOf d).header.flags.fragment then acknowledged acks s' else []
  | (_, none) => []

/-- The handler of the request puts `payload` behind the header that stands in the response
buffer, and leaves the rest of the response alone. -/
structure Answers (payload : List Byte) (s s' : Session) : Prop where
  header : Buffer.slice s'.outBuffer 0 s.outBufLen = Buffer.slice s.outBuffer 0 s.outBufLen
  body : Buffer.slice s'.outBuffer s.outBufLen payload.length = payload
  outBufLen : s'.outBufLen = s.outBufLen + payload.length
  outBufSentPos : s'.outBufSentPos = s.outBufSentPos
  outFragmentNbr : s'.outFragmentNbr = s.outFragmentNbr

/-- Exactly the final packet ends the message. -/
def EndsOnce (ps : List Pdu) : Prop :=
  ∃ (init : List Pdu) (p : Pdu), ps = init ++ [p] ∧ p.endsMessage = true ∧
    ∀ q ∈ init, q.endsMessage = false

def bodies (ps : List Pdu) : List Byte := (ps.map Pdu.body).flatten

/-- The whole payload, in packets numbered from 0 of which the final one ends the message. -/
structure Delivers (payload : List Byte) (ps : List Pdu) : Prop where
  bodies : bodies ps = payload
  numbers : ps.map (fun p => p.header.fragmentNmb) = (List.range ps.length).map (BitVec.ofNat 16)
  final : EndsOnce ps

theorem endsOnce_nil : ¬ EndsOnce [] := by
  rintro ⟨init, p, h, _⟩
  cases init <;> cases h

theorem endsOnce_cons {d : Pdu} {ds : List Pdu} (h : EndsOnce (d :: ds)) :
    (d.endsMessage = true ∧ ds = []) ∨ (d.endsMessage = false ∧ EndsOnce ds) := by
  rcases h with ⟨init, p, heq, hend, hinit⟩
  cases init with
  | nil =>
    cases heq
    exact Or.inl ⟨hend, rfl⟩
  | cons q init =>
    cases heq
    exact Or.inr ⟨hinit d List.mem_cons_self,
      init, p, rfl, hend, fun q hq => hinit q (List.mem_cons_of_mem _ hq)⟩

/-! ## The first packet -/

theorem responseHeader_fits {s : Session} {rpcReq : RpcHeader} (h : rpcReq.floatRepr = 0) :
    (responseHeader s rpcReq).Fits := by
  constructor
  · show PF_RPC_PT_RESPONSE.toNat < 32
    decide
  · rfl
  · exact h

theorem beginResponse_eq {s : Session} {maxRspLen : ℕ} (rpcReq : RpcHeader)
    (hempty : s.outBufLen = 0) (hroom : 80 ≤ maxRspLen) :
    beginResponse rpcReq maxRspLen s =
      ({ s with
          outBuffer := Buffer.write s.outBuffer 0 (headerBytes (responseHeader s rpcReq))
          outBufLen := 80 },
        ⟨responseHeader s rpcReq, maxRspLen, 0, 74, 80⟩) := by
  have hput : putDceRpcHeader (responseHeader s rpcReq) maxRspLen ⟨s.outBuffer, 0⟩ = _ :=
    putDceRpcHeader_eq _ _ (by show 0 + 80 ≤ maxRspLen; omega)
  simp only [beginResponse, hempty, hput, Writer.append, headerBytes_length, Nat.zero_add]

/-- Patching the length of the body with room for it. -/
theorem putUint16_patch {e : Bool} {val : BitVec 16} {resLen : ℕ} {b : ℕ → Byte}
    (hroom : 80 ≤ resLen) :
    (putUint16 e val resLen ⟨b, 74⟩).bytes = Buffer.write b 74 (bytes16 e val) := by
  rw [appends_uint16 e val _ (by rw [bytes16_length]; show 74 + 2 ≤ resLen; omega)]
  rfl

theorem sendOnce_of_pos {s : Session} (h : 0 < s.outBufSendLen) :
    sendOnce s = some ⟨s.outBuffer, s.outBufSendLen⟩ :=
  if_neg (by omega)

theorem sendWithTimeout_of_pos {s : Session} (hsock : 0 ≤ s.socket) (h : 0 < s.outBufSendLen) :
    sendWithTimeout s =
      ({ s with resendTimeout := true, resendCounter := s.resendCounter - 1 },
        some ⟨s.outBuffer, s.outBufSendLen⟩) := by
  rw [sendWithTimeout, if_neg (by omega)]
  simp only [sendOnce_of_pos (s := { s with
    resendTimeout := false, resendCounter := s.resendCounter - 1 }) h]

/-- A response that is sent at once. -/
theorem endResponse_whole {b : ResponseStart} {s : Session} (hpos : b.lengthOfBodyPos = 74)
    (hstart : b.startPos = 80) (hhdr : 80 ≤ s.outBufLen)
    (hlt : s.outBufLen < PF_MAX_UDP_PAYLOAD_SIZE) :
    (endResponse b s).2 = some ⟨Buffer.write s.outBuffer 74
      (bytes16 b.rpcRes.isBigEndian (BitVec.ofNat 16 (s.outBufLen - 80))), s.outBufLen⟩ := by
  rw [endResponse, if_pos hlt, hpos, hstart]
  refine (sendOnce_of_pos ?_).trans ?_
  · show 0 < s.outBufLen
    omega
  · simp only [putUint16_patch hhdr]

theorem sendFragment_eq {s : Session} {n : ℕ} (buf : ℕ → Byte) (hsock : 0 ≤ s.socket)
    (hn : 0 < n) :
    sendFragment buf n s =
      ({ s with
          outBuffer := buf, outBufSendLen := n, resendTimeout := true
          resendCounter := PF_CMRPC_NUMBER_OF_RESENDS - 1 }, some ⟨buf, n⟩) :=
  sendWithTimeout_of_pos hsock hn

/-- The buffer behind a header with a patched length. -/
def headerInto (h : RpcHeader) (len : ℕ) (buf : ℕ → Byte) : ℕ → Byte :=
  Buffer.write (Buffer.write buf 0 (headerBytes h)) 74 (bytes16 h.isBigEndian (BitVec.ofNat 16 len))

theorem pduOf_headerInto {h : RpcHeader} (hfit : h.Fits) {n : ℕ} (hn : n < 2 ^ 16)
    (buf : ℕ → Byte) :
    pduOf ⟨headerInto h n buf, n + 80⟩ =
      ⟨h.withLength (BitVec.ofNat 16 n), Buffer.slice buf 80 n⟩ := by
  have hlen : (BitVec.ofNat 16 n).toNat = n := by
    rw [BitVec.toNat_ofNat]
    exact Nat.mod_eq_of_lt hn
  have hself : Buffer.slice (Buffer.write buf 0 (headerBytes h)) 0 80 = headerBytes h := by
    have hw := Buffer.slice_write_self buf 0 (headerBytes h)
    rwa [headerBytes_length] at hw
  have hhdr : Buffer.slice (headerInto h n buf) 0 80 =
      headerBytes (h.withLength (BitVec.ofNat 16 n)) := slice_patch hself _
  have hroom : 80 + (BitVec.ofNat 16 n).toNat ≤ n + 80 := by omega
  have hbody : Buffer.slice (headerInto h n buf) 80 n = Buffer.slice buf 80 n := by
    rw [headerInto, Buffer.slice_write_disjoint (by rw [bytes16_length]; omega),
      Buffer.slice_write_disjoint (by rw [headerBytes_length]; omega)]
  have hpdu : pduOf ⟨headerInto h n buf, n + 80⟩ =
      ⟨h.withLength (BitVec.ofNat 16 n),
        Buffer.slice (headerInto h n buf) 80 (BitVec.ofNat 16 n).toNat⟩ :=
    pduOf_eq (hfit.withLength _) hhdr hroom
  rw [hpdu, hlen, hbody]

/-- The first fragment of a response that is too long for one packet. -/
theorem endResponse_first {b : ResponseStart} {s : Session} (hhdr : b.rpcHdrStartPos = 0)
    (hstart : b.startPos = 80) (hroom : 80 ≤ b.maxRspLen)
    (hge : PF_MAX_UDP_PAYLOAD_SIZE ≤ s.outBufLen) :
    endResponse b s = sendFragment
      (headerInto (fragmented b.rpcRes) (PF_MAX_UDP_PAYLOAD_SIZE - 80) s.outBuffer)
      PF_MAX_UDP_PAYLOAD_SIZE s := by
  have hput : putDceRpcHeader (fragmented b.rpcRes) b.maxRspLen ⟨s.outBuffer, 0⟩ = _ :=
    putDceRpcHeader_eq _ _ (by show 0 + 80 ≤ b.maxRspLen; omega)
  rw [endResponse, if_neg (by omega), hhdr, hstart, hput]
  simp only [Writer.append, Nat.zero_add]
  rw [putUint16_patch (by decide)]
  rfl

/-! ## The following fragments -/

/-- An acknowledgement leaves the response alone. -/
theorem receivePacket_ack {p : Packet} (hack : IsFragAck p) (s : Session) :
    (receivePacket p s).1.outBuffer = s.outBuffer ∧
      (receivePacket p s).1.outBufLen = s.outBufLen ∧
      (receivePacket p s).1.outBufSentPos = s.outBufSentPos ∧
      (receivePacket p s).1.outBufSendLen = s.outBufSendLen ∧
      (receivePacket p s).1.outFragmentNbr = s.outFragmentNbr ∧
      (receivePacket p s).1.socket = s.socket := by
  have hfrag := hack.2
  simp [receivePacket, startMessage, hfrag]

/-- The state of a session that waits for the acknowledgement of what is before `p`. -/
structure Awaits (s : Session) (outBufLen p : ℕ) (nbr : BitVec 16) : Prop where
  outBufLen : s.outBufLen = outBufLen
  position : s.outBufSentPos + s.outBufSendLen = p
  number : s.outFragmentNbr = nbr
  socket : 0 ≤ s.socket

theorem Awaits.receivePacket {s : Session} {len q : ℕ} {nbr : BitVec 16} {ack : Packet}
    (h : Awaits s len q nbr) (hack : IsFragAck ack) : Awaits (receivePacket ack s).1 len q nbr := by
  rcases receivePacket_ack hack s with ⟨_, hlen, hsent, hsend, hnbr, hsock⟩
  constructor
  · rw [hlen, h.outBufLen]
  · rw [hsent, hsend, h.position]
  · rw [hnbr, h.number]
  · rw [hsock]
    exact h.socket

/-- The bytes of the response in the fragment that starts at `p`. -/
def fragmentLen (outBufLen p : ℕ) : ℕ := min (outBufLen - p) (PF_MAX_UDP_PAYLOAD_SIZE - 80)

/-- Whether the fragment that starts at `p` is the last one. -/
def fragmentLast (outBufLen p : ℕ) : Bool := outBufLen - p < PF_MAX_UDP_PAYLOAD_SIZE - 80

/-- Nothing is left to send. -/
theorem fragAck_done {s : Session} (rpcReq : RpcHeader) {len q : ℕ} {nbr : BitVec 16}
    (h : Awaits s len q nbr) (hq : q < 2 ^ 16) (hle : len ≤ q) :
    (fragAck rpcReq s).2 = none := by
  have hlen := h.outBufLen
  have hsent : (acknowledge s).outBufSentPos = q := by
    show uint16 (s.outBufSentPos + s.outBufSendLen) = q
    rw [h.position, uint16_of_lt hq]
  rw [fragAck, if_neg (by omega)]

theorem fragmentHeader_fits {s : Session} {rpcReq : RpcHeader} (h : rpcReq.floatRepr = 0) :
    (fragmentHeader s rpcReq).Fits := by
  constructor
  · show (if s.fromMe then PF_RPC_PT_REQUEST else PF_RPC_PT_RESPONSE).toNat < 32
    cases s.fromMe <;> decide
  · rfl
  · exact h

/-- The buffer of the fragment with `n` bytes from `p` on. -/
def fragmentInto (h : RpcHeader) (n p : ℕ) (buf : ℕ → Byte) : ℕ → Byte :=
  headerInto h n (Buffer.write buf 80 (Buffer.slice buf p n))

theorem moveUp_eq {rpcRes h : RpcHeader} {n : ℕ} {buf : ℕ → Byte} {s : Session}
    (he : h.isBigEndian = rpcRes.isBigEndian) (hroom : 80 + n ≤ PF_MAX_UDP_PAYLOAD_SIZE)
    (hp : 80 ≤ s.outBufSentPos) :
    nextFragment.moveUp rpcRes n 80 74 (Buffer.write buf 0 (headerBytes h)) s =
      sendFragment (fragmentInto h n s.outBufSentPos buf) (n + 80) s := by
  have hdata : Buffer.slice (Buffer.write buf 0 (headerBytes h)) s.outBufSentPos n =
      Buffer.slice buf s.outBufSentPos n :=
    Buffer.slice_write_disjoint (by rw [headerBytes_length]; omega)
  have hcomm : Buffer.write (Buffer.write buf 80 (Buffer.slice buf s.outBufSentPos n)) 0
      (headerBytes h) =
      Buffer.write (Buffer.write buf 0 (headerBytes h)) 80 (Buffer.slice buf s.outBufSentPos n) :=
    Buffer.write_comm (by rw [headerBytes_length]; omega)
  rw [nextFragment.moveUp, putMemOverlapping, if_neg (by show ¬ _ < 80 + n; omega)]
  simp only [hdata]
  rw [putUint16_patch (by decide), ← hcomm, ← he]
  rfl

/-- The header of the fragment that starts at `p`. -/
def headerAt (len p : ℕ) (rpcRes : RpcHeader) : RpcHeader :=
  if fragmentLast len p then lastFragment rpcRes else rpcRes

theorem headerAt_fits {len p : ℕ} {rpcRes : RpcHeader} (h : rpcRes.Fits) :
    (headerAt len p rpcRes).Fits := by
  rw [headerAt]
  split
  · exact ⟨h.packetType, h.cancelPending, h.floatRepr⟩
  · exact h

theorem headerAt_endsMessage {rpcRes : RpcHeader} (hfrag : rpcRes.flags.fragment = true)
    (hlast : rpcRes.flags.lastFragment = false) (len p : ℕ) (n : BitVec 16) (body : List Byte) :
    (Pdu.mk ((headerAt len p rpcRes).withLength n) body).endsMessage = fragmentLast len p := by
  cases hl : fragmentLast len p <;>
    simp [Pdu.endsMessage, headerAt, hl, RpcHeader.withLength, lastFragment, hfrag, hlast]

/-- What is sent for an acknowledgement when there is more to send. -/
theorem nextFragment_eq {rpcReq : RpcHeader} {s : Session} (hp : 80 ≤ s.outBufSentPos) :
    nextFragment rpcReq s = sendFragment
      (fragmentInto (headerAt s.outBufLen s.outBufSentPos (fragmentHeader s rpcReq))
        (fragmentLen s.outBufLen s.outBufSentPos) s.outBufSentPos s.outBuffer)
      (fragmentLen s.outBufLen s.outBufSentPos + 80) s := by
  have hput : ∀ h b, putDceRpcHeader h PF_MAX_UDP_PAYLOAD_SIZE ⟨b, 0⟩ = _ := fun h b =>
    putDceRpcHeader_eq h ⟨b, 0⟩ (show 0 + 80 ≤ PF_MAX_UDP_PAYLOAD_SIZE by decide)
  rw [nextFragment]
  simp only [hput, Writer.append, headerBytes_length, Nat.zero_add]
  by_cases hlast : s.outBufLen - s.outBufSentPos < PF_MAX_UDP_PAYLOAD_SIZE - 80
  · -- the last fragment: the header is put a second time
    have hlen : fragmentLen s.outBufLen s.outBufSentPos = s.outBufLen - s.outBufSentPos :=
      Nat.min_eq_left (by omega)
    have hhdr : headerAt s.outBufLen s.outBufSentPos (fragmentHeader s rpcReq) =
        lastFragment (fragmentHeader s rpcReq) := if_pos (decide_eq_true hlast)
    rw [if_pos hlast, Buffer.write_write_self (by simp), hlen, hhdr]
    refine moveUp_eq rfl ?_ hp
    have hmax : PF_MAX_UDP_PAYLOAD_SIZE = 1440 := rfl
    omega
  · have hlen : fragmentLen s.outBufLen s.outBufSentPos = PF_MAX_UDP_PAYLOAD_SIZE - 80 :=
      Nat.min_eq_right (by omega)
    have hhdr : headerAt s.outBufLen s.outBufSentPos (fragmentHeader s rpcReq) =
        fragmentHeader s rpcReq := if_neg (by simpa [fragmentLast] using hlast)
    rw [if_neg hlast, hlen, hhdr]
    exact moveUp_eq rfl (by decide) hp

/-- The fragment at `p`: what is sent, and what is awaited afterwards. -/
theorem fragAck_next {rpcReq : RpcHeader} {s : Session} {len p : ℕ} {nbr : BitVec 16}
    (hreq : rpcReq.floatRepr = 0) (h : Awaits s len p nbr) (hlen : len < 2 ^ 16) (hp : 80 ≤ p)
    (hlt : p < len) :
    ∃ s' d, fragAck rpcReq s = (s', some d) ∧
      Awaits s' len (p + fragmentLen len p + 80) (nbr + 1) ∧
      (pduOf d).header.fragmentNmb = nbr + 1 ∧
      (pduOf d).endsMessage = fragmentLast len p ∧
      (pduOf d).body = Buffer.slice s.outBuffer p (fragmentLen len p) := by
  have hsent : (acknowledge s).outBufSentPos = p := by
    show uint16 (s.outBufSentPos + s.outBufSendLen) = p
    rw [h.position, uint16_of_lt (by omega)]
  have hslen : (acknowledge s).outBufLen = len := h.outBufLen
  have hfl : fragmentLen len p < 2 ^ 16 := by
    have : fragmentLen len p ≤ len - p := Nat.min_le_left _ _
    omega
  have hfit : (headerAt len p (fragmentHeader (acknowledge s) rpcReq)).Fits :=
    headerAt_fits (fragmentHeader_fits hreq)
  have hpdu := pduOf_headerInto hfit hfl
    (Buffer.write s.outBuffer 80 (Buffer.slice s.outBuffer p (fragmentLen len p)))
  have hself := Buffer.slice_write_self s.outBuffer 80 (Buffer.slice s.outBuffer p (fragmentLen len p))
  rw [Buffer.slice_length] at hself
  rw [hself] at hpdu
  rw [fragAck, if_pos (by rw [hsent, h.outBufLen]; exact hlt), nextFragment_eq (by omega),
    sendFragment_eq _ (show 0 ≤ (acknowledge s).socket from h.socket) (by omega), hsent, hslen]
  refine ⟨_, _, rfl, ?_, ?_⟩
  · constructor
    · rfl
    · show p + (fragmentLen len p + 80) = _
      omega
    · show s.outFragmentNbr + 1 = nbr + 1
      rw [h.number]
    · exact h.socket
  · rw [fragmentInto, show (acknowledge s).outBuffer = s.outBuffer from rfl, hpdu]
    refine ⟨?_, headerAt_endsMessage rfl rfl _ _ _ _, rfl⟩
    rw [headerAt]
    split <;> exact congrArg (· + 1) h.number

/-! ## Whole exchanges -/

theorem acknowledged_done {s : Session} {len q : ℕ} {nbr : BitVec 16} {acks : List Packet}
    (h : Awaits s len q nbr) (hq : q < 2 ^ 16) (hle : len ≤ q) (hacks : ∀ a ∈ acks, IsFragAck a) :
    acknowledged acks s = [] := by
  cases acks with
  | nil => rfl
  | cons ack acks =>
    have hnone := fragAck_done (received ack.toDatagram).1
      (h.receivePacket (hacks ack List.mem_cons_self)) hq hle
    rw [acknowledged]
    split
    · next s' d heq =>
      rw [heq] at hnone
      cases hnone
    · rfl

/-- One acknowledgement with more to send. -/
theorem acknowledged_next {s : Session} {len p : ℕ} {nbr : BitVec 16} {ack : Packet}
    (acks : List Packet) (h : Awaits s len p nbr) (hlen : len < 2 ^ 16) (hp : 80 ≤ p)
    (hlt : p < len) (hack : IsFragAck ack) :
    ∃ s' pdu, acknowledged (ack :: acks) s = pdu :: acknowledged acks s' ∧
      Awaits s' len (p + fragmentLen len p + 80) (nbr + 1) ∧
      pdu.header.fragmentNmb = nbr + 1 ∧ pdu.endsMessage = fragmentLast len p ∧
      pdu.body = Buffer.slice s.outBuffer p (fragmentLen len p) := by
  rcases fragAck_next (received_floatRepr ack.toDatagram)
    (h.receivePacket hack) hlen hp hlt with ⟨s', d, heq, haw, hnbr, hends, hbody⟩
  rw [(receivePacket_ack hack s).1] at hbody
  refine ⟨s', pduOf d, ?_, haw, hnbr, hends, hbody⟩
  rw [acknowledged, heq]

/-- Once the position is past the second fragment, what is sent falls short of the response.
Before the last fragment every fragment takes 1360 bytes and the position moves by 1440. -/
theorem acknowledged_short {len : ℕ} (hlen : len < 2 ^ 16) (acks : List Packet)
    (hacks : ∀ a ∈ acks, IsFragAck a) {s : Session} {k : ℕ} {nbr : BitVec 16}
    (h : Awaits s len (1440 * (k + 1)) nbr) (hk : k < 45) (hends : EndsOnce (acknowledged acks s)) :
    (bodies (acknowledged acks s)).length + 1440 * (k + 1) ≤ len := by
  induction acks generalizing s k nbr with
  | nil => exact absurd hends endsOnce_nil
  | cons ack acks ih =>
    have hrest : ∀ a ∈ acks, IsFragAck a := fun a ha => hacks a (List.mem_cons_of_mem _ ha)
    have hmax : PF_MAX_UDP_PAYLOAD_SIZE = 1440 := rfl
    rcases Nat.lt_or_ge (1440 * (k + 1)) len with hlt | hge
    · rcases acknowledged_next acks h hlen (by omega) hlt (hacks ack List.mem_cons_self) with
        ⟨s', pdu, heq, haw, _, hlast, hbody⟩
      rw [heq] at hends ⊢
      have htotal : (bodies (pdu :: acknowledged acks s')).length =
          fragmentLen len (1440 * (k + 1)) + (bodies (acknowledged acks s')).length := by
        simp [bodies, hbody]
      rcases endsOnce_cons hends with ⟨_, hnil⟩ | ⟨hnot, hends'⟩
      · -- the last fragment takes what is left
        have hle : fragmentLen len (1440 * (k + 1)) ≤ len - 1440 * (k + 1) := Nat.min_le_left _ _
        rw [htotal, hnil]
        simp only [bodies, List.map_nil, List.flatten_nil, List.length_nil]
        omega
      · -- a fragment in between
        rw [hlast, fragmentLast, decide_eq_false_iff_not, hmax] at hnot
        have hfl : fragmentLen len (1440 * (k + 1)) = 1360 := Nat.min_eq_right (by omega)
        rw [hfl, show 1440 * (k + 1) + 1360 + 80 = 1440 * (k + 1 + 1) by omega] at haw
        have hih := ih hrest haw (by omega) hends'
        have harith : ∀ t, t + 1440 * (k + 1 + 1) ≤ len → 1360 + t + 1440 * (k + 1) ≤ len := by
          omega
        rw [htotal, hfl]
        exact harith _ hih
    · rw [acknowledged_done h (by omega) hge hacks] at hends
      exact absurd hends endsOnce_nil

/-! ## Which responses get through -/

/-- The start of a response, as `pf_cmrpc_dce_packet` holds it when the handler is done. -/
def startOf (lookup : Bool) (req : Packet) (maxRspLen : ℕ) (s : Session) : ResponseStart :=
  let b := (beginResponse (received req.toDatagram).1 maxRspLen (clearResponse s)).2
  if lookup then lookupResponse b else b

/-- A response that is ready to be sent. -/
structure Ready (payload : List Byte) (b : ResponseStart) (s : Session) : Prop where
  hdrStart : b.rpcHdrStartPos = 0
  lengthPos : b.lengthOfBodyPos = 74
  start : b.startPos = 80
  room : 80 ≤ b.maxRspLen
  fits : b.rpcRes.Fits
  flags : b.rpcRes.flags.lastFragment = false
  number : b.rpcRes.fragmentNmb = 0
  header : ∃ h : RpcHeader, Buffer.slice s.outBuffer 0 80 = headerBytes h ∧ h.Fits ∧
    h.flags.fragment = false ∧ h.fragmentNmb = 0 ∧ h.isBigEndian = b.rpcRes.isBigEndian
  body : Buffer.slice s.outBuffer 80 payload.length = payload
  outBufLen : s.outBufLen = 80 + payload.length
  outBufSentPos : s.outBufSentPos = 0
  outFragmentNbr : s.outFragmentNbr = 0
  socket : 0 ≤ s.socket

theorem ready_of_answers {req : Packet} {s s' : Session} {maxRspLen : ℕ} {payload : List Byte}
    (lookup : Bool) (hroom : 80 + payload.length ≤ maxRspLen) (hsock : 0 ≤ s'.socket)
    (hans : Answers payload
      (beginResponse (received req.toDatagram).1 maxRspLen (clearResponse s)).1 s') :
    Ready payload (startOf lookup req maxRspLen s) s' := by
  have hfit := responseHeader_fits (s := clearResponse s) (received_floatRepr req.toDatagram)
  have hmax : 80 ≤ maxRspLen := by omega
  rw [startOf]
  generalize hh : responseHeader (clearResponse s) (received req.toDatagram).1 = h at hfit
  have hbegin := beginResponse_eq (s := clearResponse s) (received req.toDatagram).1 rfl hmax
  have hnbr : h.fragmentNmb = 0 := by
    rw [← hh]
    rfl
  have hflags : h.flags = ⟨false, false, true, false, true, false⟩ := by
    rw [← hh]
    rfl
  rw [hh] at hbegin
  rw [hbegin] at hans ⊢
  have hself := Buffer.slice_write_self (clearResponse s).outBuffer 0 (headerBytes h)
  rw [headerBytes_length] at hself
  have hhdr : Buffer.slice s'.outBuffer 0 80 = headerBytes h := by
    rw [← hself]
    exact hans.header
  have hfrag : h.flags.fragment = false := by rw [hflags]
  have hlast : h.flags.lastFragment = false := by rw [hflags]
  cases lookup with
  | true =>
    exact ⟨rfl, rfl, rfl, hmax, ⟨hfit.packetType, hfit.cancelPending, hfit.floatRepr⟩, hlast, rfl,
      ⟨h, hhdr, hfit, hfrag, hnbr, rfl⟩, hans.body, hans.outBufLen, hans.outBufSentPos,
      hans.outFragmentNbr, hsock⟩
  | false =>
    exact ⟨rfl, rfl, rfl, hmax, hfit, hlast, hnbr, ⟨h, hhdr, hfit, hfrag, hnbr, rfl⟩, hans.body,
      hans.outBufLen, hans.outBufSentPos, hans.outFragmentNbr, hsock⟩

section

variable {payload : List Byte} {b : ResponseStart} {s : Session}

/-- A short response is one packet. -/
theorem Ready.exchange_whole (h : Ready payload b s)
    (hlt : 80 + payload.length < PF_MAX_UDP_PAYLOAD_SIZE) (acks : List Packet) :
    ∃ pdu, exchange b acks s = [pdu] ∧ pdu.body = payload ∧ pdu.header.fragmentNmb = 0 ∧
      pdu.endsMessage = true := by
  rcases h.header with ⟨hdr, hbytes, hfit, hfrag, hnbr, he⟩
  have hlen := h.outBufLen
  have hmax : PF_MAX_UDP_PAYLOAD_SIZE = 1440 := rfl
  have hn : (BitVec.ofNat 16 payload.length).toNat = payload.length := by
    rw [BitVec.toNat_ofNat]
    exact Nat.mod_eq_of_lt (by omega)
  have hsend := endResponse_whole (s := s) h.lengthPos h.start (by omega) (by omega)
  rw [hlen, Nat.add_sub_cancel_left, ← he] at hsend
  generalize hbuf : Buffer.write s.outBuffer 74
    (bytes16 hdr.isBigEndian (BitVec.ofNat 16 payload.length)) = buf at hsend
  have hhdr : Buffer.slice buf 0 80 = headerBytes (hdr.withLength (BitVec.ofNat 16 payload.length)) := by
    rw [← hbuf]
    exact slice_patch hbytes _
  have hbody : Buffer.slice buf 80 payload.length = payload := by
    rw [← hbuf, Buffer.slice_write_disjoint (by rw [bytes16_length]; omega)]
    exact h.body
  have hroom : 80 + (BitVec.ofNat 16 payload.length).toNat ≤ 80 + payload.length := by omega
  have hpdu : pduOf ⟨buf, 80 + payload.length⟩ =
      ⟨hdr.withLength (BitVec.ofNat 16 payload.length),
        Buffer.slice buf 80 (BitVec.ofNat 16 payload.length).toNat⟩ :=
    pduOf_eq (hfit.withLength _) hhdr hroom
  rw [hn, hbody] at hpdu
  have hwhole : exchange b acks s = [pduOf ⟨buf, 80 + payload.length⟩] := by
    rw [exchange]
    split
    · next s' d heq =>
      rw [heq] at hsend
      cases hsend
      rw [hpdu]
      exact congrArg _ (if_neg (by rw [RpcHeader.withLength, hfrag]; decide))
    · next heq =>
      rw [heq] at hsend
      cases hsend
  rw [hwhole, hpdu]
  exact ⟨_, rfl, rfl, hnbr, by rw [Pdu.endsMessage, RpcHeader.withLength, hfrag]; rfl⟩

/-- A long response starts with a fragment of 1360 bytes. -/
theorem Ready.exchange_first (h : Ready payload b s)
    (hge : PF_MAX_UDP_PAYLOAD_SIZE ≤ 80 + payload.length) (acks : List Packet) :
    ∃ pdu s', exchange b acks s = pdu :: acknowledged acks s' ∧
      Awaits s' (80 + payload.length) PF_MAX_UDP_PAYLOAD_SIZE 0 ∧
      pdu.body = Buffer.slice s.outBuffer 80 (PF_MAX_UDP_PAYLOAD_SIZE - 80) ∧
      pdu.header.fragmentNmb = 0 ∧ pdu.endsMessage = false ∧
      ∀ p n, 80 ≤ p → Buffer.slice s'.outBuffer p n = Buffer.slice s.outBuffer p n := by
  have hlen := h.outBufLen
  have hfit : (fragmented b.rpcRes).Fits :=
    ⟨h.fits.packetType, h.fits.cancelPending, h.fits.floatRepr⟩
  have hsend := endResponse_first (b := b) (s := s) h.hdrStart h.start h.room (by omega)
  rw [sendFragment_eq _ h.socket (by decide)] at hsend
  generalize hbuf : headerInto (fragmented b.rpcRes) (PF_MAX_UDP_PAYLOAD_SIZE - 80) s.outBuffer =
    buf at hsend
  have hpdu : pduOf ⟨buf, PF_MAX_UDP_PAYLOAD_SIZE⟩ =
      ⟨(fragmented b.rpcRes).withLength (BitVec.ofNat 16 (PF_MAX_UDP_PAYLOAD_SIZE - 80)),
        Buffer.slice s.outBuffer 80 (PF_MAX_UDP_PAYLOAD_SIZE - 80)⟩ := by
    rw [← hbuf]
    exact pduOf_headerInto hfit (by decide) s.outBuffer
  have hkeep : ∀ p n, 80 ≤ p → Buffer.slice buf p n = Buffer.slice s.outBuffer p n := by
    intro p n hp
    rw [← hbuf, headerInto, Buffer.slice_write_disjoint (by rw [bytes16_length]; omega),
      Buffer.slice_write_disjoint (by rw [headerBytes_length]; omega)]
  have hfirst : exchange b acks s =
      pduOf ⟨buf, PF_MAX_UDP_PAYLOAD_SIZE⟩ :: acknowledged acks (endResponse b s).1 := by
    rw [exchange, hsend]
    exact congrArg _ (if_pos (by rw [hpdu]; rfl))
  rw [hfirst, hpdu]
  refine ⟨_, _, rfl, ?_, rfl, h.number, ?_, ?_⟩
  · rw [hsend]
    constructor
    · exact hlen
    · show s.outBufSentPos + PF_MAX_UDP_PAYLOAD_SIZE = _
      rw [h.outBufSentPos, Nat.zero_add]
    · exact h.outFragmentNbr
    · exact h.socket
  · simp [Pdu.endsMessage, fragmented, RpcHeader.withLength, h.flags]
  · rw [hsend]
    exact hkeep

/-- A response of two fragments: the second one starts where the first one ended. -/
theorem Ready.exchange_two (h : Ready payload b s)
    (hgt : PF_MAX_UDP_PAYLOAD_SIZE < 80 + payload.length)
    (hlt : 80 + payload.length < 2 * PF_MAX_UDP_PAYLOAD_SIZE - 80) {ack : Packet}
    {acks : List Packet} (hack : IsFragAck ack) (hacks : ∀ a ∈ acks, IsFragAck a) :
    Delivers payload (exchange b (ack :: acks) s) := by
  have hmax : PF_MAX_UDP_PAYLOAD_SIZE = 1440 := rfl
  rcases h.exchange_first (by omega) (ack :: acks) with
    ⟨pdu₁, s₁, hfirst, haw₁, hbody₁, hnbr₁, hends₁, hbuf⟩
  rcases acknowledged_next acks haw₁ (by omega) (by omega) hgt hack with
    ⟨s₂, pdu₂, hnext, haw₂, hnbr₂, hends₂, hbody₂⟩
  have hfl : fragmentLen (80 + payload.length) PF_MAX_UDP_PAYLOAD_SIZE =
      80 + payload.length - PF_MAX_UDP_PAYLOAD_SIZE := Nat.min_eq_left (by omega)
  rw [hfl] at haw₂ hbody₂
  have hdone := acknowledged_done haw₂ (by omega) (by omega) hacks
  rw [hbuf _ _ (by omega)] at hbody₂
  rw [hfirst, hnext, hdone]
  constructor
  · -- the bodies are the two parts of the payload
    calc bodies [pdu₁, pdu₂]
        = Buffer.slice s.outBuffer 80 (PF_MAX_UDP_PAYLOAD_SIZE - 80) ++
            Buffer.slice s.outBuffer PF_MAX_UDP_PAYLOAD_SIZE
              (80 + payload.length - PF_MAX_UDP_PAYLOAD_SIZE) := by
          simp [bodies, hbody₁, hbody₂]
      _ = Buffer.slice s.outBuffer 80 (PF_MAX_UDP_PAYLOAD_SIZE - 80 +
            (80 + payload.length - PF_MAX_UDP_PAYLOAD_SIZE)) := by
          rw [Buffer.slice_add]
          rfl
      _ = payload := by
          rw [show PF_MAX_UDP_PAYLOAD_SIZE - 80 + (80 + payload.length - PF_MAX_UDP_PAYLOAD_SIZE) =
            payload.length by omega]
          exact h.body
  · simp [hnbr₁, hnbr₂, List.range_succ]
  · refine ⟨[pdu₁], _, rfl, ?_, ?_⟩
    · rw [hends₂]
      exact decide_eq_true (by omega)
    · intro q hq
      rw [List.mem_singleton.mp hq]
      exact hends₁

/-- Of all other responses the peer never gets the whole. -/
theorem Ready.exchange_short (h : Ready payload b s)
    (hge : PF_MAX_UDP_PAYLOAD_SIZE ≤ 80 + payload.length)
    (hnot : ¬ (PF_MAX_UDP_PAYLOAD_SIZE < 80 + payload.length ∧
      80 + payload.length < 2 * PF_MAX_UDP_PAYLOAD_SIZE - 80))
    (hlen : 80 + payload.length < 2 ^ 16) {acks : List Packet} (hacks : ∀ a ∈ acks, IsFragAck a) :
    ¬ Delivers payload (exchange b acks s) := by
  have hmax : PF_MAX_UDP_PAYLOAD_SIZE = 1440 := rfl
  intro hdel
  rcases h.exchange_first hge acks with ⟨pdu₁, s₁, hfirst, haw₁, hbody₁, _, hends₁, _⟩
  have htotal := congrArg List.length hdel.bodies
  have hfinal := hdel.final
  rw [hfirst] at hfinal htotal
  rcases endsOnce_cons hfinal with ⟨hend, _⟩ | ⟨_, hrest⟩
  · rw [hends₁] at hend
    cases hend
  cases acks with
  | nil => exact endsOnce_nil hrest
  | cons ack acks =>
    rcases Nat.eq_or_lt_of_le hge with heq | hgt
    · -- the first fragment takes the whole response, and is not the last one
      rw [acknowledged_done haw₁ (by omega) (by omega) hacks] at hrest
      exact endsOnce_nil hrest
    · have hrest' : ∀ a ∈ acks, IsFragAck a := fun a ha => hacks a (List.mem_cons_of_mem _ ha)
      rcases acknowledged_next acks haw₁ hlen (by omega) hgt (hacks ack List.mem_cons_self) with
        ⟨s₂, pdu₂, hnext, haw₂, _, hends₂, hbody₂⟩
      have hfl : fragmentLen (80 + payload.length) PF_MAX_UDP_PAYLOAD_SIZE = 1360 :=
        Nat.min_eq_right (by omega)
      rw [hfl] at haw₂ hbody₂
      rw [hnext] at hrest htotal
      rcases endsOnce_cons hrest with ⟨hend, _⟩ | ⟨_, hlast⟩
      · rw [hends₂] at hend
        have := of_decide_eq_true hend
        omega
      · -- the third fragment leaves out 80 bytes
        have hshort := acknowledged_short (k := 1) hlen acks hrest' haw₂ (by omega) hlast
        have hsum : ∀ ps, (bodies (pdu₁ :: pdu₂ :: ps)).length =
            1360 + 1360 + (bodies ps).length := by
          intro ps
          simp [bodies, hbody₁, hbody₂, hmax]
          omega
        rw [hsum] at htotal
        omega

theorem Ready.delivered_iff (h : Ready payload b s) (hlen : 80 + payload.length < 2 ^ 16)
    {acks : ℕ → Packet} (hacks : ∀ k, IsFragAck (acks k)) :
    (∃ n, ∀ m, n ≤ m → Delivers payload (exchange b ((List.range m).map acks) s)) ↔
      80 + payload.length < PF_MAX_UDP_PAYLOAD_SIZE ∨
      PF_MAX_UDP_PAYLOAD_SIZE < 80 + payload.length ∧
        80 + payload.length < 2 * PF_MAX_UDP_PAYLOAD_SIZE - 80 := by
  have hlist : ∀ (f : ℕ → ℕ) (l : List ℕ), ∀ a ∈ l.map (acks ∘ f), IsFragAck a := by
    intro f l a ha
    rcases List.mem_map.mp ha with ⟨k, _, rfl⟩
    exact hacks _
  constructor
  · rintro ⟨n, hn⟩
    by_contra hnot
    rw [not_or] at hnot
    exact h.exchange_short (by omega) hnot.2 hlen (hlist id _) (hn n le_rfl)
  · rintro (hlt | ⟨hgt, hlt⟩)
    · refine ⟨0, fun m _ => ?_⟩
      rcases h.exchange_whole hlt ((List.range m).map acks) with ⟨pdu, heq, hbody, hnbr, hend⟩
      rw [heq]
      exact ⟨by simp [bodies, hbody], by simp [hnbr], [], pdu, rfl, hend, by simp⟩
    · refine ⟨1, fun m hm => ?_⟩
      rcases Nat.exists_eq_add_of_le hm with ⟨k, rfl⟩
      rw [Nat.add_comm, List.range_succ_eq_map, List.map_cons, List.map_map]
      exact h.exchange_two hgt hlt (hacks 0) (hlist _ _)

end

/-- A response reaches a peer that acknowledges every fragment when it is one packet or two. A
response of 1440 bytes has no last fragment; from 2800 bytes on, bytes of it are left out or
there is no last fragment. -/
theorem reply_delivered_iff {req : Packet} {s s' : Session} {maxRspLen : ℕ} {payload : List Byte}
    {acks : ℕ → Packet} (lookup : Bool) (hroom : 80 + payload.length ≤ maxRspLen)
    (hmax : maxRspLen < 2 ^ 16) (hsock : 0 ≤ s'.socket) (hacks : ∀ k, IsFragAck (acks k))
    (hans : Answers payload
      (beginResponse (received req.toDatagram).1 maxRspLen (clearResponse s)).1 s') :
    (∃ n, ∀ m, n ≤ m → Delivers payload
        (exchange (startOf lookup req maxRspLen s) ((List.range m).map acks) s')) ↔
      80 + payload.length < PF_MAX_UDP_PAYLOAD_SIZE ∨
      PF_MAX_UDP_PAYLOAD_SIZE < 80 + payload.length ∧
        80 + payload.length < 2 * PF_MAX_UDP_PAYLOAD_SIZE - 80 :=
  (ready_of_answers lookup hroom hsock hans).delivered_iff (by omega) hacks

/-! ## An example -/

/-- A read request. -/
def sampleRequest : Packet where
  toDatagram := datagramOf { blankHeader with version := 4, isBigEndian := true, opnum := 2 } []
  ipAddr := 0xC0A80001
  port := 34964

def sampleAck : Packet where
  toDatagram :=
    datagramOf { blankHeader with version := 4, packetType := PF_RPC_PT_FRAG_ACK } []
  ipAddr := 0xC0A80001
  port := 34964

def sampleSession : Session := { clearedSession with inUse := true, socket := 3 }

/-- The session when a handler has answered with `n` zero bytes. -/
def sampleAnswered (n : ℕ) : Session :=
  let s := (beginResponse (received sampleRequest.toDatagram).1 PNET_MAX_SESSION_BUFFER_SIZE
    (clearResponse sampleSession)).1
  { s with
    outBuffer := Buffer.write s.outBuffer s.outBufLen (List.replicate n 0)
    outBufLen := s.outBufLen + n }

theorem sampleAck_isFragAck : IsFragAck sampleAck := by
  have hrec : (received sampleAck.toDatagram).1 = _ := received_datagramOf ⟨by decide, rfl, rfl⟩ []
  rw [IsFragAck, hrec]
  exact ⟨rfl, rfl⟩

theorem sampleAnswered_answers (n : ℕ) :
    Answers (List.replicate n 0)
      (beginResponse (received sampleRequest.toDatagram).1 PNET_MAX_SESSION_BUFFER_SIZE
        (clearResponse sampleSession)).1 (sampleAnswered n) := by
  constructor
  · exact Buffer.slice_write_disjoint (by omega)
  · have hself := Buffer.slice_write_self (beginResponse (received sampleRequest.toDatagram).1
      PNET_MAX_SESSION_BUFFER_SIZE (clearResponse sampleSession)).1.outBuffer
      (beginResponse (received sampleRequest.toDatagram).1 PNET_MAX_SESSION_BUFFER_SIZE
        (clearResponse sampleSession)).1.outBufLen (List.replicate n (0 : Byte))
    exact hself
  · show _ + n = _
    rw [List.length_replicate]
  · rfl
  · rfl

/-- 1500 bytes arrive. -/
theorem reply_delivered_iff_two :
    80 + (List.replicate 1500 (0 : Byte)).length ≤ PNET_MAX_SESSION_BUFFER_SIZE ∧
      ((∃ n, ∀ m, n ≤ m → Delivers (List.replicate 1500 0)
        (exchange (startOf false sampleRequest PNET_MAX_SESSION_BUFFER_SIZE sampleSession)
          ((List.range m).map fun _ => sampleAck) (sampleAnswered 1500))) ↔
      80 + (List.replicate 1500 (0 : Byte)).length < PF_MAX_UDP_PAYLOAD_SIZE ∨
      PF_MAX_UDP_PAYLOAD_SIZE < 80 + (List.replicate 1500 (0 : Byte)).length ∧
        80 + (List.replicate 1500 (0 : Byte)).length < 2 * PF_MAX_UDP_PAYLOAD_SIZE - 80) :=
  have hlen : 80 + (List.replicate 1500 (0 : Byte)).length ≤ PNET_MAX_SESSION_BUFFER_SIZE := by
    rw [List.length_replicate]
    decide
  ⟨hlen, reply_delivered_iff false hlen (by decide) (by decide) (fun _ => sampleAck_isFragAck)
    (sampleAnswered_answers 1500)⟩

/-- 2920 bytes fit the buffer, and never arrive. -/
theorem reply_2920_not_delivered :
    80 + (List.replicate 2920 (0 : Byte)).length ≤ PNET_MAX_SESSION_BUFFER_SIZE ∧
      Answers (List.replicate 2920 0)
        (beginResponse (received sampleRequest.toDatagram).1 PNET_MAX_SESSION_BUFFER_SIZE
          (clearResponse sampleSession)).1 (sampleAnswered 2920) ∧
      IsFragAck sampleAck ∧
      ¬ ∃ n, ∀ m, n ≤ m → Delivers (List.replicate 2920 0)
        (exchange (startOf false sampleRequest PNET_MAX_SESSION_BUFFER_SIZE sampleSession)
          ((List.range m).map fun _ => sampleAck) (sampleAnswered 2920)) := by
  have hlen : (List.replicate 2920 (0 : Byte)).length = 2920 := List.length_replicate
  have hroom : 80 + (List.replicate 2920 (0 : Byte)).length ≤ PNET_MAX_SESSION_BUFFER_SIZE := by
    rw [hlen]
    decide
  have hready := ready_of_answers false hroom (show 0 ≤ (sampleAnswered 2920).socket by decide)
    (sampleAnswered_answers 2920)
  refine ⟨hroom, sampleAnswered_answers 2920, sampleAck_isFragAck, ?_⟩
  rw [hready.delivered_iff (by rw [hlen]; decide) (fun _ => sampleAck_isFragAck), hlen]
  decide

end PNet.Rpc
