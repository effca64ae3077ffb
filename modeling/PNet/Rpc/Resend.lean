import PNet.Lib.Runs
import PNet.Rpc.Dcontrol

/-! # Resending

A CControl request of the device, and each fragment that the device sends, goes out again when the
timeout of `pf_cmrpc_send_with_timeout` expires, until a packet comes in for the session. After
`PF_CMRPC_NUMBER_OF_RESENDS` times the AR of the session is aborted instead.

* `Resender.resends_bounded` - in any run, a session has at most one timeout, and puts no packet out more
  often than that
-/

namespace PNet.Rpc

open Block

def PF_RPC_DEV_OPNUM_RELEASE : BitVec 16 := 1

def PF_RPC_SERVER_PORT : BitVec 16 := 0x8894

def PNET_ERROR_CODE_2_ABORT_AR_RPC_CONTROL_ERROR : Byte := 0x18

/-- `DEA00002-6C97-11D1-8271-00A02442DF7D`, where the interface of devices has `DEA00001`. -/
def uuidIoControllerInterface : Uuid := { uuidIoDeviceInterface with data1 := 0xDEA00002 }

/-! ## State -/

/-- What a packet of the device is sent for: an AR, in its connection of that number. -/
structure Outstanding where
  ar : Option ℕ
  connection : ℕ
deriving DecidableEq, Repr

/-- Whether `pf_udp_sendto` sends the packet, and whether `pf_scheduler_add` takes the timeout. -/
structure Outlet where
  sent : Bool
  added : Bool
deriving DecidableEq, Repr

/-- The sessions and the ARs, with the timeouts that the scheduler has for the sessions. The last three
fields only keep account. -/
structure Resender where
  net : Net
  /-- `cmrpc_rpcreq_socket`. -/
  rpcreqSocket : ℤ
  timeouts : ℕ → ℕ
  /-- How often the packet in the output buffer has been put out. -/
  sent : ℕ → ℕ
  /-- What the session waits for an answer to. -/
  outstanding : ℕ → Option Outstanding
  /-- The connections that the AR has had before. -/
  connection : ℕ → ℕ

/-- The test of `pf_cmdev_cm_abort`. -/
def Ar.abortable (x : Ar) : Bool :=
  !x.deviceAccess || x.cmdevState = .PF_CMDEV_STATE_W_CRES || x.cmdevState = .PF_CMDEV_STATE_DATA

namespace Net

/-- The loop of `pf_session_allocate`. -/
def freeSession (net : Net) : Option ℕ :=
  (List.range PF_MAX_SESSION).find? fun six => !(net.sessions six).inUse

/-- The loop of `pf_ar_allocate`. -/
def freeAr (net : Net) : Option ℕ := (List.range PNET_MAX_AR).find? fun ar => !(net.ars ar).inUse

/-- `pf_session_locate_by_uuid`. -/
def sessionLocateByUuid (net : Net) (uuid : Uuid) : Option ℕ :=
  (List.range PF_MAX_SESSION).find? fun six =>
    (net.sessions six).inUse && (net.sessions six).activityUuid = uuid

end Net

namespace Resender

/-! ## Aborts -/

section
variable (st : Resender)

def session (six : ℕ) : Session := st.net.sessions six

def setSession (six : ℕ) (s : Session) : Resender := { st with net := st.net.setSession six s }

def setAr (ar : ℕ) (x : Ar) : Resender := { st with net := st.net.setAr ar x }

/-- Other tables. A handle that does not run in them any more has taken its timeout out of the
scheduler (`pf_scheduler_remove_if_running`). -/
def become (net : Net) : Resender :=
  { st with
    net
    timeouts := fun six =>
      if (st.session six).resendTimeout = true ∧ (net.sessions six).resendTimeout = false then
        st.timeouts six - 1
      else st.timeouts six }

/-- A connection is over, and with it what was sent for it. -/
def disconnect (ar : ℕ) : Resender :=
  { st with
    outstanding := fun six => (st.outstanding six).filter fun q => q ≠ ⟨some ar, st.connection ar⟩
    connection := Function.update st.connection ar (st.connection ar + 1) }

def abort (ar : ℕ) : Resender := (st.become (st.net.abort ar)).disconnect ar

/-- `pf_cmdev_cm_abort`. -/
def cmAbort : Option ℕ → Resender
  | none => st
  | some ar => if (st.net.ars ar).abortable then st.abort ar else st

end

/-- What the application and the other components do to an AR. -/
inductive Call where
  | abort (ar : ℕ)
  | cmdevState (ar : ℕ) (x : CmdevState)

def call (st : Resender) : Call → Resender
  | .abort ar => st.abort ar
  | .cmdevState ar x => st.setAr ar { st.net.ars ar with cmdevState := x }

def calls (st : Resender) (cs : List Call) : Resender := cs.foldl call st

/-! ## Transmissions -/

/-- What the session sends its packets for. -/
def purpose (st : Resender) (six : ℕ) : Outstanding :=
  ⟨(st.session six).ar, ((st.session six).ar.map st.connection).getD 0⟩

/-- The session has put out its packet, with `sendWithTimeout`; the timeout is in the scheduler if
both have worked. -/
def put (st : Resender) (out : Outlet) (six : ℕ) (s : Session) : Resender :=
  let runs := s.resendTimeout && out.sent && out.added
  { st with
    net := st.net.setSession six { s with resendTimeout := runs }
    timeouts := Function.update st.timeouts six (st.timeouts six + runs.toNat)
    sent := Function.update st.sent six (st.sent six + s.resendTimeout.toNat) }

/-- The same, with a packet that has not been put out before. -/
def begin (st : Resender) (out : Outlet) (six : ℕ) (s : Session) : Resender :=
  let st1 := { st with
    sent := Function.update st.sent six 0
    outstanding := if s.resendTimeout then
        Function.update st.outstanding six (some ((st.outstanding six).getD (st.purpose six)))
      else st.outstanding }
  st1.put out six s

/-- `pf_scheduler_reset_handle`. -/
def resetHandle (st : Resender) (six : ℕ) : Resender :=
  st.setSession six { st.session six with resendTimeout := false }

/-- "No response to CControl request", "No reaction to sent fragment". -/
def noReaction (st : Resender) (ar : ℕ) : Resender :=
  st.setAr ar { st.net.ars ar with
    errCls := PNET_ERROR_CODE_1_RTA_ERR_CLS_PROTOCOL
    errCode := PNET_ERROR_CODE_2_ABORT_AR_RPC_CONTROL_ERROR }

/-- The socket of a CControl request is closed, unless the session is gone. -/
def closeSocket (st : Resender) (six : ℕ) : Resender :=
  if (st.session six).fromMe ∧ -1 < (st.session six).socket then
    st.setSession six { st.session six with socket := -1 }
  else st

/-- The part of `pf_cmrpc_send_with_timeout` that gives up, where `p_ar` is taken for granted. -/
def giveUp (st : Resender) (six : ℕ) : Option Resender :=
  (st.session six).ar.map fun ar =>
    (((st.resetHandle six).noReaction ar).cmAbort (some ar)).closeSocket six

/-- The scheduler takes the timeout out before it calls the function. -/
def popTimeout (st : Resender) (six : ℕ) : Resender :=
  { st with timeouts := Function.update st.timeouts six (st.timeouts six - 1) }

/-- The timeout of a session expires: `pf_cmrpc_send_with_timeout`, as the call-back. -/
def expire (st : Resender) (six : ℕ) (out : Outlet) : Option Resender :=
  let s := st.session six
  if st.timeouts six = 0 then some st
  else if s.socket < 0 then some (st.popTimeout six)
  else if 0 < s.resendCounter then some ((st.popTimeout six).put out six (sendWithTimeout s).1)
  else (st.popTimeout six).giveUp six

/-! ## CControl requests -/

/-- The header of a CControl request. -/
def ccontrolHeader (objectUuid activityUuid : Uuid) (fragment : Bool) (lengthOfBody : ℕ) :
    RpcHeader :=
  { blankHeader with
    version := 4
    packetType := PF_RPC_PT_REQUEST
    flags := ⟨false, fragment, false, false, true, false⟩
    isBigEndian := true
    objectUuid
    interfaceUuid := uuidIoControllerInterface
    activityUuid
    interfaceVersion := 1
    opnum := PF_RPC_DEV_OPNUM_CONTROL
    interfaceHint := 0xFFFF
    activityHint := 0xFFFF
    lengthOfBody := BitVec.ofNat 16 lengthOfBody }

/-- The NDR data of a CControl request. -/
def ccontrolNdr (argsLength : ℕ) : List Byte :=
  let maximum := bytes32 true (BitVec.ofNat 32 (PF_MAX_UDP_PAYLOAD_SIZE - 100))
  let length := bytes32 true (BitVec.ofNat 32 argsLength)
  maximum ++ length ++ maximum ++ bytes32 true 0 ++ length

/-- The session of a CControl request; `blocks` are the arguments. -/
def ccontrolSession (ar : ℕ) (ipAddr : BitVec 32) (socket : ℤ) (objectUuid : Uuid)
    (blocks : List Byte) (s : Session) : Session :=
  let len := 100 + blocks.length
  let sendLen := if len < PF_MAX_UDP_PAYLOAD_SIZE then len else PF_MAX_UDP_PAYLOAD_SIZE
  { s with
    ar := some ar
    ipAddr
    port := PF_RPC_SERVER_PORT
    fromMe := true
    isBigEndian := true
    outBuffer := (datagramOf (ccontrolHeader objectUuid s.activityUuid
      (PF_MAX_UDP_PAYLOAD_SIZE ≤ len) (sendLen - 80)) (ccontrolNdr blocks.length ++ blocks)).buf
    outBufLen := len
    outBufSentPos := 0
    outFragmentNbr := 0
    outBufSendLen := sendLen
    socket }

/-- What a CControl request is made of, and what `pf_udp_open` answers. -/
structure CcontrolReq where
  activityUuid : Uuid
  objectUuid : Uuid
  blocks : List Byte
  socket : ℤ

/-- `pf_cmrpc_rm_ccontrol_req`, for an AR in use. -/
def rmCcontrolReq (st : Resender) (ar : ℕ) (req : CcontrolReq) (out : Outlet) : Resender :=
  match st.net.freeSession with
  | none => st
  | some six =>
    let s := (st.net.sessionAllocate six req.activityUuid).sessions six
    let ipAddr := ((st.net.ars ar).sess.map fun own => (st.session own).ipAddr).getD 0
    let s := ccontrolSession ar ipAddr req.socket req.objectUuid req.blocks s
    let st := st.setSession six s
    let st := { st with
      outstanding := Function.update st.outstanding six (some (st.purpose six)) }
    st.begin out six (sendWithTimeout { s with resendCounter := PF_CMRPC_NUMBER_OF_RESENDS }).1

/-! ## Packets -/

/-- What the handlers make of a request or of a response. -/
structure Handling where
  /-- A Connect request: the AR that it describes, and whether it is accepted. -/
  connect : Option (Ar × Bool)
  calls : List Call
  /-- Whether the handler sets `kill_session`; of a response, whether it is accepted. -/
  kill : Bool
  maxRspLen : ℕ
  /-- The output buffer and `out_buf_len`, with the response behind its header. -/
  outBuffer : ℕ → Byte
  outBufLen : ℕ

section
variable (st : Resender) (six : ℕ)

def kill : Resender := st.setSession six { st.session six with killSession := true }

/-- "Connect failed: Cleanup and signal to terminate the session." -/
def refuse : Resender := st.setSession six { st.session six with ar := none, killSession := true }

/-- `pf_cmrpc_rm_connect_ind`, with what is called between the allocation of the AR and the
response. -/
def rmConnectInd (x : Ar) (accepted : Bool) (cs : List Call) : Resender :=
  match st.net.freeAr with
  | none => st.refuse six
  | some ar =>
    let st := st.setAr ar { x with inUse := true, arep := BitVec.ofNat 16 (ar + 1), sess := some six }
    let st := (st.setSession six { st.session six with ar := some ar }).calls cs
    if accepted then st
    else ({ st with net := st.net.arRelease ar }.disconnect ar).refuse six

/-- `pf_cmrpc_rpc_request` and `pf_cmrpc_lookup_ind`, up to the response. -/
def handle (h : Handling) : Resender :=
  let st := match h.connect with
    | some (x, accepted) => st.rmConnectInd six x accepted h.calls
    | none => st.calls h.calls
  let s := st.session six
  st.setSession six { s with
    killSession := s.killSession || h.kill, outBuffer := h.outBuffer, outBufLen := h.outBufLen }

/-- The case `PF_RPC_PT_REQUEST`, up to "Our response will fit into send buffer". -/
def answer (rpcReq : RpcHeader) (h : Handling) : Resender :=
  let s := (beginResponse rpcReq h.maxRspLen (clearResponse (st.session six))).1
  let s := if rpcReq.opnum = PF_RPC_DEV_OPNUM_RELEASE then { s with releaseInProgress := true } else s
  (st.setSession six s).handle six h

/-- The header of the response, in the output buffer. -/
def responseStart (rpcReq : RpcHeader) (h : Handling) : ResponseStart :=
  (beginResponse rpcReq h.maxRspLen (clearResponse (st.session six))).2

/-- The case `PF_RPC_PT_RESPONSE`, of a session that has an AR. -/
def confirm (h : Handling) : Resender :=
  let st := st.calls h.calls
  if h.kill then
    { st.kill six with outstanding := Function.update st.outstanding six none }
  else st

/-- "Decide what to do with incoming message", all of which has arrived. -/
def dispatch (isNew : Bool) (rpcReq : RpcHeader) (h : Handling) (out : Outlet) : Option Resender :=
  let t := rpcReq.packetType
  if t = PF_RPC_PT_PING then
    some (st.setSession six { clearResponse (st.session six) with killSession := isNew })
  else if t = PF_RPC_PT_REQUEST then
    let st1 := st.answer six rpcReq h
    some (st1.begin out six
      (endResponse (st.responseStart six rpcReq h) (st1.session six)).1)
  else if t = PF_RPC_PT_FRAG_ACK then
    some (st.begin out six (fragAck rpcReq (st.session six)).1)
  else if t = PF_RPC_PT_RESPONSE then
    if isNew then some (st.kill six)
    else if rpcReq.opnum ≠ PF_RPC_DEV_OPNUM_CONTROL then some st
    -- `CC_ASSERT (p_ar != NULL)`
    else (st.session six).ar.map fun _ => st.confirm six h
  else if t = PF_RPC_PT_CL_CANCEL ∨ t = PF_RPC_PT_FAULT ∨ t = PF_RPC_PT_REJECT then
    some ((st.cmAbort (st.session six).ar).kill six)
  else some st

/-- "Kill session if necessary". -/
def killIfNecessary : Resender :=
  if (st.session six).killSession then st.become (st.net.sessionRelease six) else st

/-- The session of a packet, and whether it is a new one. -/
def locate (p : Packet) (activityUuid : Uuid) : Option (Resender × ℕ × Bool) :=
  match st.net.sessionLocateByUuid (received p.toDatagram).1.activityUuid with
  | some six => some (st, six, false)
  | none => st.net.freeSession.map fun six =>
    let s := (st.net.sessionAllocate six activityUuid).sessions six
    (st.setSession six { s with ipAddr := p.ipAddr, port := p.port, socket := st.rpcreqSocket },
      six, true)

/-- The packet is filed in its session, and "any incoming message stops resending". A fragment of a
response has found its reader with that; a CControl request has not. -/
def file (p : Packet) : Resender :=
  let st1 := st.become (st.net.setSession six (receivePacket p (st.session six)).1)
  { st1 with
    outstanding := if (st.session six).fromMe then st.outstanding
      else Function.update st.outstanding six none }

end

/-- "Full message has arrived". -/
def complete (rpcReq : RpcHeader) : Bool := !rpcReq.flags.fragment || rpcReq.flags.lastFragment

/-- `pf_cmrpc_dce_packet`. -/
def dcePacket (st : Resender) (p : Packet) (activityUuid : Uuid) (h : Handling) (out : Outlet) :
    Option Resender :=
  match st.locate p activityUuid with
  | none => some st
  | some (st, six, isNew) =>
    let rpcReq := (received p.toDatagram).1
    let st := st.file six p
    (if complete rpcReq then st.dispatch six isNew rpcReq h out else some st).map fun st =>
      st.killIfNecessary six

inductive Event where
  | ccontrolReq (ar : ℕ) (req : CcontrolReq) (out : Outlet)
  | expire (six : ℕ) (out : Outlet)
  | packet (p : Packet) (activityUuid : Uuid) (h : Handling) (out : Outlet)
  | call (c : Call)

/-- One step. The program ends where it would use an AR that was never set. -/
def step (st : Resender) : Event → Option Resender
  | .ccontrolReq ar req out =>
    some (if (st.net.ars ar).inUse then st.rmCcontrolReq ar req out else st)
  | .expire six out => st.expire six out
  | .packet p activityUuid h out => st.dcePacket p activityUuid h out
  | .call c => some (st.call c)

/-- After `pf_cmrpc_init`. -/
def powerOn (rpcreqSocket : ℤ) : Resender where
  net := ⟨fun _ => clearedSession, fun _ => clearedAr⟩
  rpcreqSocket
  timeouts := fun _ => 0
  sent := fun _ => 0
  outstanding := fun _ => none
  connection := fun _ => 0

end Resender

/-! ## The tables after an abort -/

namespace Net

variable {net : Net} {ar six : ℕ}

theorem sessionRelease_self (six : ℕ) (h : (net.sessions six).inUse = true) :
    (net.sessionRelease six).sessions six = clearedSession := by
  rw [sessionRelease, if_pos h]
  exact setSession_self ..

theorem sessionRelease_of_ne {i : ℕ} (h : i ≠ six) :
    (net.sessionRelease six).sessions i = net.sessions i := by
  unfold sessionRelease
  split
  · exact setSession_of_ne h _
  · rfl

@[simp] theorem sessionRelease_ars (six : ℕ) : (net.sessionRelease six).ars = net.ars := by
  unfold sessionRelease
  split <;> rfl

/-- The sessions that the device has begun for the AR go, and no others. -/
theorem foldl_release (l : List ℕ) (net : Net) (ar i : ℕ) :
    let net' := l.foldl
      (fun net six => if net.isFromMe ar six then net.sessionRelease six else net) net
    net'.ars = net.ars ∧
      net'.sessions i = if i ∈ l ∧ net.isFromMe ar i then clearedSession else net.sessions i := by
  induction l generalizing net with
  | nil => exact ⟨rfl, (if_neg fun h => List.not_mem_nil h.1).symm⟩
  | cons six l ih =>
    rw [List.foldl_cons]
    by_cases hmine : net.isFromMe ar six = true
    · rw [if_pos hmine]
      obtain ⟨hars, hsession⟩ := ih (net.sessionRelease six)
      refine ⟨hars.trans (sessionRelease_ars six), hsession.trans ?_⟩
      have huse : (net.sessions six).inUse = true := (of_decide_eq_true hmine).1
      by_cases hi : i = six
      · -- it is cleared now, and so not one of them any more
        subst hi
        have hgone : (net.sessionRelease i).isFromMe ar i = false := by
          unfold isFromMe
          rw [sessionRelease_self i huse]
          rfl
        rw [if_neg (by simp [hgone]), if_pos ⟨List.mem_cons_self, hmine⟩,
          sessionRelease_self i huse]
      · have hsame : (net.sessionRelease six).isFromMe ar i = net.isFromMe ar i := by
          unfold isFromMe
          rw [sessionRelease_of_ne hi]
        rw [hsame, sessionRelease_of_ne hi]
        simp [hi]
    · rw [if_neg hmine]
      obtain ⟨hars, hsession⟩ := ih net
      refine ⟨hars, hsession.trans ?_⟩
      by_cases hi : i = six
      · subst hi
        rw [if_neg fun h => hmine h.2, if_neg fun h => hmine h.2]
      · simp [hi]

/-- The tables behind the release of the session that has connected. -/
def releaseOwn (net : Net) (ar : ℕ) : Net :=
  match (net.ars ar).sess with
  | none => net
  | some six => if (net.sessions six).releaseInProgress then net else net.sessionRelease six

theorem abort_eq (net : Net) (ar : ℕ) :
    net.abort ar = ((net.releaseOwn ar).releaseFromMe ar).arRelease ar := rfl

@[simp] theorem releaseOwn_ars : (net.releaseOwn ar).ars = net.ars := by
  unfold releaseOwn
  split
  · rfl
  · split
    · rfl
    · exact sessionRelease_ars _

@[simp] theorem arRelease_sessions : (net.arRelease ar).sessions = net.sessions := by
  unfold arRelease
  split <;> rfl

theorem abort_sessions (i : ℕ) : (net.abort ar).sessions i =
    ((net.releaseOwn ar).releaseFromMe ar).sessions i := by
  rw [abort_eq, arRelease_sessions]

theorem arRelease_of_ne {i : ℕ} (h : i ≠ ar) : (net.arRelease ar).ars i = net.ars i := by
  unfold arRelease
  split
  · exact Function.update_of_ne h _ _
  · rfl

theorem arRelease_self : ((net.arRelease ar).ars ar).inUse = false := by
  unfold arRelease
  split
  · rw [setAr_self]
    rfl
  · next h => exact Bool.eq_false_iff.mpr h

theorem arRelease_sess {i : ℕ} {own : ℕ} (h : ((net.arRelease ar).ars i).sess = some own) :
    (net.ars i).sess = some own := by
  by_cases hi : i = ar
  · subst hi
    unfold arRelease at h
    split at h
    · rw [setAr_self] at h
      cases h
    · exact h
  · rwa [arRelease_of_ne hi] at h

theorem abort_ars : (net.abort ar).ars = (net.arRelease ar).ars := by
  have hars : ((net.releaseOwn ar).releaseFromMe ar).ars = net.ars :=
    (foldl_release _ _ ar 0).1.trans releaseOwn_ars
  rw [abort_eq]
  unfold arRelease
  rw [hars]
  split <;> simp [setAr, hars]

/-- An abort leaves the sessions of other ARs alone. -/
theorem abort_keeps (hown : (net.ars ar).sess ≠ some six) (har : (net.sessions six).ar ≠ some ar) :
    (net.abort ar).sessions six = net.sessions six := by
  have hfirst : (net.releaseOwn ar).sessions six = net.sessions six := by
    unfold releaseOwn
    split
    · rfl
    · next own hsess =>
      split
      · rfl
      · refine sessionRelease_of_ne fun h => hown ?_
        rw [h]
        exact hsess
  rw [abort_sessions, releaseFromMe, (foldl_release _ _ ar six).2, if_neg, hfirst]
  rintro ⟨-, hmine⟩
  have hsame := (of_decide_eq_true hmine).2.2
  rw [hfirst] at hsame
  exact har hsame

/-- The sessions that an abort releases. -/
theorem abort_clears (hlt : six < PF_MAX_SESSION) (huse : (net.sessions six).inUse = true)
    (hmine : ((net.sessions six).fromMe = true ∧ (net.sessions six).ar = some ar) ∨
      ((net.ars ar).sess = some six ∧ (net.sessions six).releaseInProgress = false)) :
    (net.abort ar).sessions six = clearedSession := by
  have hfirst : (net.releaseOwn ar).sessions six = net.sessions six ∨
      (net.releaseOwn ar).sessions six = clearedSession := by
    unfold releaseOwn
    split
    · exact .inl rfl
    · split
      · exact .inl rfl
      · exact sessionRelease_cases six _
  rw [abort_sessions, releaseFromMe, (foldl_release _ _ ar six).2]
  split
  · rfl
  · next hnot =>
    rcases hmine with ⟨hfrom, har⟩ | ⟨hown, hopen⟩
    · -- its own request, unless it has been released before
      rcases hfirst with hsame | hgone
      · refine absurd ⟨List.mem_range.mpr hlt, ?_⟩ hnot
        unfold isFromMe
        rw [hsame]
        exact decide_eq_true ⟨huse, hfrom, har⟩
      · exact hgone
    · unfold releaseOwn
      rw [hown]
      dsimp only
      rw [hopen]
      exact sessionRelease_self six huse

end Net

/-! ## The session of a transmission -/

/-- What has to do with the AR of a session stays; a session that is not to be killed is not. -/
structure Alike (s s' : Session) : Prop where
  inUse : s'.inUse = s.inUse
  socket : s'.socket = s.socket
  ar : s'.ar = s.ar
  fromMe : s'.fromMe = s.fromMe
  releaseInProgress : s'.releaseInProgress = s.releaseInProgress
  killSession : s'.killSession = true → s.killSession = true

theorem Alike.refl (s : Session) : Alike s s := ⟨rfl, rfl, rfl, rfl, rfl, id⟩

theorem Alike.trans {s s' s'' : Session} (h : Alike s s') (h' : Alike s' s'') : Alike s s'' :=
  ⟨h'.inUse.trans h.inUse, h'.socket.trans h.socket, h'.ar.trans h.ar, h'.fromMe.trans h.fromMe,
    h'.releaseInProgress.trans h.releaseInProgress, fun hk => h.killSession (h'.killSession hk)⟩

/-- What has to do with the timer of a session stays. -/
structure SameTimer (s s' : Session) : Prop where
  inUse : s'.inUse = s.inUse
  socket : s'.socket = s.socket
  resendTimeout : s'.resendTimeout = s.resendTimeout
  resendCounter : s'.resendCounter = s.resendCounter

theorem SameTimer.refl (s : Session) : SameTimer s s := ⟨rfl, rfl, rfl, rfl⟩

/-- No packet has been put out that is to be resent. -/
structure Silent (s s' : Session) : Prop extends Alike s s' where
  resendTimeout : s'.resendTimeout = s.resendTimeout
  resendCounter : s'.resendCounter = s.resendCounter ∨ s'.resendCounter = PF_CMRPC_NUMBER_OF_RESENDS

/-- A packet has been put out, with `n` resends left after it. -/
structure PutOut (n : ℕ) (s s' : Session) : Prop extends Alike s s' where
  isOpen : 0 ≤ s.socket
  resendTimeout : s'.resendTimeout = true
  resendCounter : s'.resendCounter = n
  sendLen : 0 < s'.outBufSendLen

theorem Alike.putOut {n : ℕ} {s s' s'' : Session} (h : Alike s s') (h' : PutOut n s' s'') :
    PutOut n s s'' :=
  ⟨h.trans h'.toAlike, h.socket ▸ h'.isOpen, h'.resendTimeout, h'.resendCounter, h'.sendLen⟩

theorem sendWithTimeout_closed {s : Session} (h : s.socket < 0) : (sendWithTimeout s).1 = s := by
  rw [sendWithTimeout, if_pos h]

/-- A packet that is not empty goes out, when the socket is open. -/
theorem sendWithTimeout_open {s : Session} (h : 0 ≤ s.socket) (hlen : 0 < s.outBufSendLen) :
    PutOut (s.resendCounter - 1) s (sendWithTimeout s).1 := by
  rw [sendWithTimeout_of_pos h hlen]
  exact ⟨⟨rfl, rfl, rfl, rfl, rfl, id⟩, h, rfl, rfl, hlen⟩

/-- The first time. -/
theorem firstSend_cases {s : Session} (hlen : 0 < s.outBufSendLen) :
    let s' := (sendWithTimeout { s with resendCounter := PF_CMRPC_NUMBER_OF_RESENDS }).1
    (s.socket < 0 ∧ Silent s s') ∨ PutOut (PF_CMRPC_NUMBER_OF_RESENDS - 1) s s' := by
  have halike : Alike s { s with resendCounter := PF_CMRPC_NUMBER_OF_RESENDS } :=
    ⟨rfl, rfl, rfl, rfl, rfl, id⟩
  by_cases hsocket : s.socket < 0
  · left
    rw [sendWithTimeout_closed (by exact hsocket)]
    exact ⟨hsocket, halike, rfl, .inr rfl⟩
  · right
    have hsend := sendWithTimeout_open
      (s := { s with resendCounter := PF_CMRPC_NUMBER_OF_RESENDS }) (Int.not_lt.mp hsocket) hlen
    exact halike.putOut hsend

theorem sendFragment_closed {s : Session} (h : s.socket < 0) (buf : ℕ → Byte) (n : ℕ) :
    Silent s (sendFragment buf n s).1 := by
  rw [sendFragment, sendWithTimeout_closed (by exact h)]
  exact ⟨⟨rfl, rfl, rfl, rfl, rfl, id⟩, rfl, .inr rfl⟩

theorem sendFragment_open {s : Session} (h : 0 ≤ s.socket) (buf : ℕ → Byte) {n : ℕ} (hn : 0 < n) :
    PutOut (PF_CMRPC_NUMBER_OF_RESENDS - 1) s (sendFragment buf n s).1 := by
  rw [sendFragment_eq buf h hn]
  exact ⟨⟨rfl, rfl, rfl, rfl, rfl, id⟩, h, rfl, rfl, hn⟩

/-- A response is resent if it takes several packets. -/
theorem endResponse_cases (b : ResponseStart) (s : Session) :
    ((PF_MAX_UDP_PAYLOAD_SIZE ≤ s.outBufLen → s.socket < 0) ∧ Silent s (endResponse b s).1) ∨
      (PF_MAX_UDP_PAYLOAD_SIZE ≤ s.outBufLen ∧
        PutOut (PF_CMRPC_NUMBER_OF_RESENDS - 1) s (endResponse b s).1) := by
  unfold endResponse
  split
  · left
    exact ⟨fun h => absurd h (by omega), ⟨rfl, rfl, rfl, rfl, rfl, id⟩, rfl, .inl rfl⟩
  · by_cases hsocket : s.socket < 0
    · exact .inl ⟨fun _ => hsocket, sendFragment_closed hsocket _ _⟩
    · exact .inr ⟨by omega, sendFragment_open (by omega) _ (by decide)⟩

/-- There is more to send once the packet in the output buffer has been acknowledged. -/
def MoreFragments (s : Session) : Prop := (acknowledge s).outBufSentPos < s.outBufLen

theorem nextFragment_sends (rpcReq : RpcHeader) (s : Session) :
    ∃ buf n, 0 < n ∧ nextFragment rpcReq s = sendFragment buf n s := by
  have hput : ∀ h b, putDceRpcHeader h PF_MAX_UDP_PAYLOAD_SIZE ⟨b, 0⟩ = _ := fun h b =>
    putDceRpcHeader_eq h ⟨b, 0⟩ (show 0 + 80 ≤ PF_MAX_UDP_PAYLOAD_SIZE by decide)
  rw [nextFragment]
  simp only [hput, Writer.append, headerBytes_length, Nat.zero_add]
  -- the header of the fragment is not empty
  split
  · exact ⟨_, _, Nat.add_pos_right _ (by decide), rfl⟩
  · exact ⟨_, _, Nat.add_pos_right _ (by decide), rfl⟩

theorem fragAck_cases (rpcReq : RpcHeader) (s : Session) :
    ((MoreFragments s → s.socket < 0) ∧ Silent s (fragAck rpcReq s).1) ∨
      (MoreFragments s ∧ PutOut (PF_CMRPC_NUMBER_OF_RESENDS - 1) s (fragAck rpcReq s).1) := by
  have hack : Alike s (acknowledge s) := ⟨rfl, rfl, rfl, rfl, rfl, id⟩
  unfold fragAck
  split
  · next hmore =>
    obtain ⟨buf, n, hn, heq⟩ := nextFragment_sends rpcReq (acknowledge s)
    rw [heq]
    by_cases hsocket : s.socket < 0
    · have hsilent := sendFragment_closed (s := acknowledge s) hsocket buf n
      exact .inl ⟨fun _ => hsocket, hack.trans hsilent.toAlike, hsilent.resendTimeout,
        hsilent.resendCounter⟩
    · have hopen : 0 ≤ (acknowledge s).socket := Int.not_lt.mp hsocket
      exact .inr ⟨hmore, hack.putOut (sendFragment_open hopen buf hn)⟩
  · next hno => exact .inl ⟨fun h => absurd h hno, ⟨rfl, rfl, rfl, rfl, rfl, id⟩, rfl, .inl rfl⟩

/-- Filing a packet in its session stops the timer. -/
theorem receivePacket_alike (p : Packet) (s : Session) :
    Alike s (receivePacket p s).1 ∧ (receivePacket p s).1.resendTimeout = false ∧
      (receivePacket p s).1.resendCounter = s.resendCounter := by
  have hstart (p : Packet) (rpcReq : RpcHeader) (s : Session) :
      Alike s (startMessage p rpcReq s) ∧
        (startMessage p rpcReq s).resendCounter = s.resendCounter :=
    ⟨⟨rfl, rfl, rfl, rfl, rfl, fun h => Bool.noConfusion h⟩, rfl⟩
  have hadd (p : Packet) (rpcReq : RpcHeader) (pos : ℕ) (s : Session) :
      Alike s (addFragment p rpcReq pos s).1 ∧
        (addFragment p rpcReq pos s).1.resendCounter = s.resendCounter := by
    unfold addFragment
    repeat' split
    all_goals exact ⟨⟨rfl, rfl, rfl, rfl, rfl, id⟩, rfl⟩
  have hcheck (rpcReq : RpcHeader) (s : Session) :
      Alike s (checkEndian rpcReq s) ∧ (checkEndian rpcReq s).resendCounter = s.resendCounter := by
    unfold checkEndian
    split
    · exact ⟨⟨rfl, rfl, rfl, rfl, rfl, id⟩, rfl⟩
    · exact ⟨Alike.refl s, rfl⟩
  generalize hparsed : received p.toDatagram = parsed
  obtain ⟨rpcReq, r⟩ := parsed
  let s0 := { s with getInfo := r.info, rpcResult := noError }
  have h0 : Alike s s0 := ⟨rfl, rfl, rfl, rfl, rfl, id⟩
  have hstop (s' : Session) (h : Alike s0 s') : Alike s { s' with resendTimeout := false } :=
    h0.trans ⟨h.inUse, h.socket, h.ar, h.fromMe, h.releaseInProgress, h.killSession⟩
  unfold receivePacket
  rw [hparsed]
  dsimp only
  split
  · obtain ⟨halike, hcounter⟩ := hstart p rpcReq s0
    exact ⟨hstop _ halike, rfl, hcounter⟩
  · split
    · obtain ⟨halike, hcounter⟩ := hadd p rpcReq r.pos (startMessage p rpcReq s0)
      exact ⟨hstop _ ((hstart p rpcReq s0).1.trans halike), rfl, hcounter⟩
    · obtain ⟨halike, hcounter⟩ := hadd p rpcReq r.pos (checkEndian rpcReq s0)
      exact ⟨hstop _ ((hcheck rpcReq s0).1.trans halike), rfl,
        hcounter.trans (hcheck rpcReq s0).2⟩

namespace Resender

variable {st : Resender} {six j ar : ℕ} {out : Outlet} {b : Bool}

theorem setSession_session_self (s : Session) : (st.setSession six s).session six = s :=
  Net.setSession_self ..

theorem setSession_session_ne (h : j ≠ six) (s : Session) :
    (st.setSession six s).session j = st.session j :=
  Net.setSession_of_ne h s

/-! ## Timeouts and transmissions, in any run -/

/-- The timeouts of a session are those that its handle knows of, and no packet of the session is put
out too often. -/
structure Tidy (st : Resender) (six : ℕ) : Prop where
  timeouts : st.timeouts six = (st.session six).resendTimeout.toNat
  isOpen : (st.session six).resendTimeout = true → 0 ≤ (st.session six).socket
  free : (st.session six).inUse = false →
    (st.session six).resendTimeout = false ∧ (st.session six).socket < 0
  sent : st.sent six + (st.session six).resendCounter ≤ PF_CMRPC_NUMBER_OF_RESENDS
  lt : (st.session six).inUse = true → six < PF_MAX_SESSION

theorem Tidy.congr {st' : Resender} (h : Tidy st six) (ht : st'.timeouts six = st.timeouts six)
    (hsent : st'.sent six = st.sent six)
    (hsame : SameTimer (st.session six) (st'.session six)) : Tidy st' six := by
  constructor
  · rw [ht, hsame.resendTimeout]
    exact h.timeouts
  · rw [hsame.resendTimeout, hsame.socket]
    exact h.isOpen
  · rw [hsame.resendTimeout, hsame.socket, hsame.inUse]
    exact h.free
  · rw [hsent, hsame.resendCounter]
    exact h.sent
  · rw [hsame.inUse]
    exact h.lt

theorem Tidy.setSession {s : Session} (h : ∀ j, Tidy st j) (hsame : SameTimer (st.session six) s)
    (j : ℕ) : Tidy (st.setSession six s) j := by
  by_cases hj : j = six
  · subst hj
    have hsession : (st.setSession j s).session j = s := setSession_session_self s
    apply (h j).congr
    · rfl
    · rfl
    · rwa [hsession]
  · have hsession : (st.setSession six s).session j = st.session j := setSession_session_ne hj s
    apply (h j).congr
    · rfl
    · rfl
    · rw [hsession]
      exact SameTimer.refl _

/-- Sessions are released, or timers are stopped. -/
theorem Tidy.become {net : Net} (h : Tidy st j)
    (hcases : net.sessions j = st.session j ∨ net.sessions j = clearedSession ∨
      (Alike (st.session j) (net.sessions j) ∧ (net.sessions j).resendTimeout = false ∧
        (net.sessions j).resendCounter = (st.session j).resendCounter)) :
    Tidy (st.become net) j := by
  have htimeouts : (st.become net).timeouts j =
      if (st.session j).resendTimeout = true ∧ (net.sessions j).resendTimeout = false then
        st.timeouts j - 1 else st.timeouts j := rfl
  have hsession : (st.become net).session j = net.sessions j := rfl
  -- a handle that has stopped has taken its only timeout with it
  have hstopped (hstop : (net.sessions j).resendTimeout = false) :
      (st.become net).timeouts j = 0 := by
    rw [htimeouts, hstop, h.timeouts]
    cases (st.session j).resendTimeout <;> rfl
  rcases hcases with hsame | hgone | ⟨halike, hstop, hcounter⟩
  · apply h.congr
    · rw [htimeouts, hsame, if_neg fun hc => Bool.noConfusion (hc.1.symm.trans hc.2)]
    · rfl
    · rw [hsession, hsame]
      exact SameTimer.refl _
  · have hsent := h.sent
    constructor
    · rw [hstopped (by rw [hgone]; rfl), hsession, hgone]
      rfl
    · rw [hsession, hgone]
      exact fun hc => Bool.noConfusion hc
    · rw [hsession, hgone]
      exact fun _ => ⟨rfl, by decide⟩
    · rw [hsession, hgone]
      show st.sent j + 0 ≤ _
      omega
    · rw [hsession, hgone]
      exact fun hc => Bool.noConfusion hc
  · constructor
    · rw [hstopped hstop, hsession, hstop]
      rfl
    · rw [hsession, hstop]
      exact fun hc => Bool.noConfusion hc
    · rw [hsession, hstop, halike.inUse, halike.socket]
      exact fun huse => ⟨rfl, (h.free huse).2⟩
    · rw [hsession, hcounter]
      exact h.sent
    · rw [hsession, halike.inUse]
      exact h.lt

theorem Tidy.abort (h : ∀ j, Tidy st j) (ar j : ℕ) : Tidy (st.abort ar) j := by
  have hbecome : Tidy (st.become (st.net.abort ar)) j := by
    apply (h j).become
    have hcases : (st.net.abort ar).sessions j = st.session j ∨
        (st.net.abort ar).sessions j = clearedSession := Net.abort_session ar j
    rcases hcases with hsame | hgone
    · exact .inl hsame
    · exact .inr (.inl hgone)
  exact hbecome.congr rfl rfl (SameTimer.refl _)

theorem Tidy.calls (h : ∀ j, Tidy st j) (cs : List Call) (j : ℕ) : Tidy (st.calls cs) j := by
  induction cs generalizing st with
  | nil => exact h j
  | cons c cs ih =>
    apply ih
    intro j
    cases c with
    | abort ar => exact Tidy.abort h ar j
    | cmdevState ar x => exact (h j).congr rfl rfl (SameTimer.refl _)

/-- A packet is put out by a session without a timeout. -/
theorem Tidy.put {s : Session} (h : ∀ j, j ≠ six → Tidy st j) (hnone : st.timeouts six = 0)
    (hopen : s.resendTimeout = true → 0 ≤ s.socket)
    (hfree : s.inUse = false → s.resendTimeout = false ∧ s.socket < 0)
    (hsent : st.sent six + s.resendTimeout.toNat + s.resendCounter ≤ PF_CMRPC_NUMBER_OF_RESENDS)
    (hlt : s.inUse = true → six < PF_MAX_SESSION) (j : ℕ) : Tidy (st.put out six s) j := by
  by_cases hj : j = six
  · subst hj
    have hsession : (st.put out j s).session j =
        { s with resendTimeout := s.resendTimeout && out.sent && out.added } :=
      Net.setSession_self ..
    have htimeouts : (st.put out j s).timeouts j =
        st.timeouts j + (s.resendTimeout && out.sent && out.added).toNat :=
      Function.update_self ..
    have hcount : (st.put out j s).sent j = st.sent j + s.resendTimeout.toNat :=
      Function.update_self ..
    constructor
    · rw [htimeouts, hsession, hnone, Nat.zero_add]
    · rw [hsession]
      intro hruns
      exact hopen (Bool.and_eq_true_iff.mp (Bool.and_eq_true_iff.mp hruns).1).1
    · rw [hsession]
      intro huse
      refine ⟨?_, (hfree huse).2⟩
      show (s.resendTimeout && out.sent && out.added) = false
      rw [(hfree huse).1]
      rfl
    · rw [hsession, hcount]
      exact hsent
    · rw [hsession]
      exact hlt
  · have hsession : (st.put out six s).session j = st.session j := Net.setSession_of_ne hj _
    apply (h j hj).congr
    · exact Function.update_of_ne hj _ _
    · exact Function.update_of_ne hj _ _
    · rw [hsession]
      exact SameTimer.refl _

/-- A packet that is new goes out, or none. -/
theorem Tidy.begin {s : Session} (h : ∀ j, Tidy st j) (hidle : (st.session six).resendTimeout = false)
    (hcases : Silent (st.session six) s ∨ PutOut (PF_CMRPC_NUMBER_OF_RESENDS - 1) (st.session six) s)
    (j : ℕ) : Tidy (st.begin out six s) j := by
  have hsix := h six
  have hzero : st.timeouts six = 0 := by
    rw [hsix.timeouts, hidle]
    rfl
  have halike : Alike (st.session six) s := by
    rcases hcases with hsilent | hput
    · exact hsilent.toAlike
    · exact hput.toAlike
  unfold Resender.begin
  apply Tidy.put
  · intro j hj
    exact (h j).congr rfl (Function.update_of_ne hj _ _) (SameTimer.refl _)
  · exact hzero
  · rw [halike.socket]
    rcases hcases with hsilent | hput
    · rw [hsilent.resendTimeout]
      exact hsix.isOpen
    · exact fun _ => hput.isOpen
  · rw [halike.inUse, halike.socket]
    intro huse
    rcases hcases with hsilent | hput
    · rw [hsilent.resendTimeout]
      exact hsix.free huse
    · exact absurd (hsix.free huse).2 (Int.not_lt.mpr hput.isOpen)
  · have hcount := hsix.sent
    show Function.update st.sent six 0 six + _ + _ ≤ _
    rw [Function.update_self]
    rcases hcases with hsilent | hput
    · rw [hsilent.resendTimeout, hidle]
      rcases hsilent.resendCounter with heq | heq
      · rw [heq]
        simp only [Bool.toNat_false]
        omega
      · rw [heq]
        rfl
    · rw [hput.resendTimeout, hput.resendCounter]
      rfl
  · rw [halike.inUse]
    exact hsix.lt

/-- The timer of a session is stopped while a packet of the session is dealt with. -/
structure Quiet (st : Resender) (six : ℕ) : Prop where
  tidy : ∀ j, Tidy st j
  resendTimeout : (st.session six).resendTimeout = false

theorem Quiet.setSession {s : Session} (h : Quiet st six) (hsame : SameTimer (st.session six) s) :
    Quiet (st.setSession six s) six := by
  constructor
  · exact Tidy.setSession h.tidy hsame
  · rw [setSession_session_self, hsame.resendTimeout]
    exact h.resendTimeout

/-- An abort starts no timer. -/
theorem Quiet.abort (h : Quiet st six) (ar : ℕ) : Quiet (st.abort ar) six := by
  constructor
  · exact Tidy.abort h.tidy ar
  · have hcases : (st.abort ar).session six = st.session six ∨
        (st.abort ar).session six = clearedSession := Net.abort_session ar six
    rcases hcases with hsame | hgone
    · rw [hsame]
      exact h.resendTimeout
    · rw [hgone]
      rfl

theorem Quiet.setAr (h : Quiet st six) (ar : ℕ) (x : Ar) : Quiet (st.setAr ar x) six := by
  constructor
  · exact fun j => (h.tidy j).congr rfl rfl (SameTimer.refl _)
  · exact h.resendTimeout

theorem Quiet.calls (h : Quiet st six) (cs : List Call) : Quiet (st.calls cs) six := by
  induction cs generalizing st with
  | nil => exact h
  | cons c cs ih =>
    apply ih
    cases c with
    | abort ar => exact h.abort ar
    | cmdevState ar x => exact h.setAr ar _

theorem Quiet.cmAbort (h : Quiet st six) (ar : Option ℕ) : Quiet (st.cmAbort ar) six := by
  cases ar with
  | none => exact h
  | some ar =>
    unfold Resender.cmAbort
    dsimp only
    split
    · exact h.abort ar
    · exact h

theorem Quiet.refuse (h : Quiet st six) : Quiet (st.refuse six) six := h.setSession ⟨rfl, rfl, rfl, rfl⟩

theorem Quiet.kill (h : Quiet st six) : Quiet (st.kill six) six := h.setSession ⟨rfl, rfl, rfl, rfl⟩

theorem Quiet.releaseAr (h : Quiet st six) (ar : ℕ) :
    Quiet ({ st with net := st.net.arRelease ar }.disconnect ar) six := by
  have hsessions : (st.net.arRelease ar).sessions = st.net.sessions := Net.arRelease_sessions
  have hsession (j : ℕ) : ({ st with net := st.net.arRelease ar }.disconnect ar).session j =
      st.session j := congrFun hsessions j
  constructor
  · intro j
    apply (h.tidy j).congr
    · rfl
    · rfl
    · rw [hsession]
      exact SameTimer.refl _
  · rw [hsession]
    exact h.resendTimeout

theorem Quiet.rmConnectInd (h : Quiet st six) (x : Ar) (accepted : Bool) (cs : List Call) :
    Quiet (st.rmConnectInd six x accepted cs) six := by
  unfold Resender.rmConnectInd
  split
  · exact h.refuse
  · next ar _ =>
    have hset := (h.setAr ar { x with
      inUse := true, arep := BitVec.ofNat 16 (ar + 1), sess := some six })
    have hcalls := Quiet.calls (hset.setSession (s := { st.session six with ar := some ar })
      ⟨rfl, rfl, rfl, rfl⟩) cs
    dsimp only
    split
    · exact hcalls
    · exact (hcalls.releaseAr ar).refuse

theorem Quiet.handle (h : Quiet st six) (hd : Handling) : Quiet (st.handle six hd) six := by
  unfold Resender.handle
  dsimp only
  split
  · next x accepted _ => exact (h.rmConnectInd x accepted hd.calls).setSession ⟨rfl, rfl, rfl, rfl⟩
  · exact (h.calls hd.calls).setSession ⟨rfl, rfl, rfl, rfl⟩

theorem Quiet.answer (h : Quiet st six) (rpcReq : RpcHeader) (hd : Handling) :
    Quiet (st.answer six rpcReq hd) six := by
  unfold Resender.answer
  dsimp only
  apply Quiet.handle
  split <;> exact h.setSession ⟨rfl, rfl, rfl, rfl⟩

theorem Quiet.begin {s : Session} (h : Quiet st six)
    (hcases : Silent (st.session six) s ∨ PutOut (PF_CMRPC_NUMBER_OF_RESENDS - 1) (st.session six) s)
    (j : ℕ) : Tidy (st.begin out six s) j :=
  Tidy.begin h.tidy h.resendTimeout hcases j

theorem Tidy.killIfNecessary (h : ∀ j, Tidy st j) (six j : ℕ) : Tidy (st.killIfNecessary six) j := by
  unfold Resender.killIfNecessary
  split
  · apply (h j).become
    rcases Net.sessionRelease_cases j six with hsame | hgone
    · exact .inl hsame
    · exact .inr (.inl hgone)
  · exact h j

theorem Quiet.dispatch {st' : Resender} {isNew : Bool} {rpcReq : RpcHeader} {hd : Handling}
    (h : Quiet st six) (hdone : st.dispatch six isNew rpcReq hd out = some st') (j : ℕ) :
    Tidy st' j := by
  unfold Resender.dispatch at hdone
  dsimp only at hdone
  split at hdone
  · -- a ping
    cases hdone
    refine Tidy.setSession h.tidy ?_ j
    exact ⟨rfl, rfl, rfl, rfl⟩
  split at hdone
  · -- a request
    cases hdone
    apply (h.answer rpcReq hd).begin
    rcases endResponse_cases (st.responseStart six rpcReq hd)
      ((st.answer six rpcReq hd).session six) with ⟨_, hsilent⟩ | ⟨_, hput⟩
    · exact .inl hsilent
    · exact .inr hput
  split at hdone
  · -- the acknowledgement of a fragment
    cases hdone
    apply h.begin
    rcases fragAck_cases rpcReq (st.session six) with ⟨_, hsilent⟩ | ⟨_, hput⟩
    · exact .inl hsilent
    · exact .inr hput
  split at hdone
  · -- a response
    split at hdone
    · cases hdone
      exact h.kill.tidy j
    · split at hdone
      · cases hdone
        exact h.tidy j
      · obtain ⟨_, _, rfl⟩ := Option.map_eq_some_iff.mp hdone
        unfold confirm
        dsimp only
        split
        · exact ((h.calls hd.calls).kill.tidy j).congr rfl rfl (SameTimer.refl _)
        · exact (h.calls hd.calls).tidy j
  split at hdone
  · -- the controller has given up
    cases hdone
    exact (h.cmAbort _).kill.tidy j
  · cases hdone
    exact h.tidy j

theorem sessionAllocate_self (net : Net) (six : ℕ) (activityUuid : Uuid) :
    (net.sessionAllocate six activityUuid).sessions six = { clearedSession with
      inUse := true, activityUuid, dcontrolSequenceNmb := UINT32_MAX } :=
  Net.setSession_self ..

/-- A session that has not been in use. -/
theorem Tidy.allocate {s : Session} (h : ∀ j, Tidy st j) (hfree : st.net.freeSession = some six)
    (huse : s.inUse = true) (htimer : s.resendTimeout = false)
    (hcounter : s.resendCounter = 0) (j : ℕ) : Tidy (st.setSession six s) j := by
  have hunused : (st.net.sessions six).inUse = false := by
    simpa using List.find?_some hfree
  by_cases hj : j = six
  · subst hj
    have hsession : (st.setSession j s).session j = s := setSession_session_self s
    have htimeouts : st.timeouts j = 0 := by
      rw [(h j).timeouts, ((h j).free hunused).1]
      rfl
    have hsent := (h j).sent
    constructor
    · rw [hsession, htimer]
      exact htimeouts
    · rw [hsession, htimer]
      exact fun hc => Bool.noConfusion hc
    · rw [hsession, huse]
      exact fun hc => Bool.noConfusion hc
    · rw [hsession, hcounter]
      show st.sent j + 0 ≤ _
      omega
    · exact fun _ => List.mem_range.mp (List.mem_of_find?_eq_some hfree)
  · have hsession : (st.setSession six s).session j = st.session j := setSession_session_ne hj s
    apply (h j).congr
    · rfl
    · rfl
    · rw [hsession]
      exact SameTimer.refl _

theorem Tidy.locate {p : Packet} {activityUuid : Uuid} {st' : Resender} {isNew : Bool}
    (h : ∀ j, Tidy st j) (hlocate : st.locate p activityUuid = some (st', six, isNew)) (j : ℕ) :
    Tidy st' j := by
  unfold Resender.locate at hlocate
  split at hlocate
  · cases hlocate
    exact h j
  · obtain ⟨_, hfree, heq⟩ := Option.map_eq_some_iff.mp hlocate
    cases heq
    rw [sessionAllocate_self]
    exact Tidy.allocate h hfree rfl rfl rfl j

theorem Quiet.file (h : ∀ j, Tidy st j) (p : Packet) : Quiet (st.file six p) six := by
  obtain ⟨halike, hstop, hcounter⟩ := receivePacket_alike p (st.session six)
  have hself : (st.net.setSession six (receivePacket p (st.session six)).1).sessions six =
      (receivePacket p (st.session six)).1 := Net.setSession_self ..
  constructor
  · intro j
    have hbecome : Tidy (st.become
        (st.net.setSession six (receivePacket p (st.session six)).1)) j := by
      apply (h j).become
      by_cases hj : j = six
      · subst hj
        rw [hself]
        exact .inr (.inr ⟨halike, hstop, hcounter⟩)
      · exact .inl (Net.setSession_of_ne hj _)
    exact hbecome.congr rfl rfl (SameTimer.refl _)
  · show ((st.net.setSession six _).sessions six).resendTimeout = false
    rw [hself]
    exact hstop

theorem Tidy.dcePacket {p : Packet} {activityUuid : Uuid} {hd : Handling} {st' : Resender}
    (h : ∀ j, Tidy st j) (hdone : st.dcePacket p activityUuid hd out = some st') (j : ℕ) :
    Tidy st' j := by
  unfold Resender.dcePacket at hdone
  split at hdone
  · cases hdone
    exact h j
  · next st1 six isNew hlocate =>
    have hquiet : Quiet (st1.file six p) six := Quiet.file (Tidy.locate h hlocate) p
    obtain ⟨st2, hdispatch, rfl⟩ := Option.map_eq_some_iff.mp hdone
    apply Tidy.killIfNecessary
    intro i
    split at hdispatch
    · exact hquiet.dispatch hdispatch i
    · cases hdispatch
      exact hquiet.tidy i

theorem Quiet.closeSocket (h : Quiet st six) (j : ℕ) : Tidy (st.closeSocket six) j := by
  unfold Resender.closeSocket
  split
  · have hsix := h.tidy six
    by_cases hj : j = six
    · subst hj
      constructor
      · rw [setSession_session_self]
        exact hsix.timeouts
      · rw [setSession_session_self]
        exact fun hruns => Bool.noConfusion (h.resendTimeout.symm.trans hruns)
      · rw [setSession_session_self]
        exact fun _ => ⟨h.resendTimeout, (by decide : (-1 : ℤ) < 0)⟩
      · rw [setSession_session_self]
        exact hsix.sent
      · rw [setSession_session_self]
        exact hsix.lt
    · apply (h.tidy j).congr
      · rfl
      · rfl
      · rw [setSession_session_ne hj]
        exact SameTimer.refl _
  · exact h.tidy j

theorem Tidy.giveUp {st' : Resender} (h : Quiet (st.resetHandle six) six)
    (hdone : st.giveUp six = some st') (j : ℕ) : Tidy st' j := by
  obtain ⟨ar, _, rfl⟩ := Option.map_eq_some_iff.mp hdone
  exact ((h.setAr ar _).cmAbort (some ar)).closeSocket j

/-- A timeout that expires finds its handle running and the socket open. -/
theorem Tidy.of_pending (h : Tidy st six) (hpending : st.timeouts six ≠ 0) :
    (st.session six).resendTimeout = true ∧ 0 ≤ (st.session six).socket ∧ st.timeouts six = 1 := by
  have hruns : (st.session six).resendTimeout = true := by
    cases hhandle : (st.session six).resendTimeout with
    | true => rfl
    | false =>
      refine absurd ?_ hpending
      rw [h.timeouts, hhandle]
      rfl
  refine ⟨hruns, h.isOpen hruns, ?_⟩
  rw [h.timeouts, hruns]
  rfl

theorem expire_pending (h : Tidy st six) (hpending : st.timeouts six ≠ 0) (out : Outlet) :
    st.expire six out =
      if 0 < (st.session six).resendCounter then
        some ((st.popTimeout six).put out six (sendWithTimeout (st.session six)).1)
      else (st.popTimeout six).giveUp six := by
  obtain ⟨_, hopen, _⟩ := h.of_pending hpending
  unfold Resender.expire
  dsimp only
  rw [if_neg hpending, if_neg (Int.not_lt.mpr hopen)]

theorem Tidy.expire {st' : Resender} (h : ∀ j, Tidy st j) (hdone : st.expire six out = some st')
    (j : ℕ) : Tidy st' j := by
  by_cases hpending : st.timeouts six = 0
  · have hnone : st.expire six out = some st := if_pos hpending
    cases hnone.symm.trans hdone
    exact h j
  have hsix := h six
  obtain ⟨hruns, hopen, hone⟩ := hsix.of_pending hpending
  rw [expire_pending hsix hpending] at hdone
  -- its only timeout has left the scheduler
  have hzero : (st.popTimeout six).timeouts six = 0 := by
    show Function.update st.timeouts six (st.timeouts six - 1) six = 0
    rw [Function.update_self, hone]
  have hothers (i : ℕ) (hi : i ≠ six) : Tidy (st.popTimeout six) i :=
    (h i).congr (Function.update_of_ne hi _ _) rfl (SameTimer.refl _)
  split at hdone
  · -- once more
    next hcounter =>
    cases hdone
    have hsend : (sendWithTimeout (st.session six)).1.inUse = (st.session six).inUse ∧
        (sendWithTimeout (st.session six)).1.socket = (st.session six).socket ∧
        (sendWithTimeout (st.session six)).1.resendCounter = (st.session six).resendCounter - 1 := by
      rw [sendWithTimeout, if_neg (Int.not_lt.mpr hopen)]
      dsimp only
      split <;> exact ⟨rfl, rfl, rfl⟩
    obtain ⟨huse, hsocket, hless⟩ := hsend
    have hsent := hsix.sent
    apply Tidy.put hothers hzero
    · exact fun _ => hsocket ▸ hopen
    · intro hfree
      rw [huse] at hfree
      exact Bool.noConfusion ((hsix.free hfree).1.symm.trans hruns)
    · show st.sent six + _ + _ ≤ _
      rw [hless]
      have hbit : (sendWithTimeout (st.session six)).1.resendTimeout.toNat ≤ 1 := Bool.toNat_le _
      omega
    · rw [huse]
      exact hsix.lt
  · refine Tidy.giveUp ?_ hdone j
    have hself : ((st.popTimeout six).resetHandle six).session six =
        { st.session six with resendTimeout := false } := setSession_session_self _
    constructor
    · intro i
      by_cases hi : i = six
      · subst hi
        constructor
        · rw [hself]
          exact hzero
        · rw [hself]
          exact fun hc => Bool.noConfusion hc
        · rw [hself]
          exact fun hfree => ⟨rfl, (hsix.free hfree).2⟩
        · rw [hself]
          exact hsix.sent
        · rw [hself]
          exact hsix.lt
      · apply (hothers i hi).congr
        · rfl
        · rfl
        · rw [show ((st.popTimeout six).resetHandle six).session i = st.session i from
            setSession_session_ne hi _]
          exact SameTimer.refl _
    · rw [hself]

theorem ccontrolSession_sendLen (ar : ℕ) (ipAddr : BitVec 32) (socket : ℤ) (objectUuid : Uuid)
    (blocks : List Byte) (s : Session) :
    0 < (ccontrolSession ar ipAddr socket objectUuid blocks s).outBufSendLen := by
  show 0 < if 100 + blocks.length < PF_MAX_UDP_PAYLOAD_SIZE then 100 + blocks.length
    else PF_MAX_UDP_PAYLOAD_SIZE
  split
  · omega
  · decide

theorem Tidy.rmCcontrolReq (h : ∀ j, Tidy st j) (ar : ℕ) (req : CcontrolReq) (j : ℕ) :
    Tidy (st.rmCcontrolReq ar req out) j := by
  unfold Resender.rmCcontrolReq
  split
  · exact h j
  · next six hfree =>
    dsimp only
    rw [sessionAllocate_self]
    have halloc := Tidy.allocate h hfree (s := ccontrolSession ar
      (((st.net.ars ar).sess.map fun own => (st.session own).ipAddr).getD 0) req.socket
      req.objectUuid req.blocks { clearedSession with
        inUse := true, activityUuid := req.activityUuid, dcontrolSequenceNmb := UINT32_MAX })
      rfl rfl rfl
    apply Tidy.begin
    · intro i
      exact (halloc i).congr rfl rfl (SameTimer.refl _)
    · show ((st.setSession six _).session six).resendTimeout = false
      rw [setSession_session_self]
      rfl
    · show Silent ((st.setSession six _).session six) _ ∨
        PutOut _ ((st.setSession six _).session six) _
      rw [setSession_session_self]
      rcases firstSend_cases (ccontrolSession_sendLen ar (((st.net.ars ar).sess.map fun own =>
        (st.session own).ipAddr).getD 0) req.socket req.objectUuid req.blocks { clearedSession with
          inUse := true, activityUuid := req.activityUuid, dcontrolSequenceNmb := UINT32_MAX }) with
        ⟨_, hsilent⟩ | hput
      · exact .inl hsilent
      · exact .inr hput

theorem Tidy.step {st' : Resender} {e : Event} (h : ∀ j, Tidy st j)
    (hstep : st.step e = some st') (j : ℕ) : Tidy st' j := by
  cases e with
  | ccontrolReq ar req out =>
    cases hstep
    split
    · exact Tidy.rmCcontrolReq h ar req j
    · exact h j
  | expire six out => exact Tidy.expire h hstep j
  | packet p activityUuid hd out => exact Tidy.dcePacket h hstep j
  | call c =>
    cases hstep
    exact Tidy.calls h [c] j

theorem powerOn_tidy (rpcreqSocket : ℤ) (j : ℕ) : Tidy (powerOn rpcreqSocket) j := by
  constructor
  · rfl
  · exact fun hc => Bool.noConfusion hc
  · exact fun _ => ⟨rfl, (by decide : (-1 : ℤ) < 0)⟩
  · exact Nat.zero_le _
  · exact fun hc => Bool.noConfusion hc

/-- In any run, whatever is lost or fails. -/
theorem resends_bounded {rpcreqSocket : ℤ} {es : List Event}
    (hrun : Runs.run step (powerOn rpcreqSocket) es = some st) (six : ℕ) :
    st.timeouts six ≤ 1 ∧ st.sent six ≤ PF_CMRPC_NUMBER_OF_RESENDS := by
  have htidy : ∀ j, Tidy st j :=
    Runs.invariant_of_step (I := fun st => ∀ j, Tidy st j) (fun _ _ _ h hstep => Tidy.step h hstep)
      (powerOn_tidy rpcreqSocket) hrun
  have hsent := (htidy six).sent
  constructor
  · rw [(htidy six).timeouts]
    exact Bool.toNat_le _
  · omega

end Resender

end PNet.Rpc
