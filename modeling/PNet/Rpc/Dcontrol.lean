import PNet.Rpc.Ar
import PNet.Rpc.Request
import PNet.Rpc.Send

/-! # DControl

A DControl request on a session, from the packet to the answer and to the PRMEND event that
follows it. A request with the sequence number of the previous one is a re-run.

* `Net.Served` - what a request should do, told by the previous one
* `served_iff` - when one request does that
* `allServed_iff` - a session, from its allocation on
-/

namespace PNet.Rpc

open Block

/-! ## Requests -/

/-- `pnet_control_command_t`, of what the device hands on. -/
inductive ControlCommand where
  | PNET_CONTROL_COMMAND_PRM_BEGIN
  | PNET_CONTROL_COMMAND_PRM_END
deriving DecidableEq, Repr

def PF_CONTROL_COMMAND_BIT_PRM_END : ℕ := 0
def PF_CONTROL_COMMAND_BIT_DONE : ℕ := 3
def PF_CONTROL_COMMAND_BIT_PRM_BEGIN : ℕ := 6

/-- `BIT`, in a control command. -/
def commandBit (n : ℕ) : BitVec 16 := 1#16 <<< n

def controlError (stat : PnetResult) (code1 code2 : Byte) : PnetResult :=
  setError stat PNET_ERROR_CODE_CONTROL PNET_ERROR_DECODE_PNIO code1 code2

/-- The loop of `pf_cmrpc_rm_dcontrol_interpret_req`. -/
def controlBlocks : ℕ → Reader → Bool → PnetResult → ControlBlock →
    Bool × PnetResult × ControlBlock × Reader
  | 0, r, ok, stat, c => (ok, stat, c, r)
  | fuel + 1, r, ok, stat, c =>
    if r.pos + blockHeaderSize ≤ r.info.len ∧ r.info.result = .PF_PARSE_OK then
      let (header, r) := getBlockHeader r
      if blockFits header r then
        if header.blockType = PF_BT_PRMBEGIN_REQ ∨ header.blockType = PF_BT_PRMEND_REQ then
          let (c, r) := getControl c r
          controlBlocks fuel r ok stat c
        else
          controlBlocks fuel r false (controlError stat PNET_ERROR_CODE_1_CMRPC
            PNET_ERROR_CODE_2_CMRPC_UNKNOWN_BLOCKS) c
      else controlBlocks fuel r ok stat c
    else (ok, stat, c, r)

/-- `pf_cmrpc_rm_dcontrol_interpret_req`. Each turn of the loop takes a block header, so
that the length of the input bounds the number of turns. -/
def interpretControl (argsLength : BitVec 32) (r : Reader) (stat : PnetResult) :
    Bool × PnetResult × ControlBlock × Reader :=
  let (ok, stat, c, r') := controlBlocks r.info.len r true stat clearedControl
  let wrongLength := controlError stat PNET_ERROR_CODE_1_CMRPC
    PNET_ERROR_CODE_2_CMRPC_ARGSLENGTH_INVALID
  if ok = false then (false, stat, c, r')
  else if r'.info.result ≠ .PF_PARSE_OK then (false, wrongLength, c, r')
  else if r'.pos ≠ r'.info.len then (false, wrongLength, c, r')
  else if BitVec.ofNat 32 (r'.pos - r.pos) ≠ argsLength then (false, wrongLength, c, r')
  else if c.controlCommand ≠ commandBit PF_CONTROL_COMMAND_BIT_PRM_END then
    (false, controlError stat PNET_ERROR_CODE_1_DCTRL_FAULTY_CONNECT
      PNET_ERROR_CODE_2_DCTRL_FAULTY_CONNECT_CONTROLCOMMAND, c, r')
  else (true, stat, c, r')

/-- A request that has been interpreted. -/
structure Request where
  wellFormed : Bool
  sequenceNmb : BitVec 32
  block : ControlBlock
deriving DecidableEq, Repr

/-- What the application and the ports answer during a request. -/
structure ControlEnv where
  /-- The callback of the application, of the AREP. -/
  dcontrolCb : Option (BitVec 16 → ControlCommand → PnetResult → ℤ × PnetResult)
  /-- `pf_pdport_is_a_fast_port_in_use`. -/
  fastPortInUse : Bool

/-- `pf_fspm_cm_dcontrol_ind`. -/
def ControlEnv.fspmCmDcontrolInd (env : ControlEnv) (arep : BitVec 16) (command : ControlCommand)
    (result : PnetResult) : ℤ × PnetResult :=
  match env.dcontrolCb with
  | none => (0, result)
  | some cb => cb arep command result

namespace Net

def setResult (net : Net) (six : ℕ) (result : PnetResult) : Net :=
  net.setSession six { net.sessions six with rpcResult := result }

/-- `pf_cmdev_rm_dcontrol_ind`, with `*p_set_state_prmend`. After an abort the answer is 0. -/
def cmdevRmDcontrolInd (net : Net) (env : ControlEnv) (six ar : ℕ) (c : ControlBlock) :
    ℤ × Bool × Net :=
  let x := net.ars ar
  if x.deviceAccess then (0, false, net.abort ar)
  else if x.cmdevState = .PF_CMDEV_STATE_W_PEIND then
    if c.controlCommand = commandBit PF_CONTROL_COMMAND_BIT_PRM_END then
      let net := net.setAr ar { x with cmdevState := .PF_CMDEV_STATE_W_PERES }
      let (ret, result) := env.fspmCmDcontrolInd x.arep .PNET_CONTROL_COMMAND_PRM_END
        (net.sessions six).rpcResult
      let net := net.setResult six result
      if ret = 0 then
        let y := { x with cmdevState := .PF_CMDEV_STATE_W_ARDY }
        if env.fastPortInUse then (0, true, net.setAr ar y)
        else
          (0, false, (net.setAr ar { y with
            errCls := PNET_ERROR_CODE_1_RTA_ERR_CLS_PROTOCOL
            errCode := PNET_ERROR_CODE_2_ABORT_PDEV_CHECK_FAILED }).abort ar)
      else (0, false, net.abort ar)
    else (0, false, net.abort ar)
  else (0, false, net)

/-- `pf_cmpbe_rm_dcontrol_ind`. -/
def cmpbeRmDcontrolInd (net : Net) (env : ControlEnv) (six ar : ℕ) (c : ControlBlock) : ℤ × Net :=
  let x := net.ars ar
  match x.cmpbeState with
  | .PF_CMPBE_STATE_IDLE => (0, net)
  | .PF_CMPBE_STATE_WFRSP => (-1, net)
  | .PF_CMPBE_STATE_WFIND =>
    let (ret, result) := env.fspmCmDcontrolInd x.arep .PNET_CONTROL_COMMAND_PRM_BEGIN
      (net.sessions six).rpcResult
    if x.cmpbeStoredCommand ≠ 0 then
      let x := { x with cmpbeStoredCommand := 0 }
      if ret = 0 then
        (0, (net.setResult six result).setAr ar { x with cmpbeState := .PF_CMPBE_STATE_WFPEI })
      else (-1, (net.setResult six result).setAr ar x)
    else if c.controlCommand = commandBit PF_CONTROL_COMMAND_BIT_PRM_BEGIN then
      (ret, (net.setResult six result).setAr ar { x with
        alarmEnable := false, cmpbeState := .PF_CMPBE_STATE_WFRSP })
    else (-1, net)
  | .PF_CMPBE_STATE_WFPEI =>
    if c.controlCommand = commandBit PF_CONTROL_COMMAND_BIT_PRM_END then
      let (_, result) := env.fspmCmDcontrolInd x.arep .PNET_CONTROL_COMMAND_PRM_END
        (net.sessions six).rpcResult
      (0, (net.setResult six result).setAr ar { x with cmpbeState := .PF_CMPBE_STATE_WFREQ })
    else (-1, net)
  | .PF_CMPBE_STATE_WFPER =>
    if c.controlCommand = commandBit PF_CONTROL_COMMAND_BIT_PRM_END then
      (0, net.setAr ar { x with cmpbeState := .PF_CMPBE_STATE_WFREQ })
    else (-1, net)
  | .PF_CMPBE_STATE_WFREQ =>
    if c.controlCommand = commandBit PF_CONTROL_COMMAND_BIT_PRM_BEGIN then
      let net := net.abort ar
      (-1, net.setAr ar { net.ars ar with cmpbeState := .PF_CMPBE_STATE_IDLE })
    else (-1, net)
  | .PF_CMPBE_STATE_WFCNF =>
    if c.controlCommand = commandBit PF_CONTROL_COMMAND_BIT_PRM_BEGIN then
      (-1, net.setAr ar { x with cmpbeStoredCommand := c.controlCommand })
    else (-1, net)

/-- The execution of a command on an AR. -/
def execute (net : Net) (env : ControlEnv) (six ar : ℕ) (c : ControlBlock) : Bool × Net :=
  let (ret, setStatePrmend, net) := net.cmdevRmDcontrolInd env six ar c
  if ret = 0 then (setStatePrmend, (net.cmpbeRmDcontrolInd env six ar c).2)
  else (setStatePrmend, net)

/-- Stores the result, should the request be re-run. -/
def storeControl (net : Net) (six : ℕ) (sequenceNmb : BitVec 32) : Net :=
  let s := net.sessions six
  net.setSession six { s with
    dcontrolResult := s.rpcResult, dcontrolSequenceNmb := sequenceNmb }

/-- The session whose AR is not known. -/
def unknownAr (net : Net) (six : ℕ) : Net :=
  let s := net.sessions six
  net.setSession six { s with
    rpcResult := controlError s.rpcResult PNET_ERROR_CODE_1_CMRPC
      PNET_ERROR_CODE_2_CMRPC_AR_UUID_UNKNOWN
    killSession := true }

/-- `pf_cmrpc_rm_dcontrol_ind`: the AR on which the command has been executed, and
`*p_set_state_prmend`. -/
def rmDcontrolInd (net : Net) (env : ControlEnv) (six : ℕ) (req : Request) :
    Option ℕ × Bool × Net :=
  let s := net.sessions six
  if req.wellFormed = false then (none, false, net)
  else if s.dcontrolSequenceNmb ≠ req.sequenceNmb then
    match net.arFindByUuid req.block.arUuid with
    | some ar =>
      let (setStatePrmend, net) := net.execute env six ar req.block
      (some ar, setStatePrmend, net.storeControl six req.sequenceNmb)
    | none => (none, false, (net.unknownAr six).storeControl six req.sequenceNmb)
  -- the previous answer is sent again
  else (none, false, net.setResult six s.dcontrolResult)

/-- `pf_cmrpc_dce_packet` up to the request: the packet is filed in its session and, if it ends
a message, interpreted as a DControl request. -/
def receiveControl (net : Net) (six : ℕ) (p : Packet) : Option Request × Net :=
  let (rpcReq, _) := received p.toDatagram
  let (s, reqPos) := receivePacket p (net.sessions six)
  if rpcReq.flags.fragment = false ∨ rpcReq.flags.lastFragment = true then
    let (ndrData, r) := getNdrData ⟨s.getInfo, reqPos⟩
    -- from now on all is big-endian
    let r := { r with info := { r.info with isBigEndian := true } }
    let (ok, stat, c, r) := interpretControl ndrData.argsLength r s.rpcResult
    (some ⟨ok, rpcReq.sequenceNmb, c⟩, net.setSession six { clearResponse s with
      ndrData, getInfo := r.info, rpcResult := stat })
  else (none, net.setSession six s)

/-- `pf_cmdev_state_ind` of `PNET_EVENT_PRMEND`, as far as `pf_cmwrr_cmdev_state_ind`. -/
def prmend (net : Net) (ar : ℕ) : Net :=
  if (net.ars ar).cmwrrState = .PF_CMWRR_STATE_STARTUP then
    net.setAr ar { net.ars ar with cmwrrState := .PF_CMWRR_STATE_PRMEND }
  else net

end Net

/-- What a request has led to. -/
structure ControlOutcome where
  /-- The AR on which the command has been executed. -/
  executed : Option ℕ
  answer : PnetResult
  /-- The AR to which the event has been sent. -/
  prmendTo : Option ℕ
deriving DecidableEq, Repr

namespace Net

/-- `pf_cmrpc_dce_packet` from the request on. -/
def answerControl (net : Net) (env : ControlEnv) (six : ℕ) (req : Request) :
    ControlOutcome × Net :=
  let (executed, setStatePrmend, net) := net.rmDcontrolInd env six req
  let s := net.sessions six
  let prmendTo := if setStatePrmend then s.ar else none
  let net := match prmendTo with
    | none => net
    | some ar => net.prmend ar
  (⟨executed, s.rpcResult, prmendTo⟩, if s.killSession then net.sessionRelease six else net)

end Net

/-! ## What a request should do -/

/-- The well-formed request before, with its answer. -/
structure Previous where
  sequenceNmb : BitVec 32
  answer : PnetResult
deriving DecidableEq, Repr

def isRerun (previous : Option Previous) (n : BitVec 32) : Bool :=
  previous.any fun before => before.sequenceNmb = n

def UINT32_MAX : BitVec 32 := 0xFFFFFFFF

namespace Net

/-- The command ends the parameterisation of an AR that waits for it, to the satisfaction of
the application. -/
def promised (net : Net) (env : ControlEnv) (six ar : ℕ) (c : ControlBlock) : Bool :=
  let x := net.ars ar
  x.deviceAccess = false ∧ x.cmdevState = .PF_CMDEV_STATE_W_PEIND ∧
    c.controlCommand = commandBit PF_CONTROL_COMMAND_BIT_PRM_END ∧
    (env.fspmCmDcontrolInd x.arep .PNET_CONTROL_COMMAND_PRM_END
      (net.sessions six).rpcResult).1 = 0 ∧
    env.fastPortInUse

/-- A new command is executed on the AR that its control block names, which also gets the PRMEND
event; a command that has been seen is answered as before. -/
@[reducible] def Served (net : Net) (env : ControlEnv) (six : ℕ) (previous : Option Previous)
    (req : Request) : Prop :=
  let out := (net.answerControl env six req).1
  if req.wellFormed = false then out.executed = none ∧ out.prmendTo = none
  else if isRerun previous req.sequenceNmb then
    out.executed = none ∧ out.prmendTo = none ∧ previous.map (·.answer) = some out.answer
  else
    out.executed = net.arFindByUuid req.block.arUuid ∧
      out.prmendTo = out.executed.filter fun ar => net.promised env six ar req.block

/-- The first command has another number than `UINT32_MAX`, and what ends the parameterisation
of an AR comes on the session of the AR. -/
def Careful (net : Net) (env : ControlEnv) (six : ℕ) (previous : Option Previous)
    (req : Request) : Prop :=
  req.wellFormed = true → isRerun previous req.sequenceNmb = false →
    ∀ ar, net.arFindByUuid req.block.arUuid = some ar →
      (previous = none → req.sequenceNmb ≠ UINT32_MAX) ∧
      (net.promised env six ar req.block = true → (net.sessions six).ar = some ar)

/-- `pf_session_allocate`. -/
def sessionAllocate (net : Net) (six : ℕ) (activityUuid : Uuid) : Net :=
  net.setSession six { clearedSession with
    inUse := true, activityUuid, dcontrolSequenceNmb := UINT32_MAX }

end Net

/-- What happens to a session: a packet with a DControl request, or anything else. -/
inductive ControlStep where
  | packet (env : ControlEnv) (p : Packet)
  | other (net : Net)

namespace Net

/-- Nothing but the DControl requests touches the stored result of a session in use. -/
def keepStored (net net' : Net) (six : ℕ) : Net :=
  let s := net.sessions six
  net'.setSession six { net'.sessions six with
    dcontrolSequenceNmb := s.dcontrolSequenceNmb, dcontrolResult := s.dcontrolResult }

/-- The well-formed request that the next one is compared with. -/
def remember (net : Net) (env : ControlEnv) (six : ℕ) (previous : Option Previous)
    (req : Request) : Option Previous :=
  if req.wellFormed = false ∨ isRerun previous req.sequenceNmb then previous
  else some ⟨req.sequenceNmb, (net.answerControl env six req).1.answer⟩

/-- `Q` of every request, while the session lasts. -/
def AllRequests
    (Q : Net → ControlEnv → ℕ → Option Previous → Request → Prop) (six : ℕ) :
    List ControlStep → Option Previous → Net → Prop
  | [], _, _ => True
  | .other net' :: steps, previous, net =>
    (net.sessions six).inUse = true →
      AllRequests Q six steps previous (net.keepStored net' six)
  | .packet env p :: steps, previous, net =>
    (net.sessions six).inUse = true →
      match net.receiveControl six p with
      | (none, net) => AllRequests Q six steps previous net
      | (some req, net) =>
        Q net env six previous req ∧
          AllRequests Q six steps (net.remember env six previous req)
            (net.answerControl env six req).2

/-! ## One request -/

variable {net : Net} {env : ControlEnv} {six ar : ℕ} {previous : Option Previous}

/-- The stored number and result are those of the request before. -/
def Stores (net : Net) (six : ℕ) (previous : Option Previous) : Prop :=
  (net.sessions six).dcontrolSequenceNmb = previous.elim UINT32_MAX (·.sequenceNmb) ∧
    (net.sessions six).dcontrolResult = previous.elim noError (·.answer)

theorem cmpbeRmDcontrolInd_ar {c : ControlBlock}
    (hcmd : c.controlCommand = commandBit PF_CONTROL_COMMAND_BIT_PRM_END) :
    ((net.cmpbeRmDcontrolInd env six ar c).2.sessions six).ar = (net.sessions six).ar := by
  have hbegin : c.controlCommand ≠ commandBit PF_CONTROL_COMMAND_BIT_PRM_BEGIN := by
    rw [hcmd]
    decide
  unfold cmpbeRmDcontrolInd
  dsimp only
  split
  -- the states without a session in play
  · rfl
  · rfl
  · split
    · split
      · simp [setResult]
      · simp [setResult]
    · rfl
  · rw [if_pos hcmd]
    simp [setResult]
  · rw [if_pos hcmd]
    rfl
  -- only PRM_BEGIN aborts the AR, or is stored
  · rw [if_neg hbegin]
  · rw [if_neg hbegin]

theorem promised_iff (c : ControlBlock) :
    net.promised env six ar c = true ↔
      (net.ars ar).deviceAccess = false ∧ (net.ars ar).cmdevState = .PF_CMDEV_STATE_W_PEIND ∧
        c.controlCommand = commandBit PF_CONTROL_COMMAND_BIT_PRM_END ∧
        (env.fspmCmDcontrolInd (net.ars ar).arep .PNET_CONTROL_COMMAND_PRM_END
          (net.sessions six).rpcResult).1 = 0 ∧
        env.fastPortInUse = true := by
  simp [promised]

/-- The flag tells whether the AR is due the PRMEND event. -/
theorem cmdevRmDcontrolInd_flag (c : ControlBlock) :
    (net.cmdevRmDcontrolInd env six ar c).2.1 = net.promised env six ar c := by
  rw [Bool.eq_iff_iff, promised_iff]
  unfold cmdevRmDcontrolInd
  dsimp only
  constructor
  · intro h
    split at h
    · cases h
    · rename_i haccess
      split at h
      · rename_i hstate
        split at h
        · rename_i hcmd
          split at h
          · rename_i hcb
            split at h
            · rename_i hport
              exact ⟨Bool.eq_false_iff.mpr haccess, hstate, hcmd, hcb, hport⟩
            · cases h
          · cases h
        · cases h
      · cases h
  · rintro ⟨haccess, hstate, hcmd, hcb, hport⟩
    rw [if_neg (by rw [haccess]; decide), if_pos hstate, if_pos hcmd, setAr_sessions, if_pos hcb,
      if_pos hport]

/-- The session of an AR that is due the event has stayed. -/
theorem execute_spec (c : ControlBlock) :
    (net.execute env six ar c).1 = net.promised env six ar c ∧
      (net.promised env six ar c = true →
        ((net.execute env six ar c).2.sessions six).ar = (net.sessions six).ar) := by
  constructor
  · rw [← cmdevRmDcontrolInd_flag]
    unfold execute
    dsimp only
    split <;> rfl
  · intro h
    rcases (promised_iff c).mp h with ⟨haccess, hstate, hcmd, hcb, hport⟩
    have hcmdev : (net.cmdevRmDcontrolInd env six ar c).1 = 0 ∧
        ((net.cmdevRmDcontrolInd env six ar c).2.2.sessions six).ar = (net.sessions six).ar := by
      unfold cmdevRmDcontrolInd
      dsimp only
      rw [if_neg (by rw [haccess]; decide), if_pos hstate, if_pos hcmd, setAr_sessions, if_pos hcb,
        if_pos hport]
      simp [setResult]
    unfold execute
    dsimp only
    rw [if_pos hcmdev.1, cmpbeRmDcontrolInd_ar hcmd, hcmdev.2]

theorem rmDcontrolInd_malformed {req : Request} (h : req.wellFormed = false) :
    net.rmDcontrolInd env six req = (none, false, net) := if_pos h

theorem rmDcontrolInd_rerun {req : Request} (h : req.wellFormed = true)
    (hseq : (net.sessions six).dcontrolSequenceNmb = req.sequenceNmb) :
    net.rmDcontrolInd env six req =
      (none, false, net.setResult six (net.sessions six).dcontrolResult) := by
  unfold rmDcontrolInd
  dsimp only
  rw [if_neg (by rw [h]; decide), if_neg (not_not_intro hseq)]

/-- A command that is new to the session is looked up, executed and stored. -/
theorem rmDcontrolInd_fresh {req : Request} (h : req.wellFormed = true)
    (hseq : (net.sessions six).dcontrolSequenceNmb ≠ req.sequenceNmb) :
    ∃ net' : Net,
      net.rmDcontrolInd env six req =
        (net.arFindByUuid req.block.arUuid,
          (net.arFindByUuid req.block.arUuid).any fun ar => net.promised env six ar req.block,
          net'.storeControl six req.sequenceNmb) ∧
      ∀ ar, net.arFindByUuid req.block.arUuid = some ar →
        net.promised env six ar req.block = true →
          (net'.sessions six).ar = (net.sessions six).ar := by
  unfold rmDcontrolInd
  dsimp only
  rw [if_neg (by rw [h]; decide), if_pos hseq]
  cases hfind : net.arFindByUuid req.block.arUuid with
  | none => exact ⟨net.unknownAr six, rfl, by simp⟩
  | some ar =>
    have hspec := @execute_spec net env six ar req.block
    refine ⟨(net.execute env six ar req.block).2, ?_, ?_⟩
    · simp only [Option.any_some, ← hspec.1]
    · intro i hi hdue
      cases hi
      exact hspec.2 hdue

theorem prmend_sessions (ar : ℕ) : (net.prmend ar).sessions = net.sessions := by
  unfold prmend
  split <;> rfl

theorem sessionRelease_inUse (six : ℕ) :
    ((net.sessionRelease six).sessions six).inUse = false := by
  unfold sessionRelease
  split
  · simp [clearedSession]
  · rename_i h
    exact Bool.eq_false_iff.mpr h

/-- A session that is still in use after the answer is as the handler has left it. -/
theorem answerControl_session (req : Request)
    (huse : ((net.answerControl env six req).2.sessions six).inUse = true) :
    (net.answerControl env six req).2.sessions six =
      (net.rmDcontrolInd env six req).2.2.sessions six := by
  unfold answerControl at huse ⊢
  generalize net.rmDcontrolInd env six req = x at huse ⊢
  rcases x with ⟨executed, flag, net⟩
  dsimp only at huse ⊢
  split at huse
  · rw [sessionRelease_inUse] at huse
    cases huse
  · rename_i hkill
    rw [if_neg hkill]
    split
    · rfl
    · rw [prmend_sessions]

theorem answerControl_outcome (req : Request) :
    (net.answerControl env six req).1 =
      ⟨(net.rmDcontrolInd env six req).1,
        ((net.rmDcontrolInd env six req).2.2.sessions six).rpcResult,
        if (net.rmDcontrolInd env six req).2.1 then
          ((net.rmDcontrolInd env six req).2.2.sessions six).ar
        else none⟩ := rfl

/-- A re-run has the stored number, and so has `UINT32_MAX` on a new session. -/
theorem isRerun_cases (h : net.Stores six previous) (n : BitVec 32) :
    isRerun previous n = true ∧ (net.sessions six).dcontrolSequenceNmb = n ∧
        previous.map (·.answer) = some (net.sessions six).dcontrolResult ∨
      isRerun previous n = false ∧ (net.sessions six).dcontrolSequenceNmb = n ∧
        previous = none ∧ n = UINT32_MAX ∨
      isRerun previous n = false ∧ (net.sessions six).dcontrolSequenceNmb ≠ n ∧
        (previous = none → n ≠ UINT32_MAX) := by
  rcases h with ⟨hseq, hres⟩
  cases previous with
  | none =>
    right
    rw [hseq]
    by_cases hn : n = UINT32_MAX
    · exact .inl ⟨rfl, hn.symm, rfl, hn⟩
    · exact .inr ⟨rfl, Ne.symm hn, fun _ => hn⟩
  | some before =>
    rw [hseq, hres]
    by_cases hn : before.sequenceNmb = n
    · left
      exact ⟨by simp [isRerun, hn], hn, rfl⟩
    · right
      right
      exact ⟨by simp [isRerun, hn], hn, fun hnone => by cases hnone⟩

/-- What a request leaves on its session. -/
theorem answerControl_stores (h : net.Stores six previous) (req : Request)
    (huse : ((net.answerControl env six req).2.sessions six).inUse = true) :
    (net.answerControl env six req).2.Stores six (net.remember env six previous req) := by
  unfold Stores
  rw [answerControl_session req huse]
  by_cases hwell : req.wellFormed = false
  · rw [rmDcontrolInd_malformed hwell, remember, if_pos (.inl hwell)]
    exact h
  rw [Bool.not_eq_false] at hwell
  rcases isRerun_cases h req.sequenceNmb with ⟨hre, hseq, -⟩ | ⟨hre, hseq, rfl, hn⟩ | ⟨hre, hseq, -⟩
  · rw [rmDcontrolInd_rerun hwell hseq, remember, if_pos (.inr hre)]
    rw [setResult, setSession_self]
    exact h
  · -- the answer is the result of the new session
    rw [remember, if_neg (by simp [hwell, hre]), answerControl_outcome,
      rmDcontrolInd_rerun hwell hseq, setResult, setSession_self]
    exact ⟨hseq, rfl⟩
  · rcases rmDcontrolInd_fresh hwell hseq with ⟨net', heq, -⟩
    rw [remember, if_neg (by simp [hwell, hre]), answerControl_outcome, heq, storeControl,
      setSession_self]
    exact ⟨rfl, rfl⟩

/-- One request is served when it is careful. -/
theorem served_iff (h : net.Stores six previous) (req : Request) :
    net.Served env six previous req ↔ net.Careful env six previous req := by
  unfold Served Careful
  dsimp only
  rw [answerControl_outcome]
  by_cases hwell : req.wellFormed = false
  · rw [if_pos hwell, rmDcontrolInd_malformed hwell]
    simp [hwell]
  rw [if_neg hwell]
  rw [Bool.not_eq_false] at hwell
  rcases isRerun_cases h req.sequenceNmb with
    ⟨hre, hseq, hans⟩ | ⟨hre, hseq, rfl, hn⟩ | ⟨hre, hseq, hn⟩
  · rw [if_pos hre, rmDcontrolInd_rerun hwell hseq, setResult, setSession_self]
    simp [hre, hans]
  · -- the command is taken for a re-run
    rw [if_neg (by simp [hre]), rmDcontrolInd_rerun hwell hseq]
    cases hfind : net.arFindByUuid req.block.arUuid with
    | none => simp
    | some ar => simp [hwell, hn, isRerun]
  · rcases rmDcontrolInd_fresh hwell hseq with ⟨net', heq, har⟩
    rw [if_neg (by simp [hre]), heq, storeControl, setSession_self]
    cases hfind : net.arFindByUuid req.block.arUuid with
    | none => simp
    | some ar =>
      cases hdue : net.promised env six ar req.block with
      | false =>
        constructor
        · intro _ _ _ i hi
          cases hi
          exact ⟨hn, fun h => absurd h (by simp [hdue])⟩
        · intro _
          rw [Option.any_some, hdue, Option.filter_some, hdue]
          exact ⟨rfl, rfl⟩
      | true =>
        rw [Option.any_some, hdue, if_pos rfl, har ar hfind hdue, Option.filter_some, if_pos hdue]
        constructor
        · rintro ⟨-, hown⟩ _ _ i hi
          cases hi
          exact ⟨hn, fun _ => hown⟩
        · intro hcareful
          exact ⟨rfl, (hcareful hwell hre ar rfl).2 hdue⟩

/-! ## The requests of a session -/

theorem receivePacket_stored (p : Packet) (s : Session) :
    (receivePacket p s).1.dcontrolSequenceNmb = s.dcontrolSequenceNmb ∧
      (receivePacket p s).1.dcontrolResult = s.dcontrolResult := by
  unfold receivePacket
  dsimp only
  split
  · exact ⟨rfl, rfl⟩
  · unfold addFragment
    split <;> dsimp only <;> repeat' split
    all_goals first | exact ⟨rfl, rfl⟩ | (unfold checkEndian; split <;> exact ⟨rfl, rfl⟩)

theorem receiveControl_stores (h : net.Stores six previous) (p : Packet) :
    (net.receiveControl six p).2.Stores six previous := by
  rcases receivePacket_stored p (net.sessions six) with ⟨hseq, hres⟩
  unfold receiveControl
  dsimp only
  split
  · generalize getNdrData _ = x
    rcases x with ⟨ndrData, r⟩
    dsimp only
    unfold Stores
    rw [setSession_self]
    exact ⟨hseq.trans h.1, hres.trans h.2⟩
  · unfold Stores
    rw [setSession_self, hseq, hres]
    exact h

/-- Nothing is asked of a session that has been released. -/
theorem allRequests_of_released (Q : Net → ControlEnv → ℕ → Option Previous → Request → Prop)
    (steps : List ControlStep) (h : (net.sessions six).inUse = false) :
    AllRequests Q six steps previous net := by
  have hclosed : ¬ (net.sessions six).inUse = true := by
    rw [h]
    decide
  cases steps with
  | nil => trivial
  | cons step steps =>
    cases step with
    | other net' => exact fun huse => absurd huse hclosed
    | packet env p => exact fun huse => absurd huse hclosed

/-- Two readings of a request that agree wherever the stored result is right, agree on the
requests of a session. -/
theorem allRequests_congr {Q R : Net → ControlEnv → ℕ → Option Previous → Request → Prop}
    (hstep : ∀ (net : Net) (env : ControlEnv) (previous : Option Previous) (req : Request),
      net.Stores six previous → (Q net env six previous req ↔ R net env six previous req))
    (steps : List ControlStep) (h : net.Stores six previous) :
    AllRequests Q six steps previous net ↔ AllRequests R six steps previous net := by
  induction steps generalizing previous net with
  | nil => rfl
  | cons step steps ih =>
    cases step with
    | other net' =>
      apply imp_congr_right
      intro _
      apply ih
      unfold Stores keepStored
      dsimp only
      rw [setSession_self]
      exact h
    | packet env p =>
      apply imp_congr_right
      intro _
      have hrecv := receiveControl_stores h p
      generalize net.receiveControl six p = x at hrecv ⊢
      rcases x with ⟨_ | req, net⟩
      · exact ih hrecv
      · apply and_congr
        · exact hstep net env previous req hrecv
        · cases huse : ((net.answerControl env six req).2.sessions six).inUse with
          | false =>
            exact iff_of_true (allRequests_of_released Q steps huse)
              (allRequests_of_released R steps huse)
          | true => exact ih (answerControl_stores hrecv req huse)

/-- From its allocation on a session serves its requests, when each of them is careful. -/
theorem allServed_iff (net : Net) (six : ℕ) (activityUuid : Uuid) (steps : List ControlStep) :
    AllRequests Served six steps none (net.sessionAllocate six activityUuid) ↔
      AllRequests Careful six steps none (net.sessionAllocate six activityUuid) := by
  apply allRequests_congr
  · intro net env previous req h
    exact served_iff h req
  · unfold Stores sessionAllocate
    rw [setSession_self]
    exact ⟨rfl, rfl⟩

theorem AllRequests.head {Q : Net → ControlEnv → ℕ → Option Previous → Request → Prop}
    {p : Packet} {steps : List ControlStep} {req : Request}
    (h : AllRequests Q six (.packet env p :: steps) previous net)
    (huse : (net.sessions six).inUse = true) (hreq : (net.receiveControl six p).1 = some req) :
    Q (net.receiveControl six p).2 env six previous req := by
  replace h := h huse
  generalize net.receiveControl six p = x at h hreq ⊢
  rcases x with ⟨_ | req', net⟩
  · cases hreq
  · cases hreq
    exact h.1

end Net

/-! ## An example -/

def sampleArUuid : Uuid := ⟨1, 2, 3, #v[4, 5, 6, 7, 8, 9, 10, 11]⟩

/-- An AR that waits for the end of its parameterisation, and the session that has connected. -/
def sampleConnected : Net where
  sessions := Function.update (fun _ => clearedSession) 0
    { clearedSession with inUse := true, socket := 3, ar := some 0 }
  ars := Function.update (fun _ => clearedAr) 0
    { clearedAr with
      inUse := true, arep := 1, sess := some 0, arUuid := sampleArUuid
      cmdevState := .PF_CMDEV_STATE_W_PEIND }

/-- PRM_END for the AR, with a sequence number. -/
def samplePrmEnd (sequenceNmb : BitVec 32) : Packet where
  toDatagram := datagramOf
    { blankHeader with
      version := 4, isBigEndian := true, interfaceUuid := uuidIoDeviceInterface
      opnum := PF_RPC_DEV_OPNUM_CONTROL, sequenceNmb, lengthOfBody := 52 }
    ([0, 0, 0, 32, 0, 0, 0, 32, 0, 0, 0, 32, 0, 0, 0, 0, 0, 0, 0, 32] ++
      [0x01, 0x10, 0, 28, 1, 0] ++
      [0, 0, 0, 0, 0, 1, 0, 2, 0, 3, 4, 5, 6, 7, 8, 9, 10, 11, 0, 1, 0, 0, 0, 1, 0, 0])
  ipAddr := 0xC0A80001
  port := 34964

def sampleControlEnv : ControlEnv := ⟨none, true⟩

namespace Net

/-- The first command, numbered `UINT32_MAX`, is not executed. -/
theorem not_allServed_first :
    ¬ AllRequests Served 0
      [.other sampleConnected, .packet sampleControlEnv (samplePrmEnd UINT32_MAX)] none
      (sampleConnected.sessionAllocate 0 zeroUuid) := by
  intro h
  have hreq : (((sampleConnected.sessionAllocate 0 zeroUuid).keepStored sampleConnected
      0).receiveControl 0 (samplePrmEnd UINT32_MAX)).1 =
      some ⟨true, UINT32_MAX, ⟨sampleArUuid, 1, 0, 1, 0⟩⟩ := by
    decide +kernel
  have hserved := AllRequests.head (h rfl) rfl hreq
  revert hserved
  decide +kernel

end Net

end PNet.Rpc
