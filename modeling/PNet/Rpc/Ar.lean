import PNet.Rpc.Receive

/-! # The ARs of the RPC server

`cmrpc_ar` and `cmrpc_session_info`. What an abort does to the two tables is here; the other
components only see their own state, which goes with the AR.
-/

namespace PNet.Rpc

open Block

/-! ## Data -/

inductive CmdevState where
  | PF_CMDEV_STATE_POWER_ON
  | PF_CMDEV_STATE_W_CIND
  | PF_CMDEV_STATE_W_CRES
  | PF_CMDEV_STATE_W_SUCNF
  | PF_CMDEV_STATE_W_PEIND
  | PF_CMDEV_STATE_W_PERES
  | PF_CMDEV_STATE_W_ARDY
  | PF_CMDEV_STATE_W_ARDYCNF
  | PF_CMDEV_STATE_WDATA
  | PF_CMDEV_STATE_DATA
  | PF_CMDEV_STATE_ABORT
deriving DecidableEq, Repr

inductive CmpbeState where
  | PF_CMPBE_STATE_IDLE
  | PF_CMPBE_STATE_WFIND
  | PF_CMPBE_STATE_WFRSP
  | PF_CMPBE_STATE_WFPEI
  | PF_CMPBE_STATE_WFPER
  | PF_CMPBE_STATE_WFREQ
  | PF_CMPBE_STATE_WFCNF
deriving DecidableEq, Repr

inductive CmwrrState where
  | PF_CMWRR_STATE_IDLE
  | PF_CMWRR_STATE_STARTUP
  | PF_CMWRR_STATE_PRMEND
  | PF_CMWRR_STATE_DATA
deriving DecidableEq, Repr

inductive CmsmState where
  | PF_CMSM_STATE_IDLE
  | PF_CMSM_STATE_RUN
deriving DecidableEq, Repr

inductive ArState where
  | PF_AR_STATE_PRIMARY
  | PF_AR_STATE_FIRST
  | PF_AR_STATE_BACKUP
deriving DecidableEq, Repr

/-- `pf_ar_t`, as far as requests other than the connect use it. -/
structure Ar where
  inUse : Bool
  arep : BitVec 16
  /-- `p_sess`, the session that has connected. -/
  sess : Option ℕ
  arUuid : Uuid
  /-- `ar_properties.device_access`. -/
  deviceAccess : Bool
  alarmEnable : Bool
  arState : ArState
  cmdevState : CmdevState
  cmpbeState : CmpbeState
  cmpbeStoredCommand : BitVec 16
  cmwrrState : CmwrrState
  cmsmState : CmsmState
  errCls : Byte
  errCode : Byte
deriving DecidableEq, Repr

/-- An AR cleared by `memset`. -/
def clearedAr : Ar where
  inUse := false
  arep := 0
  sess := none
  arUuid := zeroUuid
  deviceAccess := false
  alarmEnable := false
  arState := .PF_AR_STATE_PRIMARY
  cmdevState := .PF_CMDEV_STATE_POWER_ON
  cmpbeState := .PF_CMPBE_STATE_IDLE
  cmpbeStoredCommand := 0
  cmwrrState := .PF_CMWRR_STATE_IDLE
  cmsmState := .PF_CMSM_STATE_IDLE
  errCls := 0
  errCode := 0

structure Net where
  sessions : ℕ → Session
  ars : ℕ → Ar

namespace Net

def setSession (net : Net) (six : ℕ) (s : Session) : Net :=
  { net with sessions := Function.update net.sessions six s }

def setAr (net : Net) (ar : ℕ) (x : Ar) : Net :=
  { net with ars := Function.update net.ars ar x }

/-- `pf_ar_find_by_uuid`. -/
def arFindByUuid (net : Net) (uuid : Uuid) : Option ℕ :=
  (List.range PNET_MAX_AR).find? fun ar =>
    (net.ars ar).inUse ∧ (net.ars ar).cmdevState ≠ .PF_CMDEV_STATE_POWER_ON ∧
      (net.ars ar).arUuid = uuid

/-- `pf_session_release`. -/
def sessionRelease (net : Net) (six : ℕ) : Net :=
  if (net.sessions six).inUse then net.setSession six clearedSession else net

/-- `pf_ar_release`. -/
def arRelease (net : Net) (ar : ℕ) : Net :=
  if (net.ars ar).inUse then net.setAr ar clearedAr else net

/-- The test of `pf_session_locate_by_ar`. -/
def isFromMe (net : Net) (ar six : ℕ) : Bool :=
  (net.sessions six).inUse ∧ (net.sessions six).fromMe ∧ (net.sessions six).ar = some ar

/-- Releases the sessions that the device itself has begun for the AR. -/
def releaseFromMe (net : Net) (ar : ℕ) : Net :=
  (List.range PF_MAX_SESSION).foldl
    (fun net six => if net.isFromMe ar six then net.sessionRelease six else net) net

/-- `pf_cmdev_state_ind` of `PNET_EVENT_ABORT`; the sessions and the AR go in
`pf_cmrpc_cmdev_state_ind`. -/
def abort (net : Net) (ar : ℕ) : Net :=
  let net := match (net.ars ar).sess with
    | none => net
    | some six => if (net.sessions six).releaseInProgress then net else net.sessionRelease six
  (net.releaseFromMe ar).arRelease ar

/-! ## Rules -/

variable {net : Net}

@[simp] theorem setAr_sessions (ar : ℕ) (x : Ar) : (net.setAr ar x).sessions = net.sessions := rfl

@[simp] theorem setSession_self (six : ℕ) (s : Session) : (net.setSession six s).sessions six = s :=
  Function.update_self ..

@[simp] theorem setAr_self (ar : ℕ) (x : Ar) : (net.setAr ar x).ars ar = x :=
  Function.update_self ..

theorem setSession_of_ne {i six : ℕ} (h : i ≠ six) (s : Session) :
    (net.setSession six s).sessions i = net.sessions i :=
  Function.update_of_ne h _ _

theorem sessionRelease_cases (i six : ℕ) :
    (net.sessionRelease six).sessions i = net.sessions i ∨
      (net.sessionRelease six).sessions i = clearedSession := by
  unfold sessionRelease
  split
  · by_cases h : i = six
    · subst h
      exact .inr (setSession_self ..)
    · exact .inl (setSession_of_ne h _)
  · exact .inl rfl

theorem arFindByUuid_some {uuid : Uuid} {ar : ℕ} (h : net.arFindByUuid uuid = some ar) :
    (net.ars ar).inUse = true ∧ (net.ars ar).arUuid = uuid := by
  have htest := List.find?_some h
  simp only [Bool.decide_and, Bool.decide_eq_true, Bool.and_eq_true, decide_eq_true_eq] at htest
  exact ⟨htest.1, htest.2.2⟩

/-- A session survives an abort, or is cleared. -/
theorem abort_session (ar i : ℕ) :
    (net.abort ar).sessions i = net.sessions i ∨ (net.abort ar).sessions i = clearedSession := by
  have hfold : ∀ (l : List ℕ) (net : Net),
      (l.foldl (fun net six => if net.isFromMe ar six then net.sessionRelease six else net)
        net).sessions i = net.sessions i ∨
      (l.foldl (fun net six => if net.isFromMe ar six then net.sessionRelease six else net)
        net).sessions i = clearedSession := by
    intro l
    induction l with
    | nil => exact fun _ => .inl rfl
    | cons six l ih =>
      intro net
      rw [List.foldl_cons]
      rcases ih (if net.isFromMe ar six then net.sessionRelease six else net) with h | h
      · rw [h]
        split
        · exact sessionRelease_cases i six
        · exact .inl rfl
      · exact .inr h
  have har : ∀ net : Net, (net.arRelease ar).sessions = net.sessions := by
    intro net
    unfold arRelease
    split <;> rfl
  unfold abort
  rw [har]
  rcases hfold (List.range PF_MAX_SESSION) (match (net.ars ar).sess with
    | none => net
    | some six => if (net.sessions six).releaseInProgress then net else net.sessionRelease six)
    with h | h
  · rw [releaseFromMe, h]
    split
    · exact .inl rfl
    · split
      · exact .inl rfl
      · exact sessionRelease_cases i _
  · exact .inr h

end Net

end PNet.Rpc
