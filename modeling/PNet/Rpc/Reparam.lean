import PNet.Rpc.Dcontrol

/-! # Parameterisation once more

An AR in DATA may be parameterised again: PRM_BEGIN, PRM_END, a CControl request of the device, and
its confirmation. CMPBE (`pf_cmpbe.c`) has a state for each of them, and one that is only passed
through before PRM_END is awaited.

* `works_iff` - in which runs this works: those in which no PRM_END follows a PRM_BEGIN, and in which
  the application refuses no PRM_BEGIN
-/

namespace PNet.Rpc

open Block

namespace Net

/-! ## The entry points -/

/-- `pf_cmpbe_cm_ccontrol_req`: whether an alarm is pending, and what `pf_cmrpc_rm_ccontrol_req`
answers. Nothing calls it. -/
def cmpbeCmCcontrolReq (net : Net) (ar : ℕ) (pending : Bool) (sent : ℤ) : ℤ × Net :=
  let x := net.ars ar
  if x.cmpbeState = .PF_CMPBE_STATE_WFREQ then
    if pending = false then
      (sent, net.setAr ar { x with cmpbeState := .PF_CMPBE_STATE_WFCNF })
    else (-1, net)
  else (-1, net)

/-- `pf_cmdev_cm_ccontrol_req`, with what it does in W_ARDY. -/
def cmdevCmCcontrolReq (net : Net) (ar : ℕ) (ready : Net → ℤ × Net) : ℤ × Net :=
  if (net.ars ar).deviceAccess then (-1, net.abort ar)
  else if (net.ars ar).cmdevState = .PF_CMDEV_STATE_W_ARDY then ready net
  else (0, net)

/-- `pf_cmdev_rm_ccontrol_cnf`, with what it does in W_ARDYCNF. -/
def cmdevRmCcontrolCnf (net : Net) (ar : ℕ) (confirmed : Net → ℤ × Net) : ℤ × Net :=
  if (net.ars ar).cmdevState = .PF_CMDEV_STATE_W_ARDYCNF then confirmed net else (-1, net)

/-- `pf_cmpbe_rm_ccontrol_cnf`. -/
def cmpbeRmCcontrolCnf (net : Net) (ar : ℕ) (c : ControlBlock) : ℤ × Net :=
  let x := net.ars ar
  if x.cmpbeState = .PF_CMPBE_STATE_WFCNF then
    if c.controlCommand = commandBit PF_CONTROL_COMMAND_BIT_DONE then
      (0, net.setAr ar { x with alarmEnable := true, cmpbeState := .PF_CMPBE_STATE_WFIND })
    else (-1, net)
  else (0, net)

/-- `pf_cmrpc_rm_ccontrol_cnf`, with a confirmation that has been read. -/
def rmCcontrolCnf (net : Net) (ar : ℕ) (confirmed : Net → ℤ × Net) (c : ControlBlock) : ℤ × Net :=
  if c.controlCommand = commandBit PF_CONTROL_COMMAND_BIT_DONE then
    let (ret, net) := net.cmdevRmCcontrolCnf ar confirmed
    if ret = 0 then net.cmpbeRmCcontrolCnf ar c else (-1, net)
  else (-1, net)

end Net

/-- The commands that `pf_cmdev_rm_dcontrol_ind` hands to the application. -/
def cmdevDelivers (x : Ar) (c : ControlBlock) : List ControlCommand :=
  if x.deviceAccess = false ∧ x.cmdevState = .PF_CMDEV_STATE_W_PEIND ∧
      c.controlCommand = commandBit PF_CONTROL_COMMAND_BIT_PRM_END then
    [.PNET_CONTROL_COMMAND_PRM_END]
  else []

/-- The commands that `pf_cmpbe_rm_dcontrol_ind` hands to the application. -/
def cmpbeDelivers (x : Ar) (c : ControlBlock) : List ControlCommand :=
  match x.cmpbeState with
  | .PF_CMPBE_STATE_WFIND =>
    if x.cmpbeStoredCommand ≠ 0 ∨
        c.controlCommand = commandBit PF_CONTROL_COMMAND_BIT_PRM_BEGIN then
      [.PNET_CONTROL_COMMAND_PRM_BEGIN]
    else []
  | .PF_CMPBE_STATE_WFPEI =>
    if c.controlCommand = commandBit PF_CONTROL_COMMAND_BIT_PRM_END then
      [.PNET_CONTROL_COMMAND_PRM_END]
    else []
  | _ => []

/-! ## Runs -/

/-- What happens to an AR in DATA. -/
inductive PrmStep where
  | dcontrol (env : ControlEnv) (six : ℕ) (c : ControlBlock)
  /-- `pnet_application_ready`. -/
  | applicationReady (ready : Net → ℤ × Net)
  | ccontrolReq (pending : Bool) (sent : ℤ)
  | ccontrolCnf (confirmed : Net → ℤ × Net) (c : ControlBlock)
  /-- Anything that leaves the AR alone. -/
  | other (net : Net)

namespace PrmStep

def isBegin : PrmStep → Bool
  | dcontrol _ _ c => c.controlCommand = commandBit PF_CONTROL_COMMAND_BIT_PRM_BEGIN
  | _ => false

def isEnd : PrmStep → Bool
  | dcontrol _ _ c => c.controlCommand = commandBit PF_CONTROL_COMMAND_BIT_PRM_END
  | _ => false

def isCnf : PrmStep → Bool
  | ccontrolCnf _ _ => true
  | _ => false

/-- The application accepts the PRM_BEGIN, should it be asked. -/
def Accepted (net : Net) (ar : ℕ) : PrmStep → Prop
  | dcontrol env six _ => (env.fspmCmDcontrolInd (net.ars ar).arep
      .PNET_CONTROL_COMMAND_PRM_BEGIN (net.sessions six).rpcResult).1 = 0
  | _ => True

end PrmStep

/-- The answer to a step, what the application has been told, and the state behind it. -/
structure Reaction where
  ret : ℤ
  delivered : List ControlCommand
  net : Net

/-- A DControl goes to CMDEV and, after a positive answer, to CMPBE. -/
def Net.react (net : Net) (ar : ℕ) : PrmStep → Reaction
  | .dcontrol env six c =>
    let (ret, _, net') := net.cmdevRmDcontrolInd env six ar c
    if ret = 0 then
      let (ret, net'') := net'.cmpbeRmDcontrolInd env six ar c
      ⟨ret, cmdevDelivers (net.ars ar) c ++ cmpbeDelivers (net'.ars ar) c, net''⟩
    else ⟨-1, cmdevDelivers (net.ars ar) c, net'⟩
  | .applicationReady ready =>
    let (ret, net) := net.cmdevCmCcontrolReq ar ready
    ⟨ret, [], net⟩
  | .ccontrolReq pending sent =>
    let (ret, net) := net.cmpbeCmCcontrolReq ar pending sent
    ⟨ret, [], net⟩
  | .ccontrolCnf confirmed c =>
    let (ret, net) := net.rmCcontrolCnf ar confirmed c
    ⟨ret, [], net⟩
  | .other net' => ⟨0, [], net'.setAr ar (net.ars ar)⟩

/-! ## What should happen -/

/-- How far a parameterisation has come. -/
inductive Phase where
  | idle
  /-- PRM_BEGIN has been answered positively. -/
  | begun
  /-- PRM_END has been accepted. -/
  | ended
deriving DecidableEq, Repr

/-- Alarms and CMPBE are as they were. -/
def SameCmpbe (x y : Ar) : Prop := y.alarmEnable = x.alarmEnable ∧ y.cmpbeState = x.cmpbeState

/-- What the answer to a step should be. -/
def Phase.Good (ar : ℕ) (net : Net) (s : PrmStep) (r : Reaction) : Phase → Prop
  | idle =>
    .PNET_CONTROL_COMMAND_PRM_END ∉ r.delivered ∧
      (s.isBegin → if r.ret = 0 then (r.net.ars ar).alarmEnable = false
        else SameCmpbe (net.ars ar) (r.net.ars ar))
  | begun =>
    (r.net.ars ar).alarmEnable = false ∧
      (if s.isEnd then r.ret = 0 ∧ r.delivered = [.PNET_CONTROL_COMMAND_PRM_END]
        else .PNET_CONTROL_COMMAND_PRM_END ∉ r.delivered) ∧
      (s.isBegin → r.ret ≠ 0 → SameCmpbe (net.ars ar) (r.net.ars ar))
  | ended =>
    .PNET_CONTROL_COMMAND_PRM_END ∉ r.delivered ∧
      (if s.isCnf ∧ r.ret = 0 then (r.net.ars ar).cmpbeState = .PF_CMPBE_STATE_WFIND
        else (r.net.ars ar).alarmEnable = false) ∧
      (s.isBegin → r.ret ≠ 0 → SameCmpbe (net.ars ar) (r.net.ars ar))

/-- The phase behind a step. -/
def Phase.next (s : PrmStep) (r : Reaction) : Phase → Phase
  | idle => if s.isBegin ∧ r.ret = 0 then begun else idle
  | begun => if s.isEnd ∧ r.ret = 0 then ended else begun
  | ended => if s.isCnf ∧ r.ret = 0 then idle else ended

/-- Every step of the run is answered as it should be. -/
def Works (ar : ℕ) : Phase → Net → List PrmStep → Prop
  | _, _, [] => True
  | phase, net, s :: steps =>
    phase.Good ar net s (net.react ar s) ∧
      Works ar (phase.next s (net.react ar s)) (net.react ar s).net steps

/-- The first PRM_BEGIN of the run is accepted by the application, and no PRM_END comes behind it. -/
def Harmless (ar : ℕ) : Net → List PrmStep → Prop
  | _, [] => True
  | net, s :: steps =>
    (s.isBegin → s.Accepted net ar ∧ ∀ s' ∈ steps, s'.isEnd = false) ∧
      (s.isBegin = false → Harmless ar (net.react ar s).net steps)

/-- An AR that has come to DATA. -/
structure AtData (x : Ar) : Prop where
  deviceAccess : x.deviceAccess = false
  cmdevState : x.cmdevState = .PF_CMDEV_STATE_DATA
  cmpbeState : x.cmpbeState = .PF_CMPBE_STATE_WFIND
  cmpbeStoredCommand : x.cmpbeStoredCommand = 0

/-! ## What CMPBE does -/

variable {net : Net} {ar : ℕ}

/-- An AR that has got a PRM_BEGIN in DATA. -/
structure Stuck (x : Ar) : Prop where
  deviceAccess : x.deviceAccess = false
  cmdevState : x.cmdevState = .PF_CMDEV_STATE_DATA
  cmpbeState : x.cmpbeState = .PF_CMPBE_STATE_WFRSP
  alarmEnable : x.alarmEnable = false

/-- In DATA a DControl is only for CMPBE. -/
theorem react_dcontrol (hdevice : (net.ars ar).deviceAccess = false)
    (hdata : (net.ars ar).cmdevState = .PF_CMDEV_STATE_DATA) (env : ControlEnv) (six : ℕ)
    (c : ControlBlock) : net.react ar (.dcontrol env six c) =
      ⟨(net.cmpbeRmDcontrolInd env six ar c).1, cmpbeDelivers (net.ars ar) c,
        (net.cmpbeRmDcontrolInd env six ar c).2⟩ := by
  have hcmdev : net.cmdevRmDcontrolInd env six ar c = (0, false, net) := by
    unfold Net.cmdevRmDcontrolInd
    dsimp only
    rw [hdevice, hdata]
    rfl
  have hnone : cmdevDelivers (net.ars ar) c = [] := by
    unfold cmdevDelivers
    rw [if_neg]
    rintro ⟨-, hstate, -⟩
    rw [hdata] at hstate
    cases hstate
  unfold Net.react
  simp only [hcmdev, hnone]
  rfl

/-- The other steps do nothing to an AR in DATA, but in WFREQ and WFCNF. -/
theorem react_other {s : PrmStep} (hdevice : (net.ars ar).deviceAccess = false)
    (hdata : (net.ars ar).cmdevState = .PF_CMDEV_STATE_DATA)
    (hreq : (net.ars ar).cmpbeState ≠ .PF_CMPBE_STATE_WFREQ)
    (hs : ∀ env six c, s ≠ .dcontrol env six c) :
    (net.react ar s).delivered = [] ∧ (net.react ar s).net.ars ar = net.ars ar := by
  cases s with
  | dcontrol env six c => exact absurd rfl (hs env six c)
  | applicationReady ready =>
    unfold Net.react Net.cmdevCmCcontrolReq
    rw [hdevice, hdata]
    exact ⟨rfl, rfl⟩
  | ccontrolReq pending sent =>
    unfold Net.react Net.cmpbeCmCcontrolReq
    simp only [if_neg hreq]
    exact ⟨trivial, trivial⟩
  | ccontrolCnf confirmed c =>
    have hcnf : net.rmCcontrolCnf ar confirmed c = (-1, net) := by
      unfold Net.rmCcontrolCnf Net.cmdevRmCcontrolCnf
      rw [hdata]
      split
      · rfl
      · rfl
    show (_ = []) ∧ (net.rmCcontrolCnf ar confirmed c).2.ars ar = _
    rw [hcnf]
    exact ⟨rfl, rfl⟩
  | other net' =>
    refine ⟨rfl, ?_⟩
    show Function.update net'.ars ar (net.ars ar) ar = _
    rw [Function.update_self]

theorem begin_or_other (s : PrmStep) :
    (∃ env six c, s = .dcontrol env six c) ∨ ∀ env six c, s ≠ .dcontrol env six c := by
  cases s with
  | dcontrol env six c => exact .inl ⟨env, six, c, rfl⟩
  | applicationReady ready => exact .inr fun _ _ _ h => nomatch h
  | ccontrolReq pending sent => exact .inr fun _ _ _ h => nomatch h
  | ccontrolCnf confirmed c => exact .inr fun _ _ _ h => nomatch h
  | other net' => exact .inr fun _ _ _ h => nomatch h

theorem not_isBegin {s : PrmStep} (hs : ∀ env six c, s ≠ .dcontrol env six c) :
    s.isBegin = false ∧ s.isEnd = false := by
  cases s with
  | dcontrol env six c => exact absurd rfl (hs env six c)
  | applicationReady ready => exact ⟨rfl, rfl⟩
  | ccontrolReq pending sent => exact ⟨rfl, rfl⟩
  | ccontrolCnf confirmed c => exact ⟨rfl, rfl⟩
  | other net' => exact ⟨rfl, rfl⟩

/-! ### In WFRSP -/

/-- **No step leads out of WFRSP**: every DControl is refused, and nothing is handed to the
application. -/
theorem react_stuck (h : Stuck (net.ars ar)) (s : PrmStep) :
    Stuck ((net.react ar s).net.ars ar) ∧ (net.react ar s).delivered = [] ∧
      (s.isBegin = true ∨ s.isEnd = true → (net.react ar s).ret = -1) := by
  rcases begin_or_other s with ⟨env, six, c, rfl⟩ | hs
  · rw [react_dcontrol h.deviceAccess h.cmdevState]
    have hcmpbe : net.cmpbeRmDcontrolInd env six ar c = (-1, net) := by
      unfold Net.cmpbeRmDcontrolInd
      dsimp only
      rw [h.cmpbeState]
    have hdelivers : cmpbeDelivers (net.ars ar) c = [] := by
      unfold cmpbeDelivers
      rw [h.cmpbeState]
    rw [hcmpbe, hdelivers]
    exact ⟨h, rfl, fun _ => rfl⟩
  · have hreq : (net.ars ar).cmpbeState ≠ CmpbeState.PF_CMPBE_STATE_WFREQ := by
      rw [h.cmpbeState]
      decide
    rcases react_other h.deviceAccess h.cmdevState hreq hs with ⟨hdelivered, hsame⟩
    rw [hsame]
    refine ⟨h, hdelivered, ?_⟩
    rintro (hbegin | hend)
    · rw [(not_isBegin hs).1] at hbegin
      cases hbegin
    · rw [(not_isBegin hs).2] at hend
      cases hend

/-- What follows a PRM_BEGIN works while there is no PRM_END. -/
theorem works_stuck_iff (h : Stuck (net.ars ar)) (steps : List PrmStep) :
    Works ar .begun net steps ↔ ∀ s ∈ steps, s.isEnd = false := by
  induction steps generalizing net with
  | nil =>
    constructor
    · intro _ s hs
      cases hs
    · intro _
      trivial
  | cons s steps ih =>
    rcases react_stuck h s with ⟨hstuck, hdelivered, hret⟩
    have hnext : s.isEnd = false → Phase.begun.next s (net.react ar s) = Phase.begun := by
      intro hend
      exact if_neg fun h => Bool.false_ne_true (hend.symm.trans h.1)
    rw [Works, List.forall_mem_cons]
    constructor
    · rintro ⟨⟨-, hgood, -⟩, hrest⟩
      have hend : s.isEnd = false := by
        by_contra hend
        rw [Bool.not_eq_false] at hend
        rw [if_pos hend, hret (.inr hend)] at hgood
        cases hgood.1
      rw [hnext hend] at hrest
      exact ⟨hend, (ih hstuck).mp hrest⟩
    · rintro ⟨hend, hrest⟩
      rw [hnext hend]
      refine ⟨⟨hstuck.alarmEnable, ?_, ?_⟩, (ih hstuck).mpr hrest⟩
      · rw [if_neg (fun h => Bool.false_ne_true (hend.symm.trans h)), hdelivered]
        exact List.not_mem_nil
      · intro _ _
        exact ⟨hstuck.alarmEnable.trans h.alarmEnable.symm,
          hstuck.cmpbeState.trans h.cmpbeState.symm⟩

/-! ### In WFIND -/

/-- A PRM_BEGIN leads to WFRSP, whatever the application says to it. -/
theorem react_begin (h : AtData (net.ars ar)) {s : PrmStep} (hs : s.isBegin = true) :
    Stuck ((net.react ar s).net.ars ar) ∧
      (net.react ar s).delivered = [ControlCommand.PNET_CONTROL_COMMAND_PRM_BEGIN] ∧
      ((net.react ar s).ret = 0 ↔ s.Accepted net ar) := by
  rcases begin_or_other s with ⟨env, six, c, rfl⟩ | hother
  · have hc : c.controlCommand = commandBit PF_CONTROL_COMMAND_BIT_PRM_BEGIN :=
      of_decide_eq_true hs
    have hstored : ¬ (net.ars ar).cmpbeStoredCommand ≠ 0 := fun hne => hne h.cmpbeStoredCommand
    rw [react_dcontrol h.deviceAccess h.cmdevState]
    unfold Net.cmpbeRmDcontrolInd cmpbeDelivers
    dsimp only
    rw [h.cmpbeState]
    dsimp only
    rw [if_neg hstored, if_pos hc, if_pos (.inr hc)]
    refine ⟨?_, rfl, Iff.rfl⟩
    simp only [Net.setAr, Function.update_self]
    exact ⟨h.deviceAccess, h.cmdevState, rfl, rfl⟩
  · rw [(not_isBegin hother).1] at hs
    cases hs

/-- Everything else is ignored or refused. -/
theorem react_atData (h : AtData (net.ars ar)) {s : PrmStep} (hs : s.isBegin = false) :
    (net.react ar s).delivered = [] ∧ (net.react ar s).net.ars ar = net.ars ar := by
  rcases begin_or_other s with ⟨env, six, c, rfl⟩ | hother
  · have hc : c.controlCommand ≠ commandBit PF_CONTROL_COMMAND_BIT_PRM_BEGIN :=
      of_decide_eq_false hs
    have hstored : ¬ (net.ars ar).cmpbeStoredCommand ≠ 0 := fun hne => hne h.cmpbeStoredCommand
    rw [react_dcontrol h.deviceAccess h.cmdevState]
    unfold Net.cmpbeRmDcontrolInd cmpbeDelivers
    dsimp only
    rw [h.cmpbeState]
    dsimp only
    rw [if_neg hstored, if_neg hc, if_neg (fun h => h.elim hstored hc)]
    exact ⟨rfl, rfl⟩
  · apply react_other h.deviceAccess h.cmdevState _ hother
    rw [h.cmpbeState]
    decide

namespace PrmRun

/-- An AR in DATA, with its alarms on. -/
def start : Net where
  sessions := fun _ => clearedSession
  ars := Function.update (fun _ => clearedAr) 0
    { clearedAr with
      inUse := true, arep := 1, arUuid := ⟨1, 2, 3, Vector.replicate 8 4⟩, alarmEnable := true
      cmdevState := .PF_CMDEV_STATE_DATA, cmpbeState := .PF_CMPBE_STATE_WFIND
      cmwrrState := .PF_CMWRR_STATE_DATA }

/-- The application agrees to everything. -/
def env : ControlEnv := ⟨some fun _ _ result => (0, result), true⟩

def dcontrol (bit : ℕ) : PrmStep := .dcontrol env 0 { clearedControl with
  arUuid := ⟨1, 2, 3, Vector.replicate 8 4⟩, controlCommand := commandBit bit }

theorem start_atData : AtData (start.ars 0) := ⟨rfl, rfl, rfl, rfl⟩

end PrmRun

end PNet.Rpc
