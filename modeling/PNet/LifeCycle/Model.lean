import PNet.Alarm.Apms
import PNet.Cyclic.Buffers
import PNet.Cyclic.Ppm
import PNet.Lib.Runs
import PNet.Scheduler.Family

/-! # The life of an AR

An AR from its connect request to its release: CMDEV with CMSU, which starts and closes the other
machines, CMIO, which polls the output CRs until they have data, and CMSM, which supervises the
start-up; the PPM and the CPM of each CR, and the APMS of both priorities. They share the scheduler.

* The CR `crep` of AR `a` has the number `PNET_MAX_CR * a + crep`, and the APMX of priority `prio` the
  number `2 * a + prio`.
* `pf_cmdev_state_ind` hands an event to the machines in turn. One of them may fail and report that to
  CMSU, which is an ABORT inside of the event (`cmdevStateIndWith`).
* Where the source reads the clock or asks its surroundings, the step has the answer.
* The user call-backs do not call the stack.
-/

namespace PNet.LifeCycle

open Scheduler
open Connect (IocrParam ArParam AlarmCrRequest PF_IOCR_TYPE_INPUT PF_IOCR_TYPE_OUTPUT
  PF_IOCR_TYPE_MC_CONSUMER)
open Cyclic (Ppm Cpm Frame)
open Rpc (CmdevState CmsmState)

/-! ## Timers -/

/-- The components that have timers. -/
inductive Kind where
  | cmio
  | cmsm
  | cpm
  | ppm
  | apmx
deriving DecidableEq, Repr

namespace Kind

def num : Kind → ℕ
  | .cmio => 1
  | .cmsm => 2
  | .cpm => 3
  | .ppm => 4
  | .apmx => 5

def ofNum : ℕ → Option Kind
  | 1 => some .cmio
  | 2 => some .cmsm
  | 3 => some .cpm
  | 4 => some .ppm
  | 5 => some .apmx
  | _ => none

/-- The AR of an instance of the component. -/
def arOf : Kind → ℕ → ℕ
  | .cmio, a => a
  | .cmsm, a => a
  | .cpm, c => c / PNET_MAX_CR
  | .ppm, c => c / PNET_MAX_CR
  | .apmx, k => k / 2

theorem num_pos (k : Kind) : 0 < k.num := by cases k <;> decide

theorem num_lt (k : Kind) : k.num < 6 := by cases k <;> decide

theorem num_inj {k k' : Kind} (h : k.num = k'.num) : k = k' := by
  cases k <;> cases k' <;> first | rfl | exact absurd h (by decide)

theorem ofNum_num (k : Kind) : ofNum k.num = some k := by cases k <;> rfl

theorem ofNum_some {n : ℕ} {k : Kind} (h : ofNum n = some k) : n = k.num := by
  unfold ofNum at h
  split at h <;> cases h <;> rfl

end Kind

theorem handle_inj (n i j : ℕ) (h : 6 * i + n = 6 * j + n) : i = j := by omega

/-- The handles of a component. Those whose number is divisible by 6 are of other users. -/
def component (k : Kind) : Component where
  handle i := 6 * i + k.num
  handle_inj := handle_inj k.num
  name := k.num + 1
  cb := k.num

theorem handle_ne (k k' : Kind) (i j : ℕ) (h : k ≠ k') :
    (component k).handle i ≠ (component k').handle j := by
  intro heq
  have hk := k.num_lt
  have hk' := k'.num_lt
  have heq' : 6 * i + k.num = 6 * j + k'.num := heq
  exact h (Kind.num_inj (by omega))

def timers : Family Kind where
  comp := component
  handle_ne := handle_ne
  name_ne := fun _ _ h heq => h (Kind.num_inj (Nat.succ.inj heq))
  cb_ne := fun _ _ h heq => h (Kind.num_inj heq)
  name_pos := fun _ => Nat.succ_ne_zero _

/-- The handle is in the memory of the AR. -/
def handleOfAr (a h : ℕ) : Bool := (Kind.ofNum (h % 6)).elim false fun k => k.arOf (h / 6) = a

/-! ## Data -/

inductive CmsuState where
  | PF_CMSU_STATE_IDLE
  | PF_CMSU_STATE_STARTUP
  | PF_CMSU_STATE_RUN
  | PF_CMSU_STATE_ABORT
deriving DecidableEq, Repr

inductive CmioState where
  | PF_CMIO_STATE_IDLE
  | PF_CMIO_STATE_STARTUP
  | PF_CMIO_STATE_WDATA
  | PF_CMIO_STATE_DATA
deriving DecidableEq, Repr

/-- `pnet_event_values_t`. -/
inductive Event where
  | PNET_EVENT_ABORT
  | PNET_EVENT_STARTUP
  | PNET_EVENT_PRMEND
  | PNET_EVENT_APPLRDY
  | PNET_EVENT_DATA
deriving DecidableEq, Repr

/-- `pf_ar_t`, without its CRs and APMXs. -/
structure Ar where
  inUse : Bool
  /-- `none` after a `memset`, as is the next one. -/
  arParam : Option ArParam
  alarmCrRequest : Option AlarmCrRequest
  nbrIocrs : ℕ
  ready4Data : Bool
  cmdevState : CmdevState
  cmsuState : CmsuState
  cmioState : CmioState
  cmioTimerShouldReschedule : Bool
  cmsmState : CmsmState
deriving DecidableEq

/-- `pf_iocr_t`. -/
structure Iocr where
  /-- `none` after a `memset`. -/
  param : Option IocrParam
  inLength : BitVec 16
  ppm : Ppm
  cpm : Cpm
  /-- `control_interval` of the CPM. -/
  cpmControlInterval : BitVec 32
  /-- `cmio_start` of the CPM. -/
  cmioStart : Bool

abbrev Apmx := Apms.Sender Alarm.AlarmData

/-- What has happened to the connection with the number `n`, for the theorems to talk about. -/
inductive Note where
  /-- With its output CRs. -/
  | connect (n : ℕ) (outputs : List ℕ)
  /-- The application has been told. -/
  | event (n : ℕ) (e : Event)
  /-- A positive ccontrol confirmation, with the DONE bit. -/
  | confirmed (n : ℕ)
  /-- The CPM of a CR has accepted a frame. -/
  | accepted (n crep : ℕ)
deriving DecidableEq, Repr

structure Stack where
  sched : St
  deviceMac : Vector Byte 6
  ar : ℕ → Ar
  iocr : ℕ → Iocr
  apmx : ℕ → Apmx
  /-- How many connect requests have got an AR. -/
  connections : ℕ
  /-- The connection of an AR. -/
  connection : ℕ → ℕ
  /-- From the newest to the oldest. -/
  notes : List Note

/-- A CR of a connect request, with the length of its input data. -/
structure NewIocr where
  param : IocrParam
  inLength : BitVec 16
deriving DecidableEq

/-- A connect request, parsed. -/
structure Request where
  arParam : ArParam
  alarmCrRequest : AlarmCrRequest
  iocrs : List NewIocr
  room : iocrs.length ≤ PNET_MAX_CR

/-- What CMDEV answers to a connect request, before it starts CMSU. -/
inductive Verdict where
  | refused
  /-- The answer is negative without an error code, and the AR stays. -/
  | idle
  | accepted
deriving DecidableEq, Repr

/-- What a dcontrol request brings, and what is asked about it. -/
structure Dcontrol where
  prmEnd : Bool
  /-- `pf_fspm_cm_dcontrol_ind` succeeds. -/
  accepted : Bool
  /-- `pf_cmdev_check_pdev` succeeds. -/
  pdevOk : Bool
  /-- The session of the request has its AR when the response has been sent. -/
  sessionHasAr : Bool

/-- After a `memset`. -/
def Ar.zero : Ar where
  inUse := false
  arParam := none
  alarmCrRequest := none
  nbrIocrs := 0
  ready4Data := false
  cmdevState := .PF_CMDEV_STATE_POWER_ON
  cmsuState := .PF_CMSU_STATE_IDLE
  cmioState := .PF_CMIO_STATE_IDLE
  cmioTimerShouldReschedule := false
  cmsmState := .PF_CMSM_STATE_IDLE

def Iocr.zero : Iocr where
  param := none
  inLength := 0
  ppm := .cleared
  cpm := .zero
  cpmControlInterval := 0
  cmioStart := false

/-- `param.iocr_type`. -/
def Iocr.iocrType (io : Iocr) : BitVec 16 := io.param.elim 0 (·.iocrType)

/-- A CR whose data CMIO waits for. -/
def Iocr.consumes (io : Iocr) : Bool :=
  io.iocrType = PF_IOCR_TYPE_OUTPUT ∨ io.iocrType = PF_IOCR_TYPE_MC_CONSUMER

/-- `cm_initiator_activity_timeout_factor`, in us. -/
def Ar.activityTimeout (ar : Ar) : Time :=
  ar.arParam.elim 0 fun p => p.cmInitiatorActivityTimeoutFactor.setWidth 32 * 100 * 1000

def Ar.startupMode (ar : Ar) : Bool := ar.arParam.any (·.arProperties.startupMode)

def PF_CMIO_TIMER_PERIOD : Time := 100 * 1000

/-- The loop over the CRs of an AR. The bound is read in each round: an ABORT in a round ends the
loop. -/
def forCreps {β : Type} (nbrIocrs : β → ℕ) (body : β → ℕ → Option β) (b : β) : Option β :=
  (List.range PNET_MAX_CR).foldlM (fun b crep => if crep < nbrIocrs b then body b crep else some b) b

/-- The number of a CR. -/
def crOf (a crep : ℕ) : ℕ := PNET_MAX_CR * a + crep

/-- The output CRs of a connect request. -/
def Request.outputs (r : Request) : List ℕ :=
  (List.range r.iocrs.length).filter fun crep =>
    (r.iocrs[crep]?).any (·.param.iocrType = PF_IOCR_TYPE_OUTPUT)

namespace Stack

def init (tickInterval : Time) (deviceMac : Vector Byte 6) : Option Stack :=
  (pfSchedulerInit blank tickInterval).map fun s =>
    { sched := s
      deviceMac
      ar := fun _ => .zero
      iocr := fun _ => .zero
      apmx := fun _ => .zero
      connections := 0
      connection := fun _ => 0
      notes := [] }

def setAr (st : Stack) (a : ℕ) (x : Ar) : Stack := { st with ar := Function.update st.ar a x }

def setIocr (st : Stack) (c : ℕ) (x : Iocr) : Stack :=
  { st with iocr := Function.update st.iocr c x }

def setApmx (st : Stack) (k : ℕ) (x : Apmx) : Stack :=
  { st with apmx := Function.update st.apmx k x }

def setPpm (st : Stack) (c : ℕ) (x : Ppm) : Stack := st.setIocr c { st.iocr c with ppm := x }

def setCpm (st : Stack) (c : ℕ) (x : Cpm) : Stack := st.setIocr c { st.iocr c with cpm := x }

def setCmdevState (st : Stack) (a : ℕ) (state : CmdevState) : Stack :=
  st.setAr a { st.ar a with cmdevState := state }

def note (st : Stack) (x : Note) : Stack := { st with notes := x :: st.notes }

/-! ## The scheduler -/

def initHandle (st : Stack) (k : Kind) (i : ℕ) : Stack :=
  { st with sched := pfSchedulerInitHandle st.sched (timers.handle k i) (component k).name }

def resetHandle (st : Stack) (k : Kind) (i : ℕ) : Stack :=
  { st with sched := pfSchedulerResetHandle st.sched (timers.handle k i) }

def add (st : Stack) (k : Kind) (i : ℕ) (delay now : Time) : Option (ℤ × Stack) :=
  (pfSchedulerAdd st.sched delay (timers.job k i) (timers.handle k i) now).map fun r =>
    (r.1, { st with sched := r.2 })

def restart (st : Stack) (k : Kind) (i : ℕ) (delay now : Time) : Option (ℤ × Stack) :=
  (pfSchedulerRestart st.sched delay (timers.job k i) (timers.handle k i) now).map fun r =>
    (r.1, { st with sched := r.2 })

def removeIfRunning (st : Stack) (k : Kind) (i : ℕ) : Option Stack :=
  (pfSchedulerRemoveIfRunning st.sched (timers.handle k i)).map fun s => { st with sched := s }

/-! ## Closing -/

/-- `pf_ppm_close_req`. -/
def ppmCloseReq (st : Stack) (c : ℕ) : Option Stack :=
  (st.removeIfRunning .ppm c).map fun st => st.setPpm c (st.iocr c).ppm.closeReq

/-- `pf_cpm_close_req`. -/
def cpmCloseReq (st : Stack) (c : ℕ) : Option Stack :=
  (st.removeIfRunning .cpm c).map fun st => st.setCpm c (st.iocr c).cpm.closeReq

/-- `pf_cmsu_cmdev_state_ind` of ABORT, for one CR. -/
def closeIocr (st : Stack) (c : ℕ) : Option Stack :=
  if (st.iocr c).iocrType = PF_IOCR_TYPE_INPUT then st.ppmCloseReq c
  else if (st.iocr c).iocrType = PF_IOCR_TYPE_OUTPUT then st.cpmCloseReq c
  else some st

/-- `pf_alarm_apmx_close` for one priority. -/
def apmxClose (st : Stack) (k : ℕ) : Option Stack :=
  if (st.apmx k).apmsState = .PF_APMS_STATE_CLOSED then some st
  else
    (st.removeIfRunning .apmx k).map fun st =>
      st.setApmx k { st.apmx k with apmsState := .PF_APMS_STATE_CLOSED, rta := none }

/-- `pf_alarm_close`. -/
def alarmClose (st : Stack) (a : ℕ) : Option Stack :=
  (st.apmxClose (2 * a)).bind fun st => st.apmxClose (2 * a + 1)

/-- `memset` of the AR. -/
def zeroed (st : Stack) (a : ℕ) : Stack :=
  { st with
    sched := Family.zeroHandles st.sched (handleOfAr a)
    ar := Function.update st.ar a .zero
    iocr := fun c => if c / PNET_MAX_CR = a then .zero else st.iocr c
    apmx := fun k => if k / 2 = a then .zero else st.apmx k }

/-- `pf_ar_release`. -/
def release (st : Stack) (a : ℕ) : Stack := if (st.ar a).inUse then st.zeroed a else st

/-! ## Events -/

/-- `pf_ppm_activate_req` of a PPM that does not run yet, up to where it reports an error. The clock
is read twice. -/
def ppmStart (st : Stack) (c : ℕ) (now addNow : Time) : Option (ℤ × Stack) :=
  ((st.initHandle .ppm c).add .ppm c (st.iocr c).ppm.controlInterval addNow).map fun r =>
    let io := r.2.iocr c
    (r.1, r.2.setPpm c (io.ppm.activateReq io.inLength now (decide (r.1 = 0))).2)

/-- `pf_ppm_activate_req`. -/
def ppmActivateReq (st : Stack) (onError : Stack → ℕ → Option Stack) (a c : ℕ) (now addNow : Time) :
    Option Stack :=
  if (st.iocr c).ppm.state = .PF_PPM_STATE_RUN then some st
  else (st.ppmStart c now addNow).bind fun r => if r.1 = 0 then some r.2 else onError r.2 a

/-- `pf_cmsu_cmdev_state_ind` of PRMEND: the PPMs of the input CRs are activated. -/
def cmsuPrmEnd (st : Stack) (onError : Stack → ℕ → Option Stack) (a : ℕ) (clock : ℕ → Time) :
    Option Stack :=
  forCreps (fun st : Stack => (st.ar a).nbrIocrs) (fun st crep =>
    if (st.iocr (crOf a crep)).iocrType = PF_IOCR_TYPE_INPUT then
      st.ppmActivateReq onError a (crOf a crep) (clock (2 * crep)) (clock (2 * crep + 1))
    else some st) st

/-- `pf_cmsu_cmdev_state_ind` of ABORT. -/
def cmsuAbort (st : Stack) (a : ℕ) : Option Stack :=
  (forCreps (fun st : Stack => (st.ar a).nbrIocrs) (fun st crep => st.closeIocr (crOf a crep))
    st).bind fun st =>
  (st.alarmClose a).map fun st => st.setAr a { st.ar a with cmsuState := .PF_CMSU_STATE_IDLE }

/-- `pf_cmsu_cmdev_state_ind`. -/
def cmsuCmdevStateInd (st : Stack) (onError : Stack → ℕ → Option Stack) (a : ℕ) (event : Event)
    (clock : ℕ → Time) : Option Stack :=
  match (st.ar a).cmsuState, event with
  | .PF_CMSU_STATE_STARTUP, .PNET_EVENT_PRMEND => st.cmsuPrmEnd onError a clock
  | .PF_CMSU_STATE_STARTUP, .PNET_EVENT_ABORT => st.cmsuAbort a
  | .PF_CMSU_STATE_RUN, .PNET_EVENT_ABORT => st.cmsuAbort a
  | _, _ => some st

/-- CMIO forgets what the CPMs of the AR have received. -/
def clearCmioStart (st : Stack) (a : ℕ) : Stack :=
  { st with
    iocr := fun c =>
      if c / PNET_MAX_CR = a ∧ c % PNET_MAX_CR < (st.ar a).nbrIocrs ∧ (st.iocr c).consumes = true then
        { st.iocr c with cmioStart := false }
      else st.iocr c }

def setCmioState (st : Stack) (a : ℕ) (state : CmioState) : Stack :=
  st.setAr a { st.ar a with cmioState := state }

def setShouldReschedule (st : Stack) (a : ℕ) (b : Bool) : Stack :=
  st.setAr a { st.ar a with cmioTimerShouldReschedule := b }

/-- `pf_cmio_cmdev_state_ind`. -/
def cmioCmdevStateInd (st : Stack) (a : ℕ) (event : Event) (now : Time) : Option Stack :=
  match (st.ar a).cmioState, event with
  | .PF_CMIO_STATE_IDLE, .PNET_EVENT_ABORT =>
    some ((st.setShouldReschedule a false).setCmioState a .PF_CMIO_STATE_STARTUP)
  | .PF_CMIO_STATE_IDLE, .PNET_EVENT_STARTUP =>
    some (((st.clearCmioStart a).setShouldReschedule a false).setCmioState a
      .PF_CMIO_STATE_STARTUP)
  | .PF_CMIO_STATE_STARTUP, .PNET_EVENT_STARTUP =>
    some ((st.clearCmioStart a).setCmioState a .PF_CMIO_STATE_WDATA)
  | .PF_CMIO_STATE_STARTUP, .PNET_EVENT_PRMEND =>
    ((st.setShouldReschedule a true).add .cmio a PF_CMIO_TIMER_PERIOD now).map fun r =>
      r.2.setCmioState a .PF_CMIO_STATE_WDATA
  | .PF_CMIO_STATE_WDATA, .PNET_EVENT_DATA =>
    ((st.setShouldReschedule a false).removeIfRunning .cmio a).map fun st =>
      st.setCmioState a .PF_CMIO_STATE_DATA
  | .PF_CMIO_STATE_STARTUP, .PNET_EVENT_ABORT
  | .PF_CMIO_STATE_WDATA, .PNET_EVENT_ABORT
  | .PF_CMIO_STATE_DATA, .PNET_EVENT_ABORT =>
    some ((st.setShouldReschedule a false).setCmioState a .PF_CMIO_STATE_IDLE)
  | _, _ => some st

def setCmsmState (st : Stack) (a : ℕ) (state : CmsmState) : Stack :=
  st.setAr a { st.ar a with cmsmState := state }

/-- `pf_cmsm_cmdev_state_ind`. -/
def cmsmCmdevStateInd (st : Stack) (a : ℕ) (event : Event) (now : Time) : Option Stack :=
  match (st.ar a).cmsmState, event with
  | .PF_CMSM_STATE_IDLE, .PNET_EVENT_STARTUP =>
    ((st.setCmsmState a .PF_CMSM_STATE_RUN).restart .cmsm a (st.ar a).activityTimeout now).map
      Prod.snd
  | .PF_CMSM_STATE_RUN, .PNET_EVENT_DATA
  | .PF_CMSM_STATE_RUN, .PNET_EVENT_ABORT =>
    (st.removeIfRunning .cmsm a).map fun st => st.setCmsmState a .PF_CMSM_STATE_IDLE
  | _, _ => some st

/-- `pf_cmrpc_cmdev_state_ind`. -/
def cmrpcCmdevStateInd (st : Stack) (a : ℕ) : Event → Stack
  | .PNET_EVENT_ABORT => st.release a
  | _ => st

/-- `pf_cmdev_state_ind`; `onError` is what an error does that a machine reports to CMSU. The last
readings of the clock are those of CMIO and CMSM. -/
def cmdevStateIndWith (st : Stack) (onError : Stack → ℕ → Option Stack) (a : ℕ) (event : Event)
    (clock : ℕ → Time) : Option Stack :=
  ((st.note (.event (st.connection a) event)).cmsuCmdevStateInd onError a event clock).bind fun st =>
  (st.cmioCmdevStateInd a event (clock (2 * PNET_MAX_CR))).bind fun st =>
  (st.cmsmCmdevStateInd a event (clock (2 * PNET_MAX_CR + 1))).map fun st =>
  st.cmrpcCmdevStateInd a event

/-- `pf_cmdev_state_ind` of ABORT, which starts nothing that could fail. -/
def abort (st : Stack) (a : ℕ) : Option Stack :=
  st.cmdevStateIndWith (fun st _ => some st) a .PNET_EVENT_ABORT fun _ => 0

/-- `pf_cmdev_state_ind`. -/
def cmdevStateInd (st : Stack) (a : ℕ) (event : Event) (clock : ℕ → Time) : Option Stack :=
  st.cmdevStateIndWith abort a event clock

/-! ## Connecting -/

/-- `pf_cpm_activate_req`, up to where it reports an error. -/
def cpmStart (st : Stack) (a c : ℕ) (p : IocrParam) (now : Time) : Option (ℤ × Stack) :=
  let interval := p.sendClockFactor.setWidth 32 * p.reductionRatio.setWidth 32 * 1000 / 32
  ((st.initHandle .cpm c).add .cpm c interval now).map fun r =>
    let io := r.2.iocr c
    (r.1, r.2.setIocr c { io with
      cpmControlInterval := interval
      cpm := io.cpm.activateReq
        ⟨(st.ar a).arParam.elim [] (·.cmInitiatorMacAdd.toList), p.dataHoldFactor.toNat, p.cSduLength,
          decide (r.1 = 0)⟩ })

/-- `pf_cpm_create` and `pf_cpm_activate_req`. -/
def cpmActivateReq (st : Stack) (a c : ℕ) (p : IocrParam) (now : Time) : Option (ℤ × Stack) :=
  (st.cpmStart a c p now).bind fun r =>
    if r.1 = 0 then some r else (r.2.abort a).map fun st => (-1, st)

/-- `pf_ppm_create`. -/
def ppmCreate (st : Stack) (a c : ℕ) (p : IocrParam) (allocated : Bool) : ℤ × Stack :=
  let da := (st.ar a).arParam.elim (Vector.replicate 6 0) (·.cmInitiatorMacAdd)
  let r := (st.iocr c).ppm.create st.deviceMac da p allocated
  (r.1, st.setPpm c r.2)

/-- `pf_cmsu_start_req`, for one CR. -/
def startIocr (r : ℤ × Stack) (a crep : ℕ) (allocated : ℕ → Bool) (clock : ℕ → Time) :
    Option (ℤ × Stack) :=
  if r.1 ≠ 0 then some r
  else
    (r.2.iocr (crOf a crep)).param.elim (some r) fun p =>
      if p.iocrType = PF_IOCR_TYPE_OUTPUT then r.2.cpmActivateReq a (crOf a crep) p (clock crep)
      else if p.iocrType = PF_IOCR_TYPE_INPUT then
        some (r.2.ppmCreate a (crOf a crep) p (allocated crep))
      else some r

/-- `pf_alarm_apmx_activate` for one priority, of a zeroed APMX. -/
def apmxActivate (st : Stack) (a k : ℕ) : Stack :=
  (st.initHandle .apmx k).setApmx k
    ((st.ar a).alarmCrRequest.elim .zero fun request => .activate request)

/-- `pf_cmsu_start_req`, of a CMSU that is IDLE. -/
def cmsuStartReq (st : Stack) (a : ℕ) (allocated : ℕ → Bool) (clock : ℕ → Time) :
    Option (ℤ × Stack) :=
  (forCreps (fun r : ℤ × Stack => (r.2.ar a).nbrIocrs)
    (fun r crep => startIocr r a crep allocated clock) (0, st)).map fun r =>
      let st :=
        if r.1 = 0 then ((r.2.apmxActivate a (2 * a)).apmxActivate a (2 * a + 1)).initHandle .cmsm a
        else r.2
      (r.1, st.setAr a { st.ar a with cmsuState := .PF_CMSU_STATE_STARTUP })

/-- `pf_cmdev_cm_connect_rsp_pos`. -/
def cmdevCmConnectRspPos (st : Stack) (a : ℕ) (allocated : ℕ → Bool) (clock : ℕ → Time) :
    Option (ℤ × Stack) :=
  (cmsuStartReq (st.setCmdevState a .PF_CMDEV_STATE_W_CRES) a allocated clock).bind fun r =>
    let st := r.2.setCmdevState a .PF_CMDEV_STATE_W_SUCNF
    if r.1 = 0 then
      (st.cmdevStateInd a .PNET_EVENT_STARTUP clock).map fun st =>
        (0, st.setCmdevState a .PF_CMDEV_STATE_W_PEIND)
    else some (r.1, st)

/-- `pf_ar_allocate`, and the parameters of the request. -/
def allocate (st : Stack) (a : ℕ) (request : Option Request) : Stack :=
  let st := ((st.zeroed a).initHandle .cmio a).note
    (.connect st.connections (request.elim [] Request.outputs))
  let iocrs := request.elim [] Request.iocrs
  { st with
    ar := Function.update st.ar a { Ar.zero with
      inUse := true
      arParam := request.map Request.arParam
      alarmCrRequest := request.map Request.alarmCrRequest
      nbrIocrs := iocrs.length }
    iocr := fun c =>
      if c / PNET_MAX_CR = a then
        iocrs[c % PNET_MAX_CR]?.elim .zero fun x =>
          { Iocr.zero with param := some x.param, inLength := x.inLength }
      else st.iocr c
    connections := st.connections + 1
    connection := Function.update st.connection a st.connections }

/-- The AR that `pf_ar_allocate` finds. -/
def freeAr (st : Stack) : Option ℕ := (List.range PNET_MAX_AR).find? fun a => !(st.ar a).inUse

/-- `pf_ar_find_by_uuid`. -/
def arFindByUuid (st : Stack) (uuid : Rpc.Uuid) : Option ℕ :=
  (List.range PNET_MAX_AR).find? fun a =>
    (st.ar a).inUse ∧ (st.ar a).cmdevState ≠ .PF_CMDEV_STATE_POWER_ON ∧
      (st.ar a).arParam.any (·.arUuid = uuid)

/-- `pf_cmrpc_rm_connect_ind`; a request that cannot be parsed is `none`. Only the first AR may stay
connected. -/
def cmrpcRmConnectInd (st : Stack) (request : Option Request) (verdict : Verdict)
    (allocated : ℕ → Bool) (clock : ℕ → Time) : Option Stack :=
  st.freeAr.elim (some st) fun a =>
    let st := st.allocate a request
    request.elim (some (st.release a)) fun r =>
      match st.arFindByUuid r.arParam.arUuid with
      | some a2 => (st.abort a2).map fun st => st.release a
      | none =>
        if 1 < a + 1 then some (st.release a)
        else
          match verdict with
          | .refused => some (st.release a)
          | .idle => some (st.setCmdevState a .PF_CMDEV_STATE_W_CIND)
          | .accepted =>
            (st.cmdevCmConnectRspPos a allocated clock).map fun r =>
              if r.1 = 0 then r.2 else r.2.release a

/-! ## Controlling -/

/-- `pf_cmdev_rm_dcontrol_ind`, and the PRMEND that follows the response. -/
def cmdevRmDcontrolInd (st : Stack) (a : ℕ) (d : Dcontrol) (clock : ℕ → Time) : Option Stack :=
  if (st.ar a).cmdevState = .PF_CMDEV_STATE_W_PEIND then
    if d.prmEnd = true ∧ d.accepted = true ∧ d.pdevOk = true then
      let st := st.setCmdevState a .PF_CMDEV_STATE_W_ARDY
      if d.sessionHasAr then st.cmdevStateInd a .PNET_EVENT_PRMEND clock else some st
    else st.abort a
  else some st

/-- `pf_cmdev_cm_ccontrol_req`; `dataAvail` is what it finds out about the data of the application,
and `requested` is whether `pf_cmrpc_rm_ccontrol_req` succeeds. -/
def cmdevCmCcontrolReq (st : Stack) (a : ℕ) (dataAvail requested : Bool) (clock : ℕ → Time) :
    Option Stack :=
  if (st.ar a).cmdevState = .PF_CMDEV_STATE_W_ARDY ∧ dataAvail = true then
    (st.cmdevStateInd a .PNET_EVENT_APPLRDY clock).map fun st =>
      if requested then st.setCmdevState a .PF_CMDEV_STATE_W_ARDYCNF else st
  else some st

/-- `pf_cmdev_rm_ccontrol_cnf`. -/
def cmdevRmCcontrolCnf (st : Stack) (a : ℕ) (positive done : Bool) (clock : ℕ → Time) :
    Option Stack :=
  if (st.ar a).cmdevState = .PF_CMDEV_STATE_W_ARDYCNF then
    if positive then
      if done then
        let st := st.note (.confirmed (st.connection a))
        if (st.ar a).ready4Data then
          (st.cmdevStateInd a .PNET_EVENT_DATA clock).map fun st =>
            st.setCmdevState a .PF_CMDEV_STATE_DATA
        else some (st.setCmdevState a .PF_CMDEV_STATE_WDATA)
      else some st
    else (st.setCmdevState a .PF_CMDEV_STATE_ABORT).abort a
  else some st

/-! ## Cyclic data -/

/-- `pf_cmio_cpm_state_ind`. -/
def cmioCpmStateInd (st : Stack) (a crep : ℕ) (start : Bool) : Option Stack :=
  match (st.ar a).cmioState with
  | .PF_CMIO_STATE_IDLE => some st
  | .PF_CMIO_STATE_STARTUP =>
    if (st.ar a).startupMode = false ∧ start = false then st.abort a else some st
  | .PF_CMIO_STATE_WDATA =>
    if crep < (st.ar a).nbrIocrs then
      some (st.setIocr (crOf a crep) { st.iocr (crOf a crep) with cmioStart := start })
    else some st
  | .PF_CMIO_STATE_DATA => if start = false then st.abort a else some st

/-- `pf_cmio_cpm_new_data_ind`. -/
def cmioCpmNewDataInd (st : Stack) (a crep : ℕ) (newData : Bool) : Stack :=
  if (st.ar a).cmioState = .PF_CMIO_STATE_WDATA ∧ crep < (st.ar a).nbrIocrs then
    st.setIocr (crOf a crep) { st.iocr (crOf a crep) with cmioStart := newData }
  else st

/-- `pf_cpm_c_data_ind`. -/
def cpmCDataInd (st : Stack) (c : ℕ) (f : Frame) (frameIdPos : BitVec 16) : Option Stack :=
  let a := c / PNET_MAX_CR
  let crep := c % PNET_MAX_CR
  let x := (st.iocr c).cpm
  if Cyclic.Accepts x f frameIdPos then
    (if x.state = .PF_CPM_STATE_FRUN then st.cmioCpmStateInd a crep true else some st).map fun st =>
      ((st.cmioCpmNewDataInd a crep true).setCpm c (x.cDataInd f frameIdPos)).note
        (.accepted (st.connection a) crep)
  else some (st.setCpm c (x.cDataInd f frameIdPos))

/-- `pf_cpm_control_interval_expired`. -/
def cpmControlIntervalExpired (st : Stack) (c : ℕ) (now : Time) : Option Stack :=
  let st := st.resetHandle .cpm c
  let x := (st.iocr c).cpm
  if x.ciRunning = false then some st
  else if x.state = .PF_CPM_STATE_RUN ∧ x.dataHoldFactor ≤ x.dht then
    ((st.setCpm c { x with dht := 0, ciRunning := false }).cmioCpmStateInd (c / PNET_MAX_CR)
      (c % PNET_MAX_CR) false).map fun st =>
        st.setCpm c { (st.iocr c).cpm with state := .PF_CPM_STATE_W_START }
  else
    ((st.setCpm c x.controlIntervalExpired).add .cpm c (st.iocr c).cpmControlInterval now).bind
      fun r => if r.1 = 0 then some r.2 else r.2.abort (c / PNET_MAX_CR)

/-- `pf_ppm_drv_sw_send`, in a tick that has read the clock as `tick`. -/
def ppmDrvSwSend (st : Stack) (c : ℕ) (tick : Time) (sent : Bool) (now : Time) : Option Stack :=
  let st := st.resetHandle .ppm c
  let io := st.iocr c
  match (io.ppm.drvSwSend io.inLength tick sent true).2.1 with
  | none => some (st.setPpm c (io.ppm.drvSwSend io.inLength tick sent false).2.2)
  | some delay =>
    (st.add .ppm c delay now).bind fun r =>
      let st := r.2.setPpm c (io.ppm.drvSwSend io.inLength tick sent (decide (r.1 = 0))).2.2
      if r.1 = 0 then some st else st.abort (c / PNET_MAX_CR)

/-! ## Supervision -/

/-- `pf_cmdev_cmio_info_ind`. -/
def cmdevCmioInfoInd (st : Stack) (a : ℕ) (dataPossible : Bool) (now : Time) : Option Stack :=
  let ready := st.setAr a { st.ar a with ready4Data := dataPossible }
  match (st.ar a).cmdevState with
  | .PF_CMDEV_STATE_W_ARDY => some ready
  | .PF_CMDEV_STATE_W_ARDYCNF => some ready
  | .PF_CMDEV_STATE_WDATA =>
    if dataPossible then
      (ready.cmdevStateInd a .PNET_EVENT_DATA fun _ => now).map fun st =>
        st.setCmdevState a .PF_CMDEV_STATE_DATA
    else some ready
  | _ => some st

/-- What the poll of CMIO finds. -/
def dataPossible (st : Stack) (a : ℕ) : Bool :=
  (List.range (st.ar a).nbrIocrs).all fun crep =>
    !(st.iocr (crOf a crep)).consumes || (st.iocr (crOf a crep)).cmioStart

/-- `pf_cmio_timer_expired`. -/
def cmioTimerExpired (st : Stack) (a : ℕ) (now : Time) : Option Stack :=
  if (st.ar a).cmioState = .PF_CMIO_STATE_WDATA ∧ (st.ar a).cmioTimerShouldReschedule = true then
    (st.cmdevCmioInfoInd a (st.dataPossible a) now).bind fun st =>
      (st.add .cmio a PF_CMIO_TIMER_PERIOD now).map Prod.snd
  else some ((st.setShouldReschedule a false).resetHandle .cmio a)

/-- `pf_cmsm_timeout`. -/
def cmsmTimeout (st : Stack) (a : ℕ) : Option Stack :=
  let st := st.resetHandle .cmsm a
  if (st.ar a).cmsmState = .PF_CMSM_STATE_RUN then
    (st.abort a).map fun st => st.setCmsmState a .PF_CMSM_STATE_IDLE
  else some st

/-- `pf_cmsm_cm_read_ind`, and the other requests that begin the supervised time anew. -/
def cmsmRestart (st : Stack) (a : ℕ) (now : Time) : Option Stack :=
  if (st.ar a).cmsmState = .PF_CMSM_STATE_RUN then
    (st.restart .cmsm a (st.ar a).activityTimeout now).map Prod.snd
  else some st

/-! ## Alarms -/

/-- `pf_alarm_apms_apms_a_data_req`, when ALPMI or ALPMR has something to send. -/
def apmsApmsADataReq (st : Stack) (k : ℕ) (alarm : Option Alarm.AlarmData) (env : Apms.Driver) :
    Option Stack :=
  let ar := st.ar (k / 2)
  let x := st.apmx k
  if x.apmsState ≠ .PF_APMS_STATE_OPEN then st.abort (k / 2)
  else
    let x := { x with resendCounter := ar.alarmCrRequest.elim 0 (·.rtaRetries.toNat) }
    let x := (x.apmsDataReq (ar.alarmCrRequest.any (·.transportUdp)) alarm env).2
    let st := st.setApmx k { x with apmsState := .PF_APMS_STATE_WTACK }
    (st.add .apmx k x.timeoutUs env.now).map Prod.snd

/-- `pf_alarm_apms_timeout`, in a tick that has read the clock as `tick`. -/
def apmsTimeout (st : Stack) (k : ℕ) (tick : Time) (env : Apms.Driver) : Option Stack :=
  let st := st.resetHandle .apmx k
  let x := st.apmx k
  if x.apmsState = .PF_APMS_STATE_WTACK then
    x.rta.elim (some st) fun pdu =>
      if 0 < x.resendCounter then
        let udp := (st.ar (k / 2)).alarmCrRequest.any (·.transportUdp)
        let st := st.setApmx k (x.resend udp pdu tick env)
        (st.add .apmx k x.timeoutUs env.now).map Prod.snd
      else (st.setApmx k { x with apmsState := .PF_APMS_STATE_OPEN }).abort (k / 2)
  else some (st.setApmx k { x with rta := none })

/-! ## Rounds of the tick -/

/-- The call-back of a timer. -/
def callBack (st : Stack) (k : Kind) (i : ℕ) (tick : Time) (env : Apms.Driver) : Option Stack :=
  match k with
  | .cmio => st.cmioTimerExpired i env.now
  | .cmsm => st.cmsmTimeout i
  | .cpm => st.cpmControlIntervalExpired i env.now
  | .ppm => st.ppmDrvSwSend i tick env.takes env.now
  | .apmx => st.apmsTimeout i tick env

/-- A round of the loop of `pf_scheduler_tick`. -/
def round (st : Stack) (tick : Time) (env : Apms.Driver) : Option Stack :=
  if expired st.sched tick then
    (moveToFree st.sched st.sched.first).bind fun s =>
      let job := (st.sched.timeouts st.sched.first).job
      (Kind.ofNum job.cb).elim (some { st with sched := s }) fun k =>
        { st with sched := s }.callBack k job.arg tick env
  else some st

end Stack

/-! ## Runs -/

inductive Step where
  | connect (request : Option Request) (verdict : Verdict) (allocated : ℕ → Bool)
    (clock : ℕ → Time)
  | dcontrol (a : ℕ) (d : Dcontrol) (clock : ℕ → Time)
  | applicationReady (a : ℕ) (dataAvail requested : Bool) (clock : ℕ → Time)
  | ccontrolCnf (a : ℕ) (positive done : Bool) (clock : ℕ → Time)
  | frame (c : ℕ) (f : Frame) (frameIdPos : BitVec 16)
  /-- A read or a write. -/
  | record (a : ℕ) (now : Time)
  | sendAlarm (k : ℕ) (alarm : Option Alarm.AlarmData) (env : Apms.Driver)
  /-- APMS takes the acknowledgement number of a PDU, matching or not. -/
  | alarmFrame (k : ℕ) (pduType : Byte) (ackSeqNbr : BitVec 16)
  /-- A release request, `pnet_ar_abort`, or an error. -/
  | abort (a : ℕ)
  /-- Another user of the scheduler. -/
  | call (c : Call) (foreign : timers.Foreign c)
  | round (tick : Time) (env : Apms.Driver)

/-- Only an AR that is in use is found by a request. -/
def step (st : Stack) : Step → Option Stack
  | .connect request verdict allocated clock =>
    st.cmrpcRmConnectInd request verdict allocated clock
  | .dcontrol a d clock => if (st.ar a).inUse then st.cmdevRmDcontrolInd a d clock else some st
  | .applicationReady a dataAvail requested clock =>
    if (st.ar a).inUse then st.cmdevCmCcontrolReq a dataAvail requested clock else some st
  | .ccontrolCnf a positive done clock =>
    if (st.ar a).inUse then st.cmdevRmCcontrolCnf a positive done clock else some st
  | .frame c f frameIdPos => st.cpmCDataInd c f frameIdPos
  | .record a now => if (st.ar a).inUse then st.cmsmRestart a now else some st
  | .sendAlarm k alarm env =>
    if (st.ar (k / 2)).inUse then st.apmsApmsADataReq k alarm env else some st
  | .alarmFrame k pduType ackSeqNbr =>
    some (st.setApmx k ((st.apmx k).apmsDataInd pduType ackSeqNbr))
  | .abort a =>
    if (st.ar a).inUse then (st.setCmdevState a .PF_CMDEV_STATE_ABORT).abort a else some st
  | .call c _ => (doCall st.sched c).map fun s => { st with sched := s }
  | .round tick env => st.round tick env

/-- From the initialisation on. -/
def runInit (tickInterval : Time) (deviceMac : Vector Byte 6) (steps : List Step) : Option Stack :=
  (Stack.init tickInterval deviceMac).bind fun st => Runs.run step st steps

end PNet.LifeCycle
