import PNet.Alarm.Apmr
import PNet.Connect.Parse
import PNet.Scheduler.Component

/-! # Sending alarms

The sending side of `pf_alarm.c`: the queues of the alarms that the application has sent, ALPMI,
which takes them from there one at a time, and APMS, which sends a DATA PDU, keeps its frame until
the transport acknowledgement (TACK) comes, and sends the frame again when a timer expires. It is in
runs of sends, of received PDUs, of calls that other users make of the scheduler, and of rounds of
its tick, in any order.

* The low priority of AR `a` has the number `2 * a`, the high priority the number `2 * a + 1`.
* A round of the tick takes the first timer out of the queue, when it has expired, and runs its
  call-back; the clock is read again when the timer is started again.
* An abort closes the alarms of the AR and releases the AR, whose memory is zero from then on.
-/

namespace PNet.Apms

open Connect Scheduler
open Alarm (ApmsState AlpmiState AlpmrState PF_RTA_PDU_TYPE_ACK PF_RTA_PDU_TYPE_DATA)

/-! ## What is sent -/

/-- A DATA PDU. -/
structure Pdu (α : Type) where
  /-- The number of the PDU among those of its APMS, for the theorems to talk about. -/
  number : ℕ
  sendSeqNum : BitVec 16
  /-- An alarm acknowledgement has none. -/
  alarm : Option α
deriving DecidableEq, Repr

/-- What has happened to a PDU, for the theorems to talk about. -/
inductive Note (α : Type) where
  /-- It was sent for the first time; `taken` is whether the Ethernet driver took it. -/
  | first (pdu : Pdu α) (time : Time) (taken : Bool)
  /-- It was sent again, in a tick that had read the clock as `tick`. -/
  | again (pdu : Pdu α) (tick time : Time) (taken : Bool)
  /-- Its TACK came. -/
  | tack (pdu : Pdu α)
deriving DecidableEq, Repr

/-- What AR has for one priority: `apmx[prio]`, `alpmx[prio]` and `alarm_send_q[prio]`. -/
structure Sender (α : Type) where
  apmsState : ApmsState
  alpmiState : AlpmiState
  alpmrState : AlpmrState
  sendSeqCount : BitVec 16
  /-- `p_rta`, the frame kept for retransmission. -/
  rta : Option (Pdu α)
  resendCounter : ℕ
  timeoutUs : Time
  /-- `none` when the queue is not available. -/
  sendQueue : Option (List α)
  /-- How many PDUs have been built. -/
  pdus : ℕ
  /-- From the newest to the oldest. -/
  notes : List (Note α)
  /-- The alarms that have been put into the queue, in their order. -/
  accepted : List α

/-- `pf_ar_t`, without its APMXs. -/
structure Ar where
  inUse : Bool
  alarmEnable : Bool
  /-- `none` after a `memset`. -/
  alarmCrRequest : Option AlarmCrRequest
deriving DecidableEq, Repr

/-- What the rest of the system does while a DATA PDU is sent. -/
structure Driver where
  /-- `pnal_buf_alloc` has a buffer. -/
  hasBuffer : Bool
  /-- The Ethernet driver takes the frame. -/
  takes : Bool
  /-- The clock, when the timer is started. -/
  now : Time
deriving DecidableEq, Repr

namespace Ar

/-- After a `memset`. -/
def zero : Ar := ⟨false, false, none⟩

def transportUdp (ar : Ar) : Bool := ar.alarmCrRequest.any (·.transportUdp)

def rtaRetries (ar : Ar) : ℕ := ar.alarmCrRequest.elim 0 (·.rtaRetries.toNat)

def maxAlarmDataLength (ar : Ar) : ℕ := ar.alarmCrRequest.elim 0 (·.maxAlarmDataLength.toNat)

end Ar

namespace Sender
variable {α : Type}

/-- After a `memset`. -/
def zero : Sender α where
  apmsState := .PF_APMS_STATE_CLOSED
  alpmiState := .PF_ALPMI_STATE_W_START
  alpmrState := .PF_ALPMR_STATE_W_START
  sendSeqCount := 0
  rta := none
  resendCounter := 0
  timeoutUs := 0
  sendQueue := none
  pdus := 0
  notes := []
  accepted := []

/-- `pf_alarm_activate`, of a zeroed AR. -/
def activate (request : AlarmCrRequest) : Sender α :=
  { zero with
    apmsState := .PF_APMS_STATE_OPEN
    alpmiState := .PF_ALPMI_STATE_W_ALARM
    alpmrState := .PF_ALPMR_STATE_W_NOTIFY
    sendSeqCount := 0xffff
    timeoutUs := BitVec.ofNat 32 (100 * 1000 * request.rtaTimeoutFactor.toNat)
    sendQueue := some [] }

/-! ## The queue -/

/-- `pf_alarm_send_queue_post`. -/
def sendQueuePost (x : Sender α) (alarm : α) : ℤ × Sender α :=
  x.sendQueue.elim (-1, x) fun q =>
    if PNET_MAX_ALARMS ≤ q.length then (-1, x)
    else (0, { x with sendQueue := some (q ++ [alarm]), accepted := x.accepted ++ [alarm] })

/-- The alarm that `pf_alarm_almpi_periodic` finds. -/
def next (x : Sender α) : Option α :=
  if x.alpmiState = .PF_ALPMI_STATE_W_ALARM then x.sendQueue.bind List.head? else none

/-- `pf_alarm_send_queue_fetch`, of a queue that is not empty. -/
def sendQueueFetch (x : Sender α) : Sender α := { x with sendQueue := x.sendQueue.map List.tail }

/-! ## APMS -/

/-- `pf_alarm_apms_a_data_req`, of a DATA PDU. -/
def apmsDataReq (x : Sender α) (transportUdp : Bool) (alarm : Option α) (env : Driver) :
    ℤ × Sender α :=
  if transportUdp = true ∨ env.hasBuffer = false then (-1, x)
  else
    let pdu : Pdu α := ⟨x.pdus, x.sendSeqCount, alarm⟩
    (if env.takes then 0 else -1,
      { x with
        pdus := x.pdus + 1
        notes := .first pdu env.now env.takes :: x.notes
        rta := some (x.rta.getD pdu) })

/-- `pf_alarm_apms_a_data_ind`. ALPMI ignores a positive confirmation. -/
def apmsDataInd (x : Sender α) (pduType : Byte) (ackSeqNbr : BitVec 16) : Sender α :=
  if pduType = PF_RTA_PDU_TYPE_ACK ∨ pduType = PF_RTA_PDU_TYPE_DATA then
    if x.apmsState = .PF_APMS_STATE_WTACK ∧ ackSeqNbr = x.sendSeqCount then
      { x with
        sendSeqCount := (x.sendSeqCount + 1) &&& 0x7fff
        rta := none
        notes := x.rta.elim x.notes fun pdu => .tack pdu :: x.notes
        alpmrState :=
          if x.alpmrState = .PF_ALPMR_STATE_W_TACK then .PF_ALPMR_STATE_W_NOTIFY else x.alpmrState
        apmsState := .PF_APMS_STATE_OPEN }
    else x
  else x

/-- The frame is sent again, in `pf_alarm_apms_timeout`. -/
def resend (x : Sender α) (transportUdp : Bool) (pdu : Pdu α) (tick : Time) (env : Driver) :
    Sender α :=
  { x with
    resendCounter := x.resendCounter - 1
    notes := if transportUdp then x.notes else .again pdu tick env.now env.takes :: x.notes }

/-- `pf_alarm_alpmi_apmr_a_data_ind`. -/
def alpmiDataInd (x : Sender α) : Sender α :=
  { x with
    alpmiState :=
      if x.alpmiState = .PF_ALPMI_STATE_W_ACK then .PF_ALPMI_STATE_W_ALARM else x.alpmiState }

end Sender

/-! ## The state -/

/-- The address of `pf_alarm_apms_timeout`. -/
def apmsTimeoutCb : ℕ := 1

/-- The address of the text `"apmx"`. -/
def apmxName : Name := 2

/-- The handles `resend_timeout`, of which each APMX has one. -/
def resendTimeout : Component where
  handle k := 2 * k
  handle_inj := fun _ _ h => Nat.eq_of_mul_eq_mul_left Nat.two_pos h
  name := apmxName
  cb := apmsTimeoutCb

structure Stack (α : Type) where
  sched : St
  ar : ℕ → Ar
  sender : ℕ → Sender α

/-- The AR of an APMX. -/
def arOf (k : ℕ) : ℕ := k / 2

namespace Stack
variable {α : Type}

/-- `pf_scheduler_init`, and the zeroed ARs of `pf_cmrpc_init`. -/
def init (tickInterval : Time) : Option (Stack α) :=
  (pfSchedulerInit blank tickInterval).map fun s =>
    { sched := s, ar := fun _ => .zero, sender := fun _ => .zero }

def setSender (st : Stack α) (k : ℕ) (x : Sender α) : Stack α :=
  { st with sender := Function.update st.sender k x }

/-! ## Opening and closing -/

/-- `pf_alarm_activate` for one priority. -/
def open1 (st : Stack α) (k : ℕ) (request : AlarmCrRequest) : Stack α :=
  { st with sched := pfSchedulerInitHandle st.sched (resendTimeout.handle k) apmxName }.setSender k
    (.activate request)

/-- `pf_ar_allocate`, and the activation of the alarms by `pf_cmsu_start_req`. -/
def connect (st : Stack α) (a : ℕ) (request : AlarmCrRequest) : Stack α :=
  if (st.ar a).inUse then st
  else
    { st with ar := Function.update st.ar a ⟨true, false, some request⟩ }.open1 (2 * a) request
      |>.open1 (2 * a + 1) request

/-- `pf_alarm_close` for one priority: the timer is stopped unless APMS is closed. -/
def stopTimer (st : Stack α) (k : ℕ) : Option (Stack α) :=
  if (st.sender k).apmsState = .PF_APMS_STATE_CLOSED then some st
  else
    (pfSchedulerRemoveIfRunning st.sched (resendTimeout.handle k)).map fun s =>
      { st with sched := s }

/-- `pf_ar_release` for one priority. -/
def release1 (st : Stack α) (k : ℕ) : Stack α :=
  { st with sched := st.sched.setHandle (resendTimeout.handle k) ⟨0, 0⟩ }.setSender k .zero

/-- `pf_alarm_error_ind` and other aborts: CMDEV aborts the AR, CMSU closes its alarms, and CMRPC
releases it. -/
def abort (st : Stack α) (a : ℕ) : Option (Stack α) :=
  (st.stopTimer (2 * a)).bind fun st =>
  (st.stopTimer (2 * a + 1)).map fun st =>
    { st with ar := Function.update st.ar a .zero }.release1 (2 * a) |>.release1 (2 * a + 1)

/-! ## APMS -/

/-- `pf_scheduler_add` in APMS. -/
def startTimer (st : Stack α) (k : ℕ) (now : Time) : Option (ℤ × Stack α) :=
  (pfSchedulerAdd st.sched (st.sender k).timeoutUs (resendTimeout.job k) (resendTimeout.handle k)
    now).map fun r => (r.1, { st with sched := r.2 })

/-- `pf_alarm_apms_apms_a_data_req`. Out of state OPEN, the negative confirmation aborts the AR. -/
def apmsApmsDataReq (st : Stack α) (k : ℕ) (alarm : Option α) (env : Driver) :
    Option (ℤ × Stack α) :=
  if (st.sender k).apmsState ≠ .PF_APMS_STATE_OPEN then
    (st.abort (arOf k)).map fun st => (-1, st)
  else
    let ar := st.ar (arOf k)
    let r := { st.sender k with resendCounter := ar.rtaRetries }.apmsDataReq ar.transportUdp alarm
      env
    let st := st.setSender k { r.2 with apmsState := .PF_APMS_STATE_WTACK }
    (st.startTimer k env.now).map fun t => (if t.1 ≠ 0 then -1 else r.1, t.2)

/-- `pf_alarm_apms_timeout`, in a tick that has read the clock as `tick`. -/
def apmsTimeout (st : Stack α) (k : ℕ) (tick : Time) (env : Driver) : Option (Stack α) :=
  let st := { st with sched := pfSchedulerResetHandle st.sched (resendTimeout.handle k) }
  let x := st.sender k
  if x.apmsState = .PF_APMS_STATE_WTACK then
    x.rta.elim (some st) fun pdu =>
      if 0 < x.resendCounter then
        let st := st.setSender k (x.resend (st.ar (arOf k)).transportUdp pdu tick env)
        (st.startTimer k env.now).map Prod.snd
      else (st.setSender k { x with apmsState := .PF_APMS_STATE_OPEN }).abort (arOf k)
  else some (st.setSender k { x with rta := none })

/-! ## ALPMI and ALPMR -/

/-- `pf_alarm_send_alarm`. -/
def sendAlarm (st : Stack α) (a : ℕ) (highPrio : Bool) (alarm : α) (payloadLen : ℕ)
    (hasPayload : Bool) : ℤ × Stack α :=
  if (st.ar a).alarmEnable = false then (-1, st)
  else if PNET_MAX_ALARM_PAYLOAD_DATA_SIZE < payloadLen then (-1, st)
  else if (st.ar a).maxAlarmDataLength < payloadLen then (-1, st)
  else if 0 < payloadLen ∧ hasPayload = false then (-1, st)
  else
    let k := 2 * a + highPrio.toNat
    let r := (st.sender k).sendQueuePost alarm
    (r.1, st.setSender k r.2)

/-- `pf_alarm_send_internal`. -/
def sendInternal (st : Stack α) (k : ℕ) (alarm : α) (env : Driver) : Option (Stack α) :=
  (st.apmsApmsDataReq k (some alarm) env).map fun r =>
    if r.1 = 0 then
      r.2.setSender k { r.2.sender k with alpmiState := .PF_ALPMI_STATE_W_ACK }
    else r.2

/-- What `pf_alarm_almpi_periodic` takes from the queues of an AR; the high priority goes first. -/
def nextAlarm (st : Stack α) (a : ℕ) : Option (ℕ × α) :=
  if (st.ar a).inUse = true ∧ (st.ar a).alarmEnable = true then
    ((st.sender (2 * a + 1)).next.map fun alarm => (2 * a + 1, alarm)).or
      ((st.sender (2 * a)).next.map fun alarm => (2 * a, alarm))
  else none

/-- `pf_alarm_almpi_periodic`. -/
def almpiPeriodic (st : Stack α) (a : ℕ) (env : Driver) : Option (Stack α) :=
  (st.nextAlarm a).elim (some st) fun r =>
    (st.setSender r.1 (st.sender r.1).sendQueueFetch).sendInternal r.1 r.2 env

/-- `pf_alarm_alpmr_alarm_ack`, which always uses the high priority. -/
def alarmAck (st : Stack α) (a : ℕ) (env : Driver) : Option (Stack α) :=
  let k := 2 * a + 1
  if (st.sender k).alpmrState = .PF_ALPMR_STATE_W_USER_ACK then
    (st.apmsApmsDataReq k none env).map fun r =>
      r.2.setSender k { r.2.sender k with alpmrState := .PF_ALPMR_STATE_W_TACK }
  else some st

/-- `pf_alarm_alpmr_apmr_a_data_ind`. -/
def alpmrDataInd (st : Stack α) (k : ℕ) : Option (Stack α) :=
  if (st.sender k).alpmrState = .PF_ALPMR_STATE_W_START then some st
  else if (st.sender k).alpmrState = .PF_ALPMR_STATE_W_NOTIFY then
    some (st.setSender k { st.sender k with alpmrState := .PF_ALPMR_STATE_W_USER_ACK })
  else st.abort (arOf k)

/-! ## Rounds of the tick -/

/-- A round of the loop of `pf_scheduler_tick`. -/
def round (st : Stack α) (tick : Time) (env : Driver) : Option (Stack α) :=
  if expired st.sched tick then
    (moveToFree st.sched st.sched.first).bind fun s =>
      let job := (st.sched.timeouts st.sched.first).job
      if job.cb = apmsTimeoutCb then { st with sched := s }.apmsTimeout job.arg tick env
      else some { st with sched := s }
  else some st

end Stack

/-! ## Runs -/

inductive Event (α : Type) where
  | connect (a : ℕ) (request : AlarmCrRequest)
  /-- `pf_alarm_enable` and `pf_alarm_disable`. -/
  | enable (a : ℕ) (on : Bool)
  | send (a : ℕ) (highPrio : Bool) (alarm : α) (payloadLen : ℕ) (hasPayload : Bool)
  | periodic (a : ℕ) (env : Driver)
  | alarmAck (a : ℕ) (env : Driver)
  /-- APMS takes the acknowledgement number of a PDU, matching or not. -/
  | frame (k : ℕ) (pduType : Byte) (ackSeqNbr : BitVec 16)
  /-- An Alarm ACK PDU is handed to ALPMI. -/
  | ack (k : ℕ)
  /-- An alarm notification PDU is handed to ALPMR. -/
  | notification (k : ℕ)
  | abort (a : ℕ)
  /-- Another user of the scheduler. -/
  | call (c : Call) (foreign : resendTimeout.Foreign c)
  | round (tick : Time) (env : Driver)

section
variable {α : Type}

def step (st : Stack α) : Event α → Option (Stack α)
  | .connect a request => some (st.connect a request)
  | .enable a on => some { st with ar := Function.update st.ar a { st.ar a with alarmEnable := on } }
  | .send a highPrio alarm payloadLen hasPayload =>
    some (st.sendAlarm a highPrio alarm payloadLen hasPayload).2
  | .periodic a env => st.almpiPeriodic a env
  | .alarmAck a env => st.alarmAck a env
  | .frame k pduType ackSeqNbr =>
    some (st.setSender k ((st.sender k).apmsDataInd pduType ackSeqNbr))
  | .ack k => some (st.setSender k (st.sender k).alpmiDataInd)
  | .notification k => st.alpmrDataInd k
  | .abort a => st.abort a
  | .call c _ => (doCall st.sched c).map fun s => { st with sched := s }
  | .round tick env => st.round tick env

/-- `none` when an assertion has ended the program. -/
def runFrom (st : Stack α) : List (Event α) → Option (Stack α)
  | [] => some st
  | e :: es => (step st e).bind fun st' => runFrom st' es

/-- From the initialisation on. -/
def runInit (tickInterval : Time) (es : List (Event α)) : Option (Stack α) :=
  (Stack.init tickInterval).bind fun st => runFrom st es

/-- All steps of the run are such that `p` holds of the state they start in. -/
def Along (p : Stack α → Event α → Prop) : Stack α → List (Event α) → Prop
  | _, [] => True
  | st, e :: es => p st e ∧ ∀ st', step st e = some st' → Along p st' es

/-- A run can be checked step by step. -/
def decidableAlong (p : Stack α → Event α → Prop) [∀ st e, Decidable (p st e)] :
    ∀ (es : List (Event α)) (st : Stack α), Decidable (Along p st es)
  | [], _ => isTrue trivial
  | e :: es, st =>
    match hstep : step st e with
    | none => decidable_of_iff (p st e) ⟨fun h => ⟨h, by simp [hstep]⟩, fun h => h.1⟩
    | some st' =>
      have := decidableAlong p es st'
      decidable_of_iff (p st e ∧ Along p st' es)
        ⟨fun h => ⟨h.1, by simp [hstep, h.2]⟩, fun h => ⟨h.1, h.2 st' hstep⟩⟩

instance (p : Stack α → Event α → Prop) [∀ st e, Decidable (p st e)] (st : Stack α)
    (es : List (Event α)) : Decidable (Along p st es) := decidableAlong p es st

/-- The APMS that a step makes send a new DATA PDU, with the surroundings of the sending. -/
def sendsOn (st : Stack α) : Event α → Option (ℕ × Driver)
  | .periodic a env => (st.nextAlarm a).map fun r => (r.1, env)
  | .alarmAck a env =>
    if (st.sender (2 * a + 1)).alpmrState = .PF_ALPMR_STATE_W_USER_ACK then some (2 * a + 1, env)
    else none
  | _ => none

end

end PNet.Apms
