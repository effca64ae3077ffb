import PNet.Alarm.Retransmit
import PNet.Lib.Runs

/-! # Priorities and sequence numbers of alarms

ALPMI numbers the alarm notifications that it sends: `pf_alarm_send_internal` takes the number of
the next one from `sequence_number` and counts on, modulo 0x800, before the PDU is built. The alarm
acknowledgement counts on, too, though its PDU has another number. So the numbers of the
notifications are consecutive in runs in which no alarm is acknowledged by the user and each
notification can be built.
-/

namespace PNet.Apms

open Scheduler
open Alarm (ApmsState AlpmiState AlpmrState)

variable {α : Type}

/-! ## Numbers -/

/-- `alpmx[prio]`, without its states. -/
structure Alpmi (α : Type) where
  sequenceNumber : BitVec 16
  /-- The notifications that have been handed to the driver and their numbers, for the theorems to
  talk about. -/
  sent : List (α × BitVec 16)

namespace Alpmi

/-- After a `memset`, and after `pf_alarm_alpmx_activate`. -/
def zero : Alpmi α := ⟨0, []⟩

/-- The number that comes next. -/
def count (n : Alpmi α) : Alpmi α :=
  { n with sequenceNumber := (n.sequenceNumber + 1) % 0x0800 }

/-- `pf_alarm_send_internal` numbers an alarm, of which a PDU is built or not. -/
def sendInternal (n : Alpmi α) (alarm : α) (built : Bool) : Alpmi α :=
  { n.count with sent := if built then n.sent ++ [(alarm, n.sequenceNumber)] else n.sent }

/-- `pf_ar_release` clears the memory of the AR. -/
def release (n : Alpmi α) (x : Sender α) : Alpmi α :=
  if x.apmsState = .PF_APMS_STATE_CLOSED then zero else n

end Alpmi

/-- APMS makes a frame of an alarm, and hands it to the driver. -/
def Stack.builds (st : Stack α) (k : ℕ) (env : Driver) : Bool :=
  (st.sender k).apmsState = .PF_APMS_STATE_OPEN ∧ (st.ar (arOf k)).transportUdp = false ∧
    env.hasBuffer = true

/-- What an event does to the ALPMI of an APMX. -/
def Alpmi.step (st : Stack α) (k : ℕ) (n : Alpmi α) : Event α → Alpmi α
  | .connect a _ => if arOf k = a ∧ (st.ar a).inUse = false then .zero else n
  | .periodic a env =>
    (st.nextAlarm a).elim n fun r => if r.1 = k then n.sendInternal r.2 (st.builds k env) else n
  | .alarmAck a _ =>
    if k = 2 * a + 1 ∧ (st.sender k).alpmrState = .PF_ALPMR_STATE_W_USER_ACK then n.count else n
  | _ => n

/-! ## Runs -/

/-- The stack, and the ALPMIs of all APMXs. -/
structure Numbered (α : Type) where
  stack : Stack α
  alpmi : ℕ → Alpmi α

namespace Numbered

def step (s : Numbered α) (e : Event α) : Option (Numbered α) :=
  (Apms.step s.stack e).map fun st =>
    ⟨st, fun k => ((s.alpmi k).step s.stack k e).release (st.sender k)⟩

def init (tickInterval : Time) : Option (Numbered α) :=
  (Stack.init tickInterval).map fun st => ⟨st, fun _ => .zero⟩

/-- From the initialisation on. -/
def runInit (tickInterval : Time) (es : List (Event α)) : Option (Numbered α) :=
  (init tickInterval).bind fun s => Runs.run step s es

/-- The alarms of the PDUs that have been sent, in the order of their first transmissions. -/
def notified : List (Note α) → List α
  | [] => []
  | .first pdu _ _ :: notes => notified notes ++ pdu.alarm.toList
  | .again _ _ _ _ :: notes => notified notes
  | .tack _ :: notes => notified notes

/-- The notifications of a priority are sent in the order of the queue, and numbered one after
another. -/
structure InOrder (x : Sender α) (n : Alpmi α) : Prop where
  sent : n.sent.map Prod.fst = notified x.notes
  ordered : x.accepted = n.sent.map Prod.fst ++ x.sendQueue.getD []
  consecutive : (n.sent.map Prod.snd).IsChain fun m m' => m' = (m + 1) % 0x0800

/-- When alarms of both priorities can be sent, the high priority is served and the low priority is
left alone. When a PDU of the high priority waits for its TACK, the AR is aborted, with both. -/
def HighFirst (s : Numbered α) (a : ℕ) (env : Driver) : Prop :=
  ∀ high low s', (s.stack.ar a).inUse = true → (s.stack.ar a).alarmEnable = true →
    (s.stack.sender (2 * a + 1)).next = some high → (s.stack.sender (2 * a)).next = some low →
    s.step (.periodic a env) = some s' →
    if (s.stack.sender (2 * a + 1)).apmsState = .PF_APMS_STATE_OPEN then
      (s'.alpmi (2 * a + 1)).sent =
          (s.alpmi (2 * a + 1)).sent ++ [(high, (s.alpmi (2 * a + 1)).sequenceNumber)] ∧
        s'.stack.sender (2 * a) = s.stack.sender (2 * a)
    else
      s'.stack.sender (2 * a + 1) = .zero ∧ s'.stack.sender (2 * a) = .zero

/-- In all states of the run the notifications are in order, and each of its periodic calls sends
the high priority first. -/
def SendsInOrder (tickInterval : Time) (es : List (Event α)) : Prop :=
  ∀ es' s, es' <+: es → runInit tickInterval es' = some s →
    (∀ k, InOrder (s.stack.sender k) (s.alpmi k)) ∧
      ∀ a env, es' ++ [.periodic a env] <+: es → HighFirst s a env

/-- A notification can be built when APMS is open for it, and the user does not acknowledge an alarm
when APMS is open. -/
def Orderly (s : Numbered α) : Event α → Prop
  | .periodic a env =>
    ∀ r ∈ s.stack.nextAlarm a, (s.stack.sender r.1).apmsState = .PF_APMS_STATE_OPEN →
      (s.stack.ar (arOf r.1)).transportUdp = false ∧ env.hasBuffer = true
  | .alarmAck a _ =>
    (s.stack.sender (2 * a + 1)).alpmrState = .PF_ALPMR_STATE_W_USER_ACK →
      (s.stack.sender (2 * a + 1)).apmsState ≠ .PF_APMS_STATE_OPEN
  | _ => True

instance (s : Numbered α) : ∀ e : Event α, Decidable (Orderly s e)
  | .periodic a env =>
    inferInstanceAs (Decidable (∀ r ∈ s.stack.nextAlarm a,
      (s.stack.sender r.1).apmsState = .PF_APMS_STATE_OPEN →
        (s.stack.ar (arOf r.1)).transportUdp = false ∧ env.hasBuffer = true))
  | .alarmAck a _ =>
    inferInstanceAs (Decidable
      ((s.stack.sender (2 * a + 1)).alpmrState = .PF_ALPMR_STATE_W_USER_ACK →
        (s.stack.sender (2 * a + 1)).apmsState ≠ .PF_APMS_STATE_OPEN))
  | .connect _ _ | .enable _ _ | .send _ _ _ _ _ | .frame _ _ _ | .ack _ | .notification _
  | .abort _ | .call _ _ | .round _ _ => isTrue trivial

/-! ## What a step leaves of a sender -/

section
variable {tickInterval : Time} {st st' : Stack α} {k : ℕ}

theorem abort_sender {a : ℕ} (h : st.abort a = some st') :
    (∀ k, arOf k = a → st'.sender k = .zero) ∧
      ∀ k, arOf k ≠ a → st'.sender k = st.sender k := by
  have hstop {st st' : Stack α} {k : ℕ} (h : st.stopTimer k = some st') :
      st'.sender = st.sender := by
    unfold Stack.stopTimer at h
    by_cases hclosed : (st.sender k).apmsState = ApmsState.PF_APMS_STATE_CLOSED
    · rw [if_pos hclosed] at h
      exact congrArg Stack.sender (Option.some.inj h).symm
    · rw [if_neg hclosed] at h
      rcases Option.map_eq_some_iff.mp h with ⟨s, -, rfl⟩
      rfl
  rcases Option.bind_eq_some_iff.mp h with ⟨st1, h1, hrest⟩
  rcases Option.map_eq_some_iff.mp hrest with ⟨st2, h2, rfl⟩
  have hsender : st2.sender = st.sender := (hstop h2).trans (hstop h1)
  constructor
  · intro k hk
    rcases arOf_eq_iff.mp hk with rfl | rfl
    · exact (setSender_other (by omega) _ _).trans (setSender_self _ _ _)
    · exact setSender_self _ _ _
  · intro k hk
    have hlow : k ≠ 2 * a := fun h => hk (arOf_eq_iff.mpr (.inl h))
    have hhigh : k ≠ 2 * a + 1 := fun h => hk (arOf_eq_iff.mpr (.inr h))
    refine (setSender_other hhigh _ _).trans ((setSender_other hlow _ _).trans ?_)
    exact congrFun hsender k

theorem startTimer_sender {now : Time} {r : ℤ × Stack α} (h : st.startTimer k now = some r) :
    r.2.sender = st.sender := by
  rcases Option.map_eq_some_iff.mp h with ⟨s, -, rfl⟩
  rfl

/-- The request to send a DATA PDU aborts the AR, or changes the sender alone. -/
theorem request_sender {alarm : Option α} {env : Driver} {ret : ℤ}
    (h : st.apmsApmsDataReq k alarm env = some (ret, st')) :
    if (st.sender k).apmsState = .PF_APMS_STATE_OPEN then
      st'.sender = Function.update st.sender k
        ((st.sender k).sending (st.ar (arOf k)) alarm env)
    else ret = -1 ∧ st.abort (arOf k) = some st' := by
  unfold Stack.apmsApmsDataReq at h
  by_cases hopen : (st.sender k).apmsState = ApmsState.PF_APMS_STATE_OPEN
  · rw [if_neg (not_not_intro hopen)] at h
    rcases Option.map_eq_some_iff.mp h with ⟨⟨r, st1⟩, hstart, hst⟩
    obtain ⟨-, rfl⟩ := Prod.mk.inj hst
    rw [if_pos hopen]
    exact startTimer_sender hstart
  · rw [if_pos hopen] at h
    rcases Option.map_eq_some_iff.mp h with ⟨st1, habort, hst⟩
    obtain ⟨rfl, rfl⟩ := Prod.mk.inj hst
    rw [if_neg hopen]
    exact ⟨rfl, habort⟩

/-- Where the alarms of a sender are stays the same. -/
structure Stays (x x' : Sender α) : Prop where
  notes : notified x'.notes = notified x.notes
  accepted : x'.accepted = x.accepted
  sendQueue : x'.sendQueue = x.sendQueue
  closed : x'.apmsState = .PF_APMS_STATE_CLOSED → x.apmsState = .PF_APMS_STATE_CLOSED

theorem Stays.refl (x : Sender α) : Stays x x := ⟨rfl, rfl, rfl, id⟩

theorem apmsDataInd_stays (x : Sender α) (pduType : Byte) (ackSeqNbr : BitVec 16) :
    Stays x (x.apmsDataInd pduType ackSeqNbr) := by
  unfold Sender.apmsDataInd
  by_cases htype : pduType = Alarm.PF_RTA_PDU_TYPE_ACK ∨ pduType = Alarm.PF_RTA_PDU_TYPE_DATA
  · rw [if_pos htype]
    by_cases hack : x.apmsState = ApmsState.PF_APMS_STATE_WTACK ∧ ackSeqNbr = x.sendSeqCount
    · rw [if_pos hack]
      refine ⟨?_, rfl, rfl, nofun⟩
      dsimp only
      cases x.rta with
      | none => rfl
      | some pdu => rfl
    · rw [if_neg hack]
      exact .refl x
  · rw [if_neg htype]
    exact .refl x

theorem resend_stays (x : Sender α) (udp : Bool) (pdu : Pdu α) (tick : Time) (env : Driver) :
    Stays x (x.resend udp pdu tick env) := by
  refine ⟨?_, rfl, rfl, id⟩
  unfold Sender.resend
  cases udp with
  | false => rfl
  | true => rfl

/-- A new sender, or one of a released AR, or one whose alarms stay where they are. -/
def Settles (x x' : Sender α) : Prop := x' = .zero ∨ Stays x x'

theorem setSender_settles {x : Sender α} (h : Stays (st.sender k) x) (j : ℕ) :
    Settles (st.sender j) ((st.setSender k x).sender j) := by
  by_cases hj : j = k
  · rw [hj, setSender_self]
    exact .inr h
  · rw [setSender_other hj]
    exact .inr (.refl _)

theorem abort_settles {a : ℕ} (h : st.abort a = some st') (j : ℕ) :
    Settles (st.sender j) (st'.sender j) := by
  by_cases hj : arOf j = a
  · exact .inl ((abort_sender h).1 j hj)
  · rw [(abort_sender h).2 j hj]
    exact .inr (.refl _)

theorem notification_settles (h : st.alpmrDataInd k = some st') (j : ℕ) :
    Settles (st.sender j) (st'.sender j) := by
  unfold Stack.alpmrDataInd at h
  by_cases hstart : (st.sender k).alpmrState = AlpmrState.PF_ALPMR_STATE_W_START
  · rw [if_pos hstart] at h
    obtain rfl : st = st' := Option.some.inj h
    exact .inr (.refl _)
  · rw [if_neg hstart] at h
    by_cases hnotify : (st.sender k).alpmrState = AlpmrState.PF_ALPMR_STATE_W_NOTIFY
    · rw [if_pos hnotify] at h
      obtain rfl := Option.some.inj h
      apply setSender_settles
      exact ⟨rfl, rfl, rfl, id⟩
    · rw [if_neg hnotify] at h
      exact abort_settles h j

theorem apmsTimeout_settles {tick : Time} {env : Driver}
    (h : st.apmsTimeout k tick env = some st') (j : ℕ) :
    Settles (st.sender j) (st'.sender j) := by
  generalize hst1 : ({ st with sched := pfSchedulerResetHandle st.sched (resendTimeout.handle k) } :
    Stack α) = st1
  rw [apmsTimeout_eq tick env hst1] at h
  have hsender : st1.sender = st.sender := by rw [← hst1]
  rw [← hsender]
  by_cases hwait : (st1.sender k).apmsState = ApmsState.PF_APMS_STATE_WTACK
  · rw [if_pos hwait] at h
    rcases hrta : (st1.sender k).rta with - | pdu
    · rw [hrta] at h
      obtain rfl : st1 = st' := Option.some.inj h
      exact .inr (.refl _)
    · rw [hrta] at h
      dsimp only [Option.elim_some] at h
      by_cases hcounter : 0 < (st1.sender k).resendCounter
      · rw [if_pos hcounter] at h
        rcases Option.map_eq_some_iff.mp h with ⟨r, hstart, rfl⟩
        rw [startTimer_sender hstart]
        exact setSender_settles (resend_stays _ _ _ _ _) j
      · -- the retries are used up, and the AR is aborted
        rw [if_neg hcounter] at h
        by_cases hj : arOf j = arOf k
        · exact .inl ((abort_sender h).1 j hj)
        · rw [(abort_sender h).2 j hj, setSender_other (fun hjk => hj (congrArg arOf hjk))]
          exact .inr (.refl _)
  · rw [if_neg hwait] at h
    obtain rfl := Option.some.inj h
    apply setSender_settles
    exact ⟨rfl, rfl, rfl, id⟩

theorem round_settles {tick : Time} {env : Driver} (h : st.round tick env = some st') (j : ℕ) :
    Settles (st.sender j) (st'.sender j) := by
  unfold Stack.round at h
  cases hexp : expired st.sched tick with
  | false =>
    rw [hexp] at h
    obtain rfl : st = st' := Option.some.inj h
    exact .inr (.refl _)
  | true =>
    rw [hexp, if_pos rfl] at h
    rcases Option.bind_eq_some_iff.mp h with ⟨s, -, hcall⟩
    dsimp only at hcall
    by_cases hcb : (st.sched.timeouts st.sched.first).job.cb = apmsTimeoutCb
    · rw [if_pos hcb] at hcall
      exact apmsTimeout_settles hcall j
    · rw [if_neg hcb] at hcall
      obtain rfl := Option.some.inj hcall
      exact .inr (.refl _)

/-- An alarm leaves its queue, and its AR is aborted or its sender waits for the TACK. -/
theorem periodic_sender {a : ℕ} {env : Driver} {r : ℕ × α} (hnext : st.nextAlarm a = some r)
    (h : st.almpiPeriodic a env = some st') :
    if (st.sender r.1).apmsState = .PF_APMS_STATE_OPEN then
      ∃ alpmi, st'.sender = Function.update st.sender r.1
        { (st.sender r.1).sendQueueFetch.sending (st.ar (arOf r.1)) (some r.2) env with
          alpmiState := alpmi }
    else ∀ k, if arOf k = arOf r.1 then st'.sender k = .zero else st'.sender k = st.sender k := by
  unfold Stack.almpiPeriodic at h
  rw [hnext] at h
  rcases Option.map_eq_some_iff.mp h with ⟨⟨ret, st1⟩, hreq, hst⟩
  have hfetched := setSender_self st r.1 (st.sender r.1).sendQueueFetch
  have hsent := request_sender hreq
  rw [hfetched] at hsent
  by_cases hopen : (st.sender r.1).apmsState = ApmsState.PF_APMS_STATE_OPEN
  · rw [if_pos hopen]
    rw [if_pos (show (st.sender r.1).sendQueueFetch.apmsState = _ from hopen)] at hsent
    have hupdate : st1.sender = Function.update st.sender r.1
        ((st.sender r.1).sendQueueFetch.sending (st.ar (arOf r.1)) (some r.2) env) :=
      hsent.trans (Function.update_idem ..)
    dsimp only at hst
    by_cases hret : ret = 0
    · rw [if_pos hret] at hst
      refine ⟨.PF_ALPMI_STATE_W_ACK, ?_⟩
      rw [← hst]
      show Function.update st1.sender r.1 _ = _
      rw [hupdate, Function.update_self, Function.update_idem]
    · -- ALPMI stays as it is
      rw [if_neg hret] at hst
      exact ⟨_, hst ▸ hupdate⟩
  · rw [if_neg hopen]
    rw [if_neg (show (st.sender r.1).sendQueueFetch.apmsState ≠ _ from hopen)] at hsent
    rcases hsent with ⟨rfl, habort⟩
    obtain rfl : st1 = st' := hst
    intro k
    by_cases hk : arOf k = arOf r.1
    · rw [if_pos hk]
      exact (abort_sender habort).1 k hk
    · rw [if_neg hk, (abort_sender habort).2 k hk]
      exact setSender_other (fun hkr => hk (congrArg arOf hkr)) _ _

/-- An alarm acknowledgement that finds APMS not open aborts the AR. -/
theorem alarmAck_sender {a : ℕ} {env : Driver}
    (hclosed : (st.sender (2 * a + 1)).alpmrState = .PF_ALPMR_STATE_W_USER_ACK →
      (st.sender (2 * a + 1)).apmsState ≠ .PF_APMS_STATE_OPEN)
    (h : st.alarmAck a env = some st') :
    if (st.sender (2 * a + 1)).alpmrState = .PF_ALPMR_STATE_W_USER_ACK then
      ∀ k, if arOf k = a then ∃ alpmr, st'.sender k = { Sender.zero with alpmrState := alpmr }
        else st'.sender k = st.sender k
    else st' = st := by
  unfold Stack.alarmAck at h
  dsimp only at h
  by_cases hack : (st.sender (2 * a + 1)).alpmrState = AlpmrState.PF_ALPMR_STATE_W_USER_ACK
  · rw [if_pos hack] at h ⊢
    rcases Option.map_eq_some_iff.mp h with ⟨⟨ret, st1⟩, hreq, rfl⟩
    have hsent := request_sender hreq
    rw [if_neg (hclosed hack)] at hsent
    have har : arOf (2 * a + 1) = a := arOf_eq_iff.mpr (.inr rfl)
    rw [har] at hsent
    have hzero := (abort_sender hsent.2).1
    intro k
    by_cases hk : arOf k = a
    · rw [if_pos hk]
      by_cases hhigh : k = 2 * a + 1
      · rw [hhigh, setSender_self, hzero _ har]
        exact ⟨_, rfl⟩
      · rw [setSender_other hhigh, hzero k hk]
        exact ⟨_, rfl⟩
    · rw [if_neg hk]
      have hhigh : k ≠ 2 * a + 1 := fun hk' => hk (hk' ▸ har)
      rw [setSender_other hhigh]
      exact (abort_sender hsent.2).2 k hk
  · rw [if_neg hack] at h ⊢
    exact (Option.some.inj h).symm

theorem sending_alarms (x : Sender α) {ar : Ar} (alarm : Option α) {env : Driver}
    (hudp : ar.transportUdp = false) (hbuffer : env.hasBuffer = true) :
    notified (x.sending ar alarm env).notes = notified x.notes ++ alarm.toList ∧
      (x.sending ar alarm env).accepted = x.accepted ∧
      (x.sending ar alarm env).sendQueue = x.sendQueue := by
  unfold Sender.sending Sender.apmsDataReq
  rw [if_neg (by simp [hudp, hbuffer])]
  exact ⟨rfl, rfl, rfl⟩

theorem sendAlarm_settles (st : Stack α) (a : ℕ) (highPrio : Bool) (alarm : α) (payloadLen : ℕ)
    (hasPayload : Bool) (j : ℕ) :
    let x := st.sender j
    let x' := (st.sendAlarm a highPrio alarm payloadLen hasPayload).2.sender j
    Stays x x' ∨ ∃ q alarm, x.sendQueue = some q ∧
      x' = { x with sendQueue := some (q ++ [alarm]), accepted := x.accepted ++ [alarm] } := by
  dsimp only
  unfold Stack.sendAlarm
  by_cases hen : (st.ar a).alarmEnable = false
  · rw [if_pos hen]
    exact .inl (.refl _)
  rw [if_neg hen]
  by_cases hmax : PNET_MAX_ALARM_PAYLOAD_DATA_SIZE < payloadLen
  · rw [if_pos hmax]
    exact .inl (.refl _)
  rw [if_neg hmax]
  by_cases hplc : (st.ar a).maxAlarmDataLength < payloadLen
  · rw [if_pos hplc]
    exact .inl (.refl _)
  rw [if_neg hplc]
  by_cases hnull : 0 < payloadLen ∧ hasPayload = false
  · rw [if_pos hnull]
    exact .inl (.refl _)
  rw [if_neg hnull]
  dsimp only
  generalize 2 * a + highPrio.toNat = k
  by_cases hj : j = k
  swap
  · rw [setSender_other hj]
    exact .inl (.refl _)
  rw [hj, setSender_self]
  unfold Sender.sendQueuePost
  rcases hq : (st.sender k).sendQueue with - | q
  · exact .inl (.refl _)
  dsimp only [Option.elim_some]
  by_cases hfull : PNET_MAX_ALARMS ≤ q.length
  · rw [if_pos hfull]
    exact .inl (.refl _)
  · rw [if_neg hfull]
    exact .inr ⟨q, alarm, rfl, rfl⟩

theorem connect_sender (st : Stack α) (a : ℕ) (request : Connect.AlarmCrRequest) (k : ℕ) :
    (st.connect a request).sender k =
      if arOf k = a ∧ (st.ar a).inUse = false then .activate request else st.sender k := by
  unfold Stack.connect
  cases huse : (st.ar a).inUse with
  | true => simp
  | false =>
    rw [if_neg (by simp)]
    by_cases hk : arOf k = a
    · rw [if_pos ⟨hk, rfl⟩]
      rcases arOf_eq_iff.mp hk with rfl | rfl
      · exact (setSender_other (by omega) _ _).trans (setSender_self _ _ _)
      · exact setSender_self _ _ _
    · rw [if_neg fun h => hk h.1]
      have hlow : k ≠ 2 * a := fun h => hk (arOf_eq_iff.mpr (.inl h))
      have hhigh : k ≠ 2 * a + 1 := fun h => hk (arOf_eq_iff.mpr (.inr h))
      exact (setSender_other hhigh _ _).trans (setSender_other hlow _ _)

end

/-! ## The invariant -/

/-- The number of the `i`th notification. -/
def nth (i : ℕ) : BitVec 16 := BitVec.ofNat 16 (i % 0x0800)

theorem nth_succ (i : ℕ) : (nth i + 1) % 0x0800 = nth (i + 1) := by
  apply BitVec.eq_of_toNat_eq
  simp [nth]
  omega

/-- The notifications of a sender have the numbers from 0 on, and the next one is known. -/
structure Numbers (x : Sender α) (n : Alpmi α) : Prop where
  next : n.sequenceNumber = nth n.sent.length
  numbers : n.sent.map Prod.snd = (List.range n.sent.length).map nth
  sent : n.sent.map Prod.fst = notified x.notes
  ordered : x.accepted = n.sent.map Prod.fst ++ x.sendQueue.getD []
  released : x.apmsState = .PF_APMS_STATE_CLOSED → n = .zero

section
variable {tickInterval : Time} {s s' : Numbered α} {e : Event α} {x x' : Sender α} {n : Alpmi α}
  {k : ℕ}

theorem Numbers.inOrder (h : Numbers x n) : InOrder x n := by
  refine ⟨h.sent, h.ordered, ?_⟩
  rw [h.numbers, List.isChain_map, List.isChain_range]
  intro i _
  exact (nth_succ i).symm

/-- A sender that has neither sent nor accepted an alarm. -/
theorem Numbers.zero (hnotes : x.notes = []) (haccepted : x.accepted = [])
    (hqueue : x.sendQueue.getD [] = []) : Numbers x .zero := by
  refine ⟨rfl, rfl, ?_, ?_, fun _ => rfl⟩
  · rw [hnotes]
    rfl
  · rw [haccepted, hqueue]
    rfl

theorem release_zero (x : Sender α) : Alpmi.zero.release x = .zero := ite_self _

theorem Numbers.settles (h : Numbers x n) (hx : Settles x x') : Numbers x' (n.release x') := by
  rcases hx with rfl | hstays
  · exact .zero rfl rfl rfl
  · have hn : n.release x' = n := by
      by_cases hclosed : x'.apmsState = ApmsState.PF_APMS_STATE_CLOSED
      · rw [h.released (hstays.closed hclosed), release_zero]
      · exact if_neg hclosed
    rw [hn]
    refine ⟨h.next, h.numbers, ?_, ?_, fun hclosed => h.released (hstays.closed hclosed)⟩
    · rw [hstays.notes]
      exact h.sent
    · rw [hstays.accepted, hstays.sendQueue]
      exact h.ordered

/-- An alarm is put into the queue. -/
theorem Numbers.post {q : List α} (h : Numbers x n) (alarm : α) (hq : x.sendQueue = some q) :
    Numbers { x with sendQueue := some (q ++ [alarm]), accepted := x.accepted ++ [alarm] } n := by
  refine ⟨h.next, h.numbers, h.sent, ?_, h.released⟩
  have hordered := h.ordered
  rw [hq] at hordered
  show x.accepted ++ [alarm] = _ ++ (q ++ [alarm])
  rw [hordered, List.append_assoc]
  rfl

/-- The alarm at the head of the queue is sent with the next number. -/
theorem Numbers.send {alarm : α} (h : Numbers x n)
    (hstate : x'.apmsState ≠ .PF_APMS_STATE_CLOSED)
    (hq : x.sendQueue.getD [] = alarm :: x'.sendQueue.getD [])
    (hnotes : notified x'.notes = notified x.notes ++ [alarm])
    (haccepted : x'.accepted = x.accepted) : Numbers x' (n.sendInternal alarm true) := by
  have hsent : (n.sendInternal alarm true).sent = n.sent ++ [(alarm, n.sequenceNumber)] := rfl
  refine ⟨?_, ?_, ?_, ?_, fun hclosed => absurd hclosed hstate⟩
  · show (n.sequenceNumber + 1) % 0x0800 = _
    rw [hsent, h.next, nth_succ, List.length_append]
    rfl
  · rw [hsent, List.map_append, h.numbers, List.length_append, List.length_singleton,
      List.range_succ, List.map_append, h.next]
    rfl
  · rw [hsent, hnotes, List.map_append, h.sent]
    rfl
  · rw [hsent, haccepted, h.ordered, hq, List.map_append, List.append_assoc]
    rfl

/-! ## Steps and runs -/

theorem periodic_numbers {a : ℕ} {env : Driver} {st : Stack α}
    (hs : ∀ k, Numbers (s.stack.sender k) (s.alpmi k)) (ho : Orderly s (.periodic a env))
    (h : s.stack.almpiPeriodic a env = some st) (k : ℕ) :
    Numbers (st.sender k)
      (((s.alpmi k).step s.stack k (.periodic a env)).release (st.sender k)) := by
  rcases hnext : s.stack.nextAlarm a with - | r
  · unfold Stack.almpiPeriodic at h
    rw [hnext] at h
    obtain rfl : s.stack = st := Option.some.inj h
    rw [Alpmi.step, hnext]
    exact (hs k).settles (.inr (.refl _))
  · have hsender := periodic_sender hnext h
    rw [Alpmi.step, hnext]
    dsimp only [Option.elim_some]
    by_cases hopen : (s.stack.sender r.1).apmsState = ApmsState.PF_APMS_STATE_OPEN
    · rw [if_pos hopen] at hsender
      rcases hsender with ⟨alpmi, hsender⟩
      rcases ho r hnext hopen with ⟨hudp, hbuffer⟩
      by_cases hk : r.1 = k
      · subst hk
        have hbuilt : s.stack.builds r.1 env = true := decide_eq_true ⟨hopen, hudp, hbuffer⟩
        rw [if_pos rfl, hbuilt, hsender, Function.update_self]
        rcases sending_alarms (s.stack.sender r.1).sendQueueFetch (some r.2) hudp hbuffer with
          ⟨hnotes, haccepted, hqueue⟩
        refine (hs r.1).send (by exact nofun) ?_ hnotes haccepted
        rw [nextAlarm_queue hnext]
        show _ = r.2 :: Option.getD (Sender.sendQueue _) []
        rw [hqueue]
        rfl
      · rw [if_neg hk, hsender, Function.update_of_ne (Ne.symm hk)]
        exact (hs k).settles (.inr (.refl _))
    · -- the AR is aborted
      rw [if_neg hopen] at hsender
      have hk := hsender k
      by_cases har : arOf k = arOf r.1
      · rw [if_pos har] at hk
        rw [hk]
        exact .zero rfl rfl rfl
      · rw [if_neg har] at hk
        rw [hk, if_neg (fun hr => har (congrArg arOf hr.symm))]
        exact (hs k).settles (.inr (.refl _))

theorem alarmAck_numbers {a : ℕ} {env : Driver} {st : Stack α}
    (hs : ∀ k, Numbers (s.stack.sender k) (s.alpmi k)) (ho : Orderly s (.alarmAck a env))
    (h : s.stack.alarmAck a env = some st) (k : ℕ) :
    Numbers (st.sender k)
      (((s.alpmi k).step s.stack k (.alarmAck a env)).release (st.sender k)) := by
  have hsender := alarmAck_sender ho h
  by_cases hack :
      (s.stack.sender (2 * a + 1)).alpmrState = AlpmrState.PF_ALPMR_STATE_W_USER_ACK
  · rw [if_pos hack] at hsender
    have hk := hsender k
    by_cases har : arOf k = a
    · rw [if_pos har] at hk
      rcases hk with ⟨alpmr, hk⟩
      rw [hk]
      exact .zero rfl rfl rfl
    · rw [if_neg har] at hk
      rw [hk, Alpmi.step, if_neg (fun hhigh => har (arOf_eq_iff.mpr (.inr hhigh.1)))]
      exact (hs k).settles (.inr (.refl _))
  · rw [if_neg hack] at hsender
    rw [hsender, Alpmi.step, if_neg (by rintro ⟨rfl, hk⟩; exact hack hk)]
    exact (hs k).settles (.inr (.refl _))

theorem step_numbers (hs : ∀ k, Numbers (s.stack.sender k) (s.alpmi k)) (ho : Orderly s e)
    (h : s.step e = some s') (k : ℕ) : Numbers (s'.stack.sender k) (s'.alpmi k) := by
  rcases Option.map_eq_some_iff.mp h with ⟨st, hst, rfl⟩
  cases e with
  | connect a request =>
    obtain rfl := Option.some.inj hst
    dsimp only [Alpmi.step]
    rw [connect_sender]
    by_cases hnew : arOf k = a ∧ (s.stack.ar a).inUse = false
    · rw [if_pos hnew, if_pos hnew, release_zero]
      exact .zero rfl rfl rfl
    · rw [if_neg hnew, if_neg hnew]
      exact (hs k).settles (.inr (.refl _))
  | enable a on =>
    obtain rfl := Option.some.inj hst
    exact (hs k).settles (.inr (.refl _))
  | send a highPrio alarm payloadLen hasPayload =>
    obtain rfl := Option.some.inj hst
    rcases sendAlarm_settles s.stack a highPrio alarm payloadLen hasPayload k with
      hstays | ⟨q, alarm', hq, hx⟩
    · exact (hs k).settles (.inr hstays)
    · dsimp only
      rw [hx]
      have hposted := (hs k).post alarm' hq
      exact hposted.settles (.inr (.refl _))
  | periodic a env => exact periodic_numbers hs ho hst k
  | alarmAck a env => exact alarmAck_numbers hs ho hst k
  | frame j pduType ackSeqNbr =>
    obtain rfl := Option.some.inj hst
    exact (hs k).settles (setSender_settles (apmsDataInd_stays _ _ _) k)
  | ack j =>
    obtain rfl := Option.some.inj hst
    apply (hs k).settles
    apply setSender_settles
    exact ⟨rfl, rfl, rfl, id⟩
  | notification j => exact (hs k).settles (notification_settles hst k)
  | abort a => exact (hs k).settles (abort_settles hst k)
  | call c foreign =>
    rcases Option.map_eq_some_iff.mp hst with ⟨sched, -, rfl⟩
    exact (hs k).settles (.inr (.refl _))
  | round tick env => exact (hs k).settles (round_settles hst k)

theorem highFirst (a : ℕ) {env : Driver} (ho : Orderly s (.periodic a env)) :
    HighFirst s a env := by
  intro high low s' huse hen hhigh _ hstep
  rcases Option.map_eq_some_iff.mp hstep with ⟨st, hst, rfl⟩
  have hnext : s.stack.nextAlarm a = some (2 * a + 1, high) := by
    unfold Stack.nextAlarm
    rw [if_pos ⟨huse, hen⟩, hhigh]
    rfl
  have hsender := periodic_sender hnext hst
  by_cases hopen : (s.stack.sender (2 * a + 1)).apmsState = ApmsState.PF_APMS_STATE_OPEN
  · rw [if_pos hopen] at hsender ⊢
    rcases hsender with ⟨alpmi, hsender⟩
    rcases ho _ hnext hopen with ⟨hudp, hbuffer⟩
    have hbuilt : s.stack.builds (2 * a + 1) env = true := decide_eq_true ⟨hopen, hudp, hbuffer⟩
    dsimp only
    rw [hsender, Alpmi.step, hnext]
    constructor
    · -- the sender waits for the TACK, so that its memory is kept
      rw [Function.update_self, Alpmi.release, if_neg (by exact nofun)]
      dsimp only [Option.elim_some]
      rw [if_pos rfl, hbuilt]
      rfl
    · exact Function.update_of_ne (by omega) _ _
  · rw [if_neg hopen] at hsender ⊢
    have har : arOf (2 * a + 1) = a := arOf_eq_iff.mpr (.inr rfl)
    have harLow : arOf (2 * a) = a := arOf_eq_iff.mpr (.inl rfl)
    have hboth := hsender (2 * a + 1)
    have hlow := hsender (2 * a)
    rw [if_pos rfl] at hboth
    rw [if_pos (harLow.trans har.symm)] at hlow
    exact ⟨hboth, hlow⟩

/-- When each notification can be built and no alarm acknowledgement takes a number, the
notifications are sent in order. -/
theorem sendsInOrder_of_orderly (tickInterval : Time) (es : List (Event α))
    (horderly : ∀ s, init tickInterval = some s → Runs.Along step Orderly s es) :
    SendsInOrder tickInterval es := by
  intro es' s hprefix hrun
  rcases Option.bind_eq_some_iff.mp hrun with ⟨s0, hs0, hrun⟩
  have hall := horderly s0 hs0
  have hnumbers : ∀ k, Numbers (s.stack.sender k) (s.alpmi k) := by
    apply Runs.invariant (I := fun s : Numbered α => ∀ k, Numbers (s.stack.sender k) (s.alpmi k))
      (fun s e s' hs ho hstep => step_numbers hs ho hstep) _
      (Runs.Along.of_prefix hall hprefix) hrun
    intro k
    rcases Option.map_eq_some_iff.mp hs0 with ⟨st, hst, rfl⟩
    rcases Option.map_eq_some_iff.mp hst with ⟨sched, -, rfl⟩
    exact .zero rfl rfl rfl
  refine ⟨fun k => (hnumbers k).inOrder, ?_⟩
  intro a env hprefix
  have hgoes := Runs.Along.of_prefix hall hprefix
  exact highFirst a (hgoes.last hrun)

end

/-! ## Two priorities -/

/-- Alarms of both priorities. The low priority is sent when the high priority waits for its alarm
acknowledgement. -/
def priorities : List (Event ℕ) :=
  [.connect 0 TwoAlarms.request, .enable 0 true, .send 0 false 1 0 false, .send 0 true 2 0 false,
    .send 0 true 3 0 false, .periodic 0 ⟨true, true, 0#32⟩, .periodic 0 ⟨true, true, 0#32⟩,
    .frame 1 Alarm.PF_RTA_PDU_TYPE_ACK 0xffff, .ack 1, .periodic 0 ⟨true, true, 0#32⟩]

theorem sendsInOrder_of_orderly_priorities :
    ((runInit 1000#32 priorities).map fun s => ((s.alpmi 1).sent, (s.alpmi 0).sent)) =
        some ([(2, 0), (3, 1)], [(1, 0)]) ∧
      SendsInOrder 1000#32 priorities := by
  refine ⟨by decide +kernel, sendsInOrder_of_orderly 1000#32 priorities ?_⟩
  have hall : (init 1000#32).all
      (fun s => decide (Runs.Along step Orderly s priorities)) = true := by
    decide +kernel
  intro s hs
  rw [hs] at hall
  exact of_decide_eq_true hall

/-- Between two alarms of the device, the user acknowledges one of the controller. -/
def acknowledging : List (Event ℕ) :=
  [.connect 0 TwoAlarms.request, .enable 0 true,
    .send 0 true 7 0 false, .periodic 0 ⟨true, true, 0#32⟩,
    .frame 1 Alarm.PF_RTA_PDU_TYPE_ACK 0xffff, .ack 1,
    .notification 1, .alarmAck 0 ⟨true, true, 0#32⟩, .frame 1 Alarm.PF_RTA_PDU_TYPE_ACK 0,
    .send 0 true 8 0 false, .periodic 0 ⟨true, true, 0#32⟩]

theorem acknowledging_sent :
    (runInit 1000#32 acknowledging).map (fun s => (s.alpmi 1).sent) = some [(7, 0), (8, 2)] := by
  decide +kernel

/-- The alarm acknowledgement takes number 1 from the notifications. -/
theorem not_sendsInOrder_acknowledging : ¬ SendsInOrder 1000#32 acknowledging := by
  intro h
  rcases Option.map_eq_some_iff.mp acknowledging_sent with ⟨s, hrun, hsent⟩
  have hchain := ((h acknowledging s (List.prefix_refl _) hrun).1 1).consecutive
  rw [hsent] at hchain
  revert hchain
  decide

end Numbered

end PNet.Apms
