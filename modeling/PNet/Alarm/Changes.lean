import PNet.Alarm.Apms

/-! # What a step does to one APMS

The timers and the senders of all ARs are in one scheduler and one state. Seen from one APMS, a step
is one of a few changes of its sender and of its pending timers (`Change`), in any run
(`runInit_changes`).
-/

namespace PNet.Apms

open Scheduler
open Alarm (ApmsState AlpmiState AlpmrState)

variable {α : Type}

/-- `t` is a pending resend timeout of the APMX. -/
def Stack.Pending (st : Stack α) (k : ℕ) (t : Timer) : Prop := resendTimeout.Runs st.sched k t

/-- The RTA timeout, as the scheduler measures it. -/
def rtaTimeout (tickInterval timeoutUs : Time) : Time :=
  (pfSchedulerSanitizeDelay timeoutUs tickInterval true).getD 0

/-- The sender of a new DATA PDU waits for its TACK. -/
def Sender.sending (x : Sender α) (ar : Ar) (alarm : Option α) (env : Driver) : Sender α :=
  { ({ x with resendCounter := ar.rtaRetries }.apmsDataReq ar.transportUdp alarm env).2 with
    apmsState := .PF_APMS_STATE_WTACK }

/-- The handles of the APMXs that are not closed have been initialised. -/
structure Wired (tickInterval : Time) (st : Stack α) : Prop where
  represents : ∃ q, Represents st.sched q
  tidy : resendTimeout.Tidy st.sched
  tick : st.sched.tickInterval = tickInterval
  named : ∀ k, (st.sender k).apmsState ≠ .PF_APMS_STATE_CLOSED →
    (st.sched.handles (resendTimeout.handle k)).name = resendTimeout.name

/-- The pending timers of an APMX and the parameters of its AR stay. -/
structure Idle (st st' : Stack α) (k : ℕ) : Prop where
  pending : ∀ t, st'.Pending k t ↔ st.Pending k t
  request : (st'.ar (arOf k)).alarmCrRequest = (st.ar (arOf k)).alarmCrRequest

/-- `pf_scheduler_add` has started a timer, or it has failed without a free entry. -/
def Starts (tickInterval : Time) (st st' : Stack α) (k : ℕ) (now : Time) (ret : ℤ) : Prop :=
  (PF_MAX_TIMEOUTS ≤ st.sched.free ∧ ret = -1 ∧ ∀ t, st'.Pending k t ↔ st.Pending k t) ∨
  (st.sched.free < PF_MAX_TIMEOUTS ∧ ret = 0 ∧
    ∃ new, new.when = now + rtaTimeout tickInterval (st.sender k).timeoutUs ∧
      ∀ t, st'.Pending k t ↔ t = new ∨ st.Pending k t)

/-- What a step does to one APMX. -/
inductive Change (tickInterval : Time) (e : Event α) (st st' : Stack α) (k : ℕ) : Prop where
  | idle (alpmi : AlpmiState) (alpmr : AlpmrState) (h : Idle st st' k)
      (hx : st'.sender k = { st.sender k with alpmiState := alpmi, alpmrState := alpmr })
  | posts (q : List α) (alarm : α) (h : Idle st st' k) (hq : (st.sender k).sendQueue = some q)
      (hx : st'.sender k = { st.sender k with
        sendQueue := some (q ++ [alarm]), accepted := (st.sender k).accepted ++ [alarm] })
  | tacks (pduType : Byte) (ackSeqNbr seq : BitVec 16) (alpmr : AlpmrState) (h : Idle st st' k)
      (he : e = .frame k pduType ackSeqNbr)
      (htype : pduType = Alarm.PF_RTA_PDU_TYPE_ACK ∨ pduType = Alarm.PF_RTA_PDU_TYPE_DATA)
      (hstate : (st.sender k).apmsState = .PF_APMS_STATE_WTACK)
      (hack : ackSeqNbr = (st.sender k).sendSeqCount)
      (hx : st'.sender k = { st.sender k with
        sendSeqCount := seq, rta := none, alpmrState := alpmr, apmsState := .PF_APMS_STATE_OPEN
        notes := (st.sender k).rta.elim (st.sender k).notes
          fun pdu => .tack pdu :: (st.sender k).notes })
  | opens (request : Connect.AlarmCrRequest) (hx : st'.sender k = .activate request)
      (hpending : ∀ t, st'.Pending k t ↔ st.Pending k t)
  | closes (alpmr : AlpmrState) (hx : st'.sender k = { Sender.zero with alpmrState := alpmr })
      (hpending : ∀ t, st'.Pending k t → st.Pending k t)
  | sends (alarm : Option α) (env : Driver) (q : Option (List α)) (alpmi : AlpmiState)
      (alpmr : AlpmrState) (ret : ℤ) (he : sendsOn st e = some (k, env))
      (hstate : (st.sender k).apmsState = .PF_APMS_STATE_OPEN)
      (hq : (st.sender k).sendQueue.getD [] = alarm.toList ++ q.getD [])
      (hrequest : (st'.ar (arOf k)).alarmCrRequest = (st.ar (arOf k)).alarmCrRequest)
      (hx : st'.sender k =
        { { st.sender k with sendQueue := q }.sending (st.ar (arOf k)) alarm env with
          alpmiState := alpmi, alpmrState := alpmr })
      (hpending : Starts tickInterval st st' k env.now ret)
  | drops (fired : Timer) (hfired : st.Pending k fired)
      (hrequest : (st'.ar (arOf k)).alarmCrRequest = (st.ar (arOf k)).alarmCrRequest)
      (hx : st'.sender k = { st.sender k with rta := none })
      (hstate : (st.sender k).apmsState = .PF_APMS_STATE_WTACK → (st.sender k).rta = none)
      (hpending : ∀ t, st'.Pending k t ↔ st.Pending k t ∧ t ≠ fired)
  | resends (fired new : Timer) (pdu : Pdu α) (tick : Time) (env : Driver)
      (hfired : st.Pending k fired) (hexpired : 0 ≤ diff tick fired.when)
      (hrequest : (st'.ar (arOf k)).alarmCrRequest = (st.ar (arOf k)).alarmCrRequest)
      (hstate : (st.sender k).apmsState = .PF_APMS_STATE_WTACK)
      (hrta : (st.sender k).rta = some pdu) (hcounter : 0 < (st.sender k).resendCounter)
      (hx : st'.sender k =
        (st.sender k).resend (st.ar (arOf k)).transportUdp pdu tick env)
      (hnew : new.when = env.now + rtaTimeout tickInterval (st.sender k).timeoutUs)
      (hpending : ∀ t, st'.Pending k t ↔ t = new ∨ (st.Pending k t ∧ t ≠ fired))

section
variable {tickInterval : Time} {st st' st'' : Stack α} {e : Event α} {k : ℕ}

theorem arOf_eq_iff {k a : ℕ} : arOf k = a ↔ k = 2 * a ∨ k = 2 * a + 1 := by
  unfold arOf
  omega

/-- The step leaves the APMX alone. -/
theorem Change.untouched (h : Idle st st' k) (hx : st'.sender k = st.sender k) :
    Change tickInterval e st st' k :=
  .idle _ _ h hx

theorem setSender_self (st : Stack α) (k : ℕ) (x : Sender α) :
    (st.setSender k x).sender k = x := Function.update_self _ _ _

theorem setSender_other {j : ℕ} (hj : j ≠ k) (st : Stack α) (x : Sender α) :
    (st.setSender k x).sender j = st.sender j := Function.update_of_ne hj _ _

/-! ## Wired states -/

theorem Wired.setSender (hw : Wired tickInterval st) {x : Sender α}
    (hx : x.apmsState ≠ .PF_APMS_STATE_CLOSED →
      (st.sched.handles (resendTimeout.handle k)).name = resendTimeout.name) :
    Wired tickInterval (st.setSender k x) := by
  refine ⟨hw.represents, hw.tidy, hw.tick, ?_⟩
  intro j hj
  by_cases hjk : j = k
  · rw [hjk] at hj ⊢
    rw [setSender_self] at hj
    exact hx hj
  · rw [setSender_other hjk] at hj
    exact hw.named j hj

theorem Wired.setAr (hw : Wired tickInterval st) (ar : ℕ → Ar) :
    Wired tickInterval { st with ar := ar } :=
  ⟨hw.represents, hw.tidy, hw.tick, hw.named⟩

/-- Only the scheduler changes. -/
theorem Wired.setSched (hw : Wired tickInterval st) {s : St} {q : List Timer}
    (hq : Represents s q) (ht : resendTimeout.Tidy s)
    (htick : s.tickInterval = st.sched.tickInterval)
    (hnames : ∀ j, (s.handles (resendTimeout.handle j)).name =
      (st.sched.handles (resendTimeout.handle j)).name) :
    Wired tickInterval { st with sched := s } := by
  refine ⟨⟨q, hq⟩, ht, htick.trans hw.tick, ?_⟩
  intro j hj
  exact (hnames j).trans (hw.named j hj)

theorem only_names {i : ℕ} {s s' : St} (h : resendTimeout.Only i s s') (j : ℕ) :
    (s'.handles (resendTimeout.handle j)).name = (s.handles (resendTimeout.handle j)).name := by
  by_cases hj : j = i
  · rw [hj, h.name]
  · rw [h.handles j hj]

theorem Wired.only (hw : Wired tickInterval st) {s : St} {q : List Timer}
    (hq : Represents s q) (ht : resendTimeout.Tidy s) (ho : resendTimeout.Only k st.sched s) :
    Wired tickInterval { st with sched := s } :=
  hw.setSched hq ht ho.tickInterval (only_names ho)

/-! ## Closing -/

theorem stopTimer_spec (hw : Wired tickInterval st) (k : ℕ) :
    ∃ st', st.stopTimer k = some st' ∧ Wired tickInterval st' ∧ st'.sender = st.sender ∧
      st'.ar = st.ar ∧ (∀ j, j ≠ k → ∀ t, st'.Pending j t ↔ st.Pending j t) ∧
      ∀ t, st'.Pending k t → st.Pending k t := by
  unfold Stack.stopTimer
  by_cases hclosed : (st.sender k).apmsState = ApmsState.PF_APMS_STATE_CLOSED
  · exact ⟨st, if_pos hclosed, hw, rfl, rfl, fun _ _ _ => Iff.rfl, fun _ h => h⟩
  · rcases hw.represents with ⟨q, hq⟩
    rcases hw.tidy.removeIfRunning hq (hw.named k hclosed) with ⟨s, q', hs, hq', ht, ho, hruns⟩
    refine ⟨{ st with sched := s }, ?_, hw.only hq' ht ho, rfl, rfl, ho.runs, ?_⟩
    · rw [if_neg hclosed, hs, Option.map_some]
    · exact fun t h => (hruns t h).1

theorem release1_spec (hw : Wired tickInterval st) (k : ℕ) :
    Wired tickInterval (st.release1 k) ∧ (st.release1 k).sender k = .zero ∧
      (∀ j, j ≠ k → (st.release1 k).sender j = st.sender j) ∧
      ∀ j t, (st.release1 k).Pending j t ↔ st.Pending j t := by
  rcases hw.represents with ⟨q, hq⟩
  refine ⟨⟨⟨q, hq.setHandle _ _⟩, hw.tidy.clearHandle hq (.inr rfl), hw.tick, ?_⟩,
    setSender_self _ _ _, fun j hj => setSender_other hj _ _,
    fun j t => Component.runs_setHandle hq _ _ j t⟩
  intro j hj
  by_cases hjk : j = k
  · rw [hjk] at hj
    exact absurd (congrArg Sender.apmsState (setSender_self _ _ _)) hj
  · have hother : (st.release1 k).sched.handles (resendTimeout.handle j) =
        st.sched.handles (resendTimeout.handle j) :=
      Function.update_of_ne (fun h => hjk (resendTimeout.handle_inj _ _ h)) _ _
    rw [hother]
    apply hw.named j
    rwa [show (st.release1 k).sender j = st.sender j from setSender_other hjk _ _] at hj

/-- An abort closes the APMXs of the AR and leaves those of the others alone. -/
theorem abort_spec (hw : Wired tickInterval st) (a : ℕ) :
    ∃ st', st.abort a = some st' ∧ Wired tickInterval st' ∧
      (∀ k, arOf k = a → st'.sender k = .zero ∧ ∀ t, st'.Pending k t → st.Pending k t) ∧
      ∀ k, arOf k ≠ a → Idle st st' k ∧ st'.sender k = st.sender k := by
  rcases stopTimer_spec hw (2 * a) with ⟨st1, hst1, hw1, hx1, har1, hp1, hl1⟩
  rcases stopTimer_spec hw1 (2 * a + 1) with ⟨st2, hst2, hw2, hx2, har2, hp2, hl2⟩
  have hw3 := hw2.setAr (Function.update st2.ar a .zero)
  rcases release1_spec hw3 (2 * a) with ⟨hw4, hx4, hother4, hp4⟩
  rcases release1_spec hw4 (2 * a + 1) with ⟨hw5, hx5, hother5, hp5⟩
  refine ⟨_, ?_, hw5, ?_, ?_⟩
  · rw [Stack.abort, hst1, Option.bind_some, hst2, Option.map_some]
  · intro k hk
    rcases arOf_eq_iff.mp hk with rfl | rfl
    · constructor
      · rw [hother5 _ (by omega)]
        exact hx4
      · intro t ht
        have h2 := (hp4 _ t).mp ((hp5 _ t).mp ht)
        exact hl1 t ((hp2 _ (by omega) t).mp h2)
    · constructor
      · exact hx5
      · intro t ht
        have h2 := (hp4 _ t).mp ((hp5 _ t).mp ht)
        exact (hp1 _ (by omega) t).mp (hl2 t h2)
  · intro k hk
    have hlow : k ≠ 2 * a := fun h => hk (arOf_eq_iff.mpr (.inl h))
    have hhigh : k ≠ 2 * a + 1 := fun h => hk (arOf_eq_iff.mpr (.inr h))
    refine ⟨⟨?_, ?_⟩, ?_⟩
    · intro t
      rw [hp5, hp4]
      exact (hp2 k hhigh t).trans (hp1 k hlow t)
    · show (Function.update st2.ar a .zero (arOf k)).alarmCrRequest = _
      rw [Function.update_of_ne hk, har2, har1]
    · rw [hother5 k hhigh, hother4 k hlow]
      show st2.sender k = st.sender k
      rw [hx2, hx1]

/-- An abort, for each APMX. -/
theorem abort_changes (hw : Wired tickInterval st) {a : ℕ} (h : st.abort a = some st') :
    Wired tickInterval st' ∧ ∀ k, Change tickInterval e st st' k := by
  rcases abort_spec hw a with ⟨st1, hst1, hw1, hclosed, hothers⟩
  obtain rfl : st1 = st' := Option.some.inj (hst1.symm.trans h)
  refine ⟨hw1, fun k => ?_⟩
  by_cases hk : arOf k = a
  · exact .closes _ (hclosed k hk).1 (hclosed k hk).2
  · exact .untouched (hothers k hk).1 (hothers k hk).2

/-! ## Sending -/

theorem rtaTimeout_eq {timeoutUs d : Time}
    (h : pfSchedulerSanitizeDelay timeoutUs tickInterval true = some d) :
    rtaTimeout tickInterval timeoutUs = d := by
  rw [rtaTimeout, h, Option.getD_some]

theorem startTimer_spec (hw : Wired tickInterval st) {now : Time} {ret : ℤ}
    (hopen : (st.sender k).apmsState ≠ .PF_APMS_STATE_CLOSED)
    (h : st.startTimer k now = some (ret, st')) :
    Wired tickInterval st' ∧ st'.sender = st.sender ∧ st'.ar = st.ar ∧
      (∀ j, j ≠ k → ∀ t, st'.Pending j t ↔ st.Pending j t) ∧
      Starts tickInterval st st' k now ret := by
  rcases hw.represents with ⟨q, hq⟩
  rcases Option.map_eq_some_iff.mp h with ⟨⟨ret', s⟩, ha, hs⟩
  obtain ⟨rfl, rfl⟩ := Prod.mk.inj hs
  rcases Option.bind_eq_some_iff.mp ha with ⟨d, hd, -⟩
  rcases hw.tidy.add hq (hw.named k hopen) hd now with
    ⟨ret1, s1, q1, ha1, hq1, ht1, ho, hfull, hroom⟩
  obtain ⟨rfl, rfl⟩ := Prod.mk.inj (Option.some.inj (ha1.symm.trans ha))
  rw [hw.tick] at hd
  refine ⟨hw.only hq1 ht1 ho, rfl, rfl, ho.runs, ?_⟩
  by_cases hfree : PF_MAX_TIMEOUTS ≤ st.sched.free
  · exact .inl ⟨hfree, hfull hfree⟩
  · have hlt : st.sched.free < PF_MAX_TIMEOUTS := by omega
    rcases hroom hlt with ⟨hret, new, hwhen, -, hnew⟩
    refine .inr ⟨hlt, hret, new, ?_, hnew⟩
    rw [hwhen, rtaTimeout_eq hd]

theorem sending_open (x : Sender α) (ar : Ar) (alarm : Option α) (env : Driver) :
    (x.sending ar alarm env).apmsState ≠ .PF_APMS_STATE_CLOSED := by
  show ApmsState.PF_APMS_STATE_WTACK ≠ _
  decide

theorem sending_timeoutUs (x : Sender α) (ar : Ar) (alarm : Option α) (env : Driver) :
    (x.sending ar alarm env).timeoutUs = x.timeoutUs := by
  unfold Sender.sending Sender.apmsDataReq
  by_cases h : ar.transportUdp = true ∨ env.hasBuffer = false
  · rw [if_pos h]
  · rw [if_neg h]

/-- The request to send a DATA PDU aborts the AR, or APMS was open and its sender waits for the
TACK. -/
theorem apmsApmsDataReq_spec (hw : Wired tickInterval st) {alarm : Option α} {env : Driver}
    {ret : ℤ} (h : st.apmsApmsDataReq k alarm env = some (ret, st')) :
    Wired tickInterval st' ∧
      ((st.abort (arOf k) = some st' ∧ ret = -1) ∨
        ((st.sender k).apmsState = .PF_APMS_STATE_OPEN ∧ st'.ar = st.ar ∧
          st'.sender = Function.update st.sender k
            ((st.sender k).sending (st.ar (arOf k)) alarm env) ∧
          (∀ j, j ≠ k → ∀ t, st'.Pending j t ↔ st.Pending j t) ∧
          ∃ r, Starts tickInterval st st' k env.now r)) := by
  unfold Stack.apmsApmsDataReq at h
  by_cases hstate : (st.sender k).apmsState = ApmsState.PF_APMS_STATE_OPEN
  · rw [if_neg (not_not_intro hstate)] at h
    rcases Option.map_eq_some_iff.mp h with ⟨⟨r, st1⟩, hstart, hst⟩
    obtain ⟨-, rfl⟩ := Prod.mk.inj hst
    have hnamed := hw.named k (by rw [hstate]; decide)
    have hw1 := hw.setSender (x := (st.sender k).sending (st.ar (arOf k)) alarm env)
      fun _ => hnamed
    have hself : ((st.setSender k ((st.sender k).sending (st.ar (arOf k)) alarm env)).sender k) =
        (st.sender k).sending (st.ar (arOf k)) alarm env := setSender_self _ _ _
    rcases startTimer_spec hw1 (by rw [hself]; exact sending_open _ _ _ _) hstart with
      ⟨hw', hx, har, hother, hstarts⟩
    refine ⟨hw', .inr ⟨hstate, har, hx, hother, r, ?_⟩⟩
    unfold Starts at hstarts ⊢
    rw [hself, sending_timeoutUs] at hstarts
    exact hstarts
  · rw [if_pos hstate] at h
    rcases Option.map_eq_some_iff.mp h with ⟨st1, habort, hst⟩
    obtain ⟨rfl, rfl⟩ := Prod.mk.inj hst
    exact ⟨(abort_changes (e := .abort (arOf k)) hw habort).1, .inl ⟨habort, rfl⟩⟩

/-! ## The events -/

theorem open1_spec (hw : Wired tickInterval st) (k : ℕ) (request : Connect.AlarmCrRequest) :
    Wired tickInterval (st.open1 k request) ∧ (st.open1 k request).sender k = .activate request ∧
      (∀ j, j ≠ k → (st.open1 k request).sender j = st.sender j) ∧
      ∀ j t, (st.open1 k request).Pending j t ↔ st.Pending j t := by
  rcases hw.represents with ⟨q, hq⟩
  refine ⟨⟨⟨q, hq.setHandle _ _⟩, hw.tidy.clearHandle hq (.inl rfl), hw.tick, ?_⟩,
    setSender_self _ _ _, fun j hj => setSender_other hj _ _,
    fun j t => Component.runs_setHandle hq _ _ j t⟩
  intro j hj
  by_cases hjk : j = k
  · have hself : (st.open1 k request).sched.handles (resendTimeout.handle k) =
        ⟨apmxName, UINT32_MAX⟩ := Function.update_self _ _ _
    rw [hjk, hself]
    rfl
  · have hother : (st.open1 k request).sched.handles (resendTimeout.handle j) =
        st.sched.handles (resendTimeout.handle j) :=
      Function.update_of_ne (fun h => hjk (resendTimeout.handle_inj _ _ h)) _ _
    rw [hother]
    apply hw.named j
    rwa [show (st.open1 k request).sender j = st.sender j from setSender_other hjk _ _] at hj

theorem connect_changes (hw : Wired tickInterval st) (a : ℕ) (request : Connect.AlarmCrRequest) :
    Wired tickInterval (st.connect a request) ∧
      ∀ k, Change tickInterval e st (st.connect a request) k := by
  unfold Stack.connect
  by_cases huse : (st.ar a).inUse = true
  · rw [if_pos huse]
    exact ⟨hw, fun k => .untouched ⟨fun _ => Iff.rfl, rfl⟩ rfl⟩
  · rw [if_neg huse]
    have hw1 := hw.setAr (Function.update st.ar a ⟨true, false, some request⟩)
    rcases open1_spec hw1 (2 * a) request with ⟨hw2, hx2, hother2, hp2⟩
    rcases open1_spec hw2 (2 * a + 1) request with ⟨hw3, hx3, hother3, hp3⟩
    refine ⟨hw3, fun k => ?_⟩
    have hp (t : Timer) := (hp3 k t).trans (hp2 k t)
    by_cases hk : arOf k = a
    · rcases arOf_eq_iff.mp hk with rfl | rfl
      · exact .opens request ((hother3 _ (by omega)).trans hx2) hp
      · exact .opens request hx3 hp
    · have hlow : k ≠ 2 * a := fun h => hk (arOf_eq_iff.mpr (.inl h))
      have hhigh : k ≠ 2 * a + 1 := fun h => hk (arOf_eq_iff.mpr (.inr h))
      refine .untouched ⟨hp, ?_⟩ ((hother3 k hhigh).trans (hother2 k hlow))
      show (Function.update st.ar a _ (arOf k)).alarmCrRequest = _
      rw [Function.update_of_ne hk]

/-- One sender changes, and neither timers nor parameters do. -/
theorem setSender_changes (hw : Wired tickInterval st) {j : ℕ} {x : Sender α}
    (hstate : x.apmsState ≠ .PF_APMS_STATE_CLOSED →
      (st.sender j).apmsState ≠ .PF_APMS_STATE_CLOSED)
    (hj : Idle st (st.setSender j x) j → (st.setSender j x).sender j = x →
      Change tickInterval e st (st.setSender j x) j) :
    Wired tickInterval (st.setSender j x) ∧ ∀ k, Change tickInterval e st (st.setSender j x) k := by
  refine ⟨hw.setSender fun h => hw.named j (hstate h), fun k => ?_⟩
  by_cases hk : k = j
  · subst hk
    exact hj ⟨fun _ => Iff.rfl, rfl⟩ (setSender_self _ _ _)
  · exact .untouched ⟨fun _ => Iff.rfl, rfl⟩ (setSender_other hk _ _)

theorem enable_changes (hw : Wired tickInterval st) (a : ℕ) (on : Bool) :
    Wired tickInterval
        { st with ar := Function.update st.ar a { st.ar a with alarmEnable := on } } ∧
      ∀ k, Change tickInterval e st
        { st with ar := Function.update st.ar a { st.ar a with alarmEnable := on } } k := by
  refine ⟨hw.setAr _, fun k => .untouched ⟨fun _ => Iff.rfl, ?_⟩ rfl⟩
  show (Function.update st.ar a _ (arOf k)).alarmCrRequest = _
  by_cases hk : arOf k = a
  · rw [hk, Function.update_self]
  · rw [Function.update_of_ne hk]

theorem sendAlarm_changes (hw : Wired tickInterval st) (a : ℕ) (highPrio : Bool) (alarm : α)
    (payloadLen : ℕ) (hasPayload : Bool) :
    Wired tickInterval (st.sendAlarm a highPrio alarm payloadLen hasPayload).2 ∧
      ∀ k, Change tickInterval e st (st.sendAlarm a highPrio alarm payloadLen hasPayload).2 k := by
  have hsame : Wired tickInterval st ∧ ∀ k, Change tickInterval e st st k :=
    ⟨hw, fun k => .untouched ⟨fun _ => Iff.rfl, rfl⟩ rfl⟩
  unfold Stack.sendAlarm
  by_cases hen : (st.ar a).alarmEnable = false
  · rw [if_pos hen]
    exact hsame
  rw [if_neg hen]
  by_cases hmax : PNET_MAX_ALARM_PAYLOAD_DATA_SIZE < payloadLen
  · rw [if_pos hmax]
    exact hsame
  rw [if_neg hmax]
  by_cases hplc : (st.ar a).maxAlarmDataLength < payloadLen
  · rw [if_pos hplc]
    exact hsame
  rw [if_neg hplc]
  by_cases hnull : 0 < payloadLen ∧ hasPayload = false
  · rw [if_pos hnull]
    exact hsame
  rw [if_neg hnull]
  dsimp only
  generalize 2 * a + highPrio.toNat = j
  unfold Sender.sendQueuePost
  cases hq : (st.sender j).sendQueue with
  | none => exact setSender_changes hw id fun h hx => .untouched h hx
  | some q =>
    dsimp only [Option.elim_some]
    by_cases hfull : PNET_MAX_ALARMS ≤ q.length
    · rw [if_pos hfull]
      exact setSender_changes hw id fun h hx => .untouched h hx
    · rw [if_neg hfull]
      exact setSender_changes hw id fun h hx => .posts q alarm h hq hx

theorem frame_changes (hw : Wired tickInterval st) (j : ℕ) (pduType : Byte)
    (ackSeqNbr : BitVec 16) (he : e = .frame j pduType ackSeqNbr) :
    Wired tickInterval (st.setSender j ((st.sender j).apmsDataInd pduType ackSeqNbr)) ∧
      ∀ k, Change tickInterval e st
        (st.setSender j ((st.sender j).apmsDataInd pduType ackSeqNbr)) k := by
  unfold Sender.apmsDataInd
  by_cases htype : pduType = Alarm.PF_RTA_PDU_TYPE_ACK ∨ pduType = Alarm.PF_RTA_PDU_TYPE_DATA
  · rw [if_pos htype]
    by_cases hack : (st.sender j).apmsState = ApmsState.PF_APMS_STATE_WTACK ∧
        ackSeqNbr = (st.sender j).sendSeqCount
    · rw [if_pos hack]
      refine setSender_changes hw (fun _ => by rw [hack.1]; decide) fun h hx => ?_
      exact .tacks pduType ackSeqNbr _ _ h he htype hack.1 hack.2 hx
    · rw [if_neg hack]
      exact setSender_changes hw id fun h hx => .untouched h hx
  · rw [if_neg htype]
    exact setSender_changes hw id fun h hx => .untouched h hx

theorem notification_changes (hw : Wired tickInterval st) {j : ℕ}
    (h : st.alpmrDataInd j = some st') :
    Wired tickInterval st' ∧ ∀ k, Change tickInterval e st st' k := by
  unfold Stack.alpmrDataInd at h
  by_cases hstart : (st.sender j).alpmrState = AlpmrState.PF_ALPMR_STATE_W_START
  · rw [if_pos hstart] at h
    obtain rfl : st = st' := Option.some.inj h
    exact ⟨hw, fun k => .untouched ⟨fun _ => Iff.rfl, rfl⟩ rfl⟩
  · rw [if_neg hstart] at h
    by_cases hnotify : (st.sender j).alpmrState = AlpmrState.PF_ALPMR_STATE_W_NOTIFY
    · rw [if_pos hnotify] at h
      obtain rfl := Option.some.inj h
      exact setSender_changes hw id fun h hx => .idle _ _ h hx
    · rw [if_neg hnotify] at h
      exact abort_changes hw h

theorem call_changes (hw : Wired tickInterval st) {c : Call} (hc : resendTimeout.Foreign c)
    {s : St} (h : doCall st.sched c = some s) :
    Wired tickInterval { st with sched := s } ∧
      ∀ k, Change tickInterval e st { st with sched := s } k := by
  rcases hw.represents with ⟨q, hq⟩
  rcases doCall_represents hq h with ⟨q', hq', -⟩
  rcases hw.tidy.foreign hq hc h with ⟨ht, hsame⟩
  refine ⟨hw.setSched hq' ht hsame.tickInterval fun j => by rw [hsame.handles], fun k => ?_⟩
  exact .untouched ⟨hsame.runs k, rfl⟩ rfl

/-- After the request to send a DATA PDU, only ALPMI and ALPMR of its APMX may go on. -/
theorem request_changes (alpmi : Sender α → AlpmiState) (alpmr : Sender α → AlpmrState)
    (hw : Wired tickInterval st) {alarm : Option α} {env : Driver} {q : Option (List α)} {ret : ℤ}
    (hsends : sendsOn st e = some (k, env))
    (hq : (st.sender k).sendQueue.getD [] = alarm.toList ++ q.getD [])
    (hreq : (st.setSender k { st.sender k with sendQueue := q }).apmsApmsDataReq k alarm env =
      some (ret, st'))
    (halpmi : ret = -1 → alpmi (st'.sender k) = (st'.sender k).alpmiState) :
    let x := st'.sender k
    Wired tickInterval (st'.setSender k { x with alpmiState := alpmi x, alpmrState := alpmr x }) ∧
      ∀ j, Change tickInterval e st
        (st'.setSender k { x with alpmiState := alpmi x, alpmrState := alpmr x }) j := by
  have hself : (st.setSender k { st.sender k with sendQueue := q }).sender k =
      { st.sender k with sendQueue := q } := setSender_self _ _ _
  have hw1 : Wired tickInterval (st.setSender k { st.sender k with sendQueue := q }) :=
    hw.setSender fun h => hw.named k h
  rcases apmsApmsDataReq_spec hw1 hreq with ⟨hw', ⟨habort, hret⟩ | hopen⟩
  · -- the AR is gone, and what is stored afterwards is in the memory of a released AR
    rcases abort_spec hw1 (arOf k) with ⟨st1, hst1, -, hclosed, hothers⟩
    obtain rfl : st1 = st' := Option.some.inj (hst1.symm.trans habort)
    rcases hclosed k rfl with ⟨hzero, hless⟩
    refine ⟨hw'.setSender fun h => ?_, fun j => ?_⟩
    · rw [hzero] at h
      exact absurd rfl h
    · by_cases hj : j = k
      · subst hj
        refine .closes (alpmr (st1.sender j)) ((setSender_self _ _ _).trans ?_) hless
        rw [halpmi hret, hzero]
      · have hx := setSender_other hj st1
          { st1.sender k with
            alpmiState := alpmi (st1.sender k), alpmrState := alpmr (st1.sender k) }
        by_cases har : arOf j = arOf k
        · exact .closes _ (hx.trans (hclosed j har).1) (hclosed j har).2
        · refine .untouched ⟨(hothers j har).1.pending, (hothers j har).1.request⟩ ?_
          rw [hx, (hothers j har).2, setSender_other hj]
  · rcases hopen with ⟨hstate, har, hx, hother, r, hstarts⟩
    rw [hself] at hstate hx
    have hxk : st'.sender k =
        { st.sender k with sendQueue := q }.sending (st.ar (arOf k)) alarm env := by
      rw [hx]
      exact Function.update_self _ _ _
    refine ⟨hw'.setSender fun _ => hw'.named k ?_, fun j => ?_⟩
    · rw [hxk]
      exact sending_open _ _ _ _
    · by_cases hj : j = k
      · subst hj
        refine .sends alarm env q (alpmi (st'.sender j)) (alpmr (st'.sender j)) r hsends hstate hq
          ?_ ?_ ?_
        · show (st'.ar (arOf j)).alarmCrRequest = _
          rw [har]
          rfl
        · rw [setSender_self, hxk]
        · unfold Starts at hstarts ⊢
          rw [hself] at hstarts
          exact hstarts
      · refine .untouched ⟨hother j hj, ?_⟩ ?_
        · show (st'.ar (arOf j)).alarmCrRequest = _
          rw [har]
          rfl
        · rw [setSender_other hj, hx, Function.update_of_ne hj]
          exact setSender_other hj _ _

/-- `nextAlarm` finds an alarm at the head of a queue. -/
theorem nextAlarm_queue {a : ℕ} {r : ℕ × α} (h : st.nextAlarm a = some r) :
    (st.sender r.1).sendQueue.getD [] =
      (some r.2).toList ++ ((st.sender r.1).sendQueue.map List.tail).getD [] := by
  have hhead {x : Sender α} {alarm : α} (hx : x.next = some alarm) :
      x.sendQueue.getD [] = (some alarm).toList ++ (x.sendQueue.map List.tail).getD [] := by
    unfold Sender.next at hx
    by_cases hstate : x.alpmiState = AlpmiState.PF_ALPMI_STATE_W_ALARM
    · rw [if_pos hstate] at hx
      rcases Option.bind_eq_some_iff.mp hx with ⟨queue, hqueue, hfirst⟩
      rw [hqueue]
      exact List.eq_cons_of_mem_head? hfirst
    · rw [if_neg hstate] at hx
      cases hx
  unfold Stack.nextAlarm at h
  by_cases hen : (st.ar a).inUse = true ∧ (st.ar a).alarmEnable = true
  · rw [if_pos hen] at h
    rcases Option.or_eq_some_iff.mp h with h | ⟨-, h⟩
    · rcases Option.map_eq_some_iff.mp h with ⟨alarm, halarm, rfl⟩
      exact hhead halarm
    · rcases Option.map_eq_some_iff.mp h with ⟨alarm, halarm, rfl⟩
      exact hhead halarm
  · rw [if_neg hen] at h
    cases h

theorem periodic_changes (hw : Wired tickInterval st) {a : ℕ} {env : Driver}
    (he : e = .periodic a env) (h : st.almpiPeriodic a env = some st') :
    Wired tickInterval st' ∧ ∀ k, Change tickInterval e st st' k := by
  unfold Stack.almpiPeriodic at h
  cases hnext : st.nextAlarm a with
  | none =>
    rw [hnext] at h
    obtain rfl : st = st' := Option.some.inj h
    exact ⟨hw, fun k => .untouched ⟨fun _ => Iff.rfl, rfl⟩ rfl⟩
  | some r =>
    rw [hnext] at h
    dsimp only [Option.elim_some] at h
    have hsends : sendsOn st e = some (r.1, env) := by
      rw [he, sendsOn, hnext, Option.map_some]
    rcases Option.map_eq_some_iff.mp h with ⟨⟨ret, st1⟩, hreq, rfl⟩
    -- ALPMI goes on when the request has succeeded
    have hgoes := request_changes
      (fun x => if ret = 0 then .PF_ALPMI_STATE_W_ACK else x.alpmiState) (fun x => x.alpmrState)
      hw hsends (nextAlarm_queue hnext) hreq (by rintro rfl; rfl)
    by_cases hret : ret = 0
    · simp only [if_pos hret] at hgoes ⊢
      exact hgoes
    · simp only [if_neg hret] at hgoes ⊢
      rwa [show st1.setSender r.1 (st1.sender r.1) = st1 from ?_] at hgoes
      unfold Stack.setSender
      rw [Function.update_eq_self]

theorem alarmAck_changes (hw : Wired tickInterval st) {a : ℕ} {env : Driver}
    (he : e = .alarmAck a env) (h : st.alarmAck a env = some st') :
    Wired tickInterval st' ∧ ∀ k, Change tickInterval e st st' k := by
  unfold Stack.alarmAck at h
  by_cases hstate : (st.sender (2 * a + 1)).alpmrState = AlpmrState.PF_ALPMR_STATE_W_USER_ACK
  · dsimp only at h
    rw [if_pos hstate] at h
    have hsends : sendsOn st e = some (2 * a + 1, env) := by
      rw [he, sendsOn, if_pos hstate]
    rcases Option.map_eq_some_iff.mp h with ⟨⟨ret, st1⟩, hreq, rfl⟩
    have hsame : st.setSender (2 * a + 1)
        { st.sender (2 * a + 1) with sendQueue := (st.sender (2 * a + 1)).sendQueue } = st := by
      unfold Stack.setSender
      rw [Function.update_eq_self]
    exact request_changes (fun x => x.alpmiState) (fun _ => .PF_ALPMR_STATE_W_TACK) hw
      hsends (List.nil_append _).symm (by rwa [hsame]) fun _ => rfl
  · dsimp only at h
    rw [if_neg hstate] at h
    obtain rfl : st = st' := Option.some.inj h
    exact ⟨hw, fun k => .untouched ⟨fun _ => Iff.rfl, rfl⟩ rfl⟩

/-! ## Rounds -/

/-- After its first step, the call-back works in the state `st1`. -/
theorem apmsTimeout_eq {st1 : Stack α} (tick : Time) (env : Driver)
    (hst1 : { st with sched := pfSchedulerResetHandle st.sched (resendTimeout.handle k) } = st1) :
    st.apmsTimeout k tick env =
      if (st1.sender k).apmsState = ApmsState.PF_APMS_STATE_WTACK then
        (st1.sender k).rta.elim (some st1) fun pdu =>
          if 0 < (st1.sender k).resendCounter then
            ((st1.setSender k ((st1.sender k).resend (st1.ar (arOf k)).transportUdp pdu tick
              env)).startTimer k env.now).map Prod.snd
          else
            (st1.setSender k { st1.sender k with apmsState := .PF_APMS_STATE_OPEN }).abort (arOf k)
      else some (st1.setSender k { st1.sender k with rta := none }) := by
  rw [← hst1]
  rfl

/-- The call-back of a resend timeout, of which `fired` is the timer. -/
theorem apmsTimeout_changes {s : St} {q : List Timer} {fired : Timer} {tick : Time} {env : Driver}
    (hw : Wired tickInterval { st with sched := pfSchedulerResetHandle s (resendTimeout.handle k) })
    (hq : Represents s q) (hfree : s.free < PF_MAX_TIMEOUTS) (hfired : st.Pending k fired)
    (hexpired : 0 ≤ diff tick fired.when)
    (hself : ∀ t, resendTimeout.Runs (pfSchedulerResetHandle s (resendTimeout.handle k)) k t ↔
      st.Pending k t ∧ t ≠ fired)
    (hother : ∀ j, j ≠ k → ∀ t,
      resendTimeout.Runs (pfSchedulerResetHandle s (resendTimeout.handle k)) j t ↔ st.Pending j t)
    (h : { st with sched := s }.apmsTimeout k tick env = some st') :
    Wired tickInterval st' ∧ ∀ j, Change tickInterval e st st' j := by
  generalize hst1 : ({ st with sched := pfSchedulerResetHandle s (resendTimeout.handle k) } :
    Stack α) = st1 at hw
  rw [apmsTimeout_eq tick env hst1] at h
  have hx1 : st1.sender = st.sender := by rw [← hst1]
  have har1 : st1.ar = st.ar := by rw [← hst1]
  have hself1 (t : Timer) : st1.Pending k t ↔ st.Pending k t ∧ t ≠ fired := by
    rw [← hst1]
    exact hself t
  have hother1 (j : ℕ) (hj : j ≠ k) (t : Timer) : st1.Pending j t ↔ st.Pending j t := by
    rw [← hst1]
    exact hother j hj t
  have hfree1 : st1.sched.free < PF_MAX_TIMEOUTS := by
    rw [← hst1]
    exact hfree
  -- the frame is not sent again, and no timer is started
  have hdrops (x : Sender α) (hx : x = { st.sender k with rta := none })
      (hstate : (st.sender k).apmsState = ApmsState.PF_APMS_STATE_WTACK →
        (st.sender k).rta = none) :
      Wired tickInterval (st1.setSender k x) ∧
        ∀ j, Change tickInterval e st (st1.setSender k x) j := by
    refine ⟨hw.setSender fun hopen => hw.named k ?_, fun j => ?_⟩
    · rw [hx1]
      rwa [hx] at hopen
    · by_cases hj : j = k
      · subst hj
        refine .drops fired hfired ?_ ((setSender_self _ _ _).trans hx) hstate hself1
        show (st1.ar (arOf j)).alarmCrRequest = _
        rw [har1]
      · refine .untouched ⟨hother1 j hj, ?_⟩ ((setSender_other hj _ _).trans (by rw [hx1]))
        show (st1.ar (arOf j)).alarmCrRequest = _
        rw [har1]
  rw [hx1, har1] at h
  by_cases hstate : (st.sender k).apmsState = ApmsState.PF_APMS_STATE_WTACK
  · rw [if_pos hstate] at h
    cases hrta : (st.sender k).rta with
    | none =>
      rw [hrta] at h
      obtain rfl : st1 = st' := Option.some.inj h
      have hnone := hdrops (st.sender k)
        (by rw [← hrta]) fun _ => hrta
      rwa [show st1.setSender k (st.sender k) = st1 by
        rw [← hx1, Stack.setSender, Function.update_eq_self]] at hnone
    | some pdu =>
      rw [hrta] at h
      dsimp only [Option.elim_some] at h
      by_cases hcounter : 0 < (st.sender k).resendCounter
      · rw [if_pos hcounter] at h
        rcases Option.map_eq_some_iff.mp h with ⟨⟨ret, st2⟩, hstart, rfl⟩
        generalize hx : (st.sender k).resend (st.ar (arOf k)).transportUdp pdu tick env = x at hstart
        have hopen : x.apmsState ≠ ApmsState.PF_APMS_STATE_CLOSED := by
          rw [← hx]
          show (st.sender k).apmsState ≠ _
          rw [hstate]
          decide
        have htimeout : x.timeoutUs = (st.sender k).timeoutUs := by rw [← hx]; rfl
        have hw2 := hw.setSender (k := k) (x := x) fun _ => hw.named k (by
          rw [hx1, hstate]
          decide)
        have hset : (st1.setSender k x).sender k = x := setSender_self _ _ _
        rcases startTimer_spec hw2 (by rwa [hset]) hstart with ⟨hw3, hx3, har3, hother3, hstarts⟩
        refine ⟨hw3, fun j => ?_⟩
        by_cases hj : j = k
        · subst hj
          -- the entry of the fired timer is free again
          rcases hstarts with ⟨hfull, -⟩ | ⟨-, -, new, hnew, hpending⟩
          · exact absurd hfree1 (Nat.not_lt.mpr hfull)
          · refine .resends fired new pdu tick env hfired hexpired ?_ hstate hrta hcounter ?_ ?_ ?_
            · show (st2.ar (arOf j)).alarmCrRequest = _
              rw [har3, ← har1]
              rfl
            · rw [hx3, hset, hx]
            · rw [hnew, hset, htimeout]
            · intro t
              rw [hpending]
              exact or_congr_right (hself1 t)
        · refine .untouched ⟨fun t => (hother3 j hj t).trans (hother1 j hj t), ?_⟩ ?_
          · show (st2.ar (arOf j)).alarmCrRequest = _
            rw [har3, ← har1]
            rfl
          · rw [hx3, setSender_other hj, hx1]
      · rw [if_neg hcounter] at h
        have hw2 := hw.setSender (k := k)
          (x := { st.sender k with apmsState := .PF_APMS_STATE_OPEN }) fun _ => hw.named k (by
            rw [hx1, hstate]
            decide)
        rcases abort_spec hw2 (arOf k) with ⟨st2, hst2, hw3, hclosed, hothers⟩
        obtain rfl : st2 = st' := Option.some.inj (hst2.symm.trans h)
        refine ⟨hw3, fun j => ?_⟩
        by_cases har : arOf j = arOf k
        · refine .closes _ (hclosed j har).1 fun t ht => ?_
          have ht1 : st1.Pending j t := (hclosed j har).2 t ht
          by_cases hj : j = k
          · rw [hj] at ht1 ⊢
            exact ((hself1 t).mp ht1).1
          · exact (hother1 j hj t).mp ht1
        · have hj : j ≠ k := fun heq => har (by rw [heq])
          refine .untouched ⟨fun t => ((hothers j har).1.pending t).trans (hother1 j hj t), ?_⟩ ?_
          · rw [(hothers j har).1.request]
            show (st1.ar (arOf j)).alarmCrRequest = _
            rw [har1]
          · rw [(hothers j har).2, setSender_other hj, hx1]
  · rw [if_neg hstate] at h
    obtain rfl := Option.some.inj h
    exact hdrops _ rfl fun hwait => absurd hwait hstate

theorem round_changes (hw : Wired tickInterval st) {tick : Time} {env : Driver}
    (h : st.round tick env = some st') :
    Wired tickInterval st' ∧ ∀ k, Change tickInterval e st st' k := by
  unfold Stack.round at h
  cases hexp : expired st.sched tick with
  | false =>
    rw [hexp] at h
    obtain rfl : st = st' := Option.some.inj h
    exact ⟨hw, fun k => .untouched ⟨fun _ => Iff.rfl, rfl⟩ rfl⟩
  | true =>
    rw [hexp, if_pos rfl] at h
    rcases hw.represents with ⟨q, hq⟩
    rcases hw.tidy.fire hq hexp with ⟨s1, q1, hs1, hq1, hfree, hdue, hforeign, hown⟩
    rw [hs1, Option.bind_some] at h
    dsimp only at h
    by_cases hcb : (st.sched.timeouts st.sched.first).job.cb = apmsTimeoutCb
    · rw [if_pos hcb] at h
      generalize hk : (st.sched.timeouts st.sched.first).job.arg = k at h
      have hjob : (timerAt st.sched st.sched.first).job = resendTimeout.job k := by
        show (st.sched.timeouts st.sched.first).job = ⟨apmsTimeoutCb, k⟩
        rw [← hcb, ← hk]
      rcases hown k hjob with ⟨hfired, ht, ho, hself⟩
      exact apmsTimeout_changes (hw.only (hq1.setHandle _ _) ht ho) hq1 hfree hfired hdue hself
        ho.runs h
    · rw [if_neg hcb] at h
      obtain rfl := Option.some.inj h
      rcases hforeign hcb with ⟨ht, hsame⟩
      refine ⟨hw.setSched hq1 ht hsame.tickInterval fun j => by rw [hsame.handles], fun k => ?_⟩
      exact .untouched ⟨hsame.runs k, rfl⟩ rfl

/-! ## Steps and runs -/

theorem step_changes (hw : Wired tickInterval st) (h : step st e = some st') :
    Wired tickInterval st' ∧ ∀ k, Change tickInterval e st st' k := by
  cases e with
  | connect a request =>
    obtain rfl := Option.some.inj h
    exact connect_changes hw a request
  | enable a on =>
    obtain rfl := Option.some.inj h
    exact enable_changes hw a on
  | send a highPrio alarm payloadLen hasPayload =>
    obtain rfl := Option.some.inj h
    exact sendAlarm_changes hw a highPrio alarm payloadLen hasPayload
  | periodic a env => exact periodic_changes hw rfl h
  | alarmAck a env => exact alarmAck_changes hw rfl h
  | frame k pduType ackSeqNbr =>
    obtain rfl := Option.some.inj h
    exact frame_changes hw k pduType ackSeqNbr rfl
  | ack k =>
    obtain rfl := Option.some.inj h
    exact setSender_changes hw id fun hidle hx => .idle _ _ hidle hx
  | notification k => exact notification_changes hw h
  | abort a => exact abort_changes hw h
  | call c foreign =>
    rcases Option.map_eq_some_iff.mp h with ⟨s, hs, rfl⟩
    exact call_changes hw foreign hs
  | round tick env => exact round_changes hw h

theorem init_wired (h : Stack.init tickInterval = some st) :
    Wired tickInterval st ∧ st.sender = (fun _ => .zero) ∧ ∀ k t, ¬ st.Pending k t := by
  rcases Option.map_eq_some_iff.mp h with ⟨s, hs, rfl⟩
  have hq := init_completes hs
  have hempty : pending s = [] := hq.pending_eq
  have hblank : s.handles = blank.handles ∧ s.tickInterval = tickInterval := by
    unfold pfSchedulerInit at hs
    by_cases ht : 0#32 < tickInterval
    · rw [if_neg (not_not_intro ht)] at hs
      rcases Option.map_eq_some_iff.mp hs with ⟨r, -, rfl⟩
      exact ⟨rfl, rfl⟩
    · rw [if_pos ht] at hs
      cases hs
  refine ⟨⟨⟨_, hq⟩, ⟨?_, ?_, ?_⟩, hblank.2, ?_⟩, rfl, ?_⟩
  · intro h _
    rw [hblank.1]
    exact nofun
  · intro t ht
    rw [hempty] at ht
    cases ht
  · intro i
    rw [hblank.1]
    exact .inr (.inl rfl)
  · intro k hk
    exact absurd rfl hk
  · intro k t ht
    have hmem : t ∈ pending s := ht.1
    rw [hempty] at hmem
    cases hmem

/-- An invariant of one APMX, along a run. -/
theorem run_invariant (p : Stack α → Event α → Prop) (inv : Stack α → Prop)
    (hstep : ∀ st st' e, Wired tickInterval st → p st e → (∀ k, Change tickInterval e st st' k) →
      inv st → inv st') {es : List (Event α)} (hw : Wired tickInterval st) (hinv : inv st)
    (halong : Along p st es) (h : runFrom st es = some st') : inv st' := by
  induction es generalizing st with
  | nil =>
    obtain rfl : st = st' := Option.some.inj h
    exact hinv
  | cons e es ih =>
    rcases Option.bind_eq_some_iff.mp h with ⟨st1, hst1, hrest⟩
    rcases step_changes hw hst1 with ⟨hw1, hchange⟩
    exact ih hw1 (hstep st st1 e hw halong.1 hchange hinv) (halong.2 st1 hst1) hrest

end

end PNet.Apms
