import PNet.Alarm.Retransmit

/-! # No alarm is lost

An alarm that has been accepted waits in its queue, then is the one in flight, and then has been
acknowledged, in the order in which the alarms have been accepted. An alarm leaves its queue before
its frame is built and its timer is started, and APMS waits for a TACK even when that has failed. So
all of them are kept in runs in which nothing of it fails, and in which a TACK is one for a frame
that has gone out.
-/

namespace PNet.Apms

open Scheduler

variable {α : Type}

/-! ## Where the alarms are -/

/-- The Ethernet driver has taken a frame of the PDU. -/
def Note.goesOut (n : ℕ) : Note α → Bool
  | .first pdu _ taken => pdu.number = n ∧ taken = true
  | .again pdu _ _ taken => pdu.number = n ∧ taken = true
  | .tack _ => false

def WentOut (notes : List (Note α)) (n : ℕ) : Prop := notes.any (Note.goesOut n) = true

/-- The alarms that have been acknowledged, in the order of their TACKs. -/
def acknowledged : List (Note α) → List α
  | [] => []
  | .tack pdu :: notes => acknowledged notes ++ pdu.alarm.toList
  | .first _ _ _ :: notes => acknowledged notes
  | .again _ _ _ _ :: notes => acknowledged notes

/-- What has been acknowledged had gone out before. -/
def Confirmed : List (Note α) → Prop
  | [] => True
  | .tack pdu :: notes => WentOut notes pdu.number ∧ Confirmed notes
  | .first _ _ _ :: notes => Confirmed notes
  | .again _ _ _ _ :: notes => Confirmed notes

/-- The alarm in flight. -/
def Sender.inFlight (x : Sender α) : List α := (x.rta.bind Pdu.alarm).toList

/-- As long as the AR is not aborted, each accepted alarm has been acknowledged, is in flight or is
in the queue. -/
structure AlarmsKept (st : Stack α) (k : ℕ) : Prop where
  accounted : (st.sender k).apmsState ≠ .PF_APMS_STATE_CLOSED → (st.sender k).accepted =
    acknowledged (st.sender k).notes ++ (st.sender k).inFlight ++
      (st.sender k).sendQueue.getD []
  confirmed : Confirmed (st.sender k).notes
  flying : (st.sender k).rta.isSome = true ↔ (st.sender k).apmsState = .PF_APMS_STATE_WTACK
  timed : (st.sender k).apmsState = .PF_APMS_STATE_WTACK → ∃ t, st.Pending k t

/-- The APMS that takes the PDU for the TACK it waits for. -/
def tacksOn (st : Stack α) : Event α → Option ℕ
  | .frame k pduType ackSeqNbr =>
    if (pduType = Alarm.PF_RTA_PDU_TYPE_ACK ∨ pduType = Alarm.PF_RTA_PDU_TYPE_DATA) ∧
        ackSeqNbr = (st.sender k).sendSeqCount then some k
    else none
  | _ => none

/-- When the step sends a new DATA PDU, there is a frame buffer, and a timer that is pending already
or a free entry for one; and when a TACK comes, the frame has gone out. -/
def Provided (st : Stack α) (e : Event α) : Prop :=
  (∀ k env, sendsOn st e = some (k, env) → (st.sender k).apmsState = .PF_APMS_STATE_OPEN →
    (st.ar (arOf k)).transportUdp = false ∧ env.hasBuffer = true ∧
      (st.sched.free < PF_MAX_TIMEOUTS ∨ ∃ t, st.Pending k t)) ∧
  ∀ k, tacksOn st e = some k →
    ∀ pdu, (st.sender k).rta = some pdu → WentOut (st.sender k).notes pdu.number

instance (st : Stack α) (e : Event α) : Decidable (Provided st e) :=
  decidable_of_iff
    ((∀ r ∈ sendsOn st e, (st.sender r.1).apmsState = .PF_APMS_STATE_OPEN →
      (st.ar (arOf r.1)).transportUdp = false ∧ r.2.hasBuffer = true ∧
        (st.sched.free < PF_MAX_TIMEOUTS ∨ ∃ t ∈ pending st.sched, t.job = resendTimeout.job r.1)) ∧
      ∀ k ∈ tacksOn st e, ∀ pdu ∈ (st.sender k).rta,
        (st.sender k).notes.any (Note.goesOut pdu.number) = true)
    ⟨fun h => ⟨fun k env => h.1 (k, env), h.2⟩, fun h => ⟨fun r => h.1 r.1 r.2, h.2⟩⟩

/-- In all states of all runs of the events, the alarms of all APMXs are kept. -/
def KeepsAlarms (tickInterval : Time) (es : List (Event α)) : Prop :=
  ∀ st, runInit tickInterval es = some st → ∀ k, AlarmsKept st k

section
variable {tickInterval : Time} {st st' : Stack α} {e : Event α} {k : ℕ}

/-! ## Steps and runs -/

/-- A new sender has accepted no alarm. -/
theorem AlarmsKept.new (haccepted : (st.sender k).accepted = [])
    (hnotes : (st.sender k).notes = []) (hrta : (st.sender k).rta = none)
    (hqueue : (st.sender k).sendQueue.getD [] = [])
    (hstate : (st.sender k).apmsState ≠ .PF_APMS_STATE_WTACK) : AlarmsKept st k := by
  refine ⟨fun _ => ?_, ?_, ?_, fun h => absurd h hstate⟩
  · rw [haccepted, hnotes, Sender.inFlight, hrta, hqueue]
    rfl
  · rw [hnotes]
    trivial
  · rw [hrta]
    exact ⟨nofun, fun h => absurd h hstate⟩

/-- A request with a buffer builds the frame. -/
theorem sending_built {x : Sender α} {ar : Ar} {alarm : Option α} {env : Driver}
    (hrta : x.rta = none) (hudp : ar.transportUdp = false) (hbuffer : env.hasBuffer = true) :
    x.sending ar alarm env =
      { x with
        apmsState := .PF_APMS_STATE_WTACK
        resendCounter := ar.rtaRetries
        pdus := x.pdus + 1
        notes := .first ⟨x.pdus, x.sendSeqCount, alarm⟩ env.now env.takes :: x.notes
        rta := some ⟨x.pdus, x.sendSeqCount, alarm⟩ } := by
  unfold Sender.sending Sender.apmsDataReq
  rw [if_neg (by simp [hudp, hbuffer]), hrta]
  rfl

theorem AlarmsKept.change (h : AlarmsKept st k) (hprovided : Provided st e)
    (hc : Change tickInterval e st st' k) : AlarmsKept st' k := by
  cases hc with
  | idle alpmi alpmr hidle hx =>
    refine ⟨?_, ?_, ?_, ?_⟩
    · rw [hx]
      exact h.accounted
    · rw [hx]
      exact h.confirmed
    · rw [hx]
      exact h.flying
    · rw [hx]
      intro hstate
      rcases h.timed hstate with ⟨t, ht⟩
      exact ⟨t, (hidle.pending t).mpr ht⟩
  | posts q alarm hidle hq hx =>
    refine ⟨?_, ?_, ?_, ?_⟩
    · rw [hx]
      intro hopen
      have hold := h.accounted hopen
      rw [hq, Option.getD_some] at hold
      show (st.sender k).accepted ++ [alarm] =
        acknowledged (st.sender k).notes ++ (st.sender k).inFlight ++ (q ++ [alarm])
      rw [hold, List.append_assoc _ q]
    · rw [hx]
      exact h.confirmed
    · rw [hx]
      exact h.flying
    · rw [hx]
      intro hstate
      rcases h.timed hstate with ⟨t, ht⟩
      exact ⟨t, (hidle.pending t).mpr ht⟩
  | tacks pduType ackSeqNbr seq alpmr hidle he htype hstate hack hx =>
    rcases Option.isSome_iff_exists.mp (h.flying.mpr hstate) with ⟨pdu, hpdu⟩
    have htack : tacksOn st e = some k := by
      rw [he]
      exact if_pos ⟨htype, hack⟩
    have hout := hprovided.2 k htack pdu hpdu
    refine ⟨?_, ?_, ?_, ?_⟩
    · rw [hx]
      intro _
      have hold := h.accounted (by rw [hstate]; decide)
      rw [Sender.inFlight, hpdu, Option.bind_some] at hold
      dsimp only
      rw [hpdu, Option.elim_some, acknowledged, hold]
      show _ = acknowledged (st.sender k).notes ++ pdu.alarm.toList ++ [] ++ _
      rw [List.append_nil]
    · rw [hx, hpdu]
      exact ⟨hout, h.confirmed⟩
    · rw [hx]
      exact ⟨nofun, nofun⟩
    · rw [hx]
      exact nofun
  | opens request hx hpending =>
    exact .new (by rw [hx]; rfl) (by rw [hx]; rfl) (by rw [hx]; rfl) (by rw [hx]; rfl)
      (by rw [hx]; exact nofun)
  | closes alpmr hx hpending =>
    exact .new (by rw [hx]; rfl) (by rw [hx]; rfl) (by rw [hx]; rfl) (by rw [hx]; rfl)
      (by rw [hx]; exact nofun)
  | sends alarm env q alpmi alpmr ret he hstate hq hrequest hx hpending =>
    rcases hprovided.1 k env he hstate with ⟨hudp, hbuffer, htimer⟩
    have hrta : (st.sender k).rta = none := by
      rw [← Option.not_isSome_iff_eq_none, h.flying, hstate]
      decide
    rw [sending_built (x := { st.sender k with sendQueue := q }) hrta hudp hbuffer] at hx
    refine ⟨?_, ?_, ?_, ?_⟩
    · rw [hx]
      intro _
      have hold := h.accounted (by rw [hstate]; decide)
      rw [Sender.inFlight, hrta, hq] at hold
      show (st.sender k).accepted =
        acknowledged (st.sender k).notes ++ alarm.toList ++ q.getD []
      rw [hold, List.append_assoc _ alarm.toList]
      show acknowledged (st.sender k).notes ++ [] ++ _ = _
      rw [List.append_nil]
    · rw [hx]
      exact h.confirmed
    · rw [hx]
      exact ⟨fun _ => rfl, fun _ => rfl⟩
    · intro _
      rcases hpending with ⟨hfull, -, hsame⟩ | ⟨-, -, new, -, hpending⟩
      · rcases htimer with hfree | ⟨t, ht⟩
        · exact absurd hfree (Nat.not_lt.mpr hfull)
        · exact ⟨t, (hsame t).mpr ht⟩
      · exact ⟨new, (hpending new).mpr (.inl rfl)⟩
  | drops fired hfired hrequest hx hstate hpending =>
    -- in WTACK there is a frame, so that the timer has not fired there
    have hidle : (st.sender k).apmsState ≠ .PF_APMS_STATE_WTACK := by
      intro hwait
      have hsome := h.flying.mpr hwait
      rw [hstate hwait] at hsome
      cases hsome
    have hrta : (st.sender k).rta = none := by
      rw [← Option.not_isSome_iff_eq_none, h.flying]
      exact hidle
    have hsame : st'.sender k = st.sender k := by rw [hx, ← hrta]
    refine ⟨?_, ?_, ?_, ?_⟩
    · rw [hsame]
      exact h.accounted
    · rw [hsame]
      exact h.confirmed
    · rw [hsame]
      exact h.flying
    · rw [hsame]
      exact fun hwait => absurd hwait hidle
  | resends fired new pdu tick env hfired hexpired hrequest hstate hrta hcounter hx hnew hpending =>
    have hnotes : acknowledged (st'.sender k).notes = acknowledged (st.sender k).notes ∧
        (Confirmed (st.sender k).notes → Confirmed (st'.sender k).notes) := by
      rw [hx]
      unfold Sender.resend
      by_cases hudp : (st.ar (arOf k)).transportUdp = true
      · rw [if_pos hudp]
        exact ⟨rfl, id⟩
      · rw [if_neg hudp]
        exact ⟨rfl, id⟩
    refine ⟨?_, hnotes.2 h.confirmed, ?_, fun _ => ⟨new, (hpending new).mpr (.inl rfl)⟩⟩
    · intro hopen
      rw [hnotes.1, hx]
      rw [hx] at hopen
      exact h.accounted hopen
    · rw [hx]
      exact h.flying

/-- In a run in which all that a DATA PDU needs is provided, no alarm is lost. -/
theorem alarmsKept_of_provided (tickInterval : Time) (es : List (Event α))
    (hprovided : ∀ st, Stack.init tickInterval = some st → Along Provided st es) :
    KeepsAlarms tickInterval es := by
  intro st hrun k
  rcases Option.bind_eq_some_iff.mp hrun with ⟨st0, hst0, hes⟩
  rcases init_wired hst0 with ⟨hw, hx, -⟩
  have hinit (k : ℕ) : AlarmsKept st0 k :=
    .new (by rw [hx]; rfl) (by rw [hx]; rfl) (by rw [hx]; rfl) (by rw [hx]; rfl)
      (by rw [hx]; exact nofun)
  exact run_invariant Provided (fun st : Stack α => ∀ k, AlarmsKept st k)
    (fun _ _ _ _ hp hc h k => (h k).change hp (hc k)) hw hinit (hprovided st0 hst0) hes k

end

/-! ## With and without a buffer -/

open TwoAlarms in
/-- Two alarms, of which the first has been acknowledged. -/
theorem alarmsKept_of_provided_early :
    (runInit 1000#32 early).map (fun st => acknowledged (st.sender 0).notes) = some [7] ∧
      KeepsAlarms 1000#32 early := by
  refine ⟨by decide +kernel, alarmsKept_of_provided 1000#32 early ?_⟩
  have hall : (Stack.init 1000#32).all (fun st => decide (Along Provided st early)) = true := by
    decide +kernel
  intro st hst
  rw [hst] at hall
  exact of_decide_eq_true hall

namespace NoBuffer

def events : List (Event ℕ) :=
  [.connect 0 TwoAlarms.request, .enable 0 true, .send 0 false 7 0 false,
    .periodic 0 ⟨false, true, 0#32⟩]

theorem runs : (runInit 1000#32 events).map (fun st =>
    ((st.sender 0).apmsState, (st.sender 0).rta)) = some (.PF_APMS_STATE_WTACK, none) := by
  decide +kernel

end NoBuffer

open NoBuffer in
/-- APMS waits for the TACK of an alarm that has left the queue and has no frame. -/
theorem not_alarmsKept_noBuffer : ¬ KeepsAlarms 1000#32 events := by
  intro h
  rcases Option.map_eq_some_iff.mp runs with ⟨st, hrun, hshows⟩
  rcases Prod.mk.inj hshows with ⟨hstate, hrta⟩
  have hsome := (h st hrun 0).flying.mpr hstate
  rw [hrta] at hsome
  cases hsome

end PNet.Apms
