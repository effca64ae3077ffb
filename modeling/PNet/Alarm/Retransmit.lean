import PNet.Alarm.Changes

/-! # The law of retransmission

A DATA PDU is sent again only after the RTA timeout, without its TACK, and at most `rta_retries`
times; the next one waits for that TACK. It is so in runs in which no resend timer is pending when a
new DATA PDU is sent. The TACK does not stop the timer, so that condition is one on the traffic.
-/

namespace PNet.Apms

open Scheduler

variable {α : Type}

/-! ## The notes of an APMS -/

namespace Note

/-- The number of the PDU. -/
def number : Note α → ℕ
  | .first pdu _ _ => pdu.number
  | .again pdu _ _ _ => pdu.number
  | .tack pdu => pdu.number

/-- When it was sent, for the first time or again. -/
def sentAt (n : ℕ) : Note α → Option Time
  | .first pdu time _ => if pdu.number = n then some time else none
  | .again pdu _ time _ => if pdu.number = n then some time else none
  | .tack _ => none

def isFirst (n : ℕ) : Note α → Bool
  | .first pdu _ _ => pdu.number = n
  | _ => false

def isAgain (n : ℕ) : Note α → Bool
  | .again pdu _ _ _ => pdu.number = n
  | _ => false

def isTack (n : ℕ) : Note α → Bool
  | .tack pdu => pdu.number = n
  | _ => false

end Note

/-- The last transmission of a PDU. -/
def lastSent (notes : List (Note α)) (n : ℕ) : Option Time := notes.findSome? (Note.sentAt n)

def Begun (notes : List (Note α)) (n : ℕ) : Prop := notes.any (Note.isFirst n) = true

def Tacked (notes : List (Note α)) (n : ℕ) : Prop := notes.any (Note.isTack n) = true

/-- How often a PDU has been sent again. -/
def repeats (notes : List (Note α)) (n : ℕ) : ℕ := notes.countP (Note.isAgain n)

/-- What may happen after `before`. -/
def Allowed (timeout : Time) (retries : ℕ) (before : List (Note α)) : Note α → Prop
  | .first pdu _ _ => ¬ Begun before pdu.number ∧ ∀ n, Begun before n → Tacked before n
  | .again pdu tick _ _ => ¬ Tacked before pdu.number ∧ repeats before pdu.number < retries ∧
      ∃ t, lastSent before pdu.number = some t ∧ 0 ≤ diff tick (t + timeout)
  | .tack pdu => Begun before pdu.number

def Lawful (timeout : Time) (retries : ℕ) : List (Note α) → Prop
  | [] => True
  | note :: before => Allowed timeout retries before note ∧ Lawful timeout retries before

/-- At most one resend timeout of the APMX is pending, and all that has happened to its PDUs was
allowed when it happened. -/
structure RetransmissionLaw (tickInterval : Time) (st : Stack α) (k : ℕ) : Prop where
  oneTimer : ∀ t t', st.Pending k t → st.Pending k t' → t = t'
  lawful : Lawful (rtaTimeout tickInterval (st.sender k).timeoutUs) (st.ar (arOf k)).rtaRetries
    (st.sender k).notes

/-- When the step sends a new DATA PDU, no resend timeout of its APMX is pending. -/
def Quiet (st : Stack α) (e : Event α) : Prop :=
  ∀ k env, sendsOn st e = some (k, env) → (st.sender k).apmsState = .PF_APMS_STATE_OPEN →
    ∀ t, ¬ st.Pending k t

instance (st : Stack α) (e : Event α) : Decidable (Quiet st e) :=
  decidable_of_iff (∀ r ∈ sendsOn st e, (st.sender r.1).apmsState = .PF_APMS_STATE_OPEN →
      ∀ t ∈ pending st.sched, t.job ≠ resendTimeout.job r.1)
    ⟨fun h k env hsends hopen t ht => h (k, env) hsends hopen t ht.1 ht.2,
      fun h r hsends hopen t ht hjob => h r.1 r.2 hsends hopen t ⟨ht, hjob⟩⟩

/-- All runs of the events keep the law, on all APMXs. -/
def KeepsRetransmissionLaw (tickInterval : Time) (es : List (Event α)) : Prop :=
  ∀ st, runInit tickInterval es = some st → ∀ k, RetransmissionLaw tickInterval st k

/-! ## The invariant -/

/-- The frame `pdu` is kept for retransmission. -/
structure Waiting (timeout : Time) (ar : Ar) (pending : Timer → Prop) (x : Sender α)
    (pdu : Pdu α) : Prop where
  begun : Begun x.notes pdu.number
  untacked : ¬ Tacked x.notes pdu.number
  others : ∀ n, Begun x.notes n → n = pdu.number ∨ Tacked x.notes n
  counter : x.resendCounter + repeats x.notes pdu.number ≤ ar.rtaRetries
  timer : ∃ time, lastSent x.notes pdu.number = some time ∧
    ∀ t, pending t → t.when = time + timeout
  notUdp : ar.transportUdp = false

structure Sound (tickInterval : Time) (ar : Ar) (pending : Timer → Prop) (x : Sender α) :
    Prop where
  oneTimer : ∀ t t', pending t → pending t' → t = t'
  lawful : Lawful (rtaTimeout tickInterval x.timeoutUs) ar.rtaRetries x.notes
  numbers : ∀ note ∈ x.notes, note.number < x.pdus
  ready : x.apmsState ≠ .PF_APMS_STATE_WTACK → x.rta = none
  settled : x.rta = none → ∀ n, Begun x.notes n → Tacked x.notes n
  waiting : ∀ pdu, x.rta = some pdu →
    Waiting (rtaTimeout tickInterval x.timeoutUs) ar pending x pdu

section
variable {tickInterval timeout : Time} {ar ar' : Ar} {pending pending' : Timer → Prop}
  {x x' : Sender α} {st st' : Stack α} {e : Event α} {k n : ℕ} {notes : List (Note α)}

theorem begun_cons (note : Note α) :
    Begun (note :: notes) n ↔ note.isFirst n = true ∨ Begun notes n := by
  unfold Begun
  rw [List.any_cons, Bool.or_eq_true]

theorem tacked_cons (note : Note α) :
    Tacked (note :: notes) n ↔ note.isTack n = true ∨ Tacked notes n := by
  unfold Tacked
  rw [List.any_cons, Bool.or_eq_true]

theorem isFirst_number {note : Note α} (h : note.isFirst n = true) : note.number = n := by
  cases note with
  | first pdu time taken => exact of_decide_eq_true h
  | again => cases h
  | tack => cases h

theorem isTack_number {note : Note α} (h : note.isTack n = true) : note.number = n := by
  cases note with
  | first => cases h
  | again => cases h
  | tack pdu => exact of_decide_eq_true h

theorem isAgain_number {note : Note α} (h : note.isAgain n = true) : note.number = n := by
  cases note with
  | first => cases h
  | again pdu tick time taken => exact of_decide_eq_true h
  | tack => cases h

/-- Nothing has happened to a PDU that has not been built. -/
theorem Sound.fresh_number (h : Sound tickInterval ar pending x) :
    ¬ Begun x.notes x.pdus ∧ ¬ Tacked x.notes x.pdus ∧ repeats x.notes x.pdus = 0 := by
  have hnone {p : ℕ → Note α → Bool} (hp : ∀ note, p x.pdus note = true → note.number = x.pdus) :
      ∀ note ∈ x.notes, ¬ p x.pdus note = true := by
    intro note hnote htrue
    have hlt := h.numbers note hnote
    rw [hp note htrue] at hlt
    exact Nat.lt_irrefl _ hlt
  refine ⟨?_, ?_, List.countP_eq_zero.mpr (hnone fun _ => isAgain_number)⟩
  · intro hbegun
    rcases List.any_eq_true.mp hbegun with ⟨note, hnote, htrue⟩
    exact hnone (fun _ => isFirst_number) note hnote htrue
  · intro htacked
    rcases List.any_eq_true.mp htacked with ⟨note, hnote, htrue⟩
    exact hnone (fun _ => isTack_number) note hnote htrue

theorem rtaRetries_congr (h : ar'.alarmCrRequest = ar.alarmCrRequest) :
    ar'.rtaRetries = ar.rtaRetries := by
  rw [Ar.rtaRetries, h, Ar.rtaRetries]

theorem transportUdp_congr (h : ar'.alarmCrRequest = ar.alarmCrRequest) :
    ar'.transportUdp = ar.transportUdp := by
  rw [Ar.transportUdp, h, Ar.transportUdp]

theorem Waiting.congr {pdu : Pdu α} (h : Waiting timeout ar pending x pdu)
    (har : ar'.alarmCrRequest = ar.alarmCrRequest) (hpending : ∀ t, pending' t → pending t) :
    Waiting timeout ar' pending' x pdu := by
  rcases h.timer with ⟨time, hlast, hwhen⟩
  refine ⟨h.begun, h.untacked, h.others, ?_, ⟨time, hlast, fun t ht => hwhen t (hpending t ht)⟩, ?_⟩
  · rw [rtaRetries_congr har]
    exact h.counter
  · rw [transportUdp_congr har]
    exact h.notUdp

/-- Fewer timers, and the same parameters. -/
theorem Sound.congr (h : Sound tickInterval ar pending x)
    (har : ar'.alarmCrRequest = ar.alarmCrRequest) (hpending : ∀ t, pending' t → pending t) :
    Sound tickInterval ar' pending' x := by
  refine ⟨fun t t' ht ht' => h.oneTimer t t' (hpending t ht) (hpending t' ht'), ?_, h.numbers,
    h.ready, h.settled, fun pdu hpdu => (h.waiting pdu hpdu).congr har hpending⟩
  rw [rtaRetries_congr har]
  exact h.lawful

/-- Only ALPMI, ALPMR and the queue have changed. -/
theorem Sound.beside (h : Sound tickInterval ar pending x) (alpmi : Alarm.AlpmiState)
    (alpmr : Alarm.AlpmrState) (q : Option (List α)) (accepted : List α) :
    Sound tickInterval ar pending { x with
      alpmiState := alpmi, alpmrState := alpmr, sendQueue := q, accepted := accepted } := by
  refine ⟨h.oneTimer, h.lawful, h.numbers, h.ready, h.settled, ?_⟩
  intro pdu hpdu
  rcases h.waiting pdu hpdu with ⟨h1, h2, h3, h4, h5, h6⟩
  exact ⟨h1, h2, h3, h4, h5, h6⟩

/-- A new sender has not sent anything. -/
theorem Sound.new (hone : ∀ t t', pending t → pending t' → t = t') (hnotes : x.notes = [])
    (hrta : x.rta = none) : Sound tickInterval ar pending x := by
  refine ⟨hone, ?_, ?_, fun _ => hrta, ?_, ?_⟩
  · rw [hnotes]
    trivial
  · rw [hnotes]
    exact nofun
  · rw [hnotes]
    exact nofun
  · rw [hrta]
    exact nofun

/-- The TACK comes. -/
theorem Sound.tack (h : Sound tickInterval ar pending x) (seq : BitVec 16)
    (alpmr : Alarm.AlpmrState) :
    Sound tickInterval ar pending { x with
      sendSeqCount := seq, rta := none, alpmrState := alpmr, apmsState := .PF_APMS_STATE_OPEN
      notes := x.rta.elim x.notes fun pdu => .tack pdu :: x.notes } := by
  cases hrta : x.rta with
  | none =>
    refine ⟨h.oneTimer, h.lawful, h.numbers, fun _ => rfl, fun _ => h.settled hrta, nofun⟩
  | some pdu =>
    have hw := h.waiting pdu hrta
    rcases List.any_eq_true.mp hw.begun with ⟨note, hnote, htrue⟩
    refine ⟨h.oneTimer, ⟨hw.begun, h.lawful⟩, ?_, fun _ => rfl, ?_, nofun⟩
    · intro note' hnote'
      rcases List.mem_cons.mp hnote' with rfl | hold
      · have hlt := h.numbers note hnote
        rwa [isFirst_number htrue] at hlt
      · exact h.numbers note' hold
    · intro _ n hn
      have hbegun : Begun x.notes n := ((begun_cons _).mp hn).resolve_left Bool.false_ne_true
      rw [Option.elim_some, tacked_cons]
      rcases hw.others n hbegun with rfl | htacked
      · exact .inl (decide_eq_true rfl)
      · exact .inr htacked

/-- A new DATA PDU is sent while no timer is pending. -/
theorem Sound.send (h : Sound tickInterval ar pending x) (pending' : Timer → Prop)
    (hopen : x.apmsState = .PF_APMS_STATE_OPEN) (alarm : Option α) (env : Driver)
    (hone : ∀ t t', pending' t → pending' t' → t = t')
    (hwhen : ∀ t, pending' t → t.when = env.now + rtaTimeout tickInterval x.timeoutUs) :
    Sound tickInterval ar pending' (x.sending ar alarm env) := by
  have hrta : x.rta = none := h.ready (by rw [hopen]; decide)
  have hsettled := h.settled hrta
  unfold Sender.sending Sender.apmsDataReq
  by_cases hnot : ar.transportUdp = true ∨ env.hasBuffer = false
  · rw [if_pos hnot]
    refine ⟨hone, h.lawful, h.numbers, fun hstate => absurd rfl hstate, fun _ => hsettled, ?_⟩
    intro pdu hpdu
    dsimp only at hpdu
    rw [hrta] at hpdu
    cases hpdu
  · rw [if_neg hnot]
    rw [not_or, Bool.not_eq_true] at hnot
    rcases h.fresh_number with ⟨hbegun, htacked, hrepeats⟩
    refine ⟨hone, ⟨⟨hbegun, hsettled⟩, h.lawful⟩, ?_, fun hstate => absurd rfl hstate, ?_, ?_⟩
    · intro note hnote
      rcases List.mem_cons.mp hnote with rfl | hold
      · exact Nat.lt_succ_self x.pdus
      · exact Nat.lt_succ_of_lt (h.numbers note hold)
    · intro hnone
      cases hnone
    · intro pdu hpdu
      dsimp only at hpdu
      rw [hrta, Option.getD_none] at hpdu
      obtain rfl := Option.some.inj hpdu
      refine ⟨?_, ?_, ?_, ?_, ⟨env.now, ?_, hwhen⟩, hnot.1⟩
      · rw [begun_cons]
        exact .inl (decide_eq_true rfl)
      · rw [tacked_cons]
        exact fun hor => htacked (hor.resolve_left Bool.false_ne_true)
      · intro n hn
        rw [tacked_cons]
        rcases (begun_cons _).mp hn with hfirst | hold
        · exact .inl (isFirst_number hfirst).symm
        · exact .inr (.inr (hsettled n hold))
      · show ar.rtaRetries + List.countP _ (_ :: x.notes) ≤ ar.rtaRetries
        rw [List.countP_cons_of_neg Bool.false_ne_true]
        exact Nat.le_of_eq (by rw [show List.countP _ x.notes = 0 from hrepeats, Nat.add_zero])
      · show List.findSome? _ (_ :: _) = _
        rw [List.findSome?_cons_of_isSome]
        · exact if_pos rfl
        · rw [show Note.sentAt x.pdus (.first ⟨x.pdus, x.sendSeqCount, alarm⟩ env.now env.takes) =
            some env.now from if_pos rfl]
          rfl

/-- The frame is sent again. -/
theorem Sound.resend (h : Sound tickInterval ar pending x) {pdu : Pdu α} {fired new : Timer}
    {tick : Time} {env : Driver} (hrta : x.rta = some pdu) (hcounter : 0 < x.resendCounter)
    (hfired : pending fired) (hexpired : 0 ≤ diff tick fired.when)
    (hstate : x.apmsState = .PF_APMS_STATE_WTACK)
    (hnew : new.when = env.now + rtaTimeout tickInterval x.timeoutUs)
    (hpending : ∀ t, pending' t ↔ t = new ∨ (pending t ∧ t ≠ fired)) :
    Sound tickInterval ar pending' (x.resend ar.transportUdp pdu tick env) := by
  have hw := h.waiting pdu hrta
  rcases hw.timer with ⟨time, hlast, hwhen⟩
  -- the timer that has fired was the only one
  have honly (t : Timer) (ht : pending' t) : t = new := by
    rcases (hpending t).mp ht with rfl | ⟨hold, hne⟩
    · rfl
    · exact absurd (h.oneTimer t fired hold hfired) hne
  have hcount := hw.counter
  unfold Sender.resend
  rw [if_neg (by rw [hw.notUdp]; exact Bool.false_ne_true)]
  refine ⟨?_, ⟨⟨hw.untacked, by omega, time, hlast, ?_⟩, h.lawful⟩, ?_, ?_, ?_, ?_⟩
  · intro t t' ht ht'
    rw [honly t ht, honly t' ht']
  · rw [← hwhen fired hfired]
    exact hexpired
  · intro note hnote
    rcases List.mem_cons.mp hnote with rfl | hold
    · rcases List.any_eq_true.mp hw.begun with ⟨note, hnote, htrue⟩
      have hlt := h.numbers note hnote
      rwa [isFirst_number htrue] at hlt
    · exact h.numbers note hold
  · exact fun hne => absurd hstate hne
  · intro hnone
    dsimp only at hnone
    rw [hrta] at hnone
    cases hnone
  · intro pdu' hpdu'
    dsimp only at hpdu'
    obtain rfl : pdu = pdu' := Option.some.inj (hrta.symm.trans hpdu')
    refine ⟨?_, ?_, ?_, ?_, ⟨env.now, ?_, ?_⟩, hw.notUdp⟩
    · rw [begun_cons]
      exact .inr hw.begun
    · rw [tacked_cons]
      exact fun hor => hw.untacked (hor.resolve_left Bool.false_ne_true)
    · intro n hn
      rw [tacked_cons]
      rcases (begun_cons _).mp hn with hfirst | hold
      · cases hfirst
      · exact (hw.others n hold).imp_right .inr
    · have hself : Note.isAgain pdu.number (.again pdu tick env.now env.takes) = true :=
        decide_eq_true rfl
      have hmore : repeats (.again pdu tick env.now env.takes :: x.notes) pdu.number =
          repeats x.notes pdu.number + 1 := List.countP_cons_of_pos hself
      rw [hmore]
      dsimp only
      omega
    · show List.findSome? _ (_ :: _) = _
      rw [List.findSome?_cons_of_isSome]
      · exact if_pos rfl
      · rw [show Note.sentAt pdu.number (.again pdu tick env.now env.takes) = some env.now from
          if_pos rfl]
        rfl
    · intro t ht
      rw [honly t ht]
      exact hnew

/-! ## Steps and runs -/

theorem Sound.change (h : Sound tickInterval (st.ar (arOf k)) (st.Pending k) (st.sender k))
    (hquiet : Quiet st e) (hc : Change tickInterval e st st' k) :
    Sound tickInterval (st'.ar (arOf k)) (st'.Pending k) (st'.sender k) := by
  cases hc with
  | idle alpmi alpmr hidle hx =>
    rw [hx]
    exact (h.congr hidle.request fun t => (hidle.pending t).mp).beside alpmi alpmr _ _
  | posts q alarm hidle hq hx =>
    rw [hx]
    exact (h.congr hidle.request fun t => (hidle.pending t).mp).beside _ _ _ _
  | tacks pduType ackSeqNbr seq alpmr hidle he htype hstate hack hx =>
    rw [hx]
    exact (h.congr hidle.request fun t => (hidle.pending t).mp).tack seq alpmr
  | opens request hx hpending =>
    rw [hx]
    refine .new (fun t t' ht ht' => ?_) rfl rfl
    exact h.oneTimer t t' ((hpending t).mp ht) ((hpending t').mp ht')
  | closes alpmr hx hpending =>
    rw [hx]
    exact .new (fun t t' ht ht' => h.oneTimer t t' (hpending t ht) (hpending t' ht')) rfl rfl
  | sends alarm env q alpmi alpmr ret he hstate hq hrequest hx hpending =>
    have hnone := hquiet k env he hstate
    have hnew : ∃ new : Timer,
        new.when = env.now + rtaTimeout tickInterval (st.sender k).timeoutUs ∧
          ∀ t, st'.Pending k t → t = new := by
      rcases hpending with ⟨-, -, hsame⟩ | ⟨-, -, new, hwhen, hpending⟩
      · exact ⟨⟨0, env.now + rtaTimeout tickInterval (st.sender k).timeoutUs, ⟨0, 0⟩⟩, rfl,
          fun t ht => absurd ((hsame t).mp ht) (hnone t)⟩
      · exact ⟨new, hwhen, fun t ht => ((hpending t).mp ht).resolve_right (hnone t)⟩
    rcases hnew with ⟨new, hwhen, honly⟩
    have hq' := h.beside (st.sender k).alpmiState (st.sender k).alpmrState q (st.sender k).accepted
    have hsent := hq'.send (st'.Pending k) hstate alarm env
      (fun t t' ht ht' => by rw [honly t ht, honly t' ht'])
      (fun t ht => by rw [honly t ht]; exact hwhen)
    rw [hx]
    exact (hsent.congr hrequest fun _ => id).beside alpmi alpmr _ _
  | drops fired hfired hrequest hx hstate hpending =>
    have hrta : (st.sender k).rta = none := by
      by_cases hwait : (st.sender k).apmsState = .PF_APMS_STATE_WTACK
      · exact hstate hwait
      · exact h.ready hwait
    have hsame : { st.sender k with rta := none } = st.sender k := by rw [← hrta]
    rw [hx, hsame]
    exact h.congr hrequest fun t ht => ((hpending t).mp ht).1
  | resends fired new pdu tick env hfired hexpired hrequest hstate hrta hcounter hx hnew hpending =>
    rw [hx]
    exact (h.resend hrta hcounter hfired hexpired hstate hnew hpending).congr hrequest fun _ => id

/-- In a run in which no resend timeout is pending whenever a new DATA PDU is sent, every APMX keeps
the law of retransmission. -/
theorem retransmissionLaw_of_quiet (tickInterval : Time) (es : List (Event α))
    (hquiet : ∀ st, Stack.init tickInterval = some st → Along Quiet st es) :
    KeepsRetransmissionLaw tickInterval es := by
  intro st hrun k
  rcases Option.bind_eq_some_iff.mp hrun with ⟨st0, hst0, hes⟩
  rcases init_wired hst0 with ⟨hw, hx, hnone⟩
  have hinit (k : ℕ) : Sound tickInterval (st0.ar (arOf k)) (st0.Pending k) (st0.sender k) := by
    rw [hx]
    exact .new (fun t _ ht => absurd ht (hnone k t)) rfl rfl
  have hsound := run_invariant Quiet
    (fun st : Stack α =>
      ∀ k, Sound tickInterval (st.ar (arOf k)) (st.Pending k) (st.sender k))
    (fun _ _ _ _ hq hc h k => (h k).change hq (hc k)) hw hinit (hquiet st0 hst0) hes k
  exact ⟨hsound.oneTimer, hsound.lawful⟩

end

/-! ## Two alarms -/

namespace TwoAlarms

/-- An RTA timeout of 100 ms, and three retries. -/
def request : Connect.AlarmCrRequest :=
  ⟨1, 0x8892, false, false, 1, 3, 1, 200, ⟨0, 6⟩, ⟨0, 5⟩⟩

def sendAt (now : Time) : List (Event ℕ) :=
  [.send 0 false 7 0 false, .periodic 0 ⟨true, true, now⟩]

/-- The TACK, and then the alarm acknowledgement. -/
def answer (n : BitVec 16) : List (Event ℕ) := [.frame 0 Alarm.PF_RTA_PDU_TYPE_ACK n, .ack 0]

/-- The second alarm is sent `now`, after the first one has been answered. -/
def events (between : List (Event ℕ)) (now : Time) : List (Event ℕ) :=
  [.connect 0 request, .enable 0 true] ++ sendAt 0#32 ++ answer 0xffff ++ between ++ sendAt now

/-- The second alarm is sent when the timer of the first one has expired. -/
def late : List (Event ℕ) := events [.round 100000#32 ⟨true, true, 100000#32⟩] 100000#32

/-- The second alarm is sent while the timer of the first one is pending. -/
def early : List (Event ℕ) := events [] 50000#32

theorem early_pending : (runInit 1000#32 early).map (fun st => pending st.sched) =
    some [⟨0, 99500#32, ⟨1, 0⟩⟩, ⟨1, 149500#32, ⟨1, 0⟩⟩] := by
  decide +kernel

end TwoAlarms

open TwoAlarms in
/-- Both alarms have been sent, the second one 100 ms after the first one. -/
theorem retransmissionLaw_of_quiet_late :
    (runInit 1000#32 late).map (fun st => (st.sender 0).pdus) = some 2 ∧
      KeepsRetransmissionLaw 1000#32 late := by
  refine ⟨by decide +kernel, retransmissionLaw_of_quiet 1000#32 late ?_⟩
  have hall : (Stack.init 1000#32).all (fun st => decide (Along Quiet st late)) = true := by
    decide +kernel
  intro st hst
  rw [hst] at hall
  exact of_decide_eq_true hall

open TwoAlarms in
/-- The TACK of the first alarm leaves its timer pending, and the second alarm starts another. -/
theorem not_retransmissionLaw_early : ¬ KeepsRetransmissionLaw 1000#32 early := by
  intro h
  rcases Option.map_eq_some_iff.mp early_pending with ⟨st, hrun, hpending⟩
  have hone := (h st hrun 0).oneTimer ⟨0, 99500#32, ⟨1, 0⟩⟩ ⟨1, 149500#32, ⟨1, 0⟩⟩
    ⟨by rw [hpending]; simp, rfl⟩ ⟨by rw [hpending]; simp, rfl⟩
  exact absurd (congrArg Timer.ix hone) (by decide)

end PNet.Apms
