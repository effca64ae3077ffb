import PNet.Cyclic.Pacing

/-! # PPMs that keep their pace

* `keepsPace_of_inReach`: all PPMs keep their pace in the runs in which the scheduler does not take
  a delay for another.
* `not_keepsPace_lag`: a PPM with a control interval shorter than a tick falls behind, until the
  scheduler does.
-/

namespace PNet.Cyclic

open Scheduler Connect Pacing

/-- All PPMs keep their pace all the time, when the clock is read in time, frames are sent and
timers are started with success, and the scheduler does not take a delay for another. -/
theorem keepsPace_of_inReach (tickInterval : Time) (minDeviceInterval : ℕ)
    (inLength : ℕ → BitVec 16) (tick : ℕ) (st : Pacing) (hsmall : 5 * tickInterval.toNat < 2 ^ 32)
    (hstart : start tickInterval minDeviceInterval inLength tick = some st) (es : List PacingEvent)
    (htimely : Runs.Along Pacing.step Timely st es)
    (hsucceeds : Runs.Along Pacing.step Succeeds st es)
    (hreach : Runs.Along Pacing.step InReach st es) :
    ∀ es' st', es' <+: es → Runs.run Pacing.step st es' = some st' → st'.KeepsPace := by
  intro es' st' hprefix hrun
  have hall := (htimely.and hsucceeds).and hreach
  have hbefore := hall.of_prefix hprefix
  apply Pacing.Inv.keepsPace
  apply Runs.invariant (I := Pacing.Inv) ?_ (start_inv hsmall hstart) hbefore hrun
  rintro s e s' hinv ⟨⟨htimely, hsucceeds⟩, hreach⟩ hs
  exact step_inv e hinv htimely hsucceeds hreach hs

/-- Two PPMs, of control intervals of one and of four ticks. -/
def pacedEvents : List PacingEvent :=
  [.create 0 (Vector.replicate 6 0) (Vector.replicate 6 0) udpAr [udpIocr 1] 0 true,
    .activate 0 100 150,
    .create 1 (Vector.replicate 6 0) (Vector.replicate 6 0) udpAr [udpIocr 4] 0 true,
    .activate 1 200 210, .nextTick, .round true 1020, .nextTick, .round true 2020, .nextTick,
    .round true 3020, .close 0, .nextTick, .round true 4020, .nextTick]

theorem keepsPace_paced : ∃ st, start 1000#32 32 (fun _ => 4) 0 = some st ∧
    (Runs.run Pacing.step st pacedEvents).isSome = true ∧
    ∀ es' st', es' <+: pacedEvents → Runs.run Pacing.step st es' = some st' → st'.KeepsPace := by
  have hrun : ((start 1000#32 32 (fun _ => 4) 0).any fun st => decide (
      (Runs.run Pacing.step st pacedEvents).isSome = true ∧
      Runs.Along Pacing.step Timely st pacedEvents ∧
      Runs.Along Pacing.step Succeeds st pacedEvents ∧
      Runs.Along Pacing.step InReach st pacedEvents)) = true := by
    decide +kernel
  rcases (Option.any_eq_true _ _).mp hrun with ⟨st, hst, hrun⟩
  rcases of_decide_eq_true hrun with ⟨hruns, htimely, hsucceeds, hreach⟩
  exact ⟨st, hst, hruns, keepsPace_of_inReach 1000#32 32 _ 0 st (by decide) hst pacedEvents htimely
    hsucceeds hreach⟩

/-! ## A lag

With ticks of 2 ms a control interval of 1 ms makes the deadline fall back by 1 ms in each tick. -/

namespace Pacing

variable {st st' : Pacing} {e : Timer} {i k w : ℕ}

/-- A frame is sent in each tick, at which its deadline is over. -/
structure Lagging (st : Pacing) (k : ℕ) : Prop where
  inv : st.Inv
  length : (pending st.sched).length = 1
  tick : st.tick = 2000 * k
  interval : st.interval = 2000
  controlInterval : st.controlInterval 0 = 1000
  pace : ∃ sent, st.pace 0 = some ⟨0, 0, sent⟩ ∧ sent.length = k ∧
    ∀ last ∈ sent.head?, last = st.tick
  failed : st.failed = false

/-- A single timer that is not over. -/
theorem not_expired {s : St} {t : ℕ} (hq : ∃ q, Represents s q) (hlone : pending s = [e])
    (hwhen : e.when = reading w) (hlt : t < w) (hnear : w ≤ t + 2 ^ 31) :
    expired s (reading t) = false := by
  rcases hq with ⟨q, hq⟩
  apply Bool.eq_false_of_not_eq_true
  rw [hq.expired_iff, ← hq.pending_eq, hlone]
  rintro ⟨e', q', heq, hdue⟩
  obtain ⟨rfl, -⟩ := List.cons.inj heq
  rw [hwhen, diff_reading (by omega) (by omega)] at hdue
  omega


/-- The timer expires before the next tick. -/
theorem Lagging.timer (h : Lagging st k) :
    ∃ e w sent, pending st.sched = [e] ∧ st.pace 0 = some ⟨0, 0, sent⟩ ∧ sent.length = k ∧
      st.Runs 0 ⟨0, 0, sent⟩ e w ∧ st.tick < w ∧ w ≤ st.tick + 2000 := by
  rcases h.pace with ⟨sent, hpace, hlength, hlast⟩
  rcases (h.inv.slots 0).runs _ hpace with ⟨e, w, hr⟩
  have hlone : pending st.sched = [e] := by
    rcases List.length_eq_one_iff.mp h.length with ⟨e', hlone⟩
    have hmem := ((hr.only e).mpr rfl).1
    rw [hlone] at hmem ⊢
    rw [List.mem_singleton.mp hmem]
  refine ⟨e, w, sent, hlone, hpace, hlength, hr, ?_⟩
  have hawaits := hr.keeps.awaits
  rw [h.interval, h.controlInterval] at hawaits
  cases sent with
  | nil =>
    have hexpiry : w + 1000 = 0 + 1 * 2000 := hawaits.1
    have htick := h.tick
    rw [← hlength, List.length_nil] at htick
    omega
  | cons last rest =>
    obtain rfl : last = st.tick := hlast last rfl
    have hdeadline : Pace.deadline ⟨0, 0, st.tick :: rest⟩ 1000 = (k + 1) * 1000 := by
      rw [Pace.deadline, hlength, Nat.zero_add]
    have hone : waitTicks (Pace.deadline ⟨0, 0, st.tick :: rest⟩ 1000 - st.tick) 2000 = 1 := by
      apply waitTicks_one
      rw [hdeadline, h.tick]
      have hpos : 0 < k := by
        rw [← hlength]
        exact Nat.succ_pos _
      omega
    rcases hawaits with ⟨-, -, hafter, hbefore, -⟩
    rw [hone] at hafter hbefore
    omega

/-- A tick has started at which the timer is over. -/
structure Due (st : Pacing) (k : ℕ) : Prop where
  inv : st.Inv
  length : (pending st.sched).length = 1
  tick : st.tick = 2000 * (k + 1)
  interval : st.interval = 2000
  controlInterval : st.controlInterval 0 = 1000
  timer : ∃ e w sent, pending st.sched = [e] ∧ st.pace 0 = some ⟨0, 0, sent⟩ ∧ sent.length = k ∧
    st.Runs 0 ⟨0, 0, sent⟩ e w ∧ w ≤ st.tick
  failed : st.failed = false

theorem Lagging.nextTick (h : Lagging st k) : ∃ st', st.step .nextTick = some st' ∧ Due st' k := by
  rcases h.timer with ⟨e, w, sent, hlone, hpace, hlength, hr, hlow, hhigh⟩
  have hopen : expired st.sched (reading st.tick) = false :=
    not_expired h.inv.tidy.represents hlone hr.when hlow (by omega)
  have hnext : st.nextTick = some { st with tick := st.tick + st.interval } := by
    unfold Pacing.nextTick
    rw [hopen]
    rfl
  have hinv := nextTick_inv h.inv hnext
  rcases (hinv.slots 0).runs ⟨0, 0, sent⟩ hpace with ⟨e', w', hr'⟩
  have hpending := ((hr'.only e').mpr rfl).1
  rw [show pending _ = [e] from hlone, List.mem_singleton] at hpending
  subst hpending
  refine ⟨_, hnext, hinv, h.length, ?_, h.interval, h.controlInterval, ?_, h.failed⟩
  · show st.tick + st.interval = 2000 * (k + 1)
    rw [h.tick, h.interval, Nat.mul_succ]
  · refine ⟨e', w, sent, hlone, hpace, hlength, ?_, ?_⟩
    · exact ⟨hr.named, hr.index, hr.only, hr.when, hr.nextExec, hr.keeps.nextTick hlow⟩
    · show w ≤ st.tick + st.interval
      rw [h.interval]
      exact hhigh

theorem Due.sends (h : Due st k) : ∃ st' e, st.step (.round true (2000 * (k + 1))) = some st' ∧
    Sends st st' 0 (2000 * (k + 1)) e := by
  rcases h.timer with ⟨e, w, sent, hlone, hpace, -, hr, hover⟩
  rcases h.inv.tidy.represents with ⟨q, hq⟩
  have hexpired : expired st.sched (reading st.tick) = true := by
    rw [hq.expired_iff, ← hq.pending_eq, hlone]
    refine ⟨e, [], rfl, ?_⟩
    rw [hr.when]
    exact (hr.keeps.window.over_iff h.inv.small).mpr hover
  have hfirst : st.firstTimer = e := by
    rcases moveFirst_represents hq hexpired with ⟨_, _, hcons, -⟩
    rw [← hq.pending_eq, hlone] at hcons
    exact (List.cons.inj hcons).1.symm
  have hfired : ppmTimers.Runs st.sched () 0 st.firstTimer := (hr.only _).mpr hfirst
  exact h.inv.sends hexpired hfired (le_of_eq h.tick) (h.tick ▸ Nat.le_add_right _ _)

theorem Due.deadline (h : Due st k) {sent : List ℕ} (hlength : sent.length = k) :
    (Pace.send ⟨0, 0, sent⟩ st.tick).deadline (st.controlInterval 0) = (k + 2) * 1000 := by
  rw [Pace.deadline, h.controlInterval, Pace.send, List.length_cons, hlength, Nat.zero_add]

/-- The control interval stays. -/
theorem Sends.controlInterval (hs : Sends st st' i w e) (hrunning : (st.ppm i).ciRunning = true) :
    st'.controlInterval i = st.controlInterval i := by
  rcases drvSwSend_spec hrunning (st.inLength i) (reading st.tick) true with ⟨-, -, -, hsame, -⟩
  unfold Pacing.controlInterval
  rw [hs.ppm, Function.update_self, hsame]

theorem Due.lagging (h : Due st k) (hk : k < 4194968) (hs : Sends st st' 0 (2000 * (k + 1)) e) :
    Lagging st' (k + 1) := by
  rcases h.timer with ⟨e', w, sent, -, hpace, hlength, hr, hover⟩
  have hdeadline := h.deadline hlength
  have hinv : st'.Inv := by
    apply hs.inv h.inv ⟨e', hr⟩ hpace hover (le_of_eq h.tick)
    · rw [h.tick]
      exact Nat.le_add_right _ _
    · rw [hdeadline, h.tick]
      omega
    · rw [hdeadline, h.tick]
      omega
  have hrunning : (st.ppm 0).ciRunning = true := by
    rw [(h.inv.slots 0).running, hpace]
    rfl
  refine ⟨hinv, hs.length.trans h.length, hs.tick.trans h.tick, ?_, ?_, ?_,
    hs.failed.trans h.failed⟩
  · exact (congrArg BitVec.toNat hs.within.tickInterval).trans h.interval
  · rw [hs.controlInterval hrunning]
    exact h.controlInterval
  · refine ⟨st.tick :: sent, ?_, congrArg Nat.succ hlength, ?_⟩
    · rw [hs.pace, Function.update_self, hpace]
      rfl
    · intro last hlast
      obtain rfl := Option.some.inj hlast
      exact hs.tick.symm

/-- After two hours and twenty minutes the delay wraps: the deadline has been over for 4194.968
seconds, and seems to be 99.999 seconds ahead. -/
theorem Due.wraps (h : Due st k) (hk : k = 4194968) (hs : Sends st st' 0 (2000 * (k + 1)) e) :
    e.when = reading (st.tick + 99999000) := by
  subst hk
  rcases h.timer with ⟨e', w, sent, -, -, hlength, hr, -⟩
  have hwhen := hs.when
  have hnext : (st.ppm 0).nextExec + (st.ppm 0).controlInterval = reading 4194970000 := by
    rw [hr.nextExec, ← reading_toNat (st.ppm 0).controlInterval, ← reading_add]
    refine congrArg reading ((Pace.send_deadline _ _ st.tick).symm.trans ?_)
    exact h.deadline hlength
  rw [hnext, h.tick, h.interval] at hwhen
  rw [hwhen, h.tick]
  decide

def lagCreate : PacingEvent :=
  .create 0 (Vector.replicate 6 0) (Vector.replicate 6 0) udpAr [udpIocr 1] 0 true

/-- The events of `k` ticks. -/
def lagEvents : ℕ → List PacingEvent
  | 0 => [lagCreate, .activate 0 0 0]
  | k + 1 => lagEvents k ++ [.nextTick, .round true (2000 * (k + 1))]

theorem lag_start : ∃ st st', start 2000#32 32 (fun _ => 4) 0 = some st ∧
    Runs.run Pacing.step st (lagEvents 0) = some st' ∧ Lagging st' 0 ∧
    Runs.Along Pacing.step (fun s e => s.Timely e ∧ s.Succeeds e) st (lagEvents 0) := by
  have hfacts : ((start 2000#32 32 (fun _ => 4) 0).any fun st =>
      (st.step lagCreate).any fun st1 => (st1.step (.activate 0 0 0)).any fun st' => decide (
        st1.tick = 0 ∧ st1.interval = 2000 ∧ st1.controlInterval 0 = 1000 ∧ st1.failed = false ∧
        st'.tick = 0 ∧ st'.interval = 2000 ∧ st'.controlInterval 0 = 1000 ∧ st'.failed = false ∧
        (pending st'.sched).length = 1 ∧ st'.pace 0 = some ⟨0, 0, []⟩)) = true := by
    decide +kernel
  rcases (Option.any_eq_true _ _).mp hfacts with ⟨st, hst, hfacts⟩
  rcases (Option.any_eq_true _ _).mp hfacts with ⟨st1, hst1, hfacts⟩
  rcases (Option.any_eq_true _ _).mp hfacts with ⟨st', hst', hfacts⟩
  rcases of_decide_eq_true hfacts with ⟨htick1, hinterval1, hcontrol1, hfailed1, htick, hinterval,
    hcontrol, hfailed, hlength, hpace⟩
  have hinv : st.Inv := start_inv (by decide) hst
  have hinv1 : st1.Inv := step_inv lagCreate hinv trivial
    (fun s hs => Option.some.inj (hst1.symm.trans hs) ▸ hfailed1) trivial hst1
  have htimely : st1.Timely (.activate 0 0 0) := by
    refine ⟨?_, Nat.le_refl 0, Nat.zero_le _, Nat.zero_le _⟩
    rw [htick1]
  have hsucceeds : st1.Succeeds (.activate 0 0 0) :=
    fun s hs => Option.some.inj (hst'.symm.trans hs) ▸ hfailed
  have hreach : st1.InReach (.activate 0 0 0) := by
    intro _
    rw [hcontrol1, hinterval1]
    exact ⟨by decide, fun hci => absurd hci (by decide)⟩
  have hinv' : st'.Inv := step_inv _ hinv1 htimely hsucceeds hreach hst'
  refine ⟨st, st', hst, ?_, ?_, ?_⟩
  · show (st.step lagCreate).bind _ = _
    rw [hst1]
    show (st1.step (.activate 0 0 0)).bind _ = _
    rw [hst']
    rfl
  · refine ⟨hinv', hlength, htick, hinterval, hcontrol, ⟨[], hpace, rfl, ?_⟩, hfailed⟩
    intro last hlast
    cases hlast
  · refine ⟨⟨trivial, fun s hs => Option.some.inj (hst1.symm.trans hs) ▸ hfailed1⟩, ?_⟩
    intro s hs
    obtain rfl := Option.some.inj (hst1.symm.trans hs)
    exact ⟨⟨htimely, hsucceeds⟩, fun _ _ => trivial⟩

/-- A tick in which a frame is sent, as part of a run. -/
theorem Due.frame {st1 : Pacing} (hst1 : st.step .nextTick = some st1) (h : Due st1 k)
    (hst' : st1.step (.round true (2000 * (k + 1))) = some st')
    (hs : Sends st1 st' 0 (2000 * (k + 1)) e) :
    Runs.run Pacing.step st [.nextTick, .round true (2000 * (k + 1))] = some st' ∧
      Runs.Along Pacing.step (fun s e => s.Timely e ∧ s.Succeeds e) st
        [.nextTick, .round true (2000 * (k + 1))] := by
  constructor
  · show (st.step .nextTick).bind _ = _
    rw [hst1]
    show (st1.step _).bind _ = _
    rw [hst']
    rfl
  · refine ⟨⟨trivial, fun s hs => Option.some.inj (hst1.symm.trans hs) ▸ h.failed⟩, ?_⟩
    intro s hs1
    obtain rfl := Option.some.inj (hst1.symm.trans hs1)
    refine ⟨⟨⟨le_of_eq h.tick, h.tick ▸ Nat.le_add_right _ _⟩, ?_⟩, fun _ _ => trivial⟩
    intro s hs2
    obtain rfl := Option.some.inj (hst'.symm.trans hs2)
    exact hs.failed.trans h.failed

theorem lag_run {s : Pacing}
    (hs : ∃ s', Runs.run Pacing.step s (lagEvents 0) = some s' ∧ Lagging s' 0)
    (halong : Runs.Along Pacing.step (fun s e => s.Timely e ∧ s.Succeeds e) s (lagEvents 0))
    (hk : k ≤ 4194968) :
    (∃ s', Runs.run Pacing.step s (lagEvents k) = some s' ∧ Lagging s' k) ∧
      Runs.Along Pacing.step (fun s e => s.Timely e ∧ s.Succeeds e) s (lagEvents k) := by
  induction k with
  | zero => exact ⟨hs, halong⟩
  | succ k ih =>
    rcases ih (Nat.le_of_succ_le hk) with ⟨⟨s1, hrun, hlag⟩, hbefore⟩
    rcases hlag.nextTick with ⟨s2, hs2, hdue⟩
    rcases hdue.sends with ⟨s3, e, hs3, hsends⟩
    rcases hdue.frame hs2 hs3 hsends with ⟨hframe, hafter⟩
    refine ⟨⟨s3, ?_, hdue.lagging hk hsends⟩, hbefore.append ?_⟩
    · rw [lagEvents, Runs.run_append, hrun]
      exact hframe
    · intro s' hs'
      obtain rfl := Option.some.inj (hrun.symm.trans hs')
      exact hafter

/-- Ticks in which nothing expires. -/
theorem idle_ticks (n : ℕ) (hq : ∃ q, Represents st.sched q) (hlone : pending st.sched = [e])
    (hwhen : e.when = reading w) (hpos : 0 < st.interval) (hlow : st.tick + n * st.interval ≤ w)
    (hnear : w ≤ st.tick + 2 ^ 31) (hfailed : st.failed = false) :
    Runs.run Pacing.step st (List.replicate n .nextTick) =
        some { st with tick := st.tick + n * st.interval } ∧
      Runs.Along Pacing.step (fun s e => s.Timely e ∧ s.Succeeds e) st
        (List.replicate n .nextTick) := by
  induction n generalizing st with
  | zero =>
    rw [Nat.zero_mul, Nat.add_zero]
    exact ⟨rfl, trivial⟩
  | succ n ih =>
    rw [Nat.succ_mul] at hlow
    have hopen : expired st.sched (reading st.tick) = false :=
      not_expired hq hlone hwhen (by omega) hnear
    have hnext : st.step .nextTick = some { st with tick := st.tick + st.interval } := by
      show st.nextTick = _
      unfold Pacing.nextTick
      rw [hopen]
      rfl
    have hlow' : st.tick + st.interval + n * st.interval ≤ w := by omega
    have hnear' : w ≤ st.tick + st.interval + 2 ^ 31 := by omega
    rcases @ih { st with tick := st.tick + st.interval } hq hlone hpos hlow' hnear' hfailed with
      ⟨hrun, halong⟩
    constructor
    · rw [List.replicate_succ, Runs.run, hnext, Option.bind_some, hrun]
      refine congrArg some (congrArg (fun tick => { st with tick }) ?_)
      show st.tick + st.interval + n * st.interval = _
      rw [Nat.succ_mul]
      omega
    · refine ⟨⟨trivial, fun s hs => Option.some.inj (hnext.symm.trans hs) ▸ hfailed⟩, ?_⟩
      intro s hs
      obtain rfl := Option.some.inj (hnext.symm.trans hs)
      exact halong

/-- Three ticks pass without a frame. -/
theorem Sends.not_keepsPace (h : Due st k) (hs : Sends st st' 0 (2000 * (k + 1)) e) :
    ¬ KeepsPace { st' with tick := st'.tick + 3 * st'.interval } := by
  intro hkeeps
  rcases h.timer with ⟨-, -, sent, -, hpace, -, -, -⟩
  have hrunning : (st.ppm 0).ciRunning = true := by
    rw [(h.inv.slots 0).running, hpace]
    rfl
  have hcontrol : st'.controlInterval 0 = 1000 :=
    (hs.controlInterval hrunning).trans h.controlInterval
  have hinterval : st'.interval = 2000 :=
    (congrArg BitVec.toNat hs.within.tickInterval).trans h.interval
  have hsent : st'.pace 0 = some ⟨0, 0, st.tick :: sent⟩ := by
    rw [hs.pace, Function.update_self, hpace]
    rfl
  have hgap : st'.tick + 3 * st'.interval ≤
      st.tick + max (st'.controlInterval 0) st'.interval + st'.interval :=
    (List.isChain_cons_cons.mp (hkeeps 0 _ hsent).gaps).1
  have htick := hs.tick
  rw [hinterval, hcontrol] at hgap
  omega

/-- A PPM that has sent frames for two hours and twenty minutes, and then none for three ticks. -/
theorem lag_end : ∃ st es st', start 2000#32 32 (fun _ => 4) 0 = some st ∧
    Runs.run Pacing.step st es = some st' ∧
    Runs.Along Pacing.step (fun s e => s.Timely e ∧ s.Succeeds e) st es ∧ ¬ st'.KeepsPace := by
  obtain ⟨k, hk⟩ : ∃ k, k = 4194968 := ⟨_, rfl⟩
  rcases lag_start with ⟨st, st0, hstart, hrun0, hlag0, halong0⟩
  rcases lag_run ⟨st0, hrun0, hlag0⟩ halong0 (le_of_eq hk) with ⟨⟨st1, hrun1, hlag1⟩, halong1⟩
  rcases hlag1.nextTick with ⟨st2, hs2, hdue⟩
  rcases hdue.sends with ⟨st3, e, hs3, hsends⟩
  rcases hdue.frame hs2 hs3 hsends with ⟨hrun3, halong3⟩
  have hlone : pending st3.sched = [e] := by
    rcases List.length_eq_one_iff.mp (hsends.length.trans hdue.length) with ⟨e', hlone⟩
    have hmem := ((hsends.only e).mpr rfl).1
    rw [hlone] at hmem ⊢
    rw [List.mem_singleton.mp hmem]
  have hinterval : st3.interval = 2000 :=
    (congrArg BitVec.toNat hsends.within.tickInterval).trans hdue.interval
  have htick := hsends.tick
  rcases idle_ticks 3 hsends.tidy.represents hlone (hdue.wraps hk hsends) (by omega) (by omega)
    (by omega) (hsends.failed.trans hdue.failed) with ⟨hrun4, halong4⟩
  have hrun13 : Runs.run Pacing.step st (lagEvents k ++ [.nextTick, .round true (2000 * (k + 1))]) =
      some st3 := by
    rw [Runs.run_append, hrun1]
    exact hrun3
  refine ⟨st,
    lagEvents k ++ [.nextTick, .round true (2000 * (k + 1))] ++ List.replicate 3 .nextTick,
    { st3 with tick := st3.tick + 3 * st3.interval }, hstart, ?_, ?_, hsends.not_keepsPace hdue⟩
  · rw [Runs.run_append, hrun13]
    exact hrun4
  · apply Runs.Along.append
    · exact halong1.append fun s hs => Option.some.inj (hrun1.symm.trans hs) ▸ halong3
    · exact fun s hs => Option.some.inj (hrun13.symm.trans hs) ▸ halong4

end Pacing

/-- In another run a PPM does not keep its pace, when it has sent frames long enough. -/
theorem not_keepsPace_lag : ¬ ∀ (tickInterval : Time) (minDeviceInterval : ℕ)
    (inLength : ℕ → BitVec 16) (tick : ℕ) (st : Pacing),
    start tickInterval minDeviceInterval inLength tick = some st → ∀ es : List PacingEvent,
    Runs.Along Pacing.step Timely st es → Runs.Along Pacing.step Succeeds st es →
    ∀ es' st', es' <+: es → Runs.run Pacing.step st es' = some st' → st'.KeepsPace := by
  intro hall
  rcases lag_end with ⟨st, es, st', hstart, hrun, halong, hlate⟩
  exact hlate (hall _ _ _ _ st hstart es (halong.mono fun _ _ h => h.1)
    (halong.mono fun _ _ h => h.2) es st' (List.prefix_refl _) hrun)

end PNet.Cyclic
