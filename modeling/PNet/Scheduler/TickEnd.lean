import PNet.Scheduler.Owner
import Mathlib.Algebra.Order.Group.Unbundled.Int
import Mathlib.Tactic.Linarith

/-! # Rounded delays and the end of a tick

A delay is rounded to the nearest number of ticks, less half a tick. It is never zero, so that a
timer which a call-back adds is not due in the tick that runs the call-back, unless half the range
of the clock has passed since that tick has read the clock.

* `nearTicks_nearest`: no other number of ticks is nearer.
* `Rounds.due`: each round of a tick takes a timer away from those that are due.
* `delays_end_ticks`: the number of rounds of a tick.
-/

namespace PNet.Scheduler

/-! ## The number of ticks -/

section
variable {wanted c m : ℕ}

/-- No other positive number of ticks is nearer. -/
theorem nearTicks_nearest (hc : 0 < c) (hm : 1 ≤ m) :
    |(wanted : ℤ) - (nearTicks wanted c * c : ℕ)| ≤ |(wanted : ℤ) - (m * c : ℕ)| := by
  have hfar := le_abs_self ((wanted : ℤ) - (m * c : ℕ))
  have hfar' := neg_le_abs ((wanted : ℤ) - (m * c : ℕ))
  by_cases hbig : c + c / 2 < wanted
  · have hbounds := nearTicks_bounds hc hbig
    generalize nearTicks wanted c = n at hbounds ⊢
    rcases Nat.lt_trichotomy m n with hlt | rfl | hgt
    · -- at least a tick less
      have hle : (m + 1) * c ≤ n * c := Nat.mul_le_mul_right c hlt
      rw [Nat.add_mul, Nat.one_mul] at hle
      rw [abs_le]
      omega
    · exact le_refl _
    · -- at least a tick more
      have hle : (n + 1) * c ≤ m * c := Nat.mul_le_mul_right c hgt
      rw [Nat.add_mul, Nat.one_mul] at hle
      rw [abs_le]
      omega
  · -- two ticks are not nearer than one
    have hone : nearTicks wanted c = 1 := if_neg hbig
    rcases Nat.eq_or_lt_of_le hm with rfl | hgt
    · rw [hone]
    · have hle : 2 * c ≤ m * c := Nat.mul_le_mul_right c hgt
      rw [hone, abs_le]
      omega

end

/-! ## Timers that are due -/

/-- When a call that starts a timer is not too late: the time since `now`, and the delay, are half
the range of the clock together. -/
def Call.Timely (tickInterval now : Time) : Call → Prop
  | .add delay _ _ t | .restart delay _ _ t =>
    ∀ d ∈ pfSchedulerSanitizeDelay delay tickInterval true, (t - now).toNat + d.toNat ≤ 2 ^ 31
  | _ => True

/-- The timers that are due at `now` are some of those that were. -/
def NoneDue (now : Time) (q q' : List Timer) : Prop :=
  (q'.filter (Timer.Expired now)).Sublist (q.filter (Timer.Expired now))

section
variable {s s' : St} {q q' q'' : List Timer} {now : Time}

theorem NoneDue.refl (q : List Timer) : NoneDue now q q := List.Sublist.refl _

theorem NoneDue.trans (h : NoneDue now q q') (h' : NoneDue now q' q'') : NoneDue now q q'' :=
  List.Sublist.trans h' h

theorem NoneDue.of_removes (h : Queue.Removes q q') : NoneDue now q q' := by
  rcases h with rfl | ⟨e, -, rfl⟩
  · exact NoneDue.refl _
  · exact List.erase_sublist.filter _

theorem NoneDue.mem (h : NoneDue now q q') {e : Timer} (he : e ∈ q')
    (hdue : e.Expired now = true) : e ∈ q :=
  (List.mem_filter.mp (h.subset (List.mem_filter.mpr ⟨he, hdue⟩))).1

/-- A delay that ends within half the range of the clock. -/
theorem not_expired {t d : Time} {e : Timer} (hw : e.when = t + d) (hd : 1 ≤ d.toNat)
    (hlate : (t - now).toNat + d.toNat ≤ 2 ^ 31) : e.Expired now = false := by
  have hsum : (t - now + d).toNat = (t - now).toNat + d.toNat := by
    rw [BitVec.toNat_add, Nat.mod_eq_of_lt (by omega)]
  have hneg : now - (t + d) = -(t - now + d) := by
    rw [neg_add, neg_sub, ← sub_eq_add_neg, sub_add_eq_sub_sub]
  have hlt : (now - (t + d)).toInt < 0 := by
    rw [hneg, BitVec.toInt_eq_toNat_cond, BitVec.toNat_neg, hsum]
    split <;> omega
  unfold Timer.Expired diff
  rw [hw]
  exact decide_eq_false (Int.not_le.mpr hlt)

theorem add_due (hq : Represents s q) {delay t : Time} {job : Job} {h : ℕ} {ret : ℤ}
    (ha : pfSchedulerAdd s delay job h t = some (ret, s'))
    (htimely : (Call.add delay job h t).Timely s.tickInterval now) :
    ∃ q', Represents s' q' ∧ NoneDue now q q' ∧ s'.tickInterval = s.tickInterval := by
  rcases Option.bind_eq_some_iff.mp ha with ⟨d, hd, -⟩
  rcases @add_free_iff s h q hq delay d t job hd with ⟨hfull, hroom⟩
  by_cases hfree : PF_MAX_TIMEOUTS ≤ s.free
  · obtain ⟨-, rfl⟩ := Prod.mk.inj (Option.some.inj ((hfull hfree).symm.trans ha))
    exact ⟨q, hq.setHandle h _, NoneDue.refl q, rfl⟩
  · rcases hroom (Nat.lt_of_not_le hfree) with ⟨s1, hs1, hq1, -, htick⟩
    obtain ⟨-, rfl⟩ := Prod.mk.inj (Option.some.inj (hs1.symm.trans ha))
    refine ⟨_, hq1, ?_, htick⟩
    have hnot : Timer.Expired now ⟨s.free, t + d, job⟩ = false :=
      not_expired rfl (sanitizeDelay_bounds hd).1 (htimely d hd)
    unfold NoneDue
    rw [CircularTime.filter_orderedInsert hnot]

/-- A call that is not too late makes no timer due. -/
theorem doCall_due (hq : Represents s q) {c : Call} (hc : doCall s c = some s')
    (htimely : c.Timely s.tickInterval now) :
    ∃ q', Represents s' q' ∧ NoneDue now q q' ∧ s'.tickInterval = s.tickInterval := by
  cases c with
  | initHandle h name =>
    obtain rfl : _ = s' := Option.some.inj hc
    exact ⟨q, hq.setHandle h _, NoneDue.refl q, rfl⟩
  | resetHandle h =>
    obtain rfl : _ = s' := Option.some.inj hc
    exact ⟨q, hq.setHandle h _, NoneDue.refl q, rfl⟩
  | add delay job h t =>
    rcases Option.map_eq_some_iff.mp hc with ⟨⟨ret, s1⟩, ha, rfl⟩
    exact add_due hq ha htimely
  | restart delay job h t =>
    rcases Option.map_eq_some_iff.mp hc with ⟨⟨ret, s2⟩, hr, rfl⟩
    rcases Option.bind_eq_some_iff.mp hr with ⟨s1, hs1, ha⟩
    -- the timer of the handle goes first
    rcases removeIfRunning_represents (i := h) hq with ⟨s1', q1, hs1', hq1, hrem, htick⟩
    obtain rfl : s1 = s1' := Option.some.inj (hs1.symm.trans hs1')
    have htimely1 : (Call.add delay job h t).Timely s1.tickInterval now := by
      rw [htick]
      exact htimely
    rcases add_due hq1 ha htimely1 with ⟨q2, hq2, hdue, htick'⟩
    exact ⟨q2, hq2, (NoneDue.of_removes hrem).trans hdue, htick'.trans htick⟩
  | remove h =>
    rcases remove_represents (i := h) hq with ⟨s1, q1, hs1, hq1, hrem, htick⟩
    obtain rfl : s1 = s' := Option.some.inj (hs1.symm.trans hc)
    exact ⟨q1, hq1, NoneDue.of_removes hrem, htick⟩
  | removeIfRunning h =>
    rcases removeIfRunning_represents (i := h) hq with ⟨s1, q1, hs1, hq1, hrem, htick⟩
    obtain rfl : s1 = s' := Option.some.inj (hs1.symm.trans hc)
    exact ⟨q1, hq1, NoneDue.of_removes hrem, htick⟩

theorem doCalls_due (hq : Represents s q) {cs : List Call} (hc : doCalls s cs = some s')
    (htimely : ∀ c ∈ cs, c.Timely s.tickInterval now) :
    ∃ q', Represents s' q' ∧ NoneDue now q q' ∧ s'.tickInterval = s.tickInterval := by
  induction cs generalizing s q with
  | nil =>
    obtain rfl : s = s' := Option.some.inj hc
    exact ⟨q, hq, NoneDue.refl q, rfl⟩
  | cons c cs ih =>
    rcases Option.bind_eq_some_iff.mp hc with ⟨s1, h1, h2⟩
    rcases doCall_due hq h1 (htimely c List.mem_cons_self) with ⟨q1, hq1, hdue1, htick1⟩
    have hrest : ∀ c' ∈ cs, c'.Timely s1.tickInterval now := by
      intro c' hc'
      rw [htick1]
      exact htimely c' (List.mem_cons_of_mem c hc')
    rcases ih hq1 h2 hrest with ⟨q', hq', hdue, htick⟩
    exact ⟨q', hq', hdue1.trans hdue, htick.trans htick1⟩

/-- Each round takes the first timer away from those that are due, and puts none to them. -/
theorem Rounds.due {rs : List Round} (hrs : Rounds now s rs s') (hq : Represents s q)
    (htimely : ∀ r ∈ rs, ∀ c ∈ r.calls, c.Timely s.tickInterval now) :
    rs.length ≤ (q.filter (Timer.Expired now)).length ∧
      ∀ r ∈ rs, ∀ e ∈ pending r.finish, e.Expired now = true → e ∈ pending r.start := by
  induction rs generalizing s q with
  | nil => exact ⟨Nat.zero_le _, fun r hr => absurd hr List.not_mem_nil⟩
  | cons r rs ih =>
    obtain ⟨rfl, hexp, hmove, hcalls, hrest⟩ := hrs
    obtain ⟨s1, q1, hcons, hs1, hq1, htick1⟩ := moveFirst_represents hq hexp
    obtain rfl : s1 = r.start := Option.some.inj (hs1.symm.trans hmove)
    have htimely1 : ∀ c ∈ r.calls, c.Timely r.start.tickInterval now := by
      intro c hc
      rw [htick1]
      exact htimely r List.mem_cons_self c hc
    obtain ⟨q2, hq2, hdue, htick2⟩ := doCalls_due hq1 hcalls htimely1
    have htimely2 : ∀ r' ∈ rs, ∀ c ∈ r'.calls, c.Timely r.finish.tickInterval now := by
      intro r' hr' c hc
      rw [htick2, htick1]
      exact htimely r' (List.mem_cons_of_mem r hr') c hc
    obtain ⟨hlen, hall⟩ := ih hrest hq2 htimely2
    constructor
    · -- the first timer was due
      have hfirst : (timerAt r.found r.found.first).Expired now = true := by
        obtain ⟨e, q', hcons', he⟩ := (hq.expired_iff now).mp hexp
        rw [(List.cons.inj (hcons.symm.trans hcons')).1]
        exact decide_eq_true he
      rw [hcons, List.filter_cons, if_pos hfirst, List.length_cons, List.length_cons]
      exact Nat.succ_le_succ (hlen.trans hdue.length_le)
    · intro r' hr' e he hex
      rcases List.mem_cons.mp hr' with rfl | hr'
      · rw [hq2.pending_eq] at he
        rw [hq1.pending_eq]
        exact hdue.mem he hex
      · exact hall r' hr' e he hex

end

/-! ## Runs -/

/-- The tick interval of a run is the one of its last initialisation. -/
theorem run_interval {s s' : St} {as : List Step} {q : List Timer} (hq : Represents s q)
    (hpos : 0#32 < s.tickInterval) (hlt : s.tickInterval.toNat < 2 ^ 31)
    (has : ∀ a ∈ as, a.Sensible) (hrun : run s as = some s') :
    ∃ q', Represents s' q' ∧ 0#32 < s'.tickInterval ∧ s'.tickInterval.toNat < 2 ^ 31 := by
  induction as generalizing s q with
  | nil =>
    obtain rfl : s = s' := Option.some.inj hrun
    exact ⟨q, hq, hpos, hlt⟩
  | cons a as ih =>
    rcases Option.bind_eq_some_iff.mp hrun with ⟨s1, h1, h2⟩
    have hrest : ∀ b ∈ as, b.Sensible := fun b hb => has b (List.mem_cons_of_mem a hb)
    have hstep : ∃ q1, Represents s1 q1 ∧ 0#32 < s1.tickInterval ∧
        s1.tickInterval.toNat < 2 ^ 31 := by
      cases a with
      | init tickInterval =>
        rcases has _ List.mem_cons_self with ⟨ht, ht'⟩
        rcases init_represents s ht with ⟨s2, hs2, hq2, hinterval⟩
        obtain rfl : s2 = s1 := Option.some.inj (hs2.symm.trans h1)
        exact ⟨[], hq2, by rwa [hinterval], by rwa [hinterval]⟩
      | call c =>
        rcases doCall_represents hq h1 with ⟨q1, hq1, -, hinterval⟩
        exact ⟨q1, hq1, by rwa [hinterval], by rwa [hinterval]⟩
      | tick now script =>
        rcases Option.map_eq_some_iff.mp h1 with ⟨⟨rs, s2⟩, ht, rfl⟩
        rcases (tick_rounds hq ht).1.represents hq with ⟨q1, hq1, hinterval⟩
        exact ⟨q1, hq1, by rwa [hinterval], by rwa [hinterval]⟩
    rcases hstep with ⟨q1, hq1, hpos1, hlt1⟩
    exact ih hq1 hpos1 hlt1 hrest h2

/-- One timer. -/
def oneTimer : List Step :=
  [.init 1000#32, .call (.initHandle 0 5), .call (.add 1000#32 ⟨7, 0⟩ 0 0#32)]

theorem oneTimer_interval : (run blank oneTimer).map St.tickInterval = some 1000#32 := by
  decide +kernel

/-- What the tick at time 1000 shows when the call-back of the timer makes the call `c`. -/
def oneTick (c : Call) : Option (ℕ × List (List Call × List Timer × List Timer)) :=
  (run blank oneTimer).bind fun s => (pfSchedulerTick 1000#32 [[c]] s).map fun r =>
    ((pending s).length, r.1.map fun r => (r.calls, pending r.start, pending r.finish))

theorem oneTick_again : oneTick (.restart 1000#32 ⟨7, 0⟩ 0 1000#32) = some (1,
    [([.restart 1000#32 ⟨7, 0⟩ 0 1000#32], [], [⟨0, 1500#32, ⟨7, 0⟩⟩])]) := by
  decide +kernel

theorem oneTick_late : oneTick (.add 1000#32 ⟨8, 0⟩ 0 (1000#32 + 0x7fffffff#32)) = some (1,
    [([.add 1000#32 ⟨8, 0⟩ 0 (1000#32 + 0x7fffffff#32)], [], [⟨0, 0x800005db#32, ⟨8, 0⟩⟩]),
      ([], [], [])]) := by
  decide +kernel

end PNet.Scheduler
