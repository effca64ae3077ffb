import PNet.Scheduler.TickEnd

/-! # The window of the pending timers

A time of an observer whose clock does not wrap is a natural number of microseconds, and the clock
reads its last 32 bits. When a tick starts one tick interval after the other, and between two of
them the calls of all users read the clock, all pending timers expire in a window around the last
tick. With a tick interval below 2^32 / 5 the window is shorter than half the range of the clock.

* `Window.doCall`, `Window.moveFirst`: calls and rounds of the tick keep to the window.
* `Window.over_iff`: in the window, a timer has expired when its time is over.
* `Window.nextTick`: a tick leaves no timer behind whose time is over, and the window moves on.
-/

namespace PNet.Scheduler

/-- What the clock reads at a time. -/
def reading (t : ℕ) : Time := BitVec.ofNat 32 t

/-- The longest delay of a timer, for a tick interval `c`. -/
def maxDelay (c : ℕ) : ℕ := max 100000000 (c - c / 2)

/-- The time `w` is in the window around a tick that has started at `tick`. -/
def InWindow (c tick w : ℕ) : Prop := tick < w + c ∧ w ≤ tick + c + maxDelay c

/-- The queue is in order, and its timers are in the window. -/
structure Window (tick : ℕ) (s : St) : Prop where
  represents : ∃ q, Represents s q
  sorted : Queue.Sorted (pending s)
  within : ∀ e ∈ pending s, ∃ w, e.when = reading w ∧ InWindow s.tickInterval.toNat tick w

/-- The call is made after the start of the last tick, and not after that of the next one. -/
def Call.Between (c tick : ℕ) (call : Call) : Prop :=
  ∀ t ∈ call.now?, ∃ now, t = reading now ∧ tick ≤ now ∧ now ≤ tick + c

/-! ## Readings -/

theorem reading_add (a b : ℕ) : reading (a + b) = reading a + reading b := BitVec.ofNat_add a b

theorem reading_toNat (t : Time) : reading t.toNat = t :=
  (BitVec.ofNat_toNat 32 t).trans (BitVec.setWidth_eq t)

/-- Times that are not too far apart are compared as their readings are. -/
theorem diff_reading {a b : ℕ} (hab : a < b + 2 ^ 31) (hba : b ≤ a + 2 ^ 31) :
    diff (reading a) (reading b) = (a : ℤ) - b := by
  unfold diff reading
  rw [BitVec.toInt_sub, BitVec.toInt_ofNat', BitVec.toInt_ofNat', Int.bmod_sub_bmod,
    Int.sub_bmod_bmod]
  exact Int.bmod_eq_of_le_mul_two (by omega) (by omega)

/-- Whether a call is made in time is told by the clock. -/
theorem Call.between_iff (c tick : ℕ) (call : Call) :
    call.Between c tick ↔ ∀ t ∈ call.now?, (t - reading tick).toNat ≤ c := by
  apply forall₂_congr
  intro t _
  constructor
  · rintro ⟨now, rfl, hlow, hhigh⟩
    obtain ⟨d, rfl⟩ := Nat.exists_eq_add_of_le hlow
    rw [reading_add, add_sub_cancel_left, reading, BitVec.toNat_ofNat]
    exact (Nat.mod_le _ _).trans (by omega)
  · intro hle
    refine ⟨tick + (t - reading tick).toNat, ?_, Nat.le_add_right _ _, by omega⟩
    rw [reading_add, reading_toNat, add_sub_cancel]

instance (c tick : ℕ) (call : Call) : Decidable (call.Between c tick) :=
  decidable_of_iff _ (Call.between_iff c tick call).symm

section
variable {c tick w : ℕ} {s s' : St}

theorem maxDelay_le (hc : 5 * c < 2 ^ 32) : 2 * c + maxDelay c ≤ 2 ^ 31 := by
  unfold maxDelay
  omega

/-- In the window, a time is over when its reading is. -/
theorem InWindow.over_iff (hc : 5 * c < 2 ^ 32) (h : InWindow c tick w) :
    0 ≤ diff (reading tick) (reading w) ↔ w ≤ tick := by
  have hle := maxDelay_le hc
  rcases h with ⟨hlow, hhigh⟩
  rw [diff_reading (by omega) (by omega)]
  omega

/-- Readings of times in the window lie on an arc. -/
theorem arc_of_inWindow (hc : 5 * c < 2 ^ 32) {l : List Time}
    (hl : ∀ t ∈ l, ∃ w, t = reading w ∧ InWindow c tick w) : CircularTime.Arc l := by
  have hle := maxDelay_le hc
  refine ⟨reading (tick + 1) - reading c, ?_⟩
  intro t ht
  rcases hl t ht with ⟨w, rfl, hlow, hhigh⟩
  have hdist : reading w - (reading (tick + 1) - reading c) = reading (w + c - (tick + 1)) := by
    have hsum : reading w + reading c = reading (w + c - (tick + 1)) + reading (tick + 1) := by
      rw [← reading_add, ← reading_add]
      congr 1
      omega
    rw [sub_sub_eq_add_sub, hsum, add_sub_cancel_right]
  rw [hdist, reading, BitVec.toNat_ofNat]
  exact lt_of_le_of_lt (Nat.mod_le _ _) (by omega)

/-! ## Delays -/

theorem nearTicks_le {wanted : ℕ} (hc : 0 < c) (hmax : wanted ≤ 100000000) :
    nearTicks wanted c * c - c / 2 ≤ maxDelay c := by
  unfold maxDelay
  by_cases hbig : c + c / 2 < wanted
  · have hbounds := nearTicks_bounds hc hbig
    omega
  · have hone : nearTicks wanted c = 1 := if_neg hbig
    rw [hone]
    omega

/-- No delay is longer than the longest one. -/
theorem sanitizeDelay_le {wanted d : Time} {c : Time} (hc : 0#32 < c) (hlt : 5 * c.toNat < 2 ^ 32)
    (hd : pfSchedulerSanitizeDelay wanted c true = some d) :
    1 ≤ d.toNat ∧ d.toNat ≤ maxDelay c.toNat := by
  rcases sanitizeDelay_eq wanted hc (by omega) with ⟨d', hd', hdelay⟩
  obtain rfl := Option.some.inj (hd'.symm.trans hd)
  refine ⟨(sanitizeDelay_bounds hd).1, ?_⟩
  rw [hdelay]
  exact nearTicks_le (BitVec.lt_def.mp hc) (clamped_le wanted)

/-! ## Calls -/

theorem doCall_origin {q : List Timer} (hq : Represents s q) {call : Call}
    (hcall : Scheduler.doCall s call = some s') :
    ∀ e ∈ pending s', e ∈ pending s ∨ ∃ t ∈ call.now?, ∃ delay d,
      pfSchedulerSanitizeDelay delay s.tickInterval true = some d ∧ e.when = t + d := by
  cases call with
  | initHandle h name =>
    obtain rfl : _ = s' := Option.some.inj hcall
    intro e he
    rw [pfSchedulerInitHandle, (hq.setHandle _ _).pending_eq, ← hq.pending_eq] at he
    exact .inl he
  | resetHandle h =>
    obtain rfl : _ = s' := Option.some.inj hcall
    intro e he
    rw [pfSchedulerResetHandle, (hq.setHandle _ _).pending_eq, ← hq.pending_eq] at he
    exact .inl he
  | add delay job h t =>
    rcases Option.map_eq_some_iff.mp hcall with ⟨⟨ret, s1⟩, ha, rfl⟩
    intro e he
    rcases add_origin hq ha e he with hold | ⟨d, hd, hwhen⟩
    · exact .inl hold
    · exact .inr ⟨t, rfl, delay, d, hd, hwhen⟩
  | restart delay job h t =>
    rcases Option.map_eq_some_iff.mp hcall with ⟨⟨ret, s2⟩, hr, rfl⟩
    rcases Option.bind_eq_some_iff.mp hr with ⟨s1, hs1, ha⟩
    rcases removeIfRunning_represents (i := h) hq with ⟨s1', q1, hs1', hq1, hrem, htick⟩
    obtain rfl : s1 = s1' := Option.some.inj (hs1.symm.trans hs1')
    intro e he
    rcases add_origin hq1 ha e he with hold | ⟨d, hd, hwhen⟩
    · rw [hq1.pending_eq] at hold
      rw [hq.pending_eq]
      exact .inl (hrem.subset e hold)
    · rw [htick] at hd
      exact .inr ⟨t, rfl, delay, d, hd, hwhen⟩
  | remove h =>
    rcases remove_represents (i := h) hq with ⟨s1, q1, hs1, hq1, hrem, -⟩
    obtain rfl : s1 = s' := Option.some.inj (hs1.symm.trans hcall)
    intro e he
    rw [hq1.pending_eq] at he
    rw [hq.pending_eq]
    exact .inl (hrem.subset e he)
  | removeIfRunning h =>
    rcases removeIfRunning_represents (i := h) hq with ⟨s1, q1, hs1, hq1, hrem, -⟩
    obtain rfl : s1 = s' := Option.some.inj (hs1.symm.trans hcall)
    intro e he
    rw [hq1.pending_eq] at he
    rw [hq.pending_eq]
    exact .inl (hrem.subset e he)

/-- A call between two ticks keeps to the window. -/
theorem Window.doCall (hpos : 0#32 < s.tickInterval) (hlt : 5 * s.tickInterval.toNat < 2 ^ 32)
    (h : Window tick s) {call : Call} (hbetween : call.Between s.tickInterval.toNat tick)
    (hcall : Scheduler.doCall s call = some s') :
    Window tick s' ∧ s'.tickInterval = s.tickInterval := by
  rcases h.represents with ⟨q, hq⟩
  rcases doCall_represents hq hcall with ⟨q', hq', heffect, hinterval⟩
  have hwithin : ∀ e ∈ pending s', ∃ w, e.when = reading w ∧
      InWindow s'.tickInterval.toNat tick w := by
    intro e he
    rw [hinterval]
    rcases doCall_origin hq hcall e he with hold | ⟨t, ht, delay, d, hd, hwhen⟩
    · exact h.within e hold
    · rcases hbetween t ht with ⟨now, rfl, hlow, hhigh⟩
      rcases sanitizeDelay_le hpos hlt hd with ⟨hone, hmax⟩
      refine ⟨now + d.toNat, ?_, by omega, by omega⟩
      rw [hwhen, reading_add, reading_toNat]
  have harc : CircularTime.Arc (q'.map Timer.when) := by
    apply @arc_of_inWindow s'.tickInterval.toNat tick (by rw [hinterval]; exact hlt)
    intro t ht
    rcases List.mem_map.mp ht with ⟨e, he, rfl⟩
    exact hwithin e (hq'.pending_eq ▸ he)
  refine ⟨⟨⟨q', hq'⟩, ?_, hwithin⟩, hinterval⟩
  rw [hq'.pending_eq]
  apply heffect.sorted _ harc
  rw [← hq.pending_eq]
  exact h.sorted

theorem Window.setHandle (h : Window tick s) (i : ℕ) (v : Handle) :
    Window tick (s.setHandle i v) := by
  rcases h.represents with ⟨q, hq⟩
  have hsame : pending (s.setHandle i v) = pending s := by
    rw [(hq.setHandle i v).pending_eq, hq.pending_eq]
  refine ⟨⟨q, hq.setHandle i v⟩, ?_, ?_⟩
  · rw [hsame]
    exact h.sorted
  · rw [hsame]
    exact h.within

/-! ## Ticks -/

/-- A round of the tick keeps to the window. -/
theorem Window.moveFirst (h : Window tick s) (he : expired s (reading tick) = true)
    (hs : moveToFree s s.first = some s') :
    Window tick s' ∧ s'.tickInterval = s.tickInterval := by
  rcases h.represents with ⟨q, hq⟩
  rcases moveFirst_represents hq he with ⟨s1, q1, hcons, hs1, hq1, hinterval⟩
  obtain rfl := Option.some.inj (hs1.symm.trans hs)
  have hsorted := h.sorted
  rw [hq.pending_eq, hcons, Queue.Sorted, List.pairwise_cons] at hsorted
  refine ⟨⟨⟨q1, hq1⟩, ?_, ?_⟩, hinterval⟩
  · rw [hq1.pending_eq]
    exact hsorted.2
  · intro e hmem
    rw [hinterval]
    apply h.within
    rw [hq1.pending_eq] at hmem
    rw [hq.pending_eq, hcons]
    exact List.mem_cons_of_mem _ hmem

/-- When the tick ends, the time of no pending timer is over. -/
theorem Window.not_over (hpos : 0#32 < s.tickInterval) (hlt : 5 * s.tickInterval.toNat < 2 ^ 32)
    (h : Window tick s) (he : expired s (reading tick) = false) {e : Timer} (hmem : e ∈ pending s)
    (hw : e.when = reading w) (hin : InWindow s.tickInterval.toNat tick w) : tick < w := by
  rcases h.represents with ⟨q, hq⟩
  have harc : CircularTime.Arc ([reading tick] ++ q.map Timer.when) := by
    apply @arc_of_inWindow s.tickInterval.toNat tick hlt
    intro t ht
    rcases List.mem_append.mp ht with ht | ht
    · rw [List.mem_singleton.mp ht]
      have hc : 0 < s.tickInterval.toNat := BitVec.lt_def.mp hpos
      exact ⟨tick, rfl, by omega, by omega⟩
    · rcases List.mem_map.mp ht with ⟨e, he, rfl⟩
      exact h.within e (hq.pending_eq ▸ he)
  have hfirst : ¬ ∃ e q', q = e :: q' ∧ 0 ≤ diff (reading tick) e.when := by
    rw [← hq.expired_iff, he]
    exact Bool.false_ne_true
  have hnone := none_expired (hq.pending_eq ▸ h.sorted) harc hfirst e (hq.pending_eq ▸ hmem)
  by_contra hover
  have hdue := (hin.over_iff hlt).mpr (not_lt.mp hover)
  rw [← hw] at hdue
  rw [Timer.Expired, decide_eq_true hdue] at hnone
  cases hnone

/-- The window moves on with the next tick. -/
theorem Window.nextTick (hpos : 0#32 < s.tickInterval) (hlt : 5 * s.tickInterval.toNat < 2 ^ 32)
    (h : Window tick s) (he : expired s (reading tick) = false) :
    Window (tick + s.tickInterval.toNat) s := by
  refine ⟨h.represents, h.sorted, ?_⟩
  intro e hmem
  rcases h.within e hmem with ⟨w, hw, hin⟩
  have hover := h.not_over hpos hlt he hmem hw hin
  rcases hin with ⟨-, hhigh⟩
  exact ⟨w, hw, by omega, by omega⟩

end

end PNet.Scheduler
