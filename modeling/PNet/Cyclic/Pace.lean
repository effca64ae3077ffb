import PNet.Scheduler.Window

/-! # The pace of cyclic frames

A PPM sends a frame in each tick in which its timer has expired, and then waits for a number of
ticks: the time to the next deadline, rounded. The deadlines are one control interval apart. Here
the pace that comes of that is worked out, with times that do not wrap.

* `Keeps`: how the timer of a PPM, its deadline and its frames are related.
* `Keeps.nextTick`, `Keeps.send`: ticks with and without a frame keep that.
* `Keeps.paced`: no frame is late, nor do the frames drift.
-/

namespace PNet.Cyclic

open Scheduler

/-- A PPM that has been activated, as an observer sees it whose clock does not wrap. -/
structure Pace where
  /-- When `pf_ppm_activate_req` has read the clock. -/
  exec : ℕ
  /-- When the first timer has been started. -/
  activated : ℕ
  /-- The starts of the ticks in which a frame has been sent, the last one first. -/
  sent : List ℕ
deriving DecidableEq

/-- The number of ticks to wait when a frame is due in `wanted` microseconds, or has been due. -/
def waitTicks (wanted : ℤ) (t : ℕ) : ℕ := nearTicks wanted.toNat t

namespace Pace

variable (p : Pace)

/-- When the next frame is due, for a control interval `ci`. -/
def deadline (ci : ℕ) : ℕ := p.exec + (p.sent.length + 1) * ci

/-- The pace of the frames, at a time at which the last tick has started at `tick`; ticks are `t`
apart. -/
structure Paced (t ci tick : ℕ) : Prop where
  /-- No frame comes, or will come, too long after the one before, or after the activation. -/
  gaps : (tick :: p.sent ++ [p.activated]).IsChain fun later time => later ≤ time + max ci t + t
  /-- Each frame is sent within a tick of its time. -/
  times : t ≤ ci → ∀ n time, p.sent.reverse[n]? = some time →
    p.activated + (n + 1) * ci ≤ time + t ∧ time ≤ p.activated + (n + 1) * ci + t
  /-- So will the next one be. -/
  next : t ≤ ci → tick ≤ p.activated + (p.sent.length + 1) * ci + t

/-- The pending timer expires at `w`, before the first frame or behind the last one. -/
def Awaits (t ci tick w : ℕ) : Prop :=
  match p.sent with
  | [] => w + t / 2 = p.activated + nearTicks ci t * t ∧
    (2 * ci = 3 * t → p.exec = p.activated → (p.activated + t / 2) % t ≠ tick % t)
  | last :: _ => (∃ m, tick = last + m * t) ∧
    tick ≤ last + waitTicks (p.deadline ci - last) t * t ∧
    last + waitTicks (p.deadline ci - last) t * t ≤ w + t / 2 ∧
    w ≤ last + waitTicks (p.deadline ci - last) t * t ∧
    waitTicks (p.deadline ci - last) t * t ≤ max ci t + t

structure Keeps (t ci tick w : ℕ) : Prop where
  exec_le : p.exec ≤ p.activated
  le_exec : p.activated ≤ p.exec + t / 2
  window : InWindow t tick w
  awaits : p.Awaits t ci tick w
  gaps : (p.sent ++ [p.activated]).IsChain fun later time => later ≤ time + max ci t + t
  times : t ≤ ci → ∀ n time, p.sent.reverse[n]? = some time →
    p.activated + (n + 1) * ci ≤ time + t ∧ time ≤ p.activated + (n + 1) * ci + t

end Pace

/-! ## Rounding -/

section
variable {t : ℕ} {wanted : ℤ}

theorem waitTicks_one (h : wanted ≤ t + t / 2) : waitTicks wanted t = 1 := if_neg (by omega)

theorem waitTicks_bounds (ht : 0 < t) (h : (t + t / 2 : ℕ) < wanted) :
    (waitTicks wanted t * t : ℕ) ≤ wanted + (t / 2 : ℕ) ∧
      wanted + (t / 2 : ℕ) < (waitTicks wanted t * t : ℕ) + t := by
  have hbounds := @nearTicks_bounds wanted.toNat t ht (by omega)
  unfold waitTicks
  omega

/-- The wait is one tick, or the time rounded. -/
theorem waitTicks_cases (ht : 0 < t) (wanted : ℤ) :
    (wanted ≤ (t + t / 2 : ℕ) ∧ waitTicks wanted t * t = t) ∨
      ((t + t / 2 : ℕ) < wanted ∧ (waitTicks wanted t * t : ℕ) ≤ wanted + (t / 2 : ℕ) ∧
        wanted + (t / 2 : ℕ) < (waitTicks wanted t * t : ℕ) + t) := by
  by_cases h : wanted ≤ (t + t / 2 : ℕ)
  · left
    refine ⟨h, ?_⟩
    rw [waitTicks_one (by omega), Nat.one_mul]
  · exact .inr ⟨not_le.mp h, waitTicks_bounds ht (not_le.mp h)⟩

/-- A frame is late by half a tick at most, or has waited for one tick; none is early by more. -/
theorem waitTicks_early (ht : 0 < t) (wanted : ℤ) :
    wanted - (waitTicks wanted t * t : ℕ) + (t / 2 : ℕ) ≤ t := by
  rcases waitTicks_cases ht wanted with ⟨hle, hone⟩ | ⟨-, -, hlt⟩
  · rw [hone]
    omega
  · omega

/-- The wait for a frame that is due `ci` behind a frame which has not been early by more than half
a tick. -/
theorem waitTicks_gap (ht : 0 < t) {ci : ℕ} (h : wanted ≤ ci + t - (t / 2 : ℕ)) :
    waitTicks wanted t * t ≤ max ci t + t := by
  rcases waitTicks_cases ht wanted with ⟨-, hone⟩ | ⟨-, hle, -⟩
  · rw [hone]
    omega
  · omega

/-- The first frame may be early by a tick. The wait for the second one is not longer for that,
unless the control interval is one and a half ticks, which are rounded down, and the first frame
comes as early as it can. -/
theorem waitTicks_gap_first (ht : 0 < t) {ci past : ℕ}
    (hpast : nearTicks ci t * t ≤ past + t / 2) (hcorner : 2 * ci = 3 * t → past ≠ t / 2) :
    waitTicks (2 * ci - past) t * t ≤ max ci t + t := by
  rcases waitTicks_cases ht (2 * ci - past) with ⟨-, hone⟩ | ⟨-, hle, -⟩
  · rw [hone]
    omega
  by_contra hlong
  by_cases hbig : t + t / 2 < ci
  · -- the second wait is too long by less than a tick, and both are numbers of ticks
    have hbounds := nearTicks_bounds ht hbig
    generalize nearTicks ci t = first at hbounds hpast
    generalize waitTicks (2 * ci - past) t = second at hle hlong
    rcases Nat.lt_trichotomy second (first + 1) with hlt | rfl | hgt
    · have hmul : second * t ≤ first * t := Nat.mul_le_mul_right t (Nat.le_of_lt_succ hlt)
      omega
    · rw [Nat.succ_mul] at hle hlong
      omega
    · have hmul : (first + 2) * t ≤ second * t := Nat.mul_le_mul_right t hgt
      rw [Nat.add_mul] at hmul
      omega
  · have hfirst : nearTicks ci t = 1 := if_neg hbig
    rw [hfirst] at hpast
    generalize waitTicks (2 * ci - past) t = second at hle hlong
    have hmul : 3 * t ≤ second * t := by
      apply Nat.mul_le_mul_right
      by_contra hfew
      have hmul : second * t ≤ 2 * t := Nat.mul_le_mul_right t (by omega)
      omega
    have hhalf : past ≠ t / 2 := hcorner (by omega)
    omega

end

/-! ## From tick to tick -/

namespace Pace

variable {p : Pace} {t ci tick w : ℕ}

theorem reverse_getElem?_cons {time : ℕ} {l : List ℕ} {n : ℕ} {x : ℕ}
    (h : (time :: l).reverse[n]? = some x) :
    l.reverse[n]? = some x ∨ (n = l.length ∧ x = time) := by
  rw [List.reverse_cons] at h
  by_cases hn : n < l.reverse.length
  · rw [List.getElem?_append_left hn] at h
    exact .inl h
  · rw [List.getElem?_append_right (not_lt.mp hn), List.length_reverse] at h
    rw [List.length_reverse] at hn
    have hzero : n - l.length = 0 := by
      by_contra hpos
      rw [List.getElem?_eq_none (by rw [List.length_singleton]; omega)] at h
      cases h
    rw [hzero] at h
    exact .inr ⟨by omega, (Option.some.inj h).symm⟩

theorem getElem?_last (time : ℕ) (l : List ℕ) : (time :: l).reverse[l.length]? = some time := by
  rw [List.reverse_cons, List.getElem?_append_right (by rw [List.length_reverse])]
  rw [List.length_reverse, Nat.sub_self]
  rfl

/-- A PPM that is activated at `now`. -/
theorem keeps_activated {exec now : ℕ} (ht : 0 < t) (hexec : exec ≤ now) (hnow : now ≤ exec + t / 2)
    (hlow : tick ≤ now) (hhigh : now ≤ tick + t) (hmax : ci ≤ 100000000)
    (hcorner : 2 * ci = 3 * t → exec = now → 2 * now ≠ 2 * tick + t) :
    Keeps ⟨exec, now, []⟩ t ci tick (now + (nearTicks ci t * t - t / 2)) := by
  have hdelay := nearTicks_le ht hmax
  have hone := Nat.mul_le_mul_right t (@one_le_nearTicks ci t ht)
  rw [Nat.one_mul] at hone
  constructor
  · exact hexec
  · exact hnow
  · constructor
    · omega
    · omega
  · constructor
    · show now + (nearTicks ci t * t - t / 2) + t / 2 = now + nearTicks ci t * t
      omega
    · intro hci heq hmod
      have hne := hcorner hci heq
      -- half a tick behind `now` there is no tick, as the last one was not half a tick ago
      obtain ⟨past, rfl⟩ := Nat.exists_eq_add_of_le hlow
      have hpast : (tick + past + t / 2) % t = tick % t := hmod
      rw [Nat.add_assoc] at hpast
      have hzero : (past + t / 2) % t = 0 :=
        Nat.ModEq.add_left_cancel' tick (show tick + (past + t / 2) ≡ tick + 0 [MOD t] from hpast)
      rcases Nat.dvd_of_mod_eq_zero hzero with ⟨m, hm⟩
      rcases Nat.lt_trichotomy m 1 with hlt | rfl | hgt
      · obtain rfl : m = 0 := by omega
        omega
      · omega
      · have hmul : t * 2 ≤ t * m := Nat.mul_le_mul_left t hgt
        omega
  · exact List.isChain_singleton _
  · intro _ n time htime
    cases htime

/-- A tick that leaves the timer as it is. -/
theorem Keeps.nextTick (h : p.Keeps t ci tick w) (hw : tick < w) : p.Keeps t ci (tick + t) w := by
  rcases h with ⟨hexec, hnow, ⟨hlow, hhigh⟩, hawaits, hgaps, htimes⟩
  refine ⟨hexec, hnow, ⟨by omega, by omega⟩, ?_, hgaps, htimes⟩
  unfold Awaits at hawaits ⊢
  cases hsent : p.sent with
  | nil =>
    rw [hsent] at hawaits
    rcases hawaits with ⟨hexpiry, hcorner⟩
    refine ⟨hexpiry, ?_⟩
    rw [Nat.add_mod_right]
    exact hcorner
  | cons last rest =>
    rw [hsent] at hawaits
    rcases hawaits with ⟨⟨m, hm⟩, -, hafter, hbefore, hgap⟩
    refine ⟨⟨m + 1, ?_⟩, ?_, hafter, hbefore, hgap⟩
    · rw [hm, Nat.succ_mul, Nat.add_assoc]
    · -- the expiry is ahead, so not all ticks of the wait have passed
      generalize waitTicks (p.deadline ci - last) t = k at hbefore ⊢
      have hlt : m < k := by
        by_contra hle
        have hmul : k * t ≤ m * t := Nat.mul_le_mul_right t (not_lt.mp hle)
        omega
      have hmul : (m + 1) * t ≤ k * t := Nat.mul_le_mul_right t hlt
      rw [Nat.succ_mul] at hmul
      omega

/-- The PPM after it has sent a frame. -/
def send (p : Pace) (tick : ℕ) : Pace := { p with sent := tick :: p.sent }

theorem send_deadline (p : Pace) (ci tick : ℕ) :
    (p.send tick).deadline ci = p.deadline ci + ci := by
  unfold deadline send
  rw [List.length_cons, Nat.add_mul, Nat.one_mul, Nat.add_assoc]

/-- The control interval, rounded to ticks. -/
theorem nearTicks_cases (ht : 0 < t) (ci : ℕ) :
    (ci ≤ t + t / 2 ∧ nearTicks ci t * t = t) ∨
      (nearTicks ci t * t ≤ ci + t / 2 ∧ ci + t / 2 < nearTicks ci t * t + t) := by
  by_cases hbig : t + t / 2 < ci
  · exact .inr (nearTicks_bounds ht hbig)
  · refine .inl ⟨not_lt.mp hbig, ?_⟩
    have hone : nearTicks ci t = 1 := if_neg hbig
    rw [hone, Nat.one_mul]

/-- The first frame is not late. -/
theorem Keeps.first_le (ht : 0 < t) (h : p.Keeps t ci tick w) (hsent : p.sent = []) :
    tick ≤ p.activated + max ci t + t ∧ (t ≤ ci → tick ≤ p.activated + ci + t) := by
  have hlow := h.window.1
  have hawaits := h.awaits
  unfold Awaits at hawaits
  rw [hsent] at hawaits
  rcases hawaits with ⟨hexpiry, -⟩
  have hround := nearTicks_cases ht ci
  exact ⟨by omega, fun _ => by omega⟩

theorem Keeps.first (ht : 0 < t) (h : p.Keeps t ci tick w) (hsent : p.sent = []) (hw : w ≤ tick) :
    (t ≤ ci → p.activated + ci ≤ tick + t) ∧
      waitTicks (2 * ci - (tick - p.exec : ℕ)) t * t ≤ max ci t + t := by
  have hexec := h.exec_le
  have hnow := h.le_exec
  have hawaits := h.awaits
  unfold Awaits at hawaits
  rw [hsent] at hawaits
  rcases hawaits with ⟨hexpiry, hcorner⟩
  have hround := nearTicks_cases ht ci
  have hone := Nat.mul_le_mul_right t (@one_le_nearTicks ci t ht)
  refine ⟨fun _ => by omega, ?_⟩
  apply waitTicks_gap_first ht
  · omega
  · intro hci hpast
    -- the frame comes half a tick behind the activation, where there is no tick
    have hfirst : nearTicks ci t * t = t := by
      have hone : nearTicks ci t = 1 := if_neg (by omega)
      rw [hone, Nat.one_mul]
    apply hcorner hci (by omega)
    rw [show p.activated + t / 2 = tick by omega]

/-- When the next frame comes, behind the last one. -/
def arrival (p : Pace) (t ci last : ℕ) : ℕ := last + waitTicks (p.deadline ci - last) t * t

theorem Keeps.arrival_le (h : p.Keeps t ci tick w) {last : ℕ} {rest : List ℕ}
    (hsent : p.sent = last :: rest) :
    tick ≤ p.arrival t ci last ∧ p.arrival t ci last ≤ last + max ci t + t := by
  have hawaits := h.awaits
  unfold Awaits at hawaits
  rw [hsent] at hawaits
  rcases hawaits with ⟨-, hle, -, -, hgap⟩
  unfold arrival
  exact ⟨hle, by omega⟩

/-- The tick in which the timer has expired is the one at the end of the wait. -/
theorem Keeps.eq_arrival (ht : 0 < t) (h : p.Keeps t ci tick w) {last : ℕ} {rest : List ℕ}
    (hsent : p.sent = last :: rest) (hw : w ≤ tick) : tick = p.arrival t ci last := by
  have hawaits := h.awaits
  unfold Awaits at hawaits
  rw [hsent] at hawaits
  rcases hawaits with ⟨⟨m, hm⟩, hle, hafter, -, -⟩
  unfold arrival
  generalize waitTicks (p.deadline ci - last) t = k at hle hafter ⊢
  have hge : k ≤ m := by
    by_contra hlt
    have hmul : (m + 1) * t ≤ k * t := Nat.mul_le_mul_right t (not_le.mp hlt)
    rw [Nat.succ_mul] at hmul
    omega
  have hmul : k * t ≤ m * t := Nat.mul_le_mul_right t hge
  omega

/-- The frame at the end of the wait is neither early nor late. -/
theorem Keeps.arrival_times (ht : 0 < t) (h : p.Keeps t ci tick w) {last : ℕ} {rest : List ℕ}
    (hsent : p.sent = last :: rest) (hci : t ≤ ci) :
    p.activated + (p.sent.length + 1) * ci ≤ p.arrival t ci last + t ∧
      p.arrival t ci last ≤ p.activated + (p.sent.length + 1) * ci + t := by
  have hexec := h.exec_le
  have hnow := h.le_exec
  have hlast := h.times hci rest.length last (by rw [hsent]; exact getElem?_last last rest)
  have hdeadline : p.deadline ci = p.exec + (rest.length + 1) * ci + ci := by
    unfold deadline
    rw [hsent, List.length_cons, Nat.succ_mul, Nat.add_assoc]
  have hlength : (p.sent.length + 1) * ci = (rest.length + 1) * ci + ci := by
    rw [hsent, List.length_cons, Nat.succ_mul]
  unfold arrival
  have hcases := waitTicks_cases ht (p.deadline ci - last)
  rw [hlength]
  rw [hdeadline] at hcases ⊢
  generalize (rest.length + 1) * ci = past at hlast hcases ⊢
  omega

/-- No wait is too long. -/
theorem Keeps.wait_le (ht : 0 < t) (h : p.Keeps t ci tick w) (hw : w ≤ tick) :
    waitTicks ((p.send tick).deadline ci - tick) t * t ≤ max ci t + t := by
  rw [send_deadline]
  cases hsent : p.sent with
  | nil =>
    have hexpiry := h.awaits
    unfold Awaits at hexpiry
    rw [hsent] at hexpiry
    have hone := Nat.mul_le_mul_right t (@one_le_nearTicks ci t ht)
    have hexec := h.exec_le
    have hpast : ((p.deadline ci + ci : ℕ) : ℤ) - tick = 2 * ci - (tick - p.exec : ℕ) := by
      unfold deadline
      rw [hsent, List.length_nil]
      omega
    rw [hpast]
    exact (h.first ht hsent hw).2
  | cons last rest =>
    have htick := h.eq_arrival ht hsent hw
    have hearly := waitTicks_early ht (p.deadline ci - last)
    unfold arrival at htick
    apply waitTicks_gap ht
    omega

theorem Keeps.chain (ht : 0 < t) (h : p.Keeps t ci tick w) :
    (tick :: p.sent ++ [p.activated]).IsChain fun later time => later ≤ time + max ci t + t := by
  have hgaps := h.gaps
  cases hsent : p.sent with
  | nil =>
    have hle := (h.first_le ht hsent).1
    exact .cons_cons hle (List.isChain_singleton _)
  | cons last rest =>
    rcases h.arrival_le hsent with ⟨htick, hle⟩
    rw [hsent] at hgaps
    exact .cons_cons (by omega) hgaps

/-- A frame that is due is neither early nor late. -/
theorem Keeps.due (ht : 0 < t) (h : p.Keeps t ci tick w) (hw : w ≤ tick) (hci : t ≤ ci) :
    p.activated + (p.sent.length + 1) * ci ≤ tick + t ∧
      tick ≤ p.activated + (p.sent.length + 1) * ci + t := by
  cases hsent : p.sent with
  | nil =>
    have hle := (h.first_le ht hsent).2 hci
    have hge := (h.first ht hsent hw).1 hci
    show p.activated + (0 + 1) * ci ≤ tick + t ∧ tick ≤ p.activated + (0 + 1) * ci + t
    omega
  | cons last rest =>
    have htimes := h.arrival_times ht hsent hci
    rw [← h.eq_arrival ht hsent hw, hsent] at htimes
    exact htimes

/-- A tick in which the timer has expired, and a frame is sent; the timer is started at `now`. -/
theorem Keeps.send (ht : 0 < t) (h : p.Keeps t ci tick w) (hw : w ≤ tick) {now : ℕ}
    (hlow : tick ≤ now) (hhigh : now ≤ tick + t / 2)
    (hreach : (p.send tick).deadline ci ≤ tick + 100000000) :
    (p.send tick).Keeps t ci tick
      (now + (waitTicks ((p.send tick).deadline ci - tick) t * t - t / 2)) := by
  have hwait := h.wait_le ht hw
  have hdelay : waitTicks ((p.send tick).deadline ci - tick) t * t - t / 2 ≤ maxDelay t :=
    nearTicks_le ht (by omega)
  have hone : 1 * t ≤ waitTicks ((p.send tick).deadline ci - tick) t * t :=
    Nat.mul_le_mul_right t (one_le_nearTicks ht)
  constructor
  · exact h.exec_le
  · exact h.le_exec
  · exact ⟨by omega, by omega⟩
  · refine ⟨⟨0, ?_⟩, ?_, ?_, ?_, hwait⟩
    · rw [Nat.zero_mul, Nat.add_zero]
    · omega
    · omega
    · omega
  · have hpaced := h.chain ht
    exact hpaced
  · intro hci n time htime
    rcases reverse_getElem?_cons htime with hold | ⟨rfl, rfl⟩
    · exact h.times hci n time hold
    · exact h.due ht hw hci

/-- The pace is kept, with the next frame still to come. -/
theorem Keeps.paced (ht : 0 < t) (h : p.Keeps t ci tick w) : p.Paced t ci tick := by
  refine ⟨h.chain ht, h.times, ?_⟩
  intro hci
  cases hsent : p.sent with
  | nil =>
    have hle := (h.first_le ht hsent).2 hci
    show tick ≤ p.activated + (0 + 1) * ci + t
    omega
  | cons last rest =>
    have htick := (h.arrival_le hsent).1
    have htimes := (h.arrival_times ht hsent hci).2
    rw [hsent] at htimes
    omega

end Pace

end PNet.Cyclic
