import PNet.LifeCycle.Model

/-! # The timers of an AR

A machine that has a timer is at rest, or an ABORT of its AR stops the timer (`Closes`); only the poll
of CMIO is left to expire. `Orderly p sent st a` is what holds of the AR `a` after each step: the
timers of the components `p` are those of machines that are not at rest, at most one of each. It is
about the timers of these components only, as the conditions on a run are different ones for each.

* `abort_spec`: an ABORT releases the AR, and the timers of the machines that it closes are gone.
* `Orderly.untouched`: the other ARs.
-/

namespace PNet.LifeCycle

open Scheduler
open Connect (PF_IOCR_TYPE_INPUT PF_IOCR_TYPE_OUTPUT)

/-! ## Loops -/

theorem foldlM_range {β : Type} {f : β → ℕ → Option β} {P : ℕ → β → Prop} {b b' : β} {n : ℕ}
    (h0 : P 0 b) (hstep : ∀ i b b', i < n → P i b → f b i = some b' → P (i + 1) b')
    (h : (List.range n).foldlM f b = some b') : P n b' := by
  induction n generalizing b' with
  | zero =>
    obtain rfl : b = b' := Option.some.inj h
    exact h0
  | succ n ih =>
    rw [List.range_succ, List.foldlM_append] at h
    rcases Option.bind_eq_some_iff.mp h with ⟨b1, hb1, hlast⟩
    rw [List.foldlM_cons] at hlast
    rcases Option.bind_eq_some_iff.mp hlast with ⟨b2, hb2, hnil⟩
    obtain rfl : b2 = b' := Option.some.inj hnil
    exact hstep n b1 b2 (Nat.lt_succ_self n)
      (ih (fun i b b' hi => hstep i b b' (Nat.lt_succ_of_lt hi)) hb1) hb2

/-- What holds after the loop over the CRs: `P n` holds when those before `n` have been treated. -/
theorem forCreps_run {β : Type} {nbr : β → ℕ} {body : β → ℕ → Option β} {P : ℕ → β → Prop}
    {b b' : β} (h0 : P 0 b)
    (hin : ∀ n b b', n < PNET_MAX_CR → P n b → n < nbr b → body b n = some b' → P (n + 1) b')
    (hout : ∀ n b, P n b → ¬ n < nbr b → P (n + 1) b) (h : forCreps nbr body b = some b') :
    P PNET_MAX_CR b' := by
  refine foldlM_range h0 ?_ h
  intro i b1 b2 hi hP hb
  by_cases hlt : i < nbr b1
  · rw [if_pos hlt] at hb
    exact hin i b1 b2 hi hP hlt hb
  · rw [if_neg hlt] at hb
    obtain rfl : b1 = b2 := Option.some.inj hb
    exact hout i b1 hP hlt

/-! ## The numbers of CRs and APMXs -/

theorem crOf_div {crep : ℕ} (a : ℕ) (h : crep < PNET_MAX_CR) : crOf a crep / PNET_MAX_CR = a := by
  unfold crOf
  rw [Nat.mul_add_div (by decide), Nat.div_eq_of_lt h, Nat.add_zero]

theorem crOf_mod {crep : ℕ} (a : ℕ) (h : crep < PNET_MAX_CR) : crOf a crep % PNET_MAX_CR = crep := by
  unfold crOf
  rw [Nat.mul_add_mod, Nat.mod_eq_of_lt h]

theorem crOf_eq (c : ℕ) : crOf (c / PNET_MAX_CR) (c % PNET_MAX_CR) = c := Nat.div_add_mod c _

theorem mod_lt (c : ℕ) : c % PNET_MAX_CR < PNET_MAX_CR := Nat.mod_lt _ (by decide)

/-! ## Order -/

/-- The machine that has the timer has nothing to time. -/
def AtRest (st : Stack) : Kind → ℕ → Prop
  | .cmio, a =>
    (st.ar a).cmioState = .PF_CMIO_STATE_IDLE ∨ (st.ar a).cmioState = .PF_CMIO_STATE_STARTUP
  | .cmsm, a => (st.ar a).cmsmState = .PF_CMSM_STATE_IDLE
  | .cpm, c => (st.iocr c).cpm.state = .PF_CPM_STATE_W_START
  | .ppm, c => (st.iocr c).ppm.state = .PF_PPM_STATE_W_START
  | .apmx, k => (st.apmx k).apmsState = .PF_APMS_STATE_CLOSED

/-- An ABORT of the AR stops the timer. -/
def Closes (st : Stack) : Kind → ℕ → Prop
  | .cmio, _ => False
  | .cmsm, a => (st.ar a).cmsmState = .PF_CMSM_STATE_RUN
  | .cpm, c => (st.ar (c / PNET_MAX_CR)).cmsuState = .PF_CMSU_STATE_STARTUP ∧
    c % PNET_MAX_CR < (st.ar (c / PNET_MAX_CR)).nbrIocrs ∧
    (st.iocr c).iocrType = PF_IOCR_TYPE_OUTPUT
  | .ppm, c => (st.ar (c / PNET_MAX_CR)).cmsuState = .PF_CMSU_STATE_STARTUP ∧
    c % PNET_MAX_CR < (st.ar (c / PNET_MAX_CR)).nbrIocrs ∧
    (st.iocr c).iocrType = PF_IOCR_TYPE_INPUT
  | .apmx, k => (st.ar (k / 2)).cmsuState = .PF_CMSU_STATE_STARTUP ∧
    (st.apmx k).apmsState ≠ .PF_APMS_STATE_CLOSED

/-- The machine works on its timer. -/
def Running (st : Stack) : Kind → ℕ → Prop
  | .cpm, c => (st.iocr c).cpm.ciRunning = true
  | .ppm, c => (st.iocr c).ppm.ciRunning = true
  | k, i => ¬ AtRest st k i

/-- The slots of an AR. -/
def ofAr (a : ℕ) : Kind → ℕ → Prop := fun k i => k.arOf i = a

/-- A machine and its timer. Where `sent` is true, a PPM has always been able to send. -/
structure InOrder (p : Kind → Prop) (sent : Prop) (st : Stack) (k : Kind) (i : ℕ) : Prop where
  named : ¬ AtRest st k i → timers.Named st.sched k i
  used : ¬ AtRest st k i → (st.ar (k.arOf i)).inUse = true
  closes : k ≠ .cmio → ¬ AtRest st k i → Closes st k i
  running : Running st k i ↔ ¬ AtRest st k i
  timer : p k → timers.Idle st.sched k i ∨ timers.Armed st.sched k i ∧ ¬ AtRest st k i
  alive : p k → k = .cpm ∨ k = .ppm ∧ sent → ¬ AtRest st k i → timers.Armed st.sched k i

structure Orderly (p : Kind → Prop) (sent : Prop) (st : Stack) (a : ℕ) : Prop where
  poll : (st.ar a).inUse = true → timers.Named st.sched .cmio a
  early : (st.ar a).cmdevState = .PF_CMDEV_STATE_W_PEIND → AtRest st .cmio a
  slots : ∀ k i, ofAr a k i → InOrder p sent st k i

/-- The machine stays as it is. -/
structure SameMachine (st st' : Stack) (k : Kind) (i : ℕ) : Prop where
  inUse : (st'.ar (k.arOf i)).inUse = (st.ar (k.arOf i)).inUse
  atRest : AtRest st' k i ↔ AtRest st k i
  closes : Closes st' k i ↔ Closes st k i
  running : Running st' k i ↔ Running st k i

/-- The AR and its timers stay as they are. -/
structure Untouched (st st' : Stack) (a : ℕ) : Prop where
  ar : st'.ar a = st.ar a
  iocr : ∀ c, c / PNET_MAX_CR = a → st'.iocr c = st.iocr c
  apmx : ∀ k, k / 2 = a → st'.apmx k = st.apmx k
  timers : timers.Within (fun k i => ¬ ofAr a k i) st.sched st'.sched

/-- The other ARs are untouched. -/
structure Acts (a : ℕ) (st st' : Stack) : Prop where
  tidy : timers.Tidy st'.sched
  others : ∀ a', a' ≠ a → Untouched st st' a'

/-- All ARs are in order. -/
structure Good (p : Kind → Prop) (sent : Prop) (st : Stack) : Prop where
  tidy : timers.Tidy st.sched
  orderly : ∀ a, Orderly p sent st a

section
variable {p : Kind → Prop} {sent : Prop} {st st' st'' : Stack} {a a' k i : ℕ} {kind : Kind}
  {slots : Kind → ℕ → Prop}

theorem Untouched.refl (st : Stack) (a : ℕ) : Untouched st st a :=
  ⟨rfl, fun _ _ => rfl, fun _ _ => rfl, .refl _ _⟩

theorem Untouched.trans (h : Untouched st st' a) (h' : Untouched st' st'' a) :
    Untouched st st'' a :=
  ⟨h'.ar.trans h.ar, fun c hc => (h'.iocr c hc).trans (h.iocr c hc),
    fun k hk => (h'.apmx k hk).trans (h.apmx k hk), h.timers.trans h'.timers⟩

theorem Acts.trans (h : Acts a st st') (h' : Acts a st' st'') : Acts a st st'' :=
  ⟨h'.tidy, fun a' ha' => (h.others a' ha').trans (h'.others a' ha')⟩

theorem Acts.refl (ht : timers.Tidy st.sched) (a : ℕ) : Acts a st st :=
  ⟨ht, fun a' _ => .refl st a'⟩

/-- The timers of the slots of `a` change, and what belongs to `a`. -/
theorem Acts.of_within (ht : timers.Tidy st'.sched) (hw : timers.Within (ofAr a) st.sched st'.sched)
    (har : ∀ a', a' ≠ a → st'.ar a' = st.ar a')
    (hiocr : ∀ c, c / PNET_MAX_CR ≠ a → st'.iocr c = st.iocr c)
    (hapmx : ∀ k, k / 2 ≠ a → st'.apmx k = st.apmx k) : Acts a st st' := by
  refine ⟨ht, fun a' ha' => ⟨har a' ha', fun c hc => hiocr c ?_, fun k hk => hapmx k ?_,
    hw.mono ?_⟩⟩
  · rwa [hc]
  · rwa [hk]
  · intro k i hk hk'
    exact ha' (hk'.symm.trans hk)

/-- What the machine of a slot depends on. -/
theorem SameMachine.of_fields (hk : ofAr a kind i)
    (huse : (st'.ar a).inUse = (st.ar a).inUse)
    (hcmsu : (st'.ar a).cmsuState = (st.ar a).cmsuState)
    (hnbr : (st'.ar a).nbrIocrs = (st.ar a).nbrIocrs)
    (hcmio : kind = .cmio → (st'.ar a).cmioState = (st.ar a).cmioState)
    (hcmsm : kind = .cmsm → (st'.ar a).cmsmState = (st.ar a).cmsmState)
    (hcpm : kind = .cpm → (st'.iocr i).iocrType = (st.iocr i).iocrType ∧
      ((st'.iocr i).cpm.state = .PF_CPM_STATE_W_START ↔
        (st.iocr i).cpm.state = .PF_CPM_STATE_W_START) ∧
      (st'.iocr i).cpm.ciRunning = (st.iocr i).cpm.ciRunning)
    (hppm : kind = .ppm → (st'.iocr i).iocrType = (st.iocr i).iocrType ∧
      (st'.iocr i).ppm.state = (st.iocr i).ppm.state ∧
      (st'.iocr i).ppm.ciRunning = (st.iocr i).ppm.ciRunning)
    (hapmx : kind = .apmx → ((st'.apmx i).apmsState = .PF_APMS_STATE_CLOSED ↔
      (st.apmx i).apmsState = .PF_APMS_STATE_CLOSED)) :
    SameMachine st st' kind i := by
  have huse' : (st'.ar (kind.arOf i)).inUse = (st.ar (kind.arOf i)).inUse := by
    rwa [show kind.arOf i = a from hk]
  cases kind with
  | cmio =>
    obtain rfl : i = a := hk
    refine ⟨huse', ?_, Iff.rfl, ?_⟩
    · dsimp only [AtRest]
      rw [hcmio rfl]
    · dsimp only [Running, AtRest]
      rw [hcmio rfl]
  | cmsm =>
    obtain rfl : i = a := hk
    refine ⟨huse', ?_, ?_, ?_⟩
    · dsimp only [AtRest]
      rw [hcmsm rfl]
    · dsimp only [Closes]
      rw [hcmsm rfl]
    · dsimp only [Running, AtRest]
      rw [hcmsm rfl]
  | cpm =>
    have hc : i / PNET_MAX_CR = a := hk
    rcases hcpm rfl with ⟨htype, hstate, hrunning⟩
    refine ⟨huse', hstate, ?_, ?_⟩
    · dsimp only [Closes]
      rw [hc, hcmsu, hnbr, htype]
    · dsimp only [Running]
      rw [hrunning]
  | ppm =>
    have hc : i / PNET_MAX_CR = a := hk
    rcases hppm rfl with ⟨htype, hstate, hrunning⟩
    refine ⟨huse', ?_, ?_, ?_⟩
    · dsimp only [AtRest]
      rw [hstate]
    · dsimp only [Closes]
      rw [hc, hcmsu, hnbr, htype]
    · dsimp only [Running]
      rw [hrunning]
  | apmx =>
    have hk2 : i / 2 = a := hk
    refine ⟨huse', hapmx rfl, ?_, not_congr (hapmx rfl)⟩
    dsimp only [Closes]
    rw [hk2, hcmsu]
    exact and_congr_right fun _ => not_congr (hapmx rfl)

theorem Untouched.sameMachine (h : Untouched st st' a) (hk : ofAr a kind i) :
    SameMachine st st' kind i := by
  refine .of_fields hk (by rw [h.ar]) (by rw [h.ar]) (by rw [h.ar]) (fun _ => by rw [h.ar])
    (fun _ => by rw [h.ar]) ?_ ?_ ?_
  · rintro rfl
    rw [h.iocr i hk]
    exact ⟨rfl, .rfl, rfl⟩
  · rintro rfl
    rw [h.iocr i hk]
    exact ⟨rfl, rfl, rfl⟩
  · rintro rfl
    rw [h.apmx i hk]

/-- A machine that stays as it is, with its timer. -/
theorem InOrder.congr (h : InOrder p sent st kind i) (hm : SameMachine st st' kind i)
    (hw : timers.Within slots st.sched st'.sched) (hslot : ¬ slots kind i) :
    InOrder p sent st' kind i := by
  constructor
  · rw [hm.atRest, hw.named hslot]
    exact h.named
  · rw [hm.atRest, hm.inUse]
    exact h.used
  · rw [hm.atRest, hm.closes]
    exact h.closes
  · rw [hm.running, hm.atRest]
    exact h.running
  · rw [hw.idle hslot, hw.armed hslot, hm.atRest]
    exact h.timer
  · rw [hw.armed hslot, hm.atRest]
    exact h.alive

theorem Orderly.untouched (h : Orderly p sent st a) (hu : Untouched st st' a) :
    Orderly p sent st' a := by
  constructor
  · have hpoll : ofAr a .cmio a := rfl
    rw [hu.ar, hu.timers.named (not_not_intro hpoll)]
    exact h.poll
  · have hm : SameMachine st st' .cmio a := hu.sameMachine rfl
    rw [hu.ar, hm.atRest]
    exact h.early
  · exact fun k i hk => (h.slots k i hk).congr (hu.sameMachine hk) hu.timers (not_not_intro hk)

theorem Good.acts (h : Good p sent st) (ha : Acts a st st') (horder : Orderly p sent st' a) :
    Good p sent st' := by
  refine ⟨ha.tidy, fun a' => ?_⟩
  by_cases haa : a' = a
  · rw [haa]
    exact horder
  · exact (h.orderly a').untouched (ha.others a' haa)

/-- A machine at rest, without a timer. -/
theorem InOrder.of_rest (hrest : AtRest st kind i) (hrunning : ¬ Running st kind i)
    (hidle : p kind → timers.Idle st.sched kind i) : InOrder p sent st kind i :=
  ⟨fun hnot => absurd hrest hnot, fun hnot => absurd hrest hnot, fun _ hnot => absurd hrest hnot,
    iff_of_false hrunning (not_not_intro hrest), fun hp => .inl (hidle hp),
    fun _ _ hnot => absurd hrest hnot⟩

/-- Only the machine of one slot of the AR changes, and its timer. -/
theorem Orderly.machine (h : Orderly p sent st a) (hk : ofAr a kind i)
    (hw : timers.Within (Family.only kind i) st.sched st'.sched)
    (huse : (st'.ar a).inUse = (st.ar a).inUse)
    (hname : kind = .cmio → timers.Named st'.sched kind i)
    (hearly : (st'.ar a).cmdevState = .PF_CMDEV_STATE_W_PEIND → AtRest st' .cmio a)
    (hothers : ∀ k' i', ofAr a k' i' → ¬ (k' = kind ∧ i' = i) → SameMachine st st' k' i')
    (hself : InOrder p sent st' kind i) : Orderly p sent st' a := by
  constructor
  · intro h'
    by_cases hpoll : Family.only kind i .cmio a
    · rcases hpoll with ⟨rfl, rfl⟩
      exact hname rfl
    · rw [hw.named hpoll]
      exact h.poll (huse ▸ h')
  · exact hearly
  · intro k' i' hk'
    by_cases hki : k' = kind ∧ i' = i
    · rcases hki with ⟨rfl, rfl⟩
      exact hself
    · exact (h.slots k' i' hk').congr (hothers k' i' hk' hki) hw hki

/-- The machines of the AR stay as they are, and their timers. -/
theorem Orderly.congr (h : Orderly p sent st a) (hsched : st'.sched = st.sched)
    (huse : (st'.ar a).inUse = (st.ar a).inUse)
    (hearly : (st'.ar a).cmdevState = .PF_CMDEV_STATE_W_PEIND → AtRest st' .cmio a)
    (hm : ∀ k i, ofAr a k i → SameMachine st st' k i) : Orderly p sent st' a := by
  have hw : timers.Within Family.nothing st.sched st'.sched := by
    rw [hsched]
    exact .refl _ _
  constructor
  · rw [huse, hsched]
    exact h.poll
  · exact hearly
  · exact fun k i hk => (h.slots k i hk).congr (hm k i hk) hw id

/-- The timers of an AR that an ABORT stops, or that are not there: all but the poll of CMIO. -/
theorem Orderly.stops (h : Orderly p sent st a)
    (hpoll : p .cmio → timers.Idle st.sched .cmio a) {k : Kind} {i : ℕ} (hp : p k)
    (hk : ofAr a k i) :
    timers.Idle st.sched k i ∨ Closes st k i ∧ timers.Settled st.sched k i := by
  by_cases hcmio : k = Kind.cmio
  · subst hcmio
    obtain rfl : i = a := hk
    exact .inl (hpoll hp)
  · rcases (h.slots k i hk).timer hp with hidle | ⟨harmed, hnot⟩
    · exact .inl hidle
    · exact .inr ⟨(h.slots k i hk).closes hcmio hnot, .inr harmed⟩

end

/-! ## Operations -/

namespace Stack
variable {st st' : Stack} {a c i n : ℕ} {k : Kind} {delay now : Time} {r : ℤ × Stack}

theorem removeIfRunning_spec (ht : timers.Tidy st.sched) (h : st.removeIfRunning k i = some st') :
    ∃ s, st' = { st with sched := s } ∧ timers.Calms (Family.only k i) st.sched s ∧
      (timers.Settled st.sched k i → timers.Idle s k i) := by
  rcases Option.map_eq_some_iff.mp h with ⟨s, hs, rfl⟩
  exact ⟨s, rfl, ht.removeIfRunning_calms hs⟩

theorem removeIfRunning_named (ht : timers.Tidy st.sched)
    (h : st.removeIfRunning k i = some st') :
    timers.Named st'.sched k i ↔ timers.Named st.sched k i := by
  rcases Option.map_eq_some_iff.mp h with ⟨s, hs, rfl⟩
  exact (ht.removeIfRunning hs).2.2.1

theorem add_spec (ht : timers.Tidy st.sched) (hname : timers.Named st.sched k i)
    (h : st.add k i delay now = some r) :
    ∃ s, r.2 = { st with sched := s } ∧ timers.Tidy s ∧
      timers.Within (Family.only k i) st.sched s ∧ timers.Named s k i ∧
      (timers.Idle st.sched k i →
        (r.1 = 0 ∧ timers.Armed s k i) ∨ (r.1 = -1 ∧ timers.Idle s k i)) := by
  rcases Option.map_eq_some_iff.mp h with ⟨q, hq, rfl⟩
  exact ⟨q.2, rfl, ht.add hname hq⟩

theorem restart_spec (ht : timers.Tidy st.sched) (hname : timers.Named st.sched k i)
    (h : st.restart k i delay now = some r) :
    ∃ s, r.2 = { st with sched := s } ∧ timers.Tidy s ∧
      timers.Within (Family.only k i) st.sched s ∧ timers.Named s k i ∧
      (timers.Settled st.sched k i → timers.Settled s k i) := by
  rcases Option.map_eq_some_iff.mp h with ⟨q, hq, rfl⟩
  rcases ht.restart hname hq with ⟨ht', hw, hnamed, hslot⟩
  refine ⟨q.2, rfl, ht', hw, hnamed, fun hsettled => ?_⟩
  rcases hslot hsettled with ⟨-, harmed⟩ | ⟨-, hidle⟩
  · exact .inr harmed
  · exact .inl hidle

/-! ## Closing -/

/-- The timers of the CR that is closed are gone. -/
theorem closeIocr_spec (ht : timers.Tidy st.sched) (h : st.closeIocr c = some st') :
    ∃ s x, st' = { st with sched := s, iocr := Function.update st.iocr c x } ∧
      timers.Calms (fun k i => (k = Kind.cpm ∨ k = Kind.ppm) ∧ i = c) st.sched s ∧
      x.iocrType = (st.iocr c).iocrType ∧
      ((st.iocr c).iocrType = PF_IOCR_TYPE_INPUT → timers.Settled st.sched .ppm c →
        timers.Idle s .ppm c) ∧
      ((st.iocr c).iocrType = PF_IOCR_TYPE_OUTPUT → timers.Settled st.sched .cpm c →
        timers.Idle s .cpm c) := by
  unfold closeIocr at h
  by_cases hin : (st.iocr c).iocrType = PF_IOCR_TYPE_INPUT
  · rw [if_pos hin] at h
    rcases Option.map_eq_some_iff.mp h with ⟨st1, h1, rfl⟩
    rcases removeIfRunning_spec ht h1 with ⟨s, rfl, hcalms, hidle⟩
    refine ⟨s, { st.iocr c with ppm := (st.iocr c).ppm.closeReq }, rfl, hcalms.mono ?_, rfl,
      fun _ => hidle, fun hout => ?_⟩
    · rintro k i ⟨rfl, rfl⟩
      exact ⟨.inr rfl, rfl⟩
    · rw [hin] at hout
      exact absurd hout (by decide)
  · rw [if_neg hin] at h
    by_cases hout : (st.iocr c).iocrType = PF_IOCR_TYPE_OUTPUT
    · rw [if_pos hout] at h
      rcases Option.map_eq_some_iff.mp h with ⟨st1, h1, rfl⟩
      rcases removeIfRunning_spec ht h1 with ⟨s, rfl, hcalms, hidle⟩
      refine ⟨s, { st.iocr c with cpm := (st.iocr c).cpm.closeReq }, rfl, hcalms.mono ?_, rfl,
        fun h' => absurd h' hin, fun _ => hidle⟩
      rintro k i ⟨rfl, rfl⟩
      exact ⟨.inl rfl, rfl⟩
    · rw [if_neg hout] at h
      obtain rfl : st = st' := Option.some.inj h
      refine ⟨st.sched, st.iocr c, ?_, .refl ht _, rfl, fun h' => absurd h' hin,
        fun h' => absurd h' hout⟩
      rw [Function.update_eq_self]

theorem apmxClose_spec (ht : timers.Tidy st.sched) (h : st.apmxClose i = some st') :
    ∃ s x, st' = { st with sched := s, apmx := Function.update st.apmx i x } ∧
      timers.Calms (Family.only .apmx i) st.sched s ∧
      ((st.apmx i).apmsState ≠ Alarm.ApmsState.PF_APMS_STATE_CLOSED → timers.Settled st.sched .apmx i →
        timers.Idle s .apmx i) := by
  unfold apmxClose at h
  by_cases hclosed : (st.apmx i).apmsState = Alarm.ApmsState.PF_APMS_STATE_CLOSED
  · rw [if_pos hclosed] at h
    obtain rfl : st = st' := Option.some.inj h
    refine ⟨st.sched, st.apmx i, ?_, .refl ht _, fun h' => absurd hclosed h'⟩
    rw [Function.update_eq_self]
  · rw [if_neg hclosed] at h
    rcases Option.map_eq_some_iff.mp h with ⟨st1, h1, rfl⟩
    rcases removeIfRunning_spec ht h1 with ⟨s, rfl, hcalms, hidle⟩
    exact ⟨s, _, rfl, hcalms, fun _ => hidle⟩

/-- The CRs of the AR before the CR `n` have been closed. -/
structure ClosedBelow (st : Stack) (a n : ℕ) (st' : Stack) : Prop where
  same : st' = { st with sched := st'.sched, iocr := st'.iocr }
  calms : timers.Calms (ofAr a) st.sched st'.sched
  others : ∀ c, c / PNET_MAX_CR ≠ a → st'.iocr c = st.iocr c
  type : ∀ c, (st'.iocr c).iocrType = (st.iocr c).iocrType
  ppm : ∀ crep < n, crep < (st.ar a).nbrIocrs →
    (st.iocr (crOf a crep)).iocrType = PF_IOCR_TYPE_INPUT →
    timers.Settled st.sched .ppm (crOf a crep) → timers.Idle st'.sched .ppm (crOf a crep)
  cpm : ∀ crep < n, crep < (st.ar a).nbrIocrs →
    (st.iocr (crOf a crep)).iocrType = PF_IOCR_TYPE_OUTPUT →
    timers.Settled st.sched .cpm (crOf a crep) → timers.Idle st'.sched .cpm (crOf a crep)

theorem closeIocrs_spec (ht : timers.Tidy st.sched)
    (h : forCreps (fun st : Stack => (st.ar a).nbrIocrs)
      (fun st crep => st.closeIocr (crOf a crep)) st = some st') :
    ClosedBelow st a PNET_MAX_CR st' := by
  refine forCreps_run (P := ClosedBelow st a) ?_ ?_ ?_ h
  · exact ⟨rfl, .refl ht _, fun _ _ => rfl, fun _ => rfl, fun _ hlt => absurd hlt (Nat.not_lt_zero _),
      fun _ hlt => absurd hlt (Nat.not_lt_zero _)⟩
  · intro n b b' hn hP hlt hb
    rcases closeIocr_spec hP.calms.tidy hb with ⟨s, x, rfl, hcalms, htype, hppm, hcpm⟩
    have hcr := crOf_div a hn
    have hslots : timers.Calms (ofAr a) b.sched s := by
      refine hcalms.mono ?_
      rintro k i ⟨rfl | rfl, rfl⟩
      · exact hcr
      · exact hcr
    refine ⟨?_, hP.calms.trans hslots, ?_, ?_, ?_, ?_⟩
    · rw [hP.same]
    · intro c hc
      have hne : c ≠ crOf a n := by
        rintro rfl
        exact hc hcr
      show Function.update b.iocr (crOf a n) x c = _
      rw [Function.update_of_ne hne]
      exact hP.others c hc
    · intro c
      show (Function.update b.iocr (crOf a n) x c).iocrType = _
      by_cases hc : c = crOf a n
      · rw [hc, Function.update_self, htype]
        exact hP.type _
      · rw [Function.update_of_ne hc]
        exact hP.type c
    · intro crep hcrep hnbr hin hslot
      by_cases hcn : crep = n
      · subst hcn
        exact hppm ((hP.type _).trans hin) (hP.calms.settled _ _ hslot)
      · exact hslots.idle _ _ (hP.ppm crep (by omega) hnbr hin hslot)
    · intro crep hcrep hnbr hout hslot
      by_cases hcn : crep = n
      · subst hcn
        exact hcpm ((hP.type _).trans hout) (hP.calms.settled _ _ hslot)
      · exact hslots.idle _ _ (hP.cpm crep (by omega) hnbr hout hslot)
  · intro n b hP hnot
    have hnbr : (b.ar a).nbrIocrs = (st.ar a).nbrIocrs := by rw [hP.same]
    rw [hnbr] at hnot
    refine ⟨hP.same, hP.calms, hP.others, hP.type, ?_, ?_⟩
    · intro crep hcrep hlt
      exact hP.ppm crep (by omega) hlt
    · intro crep hcrep hlt
      exact hP.cpm crep (by omega) hlt

theorem alarmClose_spec (ht : timers.Tidy st.sched) (h : st.alarmClose a = some st') :
    ∃ s ap, st' = { st with sched := s, apmx := ap } ∧ timers.Calms (ofAr a) st.sched s ∧
      (∀ k, k / 2 ≠ a → ap k = st.apmx k) ∧
      (∀ k, k / 2 = a → (st.apmx k).apmsState ≠ Alarm.ApmsState.PF_APMS_STATE_CLOSED →
        timers.Settled st.sched .apmx k → timers.Idle s .apmx k) := by
  have hofAr {k : ℕ} (hk : k / 2 = a) :
      ∀ kind i, Family.only Kind.apmx k kind i → ofAr a kind i := by
    rintro kind i ⟨rfl, rfl⟩
    exact hk
  rcases Option.bind_eq_some_iff.mp h with ⟨st1, h1, h2⟩
  rcases apmxClose_spec ht h1 with ⟨s1, x1, rfl, hcalms1, hidle1⟩
  rcases apmxClose_spec hcalms1.tidy h2 with ⟨s2, x2, rfl, hcalms2, hidle2⟩
  refine ⟨s2, _, rfl, (hcalms1.mono (hofAr (by omega))).trans (hcalms2.mono (hofAr (by omega))),
    ?_, ?_⟩
  · intro k hk
    show Function.update (Function.update st.apmx _ x1) _ x2 k = _
    rw [Function.update_of_ne (by omega), Function.update_of_ne (by omega)]
  · intro k hk hopen hslot
    have hcases : k = 2 * a ∨ k = 2 * a + 1 := by omega
    rcases hcases with rfl | rfl
    · exact hcalms2.idle _ _ (hidle1 hopen hslot)
    · refine hidle2 ?_ (hcalms1.settled _ _ hslot)
      show (Function.update st.apmx (2 * a) x1 (2 * a + 1)).apmsState ≠ _
      rw [Function.update_of_ne (by omega)]
      exact hopen

/-- What an ABORT changes before the AR is released. -/
structure Aborting (st : Stack) (a : ℕ) (st' : Stack) : Prop where
  same : st' = { st with
    sched := st'.sched
    iocr := st'.iocr
    apmx := st'.apmx
    ar := Function.update st.ar a (st'.ar a) }
  inUse : (st'.ar a).inUse = (st.ar a).inUse
  calms : timers.Calms (ofAr a) st.sched st'.sched
  iocr : ∀ c, c / PNET_MAX_CR ≠ a → st'.iocr c = st.iocr c
  apmx : ∀ k, k / 2 ≠ a → st'.apmx k = st.apmx k

theorem Aborting.refl (ht : timers.Tidy st.sched) : Aborting st a st := by
  refine ⟨?_, rfl, .refl ht _, fun _ _ => rfl, fun _ _ => rfl⟩
  rw [Function.update_eq_self]

theorem Aborting.trans {st'' : Stack} (h : Aborting st a st') (h' : Aborting st' a st'') :
    Aborting st a st'' := by
  refine ⟨?_, h'.inUse.trans h.inUse, h.calms.trans h'.calms,
    fun c hc => (h'.iocr c hc).trans (h.iocr c hc), fun k hk => (h'.apmx k hk).trans (h.apmx k hk)⟩
  rw [h'.same, h.same]
  simp only [Function.update_idem, Function.update_self]

/-- Only the AR itself changes. -/
theorem Aborting.setAr (ht : timers.Tidy st.sched) (x : Ar) (huse : x.inUse = (st.ar a).inUse) :
    Aborting st a (st.setAr a x) := by
  refine ⟨?_, ?_, .refl ht _, fun _ _ => rfl, fun _ _ => rfl⟩
  · show _ = { st.setAr a x with ar := Function.update st.ar a (Function.update st.ar a x a) }
    rw [Function.update_self]
    rfl
  · show (Function.update st.ar a x a).inUse = _
    rw [Function.update_self]
    exact huse

theorem Aborting.sched {s : St} (h : timers.Calms (ofAr a) st.sched s) :
    Aborting st a { st with sched := s } := by
  refine ⟨?_, rfl, h, fun _ _ => rfl, fun _ _ => rfl⟩
  rw [Function.update_eq_self]

/-- The timers that CMSU stops. -/
theorem cmsuAbort_spec (ht : timers.Tidy st.sched) (h : st.cmsuAbort a = some st') :
    Aborting st a st' ∧ (st'.ar a).cmsmState = (st.ar a).cmsmState ∧
      ∀ k i, ofAr a k i → k ≠ .cmsm → Closes st k i → timers.Settled st.sched k i →
        timers.Idle st'.sched k i := by
  rcases Option.bind_eq_some_iff.mp h with ⟨st1, h1, h⟩
  rcases Option.map_eq_some_iff.mp h with ⟨st2, h2, rfl⟩
  have hcrs := closeIocrs_spec ht h1
  rcases alarmClose_spec hcrs.calms.tidy h2 with ⟨s, ap, hst2, hcalms, hothers, hidle⟩
  have hap : st1.apmx = st.apmx := by rw [hcrs.same]
  have har : st1.ar = st.ar := by rw [hcrs.same]
  have hclosed : Aborting st a st2 := by
    refine ⟨?_, ?_, ?_, ?_, ?_⟩
    · rw [hst2, hcrs.same, Function.update_eq_self]
    · rw [hst2, har]
    · rw [hst2]
      exact hcrs.calms.trans hcalms
    · rw [hst2]
      exact hcrs.others
    · intro k hk
      rw [hst2, ← hap]
      exact hothers k hk
  refine ⟨hclosed.trans (.setAr hclosed.calms.tidy _ rfl), ?_, ?_⟩
  · show (Function.update st2.ar a _ a).cmsmState = _
    rw [Function.update_self, hst2, har]
  · intro k i hk hne hcloses hslot
    show timers.Idle st2.sched k i
    rw [hst2]
    cases k with
    | cmio => exact absurd hcloses id
    | cmsm => exact absurd rfl hne
    | cpm =>
      have hc : i / PNET_MAX_CR = a := hk
      rcases hcloses with ⟨-, hlt, htype⟩
      rw [hc] at hlt
      have hcr : crOf a (i % PNET_MAX_CR) = i := hc ▸ crOf_eq i
      have hidle := hcrs.cpm (i % PNET_MAX_CR) (mod_lt i) hlt
      rw [hcr] at hidle
      exact hcalms.idle _ _ (hidle htype hslot)
    | ppm =>
      have hc : i / PNET_MAX_CR = a := hk
      rcases hcloses with ⟨-, hlt, htype⟩
      rw [hc] at hlt
      have hcr : crOf a (i % PNET_MAX_CR) = i := hc ▸ crOf_eq i
      have hidle := hcrs.ppm (i % PNET_MAX_CR) (mod_lt i) hlt
      rw [hcr] at hidle
      exact hcalms.idle _ _ (hidle htype hslot)
    | apmx =>
      refine hidle i hk ?_ (hcrs.calms.settled _ _ hslot)
      rw [hap]
      exact hcloses.2

theorem cmsuCmdevStateInd_abort (ht : timers.Tidy st.sched) (onError : Stack → ℕ → Option Stack)
    (clock : ℕ → Time) (h : st.cmsuCmdevStateInd onError a .PNET_EVENT_ABORT clock = some st') :
    Aborting st a st' ∧ (st'.ar a).cmsmState = (st.ar a).cmsmState ∧
      ∀ k i, ofAr a k i → k ≠ .cmsm → Closes st k i → timers.Settled st.sched k i →
        timers.Idle st'.sched k i := by
  have hnone (hstate : (st.ar a).cmsuState ≠ CmsuState.PF_CMSU_STATE_STARTUP)
      (h : some st = some st') :
      Aborting st a st' ∧ (st'.ar a).cmsmState = (st.ar a).cmsmState ∧
        ∀ k i, ofAr a k i → k ≠ Kind.cmsm → Closes st k i → timers.Settled st.sched k i →
          timers.Idle st'.sched k i := by
    obtain rfl : st = st' := Option.some.inj h
    refine ⟨.refl ht, rfl, fun k i hk hne hcloses => absurd ?_ hstate⟩
    cases k with
    | cmio => exact absurd hcloses id
    | cmsm => exact absurd rfl hne
    | cpm => exact (show i / PNET_MAX_CR = a from hk) ▸ hcloses.1
    | ppm => exact (show i / PNET_MAX_CR = a from hk) ▸ hcloses.1
    | apmx => exact (show i / 2 = a from hk) ▸ hcloses.1
  unfold cmsuCmdevStateInd at h
  cases hstate : (st.ar a).cmsuState with
  | PF_CMSU_STATE_IDLE => exact hnone (by rw [hstate]; decide) (by rwa [hstate] at h)
  | PF_CMSU_STATE_STARTUP => exact cmsuAbort_spec ht (by rwa [hstate] at h)
  | PF_CMSU_STATE_RUN => exact cmsuAbort_spec ht (by rwa [hstate] at h)
  | PF_CMSU_STATE_ABORT => exact hnone (by rw [hstate]; decide) (by rwa [hstate] at h)

theorem cmioCmdevStateInd_abort (ht : timers.Tidy st.sched)
    (h : st.cmioCmdevStateInd a .PNET_EVENT_ABORT now = some st') :
    Aborting st a st' ∧ (st'.ar a).cmsmState = (st.ar a).cmsmState ∧ st'.sched = st.sched := by
  have hset (state : CmioState) (h : some ((st.setShouldReschedule a false).setCmioState a state) =
      some st') : Aborting st a st' ∧ (st'.ar a).cmsmState = (st.ar a).cmsmState ∧
        st'.sched = st.sched := by
    obtain rfl := Option.some.inj h
    have h1 : Aborting st a (st.setShouldReschedule a false) := .setAr ht _ rfl
    refine ⟨h1.trans (.setAr h1.calms.tidy _ rfl), ?_, rfl⟩
    show (Function.update (Function.update st.ar a _) a _ a).cmsmState = _
    rw [Function.update_self]
    show (Function.update st.ar a _ a).cmsmState = _
    rw [Function.update_self]
  unfold cmioCmdevStateInd at h
  cases hstate : (st.ar a).cmioState with
  | PF_CMIO_STATE_IDLE => exact hset _ (by rwa [hstate] at h)
  | PF_CMIO_STATE_STARTUP => exact hset _ (by rwa [hstate] at h)
  | PF_CMIO_STATE_WDATA => exact hset _ (by rwa [hstate] at h)
  | PF_CMIO_STATE_DATA => exact hset _ (by rwa [hstate] at h)

theorem cmsmCmdevStateInd_abort (ht : timers.Tidy st.sched)
    (h : st.cmsmCmdevStateInd a .PNET_EVENT_ABORT now = some st') :
    Aborting st a st' ∧ ((st.ar a).cmsmState = .PF_CMSM_STATE_RUN →
      timers.Settled st.sched .cmsm a → timers.Idle st'.sched .cmsm a) := by
  unfold cmsmCmdevStateInd at h
  cases hstate : (st.ar a).cmsmState with
  | PF_CMSM_STATE_IDLE =>
    rw [hstate] at h
    obtain rfl : st = st' := Option.some.inj h
    exact ⟨.refl ht, fun h' => absurd h' (by decide)⟩
  | PF_CMSM_STATE_RUN =>
    rw [hstate] at h
    rcases Option.map_eq_some_iff.mp h with ⟨st1, h1, rfl⟩
    rcases removeIfRunning_spec ht h1 with ⟨s, rfl, hcalms, hidle⟩
    have hs : Aborting st a { st with sched := s } := by
      refine .sched (hcalms.mono ?_)
      rintro k i ⟨rfl, rfl⟩
      rfl
    exact ⟨hs.trans (.setAr hs.calms.tidy _ rfl), fun _ => hidle⟩

/-! ## Release -/

theorem handleOfAr_iff (a : ℕ) (k : Kind) (i : ℕ) :
    handleOfAr a (timers.handle k i) = true ↔ ofAr a k i := by
  have hpos := k.num_pos
  have hlt := k.num_lt
  have hmod : (6 * i + k.num) % 6 = k.num := by omega
  have hdiv : (6 * i + k.num) / 6 = i := by omega
  show handleOfAr a (6 * i + k.num) = true ↔ k.arOf i = a
  unfold handleOfAr
  rw [hmod, hdiv, Kind.ofNum_num]
  exact decide_eq_true_iff

/-- `memset` of an AR. -/
theorem zeroed_spec (ht : timers.Tidy st.sched) (a : ℕ) :
    timers.Tidy (st.zeroed a).sched ∧ timers.Within (ofAr a) st.sched (st.zeroed a).sched ∧
      ∀ k i, timers.Idle (st.zeroed a).sched k i ↔ timers.Idle st.sched k i := by
  have hsched : (st.zeroed a).sched = Family.zeroHandles st.sched (handleOfAr a) := rfl
  rw [hsched]
  rcases ht.zeroHandles (handleOfAr a) with ⟨ht', hw, hruns⟩
  refine ⟨ht', ⟨?_, ?_, hw.tickInterval⟩, ?_⟩
  · exact fun k i hk => hw.runs k i fun h => hk ((handleOfAr_iff a k i).mp h)
  · exact fun k i hk => hw.handles k i fun h => hk ((handleOfAr_iff a k i).mp h)
  · exact fun k i => forall_congr' fun e => not_congr (hruns k i e)

/-- What an ABORT leaves of an AR: the AR is zero, and its timers are gone but those that nothing
stops. -/
theorem abort_spec (ht : timers.Tidy st.sched) (huse : (st.ar a).inUse = true)
    (h : st.abort a = some st') :
    ∃ s, st' = { (st.note (.event (st.connection a) .PNET_EVENT_ABORT)).zeroed a with sched := s } ∧
      timers.Tidy s ∧ timers.Within (ofAr a) st.sched s ∧
      ∀ k i, ofAr a k i →
        (timers.Idle st.sched k i ∨ Closes st k i ∧ timers.Settled st.sched k i) →
        timers.Idle s k i := by
  have htold : timers.Tidy (st.note (.event (st.connection a) .PNET_EVENT_ABORT)).sched := ht
  unfold abort cmdevStateIndWith at h
  rcases Option.bind_eq_some_iff.mp h with ⟨st1, h1, h⟩
  rcases Option.bind_eq_some_iff.mp h with ⟨st2, h2, h⟩
  rcases Option.map_eq_some_iff.mp h with ⟨st3, h3, rfl⟩
  rcases cmsuCmdevStateInd_abort htold _ _ h1 with ⟨hab1, hcmsm1, hidle1⟩
  rcases cmioCmdevStateInd_abort hab1.calms.tidy h2 with ⟨hab2, hcmsm2, -⟩
  rcases cmsmCmdevStateInd_abort hab2.calms.tidy h3 with ⟨hab3, hidle3⟩
  have hab := (hab1.trans hab2).trans hab3
  have hrelease : st3.cmrpcCmdevStateInd a .PNET_EVENT_ABORT = st3.zeroed a :=
    if_pos (hab.inUse.trans huse)
  rcases zeroed_spec hab.calms.tidy a with ⟨ht', hw', hzero⟩
  refine ⟨(st3.zeroed a).sched, ?_, ht', hab.calms.within.trans hw', ?_⟩
  · rw [hrelease]
    unfold zeroed
    rw [hab.same]
    dsimp only
    rw [Function.update_idem]
    congr 1
    · funext c
      by_cases hc : c / PNET_MAX_CR = a
      · rw [if_pos hc, if_pos hc]
      · rw [if_neg hc, if_neg hc]
        exact hab.iocr c hc
    · funext k
      by_cases hk : k / 2 = a
      · rw [if_pos hk, if_pos hk]
      · rw [if_neg hk, if_neg hk]
        exact hab.apmx k hk
  · intro k i hk hslot
    rw [hzero]
    have hlater (h1 : timers.Idle st1.sched k i) : timers.Idle st3.sched k i :=
      (hab2.trans hab3).calms.idle k i h1
    rcases hslot with hidle | ⟨hcloses, hsettled⟩
    · exact hab.calms.idle k i hidle
    · by_cases hne : k = Kind.cmsm
      · subst hne
        obtain rfl : i = a := hk
        refine hidle3 ?_ ((hab1.trans hab2).calms.settled _ _ hsettled)
        rw [hcmsm2, hcmsm1]
        exact hcloses
      · exact hlater (hidle1 k i hk hne hcloses hsettled)

theorem zeroed_inUse (st : Stack) (a : ℕ) : ((st.zeroed a).ar a).inUse = false := by
  show (Function.update st.ar a .zero a).inUse = false
  rw [Function.update_self]
  rfl

theorem zeroed_atRest (st : Stack) (hk : ofAr a k i) :
    AtRest (st.zeroed a) k i ∧ ¬ Running (st.zeroed a) k i := by
  have har : (st.zeroed a).ar a = .zero := Function.update_self _ _ _
  cases k with
  | cmio =>
    obtain rfl : i = a := hk
    dsimp only [Running, AtRest]
    rw [har]
    exact ⟨.inl rfl, fun h => h (.inl rfl)⟩
  | cmsm =>
    obtain rfl : i = a := hk
    dsimp only [Running, AtRest]
    rw [har]
    exact ⟨rfl, fun h => h rfl⟩
  | cpm =>
    have hio : (st.zeroed a).iocr i = .zero := if_pos hk
    dsimp only [Running, AtRest]
    rw [hio]
    exact ⟨rfl, Bool.false_ne_true⟩
  | ppm =>
    have hio : (st.zeroed a).iocr i = .zero := if_pos hk
    dsimp only [Running, AtRest]
    rw [hio]
    exact ⟨rfl, Bool.false_ne_true⟩
  | apmx =>
    have hx : (st.zeroed a).apmx i = .zero := if_pos hk
    dsimp only [Running, AtRest]
    rw [hx]
    exact ⟨rfl, fun h => h rfl⟩

/-- The state after the AR has been zeroed, but for the timers of the AR. -/
theorem zeroed_acts {s : St} (ht : timers.Tidy s) (hw : timers.Within (ofAr a) st.sched s) :
    Acts a st { st.zeroed a with sched := s } :=
  .of_within ht hw (fun _ ha' => Function.update_of_ne ha' _ _) (fun _ hc => if_neg hc)
    fun _ hk => if_neg hk

theorem zeroed_orderly {p : Kind → Prop} {sent : Prop} {s : St}
    (hidle : ∀ k i, p k → ofAr a k i → timers.Idle s k i) :
    Orderly p sent { st.zeroed a with sched := s } a := by
  constructor
  · intro huse
    exact absurd ((zeroed_inUse st a).symm.trans huse) Bool.false_ne_true
  · exact fun _ => (zeroed_atRest st (k := .cmio) (i := a) rfl).1
  · intro k i hk
    rcases zeroed_atRest st hk with ⟨hrest, hrunning⟩
    have hrest' : AtRest { st.zeroed a with sched := s } k i := hrest
    exact .of_rest hrest' hrunning fun hp => hidle k i hp hk

/-- After an ABORT the AR is in order when its timers were ones that the ABORT stops. -/
theorem abort_orderly {p : Kind → Prop} {sent : Prop} (ht : timers.Tidy st.sched)
    (huse : (st.ar a).inUse = true)
    (hstops : ∀ k i, p k → ofAr a k i →
      timers.Idle st.sched k i ∨ Closes st k i ∧ timers.Settled st.sched k i)
    (h : st.abort a = some st') :
    Acts a st st' ∧ Orderly p sent st' a ∧ (st'.ar a).inUse = false := by
  rcases abort_spec ht huse h with ⟨s, rfl, ht', hw, hidle⟩
  have hacts : Acts a st { st.zeroed a with sched := s } := zeroed_acts ht' hw
  refine ⟨⟨ht', fun a' ha' => ?_⟩, ?_, zeroed_inUse _ a⟩
  · exact ⟨(hacts.others a' ha').ar, (hacts.others a' ha').iocr, (hacts.others a' ha').apmx,
      (hacts.others a' ha').timers⟩
  · exact zeroed_orderly fun k i hp hk => hidle k i hk (hstops k i hp hk)

end Stack

end PNet.LifeCycle
