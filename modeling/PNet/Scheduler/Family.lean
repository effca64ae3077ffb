import PNet.Scheduler.Component

/-! # The timers of several components

The components of a system have handles, names and call-backs of their own, so what one of them does
to its timers is the call of another user to the others. A timer slot, that is, an instance of one of
the components, is `Idle` while it has no pending timer, and `Armed` while it has one, to which its
handle refers.

* `Tidy.add`, `Tidy.removeIfRunning`, `Tidy.restart`, `Tidy.fire`: what a component does to a slot.
* `Within.idle`, `Within.armed`: the other slots stay as they are.
-/

namespace PNet.Scheduler

structure Family (κ : Type) where
  comp : κ → Component
  handle_ne : ∀ k k' i j, k ≠ k' → (comp k).handle i ≠ (comp k').handle j
  name_ne : ∀ k k', k ≠ k' → (comp k).name ≠ (comp k').name
  cb_ne : ∀ k k', k ≠ k' → (comp k).cb ≠ (comp k').cb
  name_pos : ∀ k, (comp k).name ≠ 0

namespace Family
variable {κ : Type} (f : Family κ)

def handle (k : κ) (i : ℕ) : ℕ := (f.comp k).handle i

def job (k : κ) (i : ℕ) : Job := (f.comp k).job i

/-- `e` is a pending timer of the slot. -/
def Runs (s : St) (k : κ) (i : ℕ) (e : Timer) : Prop := (f.comp k).Runs s i e

/-- The handle of the slot has been initialised. -/
def Named (s : St) (k : κ) (i : ℕ) : Prop := (s.handles (f.handle k i)).name = (f.comp k).name

def Idle (s : St) (k : κ) (i : ℕ) : Prop := ∀ e, ¬ f.Runs s k i e

def Armed (s : St) (k : κ) (i : ℕ) : Prop :=
  ∃ e, (s.handles (f.handle k i)).timerIndex = e.ix + 1 ∧ ∀ e', f.Runs s k i e' ↔ e' = e

/-- There is no timer but the one that the handle refers to. -/
def Settled (s : St) (k : κ) (i : ℕ) : Prop := f.Idle s k i ∨ f.Armed s k i

/-- A call of a user outside of the family. -/
def Foreign (call : Call) : Prop := ∀ k, (f.comp k).Foreign call

/-- Each component is tidy, and a handle that refers to something has been initialised. -/
structure Tidy (s : St) : Prop where
  represents : ∃ q, Represents s q
  each : ∀ k, (f.comp k).Tidy s
  known : ∀ k i, (s.handles (f.handle k i)).timerIndex = 0 ∨
    (s.handles (f.handle k i)).timerIndex = UINT32_MAX ∨ f.Named s k i

/-- Only the slots of `p` may change. -/
structure Within (p : κ → ℕ → Prop) (s s' : St) : Prop where
  runs : ∀ k i, ¬ p k i → ∀ e, f.Runs s' k i e ↔ f.Runs s k i e
  handles : ∀ k i, ¬ p k i → s'.handles (f.handle k i) = s.handles (f.handle k i)
  tickInterval : s'.tickInterval = s.tickInterval

/-- Slots of `p` may lose timers, and no slot gets any. -/
structure Calms (p : κ → ℕ → Prop) (s s' : St) : Prop where
  tidy : f.Tidy s'
  within : f.Within p s s'
  idle : ∀ k i, f.Idle s k i → f.Idle s' k i
  settled : ∀ k i, f.Settled s k i → f.Settled s' k i

/-- One slot. -/
def only (k : κ) (i : ℕ) : κ → ℕ → Prop := fun k' i' => k' = k ∧ i' = i

/-- No slot. -/
def nothing : κ → ℕ → Prop := fun _ _ => False

section
variable {f} {s s' s'' : St} {p p' : κ → ℕ → Prop} {k k' : κ} {i i' : ℕ}

/-! ## What stays -/

theorem Within.refl (p : κ → ℕ → Prop) (s : St) : f.Within p s s :=
  ⟨fun _ _ _ _ => Iff.rfl, fun _ _ _ => rfl, rfl⟩

theorem Within.trans (h : f.Within p s s') (h' : f.Within p s' s'') : f.Within p s s'' := by
  constructor
  · intro k i hp e
    rw [h'.runs k i hp, h.runs k i hp]
  · intro k i hp
    rw [h'.handles k i hp, h.handles k i hp]
  · rw [h'.tickInterval, h.tickInterval]

theorem Within.mono (h : f.Within p s s') (hp : ∀ k i, p k i → p' k i) : f.Within p' s s' :=
  ⟨fun k i hn => h.runs k i fun hk => hn (hp k i hk),
    fun k i hn => h.handles k i fun hk => hn (hp k i hk), h.tickInterval⟩

theorem Within.idle (h : f.Within p s s') (hp : ¬ p k i) : f.Idle s' k i ↔ f.Idle s k i :=
  forall_congr' fun e => not_congr (h.runs k i hp e)

theorem Within.armed (h : f.Within p s s') (hp : ¬ p k i) : f.Armed s' k i ↔ f.Armed s k i := by
  unfold Armed
  rw [h.handles k i hp]
  exact exists_congr fun e => and_congr_right fun _ =>
    forall_congr' fun e' => iff_congr (h.runs k i hp e') Iff.rfl

theorem Within.named (h : f.Within p s s') (hp : ¬ p k i) : f.Named s' k i ↔ f.Named s k i := by
  unfold Named
  rw [h.handles k i hp]

theorem Calms.refl (ht : f.Tidy s) (p : κ → ℕ → Prop) : f.Calms p s s :=
  ⟨ht, .refl p s, fun _ _ => id, fun _ _ => id⟩

theorem Calms.trans (h : f.Calms p s s') (h' : f.Calms p s' s'') : f.Calms p s s'' :=
  ⟨h'.tidy, h.within.trans h'.within, fun k i hi => h'.idle k i (h.idle k i hi),
    fun k i hi => h'.settled k i (h.settled k i hi)⟩

theorem Calms.mono (h : f.Calms p s s') (hp : ∀ k i, p k i → p' k i) : f.Calms p' s s' :=
  ⟨h.tidy, h.within.mono hp, h.idle, h.settled⟩

theorem Armed.unique (h : f.Armed s k i) : ∃! e, f.Runs s k i e := by
  rcases h with ⟨e, -, hall⟩
  exact ⟨e, (hall e).mpr rfl, fun e' he' => (hall e').mp he'⟩

theorem Within.settled (h : f.Within p s s') (hp : ¬ p k i) :
    f.Settled s' k i ↔ f.Settled s k i := or_congr (h.idle hp) (h.armed hp)

theorem handle_eq (h : f.handle k i = f.handle k' i') : k = k' ∧ i = i' := by
  by_cases hk : k = k'
  · subst hk
    exact ⟨rfl, (f.comp k).handle_inj _ _ h⟩
  · exact absurd h (f.handle_ne k k' i i' hk)

/-! ## The start -/

/-- A scheduler that has just been initialised has no timer, and its handles are zero. -/
theorem init_tidy {tickInterval : Time} (h : pfSchedulerInit blank tickInterval = some s) :
    f.Tidy s ∧ ∀ k i, f.Idle s k i := by
  have hq := init_completes h
  have hempty : pending s = [] := hq.pending_eq
  have hhandles : s.handles = blank.handles := by
    unfold pfSchedulerInit at h
    by_cases ht : 0#32 < tickInterval
    · rw [if_neg (not_not_intro ht)] at h
      rcases Option.map_eq_some_iff.mp h with ⟨r, -, rfl⟩
      rfl
    · rw [if_pos ht] at h
      cases h
  refine ⟨⟨⟨_, hq⟩, fun k => ⟨?_, ?_, fun i => ?_⟩, fun k i => ?_⟩, fun k i e he => ?_⟩
  · intro g _
    rw [hhandles]
    exact (f.name_pos k).symm
  · intro e he
    rw [hempty] at he
    cases he
  · rw [hhandles]
    exact .inr (.inl rfl)
  · rw [hhandles]
    exact .inl rfl
  · have hmem : e ∈ pending s := he.1
    rw [hempty] at hmem
    cases hmem

/-! ## Handles -/

theorem runs_setHandle (ht : f.Tidy s) (h : ℕ) (v : Handle) (k : κ) (i : ℕ) (e : Timer) :
    f.Runs (s.setHandle h v) k i e ↔ f.Runs s k i e := by
  rcases ht.represents with ⟨q, hq⟩
  exact Component.runs_setHandle hq h v i e

/-- The handle of a slot refers to no timer from now on. -/
theorem Tidy.clearHandle (ht : f.Tidy s) (k : κ) (i : ℕ) {v : Handle}
    (hv : v.timerIndex = UINT32_MAX ∨ v.timerIndex = 0)
    (hname : ∀ k', k' ≠ k → v.name ≠ (f.comp k').name) :
    f.Tidy (s.setHandle (f.handle k i) v) ∧
      f.Within (only k i) s (s.setHandle (f.handle k i) v) := by
  rcases ht.represents with ⟨q, hq⟩
  have hother (k' : κ) (i' : ℕ) (hne : ¬ only k i k' i') :
      (s.setHandle (f.handle k i) v).handles (f.handle k' i') = s.handles (f.handle k' i') :=
    Function.update_of_ne (fun h => hne (handle_eq h)) _ _
  have hself : (s.setHandle (f.handle k i) v).handles (f.handle k i) = v :=
    Function.update_self _ _ _
  refine ⟨⟨⟨q, hq.setHandle _ _⟩, ?_, ?_⟩,
    ⟨fun k' i' _ e => runs_setHandle ht _ _ k' i' e, hother, rfl⟩⟩
  · intro k'
    by_cases hk : k' = k
    · subst hk
      exact (ht.each k').clearHandle hq hv
    · exact ((ht.each k').setForeign hq (fun j => f.handle_ne k k' i j (Ne.symm hk))
        (hname k' hk)).1
  · intro k' i'
    by_cases hne : only k i k' i'
    · rcases hne with ⟨rfl, rfl⟩
      rw [hself]
      rcases hv with hv | hv
      · exact .inr (.inl hv)
      · exact .inl hv
    · unfold Named
      rw [hother k' i' hne]
      exact ht.known k' i'

/-- `pf_scheduler_init_handle`. -/
theorem Tidy.initHandle (ht : f.Tidy s) (k : κ) (i : ℕ) :
    f.Tidy (pfSchedulerInitHandle s (f.handle k i) (f.comp k).name) ∧
      f.Within (only k i) s (pfSchedulerInitHandle s (f.handle k i) (f.comp k).name) ∧
      f.Named (pfSchedulerInitHandle s (f.handle k i) (f.comp k).name) k i ∧
      ∀ e, f.Runs (pfSchedulerInitHandle s (f.handle k i) (f.comp k).name) k i e ↔
        f.Runs s k i e := by
  rcases ht.clearHandle k i (v := ⟨(f.comp k).name, UINT32_MAX⟩) (.inl rfl)
    (fun k' hk => f.name_ne k k' (Ne.symm hk)) with ⟨ht', hw⟩
  refine ⟨ht', hw, ?_, fun e => runs_setHandle ht _ _ k i e⟩
  unfold Named pfSchedulerInitHandle St.setHandle
  dsimp only
  rw [Function.update_self]

/-- The name of a handle that is in use is none of another component. -/
theorem Tidy.name_ne (ht : f.Tidy s) (k : κ) (i : ℕ) (k' : κ) (hk : k' ≠ k) :
    (s.handles (f.handle k i)).name ≠ (f.comp k').name :=
  (ht.each k').others _ fun j => f.handle_ne k k' i j (Ne.symm hk)

/-- `pf_scheduler_reset_handle`. -/
theorem Tidy.resetHandle (ht : f.Tidy s) (k : κ) (i : ℕ) :
    f.Tidy (pfSchedulerResetHandle s (f.handle k i)) ∧
      f.Within (only k i) s (pfSchedulerResetHandle s (f.handle k i)) ∧
      (f.Named (pfSchedulerResetHandle s (f.handle k i)) k i ↔ f.Named s k i) ∧
      ∀ e, f.Runs (pfSchedulerResetHandle s (f.handle k i)) k i e ↔ f.Runs s k i e := by
  rcases ht.clearHandle k i
    (v := { s.handles (f.handle k i) with timerIndex := UINT32_MAX }) (.inl rfl)
    (fun k' hk => ht.name_ne k i k' hk) with ⟨ht', hw⟩
  have hname : ((pfSchedulerResetHandle s (f.handle k i)).handles (f.handle k i)).name =
      (s.handles (f.handle k i)).name := by
    unfold pfSchedulerResetHandle St.setHandle
    dsimp only
    rw [Function.update_self]
  refine ⟨ht', hw, ?_, fun e => runs_setHandle ht _ _ k i e⟩
  unfold Named
  rw [hname]

/-! ## Calls -/

/-- A call of another user leaves all slots alone. -/
theorem Tidy.foreign (ht : f.Tidy s) {call : Call} (hf : f.Foreign call)
    (hc : doCall s call = some s') : f.Tidy s' ∧ f.Within nothing s s' := by
  rcases ht.represents with ⟨q, hq⟩
  rcases doCall_represents hq hc with ⟨q', hq', -, htick⟩
  have heach (k : κ) := (ht.each k).foreign hq (hf k) hc
  refine ⟨⟨⟨q', hq'⟩, fun k => (heach k).1, ?_⟩, ⟨?_, ?_, htick⟩⟩
  · intro k i
    unfold Named
    rw [show s'.handles (f.handle k i) = s.handles (f.handle k i) from (heach k).2.handles i]
    exact ht.known k i
  · exact fun k i _ e => (heach k).2.runs i e
  · exact fun k i _ => (heach k).2.handles i

/-- What a component does with the handle of a slot is the call of another user to the others. -/
theorem Tidy.own (ht : f.Tidy s) (call : Call) (hhandle : call.handle = f.handle k i)
    (hname : call.name? = none) (hjob : ∀ j, call.job? = some j → j = f.job k i)
    (hc : doCall s call = some s') (ht' : (f.comp k).Tidy s') (ho : (f.comp k).Only i s s')
    (hknown : (s'.handles (f.handle k i)).timerIndex = 0 ∨
      (s'.handles (f.handle k i)).timerIndex = UINT32_MAX ∨ f.Named s' k i) :
    f.Tidy s' ∧ f.Within (only k i) s s' := by
  rcases ht.represents with ⟨q, hq⟩
  rcases doCall_represents hq hc with ⟨q', hq', -, -⟩
  have hother (k' : κ) (hk : k' ≠ k) : (f.comp k').Tidy s' ∧ (f.comp k').Same s s' := by
    refine (ht.each k').foreign hq ⟨?_, ?_, ?_⟩ hc
    · intro j
      rw [hhandle]
      exact f.handle_ne k k' i j (Ne.symm hk)
    · rw [hname]
      exact nofun
    · intro j hj
      rw [hjob j hj]
      exact f.cb_ne k k' (Ne.symm hk)
  have hhandles (k' : κ) (i' : ℕ) (hne : ¬ only k i k' i') :
      s'.handles (f.handle k' i') = s.handles (f.handle k' i') := by
    by_cases hk : k' = k
    · subst hk
      exact ho.handles i' fun hi => hne ⟨rfl, hi⟩
    · exact (hother k' hk).2.handles i'
  refine ⟨⟨⟨q', hq'⟩, ?_, ?_⟩, ⟨?_, hhandles, ho.tickInterval⟩⟩
  · intro k'
    by_cases hk : k' = k
    · subst hk
      exact ht'
    · exact (hother k' hk).1
  · intro k' i'
    by_cases hne : only k i k' i'
    · rcases hne with ⟨rfl, rfl⟩
      exact hknown
    · unfold Named
      rw [hhandles k' i' hne]
      exact ht.known k' i'
  · intro k' i' hne e
    by_cases hk : k' = k
    · subst hk
      exact ho.runs i' (fun hi => hne ⟨rfl, hi⟩) e
    · exact (hother k' hk).2.runs i' e

/-- `pf_scheduler_add`. -/
theorem Tidy.add (ht : f.Tidy s) (hname : f.Named s k i) {delay now : Time} {ret : ℤ}
    (h : pfSchedulerAdd s delay (f.job k i) (f.handle k i) now = some (ret, s')) :
    f.Tidy s' ∧ f.Within (only k i) s s' ∧ f.Named s' k i ∧
      (f.Idle s k i → (ret = 0 ∧ f.Armed s' k i) ∨ (ret = -1 ∧ f.Idle s' k i)) := by
  rcases ht.represents with ⟨q, hq⟩
  rcases Option.bind_eq_some_iff.mp h with ⟨d, hd, -⟩
  rcases (ht.each k).add hq hname hd now with ⟨ret1, s1, q1, hadd, -, ht1, ho, hfull, hroom⟩
  obtain ⟨rfl, rfl⟩ := Prod.mk.inj (Option.some.inj (hadd.symm.trans h))
  have hnamed : f.Named s1 k i := ho.name.trans hname
  rcases ht.own (.add delay (f.job k i) (f.handle k i) now) rfl rfl
    (fun j hj => (Option.some.inj hj).symm) (congrArg (Option.map Prod.snd) h) ht1 ho
    (.inr (.inr hnamed)) with ⟨ht', hw⟩
  refine ⟨ht', hw, hnamed, fun hidle => ?_⟩
  by_cases hfree : PF_MAX_TIMEOUTS ≤ s.free
  · exact .inr ⟨(hfull hfree).1, fun e he => hidle e (((hfull hfree).2 e).mp he)⟩
  · rcases hroom (Nat.lt_of_not_le hfree) with ⟨hret, e, -, hindex, hruns⟩
    refine .inl ⟨hret, e, hindex, fun e' => (hruns e').trans ?_⟩
    exact or_iff_left (hidle e')

/-- When the timer that has been added expires. -/
theorem Tidy.add_when (ht : f.Tidy s) (hname : f.Named s k i) {delay now : Time}
    (h : pfSchedulerAdd s delay (f.job k i) (f.handle k i) now = some (0, s'))
    (hidle : f.Idle s k i) :
    ∃ d e, pfSchedulerSanitizeDelay delay s.tickInterval true = some d ∧ e.when = now + d ∧
      (s'.handles (f.handle k i)).timerIndex = e.ix + 1 ∧ ∀ e', f.Runs s' k i e' ↔ e' = e := by
  rcases ht.represents with ⟨q, hq⟩
  rcases Option.bind_eq_some_iff.mp h with ⟨d, hd, -⟩
  rcases (ht.each k).add hq hname hd now with ⟨ret1, s1, q1, hadd, -, -, -, hfull, hroom⟩
  obtain ⟨rfl, rfl⟩ := Prod.mk.inj (Option.some.inj (hadd.symm.trans h))
  have hfree : s.free < PF_MAX_TIMEOUTS := by
    by_contra hle
    exact absurd (hfull (Nat.le_of_not_lt hle)).1 (by decide)
  rcases hroom hfree with ⟨-, e, hwhen, hindex, hruns⟩
  exact ⟨d, e, hd, hwhen, hindex, fun e' => (hruns e').trans (or_iff_left (hidle e'))⟩

/-- There is a free entry as long as not all of them are pending. -/
theorem Tidy.free_lt (ht : f.Tidy s) :
    s.free < PF_MAX_TIMEOUTS ↔ (pending s).length < PF_MAX_TIMEOUTS := by
  rcases ht.represents with ⟨q, hq⟩
  rw [hq.pending_eq]
  rcases hq with ⟨busy, free, hl, rfl⟩
  have hlen : busy.length + free.length = PF_MAX_TIMEOUTS := by
    have hshare := hl.share.length_eq
    rwa [List.length_append, List.length_range] at hshare
  rw [List.length_map]
  cases free with
  | nil =>
    have hnone : s.free = PF_MAX_TIMEOUTS := hl.linkedFree
    rw [List.length_nil] at hlen
    omega
  | cons i l =>
    obtain ⟨rfl, hlt, -, -⟩ := hl.linkedFree
    rw [List.length_cons] at hlen
    omega

/-- `pf_scheduler_add` succeeds if and only if there is a free entry. -/
theorem Tidy.add_room (ht : f.Tidy s) {delay now : Time} {job : Job} {h : ℕ} {ret : ℤ}
    (hadd : pfSchedulerAdd s delay job h now = some (ret, s')) :
    (s.free < PF_MAX_TIMEOUTS ∧ ret = 0 ∧ (pending s').length = (pending s).length + 1) ∨
      (¬ s.free < PF_MAX_TIMEOUTS ∧ ret = -1) := by
  rcases ht.represents with ⟨q, hq⟩
  rcases Option.bind_eq_some_iff.mp hadd with ⟨d, hd, -⟩
  rcases @add_free_iff s h q hq delay d now job hd with ⟨hfull, hroom⟩
  by_cases hfree : s.free < PF_MAX_TIMEOUTS
  · rcases hroom hfree with ⟨s1, hs1, hq1, -, -⟩
    obtain ⟨rfl, rfl⟩ := Prod.mk.inj (Option.some.inj (hs1.symm.trans hadd))
    refine .inl ⟨hfree, rfl, ?_⟩
    rw [hq1.pending_eq, hq.pending_eq, List.orderedInsert_length]
  · obtain ⟨rfl, -⟩ := Prod.mk.inj (Option.some.inj
      ((hfull (Nat.le_of_not_lt hfree)).symm.trans hadd))
    exact .inr ⟨hfree, rfl⟩

theorem Tidy.ix_lt (ht : f.Tidy s) {e : Timer} (he : f.Runs s k i e) : e.ix < PF_MAX_TIMEOUTS := by
  rcases ht.represents with ⟨q, hq⟩
  have hmem := he.1
  rw [hq.pending_eq] at hmem
  exact (hq.inUse_of_mem hmem).2.1

/-- A handle that refers to nothing is the one of a slot that is not armed. -/
theorem Tidy.not_armed (ht : f.Tidy s) (hindex : (s.handles (f.handle k i)).timerIndex = 0 ∨
    (s.handles (f.handle k i)).timerIndex = UINT32_MAX) : ¬ f.Armed s k i := by
  rintro ⟨e, he, hall⟩
  have hlt := ht.ix_lt ((hall e).mpr rfl)
  have hpool : PF_MAX_TIMEOUTS < UINT32_MAX := by decide
  omega

/-- `pf_scheduler_remove_if_running`. -/
theorem Tidy.removeIfRunning (ht : f.Tidy s)
    (h : pfSchedulerRemoveIfRunning s (f.handle k i) = some s') :
    f.Tidy s' ∧ f.Within (only k i) s s' ∧ (f.Named s' k i ↔ f.Named s k i) ∧
      (∀ e, f.Runs s' k i e → f.Runs s k i e) ∧ (f.Armed s k i → f.Idle s' k i) := by
  rcases ht.represents with ⟨q, hq⟩
  by_cases hname : f.Named s k i
  · rcases (ht.each k).removeIfRunning hq hname with ⟨s1, q1, hs1, -, ht1, ho, hruns⟩
    obtain rfl : s1 = s' := Option.some.inj (hs1.symm.trans h)
    have hnamed : f.Named s1 k i := ho.name.trans hname
    rcases ht.own (.removeIfRunning (f.handle k i)) rfl rfl nofun h ht1 ho
      (.inr (.inr hnamed)) with ⟨ht', hw⟩
    refine ⟨ht', hw, iff_of_true hnamed hname, fun e he => (hruns e he).1, ?_⟩
    rintro ⟨e, hindex, hall⟩ e' he'
    have heq := (hall e').mp (hruns e' he').1
    rw [heq] at he'
    exact (hruns e he').2 hindex
  · -- the handle refers to nothing
    have hindex : (s.handles (f.handle k i)).timerIndex = 0 ∨
        (s.handles (f.handle k i)).timerIndex = UINT32_MAX := by
      rcases ht.known k i with hzero | hnone | hnamed
      · exact .inl hzero
      · exact .inr hnone
      · exact absurd hnamed hname
    have hsame : s = s' := by
      unfold pfSchedulerRemoveIfRunning pfSchedulerIsRunning at h
      rcases hindex with hzero | hnone
      · have hrunning : ¬ (0 : ℕ) = UINT32_MAX := by decide
        rw [hzero, if_neg hrunning, if_pos rfl] at h
        unfold pfSchedulerRemove at h
        dsimp only at h
        rw [hzero, if_pos (.inl rfl)] at h
        exact Option.some.inj h
      · rw [hnone, if_pos rfl] at h
        exact Option.some.inj h
    subst hsame
    exact ⟨ht, .refl _ _, Iff.rfl, fun _ => id, fun harmed => absurd harmed (ht.not_armed hindex)⟩

theorem Tidy.removeIfRunning_calms (ht : f.Tidy s)
    (h : pfSchedulerRemoveIfRunning s (f.handle k i) = some s') :
    f.Calms (only k i) s s' ∧ (f.Settled s k i → f.Idle s' k i) := by
  rcases ht.removeIfRunning h with ⟨ht', hw, -, hruns, harmed⟩
  have hidle : f.Settled s k i → f.Idle s' k i := by
    intro hslot
    rcases hslot with hidle | h
    · exact fun e he => hidle e (hruns e he)
    · exact harmed h
  refine ⟨⟨ht', hw, ?_, ?_⟩, hidle⟩
  · intro k' i' hslot
    by_cases hne : only k i k' i'
    · rcases hne with ⟨rfl, rfl⟩
      exact hidle (.inl hslot)
    · exact (hw.idle hne).mpr hslot
  · intro k' i' hslot
    by_cases hne : only k i k' i'
    · rcases hne with ⟨rfl, rfl⟩
      exact .inl (hidle hslot)
    · exact (hw.settled hne).mpr hslot

/-- `pf_scheduler_restart`. -/
theorem Tidy.restart (ht : f.Tidy s) (hname : f.Named s k i) {delay now : Time} {ret : ℤ}
    (h : pfSchedulerRestart s delay (f.job k i) (f.handle k i) now = some (ret, s')) :
    f.Tidy s' ∧ f.Within (only k i) s s' ∧ f.Named s' k i ∧
      (f.Settled s k i → (ret = 0 ∧ f.Armed s' k i) ∨ (ret = -1 ∧ f.Idle s' k i)) := by
  rcases Option.bind_eq_some_iff.mp h with ⟨s1, hs1, hadd⟩
  rcases ht.removeIfRunning hs1 with ⟨ht1, hw1, hnamed1, hruns1, harmed1⟩
  rcases ht1.add (hnamed1.mpr hname) hadd with ⟨ht2, hw2, hnamed2, hadd2⟩
  refine ⟨ht2, hw1.trans hw2, hnamed2, fun hslot => hadd2 ?_⟩
  rcases hslot with hidle | harmed
  · exact fun e he => hidle e (hruns1 e he)
  · exact harmed1 harmed

/-! ## Rounds of the tick -/

/-- The first timer, which has expired, is taken out; it is not one of the family. -/
theorem Tidy.fireForeign (ht : f.Tidy s) {now : Time} (he : expired s now = true)
    (hs1 : moveToFree s s.first = some s')
    (hcb : ∀ k, (timerAt s s.first).job.cb ≠ (f.comp k).cb) :
    f.Tidy s' ∧ f.Within nothing s s' := by
  rcases ht.represents with ⟨q, hq⟩
  have heach (k : κ) : (f.comp k).Tidy s' ∧ (f.comp k).Same s s' := by
    rcases (ht.each k).fire hq he with ⟨s1, q1, hs, -, -, -, hforeign, -⟩
    obtain rfl : s1 = s' := Option.some.inj (hs.symm.trans hs1)
    exact hforeign (hcb k)
  rcases moveToFree_names hs1 with ⟨-, hhandles⟩
  rcases moveFirst_represents hq he with ⟨s1, q1, -, hs, hq1, htick⟩
  obtain rfl : s1 = s' := Option.some.inj (hs.symm.trans hs1)
  refine ⟨⟨⟨q1, hq1⟩, fun k => (heach k).1, ?_⟩, ⟨fun k i _ e => (heach k).2.runs i e,
    fun k i _ => (heach k).2.handles i, htick⟩⟩
  intro k i
  unfold Named
  rw [hhandles]
  exact ht.known k i

/-- The first timer, which has expired, is taken out; it is one of a slot, whose handle is reset. -/
theorem Tidy.fire (ht : f.Tidy s) {now : Time} (he : expired s now = true)
    (hs1 : moveToFree s s.first = some s') (hjob : (timerAt s s.first).job = f.job k i) :
    f.Tidy (pfSchedulerResetHandle s' (f.handle k i)) ∧
      f.Within (only k i) s (pfSchedulerResetHandle s' (f.handle k i)) ∧
      (f.Named (pfSchedulerResetHandle s' (f.handle k i)) k i ↔ f.Named s k i) ∧
      (∀ e, f.Runs (pfSchedulerResetHandle s' (f.handle k i)) k i e ↔
        f.Runs s k i e ∧ e ≠ timerAt s s.first) ∧
      f.Runs s k i (timerAt s s.first) := by
  rcases ht.represents with ⟨q, hq⟩
  rcases moveFirst_represents hq he with ⟨s1, q1, -, hs, hq1, -⟩
  obtain rfl : s1 = s' := Option.some.inj (hs.symm.trans hs1)
  rcases moveToFree_names hs1 with ⟨-, hhandles⟩
  have hown : f.Runs s k i (timerAt s s.first) ∧
      (f.comp k).Tidy (pfSchedulerResetHandle s1 (f.handle k i)) ∧
      (f.comp k).Only i s (pfSchedulerResetHandle s1 (f.handle k i)) ∧
      ∀ e, f.Runs (pfSchedulerResetHandle s1 (f.handle k i)) k i e ↔
        f.Runs s k i e ∧ e ≠ timerAt s s.first := by
    rcases (ht.each k).fire hq he with ⟨s2, q2, hs2, -, -, -, -, hown⟩
    obtain rfl : s2 = s1 := Option.some.inj (hs2.symm.trans hs1)
    exact hown i hjob
  rcases hown with ⟨hfired, ht', ho, hruns⟩
  have hother (k' : κ) (hk : k' ≠ k) :
      (f.comp k').Tidy (pfSchedulerResetHandle s1 (f.handle k i)) ∧
      (f.comp k').Same s1 (pfSchedulerResetHandle s1 (f.handle k i)) ∧ (f.comp k').Same s s1 := by
    rcases (ht.each k').fire hq he with ⟨s2, q2, hs2, -, -, -, hforeign, -⟩
    obtain rfl : s2 = s1 := Option.some.inj (hs2.symm.trans hs1)
    rcases hforeign (by rw [hjob]; exact f.cb_ne k k' (Ne.symm hk)) with ⟨ht2, hsame⟩
    rcases ht2.setForeign hq1 (fun j => f.handle_ne k k' i j (Ne.symm hk))
      (v := { s2.handles (f.handle k i) with timerIndex := UINT32_MAX })
      (by rw [hhandles]; exact ht.name_ne k i k' hk) with ⟨ht3, hsame3⟩
    exact ⟨ht3, hsame3, hsame⟩
  have hhandle (k' : κ) (i' : ℕ) (hne : ¬ only k i k' i') :
      (pfSchedulerResetHandle s1 (f.handle k i)).handles (f.handle k' i') =
        s.handles (f.handle k' i') := by
    rw [← hhandles]
    exact Function.update_of_ne (fun h => hne (handle_eq h)) _ _
  have hname : (f.Named (pfSchedulerResetHandle s1 (f.handle k i)) k i ↔ f.Named s k i) := by
    unfold Named
    rw [show ((pfSchedulerResetHandle s1 (f.handle k i)).handles (f.handle k i)).name =
      (s.handles (f.handle k i)).name from ho.name]
  refine ⟨⟨⟨q1, hq1.setHandle _ _⟩, ?_, ?_⟩, ⟨?_, hhandle, ho.tickInterval⟩, hname, hruns, hfired⟩
  · intro k'
    by_cases hk : k' = k
    · subst hk
      exact ht'
    · exact (hother k' hk).1
  · intro k' i'
    by_cases hne : only k i k' i'
    · rcases hne with ⟨rfl, rfl⟩
      refine .inr (.inl ?_)
      unfold pfSchedulerResetHandle St.setHandle
      dsimp only
      rw [Function.update_self]
    · unfold Named
      rw [hhandle k' i' hne]
      exact ht.known k' i'
  · intro k' i' hne e
    by_cases hk : k' = k
    · subst hk
      exact ho.runs i' (fun hi => hne ⟨rfl, hi⟩) e
    · exact ((hother k' hk).2.1.runs i' e).trans ((hother k' hk).2.2.runs i' e)

/-- The entry of the timer that has expired is free. -/
theorem Tidy.fire_free (ht : f.Tidy s) {now : Time} (he : expired s now = true)
    (hs1 : moveToFree s s.first = some s') (k : κ) : s'.free < PF_MAX_TIMEOUTS := by
  rcases ht.represents with ⟨q, hq⟩
  rcases (ht.each k).fire hq he with ⟨s2, q2, hs2, -, hfree, -⟩
  obtain rfl : s2 = s' := Option.some.inj (hs2.symm.trans hs1)
  exact hfree

/-- The same, without a reset of the handle: it refers to another timer, or to none. -/
theorem Tidy.fireKept (ht : f.Tidy s) {now : Time} (he : expired s now = true)
    (hs1 : moveToFree s s.first = some s') (hjob : (timerAt s s.first).job = f.job k i)
    (hindex : (s.handles (f.handle k i)).timerIndex ≠ s.first + 1) :
    f.Tidy s' ∧ f.Within (only k i) s s' ∧ (f.Named s' k i ↔ f.Named s k i) ∧
      (∀ e, f.Runs s' k i e ↔ f.Runs s k i e ∧ e ≠ timerAt s s.first) := by
  rcases ht.represents with ⟨q, hq⟩
  rcases moveFirst_represents hq he with ⟨s1, q1, -, hs, hq1, htick⟩
  obtain rfl : s1 = s' := Option.some.inj (hs.symm.trans hs1)
  rcases moveToFree_names hs1 with ⟨-, hhandles⟩
  rcases ht.fire he hs1 hjob with ⟨hreset, hwithin, -, hruns, -⟩
  have hruns1 (k' : κ) (i' : ℕ) (e : Timer) :
      f.Runs (pfSchedulerResetHandle s1 (f.handle k i)) k' i' e ↔ f.Runs s1 k' i' e :=
    Component.runs_setHandle hq1 _ _ i' e
  have hkept (i' : ℕ) : (s1.handles ((f.comp k).handle i')).timerIndex = UINT32_MAX ∨
      (s1.handles ((f.comp k).handle i')).timerIndex = 0 ∨
      ∃ e, f.Runs s1 k i' e ∧ (s1.handles ((f.comp k).handle i')).timerIndex = e.ix + 1 := by
    rw [hhandles]
    refine ((ht.each k).refers i').imp_right (Or.imp_right ?_)
    rintro ⟨e, hrun, heindex⟩
    refine ⟨e, ?_, heindex⟩
    by_cases hi : i' = i
    · subst hi
      refine (hruns1 k i' e).mp ((hruns e).mpr ⟨hrun, ?_⟩)
      rintro rfl
      exact hindex heindex
    · exact (hruns1 k i' e).mp ((hwithin.runs k i' (fun h => hi h.2) e).mpr hrun)
  refine ⟨⟨⟨q1, hq1⟩, ?_, ?_⟩, ⟨?_, ?_, htick⟩, ?_, fun e => (hruns1 k i e).symm.trans (hruns e)⟩
  · intro k'
    by_cases hk : k' = k
    · subst hk
      constructor
      · rw [hhandles]
        exact (ht.each k').others
      · intro e hmem
        rw [hq1.pending_eq, ← (hq1.setHandle _ _).pending_eq] at hmem
        exact (hreset.each k').labels e hmem
      · exact hkept
    · rcases (ht.each k').fire hq he with ⟨s2, q2, hs2, -, -, -, hforeign, -⟩
      obtain rfl : s2 = s1 := Option.some.inj (hs2.symm.trans hs1)
      exact (hforeign (by rw [hjob]; exact f.cb_ne k k' (Ne.symm hk))).1
  · intro k' i'
    unfold Named
    rw [hhandles]
    exact ht.known k' i'
  · exact fun k' i' hne e => (hruns1 k' i' e).symm.trans (hwithin.runs k' i' hne e)
  · exact fun k' i' _ => by rw [hhandles]
  · unfold Named
    rw [hhandles]

end

/-! ## A handle that is stale

A call-back that does not reset its handle first: it refers to the entry of the timer that has just
expired, which is free. The calls that a call-back makes do not depend on that. -/

theorem add_setHandle (s : St) (h : ℕ) {v : Handle} (hv : v.name = (s.handles h).name)
    (delay : Time) (job : Job) (now : Time) :
    pfSchedulerAdd (s.setHandle h v) delay job h now = pfSchedulerAdd s delay job h now := by
  unfold pfSchedulerAdd St.setHandle St.onFree St.onBusy
  simp only [Function.update_self, Function.update_idem, hv]

theorem add_resetHandle (s : St) (h : ℕ) (delay : Time) (job : Job) (now : Time) :
    pfSchedulerAdd (pfSchedulerResetHandle s h) delay job h now =
      pfSchedulerAdd s delay job h now := by
  have hname : ({ s.handles h with timerIndex := UINT32_MAX } : Handle).name =
      (s.handles h).name := rfl
  exact add_setHandle s h hname delay job now

theorem moveToFree_setHandle (s : St) (h ix : ℕ) (v : Handle) :
    moveToFree (s.setHandle h v) ix = (moveToFree s ix).map fun s => s.setHandle h v := by
  unfold moveToFree St.setHandle St.onBusy St.onFree
  dsimp only
  cases pfSchedulerUnlink s.timeouts s.first ix with
  | none => rfl
  | some r =>
    dsimp only [Option.bind_some]
    rw [Option.map_map]
    rfl

theorem remove_setHandle (s : St) {g h : ℕ} (hne : g ≠ h) (v : Handle) :
    pfSchedulerRemove (s.setHandle h v) g =
      (pfSchedulerRemove s g).map fun s => s.setHandle h v := by
  have hg : (s.setHandle h v).handles g = s.handles g := Function.update_of_ne hne _ _
  have hswap (s : St) (w : Handle) :
      (s.setHandle h v).setHandle g w = (s.setHandle g w).setHandle h v := by
    unfold St.setHandle
    dsimp only
    rw [Function.update_comm hne]
  unfold pfSchedulerRemove
  dsimp only
  rw [hg, moveToFree_setHandle]
  by_cases hindex : (s.handles g).timerIndex = 0 ∨ PF_MAX_TIMEOUTS < (s.handles g).timerIndex
  · rw [if_pos hindex, if_pos hindex]
    rfl
  · rw [if_neg hindex, if_neg hindex, Option.map_map]
    by_cases hname : (s.timeouts (((s.handles g).timerIndex - 1) % 2 ^ 16)).name ≠
        (s.handles g).name
    · rw [if_pos hname]
      exact if_pos hname
    · rw [if_neg hname]
      refine (if_neg hname).trans ?_
      by_cases huse : (s.timeouts (((s.handles g).timerIndex - 1) % 2 ^ 16)).inUse = false
      · rw [if_pos huse]
        exact if_pos huse
      · rw [if_neg huse, Option.map_map]
        refine (if_neg huse).trans ?_
        exact congrArg (fun g => Option.map g _) (funext fun s => hswap s _)

theorem removeIfRunning_setHandle (s : St) {g h : ℕ} (hne : g ≠ h) (v : Handle) :
    pfSchedulerRemoveIfRunning (s.setHandle h v) g =
      (pfSchedulerRemoveIfRunning s g).map fun s => s.setHandle h v := by
  have hg : (s.setHandle h v).handles g = s.handles g := Function.update_of_ne hne _ _
  unfold pfSchedulerRemoveIfRunning pfSchedulerIsRunning
  rw [hg, remove_setHandle s hne v]
  split
  · rfl
  · rfl

theorem removeIfRunning_handles {s s' : St} {g h : ℕ} (hne : h ≠ g)
    (hs : pfSchedulerRemoveIfRunning s g = some s') : s'.handles h = s.handles h := by
  unfold pfSchedulerRemoveIfRunning at hs
  by_cases hrun : pfSchedulerIsRunning s g = true
  · rw [if_pos hrun] at hs
    rcases remove_cases s g with ⟨hr, -⟩ | ⟨ix, -, -, -, -, hr⟩
    · obtain rfl := Option.some.inj (hr.symm.trans hs)
      rfl
    · rcases Option.map_eq_some_iff.mp (hr.symm.trans hs) with ⟨s1, hs1, rfl⟩
      rw [← (moveToFree_names hs1).2]
      exact Function.update_of_ne hne _ _
  · rw [if_neg hrun] at hs
    obtain rfl := Option.some.inj hs
    rfl

/-- Another handle that is reset makes no difference. -/
theorem removeIfRunning_resetHandle (s : St) {g h : ℕ} (hne : g ≠ h) :
    pfSchedulerRemoveIfRunning (pfSchedulerResetHandle s h) g =
      (pfSchedulerRemoveIfRunning s g).map fun s => pfSchedulerResetHandle s h := by
  unfold pfSchedulerResetHandle
  rw [removeIfRunning_setHandle s hne]
  cases hs : pfSchedulerRemoveIfRunning s g with
  | none => rfl
  | some s' =>
    rw [Option.map_some, Option.map_some, removeIfRunning_handles (Ne.symm hne) hs]

/-- The entry that the handle refers to is free. -/
theorem removeIfRunning_stale {s : St} {h ix : ℕ} (hix : ix < PF_MAX_TIMEOUTS)
    (hindex : (s.handles h).timerIndex = ix + 1) (hfree : (s.timeouts ix).inUse = false) :
    pfSchedulerRemoveIfRunning s h = some s := by
  have hpool : PF_MAX_TIMEOUTS < 2 ^ 16 := by decide
  have hmod : (ix + 1 - 1) % 2 ^ 16 = ix := by
    rw [Nat.add_sub_cancel]
    exact Nat.mod_eq_of_lt (Nat.lt_trans hix hpool)
  unfold pfSchedulerRemoveIfRunning pfSchedulerRemove
  dsimp only
  rw [hindex, hmod, hfree, if_pos rfl]
  split
  · split
    · rfl
    · split <;> rfl
  · rfl

/-! ## Memory that is zeroed -/

/-- Some handles are in memory that is zeroed. -/
def zeroHandles (s : St) (d : ℕ → Bool) : St :=
  { s with handles := fun h => if d h then ⟨0, 0⟩ else s.handles h }

theorem Tidy.zeroHandles {f : Family κ} {s : St} (ht : f.Tidy s) (d : ℕ → Bool) :
    f.Tidy (zeroHandles s d) ∧
      f.Within (fun k i => d (f.handle k i) = true) s (Family.zeroHandles s d) ∧
      ∀ k i e, f.Runs (Family.zeroHandles s d) k i e ↔ f.Runs s k i e := by
  rcases ht.represents with ⟨q, hq⟩
  have hq' : Represents (Family.zeroHandles s d) q := by
    rcases hq with ⟨busy, free, hl, hq⟩
    exact ⟨busy, free, ⟨hl.linkedBusy, hl.linkedFree, hl.share, hl.inUse⟩, hq⟩
  have hruns (k : κ) (i : ℕ) (e : Timer) :
      f.Runs (Family.zeroHandles s d) k i e ↔ f.Runs s k i e := by
    show e ∈ pending _ ∧ _ ↔ e ∈ pending _ ∧ _
    rw [hq'.pending_eq, hq.pending_eq]
  have hzero (h : ℕ) (hd : d h = true) : (Family.zeroHandles s d).handles h = ⟨0, 0⟩ := if_pos hd
  have hkept (h : ℕ) (hd : ¬ d h = true) : (Family.zeroHandles s d).handles h = s.handles h :=
    if_neg hd
  refine ⟨⟨⟨q, hq'⟩, ?_, ?_⟩, ⟨fun k i _ e => hruns k i e, fun k i => hkept _, rfl⟩, hruns⟩
  · intro k
    constructor
    · intro h hh
      by_cases hd : d h = true
      · rw [hzero h hd]
        exact (f.name_pos k).symm
      · rw [hkept h hd]
        exact (ht.each k).others h hh
    · intro e he
      rw [hq'.pending_eq, ← hq.pending_eq] at he
      exact (ht.each k).labels e he
    · intro i
      by_cases hd : d (f.handle k i) = true
      · rw [show (Family.zeroHandles s d).handles ((f.comp k).handle i) = ⟨0, 0⟩ from hzero _ hd]
        exact .inr (.inl rfl)
      · rw [show (Family.zeroHandles s d).handles ((f.comp k).handle i) = _ from hkept _ hd]
        rcases (ht.each k).refers i with hnone | hnull | ⟨e, he, hindex⟩
        · exact .inl hnone
        · exact .inr (.inl hnull)
        · exact .inr (.inr ⟨e, (hruns k i e).mpr he, hindex⟩)
  · intro k i
    unfold Named
    by_cases hd : d (f.handle k i) = true
    · rw [hzero _ hd]
      exact .inl rfl
    · rw [hkept _ hd]
      exact ht.known k i

end Family

end PNet.Scheduler
