import PNet.Scheduler.Order

/-! # Timers and their names

A timer bears the name of the handle it is started with, and `pf_scheduler_remove` compares names.
So a call leaves the timers of other names alone, also when its handle is stale.

* `doCall_acts`: a call leaves the pending timers of other names than its handle's alone.
* `restart_owned`: the one timer of a handle that is only ever restarted.
* `moveFirst_owned`: a round of the tick.
-/

namespace PNet.Scheduler

/-- The pending timers of a name, from the head of the busy list on. -/
def owned (s : St) (n : Name) : List Timer :=
  (pending s).filter fun e => (s.timeouts e.ix).name = n

/-- The handle of a call. -/
def Call.handle : Call → ℕ
  | .initHandle h _ => h
  | .resetHandle h => h
  | .add _ _ h _ => h
  | .restart _ _ h _ => h
  | .remove h => h
  | .removeIfRunning h => h

/-! ## Names and handles stay -/

theorem name_of_payload {e e' : Timeout} (h : e'.payload = e.payload) : e'.name = e.name :=
  congrArg (fun p : Name × Bool × Time × Job => p.1) h

theorem unlink_payload {ts : Timeouts} {q ix : ℕ} {r : Timeouts × ℕ}
    (h : pfSchedulerUnlink ts q ix = some r) (j : ℕ) : (r.1 j).payload = (ts j).payload := by
  unfold pfSchedulerUnlink at h
  by_cases hix : PF_MAX_TIMEOUTS ≤ ix
  · rw [if_pos hix] at h
    cases h
    rfl
  · rw [if_neg hix] at h
    rcases Option.bind_eq_some_iff.mp h with ⟨linked, -, h⟩
    cases linked with
    | false =>
      cases h
      rfl
    | true =>
      cases h
      exact unlinkNode_payload ts q ix j

theorem linkAt_payload {atPos : Timeouts → ℕ → ℕ → ℕ → Timeouts × ℕ}
    (hat : ∀ ts q ix pos j, ((atPos ts q ix pos).1 j).payload = (ts j).payload)
    {ts : Timeouts} {q ix pos : ℕ} {r : Timeouts × ℕ} (h : linkAt atPos ts q ix pos = some r)
    (j : ℕ) : (r.1 j).payload = (ts j).payload := by
  unfold linkAt at h
  by_cases hix : PF_MAX_TIMEOUTS ≤ ix
  · rw [if_pos hix] at h
    cases h
    rfl
  · rw [if_neg hix] at h
    rcases Option.bind_eq_some_iff.mp h with ⟨linked, -, h⟩
    by_cases hl : linked = true
    · rw [if_pos hl] at h
      cases h
      rfl
    · rw [if_neg hl] at h
      by_cases hpos : PF_MAX_TIMEOUTS ≤ pos
      · rw [if_pos hpos] at h
        cases h
        exact linkFirst_payload ts q ix j
      · rw [if_neg hpos] at h
        by_cases hq : PF_MAX_TIMEOUTS ≤ q
        · rw [if_pos hq] at h
          cases h
          simp [linkOnly]
        · rw [if_neg hq] at h
          cases h
          exact hat ts q ix pos j

theorem linkBusy_payload {ts : Timeouts} {first ix : ℕ} {r : Timeouts × ℕ}
    (h : linkBusy ts first ix = some r) (j : ℕ) : (r.1 j).payload = (ts j).payload := by
  unfold linkBusy at h
  by_cases hfirst : PF_MAX_TIMEOUTS ≤ first
  · rw [if_pos hfirst] at h
    exact linkAt_payload linkBeforePos_payload h j
  · rw [if_neg hfirst] at h
    by_cases hle : diff (ts ix).when (ts first).when ≤ 0
    · rw [if_pos hle] at h
      exact linkAt_payload linkBeforePos_payload h j
    · rw [if_neg hle] at h
      exact linkAt_payload linkAfterPos_payload h j

theorem moveToFree_names {s s' : St} {ix : ℕ} (h : moveToFree s ix = some s') :
    (∀ j, (s'.timeouts j).name = (s.timeouts j).name) ∧ s'.handles = s.handles := by
  rcases Option.bind_eq_some_iff.mp h with ⟨r, hr, h⟩
  rcases Option.map_eq_some_iff.mp h with ⟨r', hr', rfl⟩
  constructor
  · intro j
    have hfree := name_of_payload (linkAt_payload linkBeforePos_payload hr' j)
    have hbusy := name_of_payload (unlink_payload hr j)
    have hset : ((r.1.setInUse ix false) j).name = (r.1 j).name := by
      by_cases hj : j = ix <;> simp [Timeouts.setInUse, hj]
    exact hfree.trans (hset.trans hbusy)
  · rfl

theorem moveToFree_inUse {s s' : St} {ix : ℕ} (h : moveToFree s ix = some s') :
    (s'.timeouts ix).inUse = false := by
  rcases Option.bind_eq_some_iff.mp h with ⟨r, hr, h⟩
  rcases Option.map_eq_some_iff.mp h with ⟨r', hr', rfl⟩
  have hfree := linkAt_payload linkBeforePos_payload hr' ix
  have hset : ((r.1.setInUse ix false) ix).inUse = false := by
    unfold Timeouts.setInUse
    rw [Function.update_self]
  exact (congrArg (fun p : Name × Bool × Time × Job => p.2.1) hfree).trans hset
/-- The entry that `pf_scheduler_add` takes, its name, and the handle. -/
theorem add_names {s s' : St} {delay now : Time} {job : Job} {h : ℕ}
    (ha : pfSchedulerAdd s delay job h now = some (0, s')) :
    (∀ j, (s'.timeouts j).name = if j = s.free then (s.handles h).name else (s.timeouts j).name) ∧
      s'.handles = Function.update s.handles h ⟨(s.handles h).name, s.free + 1⟩ := by
  rcases Option.bind_eq_some_iff.mp ha with ⟨d, -, ha⟩
  rcases Option.bind_eq_some_iff.mp ha with ⟨r, hr, ha⟩
  by_cases hfree : PF_MAX_TIMEOUTS ≤ s.free
  · simp only [if_pos hfree, Option.some.injEq, Prod.mk.injEq] at ha
    exact absurd ha.1 (by decide)
  · simp only [if_neg hfree] at ha
    rcases Option.map_eq_some_iff.mp ha with ⟨r', hr', ha⟩
    cases ha
    constructor
    · intro j
      have hbusy := name_of_payload (linkBusy_payload hr' j)
      have hun := name_of_payload (unlink_payload hr j)
      refine hbusy.trans ?_
      by_cases hj : j = s.free
      · simp [Timeouts.setTimer, hj, St.onFree]
      · simpa [Timeouts.setTimer, hj, St.onFree] using hun
    · rfl

/-! ## The timers of one name -/

section
variable {s s' : St} {n : Name} {q q' : List Timer}

theorem Represents.owned_eq (h : Represents s q) (n : Name) :
    owned s n = q.filter fun e => (s.timeouts e.ix).name = n := by
  rw [owned, h.pending_eq]

/-- Taking out a timer of another name. -/
theorem owned_erase_other {e : Timer} (hq : Represents s q) (hq' : Represents s' (q.erase e))
    (hnames : ∀ j, (s'.timeouts j).name = (s.timeouts j).name)
    (he : (s.timeouts e.ix).name ≠ n) : owned s' n = owned s n := by
  rw [hq.owned_eq, hq'.owned_eq, ← List.erase_filter]
  simp only [hnames]
  apply List.erase_of_not_mem
  intro hmem
  exact he (of_decide_eq_true (List.mem_filter.mp hmem).2)

/-- Taking out a timer of this name. -/
theorem owned_erase_self {e : Timer} (hq : Represents s q) (hq' : Represents s' (q.erase e))
    (hnames : ∀ j, (s'.timeouts j).name = (s.timeouts j).name) :
    owned s' n = (owned s n).erase e := by
  rw [hq.owned_eq, hq'.owned_eq, ← List.erase_filter]
  simp only [hnames]

/-- Putting in a timer, which bears the name of its handle. -/
theorem owned_insert {e : Timer} {name : Name} (hq : Represents s q)
    (hq' : Represents s' (q.orderedInsert Timer.NotAfter e)) (hfresh : ∀ x ∈ q, x.ix ≠ e.ix)
    (hnames : ∀ j, (s'.timeouts j).name = if j = e.ix then name else (s.timeouts j).name) :
    (name ≠ n → owned s' n = owned s n) ∧ (owned s n = [] → name = n → owned s' n = [e]) := by
  have hold : q.filter (fun x => (s'.timeouts x.ix).name = n) = owned s n := by
    rw [hq.owned_eq]
    refine List.filter_congr fun x hx => ?_
    rw [hnames, if_neg (hfresh x hx)]
  have hself : (s'.timeouts e.ix).name = name := by rw [hnames, if_pos rfl]
  constructor
  · intro hne
    rw [hq'.owned_eq, CircularTime.filter_orderedInsert (by simpa [hself] using hne), hold]
  · intro hnone heq
    rw [hnone] at hold
    have hperm := (List.perm_orderedInsert Timer.NotAfter e q).filter
      (fun x => (s'.timeouts x.ix).name = n)
    rw [List.filter_cons, if_pos (by simpa [hself] using heq), hold] at hperm
    rw [hq'.owned_eq]
    exact List.perm_singleton.mp hperm

end

/-! ## What a call does -/

/-- A call on handle `h`, which may start a timer with the job `job?`, leads from `s` to `s'`. -/
structure ActsOn (h : ℕ) (job? : Option Job) (s s' : St) : Prop where
  handles : ∀ g, g ≠ h → s'.handles g = s.handles g
  name : (s'.handles h).name = (s.handles h).name
  others : ∀ n, (s.handles h).name ≠ n → owned s' n = owned s n
  /-- A pending timer was pending, or has been started. -/
  origin : ∀ e ∈ pending s', (e ∈ pending s ∧ (s'.timeouts e.ix).name = (s.timeouts e.ix).name) ∨
    ((s'.timeouts e.ix).name = (s.handles h).name ∧ job? = some e.job)
  tickInterval : s'.tickInterval = s.tickInterval

section
variable {s s' s'' : St} {h : ℕ} {job? : Option Job} {q : List Timer}

theorem ActsOn.refl (h : ℕ) (job? : Option Job) (s : St) : ActsOn h job? s s :=
  ⟨fun _ _ => rfl, rfl, fun _ _ => rfl, fun _ he => .inl ⟨he, rfl⟩, rfl⟩

theorem ActsOn.trans (hs : ActsOn h job? s s') (hs' : ActsOn h job? s' s'') :
    ActsOn h job? s s'' := by
  constructor
  · intro g hg
    rw [hs'.handles g hg, hs.handles g hg]
  · rw [hs'.name, hs.name]
  · intro n hn
    rw [hs'.others n (by rwa [hs.name]), hs.others n hn]
  · intro e he
    rcases hs'.origin e he with ⟨hold, hname⟩ | ⟨hname, hjob⟩
    · rcases hs.origin e hold with ⟨hold, hname'⟩ | ⟨hname', hjob⟩
      · exact .inl ⟨hold, hname.trans hname'⟩
      · exact .inr ⟨hname.trans hname', hjob⟩
    · exact .inr ⟨hname.trans hs.name, hjob⟩
  · exact hs'.tickInterval.trans hs.tickInterval

theorem ActsOn.weaken (hs : ActsOn h none s s') (job? : Option Job) : ActsOn h job? s s' := by
  refine ⟨hs.handles, hs.name, hs.others, ?_, hs.tickInterval⟩
  intro e he
  rcases hs.origin e he with hold | ⟨-, hnone⟩
  · exact .inl hold
  · cases hnone

/-- `pf_scheduler_remove` finds no timer of its handle, or it takes one out. -/
theorem remove_cases (s : St) (h : ℕ) :
    (pfSchedulerRemove s h = some s ∧ ∀ ix < PF_MAX_TIMEOUTS, (s.handles h).timerIndex = ix + 1 →
      (s.timeouts ix).name = (s.handles h).name → (s.timeouts ix).inUse = false) ∨
    ∃ ix < PF_MAX_TIMEOUTS, (s.handles h).timerIndex = ix + 1 ∧
      (s.timeouts ix).name = (s.handles h).name ∧ (s.timeouts ix).inUse = true ∧
      pfSchedulerRemove s h = (moveToFree s ix).map fun s' =>
        s'.setHandle h { s.handles h with timerIndex := UINT32_MAX } := by
  unfold pfSchedulerRemove
  by_cases hi : (s.handles h).timerIndex = 0 ∨ PF_MAX_TIMEOUTS < (s.handles h).timerIndex
  · left
    constructor
    · exact if_pos hi
    · intro ix hix heq
      omega
  · rw [not_or, not_lt] at hi
    have hpool : PF_MAX_TIMEOUTS < 2 ^ 16 := by decide
    have hmod : ((s.handles h).timerIndex - 1) % 2 ^ 16 = (s.handles h).timerIndex - 1 :=
      Nat.mod_eq_of_lt (by omega)
    simp only [if_neg (not_or.mpr ⟨hi.1, not_lt.mpr hi.2⟩), hmod]
    by_cases hname : (s.timeouts ((s.handles h).timerIndex - 1)).name = (s.handles h).name
    · cases hu : (s.timeouts ((s.handles h).timerIndex - 1)).inUse with
      | false =>
        left
        constructor
        · simp [hname]
        · intro ix _ heq _
          have hix : ix = (s.handles h).timerIndex - 1 := by omega
          rw [hix]
          exact hu
      | true =>
        right
        refine ⟨(s.handles h).timerIndex - 1, by omega, by omega, hname, hu, ?_⟩
        simp [hname]
    · left
      constructor
      · exact if_pos hname
      · intro ix _ heq hsame
        have hix : ix = (s.handles h).timerIndex - 1 := by omega
        rw [hix] at hsame
        exact absurd hsame hname

theorem Represents.setHandle_owned (hq : Represents s q) (h : ℕ) (v : Handle) (n : Name) :
    owned (s.setHandle h v) n = owned s n := by
  rw [(hq.setHandle h v).owned_eq, hq.owned_eq]
  rfl

theorem ActsOn.setHandle (hs : ActsOn h job? s s') (hq : Represents s' q) {v : Handle}
    (hv : v.name = (s.handles h).name) : ActsOn h job? s (s'.setHandle h v) := by
  constructor
  · intro g hg
    have hset : ((s'.setHandle h v).handles g) = s'.handles g := Function.update_of_ne hg _ _
    rw [hset, hs.handles g hg]
  · have hset : ((s'.setHandle h v).handles h) = v := Function.update_self _ _ _
    rw [hset, hv]
  · intro n hn
    rw [hq.setHandle_owned, hs.others n hn]
  · intro e he
    rw [(hq.setHandle h v).pending_eq, ← hq.pending_eq] at he
    exact hs.origin e he
  · exact hs.tickInterval

/-- A pending timer at an entry in use. -/
theorem Represents.mem_of_inUse (hq : Represents s q) {ix : ℕ} (hix : ix < PF_MAX_TIMEOUTS)
    (hu : (s.timeouts ix).inUse = true) : timerAt s ix ∈ q := by
  rcases hq with ⟨busy, free, hl, rfl⟩
  exact List.mem_map_of_mem ((hl.inUse ix hix).mp hu)

theorem Represents.inUse_of_mem (hq : Represents s q) {e : Timer} (he : e ∈ q) :
    e = timerAt s e.ix ∧ e.ix < PF_MAX_TIMEOUTS ∧ (s.timeouts e.ix).inUse = true := by
  rcases hq with ⟨busy, free, hl, rfl⟩
  rcases List.mem_map.mp he with ⟨i, hi, rfl⟩
  have hlt := hl.linkedBusy.lt i hi
  exact ⟨rfl, hlt, (hl.inUse i hlt).mpr hi⟩

/-- The entry of a pending timer becomes the first free one. -/
theorem moveToFree_timer (hq : Represents s q) {ix : ℕ} (hix : ix < PF_MAX_TIMEOUTS)
    (hu : (s.timeouts ix).inUse = true) :
    ∃ s', moveToFree s ix = some s' ∧ Represents s' (q.erase (timerAt s ix)) ∧
      s'.free < PF_MAX_TIMEOUTS ∧ s'.tickInterval = s.tickInterval := by
  rcases hq with ⟨busy, free, hl, rfl⟩
  rcases moveToFree_lists hl ((hl.inUse ix hix).mp hu) with ⟨s', hs', hl', hk⟩
  refine ⟨s', hs', ⟨_, _, hl', ?_⟩, ?_, hk.tickInterval⟩
  · rw [hk.timerAt, List.map_erase (timerAt_injective s)]
  · rw [hl'.linkedFree.head_eq]
    exact hix

theorem moveToFree_acts (hq : Represents s q) {ix : ℕ} (hix : ix < PF_MAX_TIMEOUTS)
    (hu : (s.timeouts ix).inUse = true) (hname : (s.timeouts ix).name = (s.handles h).name)
    (hs' : moveToFree s ix = some s') (job? : Option Job) : ActsOn h job? s s' := by
  rcases moveToFree_timer hq hix hu with ⟨s1, hs1, hq', -, htick⟩
  obtain rfl : s1 = s' := Option.some.inj (hs1.symm.trans hs')
  rcases moveToFree_names hs1 with ⟨hnames, hhandles⟩
  constructor
  · intro g _
    rw [hhandles]
  · rw [hhandles]
  · intro n hn
    exact owned_erase_other hq hq' hnames (by rwa [← hname] at hn)
  · intro e he
    rw [hq'.pending_eq] at he
    left
    exact ⟨by rw [hq.pending_eq]; exact List.mem_of_mem_erase he, hnames e.ix⟩
  · exact htick

/-- What `pf_scheduler_remove` does with the timers of its handle. -/
theorem remove_owned (hq : Represents s q) (h : ℕ) :
    ∃ s' q', pfSchedulerRemove s h = some s' ∧ Represents s' q' ∧ ActsOn h none s s' ∧
      (owned s (s.handles h).name = [] → owned s' (s.handles h).name = [] ∧
        (s.free < PF_MAX_TIMEOUTS ↔ s'.free < PF_MAX_TIMEOUTS)) ∧
      ∀ e, owned s (s.handles h).name = [e] → (s.handles h).timerIndex = e.ix + 1 →
        owned s' (s.handles h).name = [] ∧ s'.free < PF_MAX_TIMEOUTS := by
  have hpending : ∀ e, e ∈ owned s (s.handles h).name →
      (s.timeouts e.ix).name = (s.handles h).name ∧ e = timerAt s e.ix ∧
        e.ix < PF_MAX_TIMEOUTS ∧ (s.timeouts e.ix).inUse = true := by
    intro e he
    rw [hq.owned_eq, List.mem_filter] at he
    exact ⟨of_decide_eq_true he.2, hq.inUse_of_mem he.1⟩
  rcases remove_cases s h with ⟨hs, hnone⟩ | ⟨ix, hix, hindex, hname, hu, hs⟩
  · refine ⟨s, q, hs, hq, .refl h none s, fun hempty => ⟨hempty, Iff.rfl⟩, ?_⟩
    intro e he hindex
    rcases hpending e (by rw [he]; exact List.mem_singleton_self e) with ⟨hname, -, hlt, hu⟩
    rw [hnone e.ix hlt hindex hname] at hu
    cases hu
  · rcases moveToFree_timer hq hix hu with ⟨s1, hs1, hq1, hfree, -⟩
    have hacts := moveToFree_acts hq hix hu hname hs1 none
    have hin : timerAt s ix ∈ owned s (s.handles h).name := by
      rw [hq.owned_eq, List.mem_filter]
      exact ⟨hq.mem_of_inUse hix hu, decide_eq_true hname⟩
    rw [hs1, Option.map_some] at hs
    refine ⟨_, _, hs, hq1.setHandle h _, hacts.setHandle hq1 rfl, ?_, ?_⟩
    · intro hempty
      rw [hempty] at hin
      cases hin
    · intro e he hindex'
      have hsame : timerAt s ix = e := by
        rw [he] at hin
        exact List.mem_singleton.mp hin
      rw [hq1.setHandle_owned]
      constructor
      · rw [owned_erase_self hq hq1 (moveToFree_names hs1).1, he, hsame, List.erase_cons_head]
      · exact hfree

/-- The same for `pf_scheduler_remove_if_running`: the handle of a pending timer is running. -/
theorem removeIfRunning_owned (hq : Represents s q) (h : ℕ) :
    ∃ s' q', pfSchedulerRemoveIfRunning s h = some s' ∧ Represents s' q' ∧ ActsOn h none s s' ∧
      (owned s (s.handles h).name = [] → owned s' (s.handles h).name = [] ∧
        (s.free < PF_MAX_TIMEOUTS ↔ s'.free < PF_MAX_TIMEOUTS)) ∧
      ∀ e, owned s (s.handles h).name = [e] → (s.handles h).timerIndex = e.ix + 1 →
        owned s' (s.handles h).name = [] ∧ s'.free < PF_MAX_TIMEOUTS := by
  unfold pfSchedulerRemoveIfRunning pfSchedulerIsRunning
  by_cases hrunning : (s.handles h).timerIndex = UINT32_MAX
  · refine ⟨s, q, by simp [hrunning], hq, .refl h none s, fun hempty => ⟨hempty, Iff.rfl⟩, ?_⟩
    intro e he hindex
    have hmem : e ∈ owned s (s.handles h).name := by rw [he]; exact List.mem_singleton_self e
    rw [hq.owned_eq, List.mem_filter] at hmem
    have hlt := (hq.inUse_of_mem hmem.1).2.1
    have hpool : PF_MAX_TIMEOUTS < UINT32_MAX := by decide
    omega
  · simpa [hrunning] using remove_owned hq h

theorem add_free_iff (hq : Represents s q) {delay d now : Time} {job : Job}
    (hd : pfSchedulerSanitizeDelay delay s.tickInterval true = some d) :
    (PF_MAX_TIMEOUTS ≤ s.free →
      pfSchedulerAdd s delay job h now = some (-1, pfSchedulerResetHandle s h)) ∧
    (s.free < PF_MAX_TIMEOUTS → ∃ s', pfSchedulerAdd s delay job h now = some (0, s') ∧
      Represents s' (q.orderedInsert Timer.NotAfter ⟨s.free, now + d, job⟩) ∧
      (∀ x ∈ q, x.ix ≠ s.free) ∧ s'.tickInterval = s.tickInterval) := by
  rcases hq with ⟨busy, free, hl, rfl⟩
  have hhead := hl.linkedFree.head_eq
  cases free with
  | nil =>
    constructor
    · intro _
      exact add_full hl hd
    · intro hlt
      exact absurd hhead (Nat.ne_of_lt hlt)
  | cons f free =>
    obtain rfl : s.free = f := hhead
    have hlt : s.free < PF_MAX_TIMEOUTS := hl.linkedFree.lt s.free (by simp)
    constructor
    · intro hle
      exact absurd hlt (Nat.not_lt.mpr hle)
    · intro _
      rcases add_lists job h now hl hd with ⟨s', hs', hl', hw, hj, hother, hi⟩
      have hnot : ∀ j ∈ busy, j ≠ s.free := by
        rintro j hj rfl
        exact hl.disjoint _ hj (by simp)
      have hold : busy.map (timerAt s') = busy.map (timerAt s) := by
        refine List.map_congr_left fun j hj => ?_
        rw [timerAt, timerAt, (hother j (hnot j hj)).1, (hother j (hnot j hj)).2]
      have hself : timerAt s' s.free = ⟨s.free, now + d, job⟩ := by rw [timerAt, hw, hj]
      refine ⟨s', hs', ⟨_, _, hl', ?_⟩, ?_, hi⟩
      · rw [← hold, ← hself]
        exact (List.map_orderedInsert _ _ _ _ _ (fun j _ => notAfter_iff s' j s.free)
          (fun j _ => notAfter_iff s' s.free j)).symm
      · intro x hx
        rcases List.mem_map.mp hx with ⟨j, hj, rfl⟩
        exact hnot j hj

/-- A pending timer was pending, or has been started. -/
theorem add_origin (hq : Represents s q) {delay now : Time} {job : Job}
    {ret : ℤ} (ha : pfSchedulerAdd s delay job h now = some (ret, s')) :
    ∀ e ∈ pending s', e ∈ pending s ∨
      ∃ d, pfSchedulerSanitizeDelay delay s.tickInterval true = some d ∧ e.when = now + d := by
  rcases Option.bind_eq_some_iff.mp ha with ⟨d, hd, -⟩
  rcases @add_free_iff s h q hq delay d now job hd with ⟨hfull, hroom⟩
  intro e he
  by_cases hfree : PF_MAX_TIMEOUTS ≤ s.free
  · obtain ⟨-, rfl⟩ := Prod.mk.inj (Option.some.inj ((hfull hfree).symm.trans ha))
    rw [pfSchedulerResetHandle, (hq.setHandle _ _).pending_eq, ← hq.pending_eq] at he
    exact .inl he
  · rcases hroom (Nat.lt_of_not_le hfree) with ⟨s1, hs1, hq1, -⟩
    obtain ⟨-, rfl⟩ := Prod.mk.inj (Option.some.inj (hs1.symm.trans ha))
    rw [hq1.pending_eq, List.mem_orderedInsert, ← hq.pending_eq] at he
    rcases he with rfl | he
    · exact .inr ⟨d, hd, rfl⟩
    · exact .inl he

/-- What `pf_scheduler_add` does: it fails without a free entry. -/
theorem add_owned (hq : Represents s q) (h : ℕ) {delay d : Time}
    (hd : pfSchedulerSanitizeDelay delay s.tickInterval true = some d) (job : Job) (now : Time) :
    ∃ ret s' q', pfSchedulerAdd s delay job h now = some (ret, s') ∧ Represents s' q' ∧
      ActsOn h (some job) s s' ∧
      (PF_MAX_TIMEOUTS ≤ s.free → ret = -1 ∧
        ∀ n, owned s' n = owned s n) ∧
      (s.free < PF_MAX_TIMEOUTS → ret = 0 ∧
        (owned s (s.handles h).name = [] →
          owned s' (s.handles h).name = [⟨s.free, now + d, job⟩] ∧
          (s'.handles h).timerIndex = s.free + 1)) := by
  rcases @add_free_iff s h q hq delay d now job hd with ⟨hfull, hroom⟩
  by_cases hfree : PF_MAX_TIMEOUTS ≤ s.free
  · refine ⟨-1, _, q, hfull hfree, hq.setHandle h _, (ActsOn.refl h _ s).setHandle hq rfl, ?_, ?_⟩
    · intro _
      exact ⟨rfl, fun n => hq.setHandle_owned h _ n⟩
    · intro hlt
      omega
  · rcases hroom (by omega) with ⟨s', hs', hq', hfresh, htick⟩
    rcases add_names hs' with ⟨hnames, hhandles⟩
    have hins (n : Name) := owned_insert (n := n) hq hq' hfresh hnames
    refine ⟨0, s', _, hs', hq', ?_, fun hle => absurd hle hfree, ?_⟩
    · constructor
      · intro g hg
        rw [hhandles, Function.update_of_ne hg]
      · rw [hhandles, Function.update_self]
      · intro n hn
        exact (hins n).1 hn
      · intro e he
        rw [hq'.pending_eq, List.mem_orderedInsert] at he
        rcases he with rfl | he
        · right
          exact ⟨by rw [hnames, if_pos rfl], rfl⟩
        · left
          exact ⟨by rwa [hq.pending_eq], by rw [hnames, if_neg (hfresh e he)]⟩
      · exact htick
    · intro _
      refine ⟨rfl, fun hempty => ⟨(hins _).2 hempty rfl, ?_⟩⟩
      rw [hhandles, Function.update_self]

/-- The one timer of a handle that is restarted: it is started again, unless none is pending and
no entry is free. -/
theorem restart_owned (hq : Represents s q) (h : ℕ) {delay d : Time}
    (hd : pfSchedulerSanitizeDelay delay s.tickInterval true = some d) (job : Job) (now : Time)
    (hone : owned s (s.handles h).name = [] ∨
      ∃ e, owned s (s.handles h).name = [e] ∧ (s.handles h).timerIndex = e.ix + 1) :
    ∃ ret s' q', pfSchedulerRestart s delay job h now = some (ret, s') ∧ Represents s' q' ∧
      ActsOn h (some job) s s' ∧
      (owned s (s.handles h).name = [] → PF_MAX_TIMEOUTS ≤ s.free →
        ret = -1 ∧ owned s' (s.handles h).name = []) ∧
      (owned s (s.handles h).name ≠ [] ∨ s.free < PF_MAX_TIMEOUTS → ret = 0 ∧
        ∃ e, owned s' (s.handles h).name = [e] ∧ (s'.handles h).timerIndex = e.ix + 1 ∧
          e.when = now + d ∧ e.job = job) := by
  rcases removeIfRunning_owned hq h with ⟨s1, q1, hs1, hq1, hacts1, hempty1, hself1⟩
  rw [← hacts1.tickInterval] at hd
  rcases add_owned hq1 h hd job now with ⟨ret, s', q', hs', hq', hacts', hfull, hroom⟩
  have hname := hacts1.name
  refine ⟨ret, s', q', ?_, hq', (hacts1.weaken _).trans hacts', ?_, ?_⟩
  · rw [pfSchedulerRestart, hs1, Option.bind_some, hs']
  · intro hempty hle
    rcases hempty1 hempty with ⟨hnone, hfree⟩
    rcases hfull (by omega) with ⟨hret, hsame⟩
    exact ⟨hret, by rw [hsame, hnone]⟩
  · intro hcan
    have hafter : owned s1 (s.handles h).name = [] ∧ s1.free < PF_MAX_TIMEOUTS := by
      rcases hone with hempty | ⟨e, he, hindex⟩
      · rcases hempty1 hempty with ⟨hnone, hfree⟩
        exact ⟨hnone, hfree.mp (hcan.resolve_left (not_not_intro hempty))⟩
      · exact hself1 e he hindex
    rcases hroom hafter.2 with ⟨hret, hnew⟩
    rw [hname] at hnew
    rcases hnew hafter.1 with ⟨he, hindex⟩
    exact ⟨hret, _, he, hindex, rfl, rfl⟩

end

/-! ## Calls and rounds -/

/-- The job of a timer that a call may start. -/
def Call.job? : Call → Option Job
  | .add _ job _ _ => some job
  | .restart _ job _ _ => some job
  | _ => none

/-- The new name of a handle. -/
def Call.name? : Call → Option Name
  | .initHandle _ name => some name
  | _ => none

section
variable {s s' : St} {q : List Timer}

/-- A call acts on the timers of its handle only. -/
theorem doCall_acts (hq : Represents s q) {c : Call} (hname : c.name? = none)
    (hc : doCall s c = some s') : ActsOn c.handle c.job? s s' := by
  cases c with
  | initHandle h name => cases hname
  | resetHandle h =>
    obtain rfl : _ = s' := by simpa [doCall] using hc
    exact (ActsOn.refl h none s).setHandle hq rfl
  | remove h =>
    rcases remove_owned hq h with ⟨s1, q1, hs1, -, hacts, -⟩
    obtain rfl : s1 = s' := Option.some.inj (hs1.symm.trans hc)
    exact hacts
  | removeIfRunning h =>
    rcases removeIfRunning_owned hq h with ⟨s1, q1, hs1, -, hacts, -⟩
    obtain rfl : s1 = s' := Option.some.inj (hs1.symm.trans hc)
    exact hacts
  | add delay job h now =>
    obtain ⟨⟨ret, s1⟩, ha, rfl⟩ := Option.map_eq_some_iff.mp hc
    rcases Option.bind_eq_some_iff.mp ha with ⟨d, hd, -⟩
    rcases add_owned hq h hd job now with ⟨ret', s2, q2, ha', -, hacts, -⟩
    obtain rfl : s2 = s1 := congrArg Prod.snd (Option.some.inj (ha'.symm.trans ha))
    exact hacts
  | restart delay job h now =>
    obtain ⟨⟨ret, s2⟩, hr, rfl⟩ := Option.map_eq_some_iff.mp hc
    rcases Option.bind_eq_some_iff.mp hr with ⟨s1, hs1, ha⟩
    rcases removeIfRunning_owned hq h with ⟨s1', q1, hs1', hq1, hacts1, -⟩
    obtain rfl : s1' = s1 := Option.some.inj (hs1'.symm.trans hs1)
    rcases Option.bind_eq_some_iff.mp ha with ⟨d, hd, -⟩
    rcases add_owned hq1 h hd job now with ⟨ret', s3, q3, ha', -, hacts, -⟩
    obtain rfl : s3 = s2 := congrArg Prod.snd (Option.some.inj (ha'.symm.trans ha))
    exact (hacts1.weaken _).trans hacts

/-- A round of the tick takes the first timer out. -/
theorem moveFirst_owned {now : Time} (hq : Represents s q) (he : expired s now = true) :
    ∃ s' q', moveToFree s s.first = some s' ∧ Represents s' q' ∧
      q = timerAt s s.first :: q' ∧ s'.handles = s.handles ∧
      (∀ j, (s'.timeouts j).name = (s.timeouts j).name) ∧
      (∀ n, owned s n = if (s.timeouts s.first).name = n then timerAt s s.first :: owned s' n
        else owned s' n) ∧
      s'.tickInterval = s.tickInterval ∧ 0 ≤ diff now (timerAt s s.first).when := by
  rcases moveFirst_represents hq he with ⟨s', q', hcons, hs', hq', htick⟩
  rcases moveToFree_names hs' with ⟨hnames, hhandles⟩
  refine ⟨s', q', hs', hq', hcons, hhandles, hnames, ?_, htick, ?_⟩
  · intro n
    rw [hq.owned_eq, hq'.owned_eq, hcons, List.filter_cons]
    by_cases hn : (s.timeouts s.first).name = n <;> simp [hn, hnames, timerAt]
  · exact (of_decide_eq_true he).2

end

end PNet.Scheduler
