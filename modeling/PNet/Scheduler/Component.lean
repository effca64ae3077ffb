import PNet.Scheduler.Owner

/-! # The timers of a component

A component of the stack whose instances have one handle each. All these handles bear one name, and
all these timers run one call-back, with the instance as its argument. A name does not tell the
instances apart; that a removal finds a timer of its own instance is an invariant here (`Tidy`).

* `Tidy.foreign`: a call of another user leaves the timers of the component alone.
* `Tidy.add`, `Tidy.removeIfRunning`, `Tidy.fire`: what the component itself does to them.
-/

namespace PNet.Scheduler

structure Component where
  handle : ℕ → ℕ
  handle_inj : ∀ i j, handle i = handle j → i = j
  name : Name
  cb : ℕ

namespace Component
variable (c : Component)

/-- What the timer of an instance runs. -/
def job (i : ℕ) : Job := ⟨c.cb, i⟩

/-- A call of another user of the scheduler. -/
def Foreign (call : Call) : Prop :=
  (∀ i, call.handle ≠ c.handle i) ∧ call.name? ≠ some c.name ∧
    ∀ job, call.job? = some job → job.cb ≠ c.cb

/-- `e` is a pending timer of the instance. -/
def Runs (s : St) (i : ℕ) (e : Timer) : Prop := e ∈ pending s ∧ e.job = c.job i

/-- The name is the component's own, and a handle refers to a timer of its instance or to none. -/
structure Tidy (s : St) : Prop where
  others : ∀ h, (∀ i, h ≠ c.handle i) → (s.handles h).name ≠ c.name
  labels : ∀ e ∈ pending s, (s.timeouts e.ix).name = c.name ↔ e.job.cb = c.cb
  refers : ∀ i, (s.handles (c.handle i)).timerIndex = UINT32_MAX ∨
    (s.handles (c.handle i)).timerIndex = 0 ∨
    ∃ e, c.Runs s i e ∧ (s.handles (c.handle i)).timerIndex = e.ix + 1

/-- The other instances have the timers and the handles that they had. -/
structure Only (i : ℕ) (s s' : St) : Prop where
  runs : ∀ j, j ≠ i → ∀ e, c.Runs s' j e ↔ c.Runs s j e
  handles : ∀ j, j ≠ i → s'.handles (c.handle j) = s.handles (c.handle j)
  name : (s'.handles (c.handle i)).name = (s.handles (c.handle i)).name
  tickInterval : s'.tickInterval = s.tickInterval

/-- All instances have the timers and the handles that they had. -/
structure Same (s s' : St) : Prop where
  runs : ∀ i e, c.Runs s' i e ↔ c.Runs s i e
  handles : ∀ i, s'.handles (c.handle i) = s.handles (c.handle i)
  tickInterval : s'.tickInterval = s.tickInterval

section
variable {c} {s s' s'' : St} {q : List Timer} {i ix : ℕ}

theorem job_injective {j : ℕ} (h : c.job i = c.job j) : i = j := congrArg Job.arg h

theorem Runs.unique {j : ℕ} {e : Timer} (h : c.Runs s i e) (h' : c.Runs s j e) : i = j :=
  job_injective (h.2.symm.trans h'.2)

/-! ## Handles -/

theorem runs_setHandle (hq : Represents s q) (h : ℕ) (v : Handle) (j : ℕ) (e : Timer) :
    c.Runs (s.setHandle h v) j e ↔ c.Runs s j e := by
  unfold Runs
  rw [(hq.setHandle h v).pending_eq, hq.pending_eq]

/-- A handle of the component gets another value. -/
theorem only_setHandle (hq : Represents s q) {v : Handle}
    (hname : v.name = (s.handles (c.handle i)).name) :
    c.Only i s (s.setHandle (c.handle i) v) := by
  have hother (j : ℕ) (hj : j ≠ i) : (s.setHandle (c.handle i) v).handles (c.handle j) =
      s.handles (c.handle j) := Function.update_of_ne (fun h => hj (c.handle_inj _ _ h)) _ _
  have hself : (s.setHandle (c.handle i) v).handles (c.handle i) = v := Function.update_self _ _ _
  constructor
  · exact fun j _ e => runs_setHandle hq _ v j e
  · exact hother
  · rw [hself, hname]
  · rfl

/-- The handle refers to no timer from now on. -/
theorem Tidy.clearHandle (hq : Represents s q) (ht : c.Tidy s) {v : Handle}
    (hv : v.timerIndex = UINT32_MAX ∨ v.timerIndex = 0) :
    c.Tidy (s.setHandle (c.handle i) v) := by
  have hother (h : ℕ) (hh : h ≠ c.handle i) :
      (s.setHandle (c.handle i) v).handles h = s.handles h := Function.update_of_ne hh _ _
  have hself : (s.setHandle (c.handle i) v).handles (c.handle i) = v := Function.update_self _ _ _
  constructor
  · intro h hh
    rw [hother h (hh i)]
    exact ht.others h hh
  · intro e he
    rw [(hq.setHandle _ _).pending_eq, ← hq.pending_eq] at he
    exact ht.labels e he
  · intro j
    by_cases hj : j = i
    · rw [hj, hself]
      exact hv.imp_right .inl
    · rw [hother _ (fun h => hj (c.handle_inj _ _ h))]
      refine (ht.refers j).imp_right (Or.imp_right ?_)
      rintro ⟨e, he, hindex⟩
      exact ⟨e, (runs_setHandle hq _ _ j e).mpr he, hindex⟩

/-! ## Other users -/

/-- A handle of another user gets another value. -/
theorem Tidy.setForeign (hq : Represents s q) (ht : c.Tidy s) {h : ℕ} {v : Handle}
    (hh : ∀ i, h ≠ c.handle i) (hname : v.name ≠ c.name) :
    c.Tidy (s.setHandle h v) ∧ c.Same s (s.setHandle h v) := by
  have hother (g : ℕ) (hg : g ≠ h) : (s.setHandle h v).handles g = s.handles g :=
    Function.update_of_ne hg _ _
  have hself : (s.setHandle h v).handles h = v := Function.update_self _ _ _
  have hruns (j : ℕ) (e : Timer) : c.Runs (s.setHandle h v) j e ↔ c.Runs s j e :=
    runs_setHandle hq _ _ j e
  refine ⟨⟨?_, ?_, ?_⟩, ⟨hruns, fun j => hother _ (hh j).symm, rfl⟩⟩
  · intro g hg
    by_cases hgh : g = h
    · rw [hgh, hself]
      exact hname
    · rw [hother g hgh]
      exact ht.others g hg
  · intro e he
    rw [(hq.setHandle _ _).pending_eq, ← hq.pending_eq] at he
    exact ht.labels e he
  · intro j
    rw [hother _ (hh j).symm]
    refine (ht.refers j).imp_right (Or.imp_right ?_)
    rintro ⟨e, he, hindex⟩
    exact ⟨e, (hruns j e).mpr he, hindex⟩

/-- A timer has the name of the component when it is one of its timers. -/
theorem Tidy.mem_owned_iff (ht : c.Tidy s) {e : Timer} (hcb : e.job.cb = c.cb) :
    e ∈ owned s c.name ↔ e ∈ pending s := by
  unfold owned
  rw [List.mem_filter]
  constructor
  · exact fun h => h.1
  · intro he
    exact ⟨he, decide_eq_true ((ht.labels e he).mpr hcb)⟩

/-- A call of another user leaves the timers of the component alone. -/
theorem Tidy.foreign (hq : Represents s q) (ht : c.Tidy s) {call : Call} (hf : c.Foreign call)
    (hc : doCall s call = some s') : c.Tidy s' ∧ c.Same s s' := by
  rcases hf with ⟨hh, hname, hjob⟩
  cases hinit : call.name? with
  | some name =>
    cases call with
    | initHandle h name' =>
      obtain rfl : name' = name := Option.some.inj hinit
      obtain rfl : _ = s' := Option.some.inj hc
      exact ht.setForeign hq hh fun heq => hname (congrArg some heq)
    | _ => cases hinit
  | none =>
    have hacts := doCall_acts hq hinit hc
    have hne := ht.others _ hh
    have hlabels : ∀ e ∈ pending s', (s'.timeouts e.ix).name = c.name ↔ e.job.cb = c.cb := by
      intro e he
      rcases hacts.origin e he with ⟨hold, hsame⟩ | ⟨hnew, hsome⟩
      · rw [hsame]
        exact ht.labels e hold
      · rw [hnew]
        exact iff_of_false hne (hjob _ hsome)
    have hruns (j : ℕ) (e : Timer) : c.Runs s' j e ↔ c.Runs s j e := by
      apply and_congr_left
      intro hej
      have hcb : e.job.cb = c.cb := congrArg Job.cb hej
      constructor
      · intro he
        rcases hacts.origin e he with ⟨hold, -⟩ | ⟨-, hsome⟩
        · exact hold
        · exact absurd hcb (hjob _ hsome)
      · intro he
        rw [← ht.mem_owned_iff hcb, ← hacts.others _ hne] at he
        exact List.mem_of_mem_filter he
    have hhandles (j : ℕ) : s'.handles (c.handle j) = s.handles (c.handle j) :=
      hacts.handles _ (hh j).symm
    refine ⟨⟨?_, hlabels, ?_⟩, ⟨hruns, hhandles, hacts.tickInterval⟩⟩
    · intro g hg
      by_cases hgh : g = call.handle
      · rw [hgh, hacts.name]
        exact hne
      · rw [hacts.handles g hgh]
        exact ht.others g hg
    · intro j
      rw [hhandles]
      refine (ht.refers j).imp_right (Or.imp_right ?_)
      rintro ⟨e, he, hindex⟩
      exact ⟨e, (hruns j e).mpr he, hindex⟩

/-! ## The component itself -/

/-- The entry of a timer of the component bears its name. -/
theorem Runs.name (ht : c.Tidy s) {e : Timer} (h : c.Runs s i e) :
    (s.timeouts e.ix).name = c.name := by
  rcases h with ⟨he, hjob⟩
  apply (ht.labels e he).mpr
  rw [hjob]
  rfl

/-- `pf_scheduler_add` for an instance whose handle has been initialised. -/
theorem Tidy.add (hq : Represents s q) (ht : c.Tidy s)
    (hname : (s.handles (c.handle i)).name = c.name) {delay d : Time}
    (hd : pfSchedulerSanitizeDelay delay s.tickInterval true = some d) (now : Time) :
    ∃ ret s' q', pfSchedulerAdd s delay (c.job i) (c.handle i) now = some (ret, s') ∧
      Represents s' q' ∧ c.Tidy s' ∧ c.Only i s s' ∧
      (PF_MAX_TIMEOUTS ≤ s.free → ret = -1 ∧ ∀ e, c.Runs s' i e ↔ c.Runs s i e) ∧
      (s.free < PF_MAX_TIMEOUTS → ret = 0 ∧ ∃ e, e.when = now + d ∧
        (s'.handles (c.handle i)).timerIndex = e.ix + 1 ∧
        ∀ e', c.Runs s' i e' ↔ e' = e ∨ c.Runs s i e') := by
  rcases @add_free_iff s (c.handle i) q hq delay d now (c.job i) hd with ⟨hfull, hroom⟩
  by_cases hfree : PF_MAX_TIMEOUTS ≤ s.free
  · refine ⟨-1, _, q, hfull hfree, hq.setHandle _ _, ht.clearHandle hq (.inl rfl),
      only_setHandle hq rfl, fun _ => ⟨rfl, fun e => runs_setHandle hq _ _ i e⟩, ?_⟩
    intro hlt
    omega
  · rcases hroom (by omega) with ⟨s', hs', hq', hfresh, htick⟩
    rcases add_names hs' with ⟨hnames, hhandles⟩
    have hmem (e' : Timer) : e' ∈ pending s' ↔
        e' = ⟨s.free, now + d, c.job i⟩ ∨ e' ∈ pending s := by
      rw [hq'.pending_eq, hq.pending_eq, List.mem_orderedInsert]
    have hold : ∀ e' ∈ pending s, (s'.timeouts e'.ix).name = (s.timeouts e'.ix).name := by
      intro e' he'
      rw [hq.pending_eq] at he'
      rw [hnames, if_neg (hfresh e' he')]
    have hother (h : ℕ) (hh : h ≠ c.handle i) : s'.handles h = s.handles h := by
      rw [hhandles, Function.update_of_ne hh]
    have hself : s'.handles (c.handle i) = ⟨(s.handles (c.handle i)).name, s.free + 1⟩ := by
      rw [hhandles, Function.update_self]
    have hrunsSelf (e' : Timer) : c.Runs s' i e' ↔
        e' = ⟨s.free, now + d, c.job i⟩ ∨ c.Runs s i e' := by
      unfold Runs
      rw [hmem, or_and_right]
      refine or_congr_left ⟨fun h => h.1, fun h => ⟨h, ?_⟩⟩
      rw [h]
    have hrunsOther (j : ℕ) (hj : j ≠ i) (e' : Timer) : c.Runs s' j e' ↔ c.Runs s j e' := by
      unfold Runs
      rw [hmem, or_and_right]
      refine or_iff_right ?_
      rintro ⟨rfl, hjob⟩
      exact hj (job_injective hjob).symm
    refine ⟨0, s', _, hs', hq', ⟨?_, ?_, ?_⟩, ⟨hrunsOther, ?_, ?_, htick⟩,
      fun hle => absurd hle hfree, fun _ => ⟨rfl, _, rfl, ?_, hrunsSelf⟩⟩
    · intro h hh
      rw [hother h (hh i)]
      exact ht.others h hh
    · intro e' he'
      rcases (hmem e').mp he' with rfl | he'
      · rw [hnames, if_pos rfl, hname]
        exact iff_of_true rfl rfl
      · rw [hold e' he']
        exact ht.labels e' he'
    · intro j
      by_cases hj : j = i
      · rw [hj, hself]
        exact .inr (.inr ⟨_, (hrunsSelf _).mpr (.inl rfl), rfl⟩)
      · rw [hother _ fun h => hj (c.handle_inj _ _ h)]
        refine (ht.refers j).imp_right (Or.imp_right ?_)
        rintro ⟨e', he', hindex⟩
        exact ⟨e', (hrunsOther j hj e').mpr he', hindex⟩
    · exact fun j hj => hother _ fun h => hj (c.handle_inj _ _ h)
    · rw [hself]
    · rw [hself]

/-- A timer of the instance is taken out, and its handle refers to no timer any more. -/
theorem Tidy.takeOut (hq : Represents s q) (hq' : Represents s' (q.erase (timerAt s ix)))
    (hs' : moveToFree s ix = some s') (htick : s'.tickInterval = s.tickInterval) (ht : c.Tidy s)
    (hruns : c.Runs s i (timerAt s ix)) {name : Name}
    (hname : name = (s.handles (c.handle i)).name) :
    c.Tidy (s'.setHandle (c.handle i) ⟨name, UINT32_MAX⟩) ∧
      c.Only i s (s'.setHandle (c.handle i) ⟨name, UINT32_MAX⟩) ∧
      ∀ e, c.Runs (s'.setHandle (c.handle i) ⟨name, UINT32_MAX⟩) i e ↔
        c.Runs s i e ∧ e ≠ timerAt s ix := by
  rcases moveToFree_names hs' with ⟨hnames, hhandles⟩
  have hmem (e : Timer) : e ∈ pending s' ↔ e ∈ pending s ∧ e ≠ timerAt s ix := by
    rw [hq'.pending_eq, hq.pending_eq, hq.pending_nodup.mem_erase_iff]
    exact and_comm
  have hset (j : ℕ) (e : Timer) : c.Runs (s'.setHandle (c.handle i) ⟨name, UINT32_MAX⟩) j e ↔
      c.Runs s j e ∧ e ≠ timerAt s ix := by
    rw [runs_setHandle hq']
    unfold Runs
    rw [hmem, and_right_comm]
  have hrunsOther (j : ℕ) (hj : j ≠ i) (e : Timer) :
      c.Runs (s'.setHandle (c.handle i) ⟨name, UINT32_MAX⟩) j e ↔ c.Runs s j e := by
    rw [hset]
    refine and_iff_left_of_imp ?_
    rintro hj' rfl
    exact hj (hj'.unique hruns)
  have hother (h : ℕ) (hh : h ≠ c.handle i) :
      (s'.setHandle (c.handle i) ⟨name, UINT32_MAX⟩).handles h = s.handles h := by
    rw [← hhandles]
    exact Function.update_of_ne hh _ _
  have hself : (s'.setHandle (c.handle i) ⟨name, UINT32_MAX⟩).handles (c.handle i) =
      ⟨name, UINT32_MAX⟩ := Function.update_self _ _ _
  refine ⟨⟨?_, ?_, ?_⟩, ⟨hrunsOther, ?_, ?_, htick⟩, hset i⟩
  · intro h hh
    rw [hother h (hh i)]
    exact ht.others h hh
  · intro e he
    rw [(hq'.setHandle _ _).pending_eq, ← hq'.pending_eq] at he
    show (s'.timeouts e.ix).name = c.name ↔ _
    rw [hnames]
    exact ht.labels e ((hmem e).mp he).1
  · intro j
    by_cases hj : j = i
    · rw [hj, hself]
      exact .inl rfl
    · rw [hother _ fun h => hj (c.handle_inj _ _ h)]
      refine (ht.refers j).imp_right (Or.imp_right ?_)
      rintro ⟨e, he, hindex⟩
      exact ⟨e, (hrunsOther j hj e).mpr he, hindex⟩
  · exact fun j hj => hother _ fun h => hj (c.handle_inj _ _ h)
  · rw [hself, hname]

/-- `pf_scheduler_remove_if_running` for an instance whose handle has been initialised: the timer
that the handle refers to is gone. -/
theorem Tidy.removeIfRunning (hq : Represents s q) (ht : c.Tidy s)
    (hname : (s.handles (c.handle i)).name = c.name) :
    ∃ s' q', pfSchedulerRemoveIfRunning s (c.handle i) = some s' ∧ Represents s' q' ∧ c.Tidy s' ∧
      c.Only i s s' ∧ ∀ e, c.Runs s' i e → c.Runs s i e ∧
        (s.handles (c.handle i)).timerIndex ≠ e.ix + 1 := by
  have hlt {e : Timer} (he : c.Runs s i e) : e.ix < PF_MAX_TIMEOUTS := by
    have hmem := he.1
    rw [hq.pending_eq] at hmem
    exact (hq.inUse_of_mem hmem).2.1
  have hpool : PF_MAX_TIMEOUTS < UINT32_MAX := by decide
  unfold pfSchedulerRemoveIfRunning pfSchedulerIsRunning
  rcases ht.refers i with hnone | hzero | ⟨e, he, hindex⟩
  · refine ⟨s, q, by simp [hnone], hq, ht, ⟨fun _ _ _ => Iff.rfl, fun _ _ => rfl, rfl, rfl⟩, ?_⟩
    intro e he
    have := hlt he
    exact ⟨he, by omega⟩
  · refine ⟨s, q, by simp [hzero, pfSchedulerRemove, UINT32_MAX], hq, ht,
      ⟨fun _ _ _ => Iff.rfl, fun _ _ => rfl, rfl, rfl⟩, fun e he => ⟨he, by omega⟩⟩
  · have hne : (s.handles (c.handle i)).timerIndex ≠ UINT32_MAX := by
      have := hlt he
      omega
    rw [if_neg hne, if_pos rfl]
    have hmem := he.1
    rw [hq.pending_eq] at hmem
    rcases hq.inUse_of_mem hmem with ⟨hself, hix, hu⟩
    -- the entry has the name of the handle, so the removal finds it
    rcases remove_cases s (c.handle i) with ⟨-, hmiss⟩ | ⟨ix, -, hindex', -, -, hs⟩
    · have hfree := hmiss e.ix hix hindex ((he.name ht).trans hname.symm)
      rw [hu] at hfree
      cases hfree
    · obtain rfl : e.ix = ix := by omega
      rcases moveToFree_timer hq hix hu with ⟨s1, hs1, hq1, -, htick⟩
      rw [hs1, Option.map_some] at hs
      rw [hself] at he
      rcases ht.takeOut hq hq1 hs1 htick he rfl with ⟨ht', honly, hruns⟩
      refine ⟨_, _, hs, hq1.setHandle _ _, ht', honly, ?_⟩
      intro e' he'
      rcases (hruns e').mp he' with ⟨hold, hdiff⟩
      refine ⟨hold, fun heq => hdiff ?_⟩
      have hmem' := hold.1
      rw [hq.pending_eq] at hmem'
      rw [(hq.inUse_of_mem hmem').1, show e'.ix = e.ix by omega]

/-- A round of the tick: the call-back of a timer of the component starts with its handle reset. -/
theorem Tidy.fire (hq : Represents s q) (ht : c.Tidy s) {now : Time} (he : expired s now = true) :
    ∃ s1 q1, moveToFree s s.first = some s1 ∧ Represents s1 q1 ∧ s1.free < PF_MAX_TIMEOUTS ∧
      0 ≤ diff now (timerAt s s.first).when ∧
      ((timerAt s s.first).job.cb ≠ c.cb → c.Tidy s1 ∧ c.Same s s1) ∧
      ∀ i, (timerAt s s.first).job = c.job i → c.Runs s i (timerAt s s.first) ∧
        c.Tidy (pfSchedulerResetHandle s1 (c.handle i)) ∧
        c.Only i s (pfSchedulerResetHandle s1 (c.handle i)) ∧
        ∀ e, c.Runs (pfSchedulerResetHandle s1 (c.handle i)) i e ↔
          c.Runs s i e ∧ e ≠ timerAt s s.first := by
  rcases moveFirst_represents hq he with ⟨_, rest, hcons, -⟩
  have hfirst : timerAt s s.first ∈ q := by
    rw [hcons]
    exact List.mem_cons_self
  rcases hq.inUse_of_mem hfirst with ⟨-, hix, hu⟩
  rcases moveToFree_timer hq hix hu with ⟨s1, hs1, hq1, hfree, htick⟩
  rcases moveToFree_names hs1 with ⟨hnames, hhandles⟩
  have hpending : timerAt s s.first ∈ pending s := by rwa [hq.pending_eq]
  refine ⟨s1, _, hs1, hq1, hfree, (of_decide_eq_true he).2, ?_, ?_⟩
  · intro hcb
    have hmem (e : Timer) : e ∈ pending s1 ↔ e ∈ pending s ∧ e ≠ timerAt s s.first := by
      rw [hq1.pending_eq, hq.pending_eq, hq.pending_nodup.mem_erase_iff]
      exact and_comm
    have hruns (j : ℕ) (e : Timer) : c.Runs s1 j e ↔ c.Runs s j e := by
      unfold Runs
      rw [hmem, and_right_comm]
      refine and_iff_left_of_imp ?_
      rintro ⟨-, hjob⟩ rfl
      exact hcb (congrArg Job.cb hjob)
    refine ⟨⟨?_, ?_, ?_⟩, ⟨hruns, fun j => by rw [hhandles], htick⟩⟩
    · intro h hh
      rw [hhandles]
      exact ht.others h hh
    · intro e he
      rw [hnames]
      exact ht.labels e ((hmem e).mp he).1
    · intro j
      rw [hhandles]
      refine (ht.refers j).imp_right (Or.imp_right ?_)
      rintro ⟨e, he, hindex⟩
      exact ⟨e, (hruns j e).mpr he, hindex⟩
  · intro i hjob
    have hreset : pfSchedulerResetHandle s1 (c.handle i) =
        s1.setHandle (c.handle i) ⟨(s.handles (c.handle i)).name, UINT32_MAX⟩ := by
      rw [pfSchedulerResetHandle, hhandles]
    rw [hreset]
    exact ⟨⟨hpending, hjob⟩, ht.takeOut hq hq1 hs1 htick ⟨hpending, hjob⟩ rfl⟩

end

end Component

end PNet.Scheduler
