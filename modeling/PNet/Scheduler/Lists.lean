import PNet.Scheduler.Delay
import PNet.Scheduler.Links
import PNet.Scheduler.Queue

/-! # The two lists of the scheduler

`Lists s busy free`: the busy list and the free list share out the entries of the
pool, and the entries in use are those of the busy list. Every call keeps it, with
these lists:

* `init_lists`: an empty busy list.
* `moveToFree_lists`: the entry goes from one list to the front of the other.
* `add_lists`: the first free entry goes to its place in the busy list.
* `doCall_lists`, `tick_lists`, `run_lists`: the invariant over calls, ticks and runs.
-/

namespace PNet.Scheduler

open IndexList

structure Lists (s : St) (busy free : List ℕ) : Prop where
  linkedBusy : Linked s.timeouts s.first busy
  linkedFree : Linked s.timeouts s.free free
  /-- Each entry is on exactly one of the lists, once. -/
  share : (busy ++ free).Perm (List.range PF_MAX_TIMEOUTS)
  inUse : ∀ i < PF_MAX_TIMEOUTS, (s.timeouts i).inUse = true ↔ i ∈ busy

theorem Lists.nodup {s : St} {busy free : List ℕ} (h : Lists s busy free) :
    (busy ++ free).Nodup :=
  h.share.nodup_iff.mpr List.nodup_range

theorem Lists.disjoint {s : St} {busy free : List ℕ} (h : Lists s busy free) :
    ∀ i ∈ busy, i ∉ free := fun i hb hf =>
  (List.nodup_append.mp h.nodup).2.2 i hb i hf rfl

/-- The timers' contents, and all that is not a list, stay. -/
structure Keeps (s s' : St) : Prop where
  when : ∀ j, (s'.timeouts j).when = (s.timeouts j).when
  job : ∀ j, (s'.timeouts j).job = (s.timeouts j).job
  tickInterval : s'.tickInterval = s.tickInterval

/-! ## Writing the other fields -/

section Fields
variable (ts : Timeouts) (i j : ℕ)

@[simp] theorem setInUse_next (b : Bool) : ((ts.setInUse i b) j).next = (ts j).next := by
  by_cases h : j = i <;> simp [Timeouts.setInUse, h]

@[simp] theorem setInUse_prev (b : Bool) : ((ts.setInUse i b) j).prev = (ts j).prev := by
  by_cases h : j = i <;> simp [Timeouts.setInUse, h]

@[simp] theorem setInUse_when (b : Bool) : ((ts.setInUse i b) j).when = (ts j).when := by
  by_cases h : j = i <;> simp [Timeouts.setInUse, h]

@[simp] theorem setInUse_job (b : Bool) : ((ts.setInUse i b) j).job = (ts j).job := by
  by_cases h : j = i <;> simp [Timeouts.setInUse, h]

@[simp] theorem setInUse_inUse (b : Bool) :
    ((ts.setInUse i b) j).inUse = if j = i then b else (ts j).inUse := by
  by_cases h : j = i <;> simp [Timeouts.setInUse, h]

@[simp] theorem setName_next (n : Name) : ((ts.setName i n) j).next = (ts j).next := by
  by_cases h : j = i <;> simp [Timeouts.setName, h]

@[simp] theorem setName_prev (n : Name) : ((ts.setName i n) j).prev = (ts j).prev := by
  by_cases h : j = i <;> simp [Timeouts.setName, h]

@[simp] theorem setName_inUse (n : Name) : ((ts.setName i n) j).inUse = (ts j).inUse := by
  by_cases h : j = i <;> simp [Timeouts.setName, h]

@[simp] theorem setTimer_next (n : Name) (b : Job) (w : Time) :
    ((ts.setTimer i n b w) j).next = (ts j).next := by
  by_cases h : j = i <;> simp [Timeouts.setTimer, h]

@[simp] theorem setTimer_prev (n : Name) (b : Job) (w : Time) :
    ((ts.setTimer i n b w) j).prev = (ts j).prev := by
  by_cases h : j = i <;> simp [Timeouts.setTimer, h]

@[simp] theorem setTimer_inUse (n : Name) (b : Job) (w : Time) :
    ((ts.setTimer i n b w) j).inUse = if j = i then true else (ts j).inUse := by
  by_cases h : j = i <;> simp [Timeouts.setTimer, h]

theorem setTimer_other (n : Name) (b : Job) (w : Time) (h : j ≠ i) :
    (ts.setTimer i n b w) j = ts j := by
  simp [Timeouts.setTimer, h]

theorem setTimer_self (n : Name) (b : Job) (w : Time) :
    ((ts.setTimer i n b w) i).when = w ∧ ((ts.setTimer i n b w) i).job = b := by
  simp [Timeouts.setTimer]

end Fields

/-- Writes to fields other than the links do not disturb a list. -/
theorem Linked.same_links {ts : Timeouts} {q : ℕ} {l : List ℕ} (h : Linked ts q l)
    (ts' : Timeouts)
    (hn : ∀ i, (ts' i).next = (ts i).next) (hp : ∀ i, (ts' i).prev = (ts i).prev) :
    Linked ts' q l :=
  Seg.congr h (fun i _ => hn i) (fun i _ => hp i)

/-! ## Initialisation -/

theorem initLoop_spec {n : ℕ} {ts : Timeouts} {q : ℕ} {l : List ℕ} (h : Linked ts q l)
    (hn : n ≤ PF_MAX_TIMEOUTS) (hl : ∀ i ∈ l, n ≤ i) (hu : ∀ i, (ts i).inUse = false) :
    ∃ r, pfSchedulerInitLoop n ts q = some r ∧ Linked r.1 r.2 (List.range n ++ l) ∧
      ∀ i, (r.1 i).inUse = false := by
  induction n generalizing ts q l with
  | zero => exact ⟨(ts, q), rfl, h, hu⟩
  | succ n ih =>
    have h' : Linked ((ts.setName n freeName).setInUse n false) q l :=
      h.same_links _ (by simp) (by simp)
    obtain ⟨r, hr, hlink, hw⟩ := linkBefore_head_spec h' (show n < PF_MAX_TIMEOUTS by omega)
      (fun hm => absurd (hl n hm) (by omega))
    have hu' : ∀ i, (r.1 i).inUse = false := by
      intro i
      rw [hw.inUse]
      simp [hu]
    obtain ⟨r', hr', hlink', hu''⟩ := ih hlink (by omega) (by
      intro i hi
      rcases List.mem_cons.mp hi with rfl | hi
      · exact Nat.le_refl _
      · exact Nat.le_of_succ_le (hl i hi)) hu'
    refine ⟨r', ?_, ?_, hu''⟩
    · rw [pfSchedulerInitLoop, hr]
      exact hr'
    · rw [List.range_succ, List.append_assoc]
      exact hlink'

theorem init_lists (s : St) {tickInterval : Time} (ht : 0#32 < tickInterval) :
    ∃ s', pfSchedulerInit s tickInterval = some s' ∧
      Lists s' [] (List.range PF_MAX_TIMEOUTS) ∧ s'.tickInterval = tickInterval := by
  have hempty : Linked (fun _ => zeroTimeout) PF_MAX_TIMEOUTS [] := rfl
  obtain ⟨r, hr, hlink, hu⟩ := initLoop_spec hempty (Nat.le_refl _) (by simp)
    (fun _ => (rfl : zeroTimeout.inUse = false))
  refine ⟨⟨r.1, PF_MAX_TIMEOUTS, r.2, tickInterval, s.handles⟩, ?_, ⟨rfl, ?_, ?_, ?_⟩, rfl⟩
  · rw [pfSchedulerInit, if_neg (not_not_intro ht), hr]
    rfl
  · rw [List.append_nil] at hlink
    exact hlink
  · exact List.Perm.refl _
  · intro i _
    simp [hu]

/-! ## From the busy list to the free list -/

theorem moveToFree_lists {s : St} {ix : ℕ} {busy free : List ℕ} (h : Lists s busy free)
    (hix : ix ∈ busy) :
    ∃ s', moveToFree s ix = some s' ∧ Lists s' (busy.erase ix) (ix :: free) ∧ Keeps s s' := by
  have hnd := h.nodup
  have hlt : ix < PF_MAX_TIMEOUTS := h.linkedBusy.lt ix hix
  obtain ⟨a, b, ha, rfl, herase⟩ := List.exists_erase_eq hix
  rw [herase]
  obtain ⟨r, hr, hbusy, hw⟩ := unlink_spec h.linkedBusy
  have hout : ∀ i ∈ ix :: free, i ∉ a ++ b := by
    simp only [List.nodup_append, List.nodup_cons, List.mem_append, List.mem_cons] at hnd
    grind
  -- the free list does not see what happens on the busy one
  have hfree : Linked (r.1.setInUse ix false) s.free free :=
    (h.linkedFree.frame hw (fun i hi => hout i (List.mem_cons_of_mem _ hi))).same_links _
      (by simp) (by simp)
  obtain ⟨r', hr', hfree', hw'⟩ := linkBefore_head_spec hfree hlt
    (h.disjoint ix (by simp))
  have hbusy' : Linked r'.1 r.2 (a ++ b) :=
    (hbusy.same_links (r.1.setInUse ix false) (by simp) (by simp)).frame hw'
      (fun i hi hm => hout i hm hi)
  refine ⟨{ s with timeouts := r'.1, first := r.2, free := r'.2 }, ?_,
    ⟨hbusy', hfree', ?_, ?_⟩, ?_, ?_, rfl⟩
  · rw [moveToFree, hr, Option.bind_some]
    show (pfSchedulerLinkBefore (r.1.setInUse ix false) s.free ix s.free).map _ = _
    rw [hr']
    rfl
  · refine List.Perm.trans ?_ h.share
    rw [List.append_assoc, List.append_assoc, List.cons_append]
    exact List.Perm.append_left a (List.perm_middle)
  · intro i hi
    have hu : (r'.1 i).inUse = if i = ix then false else (s.timeouts i).inUse := by
      rw [hw'.inUse, setInUse_inUse, hw.inUse]
    have hni : ix ∉ a ++ b := hout ix (by simp)
    by_cases hii : i = ix
    · subst hii
      simpa [hu] using hni
    · show (r'.1 i).inUse = true ↔ i ∈ a ++ b
      rw [hu, if_neg hii, h.inUse i hi]
      simp [hii]
  · intro j
    show (r'.1 j).when = _
    rw [hw'.when, setInUse_when, hw.when]
  · intro j
    show (r'.1 j).job = _
    rw [hw'.job, setInUse_job, hw.job]

/-! ## The calls -/

theorem Lists.setHandle {s : St} {busy free : List ℕ} (h : Lists s busy free) (i : ℕ)
    (v : Handle) : Lists (s.setHandle i v) busy free :=
  ⟨h.linkedBusy, h.linkedFree, h.share, h.inUse⟩

/-- Without a free entry, `pf_scheduler_add` answers −1 and changes no timer. -/
theorem add_full {s : St} {delay d now : Time} {job : Job} {i : ℕ} {busy : List ℕ}
    (h : Lists s busy []) (hd : pfSchedulerSanitizeDelay delay s.tickInterval true = some d) :
    pfSchedulerAdd s delay job i now = some (-1, pfSchedulerResetHandle s i) := by
  have hq : s.free = PF_MAX_TIMEOUTS := h.linkedFree
  have hun : pfSchedulerUnlink s.timeouts s.free s.free = some (s.timeouts, s.free) := by
    rw [pfSchedulerUnlink, if_pos (Nat.le_of_eq hq.symm)]
  rw [pfSchedulerAdd, hd, Option.bind_some]
  simp only [hun, Option.bind_some, if_pos (Nat.le_of_eq hq.symm)]
  rfl

/-- The first free entry goes to its place in the busy list. -/
theorem add_lists {s : St} {delay d : Time} {f : ℕ} {busy free : List ℕ} (job : Job) (i : ℕ)
    (now : Time)
    (h : Lists s busy (f :: free))
    (hd : pfSchedulerSanitizeDelay delay s.tickInterval true = some d) :
    ∃ s', pfSchedulerAdd s delay job i now = some (0, s') ∧
      Lists s' (busy.orderedInsert (NotAfter s'.timeouts) f) free ∧
      (s'.timeouts f).when = now + d ∧ (s'.timeouts f).job = job ∧
      (∀ j, j ≠ f → (s'.timeouts j).when = (s.timeouts j).when ∧
        (s'.timeouts j).job = (s.timeouts j).job) ∧
      s'.tickInterval = s.tickInterval := by
  have hnd := h.nodup
  have hq : s.free = f := h.linkedFree.head_eq
  have hlt : f < PF_MAX_TIMEOUTS := h.linkedFree.lt f (by simp)
  have hfb : f ∉ busy := fun hm => h.disjoint f hm (by simp)
  have hff : f ∉ free := by
    rw [List.nodup_append] at hnd
    exact (List.nodup_cons.mp hnd.2.1).1
  have hbf : ∀ j ∈ busy, j ∉ free := fun j hj hm => h.disjoint j hj (by simp [hm])
  obtain ⟨r, hr, hfree, hw⟩ := unlink_spec (a := []) (b := free) h.linkedFree
  set ts := r.1.setTimer f (s.handles i).name job (now + d) with hts
  have hbusy : Linked ts s.first busy :=
    (h.linkedBusy.frame hw hbf).same_links _ (by simp [hts]) (by simp [hts])
  obtain ⟨r', hr', hbusy', hw'⟩ := linkBusy_spec hbusy hlt hfb
  have hmem : ∀ j, j ∈ busy.orderedInsert (NotAfter ts) f ↔ j = f ∨ j ∈ busy :=
    fun j => List.mem_orderedInsert _
  have hfree' : Linked r'.1 r.2 free := by
    refine (hfree.same_links ts (by simp [hts]) (by simp [hts])).frame hw' ?_
    intro j hj hm
    rcases (hmem j).mp hm with rfl | hm
    · exact hff hj
    · exact hbf j hm hj
  have hsame : busy.orderedInsert (NotAfter r'.1) f = busy.orderedInsert (NotAfter ts) f :=
    orderedInsert_notAfter_congr hw'.when
  have hself := setTimer_self r.1 f (s.handles i).name job (now + d)
  refine ⟨⟨r'.1, r'.2, r.2, s.tickInterval,
      Function.update s.handles i ⟨(s.handles i).name, f + 1⟩⟩, ?_, ⟨?_, hfree', ?_, ?_⟩, ?_, ?_, ?_, rfl⟩
  · rw [pfSchedulerAdd, hd, Option.bind_some]
    rw [hq] at hr ⊢
    simp only [hr, Option.bind_some, if_neg (Nat.not_le.mpr hlt)]
    show (linkBusy ts s.first f).map _ = _
    rw [hr']
    rfl
  · show Linked r'.1 r'.2 (busy.orderedInsert (NotAfter r'.1) f)
    rw [hsame]
    exact hbusy'
  · have hperm := (List.perm_orderedInsert (NotAfter r'.1) f busy).append_right free
    exact (hperm.trans List.perm_middle.symm).trans h.share
  · intro j hj
    show (r'.1 j).inUse = true ↔ j ∈ busy.orderedInsert (NotAfter r'.1) f
    rw [hsame, hmem, hw'.inUse, hts, setTimer_inUse]
    by_cases hjf : j = f
    · simp [hjf]
    · rw [if_neg hjf, hw.inUse, h.inUse j hj]
      simp [hjf]
  · exact (hw'.when f).trans hself.1
  · exact (hw'.job f).trans hself.2
  · intro j hj
    have hother := setTimer_other r.1 f j (s.handles i).name job (now + d) hj
    refine ⟨?_, ?_⟩
    · show (r'.1 j).when = _
      rw [hw'.when, hts, hother, hw.when]
    · show (r'.1 j).job = _
      rw [hw'.job, hts, hother, hw.job]

/-- `pf_scheduler_remove` does nothing, or it moves a busy entry. -/
theorem remove_lists {s : St} {i : ℕ} {busy free : List ℕ} (h : Lists s busy free) :
    pfSchedulerRemove s i = some s ∨
      ∃ ix ∈ busy, ∃ s', pfSchedulerRemove s i = some s' ∧
        Lists s' (busy.erase ix) (ix :: free) ∧ Keeps s s' := by
  unfold pfSchedulerRemove
  by_cases hi : (s.handles i).timerIndex = 0 ∨ PF_MAX_TIMEOUTS < (s.handles i).timerIndex
  · exact Or.inl (if_pos hi)
  · rw [not_or, not_lt] at hi
    have hpool : PF_MAX_TIMEOUTS < 2 ^ 16 := by decide
    -- so the 16 bits of the local index lose nothing
    have hmod : ((s.handles i).timerIndex - 1) % 2 ^ 16 = (s.handles i).timerIndex - 1 :=
      Nat.mod_eq_of_lt (by omega)
    simp only [if_neg (not_or.mpr ⟨hi.1, not_lt.mpr hi.2⟩), hmod]
    set ix := (s.handles i).timerIndex - 1
    by_cases hname : (s.timeouts ix).name ≠ (s.handles i).name
    · exact Or.inl (if_pos hname)
    · rw [if_neg hname]
      by_cases hu : (s.timeouts ix).inUse = false
      · exact Or.inl (if_pos hu)
      · rw [if_neg hu]
        have hbusy : ix ∈ busy := (h.inUse ix (by omega)).mp (by simpa using hu)
        obtain ⟨s', hs', hl, hk⟩ := moveToFree_lists h hbusy
        refine Or.inr ⟨ix, hbusy, s'.setHandle i ⟨(s.handles i).name, UINT32_MAX⟩, ?_,
          hl.setHandle i _, ⟨hk.when, hk.job, hk.tickInterval⟩⟩
        rw [hs']
        rfl

/-! ## The queue that a state represents -/

theorem timerAt_injective (s : St) : Function.Injective (timerAt s) :=
  fun _ _ h => congrArg Timer.ix h

theorem notAfter_iff (s : St) (i j : ℕ) :
    NotAfter s.timeouts i j ↔ Timer.NotAfter (timerAt s i) (timerAt s j) := Iff.rfl

theorem Keeps.timerAt {s s' : St} (h : Keeps s s') : timerAt s' = timerAt s := by
  funext i
  rw [Scheduler.timerAt, Scheduler.timerAt, h.when, h.job]

/-- The lists are in order, and the busy one shows the queue `q`. -/
def Represents (s : St) (q : List Timer) : Prop :=
  ∃ busy free, Lists s busy free ∧ q = busy.map (timerAt s)

theorem Represents.nodup {s : St} {q : List Timer} (h : Represents s q) :
    (q.map Timer.ix).Nodup := by
  obtain ⟨busy, free, hl, rfl⟩ := h
  have hid : (busy.map (timerAt s)).map Timer.ix = busy := by
    rw [List.map_map]
    exact List.map_id busy
  rw [hid]
  exact (List.nodup_append.mp hl.nodup).1

theorem init_represents (s : St) {tickInterval : Time} (ht : 0#32 < tickInterval) :
    ∃ s', pfSchedulerInit s tickInterval = some s' ∧ Represents s' [] ∧
      s'.tickInterval = tickInterval := by
  obtain ⟨s', hs', hl, hi⟩ := init_lists s ht
  exact ⟨s', hs', ⟨[], _, hl, rfl⟩, hi⟩

theorem init_completes {s s' : St} {tickInterval : Time}
    (h : pfSchedulerInit s tickInterval = some s') : Represents s' [] := by
  by_cases ht : 0#32 < tickInterval
  · obtain ⟨s1, hs1, hr, -⟩ := init_represents s ht
    exact Option.some.inj (hs1.symm.trans h) ▸ hr
  · rw [pfSchedulerInit, if_pos ht] at h
    cases h

theorem Represents.setHandle {s : St} {q : List Timer} (h : Represents s q) (i : ℕ)
    (v : Handle) : Represents (s.setHandle i v) q := by
  obtain ⟨busy, free, hl, rfl⟩ := h
  exact ⟨busy, free, hl.setHandle i v, rfl⟩

theorem moveToFree_represents {s : St} {ix : ℕ} {busy free : List ℕ} (h : Lists s busy free)
    (hix : ix ∈ busy) :
    ∃ s', moveToFree s ix = some s' ∧
      Represents s' ((busy.map (timerAt s)).erase (timerAt s ix)) ∧
      s'.tickInterval = s.tickInterval := by
  obtain ⟨s', hs', hl, hk⟩ := moveToFree_lists h hix
  refine ⟨s', hs', ⟨_, _, hl, ?_⟩, hk.tickInterval⟩
  rw [hk.timerAt, List.map_erase (timerAt_injective s)]

theorem remove_represents {s : St} {i : ℕ} {q : List Timer} (h : Represents s q) :
    ∃ s' q', pfSchedulerRemove s i = some s' ∧ Represents s' q' ∧ Queue.Removes q q' ∧
      s'.tickInterval = s.tickInterval := by
  obtain ⟨busy, free, hl, rfl⟩ := h
  rcases remove_lists (i := i) hl with hs | ⟨ix, hix, s', hs', hl', hk⟩
  · exact ⟨s, _, hs, ⟨busy, free, hl, rfl⟩, Or.inl rfl, rfl⟩
  · refine ⟨s', _, hs', ⟨_, _, hl', rfl⟩, Or.inr ⟨timerAt s ix, ?_, ?_⟩, hk.tickInterval⟩
    · exact List.mem_map_of_mem hix
    · rw [hk.timerAt, List.map_erase (timerAt_injective s)]

theorem removeIfRunning_represents {s : St} {i : ℕ} {q : List Timer} (h : Represents s q) :
    ∃ s' q', pfSchedulerRemoveIfRunning s i = some s' ∧ Represents s' q' ∧
      Queue.Removes q q' ∧ s'.tickInterval = s.tickInterval := by
  unfold pfSchedulerRemoveIfRunning
  by_cases hr : pfSchedulerIsRunning s i = true
  · rw [if_pos hr]
    exact remove_represents h
  · rw [if_neg hr]
    exact ⟨s, q, rfl, h, Or.inl rfl, rfl⟩

theorem add_represents {s : St} {delay d : Time} {q : List Timer} (job : Job) (i : ℕ) (now : Time)
    (h : Represents s q) (hd : pfSchedulerSanitizeDelay delay s.tickInterval true = some d) :
    ∃ ret s' q', pfSchedulerAdd s delay job i now = some (ret, s') ∧ Represents s' q' ∧
      Queue.Inserts (some now) q q' ∧ s'.tickInterval = s.tickInterval := by
  obtain ⟨busy, free, hl, rfl⟩ := h
  cases free with
  | nil =>
    exact ⟨-1, _, _, add_full hl hd, (Represents.setHandle ⟨busy, [], hl, rfl⟩ i _),
      Or.inl rfl, rfl⟩
  | cons f free =>
    obtain ⟨s', hs', hl', hw, -, hother, hi⟩ := add_lists job i now hl hd
    have hfb : f ∉ busy := fun hm => hl.disjoint f hm (by simp)
    have hold : busy.map (timerAt s') = busy.map (timerAt s) := by
      refine List.map_congr_left fun j hj => ?_
      have hjf : j ≠ f := by
        rintro rfl
        exact hfb hj
      rw [timerAt, timerAt, (hother j hjf).1, (hother j hjf).2]
    have hbounds := sanitizeDelay_bounds hd
    refine ⟨0, s', _, hs', ⟨_, _, hl', rfl⟩, Or.inr ⟨now, d, timerAt s' f, rfl, hbounds.1,
      hbounds.2, hw, ?_⟩, hi⟩
    rw [← hold]
    exact List.map_orderedInsert _ _ _ _ _ (fun j _ => notAfter_iff s' j f)
      (fun j _ => notAfter_iff s' f j)

theorem add_completes {s s' : St} {delay now : Time} {job : Job} {i : ℕ} {q : List Timer} {ret : ℤ}
    (h : Represents s q) (ha : pfSchedulerAdd s delay job i now = some (ret, s')) :
    ∃ q', Represents s' q' ∧ Queue.Inserts (some now) q q' ∧
      s'.tickInterval = s.tickInterval := by
  cases hd : pfSchedulerSanitizeDelay delay s.tickInterval true with
  | none =>
    rw [pfSchedulerAdd, hd] at ha
    cases ha
  | some d =>
    obtain ⟨ret', s1, q1, hs1, hr, hins, hi⟩ :=
      add_represents job i now h hd
    rw [hs1] at ha
    cases ha
    exact ⟨q1, hr, hins, hi⟩

/-- A call that completes does to the queue what `Queue.Effect` says. -/
theorem doCall_represents {s s' : St} {c : Call} {q : List Timer} (h : Represents s q)
    (hc : doCall s c = some s') :
    ∃ q', Represents s' q' ∧ Queue.Effect c q q' ∧ s'.tickInterval = s.tickInterval := by
  cases c with
  | initHandle i n =>
    obtain rfl : _ = s' := by simpa [doCall] using hc
    exact ⟨q, h.setHandle i _, Queue.Effect.refl _ _, rfl⟩
  | resetHandle i =>
    obtain rfl : _ = s' := by simpa [doCall] using hc
    exact ⟨q, h.setHandle i _, Queue.Effect.refl _ _, rfl⟩
  | remove i =>
    obtain ⟨s1, q1, hs1, hr, he, hi⟩ := remove_represents (i := i) h
    obtain rfl : s1 = s' := by simpa [doCall, hs1] using hc
    exact ⟨q1, hr, Queue.Effect.of_removes he, hi⟩
  | removeIfRunning i =>
    obtain ⟨s1, q1, hs1, hr, he, hi⟩ := removeIfRunning_represents (i := i) h
    obtain rfl : s1 = s' := by simpa [doCall, hs1] using hc
    exact ⟨q1, hr, Queue.Effect.of_removes he, hi⟩
  | add delay job i now =>
    obtain ⟨ret, hadd⟩ : ∃ ret, pfSchedulerAdd s delay job i now = some (ret, s') := by
      simpa [doCall] using hc
    obtain ⟨q', hr, hins, hi⟩ := add_completes h hadd
    exact ⟨q', hr, ⟨q, Or.inl rfl, hins⟩, hi⟩
  | restart delay job i now =>
    obtain ⟨s1, q1, hs1, hr1, hrem, hi1⟩ := removeIfRunning_represents (i := i) h
    obtain ⟨ret, hadd⟩ : ∃ ret, pfSchedulerAdd s1 delay job i now = some (ret, s') := by
      simpa [doCall, pfSchedulerRestart, hs1] using hc
    obtain ⟨q', hr, hins, hi⟩ := add_completes hr1 hadd
    exact ⟨q', hr, ⟨q1, hrem, hins⟩, hi.trans hi1⟩

/-- With a tick interval below 2^31 every call completes. -/
theorem doCall_some {s : St} {q : List Timer} (h : Represents s q) (hpos : 0#32 < s.tickInterval)
    (hlt : s.tickInterval.toNat < 2 ^ 31) (c : Call) : ∃ s', doCall s c = some s' := by
  cases c with
  | initHandle i n => exact ⟨_, rfl⟩
  | resetHandle i => exact ⟨_, rfl⟩
  | remove i =>
    obtain ⟨s1, _, hs1, _⟩ := remove_represents (i := i) h
    exact ⟨s1, hs1⟩
  | removeIfRunning i =>
    obtain ⟨s1, _, hs1, _⟩ := removeIfRunning_represents (i := i) h
    exact ⟨s1, hs1⟩
  | add delay job i now =>
    obtain ⟨d, hd⟩ := sanitizeDelay_some delay hpos hlt
    obtain ⟨ret, s1, _, hs1, _⟩ := add_represents job i now h hd
    exact ⟨s1, by rw [doCall, hs1]; rfl⟩
  | restart delay job i now =>
    obtain ⟨s1, _, hs1, hr1, _, hi1⟩ := removeIfRunning_represents (i := i) h
    rw [← hi1] at hpos hlt
    obtain ⟨d, hd⟩ := sanitizeDelay_some delay hpos hlt
    obtain ⟨ret, s2, _, hs2, _⟩ := add_represents job i now hr1 hd
    exact ⟨s2, by rw [doCall, pfSchedulerRestart, hs1, Option.bind_some, hs2]; rfl⟩

end PNet.Scheduler
