import PNet.Scheduler.Runs

/-! # Order across the wrap of the clock

The busy list in order of expiry, as `pending` reads it off the state, and what a tick
runs. All results are under `RunNear`: in every state the pending expiries and the clock
lie within half the clock's range of each other.

* `run_sorted_tick_exact`: the busy list is sorted after every run, and a tick runs the
  pending timers that have expired and that no call-back of that tick takes out, each
  once, in the order of the list.
-/

namespace PNet.Scheduler

open CircularTime

/-! ## Reading the queue -/

/-- The indices met from `ix` on. -/
def busyFrom (ts : Timeouts) : ℕ → ℕ → List ℕ
  | 0, _ => []
  | left + 1, ix =>
    if ix < PF_MAX_TIMEOUTS then ix :: busyFrom ts left (ts ix).next else []

/-- The timers of the busy list, from its head on. -/
def pending (s : St) : List Timer :=
  (busyFrom s.timeouts PF_MAX_TIMEOUTS s.first).map (timerAt s)

theorem busyFrom_eq {ts : Timeouts} {left p h : ℕ} {l : List ℕ}
    (hs : IndexList.Seg PF_MAX_TIMEOUTS (fun i => (ts i).next) (fun i => (ts i).prev) p h l)
    (hleft : l.length ≤ left) : busyFrom ts left h = l := by
  induction l generalizing left p h with
  | nil =>
    have hh : h = PF_MAX_TIMEOUTS := hs
    cases left <;> simp [busyFrom, hh]
  | cons i l ih =>
    obtain ⟨rfl, hlt, -, hrest⟩ := hs
    cases left with
    | zero => simp at hleft
    | succ left => rw [busyFrom, if_pos hlt, ih hrest (by simpa using hleft)]

theorem Represents.pending_eq {s : St} {q : List Timer} (h : Represents s q) : pending s = q := by
  obtain ⟨busy, free, hl, rfl⟩ := h
  rw [pending, busyFrom_eq hl.linkedBusy hl.linkedBusy.length_le]

theorem Represents.pending_nodup {s : St} {q : List Timer} (h : Represents s q) : q.Nodup :=
  List.Nodup.of_map _ h.nodup

/-! ## The window -/

/-- The pending expiries and the clock readings `nows` lie within half the clock's range
of each other. -/
def Near (nows : List Time) (s : St) : Prop := Arc (nows ++ (pending s).map Timer.when)

/-- After each of the calls, with the clock reading of the call. -/
def CallsNear (nows : List Time) : St → List Call → Prop
  | _, [] => True
  | s, c :: cs =>
    ∀ s', doCall s c = some s' → Near (nows ++ c.now?.toList) s' ∧ CallsNear nows s' cs

/-- In every state of the tick, with the reading it started with. -/
def TickNear (now : Time) (script : List (List Call)) (s : St) : Prop :=
  ∀ rs s', pfSchedulerTick now script s = some (rs, s') →
    Near [now] s' ∧ ∀ r ∈ rs, Near [now] r.found ∧ CallsNear [now] r.start r.calls

/-- In every state of the run. -/
def RunNear : St → List Step → Prop
  | _, [] => True
  | s, a :: as =>
    (match a with
      | .init _ => True
      | .call c => CallsNear [] s [c]
      | .tick now script => TickNear now script s) ∧
      ∀ s', doStep s a = some s' → RunNear s' as

/-! ## Sortedness -/

theorem doCalls_sorted {nows : List Time} {s s' : St} {cs : List Call} {q : List Timer}
    (h : Represents s q) (hs : Queue.Sorted q) (hn : CallsNear nows s cs)
    (hc : doCalls s cs = some s') : ∃ q', Represents s' q' ∧ Queue.Sorted q' := by
  induction cs generalizing s q with
  | nil =>
    obtain rfl : s = s' := by simpa [doCalls] using hc
    exact ⟨q, h, hs⟩
  | cons c cs ih =>
    obtain ⟨s1, h1, h2⟩ := Option.bind_eq_some_iff.mp hc
    obtain ⟨q1, hr1, he, -⟩ := doCall_represents h h1
    obtain ⟨hn1, hn2⟩ := hn s1 h1
    rw [Near, hr1.pending_eq] at hn1
    have harc : Arc (q1.map Timer.when) := hn1.mono (fun t ht => by simp [ht])
    exact ih hr1 (he.sorted hs harc) hn2 h2

/-- Each round finds a sorted queue with an expired timer at its front, which it runs;
the last state has a sorted queue, too. -/
theorem Rounds.sorted {now : Time} {s s' : St} {rs : List Round} {q : List Timer}
    (hrs : Rounds now s rs s') (h : Represents s q) (hs : Queue.Sorted q)
    (hn : ∀ r ∈ rs, CallsNear [now] r.start r.calls) :
    (∃ q', Represents s' q' ∧ Queue.Sorted q') ∧
      ∀ r ∈ rs, Queue.Sorted (pending r.found) ∧ (pending r.found).head? = some r.fired ∧
        r.fired.Expired now = true := by
  induction rs generalizing s q with
  | nil =>
    obtain rfl : s = s' := hrs
    exact ⟨⟨q, h, hs⟩, by simp⟩
  | cons r rs ih =>
    obtain ⟨rfl, he, hm, hc, hrest⟩ := hrs
    obtain ⟨s1, q1, hq, hs1, hr1, -⟩ := moveFirst_represents h he
    obtain rfl : s1 = r.start := Option.some.inj (hs1.symm.trans hm)
    have hsq := hs
    rw [hq, Queue.Sorted, List.pairwise_cons] at hsq
    obtain ⟨q2, hr2, hsq2⟩ := doCalls_sorted hr1 hsq.2 (hn r (by simp)) hc
    obtain ⟨hend, hall⟩ := ih hrest hr2 hsq2 (fun r' hr' => hn r' (by simp [hr']))
    refine ⟨hend, ?_⟩
    intro r' hr'
    rcases List.mem_cons.mp hr' with rfl | hr'
    · rw [h.pending_eq]
      obtain ⟨e, q', hq', hexp⟩ := (h.expired_iff now).mp he
      have hfe : r'.fired = e := (List.cons.inj (hq.symm.trans hq')).1
      exact ⟨hs, by rw [hq]; rfl, by simpa [hfe, Timer.Expired] using hexp⟩
    · exact hall r' hr'

/-! ## What a tick runs -/

/-- The call-back of the round takes the pending timer `e` out. -/
def Round.cancels (r : Round) (e : Timer) : Bool :=
  decide (e ∈ pending r.start ∧ e ∉ pending r.finish)

/-- On a sorted queue whose first timer has not expired, none has. -/
theorem none_expired {q : List Timer} {now : Time} (hs : Queue.Sorted q)
    (harc : Arc ([now] ++ q.map Timer.when))
    (hfirst : ¬ ∃ e q', q = e :: q' ∧ 0 ≤ diff now e.when) :
    ∀ e ∈ q, Timer.Expired now e = false := by
  cases q with
  | nil => simp
  | cons e q =>
    have hlt : diff now e.when < 0 := by
      by_contra hge
      exact hfirst ⟨e, q, rfl, not_lt.mp hge⟩
    rw [Queue.Sorted, List.pairwise_cons] at hs
    intro x hx
    rcases List.mem_cons.mp hx with rfl | hxq
    · simpa [Timer.Expired] using hlt
    · obtain ⟨base, hb⟩ := harc
      have hnow := hb now (by simp)
      have he := hb e.when (by simp)
      have hx' := hb x.when (List.mem_append_right _ (List.mem_map_of_mem hx))
      have hex : diff e.when x.when ≤ 0 := hs.1 x hxq
      rw [diff, sub_toInt hnow he] at hlt
      rw [diff, sub_toInt he hx'] at hex
      have hxlt : diff now x.when < 0 := by
        rw [diff, sub_toInt hnow hx']
        omega
      simpa [Timer.Expired] using hxlt

/-- Calls that are not made before `now` leave, of the timers expired at `now`, those
that are still pending, in their order. -/
theorem doCalls_expired {now : Time} {s s' : St} {cs : List Call} {q : List Timer}
    (h : Represents s q) (hn : CallsNear [now] s cs)
    (hclock : ∀ c ∈ cs, ∀ t, c.now? = some t → 0 ≤ diff t now) (hc : doCalls s cs = some s') :
    ∃ q', Represents s' q' ∧
      q'.filter (Timer.Expired now) = (q.filter (Timer.Expired now)).filter (· ∈ q') := by
  induction cs generalizing s q with
  | nil =>
    obtain rfl : s = s' := by simpa [doCalls] using hc
    refine ⟨q, h, (List.filter_eq_self.mpr ?_).symm⟩
    intro x hx
    simpa using (List.mem_filter.mp hx).1
  | cons c cs ih =>
    obtain ⟨s1, h1, h2⟩ := Option.bind_eq_some_iff.mp hc
    obtain ⟨q1, hr1, he, -⟩ := doCall_represents h h1
    obtain ⟨hn1, hn2⟩ := hn s1 h1
    rw [Near, hr1.pending_eq] at hn1
    have hfirst := he.expired h.pending_nodup (hclock c (by simp)) hn1
    obtain ⟨q', hr', hrest⟩ := ih hr1 hn2 (fun c' hc' => hclock c' (by simp [hc'])) h2
    refine ⟨q', hr', ?_⟩
    -- an expired timer that is pending at the end was pending in between
    have hsub : ∀ x, x ∈ q' → Timer.Expired now x = true → x ∈ q1 := by
      intro x hx hxe
      have hmem : x ∈ q'.filter (Timer.Expired now) := List.mem_filter.mpr ⟨hx, hxe⟩
      rw [hrest] at hmem
      exact (List.mem_filter.mp (List.mem_filter.mp hmem).1).1
    rw [hrest, hfirst, List.filter_filter]
    refine List.filter_congr fun x hx => ?_
    have hxe := (List.mem_filter.mp hx).2
    by_cases hx' : x ∈ q'
    · simp [hx', hsub x hx' hxe]
    · simp [hx']

/-- The clock does not run backwards while the call-backs of a tick run. -/
def ClockFrom (now : Time) (rs : List Round) : Prop :=
  ∀ r ∈ rs, ∀ c ∈ r.calls, ∀ t, c.now? = some t → 0 ≤ diff t now

/-- A timer that had expired and is not pending any more does not come back, so no
later round can take it out. -/
theorem Rounds.gone {now : Time} {s s' : St} {rs : List Round} {q : List Timer}
    (hrs : Rounds now s rs s') (h : Represents s q)
    (hn : ∀ r ∈ rs, CallsNear [now] r.start r.calls) (hclock : ClockFrom now rs) {e : Timer}
    (he : e.Expired now = true) (hout : e ∉ q) : ∀ r ∈ rs, r.cancels e = false := by
  induction rs generalizing s q with
  | nil => simp
  | cons r rs ih =>
    obtain ⟨rfl, hexp, hm, hc, hrest⟩ := hrs
    obtain ⟨s1, q1, hq, hs1, hr1, -⟩ := moveFirst_represents h hexp
    obtain rfl : s1 = r.start := Option.some.inj (hs1.symm.trans hm)
    have hout1 : e ∉ q1 := fun hm => hout (by simp [hq, hm])
    obtain ⟨q2, hr2, hf⟩ := doCalls_expired hr1 (hn r (by simp)) (hclock r (by simp)) hc
    have hout2 : e ∉ q2 := by
      intro hmem
      have hmem' : e ∈ q2.filter (Timer.Expired now) := List.mem_filter.mpr ⟨hmem, he⟩
      rw [hf] at hmem'
      exact hout1 (List.mem_filter.mp (List.mem_filter.mp hmem').1).1
    intro r' hr'
    rcases List.mem_cons.mp hr' with rfl | hr'
    · simp [Round.cancels, hr1.pending_eq, hout1]
    · exact ih hrest hr2 (fun r'' hr'' => hn r'' (by simp [hr'']))
        (fun r'' hr'' => hclock r'' (by simp [hr''])) hout2 r' hr'

/-- The timers that the rounds run: of the pending ones those that have expired and that
no round takes out. -/
theorem Rounds.fired_eq {now : Time} {s s' : St} {rs : List Round} {q : List Timer}
    (hrs : Rounds now s rs s') (h : Represents s q) (hs : Queue.Sorted q)
    (hn : ∀ r ∈ rs, CallsNear [now] r.start r.calls) (hclock : ClockFrom now rs)
    (hend : expired s' now = false) (harc : Near [now] s') :
    rs.map Round.fired =
      q.filter (fun e => e.Expired now && rs.all (fun r => !r.cancels e)) := by
  induction rs generalizing s q with
  | nil =>
    obtain rfl : s = s' := hrs
    rw [Near, h.pending_eq] at harc
    have hnone := none_expired hs harc (fun hex => by simp [(h.expired_iff now).mpr hex] at hend)
    symm
    rw [List.map_nil, List.filter_eq_nil_iff]
    intro e he
    simp [hnone e he]
  | cons r rs ih =>
    obtain ⟨rfl, hexp, hm, hc, hrest⟩ := hrs
    obtain ⟨s1, q1, hq, hs1, hr1, -⟩ := moveFirst_represents h hexp
    obtain rfl : s1 = r.start := Option.some.inj (hs1.symm.trans hm)
    obtain ⟨e, q1', hq', he0⟩ := (h.expired_iff now).mp hexp
    obtain ⟨hfe, rfl⟩ : r.fired = e ∧ q1 = q1' := List.cons.inj (hq.symm.trans hq')
    subst hq'
    have he : e.Expired now = true := by simpa [Timer.Expired] using he0
    have hnd := List.nodup_cons.mp h.pending_nodup
    rw [Queue.Sorted, List.pairwise_cons] at hs
    have hnr := hn r (by simp)
    have hcr := hclock r (by simp)
    have hn' : ∀ r' ∈ rs, CallsNear [now] r'.start r'.calls := fun r' hr' => hn r' (by simp [hr'])
    have hclock' : ClockFrom now rs := fun r' hr' => hclock r' (by simp [hr'])
    obtain ⟨q2, hr2, hs2⟩ := doCalls_sorted hr1 hs.2 hnr hc
    obtain ⟨q2', hr2', hf⟩ := doCalls_expired hr1 hnr hcr hc
    obtain rfl : q2 = q2' := hr2.pending_eq.symm.trans hr2'.pending_eq
    have hout2 : e ∉ q2 := by
      intro hmem
      have hmem' : e ∈ q2.filter (Timer.Expired now) := List.mem_filter.mpr ⟨hmem, he⟩
      rw [hf] at hmem'
      exact hnd.1 (List.mem_filter.mp (List.mem_filter.mp hmem').1).1
    have hcanc : r.cancels e = false := by simp [Round.cancels, hr1.pending_eq, hnd.1]
    have hgone := hrest.gone hr2 hn' hclock' he hout2
    have hkeep : (e.Expired now && (r :: rs).all (fun r' => !r'.cancels e)) = true := by
      simp [he, hcanc]
      simpa using hgone
    rw [List.map_cons, hfe, List.filter_cons, if_pos hkeep, ih hrest hr2 hs2 hn' hclock']
    congr 1
    -- of the queue that the call-back starts with, both sides keep the same timers
    calc q2.filter (fun x => x.Expired now && rs.all (fun r' => !r'.cancels x))
        = (q2.filter (Timer.Expired now)).filter (fun x => rs.all (fun r' => !r'.cancels x)) := by
          rw [List.filter_filter]
          exact List.filter_congr fun x _ => Bool.and_comm ..
      _ = q1.filter (fun x => x.Expired now && (r :: rs).all (fun r' => !r'.cancels x)) := by
          rw [hf, List.filter_filter, List.filter_filter]
          refine List.filter_congr fun x hx => ?_
          have hx2 : (!r.cancels x) = decide (x ∈ q2) := by
            simp [Round.cancels, hr1.pending_eq, hr2.pending_eq, hx]
          rw [List.all_cons, hx2]
          simp only [Bool.and_comm, Bool.and_left_comm]

/-! ## Runs -/

theorem run_sorted {s s' : St} {as : List Step} {q : List Timer} (h : Represents s q)
    (hs : Queue.Sorted q) (hn : RunNear s as) (hr : run s as = some s') :
    ∃ q', Represents s' q' ∧ Queue.Sorted q' := by
  induction as generalizing s q with
  | nil =>
    obtain rfl : s = s' := by simpa [run] using hr
    exact ⟨q, h, hs⟩
  | cons a as ih =>
    obtain ⟨s1, h1, h2⟩ := Option.bind_eq_some_iff.mp hr
    obtain ⟨hna, hnrest⟩ := hn
    have hstep : ∃ q1, Represents s1 q1 ∧ Queue.Sorted q1 := by
      cases a with
      | init tickInterval => exact ⟨[], init_completes h1, List.Pairwise.nil⟩
      | call c =>
        have hone : doCalls s [c] = some s1 := Option.bind_eq_some_iff.mpr ⟨s1, h1, rfl⟩
        exact doCalls_sorted h hs hna hone
      | tick now script =>
        obtain ⟨⟨rs, s2⟩, ht, rfl⟩ := Option.map_eq_some_iff.mp h1
        have hrounds := (tick_rounds h ht).1
        exact (hrounds.sorted h hs (fun r hr => ((hna rs s2 ht).2 r hr).2)).1
    obtain ⟨q1, hr1, hs1⟩ := hstep
    exact ih hr1 hs1 (hnrest s1 h1) h2

/-- The busy list is sorted after every run, and in every round of a tick that follows
the tick runs its first timer, which has expired. No expired timer is pending after the
tick. When the clock does not run backwards, the timers run are, in order, the pending
ones that have expired and that no call-back of the tick takes out. -/
theorem run_sorted_tick_exact {s₀ s : St} {tickInterval : Time} {as : List Step}
    (hr : run s₀ (.init tickInterval :: as) = some s)
    (hn : RunNear s₀ (.init tickInterval :: as)) :
    Queue.Sorted (pending s) ∧ (pending s).Nodup ∧
      ∀ now script rs s', pfSchedulerTick now script s = some (rs, s') → TickNear now script s →
        (∀ r ∈ rs, Queue.Sorted (pending r.found) ∧ (pending r.found).head? = some r.fired ∧
          r.fired.Expired now = true) ∧
        (∀ e ∈ pending s', e.Expired now = false) ∧
        (ClockFrom now rs → rs.map Round.fired =
          (pending s).filter (fun e => e.Expired now && rs.all (fun r => !r.cancels e))) := by
  obtain ⟨s1, h1, h2⟩ := Option.bind_eq_some_iff.mp hr
  obtain ⟨-, hnrest⟩ := hn
  obtain ⟨q, hq, hs⟩ := run_sorted (init_completes h1) List.Pairwise.nil (hnrest s1 h1) h2
  rw [hq.pending_eq]
  refine ⟨hs, hq.pending_nodup, ?_⟩
  intro now script rs s' ht hnear
  obtain ⟨harc, hnr⟩ := hnear rs s' ht
  obtain ⟨hrounds, hend⟩ := tick_rounds hq ht
  obtain ⟨⟨q', hq', hs'⟩, hall⟩ := hrounds.sorted hq hs (fun r hr => (hnr r hr).2)
  refine ⟨hall, ?_, ?_⟩
  · have harc' := harc
    rw [Near, hq'.pending_eq] at harc'
    rw [hq'.pending_eq]
    exact none_expired hs' harc' (fun hex => by simp [(hq'.expired_iff now).mpr hex] at hend)
  · intro hclock
    exact hrounds.fired_eq hq hs (fun r hr => (hnr r hr).2) hclock hend harc

/-! ### Two timers around the wrap -/

/-- The timer that expires later is started first. -/
def wrapSteps : List Step :=
  [.init 1000#32, .call (.add 3000#32 ⟨7, 0⟩ 0 0xfffffe00#32),
    .call (.add 1000#32 ⟨8, 0⟩ 1 0xfffffe80#32)]

theorem runNear_calls {t : Time} {c d : Call}
    (hc : ∀ s, run blank [.init t, .call c] = some s → Near c.now?.toList s)
    (hd : ∀ s, run blank [.init t, .call c, .call d] = some s → Near d.now?.toList s) :
    RunNear blank [.init t, .call c, .call d] := by
  refine ⟨trivial, fun s1 h1 => ⟨fun s2 h2 => ⟨hc s2 ?_, trivial⟩, fun s2 h2 =>
    ⟨fun s3 h3 => ⟨hd s3 ?_, trivial⟩, fun _ _ => trivial⟩⟩⟩
  · rw [run, h1, Option.bind_some, run, doStep, h2]
    rfl
  · rw [run, h1, Option.bind_some, run, h2, Option.bind_some, run, doStep, h3]
    rfl

theorem near_of_whens {nows l : List Time} {x : Option St} {s : St} (base : Time)
    (hs : x = some s) (hw : x.map (fun s => (pending s).map Timer.when) = some l)
    (hb : ∀ t ∈ nows ++ l, (t - base).toNat < 2 ^ 31) : Near nows s := by
  subst hs
  obtain rfl : (pending s).map Timer.when = l := by simpa using hw
  exact ⟨base, hb⟩

theorem wrapSteps_near : RunNear blank wrapSteps :=
  runNear_calls
    (fun _ hs => near_of_whens (l := [1988#32]) 0xfffffe00#32 hs (by decide +kernel)
      (by simp [Call.now?]))
    (fun _ hs => near_of_whens (l := [116#32, 1988#32]) 0xfffffe00#32 hs (by decide +kernel)
      (by simp [Call.now?]))

/-- What the tick at time 120 shows: the expiries it leaves, and in each round the
expiries found, the call-back run and its calls. -/
theorem wrapTick_shows :
    ((run blank wrapSteps).bind (pfSchedulerTick 120#32 [])).map (fun r =>
      ((pending r.2).map Timer.when, r.1.map (fun r =>
        ((pending r.found).map Timer.when, r.fired.job.cb, r.calls)))) =
    some ([1988#32], [([116#32, 1988#32], 8, [])]) := by
  decide +kernel

/-- A tick just after the wrap runs the first of the two, and only that one. -/
theorem run_sorted_tick_exact_wrap :
    ∃ s rs s', run blank wrapSteps = some s ∧ pfSchedulerTick 120#32 [] s = some (rs, s') ∧
      Queue.Sorted (pending s) ∧ rs.map (fun r => r.fired.job.cb) = [8] ∧
      rs.map Round.fired =
        (pending s).filter (fun e => e.Expired 120#32 && rs.all (fun r => !r.cancels e)) := by
  obtain ⟨⟨rs, s'⟩, hbind, hshow⟩ := Option.map_eq_some_iff.mp wrapTick_shows
  obtain ⟨s, hs, ht⟩ := Option.bind_eq_some_iff.mp hbind
  obtain ⟨hleft, hrounds⟩ := Prod.mk.inj hshow
  obtain ⟨r, rfl, hr⟩ := List.map_eq_singleton_iff.mp hrounds
  obtain ⟨hfound, hcb, hcalls⟩ : (pending r.found).map Timer.when = [116#32, 1988#32] ∧
      r.fired.job.cb = 8 ∧ r.calls = [] := by simpa using hr
  obtain ⟨hsorted, -, htick⟩ := run_sorted_tick_exact hs wrapSteps_near
  have hnear : TickNear 120#32 [] s := by
    intro rs' s'' ht'
    obtain ⟨rfl, rfl⟩ : [r] = rs' ∧ s' = s'' := by simpa using ht.symm.trans ht'
    refine ⟨near_of_whens 0xfffffe00#32 rfl (congrArg some hleft) (by simp), ?_⟩
    intro r' hr'
    obtain rfl := List.mem_singleton.mp hr'
    refine ⟨near_of_whens 0xfffffe00#32 rfl (congrArg some hfound) (by simp), ?_⟩
    rw [hcalls]
    trivial
  have hclock : ClockFrom 120#32 [r] := by
    intro r' hr' c hc
    rw [List.mem_singleton.mp hr', hcalls] at hc
    simp at hc
  exact ⟨s, [r], s', hs, ht, hsorted, by simp [hcb], (htick _ _ _ _ ht hnear).2.2 hclock⟩

end PNet.Scheduler
