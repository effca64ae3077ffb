import PNet.Scheduler.Lists

/-! # Ticks and runs of the scheduler

A tick is a chain of rounds (`Rounds`): each finds the first timer expired, frees its
entry and runs its call-back. The lists survive every round, whatever its call-back
asks for.

* `tick_rounds`: a tick is such a chain, and it ends because no expired timer is first.
* `run_lists`: after every run from an initialisation the two lists share out the pool;
  no run of calls and ticks with sensible tick intervals fails an assertion.
-/

namespace PNet.Scheduler

open IndexList

/-! ## Rounds -/

/-- The rounds `rs` lead from `s` to `s'`. -/
def Rounds (now : Time) : St → List Round → St → Prop
  | s, [], s' => s = s'
  | s, r :: rs, s' =>
    r.found = s ∧ expired s now = true ∧ moveToFree s s.first = some r.start ∧
      doCalls r.start r.calls = some r.finish ∧ Rounds now r.finish rs s'

theorem doCalls_represents {s s' : St} {cs : List Call} {q : List Timer} (h : Represents s q)
    (hc : doCalls s cs = some s') :
    ∃ q', Represents s' q' ∧ s'.tickInterval = s.tickInterval := by
  induction cs generalizing s q with
  | nil =>
    obtain rfl : s = s' := by simpa [doCalls] using hc
    exact ⟨q, h, rfl⟩
  | cons c cs ih =>
    obtain ⟨s1, h1, h2⟩ := Option.bind_eq_some_iff.mp hc
    obtain ⟨q1, hr1, -, hi1⟩ := doCall_represents h h1
    obtain ⟨q', hr', hi'⟩ := ih hr1 h2
    exact ⟨q', hr', hi'.trans hi1⟩

theorem doCalls_some {s : St} {q : List Timer} (h : Represents s q)
    (hpos : 0#32 < s.tickInterval) (hlt : s.tickInterval.toNat < 2 ^ 31) (cs : List Call) :
    ∃ s', doCalls s cs = some s' := by
  induction cs generalizing s q with
  | nil => exact ⟨s, rfl⟩
  | cons c cs ih =>
    obtain ⟨s1, h1⟩ := doCall_some h hpos hlt c
    obtain ⟨q1, hr1, -, hi1⟩ := doCall_represents h h1
    rw [← hi1] at hpos hlt
    obtain ⟨s', hs'⟩ := ih hr1 hpos hlt
    exact ⟨s', by rw [doCalls, h1]; exact hs'⟩

/-- The loop condition of the tick, read on the queue. -/
theorem Represents.expired_iff {s : St} {q : List Timer} (h : Represents s q) (now : Time) :
    expired s now = true ↔ ∃ e q', q = e :: q' ∧ 0 ≤ diff now e.when := by
  obtain ⟨busy, free, hl, rfl⟩ := h
  have hq := hl.linkedBusy.head_eq
  cases busy with
  | nil =>
    have hN : s.first = PF_MAX_TIMEOUTS := hq
    simp [expired, hN]
  | cons i busy =>
    obtain rfl : s.first = i := hq
    have hlt := hl.linkedBusy.lt s.first (by simp)
    simp [expired, hlt, timerAt]

/-- What a round finds first, and what is left when the call-back starts. -/
theorem moveFirst_represents {s : St} {q : List Timer} {now : Time} (h : Represents s q)
    (he : expired s now = true) :
    ∃ s' q', q = timerAt s s.first :: q' ∧ moveToFree s s.first = some s' ∧
      Represents s' q' ∧ s'.tickInterval = s.tickInterval := by
  obtain ⟨e, q', hq, -⟩ := (h.expired_iff now).mp he
  obtain ⟨busy, free, hl, rfl⟩ := h
  cases busy with
  | nil => cases hq
  | cons i busy =>
    obtain rfl : s.first = i := hl.linkedBusy.head_eq
    obtain ⟨s', hs', hr, hi⟩ := moveToFree_represents hl (List.mem_cons_self ..)
    refine ⟨s', busy.map (timerAt s), rfl, hs', ?_, hi⟩
    rw [List.map_cons, List.erase_cons_head] at hr
    exact hr

/-! ## The tick -/

theorem Represents.length_le {s : St} {q : List Timer} (h : Represents s q) :
    q.length ≤ PF_MAX_TIMEOUTS := by
  obtain ⟨busy, free, hl, rfl⟩ := h
  rw [List.length_map]
  exact hl.linkedBusy.length_le

/-- The loop is a chain of rounds, and it does not stop for want of rounds: a script
entry allows for a full pool, and past the script each round shortens the queue. -/
theorem tickLoop_rounds {now : Time} {left : ℕ} {script : List (List Call)} {s s' : St}
    {rs : List Round} {q : List Timer} (h : Represents s q)
    (hleft : script.length + PF_MAX_TIMEOUTS < left ∨ (script = [] ∧ q.length < left))
    (ht : pfSchedulerTickLoop now left script s = some (rs, s')) :
    Rounds now s rs s' ∧ expired s' now = false := by
  induction left generalizing script s rs q with
  | zero => omega
  | succ left ih =>
    rw [pfSchedulerTickLoop] at ht
    by_cases he : expired s now = true
    · rw [if_pos he] at ht
      obtain ⟨s1, q1, hq, hs1, hr1, -⟩ := moveFirst_represents h he
      rw [hs1, Option.bind_some] at ht
      obtain ⟨s2, hs2, ht⟩ := Option.bind_eq_some_iff.mp ht
      obtain ⟨⟨rs', s''⟩, ht', heq⟩ := Option.map_eq_some_iff.mp ht
      obtain ⟨q2, hr2, -⟩ := doCalls_represents hr1 hs2
      obtain ⟨rfl, rfl⟩ := Prod.mk.inj heq
      have hleft' : script.tail.length + PF_MAX_TIMEOUTS < left ∨
          (script.tail = [] ∧ q2.length < left) := by
        cases script with
        | nil =>
          -- the call-back asks for nothing
          obtain rfl : s1 = s2 := by simpa [doCalls] using hs2
          have hq12 : q2.length = q1.length := by
            obtain ⟨b1, f1, hl1, rfl⟩ := hr1
            obtain ⟨b2, f2, hl2, rfl⟩ := hr2
            rw [Seg.unique hl1.linkedBusy hl2.linkedBusy]
          have hlen := h.length_le
          rw [hq] at hleft hlen
          simp at hleft hlen ⊢
          omega
        | cons cs script =>
          simp at hleft ⊢
          omega
      obtain ⟨hrs, hend⟩ := ih hr2 hleft' ht'
      exact ⟨⟨rfl, he, hs1, hs2, hrs⟩, hend⟩
    · rw [if_neg he] at ht
      cases ht
      exact ⟨rfl, by simpa using he⟩

theorem tick_rounds {now : Time} {script : List (List Call)} {s s' : St} {rs : List Round}
    {q : List Timer} (h : Represents s q) (ht : pfSchedulerTick now script s = some (rs, s')) :
    Rounds now s rs s' ∧ expired s' now = false :=
  tickLoop_rounds h (Or.inl (Nat.lt_succ_self _)) ht

theorem Rounds.represents {now : Time} {s s' : St} {rs : List Round} {q : List Timer}
    (hrs : Rounds now s rs s') (h : Represents s q) :
    ∃ q', Represents s' q' ∧ s'.tickInterval = s.tickInterval := by
  induction rs generalizing s q with
  | nil =>
    obtain rfl : s = s' := hrs
    exact ⟨q, h, rfl⟩
  | cons r rs ih =>
    obtain ⟨rfl, he, hm, hc, hrest⟩ := hrs
    obtain ⟨s1, q1, -, hs1, hr1, hi1⟩ := moveFirst_represents h he
    obtain rfl : s1 = r.start := Option.some.inj (hs1.symm.trans hm)
    obtain ⟨q2, hr2, hi2⟩ := doCalls_represents hr1 hc
    obtain ⟨q', hr', hi'⟩ := ih hrest hr2
    exact ⟨q', hr', hi'.trans (hi2.trans hi1)⟩

theorem tickLoop_some {now : Time} {left : ℕ} (script : List (List Call)) {s : St}
    {q : List Timer} (h : Represents s q) (hpos : 0#32 < s.tickInterval)
    (hlt : s.tickInterval.toNat < 2 ^ 31) :
    ∃ r, pfSchedulerTickLoop now left script s = some r := by
  induction left generalizing script s q with
  | zero => exact ⟨_, rfl⟩
  | succ left ih =>
    rw [pfSchedulerTickLoop]
    by_cases he : expired s now = true
    · obtain ⟨s1, q1, -, hs1, hr1, hi1⟩ := moveFirst_represents h he
      rw [← hi1] at hpos hlt
      obtain ⟨s2, hs2⟩ := doCalls_some hr1 hpos hlt (script.headD [])
      obtain ⟨q2, hr2, hi2⟩ := doCalls_represents hr1 hs2
      rw [← hi2] at hpos hlt
      obtain ⟨r, hr⟩ := ih script.tail hr2 hpos hlt
      rw [if_pos he, hs1, Option.bind_some, hs2, Option.bind_some, hr]
      exact ⟨_, rfl⟩
    · rw [if_neg he]
      exact ⟨_, rfl⟩

/-! ## Runs -/

/-- The memory of the scheduler before its first initialisation. -/
def blank : St := ⟨fun _ => zeroTimeout, 0, 0, 0, fun _ => ⟨0, 0⟩⟩

/-- Tick intervals for which the assertions of the scheduler hold. -/
def Step.Sensible : Step → Prop
  | .init tickInterval => 0#32 < tickInterval ∧ tickInterval.toNat < 2 ^ 31
  | _ => True

theorem doStep_represents {s s' : St} {a : Step} {q : List Timer} (h : Represents s q)
    (ha : doStep s a = some s') : ∃ q', Represents s' q' := by
  cases a with
  | init tickInterval => exact ⟨[], init_completes ha⟩
  | call c =>
    obtain ⟨q', hr, -⟩ := doCall_represents h ha
    exact ⟨q', hr⟩
  | tick now script =>
    obtain ⟨⟨rs, s1⟩, ht, rfl⟩ := Option.map_eq_some_iff.mp ha
    obtain ⟨q', hr, -⟩ := (tick_rounds h ht).1.represents h
    exact ⟨q', hr⟩

theorem run_represents {s s' : St} {as : List Step} {q : List Timer} (h : Represents s q)
    (hr : run s as = some s') : ∃ q', Represents s' q' := by
  induction as generalizing s q with
  | nil =>
    obtain rfl : s = s' := by simpa [run] using hr
    exact ⟨q, h⟩
  | cons a as ih =>
    obtain ⟨s1, h1, h2⟩ := Option.bind_eq_some_iff.mp hr
    obtain ⟨q1, hr1⟩ := doStep_represents h h1
    exact ih hr1 h2

theorem run_some {s : St} {as : List Step} {q : List Timer} (h : Represents s q)
    (hpos : 0#32 < s.tickInterval) (hlt : s.tickInterval.toNat < 2 ^ 31)
    (has : ∀ a ∈ as, a.Sensible) : ∃ s', run s as = some s' := by
  induction as generalizing s q with
  | nil => exact ⟨s, rfl⟩
  | cons a as ih =>
    have hrest : ∀ b ∈ as, b.Sensible := fun b hb => has b (by simp [hb])
    have hstep : ∃ s1 q1, doStep s a = some s1 ∧ Represents s1 q1 ∧ 0#32 < s1.tickInterval ∧
        s1.tickInterval.toNat < 2 ^ 31 := by
      cases a with
      | init tickInterval =>
        obtain ⟨ht, ht'⟩ := has _ (List.mem_cons_self ..)
        obtain ⟨s1, hs1, hr, hi⟩ := init_represents s ht
        exact ⟨s1, [], hs1, hr, by rwa [hi], by rwa [hi]⟩
      | call c =>
        obtain ⟨s1, hs1⟩ := doCall_some h hpos hlt c
        obtain ⟨q1, hr, -, hi⟩ := doCall_represents h hs1
        exact ⟨s1, q1, hs1, hr, by rwa [hi], by rwa [hi]⟩
      | tick now script =>
        obtain ⟨⟨rs, s1⟩, ht⟩ : ∃ r, pfSchedulerTick now script s = some r :=
          tickLoop_some script h hpos hlt
        obtain ⟨q1, hr, hi⟩ := (tick_rounds h ht).1.represents h
        exact ⟨s1, q1, by rw [doStep, ht]; rfl, hr, by rwa [hi], by rwa [hi]⟩
    obtain ⟨s1, q1, hs1, hr1, hpos1, hlt1⟩ := hstep
    obtain ⟨s', hs'⟩ := ih hr1 hpos1 hlt1 hrest
    exact ⟨s', by rw [run, hs1]; exact hs'⟩

/-- After every run from an initialisation, the free list and the busy list are doubly
linked lists without cycles that share out the pool, and the entries in use are those of
the busy list. With sensible tick intervals every run gets to its end. -/
theorem run_lists (s : St) (tickInterval : Time) (as : List Step) :
    (∀ s', run s (.init tickInterval :: as) = some s' → ∃ busy free, Lists s' busy free) ∧
      ((∀ a ∈ Step.init tickInterval :: as, a.Sensible) →
        ∃ s', run s (.init tickInterval :: as) = some s') := by
  refine ⟨?_, ?_⟩
  · intro s' hr
    obtain ⟨s1, h1, h2⟩ := Option.bind_eq_some_iff.mp hr
    obtain ⟨q, busy, free, hl, -⟩ := run_represents (init_completes h1) h2
    exact ⟨busy, free, hl⟩
  · intro has
    obtain ⟨ht, ht'⟩ := has _ (List.mem_cons_self ..)
    obtain ⟨s1, hs1, hr, hi⟩ := init_represents s ht
    obtain ⟨s', hs'⟩ := run_some hr (by rwa [hi]) (by rwa [hi])
      (fun a ha => has a (List.mem_cons_of_mem _ ha))
    exact ⟨s', by rw [run, doStep, hs1]; exact hs'⟩

/-- A timer that its own call-back starts again, and one that the call-back removes. -/
theorem run_lists_reentrant :
    ∃ s busy free, run blank [.init 1000#32, .call (.initHandle 0 5), .call (.initHandle 1 6),
      .call (.add 1000#32 ⟨7, 0⟩ 0 0#32), .call (.add 2000#32 ⟨8, 0⟩ 1 0#32),
      .tick 1000#32 [[.restart 1000#32 ⟨7, 0⟩ 0 1000#32, .remove 1]]] = some s ∧
      Lists s busy free := by
  have h := run_lists blank 1000#32 [.call (.initHandle 0 5), .call (.initHandle 1 6),
    .call (.add 1000#32 ⟨7, 0⟩ 0 0#32), .call (.add 2000#32 ⟨8, 0⟩ 1 0#32),
    .tick 1000#32 [[.restart 1000#32 ⟨7, 0⟩ 0 1000#32, .remove 1]]]
  obtain ⟨s, hs⟩ := h.2 (by simp [Step.Sensible])
  obtain ⟨busy, free, hl⟩ := h.1 s hs
  exact ⟨s, busy, free, hs, hl⟩

end PNet.Scheduler
