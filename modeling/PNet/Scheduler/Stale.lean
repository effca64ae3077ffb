import PNet.Lib.Runs
import PNet.Scheduler.Owner

/-! # Stale handles

A handle has the index of an entry and the address of a name. It stays as it is when its timer
expires, and the entry is given to the next timer. Many users of the scheduler have handles of the
same name.

* `removesOwn_iff`: when a call takes only the timer out that has last been added through its
  handle.
* `removesOwn_always_iff`: the runs in which all calls do.
* `tick_ops`: a tick is a sequence of expiries and calls.
-/

namespace PNet.Scheduler

/-! ## Timers and the handles they are added through -/

/-- The scheduler, with the handles of its timers. -/
structure Watched where
  st : St
  /-- The handle through which the timer of an entry has been added. -/
  owner : ℕ → Option ℕ
  /-- The same, while no other timer has been added through that handle. -/
  last : ℕ → Option ℕ

inductive Op where
  | call (c : Call)
  /-- The next round of a tick. -/
  | expire (now : Time)

namespace Watched

/-- A timer has been added through `h` at entry `ix`. -/
def added (g : Watched) (ix h : ℕ) (s : St) : Watched where
  st := s
  owner := Function.update g.owner ix (some h)
  last i := if i = ix then some h else if g.last i = some h then none else g.last i

def add (g : Watched) (delay : Time) (job : Job) (h : ℕ) (now : Time) : Option Watched :=
  (pfSchedulerAdd g.st delay job h now).map fun r =>
    if r.1 = 0 then g.added g.st.free h r.2 else { g with st := r.2 }

/-- A round of the tick takes the first timer out when it has expired. -/
def expire (g : Watched) (now : Time) : Option Watched :=
  if expired g.st now then
    (moveToFree g.st g.st.first).map fun s => { g with st := s }
  else some g

def step (g : Watched) : Op → Option Watched
  | .call (.add delay job h now) => g.add delay job h now
  | .call (.restart delay job h now) =>
    (pfSchedulerRemoveIfRunning g.st h).bind fun s => { g with st := s }.add delay job h now
  | .call c => (doCall g.st c).map fun s => { g with st := s }
  | .expire now => g.expire now

/-- No timer has been added. -/
def fresh (s : St) : Watched := ⟨s, fun _ => none, fun _ => none⟩

end Watched

/-- The handle through which a call may take a timer out. -/
def Call.remover : Call → Option ℕ
  | .remove h => some h
  | .removeIfRunning h => some h
  | .restart _ _ h _ => some h
  | _ => none

/-- The state when the call has taken the timer out, before it adds one. -/
def Call.removal (s : St) : Call → Option St
  | .remove h => pfSchedulerRemove s h
  | .removeIfRunning h => pfSchedulerRemoveIfRunning s h
  | .restart _ _ h _ => pfSchedulerRemoveIfRunning s h
  | _ => some s

/-- The call takes at most the timer out that has last been added through its handle. -/
def RemovesOwn (g : Watched) : Op → Prop
  | .call c => ∀ h s', c.remover = some h → c.removal g.st = some s' → ∀ ix < PF_MAX_TIMEOUTS,
    (g.st.timeouts ix).inUse = true → (s'.timeouts ix).inUse = false → g.last ix = some h
  | .expire _ => True

/-- The handle of the call does not lead to the timer of another handle with the same name. -/
def NotReused (g : Watched) : Op → Prop
  | .call c => ∀ h ∈ c.remover, ∀ ix < PF_MAX_TIMEOUTS, (g.st.handles h).timerIndex = ix + 1 →
    (g.st.timeouts ix).name = (g.st.handles h).name → (g.st.timeouts ix).inUse = true →
    g.owner ix = some h
  | .expire _ => True

instance (g : Watched) (op : Op) : Decidable (NotReused g op) :=
  match op with
  | .call c => match hc : c.remover with
    | none => isTrue (by simp [NotReused, hc])
    | some h => decidable_of_iff (∀ ix < PF_MAX_TIMEOUTS, (g.st.handles h).timerIndex = ix + 1 →
        (g.st.timeouts ix).name = (g.st.handles h).name → (g.st.timeouts ix).inUse = true →
        g.owner ix = some h) (by simp [NotReused, hc])
  | .expire _ => isTrue trivial

/-! ## One step -/

theorem moveToFree_payload {s s' : St} {ix : ℕ} (h : moveToFree s ix = some s') {j : ℕ}
    (hj : j ≠ ix) : (s'.timeouts j).payload = (s.timeouts j).payload := by
  rcases Option.bind_eq_some_iff.mp h with ⟨r, hr, h⟩
  rcases Option.map_eq_some_iff.mp h with ⟨r', hr', rfl⟩
  have hset : ((r.1.setInUse ix false) j).payload = (r.1 j).payload := by
    simp [Timeouts.setInUse, hj]
  exact (linkAt_payload linkBeforePos_payload hr' j).trans (hset.trans (unlink_payload hr j))

/-- What the handles and the timers have to do with each other. -/
structure Inv (g : Watched) : Prop where
  queue : ∃ q, Represents g.st q
  /-- A handle leads to the timer last added through it, when it leads to one of its own. -/
  own : ∀ h ix, ix < PF_MAX_TIMEOUTS → (g.st.handles h).timerIndex = ix + 1 →
    g.owner ix = some h → g.last ix = some h
  owned : ∀ h ix, g.last ix = some h → g.owner ix = some h

section
variable {g g' : Watched} {s' : St} {h : ℕ}

/-- Handles stay as they are or lead nowhere. -/
theorem Inv.of_handles (hg : Inv g) (hq : ∃ q, Represents s' q)
    (hhandles : ∀ k, (s'.handles k).timerIndex = (g.st.handles k).timerIndex ∨
      (s'.handles k).timerIndex = UINT32_MAX) : Inv { g with st := s' } := by
  refine ⟨hq, ?_, hg.owned⟩
  intro k ix hix hindex
  rcases hhandles k with hsame | hnone
  · exact hg.own k ix hix (hsame ▸ hindex)
  · have hmax : PF_MAX_TIMEOUTS < UINT32_MAX := by decide
    have hindex' : (s'.handles k).timerIndex = ix + 1 := hindex
    omega

theorem index_setHandle (s : St) (name : Name) (k : ℕ) :
    ((s.setHandle h ⟨name, UINT32_MAX⟩).handles k).timerIndex = (s.handles k).timerIndex ∨
      ((s.setHandle h ⟨name, UINT32_MAX⟩).handles k).timerIndex = UINT32_MAX := by
  unfold St.setHandle
  by_cases hk : k = h
  · right
    simp [hk]
  · left
    simp [hk]

theorem remove_index {s : St} (hs : pfSchedulerRemove s h = some s') (k : ℕ) :
    (s'.handles k).timerIndex = (s.handles k).timerIndex ∨
      (s'.handles k).timerIndex = UINT32_MAX := by
  rcases remove_cases s h with ⟨hsame, -⟩ | ⟨ix, -, -, -, -, hmove⟩
  · obtain rfl : s = s' := Option.some.inj (hsame.symm.trans hs)
    exact .inl rfl
  · rw [hmove] at hs
    rcases Option.map_eq_some_iff.mp hs with ⟨s1, hs1, rfl⟩
    have hindex := index_setHandle (h := h) s1 (s.handles h).name k
    rw [(moveToFree_names hs1).2] at hindex
    exact hindex

theorem removeIfRunning_index {s : St} (hs : pfSchedulerRemoveIfRunning s h = some s') (k : ℕ) :
    (s'.handles k).timerIndex = (s.handles k).timerIndex ∨
      (s'.handles k).timerIndex = UINT32_MAX := by
  unfold pfSchedulerRemoveIfRunning at hs
  by_cases hrunning : pfSchedulerIsRunning s h = true
  · rw [if_pos hrunning] at hs
    exact remove_index hs k
  · rw [if_neg hrunning] at hs
    obtain rfl := Option.some.inj hs
    exact .inl rfl

/-- An entry is given to a new timer, and the handle of that timer leads to it. -/
theorem Inv.added (hg : Inv g) {ix : ℕ} (hq : ∃ q, Represents s' q)
    (hhandles : s'.handles = Function.update g.st.handles h ⟨(g.st.handles h).name, ix + 1⟩) :
    Inv (g.added ix h s') := by
  constructor
  · exact hq
  · intro k i hi hindex howner
    have hindex' : (s'.handles k).timerIndex = i + 1 := hindex
    have howner' : Function.update g.owner ix (some h) i = some k := howner
    show (if i = ix then some h else if g.last i = some h then none else g.last i) = some k
    by_cases hii : i = ix
    · rw [if_pos hii]
      rwa [hii, Function.update_self] at howner'
    · rw [Function.update_of_ne hii] at howner'
      have hkh : k ≠ h := by
        rintro rfl
        rw [hhandles, Function.update_self] at hindex'
        exact hii (Nat.succ.inj hindex').symm
      rw [hhandles, Function.update_of_ne hkh] at hindex'
      have hlast := hg.own k i hi hindex' howner'
      rw [if_neg hii, hlast, if_neg (fun heq => hkh (Option.some.inj heq))]
  · intro k i hlast
    have hlast' : (if i = ix then some h else if g.last i = some h then none else g.last i)
        = some k := hlast
    show Function.update g.owner ix (some h) i = some k
    by_cases hii : i = ix
    · rw [if_pos hii] at hlast'
      rw [hii, Function.update_self]
      exact hlast'
    · rw [if_neg hii] at hlast'
      rw [Function.update_of_ne hii]
      by_cases hold : g.last i = some h
      · rw [if_pos hold] at hlast'
        cases hlast'
      · rw [if_neg hold] at hlast'
        exact hg.owned k i hlast'

theorem Inv.add (hg : Inv g) {delay now : Time} {job : Job} (hs : g.add delay job h now = some g') :
    Inv g' := by
  rcases Option.map_eq_some_iff.mp hs with ⟨⟨ret, s1⟩, ha, hg'⟩
  rcases hg.queue with ⟨q, hq⟩
  rcases Option.bind_eq_some_iff.mp ha with ⟨d, hd, -⟩
  rcases @add_free_iff g.st h q hq delay d now job hd with ⟨hfull, hroom⟩
  by_cases hfree : PF_MAX_TIMEOUTS ≤ g.st.free
  · obtain ⟨rfl, rfl⟩ := Prod.mk.inj (Option.some.inj ((hfull hfree).symm.trans ha))
    have hsame : g' = { g with st := pfSchedulerResetHandle g.st h } := hg'.symm
    rw [hsame]
    exact hg.of_handles ⟨q, hq.setHandle h _⟩ (index_setHandle g.st (g.st.handles h).name)
  · rcases hroom (Nat.lt_of_not_le hfree) with ⟨s2, hs2, hq2, -, -⟩
    obtain ⟨rfl, rfl⟩ := Prod.mk.inj (Option.some.inj (hs2.symm.trans ha))
    have hsame : g' = g.added g.st.free h s2 := hg'.symm
    rw [hsame]
    exact hg.added ⟨_, hq2⟩ (add_names hs2).2

/-- A step keeps the invariant, whatever it removes. -/
theorem Inv.step (hg : Inv g) {op : Op} (hs : g.step op = some g') : Inv g' := by
  rcases hg.queue with ⟨q, hq⟩
  rcases op with c | now
  · cases c with
    | add delay job h now => exact hg.add hs
    | restart delay job h now =>
      rcases Option.bind_eq_some_iff.mp hs with ⟨s1, hs1, ha⟩
      rcases removeIfRunning_represents (i := h) hq with ⟨s2, q2, hs2, hq2, -, -⟩
      obtain rfl : s2 = s1 := Option.some.inj (hs2.symm.trans hs1)
      exact (hg.of_handles ⟨q2, hq2⟩ (removeIfRunning_index hs1)).add ha
    | initHandle h name =>
      obtain rfl : _ = g' := Option.some.inj hs
      exact hg.of_handles ⟨q, hq.setHandle h _⟩ (index_setHandle g.st name)
    | resetHandle h =>
      obtain rfl : _ = g' := Option.some.inj hs
      exact hg.of_handles ⟨q, hq.setHandle h _⟩ (index_setHandle g.st (g.st.handles h).name)
    | remove h =>
      rcases Option.map_eq_some_iff.mp hs with ⟨s1, hs1, rfl⟩
      rcases remove_represents (i := h) hq with ⟨s2, q2, hs2, hq2, -, -⟩
      obtain rfl : s2 = s1 := Option.some.inj (hs2.symm.trans hs1)
      exact hg.of_handles ⟨q2, hq2⟩ (remove_index hs1)
    | removeIfRunning h =>
      rcases Option.map_eq_some_iff.mp hs with ⟨s1, hs1, rfl⟩
      rcases removeIfRunning_represents (i := h) hq with ⟨s2, q2, hs2, hq2, -, -⟩
      obtain rfl : s2 = s1 := Option.some.inj (hs2.symm.trans hs1)
      exact hg.of_handles ⟨q2, hq2⟩ (removeIfRunning_index hs1)
  · -- the tick leaves the handle of the timer as it is
    have hs : g.expire now = some g' := hs
    unfold Watched.expire at hs
    by_cases hexp : expired g.st now = true
    · rw [if_pos hexp] at hs
      rcases Option.map_eq_some_iff.mp hs with ⟨s1, hs1, rfl⟩
      rcases moveFirst_represents hq hexp with ⟨s2, q2, -, hs2, hq2, -⟩
      obtain rfl : s2 = s1 := Option.some.inj (hs2.symm.trans hs1)
      apply hg.of_handles ⟨q2, hq2⟩
      intro k
      left
      rw [(moveToFree_names hs1).2]
    · rw [if_neg hexp] at hs
      obtain rfl := Option.some.inj hs
      exact hg

/-- The entry that `pf_scheduler_remove` frees is the one that the handle leads to. -/
theorem remove_own_iff (hg : Inv g) :
    (∀ s', pfSchedulerRemove g.st h = some s' → ∀ ix < PF_MAX_TIMEOUTS,
      (g.st.timeouts ix).inUse = true → (s'.timeouts ix).inUse = false → g.last ix = some h) ↔
    ∀ ix < PF_MAX_TIMEOUTS, (g.st.handles h).timerIndex = ix + 1 →
      (g.st.timeouts ix).name = (g.st.handles h).name → (g.st.timeouts ix).inUse = true →
      g.owner ix = some h := by
  rcases remove_cases g.st h with ⟨hsame, hnone⟩ | ⟨ix, hix, hindex, hname, hu, hmove⟩
  · -- nothing is taken out
    constructor
    · intro _ ix hix hindex hname hu
      rw [hnone ix hix hindex hname] at hu
      cases hu
    · intro _ s' hs' ix _ hu hu'
      obtain rfl := Option.some.inj (hsame.symm.trans hs')
      rw [hu] at hu'
      cases hu'
  · rcases hg.queue with ⟨q, hq⟩
    rcases moveToFree_timer hq hix hu with ⟨s1, hs1, -⟩
    rw [hmove, hs1, Option.map_some]
    constructor
    · intro hown i _ hi _ _
      obtain rfl : i = ix := by omega
      have hfreed : (s1.timeouts i).inUse = false := moveToFree_inUse hs1
      exact hg.owned h i (hown _ rfl i hix hu hfreed)
    · intro hreused s' hs' i hi hui hui'
      obtain rfl := Option.some.inj hs'
      by_cases hii : i = ix
      · rw [hii]
        exact hg.own h ix hix hindex (hreused ix hix hindex hname hu)
      · -- the other entries stay in use
        have hpayload := moveToFree_payload hs1 hii
        have hsame : (s1.timeouts i).inUse = (g.st.timeouts i).inUse :=
          congrArg (fun p : Name × Bool × Time × Job => p.2.1) hpayload
        have hui1 : (s1.timeouts i).inUse = false := hui'
        rw [hsame, hui] at hui1
        cases hui1

theorem removeIfRunning_own_iff (hg : Inv g) :
    (∀ s', pfSchedulerRemoveIfRunning g.st h = some s' → ∀ ix < PF_MAX_TIMEOUTS,
      (g.st.timeouts ix).inUse = true → (s'.timeouts ix).inUse = false → g.last ix = some h) ↔
    ∀ ix < PF_MAX_TIMEOUTS, (g.st.handles h).timerIndex = ix + 1 →
      (g.st.timeouts ix).name = (g.st.handles h).name → (g.st.timeouts ix).inUse = true →
      g.owner ix = some h := by
  unfold pfSchedulerRemoveIfRunning pfSchedulerIsRunning
  by_cases hrunning : (g.st.handles h).timerIndex = UINT32_MAX
  · -- a handle that is not running leads nowhere
    rw [if_pos hrunning, if_neg Bool.false_ne_true]
    constructor
    · intro _ ix hix hindex
      have hmax : PF_MAX_TIMEOUTS < UINT32_MAX := by decide
      omega
    · intro _ s' hs' ix _ hu hu'
      obtain rfl := Option.some.inj hs'
      rw [hu] at hu'
      cases hu'
  · rw [if_neg hrunning, if_pos rfl]
    exact remove_own_iff hg

theorem removesOwn_call_iff {c : Call} (hc : c.remover = some h)
    (hown : (∀ s', c.removal g.st = some s' → ∀ ix < PF_MAX_TIMEOUTS,
      (g.st.timeouts ix).inUse = true → (s'.timeouts ix).inUse = false → g.last ix = some h) ↔
      ∀ ix < PF_MAX_TIMEOUTS, (g.st.handles h).timerIndex = ix + 1 →
        (g.st.timeouts ix).name = (g.st.handles h).name → (g.st.timeouts ix).inUse = true →
        g.owner ix = some h) :
    RemovesOwn g (.call c) ↔ NotReused g (.call c) := by
  constructor
  · intro hall k hk
    obtain rfl : h = k := Option.some.inj (hc.symm.trans hk)
    exact hown.mp fun s' hs' => hall h s' hc hs'
  · intro hnot k s' hk hs'
    obtain rfl : h = k := Option.some.inj (hc.symm.trans hk)
    exact hown.mpr (hnot h hc) s' hs'

/-- A call takes another timer out exactly if its handle leads to one of the same name. -/
theorem removesOwn_iff (hg : Inv g) (op : Op) : RemovesOwn g op ↔ NotReused g op := by
  rcases op with c | now
  · cases c with
    | remove h => exact removesOwn_call_iff rfl (remove_own_iff hg)
    | removeIfRunning h => exact removesOwn_call_iff rfl (removeIfRunning_own_iff hg)
    | restart delay job h now => exact removesOwn_call_iff rfl (removeIfRunning_own_iff hg)
    | initHandle h name | resetHandle h | add delay job h now =>
      constructor
      · intro _ k hk
        cases hk
      · intro _ k s' hk
        cases hk
  · exact Iff.rfl

theorem Inv.fresh {s₀ s : St} {tickInterval : Time} (h : pfSchedulerInit s₀ tickInterval = some s) :
    Inv (Watched.fresh s) := by
  refine ⟨⟨[], init_completes h⟩, ?_, ?_⟩
  · intro k ix _ _ howner
    cases howner
  · intro k ix hlast
    cases hlast

end

/-! ## Ticks -/

theorem step_call (g : Watched) (c : Call) :
    (g.step (.call c)).map Watched.st = doCall g.st c := by
  have hadd (g : Watched) (delay : Time) (job : Job) (h : ℕ) (now : Time) :
      (g.add delay job h now).map Watched.st
        = (pfSchedulerAdd g.st delay job h now).map Prod.snd := by
    unfold Watched.add
    rw [Option.map_map]
    congr 1
    funext r
    by_cases hr : r.1 = 0 <;> simp [hr, Watched.added]
  cases c with
  | add delay job h now => exact hadd g delay job h now
  | restart delay job h now =>
    show Option.map _ (Option.bind _ _) = Option.map _ (Option.bind _ _)
    rw [Option.map_bind, Option.map_bind]
    congr 1
    funext s
    exact hadd { g with st := s } delay job h now
  | initHandle h name | resetHandle h | remove h | removeIfRunning h =>
    unfold Watched.step
    rw [Option.map_map]
    exact Option.map_id'

theorem calls_ops {g : Watched} {s' : St} {cs : List Call} (hc : doCalls g.st cs = some s') :
    ∃ g', Runs.run Watched.step g (cs.map Op.call) = some g' ∧ g'.st = s' := by
  induction cs generalizing g with
  | nil => exact ⟨g, rfl, Option.some.inj hc⟩
  | cons c cs ih =>
    rcases Option.bind_eq_some_iff.mp hc with ⟨s1, h1, h2⟩
    rw [← step_call] at h1
    rcases Option.map_eq_some_iff.mp h1 with ⟨g1, hg1, rfl⟩
    rcases ih h2 with ⟨g', hg', hst⟩
    refine ⟨g', ?_, hst⟩
    rw [List.map_cons, Runs.run, hg1]
    exact hg'

/-- A tick is a sequence of expiries, each with the calls of its call-back. -/
theorem tick_ops {now : Time} {g : Watched} {s' : St} {rs : List Round}
    (hrs : Rounds now g.st rs s') :
    ∃ g', Runs.run Watched.step g (rs.flatMap fun r => .expire now :: r.calls.map Op.call)
      = some g' ∧ g'.st = s' := by
  induction rs generalizing g with
  | nil => exact ⟨g, rfl, hrs⟩
  | cons r rs ih =>
    obtain ⟨-, hexp, hmove, hcalls, hrest⟩ := hrs
    rcases calls_ops (g := { g with st := r.start }) hcalls with ⟨g1, hg1, hst1⟩
    rw [← hst1] at hrest
    rcases ih hrest with ⟨g', hg', hst⟩
    refine ⟨g', ?_, hst⟩
    have hexpire : g.expire now = some { g with st := r.start } := by
      unfold Watched.expire
      rw [if_pos hexp, hmove]
      rfl
    rw [List.flatMap_cons, List.cons_append, Runs.run, Watched.step, hexpire, Option.bind_some,
      Runs.run_append, hg1]
    exact hg'

/-! ## Runs -/

/-- From an initialisation on, all calls take at most the timer out that has last been added through
their handle exactly if none is made through a handle that leads to the timer of another one with
the same name. -/
theorem removesOwn_always_iff {s₀ s : St} {tickInterval : Time}
    (hinit : pfSchedulerInit s₀ tickInterval = some s) (ops : List Op) :
    Runs.Along Watched.step RemovesOwn (Watched.fresh s) ops ↔
      Runs.Along Watched.step NotReused (Watched.fresh s) ops :=
  Runs.along_iff (Inv.fresh hinit) (fun _ op hg => removesOwn_iff hg op)
    fun _ _ _ hg _ hs => hg.step hs

/-- The timer of handle 0 expires, and its entry is given to handle 1, before handle 0 is used
again; `name` is the name of handle 1. -/
def reuse (name : Name) : List Op :=
  [.call (.initHandle 0 5), .call (.initHandle 1 name), .call (.add 1000#32 ⟨7, 0⟩ 0 0#32),
    .expire 1000#32, .call (.add 1000#32 ⟨8, 0⟩ 1 1000#32)]

theorem reuse_notReused : (pfSchedulerInit blank 1000#32).map (fun s => decide
    (Runs.Along Watched.step NotReused (Watched.fresh s) (reuse 6 ++ [.call (.remove 0)])))
      = some true := by
  decide +kernel

/-- Handles of different names. -/
theorem removesOwn_always_iff_names : ∃ s, pfSchedulerInit blank 1000#32 = some s ∧
    Runs.Along Watched.step RemovesOwn (Watched.fresh s) (reuse 6 ++ [.call (.remove 0)]) := by
  obtain ⟨s, hs, hnot⟩ := Option.map_eq_some_iff.mp reuse_notReused
  exact ⟨s, hs, (removesOwn_always_iff hs _).mpr (of_decide_eq_true hnot)⟩

/-- The entry before and after a call of `pf_scheduler_remove` through handle 0. -/
theorem reuse_removed : ((pfSchedulerInit blank 1000#32).bind fun s =>
    (Runs.run Watched.step (Watched.fresh s) (reuse 5)).map fun g => (g.last 0,
      (g.st.timeouts 0).inUse, (pfSchedulerRemove g.st 0).map fun s' => (s'.timeouts 0).inUse))
      = some (some 1, true, some false) := by
  decide +kernel

/-- Handles of one name: the timer of handle 1 is taken out through handle 0. -/
theorem not_removesOwn_reuse : ∃ s, pfSchedulerInit blank 1000#32 = some s ∧
    ¬ Runs.Along Watched.step RemovesOwn (Watched.fresh s) (reuse 5 ++ [.call (.remove 0)]) := by
  obtain ⟨s, hs, hrun⟩ := Option.bind_eq_some_iff.mp reuse_removed
  obtain ⟨g, hg, hshow⟩ := Option.map_eq_some_iff.mp hrun
  obtain ⟨hlast, hrest⟩ := Prod.mk.inj hshow
  obtain ⟨hu, hremove⟩ := Prod.mk.inj hrest
  obtain ⟨s', hs', hu'⟩ := Option.map_eq_some_iff.mp hremove
  refine ⟨s, hs, ?_⟩
  intro halong
  have hown := halong.last hg 0 s' rfl hs' 0 (by decide) hu hu'
  rw [hlast] at hown
  exact absurd (Option.some.inj hown) (by decide)

end PNet.Scheduler
