import PNet.Dcp.Timers
import PNet.Lib.Lease

/-! # One address at a time

A Get or a Set that is executed locks DCP for other addresses until the client hold time is over.
The lock is the address in `dcp_sam` and a pending timer that will clear it: a lease. It is one as
long as the timer can be started and the address is not nil.
-/

namespace PNet.Dcp

open Scheduler CircularTime

/-! ## The hold time -/

/-- The client hold time, as the scheduler measures it. -/
def holdTime (tickInterval : Time) : Time :=
  (pfSchedulerSanitizeDelay PF_DCP_SAM_TIMEOUT tickInterval true).getD 0

/-- At the reading `now` the time `expiry` is over. -/
def Over (now expiry : Time) : Prop := 0 ≤ diff now expiry

/-! ## What the lock is for -/

/-- The event is a Get or a Set from the address `a` that is executed at the time `t`. -/
def Executes (st : Stack) (e : Event) (a : List Byte) (t : Time) : Prop :=
  ∃ mac f hasBuffer, e = .getSet mac f hasBuffer t ∧ st.executes mac f hasBuffer = true ∧ f.src = a

/-- In the run no Get or Set is executed from an address with `p`. -/
def NoneExecutes (p : List Byte → Prop) (st : Stack) (es : List Event) : Prop :=
  Along (fun st e => ∀ a t, p a → ¬ Executes st e a t) st es

/-- Get and Set are locked by address. -/
structure LocksByAddress (tickInterval : Time) (es : List Event) : Prop where
  /-- After one from `a`, none from another address before the hold time is over. -/
  protects : ∀ as e bs e' cs, es = as ++ e :: (bs ++ e' :: cs) → ∀ st st1 st2 a t b u,
    runInit tickInterval as = some st → Executes st e a t → step st e = some st1 →
    run st1 bs = some st2 → NoneExecutes (· = a) st1 bs → Executes st2 e' b u → b ≠ a →
    ∃ now, .round now ∈ bs ∧ Over now (t + holdTime tickInterval)
  /-- A stored address has a running hold timer. -/
  timerRuns : ∀ st, runInit tickInterval es = some st → st.sam ≠ macNil →
    ∃ timer ∈ pending st.sched, timer.job = ⟨clearSamCb, 0⟩ ∧
      (st.sched.handles samTimeout).timerIndex = timer.ix + 1
  /-- Once a tick has ended that started when the hold time was over, all addresses are accepted. -/
  releases : ∀ as e bs, es = as ++ e :: bs → ∀ st st1 st2 a t now,
    runInit tickInterval as = some st → Executes st e a t → step st e = some st1 →
    run st1 bs = some st2 → NoneExecutes (fun _ => True) st1 bs →
    (∀ st0, init tickInterval = some st0 → NearFrom st0 es) → Near [now] st2.sched → expired st2.sched now = false →
    Over now (t + holdTime tickInterval) → ∀ mac, st2.checkSam mac = true

/-- A Get or a Set that is executed has a source address, and the hold timer is pending or an entry
of the scheduler is free. -/
def Renews (st : Stack) (e : Event) : Prop :=
  ∀ a t, Executes st e a t →
    a ≠ macNil ∧ (owned st.sched samName ≠ [] ∨ st.sched.free < PF_MAX_TIMEOUTS)

/-! ## The lock as a lease -/

/-- The lease of the stored address. -/
def lease (st : Stack) : Option (Lease (List Byte) Time) :=
  (owned st.sched samName).head?.map fun timer => ⟨st.sam, timer.when⟩

/-- An event, as the lease sees it. -/
def leaseOp (tickInterval : Time) (st : Stack) : Event → Lease.Op (List Byte) Time
  | .getSet mac f hasBuffer now =>
    if st.executes mac f hasBuffer then .use f.src (now + holdTime tickInterval) else .other
  | .round now => .look now
  | _ => .other

def leaseOps (tickInterval : Time) : Stack → List Event → List (Lease.Op (List Byte) Time)
  | _, [] => []
  | st, e :: es =>
    leaseOp tickInterval st e :: (step st e).elim [] fun st' => leaseOps tickInterval st' es

/-- No address is stored and no timer is pending, or both are there. -/
structure Held (tickInterval : Time) (st : Stack) : Prop extends Inv tickInterval st where
  lock : (owned st.sched samName = [] ∧ st.sam = macNil) ∨
    ∃ timer, owned st.sched samName = [timer] ∧ timer.job = ⟨clearSamCb, 0⟩ ∧
      (st.sched.handles samTimeout).timerIndex = timer.ix + 1 ∧ st.sam ≠ macNil

section
variable {tickInterval now : Time} {st st' : Stack} {e : Event}

theorem Held.of_same (h : Held tickInterval st) (hinv : Inv tickInterval st')
    (hsame : SameTimer samTimeout samName st.sched st'.sched) (hsam : st'.sam = st.sam) :
    Held tickInterval st' ∧ lease st' = lease st := by
  constructor
  · refine ⟨hinv, ?_⟩
    rw [hsame.owned, hsame.handle, hsam]
    exact h.lock
  · unfold lease
    rw [hsame.owned, hsam]

theorem init_held (h : init tickInterval = some st) : Held tickInterval st ∧ lease st = none := by
  rcases init_inv h with ⟨hinv, hpending, hsam, -⟩
  have hnone : owned st.sched samName = [] := by rw [owned, hpending]; rfl
  constructor
  · exact ⟨hinv, .inl ⟨hnone, hsam⟩⟩
  · unfold lease
    rw [hnone]
    rfl

/-- A Get or a Set that is executed takes or renews the lease. -/
theorem executes_lease (h : Held tickInterval st) {mac : List Byte} {f : Frame} {hasBuffer : Bool}
    (hexec : st.executes mac f hasBuffer = true) (hsrc : f.src ≠ macNil)
    (hroom : owned st.sched samName ≠ [] ∨ st.sched.free < PF_MAX_TIMEOUTS)
    (hinv : Inv tickInterval st') (hs : st.restartSamTimeout f.src now = some st') :
    Held tickInterval st' ∧
      Lease.Step Over (lease st) (.use f.src (now + holdTime tickInterval)) (lease st') := by
  rcases Option.map_eq_some_iff.mp hs with ⟨r, hr, rfl⟩
  rcases h.queue with ⟨q, hq⟩
  -- the delay that the scheduler has made of the hold time
  rcases Option.bind_eq_some_iff.mp hr with ⟨s1, hs1, hadd⟩
  rcases removeIfRunning_owned hq samTimeout with ⟨s1', q1, hs1', -, hacts1, -⟩
  obtain rfl : s1' = s1 := Option.some.inj (hs1'.symm.trans hs1)
  rcases Option.bind_eq_some_iff.mp hadd with ⟨d, hd, -⟩
  rw [hacts1.tickInterval] at hd
  have hhold : holdTime tickInterval = d := by
    unfold holdTime
    rw [← h.tickInterval, hd]
    rfl
  have hname := h.named.samHandle
  have hone : owned st.sched (st.sched.handles samTimeout).name = [] ∨
      ∃ e, owned st.sched (st.sched.handles samTimeout).name = [e] ∧
        (st.sched.handles samTimeout).timerIndex = e.ix + 1 := by
    rw [hname]
    rcases h.lock with ⟨hnone, -⟩ | ⟨timer, howned, -, hindex, -⟩
    · exact .inl hnone
    · exact .inr ⟨timer, howned, hindex⟩
  rcases restart_owned hq samTimeout hd ⟨clearSamCb, 0⟩ now hone with
    ⟨ret, s', q', hrestart, -, -, -, hstarted⟩
  obtain rfl : r = (ret, s') := Option.some.inj (hr.symm.trans hrestart)
  rw [hname] at hstarted
  rcases hstarted hroom with ⟨-, timer, howned, hindex, hwhen, hjob⟩
  constructor
  · exact ⟨hinv, .inr ⟨timer, howned, hjob, hindex, hsrc⟩⟩
  · have hafter : lease { st with sam := f.src, sched := s' } =
        some ⟨f.src, now + holdTime tickInterval⟩ := by
      unfold lease
      rw [howned, hhold, ← hwhen]
      rfl
    rw [hafter]
    rcases h.lock with ⟨hnone, -⟩ | ⟨old, hold, -, -, hsam⟩
    · have hbefore : lease st = none := by
        unfold lease
        rw [hnone]
        rfl
      rw [hbefore]
      exact .take _ _
    · have hsame : st.sam = f.src :=
        (of_decide_eq_true (of_decide_eq_true hexec).2.2.1).resolve_left hsam
      have hbefore : lease st = some ⟨f.src, old.when⟩ := by
        unfold lease
        rw [hold, hsame]
        rfl
      rw [hbefore]
      exact .renew _ _ _

/-- A call-back of another timer leaves the lease alone. -/
theorem callBack_sam {q : List Timer} (hq : Represents st.sched q) {job : Job}
    (hcb : job.cb ≠ clearSamCb) : (st.callBack job).sam = st.sam ∧
      SameTimer samTimeout samName st.sched (st.callBack job).sched := by
  unfold Stack.callBack
  rw [if_neg hcb]
  by_cases hident : job.cb = responderCb
  · rw [if_pos hident]
    have hreset := SameTimer.resetHandle hq samTimeout_ne samName
    unfold Stack.responder
    dsimp only
    split
    · exact ⟨rfl, hreset⟩
    · split <;> exact ⟨rfl, hreset⟩
  · rw [if_neg hident]
    exact ⟨rfl, .refl _ _ _⟩

/-- A round ends the lease when it runs the hold timer. -/
theorem round_lease (h : Held tickInterval st) (hinv : Inv tickInterval st')
    (hs : st.round now = some st') :
    Held tickInterval st' ∧ Lease.Step Over (lease st) (.look now) (lease st') := by
  rcases round_cases h.toInv hs with ⟨-, rfl⟩ | ⟨fired, sched, hfires, rfl⟩
  · exact ⟨h, .stay _ _⟩
  · rcases hfires.queue with ⟨q, -, hq⟩
    rcases hfires.labels with ⟨n, hlabels, howned⟩
    by_cases hcb : fired.job.cb = clearSamCb
    · have hsam := howned samName
      rw [if_pos (hlabels.1.mpr hcb)] at hsam
      have hback : ({ st with sched } : Stack).callBack fired.job =
          ({ st with sched } : Stack).clearSam := if_pos hcb
      rw [hback] at hinv ⊢
      rcases h.lock with ⟨hnone, -⟩ | ⟨timer, htimer, -, -, -⟩
      · rw [hnone] at hsam
        cases hsam
      · rw [htimer] at hsam
        obtain ⟨rfl, hrest⟩ := List.cons.inj hsam
        have hempty : owned ({ st with sched } : Stack).clearSam.sched samName = [] :=
          (hq.setHandle_owned _ _ _).trans hrest.symm
        constructor
        · exact ⟨hinv, .inl ⟨hempty, rfl⟩⟩
        · have hbefore : lease st = some ⟨st.sam, timer.when⟩ := by
            unfold lease
            rw [htimer]
            rfl
          have hafter : lease ({ st with sched } : Stack).clearSam = none := by
            unfold lease
            rw [hempty]
            rfl
          rw [hbefore, hafter]
          exact .lapse _ _ _ hfires.due
    · have hsame := howned samName
      rw [if_neg (fun hn => hcb (hlabels.1.mp hn))] at hsame
      rcases @callBack_sam { st with sched } q hq _ hcb with ⟨hsam, htimer⟩
      have hsames : SameTimer samTimeout samName st.sched
          (({ st with sched } : Stack).callBack fired.job).sched := by
        constructor
        · rw [htimer.owned, hsame]
        · rw [htimer.handle, hfires.handles]
      rcases h.of_same hinv hsames hsam with ⟨hheld, hlease⟩
      rw [hlease]
      exact ⟨hheld, .stay _ _⟩

/-- What a step does to the lease. -/
theorem step_lease (h : Held tickInterval st) (hrenews : Renews st e)
    (hs : step st e = some st') : Held tickInterval st' ∧
      Lease.Step Over (lease st) (leaseOp tickInterval st e) (lease st') := by
  have hinv := (step_inv h.toInv hs).1
  cases e with
  | identify dev f fresh hasBuffer now =>
    rcases identifyReq_sam h.toInv hs with ⟨hsame, hsam⟩
    rcases h.of_same hinv hsame hsam with ⟨hheld, hlease⟩
    rw [hlease]
    exact ⟨hheld, .other _⟩
  | getSet mac f hasBuffer now =>
    change st.getSet mac f hasBuffer now = some st' at hs
    unfold Stack.getSet at hs
    have hop : leaseOp tickInterval st (.getSet mac f hasBuffer now) =
      if st.executes mac f hasBuffer then .use f.src (now + holdTime tickInterval) else .other := rfl
    rw [hop]
    by_cases hexec : st.executes mac f hasBuffer = true
    · rw [if_pos hexec] at hs ⊢
      rcases hrenews f.src now ⟨mac, f, hasBuffer, rfl, hexec, rfl⟩ with ⟨hsrc, hroom⟩
      exact executes_lease h hexec hsrc hroom hinv hs
    · rw [if_neg hexec] at hs ⊢
      obtain rfl := Option.some.inj hs
      exact ⟨h, .other _⟩
  | call c =>
    rcases Option.map_eq_some_iff.mp hs with ⟨s', hc, rfl⟩
    rcases h.queue with ⟨q, hq⟩
    rcases h.of_same hinv (foreign_named hq h.named c hc).2.1 rfl with ⟨hheld, hlease⟩
    rw [hlease]
    exact ⟨hheld, .other _⟩
  | round now => exact round_lease h hinv hs

/-- A run of the stack is a run of the lease. -/
theorem run_lease {es : List Event} (h : Held tickInterval st) (hrenews : Along Renews st es)
    (hrun : run st es = some st') : Held tickInterval st' ∧
      Lease.Run Over (lease st) (leaseOps tickInterval st es) (lease st') := by
  induction es generalizing st with
  | nil =>
    obtain rfl : st = st' := Option.some.inj hrun
    exact ⟨h, .nil _⟩
  | cons e es ih =>
    rcases Option.bind_eq_some_iff.mp hrun with ⟨st1, hstep, hrest⟩
    rcases hrenews with ⟨he, hes⟩
    rcases step_lease h he hstep with ⟨hheld, hlease⟩
    rcases ih hheld (hes st1 hstep) hrest with ⟨hheld', hleases⟩
    refine ⟨hheld', ?_⟩
    unfold leaseOps
    rw [hstep]
    exact .cons hlease hleases

/-! ## From the lease to the lock -/

theorem leaseOp_of_executes {a : List Byte} {t : Time} (h : Executes st e a t) :
    leaseOp tickInterval st e = .use a (t + holdTime tickInterval) := by
  rcases h with ⟨mac, f, hasBuffer, rfl, hexec, rfl⟩
  exact if_pos hexec

theorem use_notMem {p : List Byte → Prop} {a : List Byte} (ha : p a) {es : List Event}
    (h : NoneExecutes p st es) (w : Time) : .use a w ∉ leaseOps tickInterval st es := by
  induction es generalizing st with
  | nil => exact List.not_mem_nil
  | cons e es ih =>
    rcases h with ⟨he, hes⟩
    intro hmem
    rcases List.mem_cons.mp hmem with heq | hmem
    · cases e with
      | getSet mac f hasBuffer now =>
        unfold leaseOp at heq
        by_cases hexec : st.executes mac f hasBuffer = true
        · simp only [if_pos hexec] at heq
          obtain ⟨rfl, -⟩ := Lease.Op.use.inj heq
          exact he _ now ha ⟨mac, f, hasBuffer, rfl, hexec, rfl⟩
        · simp only [if_neg hexec] at heq
          cases heq
      | _ => cases heq
    · cases hstep : step st e with
      | none =>
        rw [hstep] at hmem
        cases hmem
      | some st1 =>
        rw [hstep] at hmem
        exact ih (hes st1 hstep) hmem

theorem round_mem {es : List Event} (h : .look now ∈ leaseOps tickInterval st es) :
    .round now ∈ es := by
  induction es generalizing st with
  | nil => cases h
  | cons e es ih =>
    rcases List.mem_cons.mp h with heq | hmem
    · cases e with
      | round now' =>
        obtain rfl := Lease.Op.look.inj heq
        exact List.mem_cons_self
      | getSet mac f hasBuffer now' =>
        unfold leaseOp at heq
        by_cases hexec : st.executes mac f hasBuffer = true
        · simp only [if_pos hexec] at heq
          cases heq
        · simp only [if_neg hexec] at heq
          cases heq
      | _ => cases heq
    · cases hstep : step st e with
      | none =>
        rw [hstep] at hmem
        cases hmem
      | some st1 =>
        rw [hstep] at hmem
        exact List.mem_cons_of_mem _ (ih hmem)

/-- What is behind a lease. -/
theorem Held.of_lease (h : Held tickInterval st) :
    (lease st = none → st.sam = macNil) ∧ ∀ l, lease st = some l → st.sam = l.holder ∧
      st.sam ≠ macNil ∧ ∃ timer ∈ pending st.sched, timer.when = l.expiry := by
  unfold lease
  rcases h.lock with ⟨hnone, hsam⟩ | ⟨timer, htimer, -, -, hsam⟩
  · rw [hnone]
    exact ⟨fun _ => hsam, nofun⟩
  · rw [htimer]
    refine ⟨nofun, ?_⟩
    rintro l ⟨⟩
    refine ⟨rfl, hsam, timer, ?_, rfl⟩
    have hmem : timer ∈ owned st.sched samName := by rw [htimer]; exact List.mem_singleton_self _
    exact (List.mem_filter.mp hmem).1

end

/-- In a run whose steps all renew the lock as they should, it locks Get and Set by address. -/
theorem locks_of_renews (tickInterval : Time) (es : List Event)
    (hrenews : ∀ st, init tickInterval = some st → Along Renews st es) :
    LocksByAddress tickInterval es := by
  have hstart {as bs : List Event} {st : Stack} (heq : es = as ++ bs)
      (hrun : runInit tickInterval as = some st) : Held tickInterval st ∧ Along Renews st bs := by
    rcases Option.bind_eq_some_iff.mp hrun with ⟨st0, hinit, hrun⟩
    have hall := hrenews st0 hinit
    rw [heq] at hall
    rcases hall.append hrun with ⟨has, hbs⟩
    exact ⟨(run_lease (init_held hinit).1 has hrun).1, hbs⟩
  -- the lease that a Get or a Set leaves
  have htaken {st st1 : Stack} {e : Event} {a : List Byte} {t : Time} (h : Held tickInterval st)
      (he : Renews st e) (hexec : Executes st e a t) (hstep : step st e = some st1) :
      Held tickInterval st1 ∧ lease st1 = some ⟨a, t + holdTime tickInterval⟩ := by
    rcases step_lease h he hstep with ⟨hheld, hlease⟩
    rw [leaseOp_of_executes hexec] at hlease
    exact ⟨hheld, hlease.of_use⟩
  constructor
  · intro as e bs e' cs heq st st1 st2 a t b u hrun hexec hstep hbs hnone hexec' hne
    rcases hstart heq hrun with ⟨hheld, he, hrest⟩
    rcases htaken hheld he hexec hstep with ⟨hheld1, hlease1⟩
    rcases run_lease hheld1 ((hrest st1 hstep).append hbs).1 hbs with ⟨hheld2, hleases⟩
    rw [hlease1] at hleases
    rcases hleases.until_over (use_notMem (p := (· = a)) rfl hnone) with hlocked | ⟨now, hlook, hover⟩
    · -- the other address would not be accepted
      rcases hheld2.of_lease.2 _ hlocked with ⟨hsam, hnil, -⟩
      rcases hexec' with ⟨mac, f, hasBuffer, -, hex, rfl⟩
      have hcheck := of_decide_eq_true (of_decide_eq_true hex).2.2.1
      exact absurd ((hcheck.resolve_left hnil).symm.trans hsam) hne
    · exact ⟨now, round_mem hlook, hover⟩
  · intro st hrun hsam
    rcases (hstart (List.append_nil es).symm hrun).1.lock with ⟨-, hnil⟩ | ⟨timer, htimer, hjob, hix, -⟩
    · exact absurd hnil hsam
    · have hmem : timer ∈ owned st.sched samName := by
        rw [htimer]
        exact List.mem_singleton_self _
      exact ⟨timer, (List.mem_filter.mp hmem).1, hjob, hix⟩
  · intro as e bs heq st st1 st2 a t now hrun hexec hstep hbs hnone hnear hnow hend hover mac
    rcases hstart heq hrun with ⟨hheld, he, hrest⟩
    rcases htaken hheld he hexec hstep with ⟨hheld1, hlease1⟩
    rcases run_lease hheld1 (hrest st1 hstep) hbs with ⟨hheld2, hleases⟩
    rw [hlease1] at hleases
    have hfree : st2.sam = macNil := by
      rcases hleases.kept_or_free (fun c w => use_notMem trivial hnone w) with hkept | hfree
      · -- the timer would have run
        rcases hheld2.of_lease.2 _ hkept with ⟨-, -, timer, htimer, hwhen⟩
        rcases Option.bind_eq_some_iff.mp hrun with ⟨st0, hinit, hrun⟩
        rcases init_inv hinit with ⟨hinv0, hpending0, -⟩
        have hrun2 : run st0 es = some st2 := by
          rw [heq, run_append, hrun, Option.bind_some, run, hstep]
          exact hbs
        have hsorted := run_sorted hinv0 (hpending0 ▸ List.Pairwise.nil) (hnear st0 hinit) hrun2
        change timer.when = t + holdTime tickInterval at hwhen
        rw [Over, ← hwhen] at hover
        exact absurd hover (none_over hheld2.toInv hsorted hnow hend timer htimer)
      · exact hheld2.of_lease.1 hfree
    exact decide_eq_true (.inl hfree)

/-! ## Two requesters -/

namespace TwoRequesters

def mac : List Byte := [2, 0, 0, 0, 0, 1]

/-- A Get from the address `02:00:00:00:00:n`. -/
def getFrom (n : Byte) : Frame where
  bytes i := if i = 0 ∨ i = 6 then 2 else if i = 5 then 1 else if i = 11 then n
    else if i = 16 then PF_DCP_SERVICE_GET else if i = 25 then 2 else 0
  len := 60
  len_le := shortest_le
  vlanTags := 0

/-- The second one after three seconds. -/
def events : List Event :=
  [.getSet mac (getFrom 2) true 0#32, .round 3000000#32, .getSet mac (getFrom 3) true 3000000#32]

theorem not_executes_round {st : Stack} {now t : Time} {a : List Byte} :
    ¬ Executes st (.round now) a t := by
  rintro ⟨mac, f, hasBuffer, hround, -⟩
  cases hround

theorem renews_getFrom {st : Stack} {n : Byte} {now : Time}
    (hfree : st.sched.free < PF_MAX_TIMEOUTS) (hsrc : (getFrom n).src ≠ macNil) :
    Renews st (.getSet mac (getFrom n) true now) := by
  rintro a t ⟨mac', f, hasBuffer, hget, -, rfl⟩
  cases hget
  exact ⟨hsrc, .inr hfree⟩

theorem free_of_runs {as : List Event} {st st' : Stack} (hinit : init 1000#32 = some st)
    (hrun : run st as = some st')
    (hfree : (runInit 1000#32 as).all (fun st => st.sched.free < PF_MAX_TIMEOUTS) = true) :
    st'.sched.free < PF_MAX_TIMEOUTS := by
  rw [runInit, hinit, Option.bind_some, hrun] at hfree
  exact of_decide_eq_true hfree

theorem renews_events (st : Stack) (hinit : init 1000#32 = some st) :
    Along Renews st events := by
  refine ⟨renews_getFrom (@free_of_runs [] st st hinit rfl (by decide +kernel))
    (by decide +kernel), ?_⟩
  intro st1 hst1
  refine ⟨fun a t hexec => absurd hexec not_executes_round, ?_⟩
  intro st2 hst2
  refine ⟨renews_getFrom (@free_of_runs (events.take 2) st st2 hinit ?_ (by decide +kernel))
    (by decide +kernel), fun _ _ => trivial⟩
  show (step st _).bind _ = some st2
  rw [hst1, Option.bind_some]
  show (step st1 _).bind _ = some st2
  rw [hst2]
  rfl

end TwoRequesters

open TwoRequesters in
/-- The second requester holds the lock in the end. -/
theorem locks_of_renews_two_requesters :
    (runInit 1000#32 events).map Stack.sam = some [2, 0, 0, 0, 0, 3] ∧
      LocksByAddress 1000#32 events :=
  ⟨by decide +kernel, locks_of_renews 1000#32 events renews_events⟩

/-! ## A scheduler without a free entry -/

namespace FullScheduler

theorem isForeign_add : isForeign (.add 1000#32 ⟨7, 0⟩ 5 0#32) = true := by decide

/-- A timer of another user for every entry, and then a Get. -/
def events : List Event :=
  List.replicate PF_MAX_TIMEOUTS (.call ⟨.add 1000#32 ⟨7, 0⟩ 5 0#32, isForeign_add⟩) ++
    [.getSet TwoRequesters.mac (TwoRequesters.getFrom 2) true 0#32]

/-- The address is stored, and all timers are those of the other user. -/
theorem runs : (runInit 1000#32 events).map (fun st =>
    (st.sam, (pending st.sched).all fun timer => timer.job.cb = 7)) =
      some ([2, 0, 0, 0, 0, 2], true) := by
  decide +kernel

end FullScheduler

open FullScheduler in
/-- The address is stored without a hold timer: no other one will ever be accepted. -/
theorem not_locks_full_scheduler : ¬ LocksByAddress 1000#32 events := by
  intro h
  rcases Option.map_eq_some_iff.mp runs with ⟨st, hrun, hshows⟩
  rcases Prod.mk.inj hshows with ⟨hsam, hothers⟩
  have hstored : st.sam ≠ macNil := by
    rw [hsam]
    decide
  rcases h.timerRuns st hrun hstored with ⟨timer, htimer, hjob, -⟩
  have hcb := of_decide_eq_true (List.all_eq_true.mp hothers timer htimer)
  rw [hjob] at hcb
  exact absurd hcb (by decide)

end PNet.Dcp
