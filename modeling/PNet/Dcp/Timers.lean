import PNet.Dcp.Answer
import PNet.Scheduler.Owner

/-! # The timers of DCP

`pf_dcp.c` starts two timers of its own: one delays the response to an Identify, the other ends the
time in which Get and Set are accepted from one address only. This is the stack as far as these
timers are concerned, in runs of frames, of calls that other users make of the scheduler, and of
rounds of its tick, in any order.

* A round takes the first timer out of the queue, when it has expired, and runs its call-back. A
  tick is a chain of such rounds with one reading of the clock. What the call-back of another user
  asks of the scheduler are calls of their own.
* A buffer is a number; no number is allocated twice.
* What a Get, a Set or an Identify does to the device, the timer of the LED included, is not
  followed here. Each Identify comes with the device as it finds it.
-/

namespace PNet.Dcp

open Block Scheduler

/-! ## Addresses of the source -/

def macNil : List Byte := List.replicate 6 0

/-- Microseconds. -/
def PF_DCP_SAM_TIMEOUT : Time := 3000000#32

/-- The handle `dcp_sam_timeout`. -/
def samTimeout : ℕ := 0

/-- The handle `dcp_identresp_timeout`. -/
def identrespTimeout : ℕ := 1

/-- The address of the text `"dcp_sam"`. -/
def samName : Name := 2

/-- The address of the text `"dcp_identresp"`. -/
def identrespName : Name := 3

theorem samTimeout_ne : samTimeout ≠ identrespTimeout := by decide

/-- The address of `pf_dcp_clear_sam`. -/
def clearSamCb : ℕ := 1

/-- The address of `pf_dcp_responder`. -/
def responderCb : ℕ := 2

/-! ## The state -/

/-- What DCP keeps between frames. -/
structure Stack where
  sched : St
  sam : List Byte
  delayedResponseWaiting : Bool
  /-- The buffer that is allocated next. -/
  nextBuffer : ℕ
  /-- The responses to an Identify, in their buffers. -/
  payload : ℕ → Option Response
  /-- The buffers handed to the management port. -/
  sent : List ℕ
  freed : List ℕ

/-- `pf_scheduler_init` and `pf_dcp_init`; no buffer has the number 0, which is no address. -/
def init (tickInterval : Time) : Option Stack :=
  (pfSchedulerInit blank tickInterval).map fun s =>
    { sched := pfSchedulerInitHandle (pfSchedulerInitHandle s samTimeout samName)
        identrespTimeout identrespName
      sam := macNil
      delayedResponseWaiting := false
      nextBuffer := 1
      payload := fun _ => none
      sent := []
      freed := [] }

/-- `pf_dcp_check_destination_address`. -/
def checkDestinationAddress (localMac destinationMac : List Byte) : Bool :=
  destinationMac.headD 0 &&& 1 = 0 ∧ destinationMac = localMac

/-- `pf_dcp_calculate_response_delay`. -/
def calculateResponseDelay (macAddress : List Byte) (responseDelayFactor : BitVec 16) : Time :=
  if responseDelayFactor = 0 ∨ 6400 < responseDelayFactor.toNat then 0
  else
    let randomNumber := (macAddress.getD 4 0).toNat * 0x100 + (macAddress.getD 5 0).toNat
    BitVec.ofNat 32 (randomNumber % responseDelayFactor.toNat * 10 * 1000)

namespace Stack

/-! ## Get and Set -/

/-- `pf_dcp_check_sam`. -/
def checkSam (st : Stack) (mac : List Byte) : Bool := st.sam = macNil ∨ st.sam = mac

/-- `pf_dcp_restart_sam_timeout`. -/
def restartSamTimeout (st : Stack) (mac : List Byte) (now : Time) : Option Stack :=
  (pfSchedulerRestart st.sched PF_DCP_SAM_TIMEOUT ⟨clearSamCb, 0⟩ samTimeout now).map fun r =>
    { st with sam := mac, sched := r.2 }

/-- `pf_dcp_clear_sam`. -/
def clearSam (st : Stack) : Stack :=
  { st with sam := macNil, sched := pfSchedulerResetHandle st.sched samTimeout }

/-- `pf_dcp_get_set` executes the Get or Set; `mac` is the address of the device. -/
def executes (st : Stack) (mac : List Byte) (f : Frame) (hasBuffer : Bool) : Bool :=
  f.dcplen ≤ f.len ∧ hasBuffer ∧ st.checkSam f.src ∧ checkDestinationAddress mac f.dest ∧
    (f.serviceId = PF_DCP_SERVICE_SET ∨ f.serviceId = PF_DCP_SERVICE_GET)

/-- `pf_dcp_get_set`. -/
def getSet (st : Stack) (mac : List Byte) (f : Frame) (hasBuffer : Bool) (now : Time) :
    Option Stack :=
  if st.executes mac f hasBuffer then st.restartSamTimeout f.src now else some st

/-! ## Identify -/

/-- `pf_dcp_responder`. -/
def responder (st : Stack) (arg : ℕ) : Stack :=
  let st := { st with sched := pfSchedulerResetHandle st.sched identrespTimeout }
  if arg = 0 then st
  else if st.delayedResponseWaiting = false then st
  else
    { st with
      sent := st.sent ++ [arg], freed := st.freed ++ [arg], delayedResponseWaiting := false }

/-- The response is in its buffer, and `pf_scheduler_add` is asked to delay it. -/
def delay (st : Stack) (rsp : ℕ) (response : Response) (responseDelay now : Time) : Option Stack :=
  (pfSchedulerAdd st.sched responseDelay ⟨responderCb, rsp⟩ identrespTimeout now).map fun r =>
    { st with
      delayedResponseWaiting := true
      payload := Function.update st.payload rsp (some response)
      sched := r.2 }

/-- `pf_dcp_identify_req`, in a device `dev` and with a buffer that holds `fresh`. -/
def identifyReq (st : Stack) (dev : Device) (f : Frame) (fresh : ℕ → Byte) (hasBuffer : Bool)
    (now : Time) : Option Stack :=
  if f.len < f.dcplen ∨ hasBuffer = false then some st
  else
    let rsp := st.nextBuffer
    let st := { st with nextBuffer := rsp + 1 }
    (identifyAnswer dev f fresh).elim (some { st with freed := st.freed ++ [rsp] }) fun response =>
      st.delay rsp response
        (calculateResponseDelay dev.ase.macAddress (beUint16 f.bytes (f.dcpHdrPos + 6))) now

/-! ## Rounds of the tick -/

/-- The call-back of a timer. -/
def callBack (st : Stack) (job : Job) : Stack :=
  if job.cb = clearSamCb then st.clearSam
  else if job.cb = responderCb then st.responder job.arg
  else st

/-- A round of the loop of `pf_scheduler_tick`. -/
def round (st : Stack) (now : Time) : Option Stack :=
  if expired st.sched now then
    (moveToFree st.sched st.sched.first).map fun s =>
      { st with sched := s }.callBack (st.sched.timeouts st.sched.first).job
  else some st

end Stack

/-! ## Runs -/

/-- A call of another user of the scheduler: it has its own handles, names and call-backs. -/
def isForeign (c : Call) : Bool :=
  c.handle ≠ samTimeout ∧ c.handle ≠ identrespTimeout ∧
    c.name?.all (fun name => name ≠ samName ∧ name ≠ identrespName) ∧
    c.job?.all (fun job => job.cb ≠ clearSamCb ∧ job.cb ≠ responderCb)

structure ForeignCall where
  call : Call
  foreign : isForeign call = true

inductive Event where
  | identify (dev : Device) (f : Frame) (fresh : ℕ → Byte) (hasBuffer : Bool) (now : Time)
  | getSet (mac : List Byte) (f : Frame) (hasBuffer : Bool) (now : Time)
  | call (c : ForeignCall)
  | round (now : Time)

def step (st : Stack) : Event → Option Stack
  | .identify dev f fresh hasBuffer now => st.identifyReq dev f fresh hasBuffer now
  | .getSet mac f hasBuffer now => st.getSet mac f hasBuffer now
  | .call c => (doCall st.sched c.call).map fun s => { st with sched := s }
  | .round now => st.round now

/-- `none` when an assertion has ended the program. -/
def run (st : Stack) : List Event → Option Stack
  | [] => some st
  | e :: es => (step st e).bind fun st' => run st' es

/-- From the initialisation on. -/
def runInit (tickInterval : Time) (es : List Event) : Option Stack :=
  (init tickInterval).bind fun st => run st es

/-- All steps of the run are such that `p` holds of the state they start in. -/
def Along (p : Stack → Event → Prop) : Stack → List Event → Prop
  | _, [] => True
  | st, e :: es => p st e ∧ ∀ st', step st e = some st' → Along p st' es

theorem run_append (st : Stack) (as bs : List Event) :
    run st (as ++ bs) = (run st as).bind fun st' => run st' bs := by
  induction as generalizing st with
  | nil => rfl
  | cons e as ih =>
    rw [List.cons_append, run, run]
    cases step st e with
    | none => rfl
    | some st' => exact ih st'

theorem Along.append {p : Stack → Event → Prop} {st st' : Stack} {as bs : List Event}
    (h : Along p st (as ++ bs)) (hrun : run st as = some st') :
    Along p st as ∧ Along p st' bs := by
  induction as generalizing st with
  | nil =>
    obtain rfl : st = st' := Option.some.inj hrun
    exact ⟨trivial, h⟩
  | cons e as ih =>
    rcases Option.bind_eq_some_iff.mp hrun with ⟨st1, hstep, hrest⟩
    rcases h with ⟨he, hes⟩
    rcases ih (hes st1 hstep) hrest with ⟨-, hbs⟩
    refine ⟨⟨he, ?_⟩, hbs⟩
    intro st1' hstep'
    obtain rfl : st1 = st1' := Option.some.inj (hstep.symm.trans hstep')
    exact (ih (hes st1 hstep) hrest).1

/-! ## Names and call-backs -/

/-- A timer with this name runs this job: each of the two names goes with its call-back. -/
def Labels (n : Name) (job : Job) : Prop :=
  (n = samName ↔ job.cb = clearSamCb) ∧ (n = identrespName ↔ job.cb = responderCb)

/-- The names are DCP's own. -/
structure Named (s : St) : Prop where
  samHandle : (s.handles samTimeout).name = samName
  identrespHandle : (s.handles identrespTimeout).name = identrespName
  others : ∀ h, h ≠ samTimeout → h ≠ identrespTimeout →
    (s.handles h).name ≠ samName ∧ (s.handles h).name ≠ identrespName
  labels : ∀ e ∈ pending s, Labels (s.timeouts e.ix).name e.job

/-- The timers of a handle are the same. -/
structure SameTimer (h : ℕ) (n : Name) (s s' : St) : Prop where
  owned : owned s' n = owned s n
  handle : s'.handles h = s.handles h

section
variable {s s' : St} {q : List Timer}

theorem SameTimer.refl (h : ℕ) (n : Name) (s : St) : SameTimer h n s s := ⟨rfl, rfl⟩

theorem SameTimer.resetHandle (hq : Represents s q) {h g : ℕ} (hne : h ≠ g) (n : Name) :
    SameTimer h n s (pfSchedulerResetHandle s g) := by
  constructor
  · exact hq.setHandle_owned g _ n
  · unfold pfSchedulerResetHandle St.setHandle
    exact Function.update_of_ne hne _ _

theorem labels_clearSam : Labels samName ⟨clearSamCb, 0⟩ := by
  unfold Labels
  decide

theorem labels_responder (rsp : ℕ) : Labels identrespName ⟨responderCb, rsp⟩ := by
  constructor
  · exact ⟨nofun, nofun⟩
  · exact ⟨fun _ => rfl, fun _ => rfl⟩

theorem Named.acts (hn : Named s) {h : ℕ} {job? : Option Job} (ha : ActsOn h job? s s')
    (hlabels : ∀ job, job? = some job → Labels (s.handles h).name job) : Named s' := by
  have hname (g : ℕ) : (s'.handles g).name = (s.handles g).name := by
    by_cases hg : g = h
    · rw [hg, ha.name]
    · rw [ha.handles g hg]
  constructor
  · rw [hname, hn.samHandle]
  · rw [hname, hn.identrespHandle]
  · intro g hsam hident
    rw [hname]
    exact hn.others g hsam hident
  · intro e he
    rcases ha.origin e he with ⟨hold, hsame⟩ | ⟨hnew, hjob⟩
    · rw [hsame]
      exact hn.labels e hold
    · rw [hnew]
      exact hlabels e.job hjob

theorem Named.initHandle (hq : Represents s q) (hn : Named s) {h : ℕ} {name : Name}
    (hsam : h ≠ samTimeout) (hident : h ≠ identrespTimeout)
    (hname : name ≠ samName ∧ name ≠ identrespName) : Named (pfSchedulerInitHandle s h name) := by
  have hother (g : ℕ) (hg : g ≠ h) : (pfSchedulerInitHandle s h name).handles g = s.handles g :=
    Function.update_of_ne hg _ _
  have hself : (pfSchedulerInitHandle s h name).handles h = ⟨name, UINT32_MAX⟩ :=
    Function.update_self _ _ _
  constructor
  · rw [hother _ hsam.symm, hn.samHandle]
  · rw [hother _ hident.symm, hn.identrespHandle]
  · intro g hgsam hgident
    by_cases hg : g = h
    · rw [hg, hself]
      exact hname
    · rw [hother g hg]
      exact hn.others g hgsam hgident
  · intro e he
    unfold pfSchedulerInitHandle at he
    rw [(hq.setHandle h _).pending_eq, ← hq.pending_eq] at he
    exact hn.labels e he

/-- A call of another user does not reach the timers of DCP. -/
theorem foreign_named (hq : Represents s q) (hn : Named s) (c : ForeignCall)
    (hc : doCall s c.call = some s') :
    Named s' ∧ SameTimer samTimeout samName s s' ∧
      SameTimer identrespTimeout identrespName s s' := by
  rcases c with ⟨c, hforeign⟩
  rcases of_decide_eq_true hforeign with ⟨hsam, hident, hname, hjob⟩
  dsimp only at hc
  cases hinit : c.name? with
  | some name =>
    cases c with
    | initHandle h name' =>
      obtain rfl : name' = name := Option.some.inj hinit
      obtain rfl : _ = s' := Option.some.inj hc
      have hne : name' ≠ samName ∧ name' ≠ identrespName := of_decide_eq_true hname
      refine ⟨hn.initHandle hq hsam hident hne, ⟨hq.setHandle_owned h _ _, ?_⟩,
        ⟨hq.setHandle_owned h _ _, ?_⟩⟩
      · exact Function.update_of_ne (Ne.symm hsam) _ _
      · exact Function.update_of_ne (Ne.symm hident) _ _
    | _ => cases hinit
  | none =>
    have hacts := doCall_acts hq hinit hc
    rcases hn.others c.handle hsam hident with ⟨hnsam, hnident⟩
    refine ⟨hn.acts hacts ?_, ⟨hacts.others _ hnsam, hacts.handles _ (Ne.symm hsam)⟩,
      ⟨hacts.others _ hnident, hacts.handles _ (Ne.symm hident)⟩⟩
    intro job hsome
    rw [hsome] at hjob
    have hcb : job.cb ≠ clearSamCb ∧ job.cb ≠ responderCb := of_decide_eq_true hjob
    exact ⟨⟨fun h => absurd h hnsam, fun h => absurd h hcb.1⟩,
      ⟨fun h => absurd h hnident, fun h => absurd h hcb.2⟩⟩

theorem Named.resetHandle (hq : Represents s q) (hn : Named s) (h : ℕ) :
    Named (pfSchedulerResetHandle s h) :=
  hn.acts ((ActsOn.refl h none s).setHandle hq rfl) nofun

end

/-! ## The invariant -/

/-- What holds in every run. -/
structure Inv (tickInterval : Time) (st : Stack) : Prop where
  queue : ∃ q, Represents st.sched q
  named : Named st.sched
  tickInterval : st.sched.tickInterval = tickInterval

/-- How a round starts that runs a call-back: `sched` is the scheduler then, without the timer
`fired`. -/
structure Fires (st : Stack) (now : Time) (fired : Timer) (sched : St) : Prop where
  queue : ∃ q, Represents st.sched (fired :: q) ∧ Represents sched q
  named : Named sched
  handles : sched.handles = st.sched.handles
  labels : ∃ n, Labels n fired.job ∧ ∀ m,
    owned st.sched m = if n = m then fired :: owned sched m else owned sched m
  tickInterval : sched.tickInterval = st.sched.tickInterval
  due : 0 ≤ diff now fired.when

section
variable {tickInterval now : Time} {st st' : Stack}

theorem init_inv (h : init tickInterval = some st) :
    Inv tickInterval st ∧ pending st.sched = [] ∧ st.sam = macNil ∧
      st.delayedResponseWaiting = false ∧ st.sent = [] ∧ st.freed = [] ∧ st.nextBuffer = 1 := by
  rcases Option.map_eq_some_iff.mp h with ⟨s, hs, rfl⟩
  have hq := init_completes hs
  have hhandles : s.handles = blank.handles ∧ s.tickInterval = tickInterval := by
    unfold pfSchedulerInit at hs
    by_cases ht : 0#32 < tickInterval
    · rw [if_neg (not_not_intro ht)] at hs
      rcases Option.map_eq_some_iff.mp hs with ⟨r, -, rfl⟩
      exact ⟨rfl, rfl⟩
    · rw [if_pos ht] at hs
      cases hs
  have hq' := (hq.setHandle samTimeout ⟨samName, UINT32_MAX⟩).setHandle identrespTimeout
    ⟨identrespName, UINT32_MAX⟩
  have hpending := hq'.pending_eq
  refine ⟨⟨⟨[], hq'⟩, ⟨rfl, rfl, ?_, ?_⟩, hhandles.2⟩, hpending, rfl, rfl, rfl, rfl, rfl⟩
  · intro h hsam hident
    have hblank : ((pfSchedulerInitHandle (pfSchedulerInitHandle s samTimeout samName)
        identrespTimeout identrespName).handles h) = blank.handles h := by
      rw [← hhandles.1]
      exact (Function.update_of_ne hident _ _).trans (Function.update_of_ne hsam _ _)
    rw [hblank]
    exact ⟨nofun, nofun⟩
  · intro e he
    unfold pfSchedulerInitHandle at he
    rw [hpending] at he
    cases he

/-- A round changes nothing, or it runs the call-back of the first timer. -/
theorem round_cases (h : Inv tickInterval st) (hs : st.round now = some st') :
    (expired st.sched now = false ∧ st' = st) ∨
      ∃ fired sched, Fires st now fired sched ∧
        st' = { st with sched }.callBack fired.job := by
  unfold Stack.round at hs
  cases hexp : expired st.sched now with
  | false =>
    rw [hexp] at hs
    exact .inl ⟨rfl, (Option.some.inj hs).symm⟩
  | true =>
    rcases h.queue with ⟨q, hq⟩
    rcases moveFirst_owned hq hexp with
      ⟨s1, q1, hs1, hq1, hcons, hhandles, hnames, howned, htick, hover⟩
    rw [hexp, if_pos rfl, hs1] at hs
    right
    refine ⟨timerAt st.sched st.sched.first, s1, ?_, (Option.some.inj hs).symm⟩
    have hfirst : timerAt st.sched st.sched.first ∈ pending st.sched := by
      rw [hq.pending_eq, hcons]
      exact List.mem_cons_self
    refine ⟨⟨q1, hcons ▸ hq, hq1⟩, ?_, hhandles, ⟨_, h.named.labels _ hfirst, howned⟩, htick, hover⟩
    constructor
    · rw [hhandles, h.named.samHandle]
    · rw [hhandles, h.named.identrespHandle]
    · intro g hsam hident
      rw [hhandles]
      exact h.named.others g hsam hident
    · intro e he
      rw [hq1.pending_eq] at he
      rw [hnames]
      apply h.named.labels
      rw [hq.pending_eq, hcons]
      exact List.mem_cons_of_mem _ he

/-- A call that is not of another user. -/
inductive OwnCall : Call → Prop
  | sam (now : Time) : OwnCall (.restart PF_DCP_SAM_TIMEOUT ⟨clearSamCb, 0⟩ samTimeout now)
  | identresp (delay : Time) (rsp : ℕ) (now : Time) :
      OwnCall (.add delay ⟨responderCb, rsp⟩ identrespTimeout now)

/-- What a frame does to the scheduler: nothing, or a call. -/
theorem getSet_sched {mac : List Byte} {f : Frame} {hasBuffer : Bool}
    (hs : st.getSet mac f hasBuffer now = some st') :
    st'.sched = st.sched ∨ ∃ c, OwnCall c ∧ doCall st.sched c = some st'.sched := by
  unfold Stack.getSet at hs
  by_cases hexec : st.executes mac f hasBuffer = true
  · rw [if_pos hexec] at hs
    rcases Option.map_eq_some_iff.mp hs with ⟨r, hr, rfl⟩
    exact .inr ⟨_, .sam now, Option.map_eq_some_iff.mpr ⟨r, hr, rfl⟩⟩
  · rw [if_neg hexec] at hs
    exact .inl (congrArg Stack.sched (Option.some.inj hs).symm)

/-- An Identify that is not read or not matched is dropped; for another one the response is
handed to the scheduler. -/
theorem identifyReq_cases {dev : Device} {f : Frame} {fresh : ℕ → Byte} {hasBuffer : Bool}
    (hs : st.identifyReq dev f fresh hasBuffer now = some st') :
    ((f.len < f.dcplen ∨ hasBuffer = false) ∧ st' = st) ∨
    (identifyAnswer dev f fresh = none ∧ st' = { st with
      nextBuffer := st.nextBuffer + 1, freed := st.freed ++ [st.nextBuffer] }) ∨
    ∃ response delay r, identifyAnswer dev f fresh = some response ∧
      pfSchedulerAdd st.sched delay ⟨responderCb, st.nextBuffer⟩ identrespTimeout now = some r ∧
      st' = { st with
        nextBuffer := st.nextBuffer + 1
        delayedResponseWaiting := true
        payload := Function.update st.payload st.nextBuffer (some response)
        sched := r.2 } := by
  unfold Stack.identifyReq at hs
  by_cases hout : f.len < f.dcplen ∨ hasBuffer = false
  · rw [if_pos hout] at hs
    exact .inl ⟨hout, (Option.some.inj hs).symm⟩
  · rw [if_neg hout] at hs
    right
    cases hanswer : identifyAnswer dev f fresh with
    | none =>
      rw [hanswer] at hs
      exact .inl ⟨rfl, (Option.some.inj hs).symm⟩
    | some response =>
      rw [hanswer] at hs
      rcases Option.map_eq_some_iff.mp hs with ⟨r, hr, rfl⟩
      exact .inr ⟨response, _, r, rfl, hr, rfl⟩

theorem identifyReq_sched {dev : Device} {f : Frame} {fresh : ℕ → Byte} {hasBuffer : Bool}
    (hs : st.identifyReq dev f fresh hasBuffer now = some st') :
    st'.sched = st.sched ∨ ∃ c, OwnCall c ∧ doCall st.sched c = some st'.sched := by
  rcases identifyReq_cases hs with ⟨-, rfl⟩ | ⟨-, rfl⟩ | ⟨response, delay, r, -, hr, rfl⟩
  · exact .inl rfl
  · exact .inl rfl
  · exact .inr ⟨_, .identresp delay st.nextBuffer now, Option.map_eq_some_iff.mpr ⟨r, hr, rfl⟩⟩

/-- A Get or a Set does not reach the timer of a response. -/
theorem getSet_identresp (h : Inv tickInterval st) {mac : List Byte} {f : Frame} {hasBuffer : Bool}
    (hs : st.getSet mac f hasBuffer now = some st') :
    SameTimer identrespTimeout identrespName st.sched st'.sched ∧
      ∃ sam, st' = { st with sam, sched := st'.sched } := by
  unfold Stack.getSet at hs
  by_cases hexec : st.executes mac f hasBuffer = true
  · rw [if_pos hexec] at hs
    rcases Option.map_eq_some_iff.mp hs with ⟨r, hr, rfl⟩
    rcases h.queue with ⟨q, hq⟩
    have hc : doCall st.sched (.restart PF_DCP_SAM_TIMEOUT ⟨clearSamCb, 0⟩ samTimeout now) =
      some r.2 := Option.map_eq_some_iff.mpr ⟨r, hr, rfl⟩
    have hacts := doCall_acts hq rfl hc
    refine ⟨⟨hacts.others _ ?_, hacts.handles _ nofun⟩, f.src, rfl⟩
    show (st.sched.handles samTimeout).name ≠ identrespName
    rw [h.named.samHandle]
    exact nofun
  · rw [if_neg hexec] at hs
    obtain rfl := Option.some.inj hs
    exact ⟨.refl _ _ _, st.sam, rfl⟩

/-- An Identify does not reach the hold timer. -/
theorem identifyReq_sam (h : Inv tickInterval st) {dev : Device} {f : Frame} {fresh : ℕ → Byte}
    {hasBuffer : Bool} (hs : st.identifyReq dev f fresh hasBuffer now = some st') :
    SameTimer samTimeout samName st.sched st'.sched ∧ st'.sam = st.sam := by
  rcases identifyReq_cases hs with ⟨-, rfl⟩ | ⟨-, rfl⟩ | ⟨response, delay, r, -, hr, rfl⟩
  · exact ⟨.refl _ _ _, rfl⟩
  · exact ⟨.refl _ _ _, rfl⟩
  · rcases h.queue with ⟨q, hq⟩
    have hc : doCall st.sched (.add delay ⟨responderCb, st.nextBuffer⟩ identrespTimeout now) =
      some r.2 := Option.map_eq_some_iff.mpr ⟨r, hr, rfl⟩
    have hacts := doCall_acts hq rfl hc
    refine ⟨⟨hacts.others _ ?_, hacts.handles _ nofun⟩, rfl⟩
    show (st.sched.handles identrespTimeout).name ≠ samName
    rw [h.named.identrespHandle]
    exact nofun

theorem OwnCall.named {s s' : St} {q : List Timer} {c : Call} (hown : OwnCall c)
    (hq : Represents s q) (hn : Named s) (hc : doCall s c = some s') : Named s' := by
  cases hown with
  | sam now =>
    refine hn.acts (doCall_acts hq rfl hc) ?_
    rintro job ⟨⟩
    show Labels (s.handles samTimeout).name _
    rw [hn.samHandle]
    exact labels_clearSam
  | identresp delay rsp now =>
    refine hn.acts (doCall_acts hq rfl hc) ?_
    rintro job ⟨⟩
    show Labels (s.handles identrespTimeout).name _
    rw [hn.identrespHandle]
    exact labels_responder rsp

theorem responder_sched (st : Stack) (arg : ℕ) :
    (st.responder arg).sched = pfSchedulerResetHandle st.sched identrespTimeout := by
  unfold Stack.responder
  dsimp only
  split
  · rfl
  · split <;> rfl

/-- What a call-back does to the scheduler. -/
theorem callBack_sched (st : Stack) (job : Job) :
    (st.callBack job).sched = st.sched ∨
      ∃ h, (st.callBack job).sched = pfSchedulerResetHandle st.sched h := by
  unfold Stack.callBack
  by_cases hsam : job.cb = clearSamCb
  · rw [if_pos hsam]
    exact .inr ⟨_, rfl⟩
  · rw [if_neg hsam]
    by_cases hident : job.cb = responderCb
    · rw [if_pos hident]
      exact .inr ⟨identrespTimeout, responder_sched st job.arg⟩
    · rw [if_neg hident]
      exact .inl rfl

/-- A step keeps the invariant, and does to the queue what `Queue.Effect` says. -/
theorem step_inv {e : Event} (h : Inv tickInterval st) (hs : step st e = some st') :
    Inv tickInterval st' ∧
      ∃ c, Queue.Effect c (pending st.sched) (pending st'.sched) := by
  rcases h.queue with ⟨q, hq⟩
  rw [hq.pending_eq]
  have hsame (heq : st'.sched = st.sched) : Inv tickInterval st' ∧
      ∃ c, Queue.Effect c q (pending st'.sched) := by
    rw [heq, hq.pending_eq]
    exact ⟨⟨heq ▸ h.queue, heq ▸ h.named, heq ▸ h.tickInterval⟩, .removeIfRunning 0, .refl _ _⟩
  have hcall {c : Call} (hnamed : Named st'.sched) (hc : doCall st.sched c = some st'.sched) :
      Inv tickInterval st' ∧ ∃ c, Queue.Effect c q (pending st'.sched) := by
    rcases doCall_represents hq hc with ⟨q', hq', heffect, htick⟩
    rw [hq'.pending_eq]
    exact ⟨⟨⟨q', hq'⟩, hnamed, htick.trans h.tickInterval⟩, c, heffect⟩
  cases e with
  | identify dev f fresh hasBuffer now =>
    rcases identifyReq_sched hs with heq | ⟨c, hown, hc⟩
    · exact hsame heq
    · exact hcall (hown.named hq h.named hc) hc
  | getSet mac f hasBuffer now =>
    rcases getSet_sched hs with heq | ⟨c, hown, hc⟩
    · exact hsame heq
    · exact hcall (hown.named hq h.named hc) hc
  | call c =>
    rcases Option.map_eq_some_iff.mp hs with ⟨s', hc, rfl⟩
    exact hcall (foreign_named hq h.named c hc).1 hc
  | round now =>
    rcases round_cases h hs with ⟨-, rfl⟩ | ⟨fired, sched, hfires, rfl⟩
    · exact hsame rfl
    · rcases hfires.queue with ⟨q1, hfull, hq1⟩
      obtain rfl : q = fired :: q1 := hq.pending_eq.symm.trans hfull.pending_eq
      have heffect : Queue.Effect (.removeIfRunning 0) (fired :: q1) q1 :=
        .of_removes (.inr ⟨fired, List.mem_cons_self, by rw [List.erase_cons_head]⟩)
      rcases callBack_sched { st with sched } fired.job with heq | ⟨h', heq⟩
      · rw [heq, hq1.pending_eq]
        refine ⟨⟨heq ▸ ⟨q1, hq1⟩, heq ▸ hfires.named, ?_⟩, _, heffect⟩
        rw [heq]
        exact hfires.tickInterval.trans h.tickInterval
      · have hq2 : Represents (pfSchedulerResetHandle sched h') q1 := hq1.setHandle h' _
        rw [heq, hq2.pending_eq]
        refine ⟨⟨heq ▸ ⟨q1, hq2⟩, heq ▸ hfires.named.resetHandle hq1 h', ?_⟩, _, heffect⟩
        rw [heq]
        exact hfires.tickInterval.trans h.tickInterval

theorem run_inv {es : List Event} (h : Inv tickInterval st) (hrun : run st es = some st') :
    Inv tickInterval st' := by
  induction es generalizing st with
  | nil =>
    obtain rfl : st = st' := Option.some.inj hrun
    exact h
  | cons e es ih =>
    rcases Option.bind_eq_some_iff.mp hrun with ⟨st1, hstep, hrest⟩
    exact ih (step_inv h hstep).1 hrest

/-- With a sensible tick interval no assertion fails. -/
theorem step_some (h : Inv tickInterval st) (hpos : 0#32 < tickInterval)
    (hlt : tickInterval.toNat < 2 ^ 31) (e : Event) : ∃ st', step st e = some st' := by
  rcases h.queue with ⟨q, hq⟩
  rw [← h.tickInterval] at hpos hlt
  have hcall := doCall_some hq hpos hlt
  cases e with
  | identify dev f fresh hasBuffer now =>
    show ∃ st', st.identifyReq dev f fresh hasBuffer now = some st'
    unfold Stack.identifyReq
    by_cases hout : f.len < f.dcplen ∨ hasBuffer = false
    · exact ⟨st, if_pos hout⟩
    · rw [if_neg hout]
      cases identifyAnswer dev f fresh with
      | none => exact ⟨_, rfl⟩
      | some response =>
        rcases hcall (.add (calculateResponseDelay dev.ase.macAddress
          (beUint16 f.bytes (f.dcpHdrPos + 6))) ⟨responderCb, st.nextBuffer⟩ identrespTimeout now)
          with ⟨s', hs'⟩
        rcases Option.map_eq_some_iff.mp hs' with ⟨r, hr, -⟩
        exact ⟨_, Option.map_eq_some_iff.mpr ⟨r, hr, rfl⟩⟩
  | getSet mac f hasBuffer now =>
    show ∃ st', st.getSet mac f hasBuffer now = some st'
    unfold Stack.getSet
    by_cases hexec : st.executes mac f hasBuffer = true
    · rw [if_pos hexec]
      rcases hcall (.restart PF_DCP_SAM_TIMEOUT ⟨clearSamCb, 0⟩ samTimeout now) with ⟨s', hs'⟩
      rcases Option.map_eq_some_iff.mp hs' with ⟨r, hr, -⟩
      exact ⟨_, Option.map_eq_some_iff.mpr ⟨r, hr, rfl⟩⟩
    · exact ⟨st, if_neg hexec⟩
  | call c =>
    rcases hcall c.call with ⟨s', hs'⟩
    exact ⟨_, Option.map_eq_some_iff.mpr ⟨s', hs', rfl⟩⟩
  | round now =>
    show ∃ st', st.round now = some st'
    unfold Stack.round
    by_cases hexp : expired st.sched now = true
    · rw [if_pos hexp]
      rcases moveFirst_owned hq hexp with ⟨s1, q1, hs1, -⟩
      exact ⟨_, Option.map_eq_some_iff.mpr ⟨s1, hs1, rfl⟩⟩
    · exact ⟨st, if_neg hexp⟩

/-- So every run gets to its end. -/
theorem runInit_some (hpos : 0#32 < tickInterval) (hlt : tickInterval.toNat < 2 ^ 31)
    (es : List Event) : ∃ st, runInit tickInterval es = some st := by
  rcases init_lists blank hpos with ⟨s, hs, -⟩
  have hinit : ∃ st, init tickInterval = some st := ⟨_, Option.map_eq_some_iff.mpr ⟨s, hs, rfl⟩⟩
  rcases hinit with ⟨st0, hinit⟩
  have hrun (es : List Event) : ∀ st, Inv tickInterval st → ∃ st', run st es = some st' := by
    induction es with
    | nil => exact fun st _ => ⟨st, rfl⟩
    | cons e es ih =>
      intro st hinv
      rcases step_some hinv hpos hlt e with ⟨st1, hst1⟩
      rcases ih st1 (step_inv hinv hst1).1 with ⟨st', hst'⟩
      exact ⟨st', Option.bind_eq_some_iff.mpr ⟨st1, hst1, hst'⟩⟩
  rcases hrun es st0 (init_inv hinit).1 with ⟨st, hst⟩
  exact ⟨st, Option.bind_eq_some_iff.mpr ⟨st0, hinit, hst⟩⟩

/-- An Identify, and the tick behind it. -/
theorem runInit_some_identify : ∃ st, runInit 1000
    [.identify NoBlock.device NoBlock.frame (fun _ => 0) true 0, .round 1000] = some st :=
  runInit_some (by decide) (by decide) _

/-! ## Ticks -/

/-- What the call-back of a job asks of the scheduler. -/
def CallsOf (job : Job) (cs : List Call) : Prop :=
  if job.cb = clearSamCb then cs = [.resetHandle samTimeout]
  else if job.cb = responderCb then cs = [.resetHandle identrespTimeout]
  else ∀ c ∈ cs, isForeign c = true

theorem callBack_other {job : Job} (hsam : job.cb ≠ clearSamCb) (hident : job.cb ≠ responderCb) :
    st.callBack job = st := by
  unfold Stack.callBack
  rw [if_neg hsam, if_neg hident]

/-- Calls of other users, one after the other. -/
theorem foreign_run (st : Stack) {s' : St} {cs : List Call} (hcs : ∀ c ∈ cs, isForeign c = true)
    (hdo : doCalls st.sched cs = some s') : ∃ es, run st es = some { st with sched := s' } := by
  induction cs generalizing st with
  | nil =>
    obtain rfl : st.sched = s' := Option.some.inj hdo
    exact ⟨[], rfl⟩
  | cons c cs ih =>
    rcases Option.bind_eq_some_iff.mp hdo with ⟨s1, hs1, hrest⟩
    rcases ih { st with sched := s1 } (fun c hc => hcs c (List.mem_cons_of_mem _ hc)) hrest with
      ⟨es, hes⟩
    refine ⟨.call ⟨c, hcs c List.mem_cons_self⟩ :: es, ?_⟩
    rw [run, step, hs1]
    exact hes

/-- In every state of the run the expiries lie within half the clock's range of each other. -/
def NearFrom (st : Stack) (es : List Event) : Prop :=
  ∀ as bs st', es = as ++ bs → run st as = some st' → Near [] st'.sched

theorem run_sorted {es : List Event} (h : Inv tickInterval st)
    (hs : Queue.Sorted (pending st.sched)) (hnear : NearFrom st es)
    (hrun : run st es = some st') : Queue.Sorted (pending st'.sched) := by
  induction es generalizing st with
  | nil =>
    obtain rfl : st = st' := Option.some.inj hrun
    exact hs
  | cons e es ih =>
    rcases Option.bind_eq_some_iff.mp hrun with ⟨st1, hstep, hrest⟩
    rcases step_inv h hstep with ⟨hinv, c, heffect⟩
    have hnear1 : Near [] st1.sched := hnear [e] es st1 rfl (by rw [run, hstep]; rfl)
    refine ih hinv (heffect.sorted hs hnear1) ?_ hrest
    intro as bs st2 heq hrun2
    refine hnear (e :: as) bs st2 (by rw [heq]; rfl) ?_
    rw [run, hstep]
    exact hrun2

/-- After the last round of a tick no pending timer has expired. -/
theorem none_over (h : Inv tickInterval st) (hs : Queue.Sorted (pending st.sched))
    (hnear : Near [now] st.sched) (hend : expired st.sched now = false) :
    ∀ timer ∈ pending st.sched, ¬ 0 ≤ diff now timer.when := by
  rcases h.queue with ⟨q, hq⟩
  rw [Near, hq.pending_eq] at hnear
  rw [hq.pending_eq] at hs ⊢
  have hfirst : ¬ ∃ timer q', q = timer :: q' ∧ 0 ≤ diff now timer.when := by
    intro hex
    rw [(hq.expired_iff now).mpr hex] at hend
    cases hend
  intro timer htimer
  exact of_decide_eq_false (none_expired hs hnear hfirst timer htimer)

end

end PNet.Dcp
