import PNet.LifeCycle.Rounds

/-! # Connecting and the order of the ARs

A connect request takes an AR, starts the CPMs of the output CRs and opens the alarms. When one of the
CRs cannot be started, the AR is released without an ABORT that CMSU would act on: the timers of the
CPMs that have been started stay (`Completes` is the condition that there are none).
-/

namespace PNet.LifeCycle

open Scheduler
open Connect (IocrParam PF_IOCR_TYPE_INPUT PF_IOCR_TYPE_OUTPUT)

/-! ## The condition -/

/-- The CR of the request is an output CR. -/
def Request.isOutput (r : Request) (crep : ℕ) : Bool :=
  (r.iocrs[crep]?).any (·.param.iocrType = PF_IOCR_TYPE_OUTPUT)

/-- The CR of the request is an input CR. -/
def Request.isInput (r : Request) (crep : ℕ) : Bool :=
  (r.iocrs[crep]?).any (·.param.iocrType = PF_IOCR_TYPE_INPUT)

/-- How many output CRs come before `crep`. -/
def Request.outputsBefore (r : Request) (crep : ℕ) : ℕ :=
  ((List.range crep).filter fun n => r.isOutput n).length

/-- The CR cannot be started: the pool of the scheduler is used up, or there is no buffer. -/
def StartFails (st : Stack) (r : Request) (allocated : ℕ → Bool) (crep : ℕ) : Prop :=
  r.isOutput crep = true ∧ PF_MAX_TIMEOUTS ≤ (pending st.sched).length + r.outputsBefore crep ∨
    r.isInput crep = true ∧ allocated crep = false

instance (st : Stack) (r : Request) (allocated : ℕ → Bool) (crep : ℕ) :
    Decidable (StartFails st r allocated crep) := by
  unfold StartFails
  infer_instance

/-- The first CR that cannot be started has no output CR before it. -/
def Starts (st : Stack) (r : Request) (allocated : ℕ → Bool) : Prop :=
  ∀ n < r.iocrs.length, StartFails st r allocated n → ∀ m < n, r.isOutput m = true →
    ∃ l < n, StartFails st r allocated l

/-- The step starts no CPM whose AR it then releases. -/
def Completes (st : Stack) : Step → Prop
  | .connect (some r) .accepted allocated _ =>
    st.freeAr = some 0 → st.arFindByUuid r.arParam.arUuid = none → Starts st r allocated
  | _ => True

instance (st : Stack) (r : Request) (allocated : ℕ → Bool) : Decidable (Starts st r allocated) := by
  unfold Starts
  infer_instance

instance (st : Stack) (e : Step) : Decidable (Completes st e) := by
  unfold Completes
  split <;> infer_instance

variable {p : Kind → Prop} {sent : Prop} {st st' : Stack} {a a' c k i n : ℕ} {kind : Kind}
  {r : Request} {allocated : ℕ → Bool} {clock : ℕ → Time} {s : St}

/-! ## Machines at rest -/

/-- All machines of the AR are at rest. -/
def Resting (st : Stack) (a : ℕ) : Prop :=
  ∀ k i, ofAr a k i → AtRest st k i ∧ ¬ Running st k i

theorem Orderly.of_rest (hpoll : (st.ar a).inUse = true → timers.Named st.sched .cmio a)
    (hrest : Resting st a) (hidle : ∀ k i, p k → ofAr a k i → timers.Idle st.sched k i) :
    Orderly p sent st a :=
  ⟨hpoll, fun _ => (hrest .cmio a rfl).1,
    fun k i hk => .of_rest (hrest k i hk).1 (hrest k i hk).2 fun hp => hidle k i hp hk⟩

/-- An AR that is not in use has no timer. -/
theorem Good.idle_of_free (h : Good p sent st) (hfree : (st.ar a).inUse = false) (k : Kind) (i : ℕ)
    (hp : p k) (hk : ofAr a k i) : timers.Idle st.sched k i := by
  refine h.idle_of_rest ?_ hp
  by_contra hnot
  have huse := ((h.orderly a).slots k i hk).used hnot
  rw [show k.arOf i = a from hk, hfree] at huse
  cases huse

theorem Good.zeroed (h : Good p sent st)
    (hidle : ∀ k i, p k → ofAr a k i → timers.Idle st.sched k i) : Good p sent (st.zeroed a) := by
  rcases Stack.zeroed_spec h.tidy a with ⟨ht, hw, hruns⟩
  have hacts : Acts a st { st.zeroed a with sched := (st.zeroed a).sched } :=
    Stack.zeroed_acts ht hw
  exact h.acts hacts (Stack.zeroed_orderly fun k i hp hk => (hruns k i).mpr (hidle k i hp hk))

theorem Good.release (h : Good p sent st)
    (hidle : ∀ k i, p k → ofAr a k i → timers.Idle st.sched k i) : Good p sent (st.release a) := by
  unfold Stack.release
  split
  · exact h.zeroed hidle
  · exact h

/-! ## The AR of a request -/

theorem allocate_ar (st : Stack) (a : ℕ) (request : Option Request) :
    (st.allocate a request).ar a = { Ar.zero with
      inUse := true
      arParam := request.map Request.arParam
      alarmCrRequest := request.map Request.alarmCrRequest
      nbrIocrs := (request.elim [] Request.iocrs).length } := Function.update_self _ _ _

theorem allocate_iocr (st : Stack) (request : Option Request) (hc : c / PNET_MAX_CR = a) :
    (st.allocate a request).iocr c =
      (request.elim [] Request.iocrs)[c % PNET_MAX_CR]?.elim .zero fun x =>
        { Iocr.zero with param := some x.param, inLength := x.inLength } := if_pos hc

/-- The machines of a CR that has just been allocated. -/
theorem allocate_cr (st : Stack) (request : Option Request) (hc : c / PNET_MAX_CR = a) :
    ((st.allocate a request).iocr c).cpm = .zero ∧
      ((st.allocate a request).iocr c).ppm = .cleared ∧
      ((st.allocate a request).iocr c).cmioStart = false := by
  rw [allocate_iocr st request hc]
  cases (request.elim [] Request.iocrs)[c % PNET_MAX_CR]? with
  | none => exact ⟨rfl, rfl, rfl⟩
  | some x => exact ⟨rfl, rfl, rfl⟩

theorem allocate_resting (st : Stack) (a : ℕ) (request : Option Request) :
    Resting (st.allocate a request) a := by
  intro k i hk
  cases k with
  | cmio =>
    obtain rfl : i = a := hk
    dsimp only [AtRest, Running]
    rw [allocate_ar]
    exact ⟨.inl rfl, fun h => h (.inl rfl)⟩
  | cmsm =>
    obtain rfl : i = a := hk
    dsimp only [AtRest, Running]
    rw [allocate_ar]
    exact ⟨rfl, fun h => h rfl⟩
  | cpm =>
    dsimp only [AtRest, Running]
    rw [(allocate_cr st request hk).1]
    exact ⟨rfl, Bool.false_ne_true⟩
  | ppm =>
    dsimp only [AtRest, Running]
    rw [(allocate_cr st request hk).2.1]
    exact ⟨rfl, Bool.false_ne_true⟩
  | apmx =>
    have hx : (st.allocate a request).apmx i = .zero := if_pos hk
    dsimp only [AtRest, Running]
    rw [hx]
    exact ⟨rfl, fun h => h rfl⟩

/-- The scheduler after an AR has been allocated. -/
theorem allocate_sched (h : Good p sent st) (hfree : (st.ar a).inUse = false)
    (request : Option Request) :
    timers.Tidy (st.allocate a request).sched ∧
      timers.Within (ofAr a) st.sched (st.allocate a request).sched ∧
      timers.Named (st.allocate a request).sched .cmio a ∧
      ∀ k i, p k → ofAr a k i → timers.Idle (st.allocate a request).sched k i := by
  rcases Stack.zeroed_spec h.tidy a with ⟨ht, hw, hruns⟩
  rcases ht.initHandle .cmio a with ⟨ht', hw', hname, hruns'⟩
  refine ⟨ht', hw.trans (hw'.mono Stack.only_cmio), hname, fun k i hp hk => ?_⟩
  have hidle : timers.Idle (st.zeroed a).sched k i :=
    (hruns k i).mpr (h.idle_of_free hfree k i hp hk)
  by_cases hcmio : Family.only .cmio a k i
  · rcases hcmio with ⟨rfl, rfl⟩
    exact fun e he => hidle e ((hruns' e).mp he)
  · exact (hw'.idle hcmio).mpr hidle

theorem allocate_acts (h : Good p sent st) (hfree : (st.ar a).inUse = false)
    (request : Option Request) : Acts a st (st.allocate a request) := by
  rcases allocate_sched h hfree request with ⟨ht, hw, -, -⟩
  refine .of_within ht hw (fun a' ha' => ?_) (fun c hc => ?_) fun k hk => if_neg hk
  · exact (Function.update_of_ne ha' _ _).trans (Function.update_of_ne ha' _ _)
  · exact (if_neg hc).trans (if_neg hc)

theorem allocate_good (h : Good p sent st) (hfree : (st.ar a).inUse = false)
    (request : Option Request) : Good p sent (st.allocate a request) := by
  rcases allocate_sched h hfree request with ⟨-, -, hname, hidle⟩
  exact h.acts (allocate_acts h hfree request)
    (.of_rest (fun _ => hname) (allocate_resting st a request) hidle)

/-! ## The CRs of a request -/

/-- The AR, with CMSU as it is when all CRs have been started. -/
def up (st : Stack) (a : ℕ) : Stack :=
  st.setAr a { st.ar a with cmsuState := .PF_CMSU_STATE_STARTUP }

theorem up_ar (st : Stack) (a : ℕ) :
    (up st a).ar a = { st.ar a with cmsuState := .PF_CMSU_STATE_STARTUP } := Stack.setAr_self _ _ _

/-- What a connect request leaves of the CRs but the state of their machines. -/
structure SameCrs (st : Stack) (a : ℕ) (st' : Stack) : Prop where
  same : st' = { st with sched := st'.sched, iocr := st'.iocr }
  param : ∀ c, (st'.iocr c).param = (st.iocr c).param
  cmioStart : ∀ c, (st'.iocr c).cmioStart = (st.iocr c).cmioStart
  others : ∀ c, c / PNET_MAX_CR ≠ a → st'.iocr c = st.iocr c

theorem SameCrs.refl (st : Stack) (a : ℕ) : SameCrs st a st :=
  ⟨rfl, fun _ => rfl, fun _ => rfl, fun _ _ => rfl⟩

/-- The CR changes that is started. -/
theorem SameCrs.setIocr {y : Iocr} (h : SameCrs st a st') (hc : c / PNET_MAX_CR = a)
    (hparam : y.param = (st'.iocr c).param) (hstart : y.cmioStart = (st'.iocr c).cmioStart) :
    SameCrs st a { st'.setIocr c y with sched := s } := by
  have hself : ({ st'.setIocr c y with sched := s } : Stack).iocr c = y := Function.update_self _ _ _
  have hother (c' : ℕ) (hne : c' ≠ c) :
      ({ st'.setIocr c y with sched := s } : Stack).iocr c' = st'.iocr c' :=
    Function.update_of_ne hne _ _
  constructor
  · rw [h.same]
    rfl
  · intro c'
    by_cases hne : c' = c
    · rw [hne, hself, hparam, h.param]
    · rw [hother c' hne, h.param]
  · intro c'
    by_cases hne : c' = c
    · rw [hne, hself, hstart, h.cmioStart]
    · rw [hother c' hne, h.cmioStart]
  · intro c' hc'
    rw [hother c', h.others c' hc']
    rintro rfl
    exact hc' hc

/-- The CRs before the CR `n` have been started. -/
structure Started (p : Kind → Prop) (sent : Prop) (st : Stack) (r : Request)
    (allocated : ℕ → Bool) (a n : ℕ) (st' : Stack) : Prop where
  good : Good p sent (up st' a)
  acts : Acts a st st'
  crs : SameCrs st a st'
  pending : (pending st'.sched).length = (pending st.sched).length + r.outputsBefore n
  fine : ∀ m < n, ¬ StartFails st r allocated m
  fresh : ∀ c, c / PNET_MAX_CR = a → n ≤ c % PNET_MAX_CR → st'.iocr c = st.iocr c
  rest : ∀ k i, ofAr a k i → ¬ (k = .cpm ∧ i % PNET_MAX_CR < n ∧ r.isOutput (i % PNET_MAX_CR) = true) →
    AtRest st' k i ∧ ¬ Running st' k i

/-- A CR could not be started. -/
structure Failed (p : Kind → Prop) (st : Stack) (a : ℕ) (st' : Stack) : Prop where
  acts : Acts a st st'
  idle : ∀ k i, p k → ofAr a k i → timers.Idle st'.sched k i
  ar : (st'.ar a).inUse = true ∨ (st'.ar a).inUse = false ∧ Resting st' a
  connections : st'.connections = st.connections
  connection : st'.connection = st.connection
  notes : st'.notes = st.notes ∨
    st'.notes = .event (st.connection a) .PNET_EVENT_ABORT :: st.notes

theorem outputsBefore_succ (r : Request) (n : ℕ) :
    r.outputsBefore (n + 1) = r.outputsBefore n + if r.isOutput n = true then 1 else 0 := by
  unfold Request.outputsBefore
  rw [List.range_succ, List.filter_append, List.length_append]
  by_cases h : r.isOutput n = true
  · rw [if_pos h, List.filter_cons_of_pos h]
    rfl
  · rw [if_neg h, List.filter_cons_of_neg h]
    rfl

/-- `up` changes no machine that is not closed by CMSU. -/
theorem up_atRest (st : Stack) (a : ℕ) (k : Kind) (i : ℕ) :
    (AtRest (up st a) k i ↔ AtRest st k i) ∧ (Running (up st a) k i ↔ Running st k i) := by
  have har (b : ℕ) : ((up st a).ar b).cmioState = (st.ar b).cmioState ∧
      ((up st a).ar b).cmsmState = (st.ar b).cmsmState := by
    by_cases hb : b = a
    · rw [hb, up_ar]
      exact ⟨rfl, rfl⟩
    · rw [show (up st a).ar b = st.ar b from Function.update_of_ne hb _ _]
      exact ⟨rfl, rfl⟩
  cases k with
  | cmio =>
    dsimp only [AtRest, Running]
    rw [(har i).1]
    exact ⟨.rfl, .rfl⟩
  | cmsm =>
    dsimp only [AtRest, Running]
    rw [(har i).2]
    exact ⟨.rfl, .rfl⟩
  | cpm => exact ⟨.rfl, .rfl⟩
  | ppm => exact ⟨.rfl, .rfl⟩
  | apmx => exact ⟨.rfl, .rfl⟩

/-- When the first CR that cannot be started is `n`, the AR has no timer. -/
theorem Started.idle (h : Started p sent st r allocated a n st') (hn : n < r.iocrs.length)
    (hfails : StartFails st r allocated n) (hstarts : p .cpm → Starts st r allocated) (k : Kind)
    (i : ℕ) (hp : p k) (hk : ofAr a k i) : timers.Idle st'.sched k i := by
  have hidle : timers.Idle (up st' a).sched k i := by
    refine h.good.idle_of_rest ((up_atRest st' a k i).1.mpr (h.rest k i hk ?_).1) hp
    rintro ⟨rfl, hlt, hout⟩
    rcases hstarts hp n hn hfails _ hlt hout with ⟨l, hl, hfails'⟩
    exact h.fine l hl hfails'
  exact hidle

/-- The AR that is about to be started. -/
structure Fresh (st : Stack) (a : ℕ) (r : Request) : Prop where
  inUse : (st.ar a).inUse = true
  nbrIocrs : (st.ar a).nbrIocrs = r.iocrs.length
  param : ∀ crep < r.iocrs.length, (st.iocr (crOf a crep)).param = r.iocrs[crep]?.map (·.param)
  cpm : ∀ c, c / PNET_MAX_CR = a → (st.iocr c).cpm = .zero
  ppm : ∀ c, c / PNET_MAX_CR = a → (st.iocr c).ppm = .cleared

/-- The type of a CR, in the request and in the stack. -/
theorem isOutput_eq {p : IocrParam} (h : r.iocrs[n]?.map (·.param) = some p) :
    r.isOutput n = decide (p.iocrType = PF_IOCR_TYPE_OUTPUT) ∧
      r.isInput n = decide (p.iocrType = PF_IOCR_TYPE_INPUT) := by
  rcases Option.map_eq_some_iff.mp h with ⟨x, hx, rfl⟩
  unfold Request.isOutput Request.isInput
  rw [hx]
  exact ⟨rfl, rfl⟩

/-- What a CR that is started leaves of the others. -/
theorem Started.next (h : Started p sent st r allocated a n st') {y : Iocr}
    (hc : c / PNET_MAX_CR = a) (hmod : c % PNET_MAX_CR = n)
    (hgood : Good p sent (up { st'.setIocr c y with sched := s } a))
    (hacts : Acts a st' { st'.setIocr c y with sched := s })
    (hparam : y.param = (st'.iocr c).param) (hstart : y.cmioStart = (st'.iocr c).cmioStart)
    (hpending : (Scheduler.pending s).length = (Scheduler.pending st'.sched).length +
      if r.isOutput n = true then 1 else 0)
    (hfine : ¬ StartFails st r allocated n)
    (hppm : y.ppm.state = (st'.iocr c).ppm.state ∧ y.ppm.ciRunning = (st'.iocr c).ppm.ciRunning)
    (hcpm : r.isOutput n = true ∨ y.cpm = (st'.iocr c).cpm) :
    Started p sent st r allocated a (n + 1) { st'.setIocr c y with sched := s } := by
  refine ⟨hgood, h.acts.trans hacts, h.crs.setIocr hc hparam hstart, ?_, ?_, ?_, ?_⟩
  · show (Scheduler.pending s).length = _
    rw [hpending, h.pending, outputsBefore_succ, Nat.add_assoc]
  · intro m hm
    by_cases hmn : m = n
    · rw [hmn]
      exact hfine
    · exact h.fine m (by omega)
  · intro c' hc' hle
    have hne : c' ≠ c := by
      rintro rfl
      omega
    show Function.update st'.iocr c y c' = _
    rw [Function.update_of_ne hne]
    exact h.fresh c' hc' (by omega)
  · intro k i hk hnot
    have hself : ({ st'.setIocr c y with sched := s } : Stack).iocr c = y :=
      Function.update_self _ _ _
    have htype : y.iocrType = (st'.iocr c).iocrType := by
      unfold Iocr.iocrType
      rw [hparam]
    by_cases hcr : k = Kind.cpm ∧ i = c
    · rcases hcr with ⟨rfl, rfl⟩
      have hout : ¬ r.isOutput n = true := by
        intro hout
        refine hnot ⟨rfl, by omega, ?_⟩
        rwa [hmod]
      have hrest := h.rest .cpm i hk fun h' => hout (hmod ▸ h'.2.2)
      dsimp only [AtRest, Running] at hrest ⊢
      rw [hself, hcpm.resolve_left hout]
      exact hrest
    · have hm : SameMachine st' { st'.setIocr c y with sched := s } k i :=
        Stack.setIocr_sameMachine st' s hk htype (fun hkind hi => absurd ⟨hkind, hi⟩ hcr)
          fun _ _ => hppm
      rw [hm.atRest, hm.running]
      refine h.rest k i hk fun h' => hnot ⟨h'.1, by omega, h'.2.2⟩

/-- A CR that is no output CR and no input CR. -/
theorem Started.skip (h : Started p sent st r allocated a n st') (hout : ¬ r.isOutput n = true)
    (hin : ¬ r.isInput n = true) : Started p sent st r allocated a (n + 1) st' := by
  refine ⟨h.good, h.acts, h.crs, ?_, ?_, fun c hc hle => h.fresh c hc (by omega), ?_⟩
  · rw [h.pending, outputsBefore_succ, if_neg hout, Nat.add_zero]
  · intro m hm
    by_cases hmn : m = n
    · rw [hmn]
      rintro (⟨hout', -⟩ | ⟨hin', -⟩)
      · exact hout hout'
      · exact hin hin'
    · exact h.fine m (by omega)
  · intro k i hk hnot
    refine h.rest k i hk fun h' => hnot ⟨h'.1, by omega, h'.2.2⟩

theorem cpmActivate_run {x : Cyclic.Cpm} (h : x.state = .PF_CPM_STATE_W_START)
    {act : Cyclic.Cpm.Activation} (hstarted : act.started = true) :
    (x.activateReq act).state = .PF_CPM_STATE_FRUN ∧ (x.activateReq act).ciRunning = true := by
  unfold Cyclic.Cpm.activateReq
  rw [h]
  dsimp only
  rw [if_pos hstarted]
  exact ⟨rfl, rfl⟩

theorem create_same (x : Cyclic.Ppm) (sa da : Vector Byte 6) (param : IocrParam)
    (allocated : Bool) : (x.create sa da param allocated).2.state = x.state ∧
      (x.create sa da param allocated).2.ciRunning = x.ciRunning := by
  unfold Cyclic.Ppm.create
  cases hstate : x.state with
  | PF_PPM_STATE_RUN => exact ⟨hstate, rfl⟩
  | PF_PPM_STATE_W_START =>
    cases allocated
    · exact ⟨hstate, rfl⟩
    · exact ⟨hstate, rfl⟩

theorem create_ret {x : Cyclic.Ppm} (h : x.state = .PF_PPM_STATE_W_START) (sa da : Vector Byte 6)
    (param : IocrParam) (allocated : Bool) :
    (x.create sa da param allocated).1 = if allocated = true then 0 else -1 := by
  unfold Cyclic.Ppm.create
  rw [h]
  cases allocated
  · rfl
  · rfl

/-- What has become of the AR after the next CR. -/
def Outcome (p : Kind → Prop) (sent : Prop) (st : Stack) (r : Request) (allocated : ℕ → Bool)
    (a n : ℕ) (q : ℤ × Stack) : Prop :=
  q.1 = 0 ∧ Started p sent st r allocated a n q.2 ∨ q.1 ≠ 0 ∧ Failed p st a q.2

theorem cpmActivateReq_spec {b : Stack} {x : IocrParam} {now : Time} {q : ℤ × Stack}
    (hf : Fresh st a r) (h : Started p sent st r allocated a n b) (hn : n < PNET_MAX_CR)
    (hlt : n < r.iocrs.length) (hx : r.iocrs[n]?.map (·.param) = some x)
    (htype : x.iocrType = PF_IOCR_TYPE_OUTPUT) (hstarts : p .cpm → Starts st r allocated)
    (hq : b.cpmActivateReq a (crOf a n) x now = some q) :
    Outcome p sent st r allocated a (n + 1) q := by
  have hc : crOf a n / PNET_MAX_CR = a := crOf_div a hn
  have hmod : crOf a n % PNET_MAX_CR = n := crOf_mod a hn
  have hk : ofAr a .cpm (crOf a n) := hc
  rcases isOutput_eq hx with ⟨hisOut, hisIn⟩
  have hout : r.isOutput n = true := by
    rw [hisOut]
    exact decide_eq_true htype
  have hnin : ¬ r.isInput n = true := by
    rw [hisIn, htype]
    decide
  have har : b.ar = st.ar := by rw [h.crs.same]
  have hio := h.fresh (crOf a n) hc hmod.ge
  have hrest : (b.iocr (crOf a n)).cpm.state = Cyclic.CpmState.PF_CPM_STATE_W_START := by
    rw [hio, hf.cpm _ hc]
    rfl
  have hbtype : (b.iocr (crOf a n)).iocrType = PF_IOCR_TYPE_OUTPUT := by
    unfold Iocr.iocrType
    rw [hio, hf.param n hlt, hx]
    exact htype
  -- the timer of the CPM
  have ht : timers.Tidy b.sched := h.acts.tidy
  rcases ht.initHandle .cpm (crOf a n) with ⟨ht1, hw1, hname1, hruns1⟩
  have hidle (hp : p .cpm) :
      timers.Idle (pfSchedulerInitHandle b.sched (timers.handle .cpm (crOf a n))
        (component .cpm).name) .cpm (crOf a n) := by
    have hidle0 : timers.Idle (up b a).sched .cpm (crOf a n) := h.good.idle_of_rest hrest hp
    exact fun e he => hidle0 e ((hruns1 e).mp he)
  rcases Option.bind_eq_some_iff.mp hq with ⟨q1, hq1, hq⟩
  rcases Option.map_eq_some_iff.mp hq1 with ⟨q2, hq2, rfl⟩
  rcases Option.map_eq_some_iff.mp hq2 with ⟨q3, hq3, rfl⟩
  rcases ht1.add hname1 hq3 with ⟨ht2, hw2, hname2, hadd⟩
  have hw := hw1.trans hw2
  dsimp only at hq
  obtain ⟨y, hy⟩ : ∃ y : Iocr, y = { b.iocr (crOf a n) with
      cpmControlInterval := x.sendClockFactor.setWidth 32 * x.reductionRatio.setWidth 32 * 1000 / 32
      cpm := (b.iocr (crOf a n)).cpm.activateReq
        ⟨(b.ar a).arParam.elim [] (·.cmInitiatorMacAdd.toList), x.dataHoldFactor.toNat,
          x.cSduLength, decide (q3.1 = 0)⟩ } := ⟨_, rfl⟩
  have hstate : ({ b.setIocr (crOf a n) y with sched := q3.2 } : Stack).iocr (crOf a n) = y :=
    Function.update_self _ _ _
  have hacts : Acts a b { b.setIocr (crOf a n) y with sched := q3.2 } :=
    Stack.setIocr_acts hk hc ht2 hw
  have hparam : y.param = (b.iocr (crOf a n)).param := by rw [hy]
  have hcmio : y.cmioStart = (b.iocr (crOf a n)).cmioStart := by rw [hy]
  have hppm : y.ppm = (b.iocr (crOf a n)).ppm := by rw [hy]
  by_cases hzero : q3.1 = 0
  · -- the CPM runs
    rw [if_pos hzero] at hq
    obtain rfl := Option.some.inj hq
    refine .inl ⟨hzero, ?_⟩
    suffices hnext : Started p sent st r allocated a (n + 1)
        { b.setIocr (crOf a n) y with sched := q3.2 } by
      rw [hy] at hnext
      exact hnext
    rcases ht1.add_room hq3 with ⟨hfree, -, hlen⟩ | ⟨-, hneg⟩
    · have hrun : y.cpm.state = Cyclic.CpmState.PF_CPM_STATE_FRUN ∧ y.cpm.ciRunning = true := by
        rw [hy]
        exact cpmActivate_run hrest (decide_eq_true hzero)
      have hnot : ¬ AtRest (up { b.setIocr (crOf a n) y with sched := q3.2 } a) .cpm (crOf a n) := by
        show (({ b.setIocr (crOf a n) y with sched := q3.2 } : Stack).iocr (crOf a n)).cpm.state ≠ _
        rw [hstate, hrun.1]
        decide
      have harmed (hp : p .cpm) : timers.Armed q3.2 .cpm (crOf a n) := by
        rcases hadd (hidle hp) with ⟨-, harmed⟩ | ⟨hneg, -⟩
        · exact harmed
        · exact absurd (hzero.symm.trans hneg) (by decide)
      have hself : InOrder p sent (up { b.setIocr (crOf a n) y with sched := q3.2 } a) .cpm
          (crOf a n) := by
        refine ⟨fun _ => hname2, fun _ => ?_, fun _ _ => ⟨?_, ?_, ?_⟩, iff_of_true ?_ hnot,
          fun hp => .inr ⟨harmed hp, hnot⟩, fun hp _ _ => harmed hp⟩
        · show ((up b a).ar (crOf a n / PNET_MAX_CR)).inUse = true
          rw [hc, up_ar]
          show (b.ar a).inUse = true
          rw [har]
          exact hf.inUse
        · show ((up b a).ar (crOf a n / PNET_MAX_CR)).cmsuState = _
          rw [hc, up_ar]
        · show _ < ((up b a).ar (crOf a n / PNET_MAX_CR)).nbrIocrs
          rw [hc, up_ar, hmod]
          show n < (b.ar a).nbrIocrs
          rw [har, hf.nbrIocrs]
          exact hlt
        · show (({ b.setIocr (crOf a n) y with sched := q3.2 } : Stack).iocr (crOf a n)).iocrType = _
          rw [hstate]
          unfold Iocr.iocrType
          rw [hparam]
          exact hbtype
        · show (({ b.setIocr (crOf a n) y with sched := q3.2 } : Stack).iocr
            (crOf a n)).cpm.ciRunning = true
          rw [hstate]
          exact hrun.2
      refine h.next hc hmod ?_ hacts hparam hcmio ?_ ?_ (by rw [hppm]; exact ⟨rfl, rfl⟩) (.inl hout)
      · exact h.good.cr (.inl rfl) ht2 hw (by unfold Iocr.iocrType; rw [hparam]; rfl) (absurd rfl)
          (fun _ => hppm) hself
      · rw [if_pos hout, hlen]
        rfl
      · rintro (⟨-, hfull⟩ | ⟨hin, -⟩)
        · rw [← h.pending] at hfull
          exact absurd (ht1.free_lt.mp hfree) (Nat.not_lt.mpr hfull)
        · exact hnin hin
    · exact absurd (hzero.symm.trans hneg) (by decide)
  · -- the scheduler is full
    rw [if_neg hzero] at hq
    rcases Option.map_eq_some_iff.mp hq with ⟨st2, hst2, rfl⟩
    refine .inr ⟨Int.neg_ne_zero.mpr Int.one_ne_zero, ?_⟩
    have hfull : StartFails st r allocated n := by
      rcases ht1.add_room hq3 with ⟨-, hret, -⟩ | ⟨hfree, -⟩
      · exact absurd hret hzero
      · refine .inl ⟨hout, ?_⟩
        rw [← h.pending]
        exact Nat.not_lt.mp (mt ht1.free_lt.mpr hfree)
    have hst2 : Stack.abort { b.setIocr (crOf a n) y with sched := q3.2 } a = some st2 := by
      rw [hy]
      exact hst2
    have huse : (({ b.setIocr (crOf a n) y with sched := q3.2 } : Stack).ar a).inUse = true := by
      show (b.ar a).inUse = true
      rw [har]
      exact hf.inUse
    have hidles (k : Kind) (i : ℕ) (hp : p k) (hk : ofAr a k i) : timers.Idle q3.2 k i := by
      by_cases hcr : Family.only .cpm (crOf a n) k i
      · rcases hcr with ⟨rfl, rfl⟩
        rcases hadd (hidle hp) with ⟨hret, -⟩ | ⟨-, hidle'⟩
        · exact absurd hret hzero
        · exact hidle'
      · exact (hw.idle hcr).mpr (h.idle hlt hfull hstarts k i hp hk)
    have habort : Acts a _ st2 ∧ Orderly p sent st2 a ∧ _ := Stack.abort_orderly hacts.tidy huse
      (fun k i hp hk => .inl (hidles k i hp hk)) hst2
    rcases Stack.abort_spec hacts.tidy huse hst2 with ⟨s', rfl, -, -, hidle'⟩
    refine ⟨(h.acts.trans hacts).trans habort.1,
      fun k i hp hk => hidle' k i hk (.inl (hidles k i hp hk)),
      .inr ⟨Stack.zeroed_inUse _ a, fun k i hk => Stack.zeroed_atRest _ hk⟩, ?_, ?_, .inr ?_⟩
    · show b.connections = _
      rw [h.crs.same]
    · show b.connection = _
      rw [h.crs.same]
    · show .event (b.connection a) .PNET_EVENT_ABORT :: b.notes = _
      rw [h.crs.same]

theorem ppmCreate_spec {b : Stack} {x : IocrParam} (hf : Fresh st a r)
    (h : Started p sent st r allocated a n b) (hn : n < PNET_MAX_CR) (hlt : n < r.iocrs.length)
    (hx : r.iocrs[n]?.map (·.param) = some x) (htype : x.iocrType = PF_IOCR_TYPE_INPUT)
    (hstarts : p .cpm → Starts st r allocated) :
    Outcome p sent st r allocated a (n + 1) (b.ppmCreate a (crOf a n) x (allocated n)) := by
  have hc : crOf a n / PNET_MAX_CR = a := crOf_div a hn
  have hmod : crOf a n % PNET_MAX_CR = n := crOf_mod a hn
  rcases isOutput_eq hx with ⟨hisOut, hisIn⟩
  have hin : r.isInput n = true := by
    rw [hisIn]
    exact decide_eq_true htype
  have hnout : ¬ r.isOutput n = true := by
    rw [hisOut, htype]
    decide
  have hrest : (b.iocr (crOf a n)).ppm.state = Cyclic.PpmState.PF_PPM_STATE_W_START := by
    rw [h.fresh (crOf a n) hc hmod.ge, hf.ppm _ hc]
    rfl
  obtain ⟨y, hy⟩ : ∃ y : Iocr, y = { b.iocr (crOf a n) with
      ppm := ((b.iocr (crOf a n)).ppm.create b.deviceMac
        ((b.ar a).arParam.elim (Vector.replicate 6 0) (·.cmInitiatorMacAdd)) x
          (allocated n)).2 } := ⟨_, rfl⟩
  have hppm : y.ppm.state = (b.iocr (crOf a n)).ppm.state ∧
      y.ppm.ciRunning = (b.iocr (crOf a n)).ppm.ciRunning := by
    rw [hy]
    exact create_same _ _ _ _ _
  have hcreate : b.ppmCreate a (crOf a n) x (allocated n) =
      (if allocated n = true then 0 else -1,
        { b.setIocr (crOf a n) y with sched := b.sched }) := by
    unfold Stack.ppmCreate
    dsimp only
    rw [create_ret hrest, hy]
    rfl
  have htypes : y.iocrType = (b.iocr (crOf a n)).iocrType := by
    rw [hy]
    rfl
  have hgood : Good p sent (up { b.setIocr (crOf a n) y with sched := b.sched } a) :=
    h.good.setIocr (crOf a n) y htypes (by rw [hy]; exact ⟨.rfl, rfl⟩) hppm
  have hacts : Acts a b { b.setIocr (crOf a n) y with sched := b.sched } :=
    Stack.setIocr_acts (show ofAr a .ppm (crOf a n) from hc) hc h.acts.tidy (.refl _ _)
  rw [hcreate]
  cases hal : allocated n with
  | true =>
    refine .inl ⟨rfl, h.next hc hmod hgood hacts (by rw [hy]) (by rw [hy]) ?_ ?_ hppm
      (.inr (by rw [hy]))⟩
    · rw [if_neg hnout, Nat.add_zero]
    · rintro (⟨hout, -⟩ | ⟨-, hnot⟩)
      · exact hnout hout
      · rw [hal] at hnot
        cases hnot
  | false =>
    refine .inr ⟨Int.neg_ne_zero.mpr Int.one_ne_zero, h.acts.trans hacts,
      h.idle hlt (.inr ⟨hin, hal⟩) hstarts, .inl ?_, ?_, ?_, .inl ?_⟩
    · show (b.ar a).inUse = true
      rw [h.crs.same]
      exact hf.inUse
    · show b.connections = _
      rw [h.crs.same]
    · show b.connection = _
      rw [h.crs.same]
    · show b.notes = _
      rw [h.crs.same]

/-- The next CR. -/
theorem startIocr_spec {q q' : ℤ × Stack} (hf : Fresh st a r)
    (h : Outcome p sent st r allocated a n q) (hn : n < PNET_MAX_CR)
    (hlt : q.1 = 0 → n < r.iocrs.length) (hstarts : p .cpm → Starts st r allocated)
    (hq : Stack.startIocr q a n allocated clock = some q') :
    Outcome p sent st r allocated a (n + 1) q' := by
  unfold Stack.startIocr at hq
  rcases h with ⟨hzero, h⟩ | ⟨hnz, h⟩
  · rw [if_neg (not_not_intro hzero)] at hq
    have hlt := hlt hzero
    have hget : r.iocrs[n]? = some r.iocrs[n] := List.getElem?_eq_getElem hlt
    have hparam : (q.2.iocr (crOf a n)).param = some r.iocrs[n].param := by
      rw [h.crs.param, hf.param n hlt, hget]
      rfl
    have hx : r.iocrs[n]?.map (·.param) = some r.iocrs[n].param := by
      rw [hget]
      rfl
    rw [hparam] at hq
    dsimp only [Option.elim_some] at hq
    by_cases hout : r.iocrs[n].param.iocrType = PF_IOCR_TYPE_OUTPUT
    · rw [if_pos hout] at hq
      exact cpmActivateReq_spec hf h hn hlt hx hout hstarts hq
    · rw [if_neg hout] at hq
      by_cases hin : r.iocrs[n].param.iocrType = PF_IOCR_TYPE_INPUT
      · rw [if_pos hin] at hq
        obtain rfl := Option.some.inj hq
        exact ppmCreate_spec hf h hn hlt hx hin hstarts
      · -- another type of CR
        rw [if_neg hin] at hq
        obtain rfl := Option.some.inj hq
        rcases isOutput_eq hx with ⟨hisOut, hisIn⟩
        have hnout : ¬ r.isOutput n = true := by
          rw [hisOut]
          exact fun hdec => hout (of_decide_eq_true hdec)
        have hnin : ¬ r.isInput n = true := by
          rw [hisIn]
          exact fun hdec => hin (of_decide_eq_true hdec)
        exact .inl ⟨hzero, h.skip hnout hnin⟩
  · rw [if_pos hnz] at hq
    obtain rfl := Option.some.inj hq
    exact .inr ⟨hnz, h⟩

/-- After all CRs. -/
theorem startIocrs_spec {q : ℤ × Stack} (hf : Fresh st a r) (h : Good p sent (up st a))
    (hrest : Resting st a) (hstarts : p .cpm → Starts st r allocated)
    (hq : forCreps (fun q : ℤ × Stack => (q.2.ar a).nbrIocrs)
      (fun q crep => Stack.startIocr q a crep allocated clock) (0, st) = some q) :
    Outcome p sent st r allocated a PNET_MAX_CR q := by
  refine forCreps_run (P := fun n q => Outcome p sent st r allocated a n q) ?_ ?_ ?_ hq
  · have ht : timers.Tidy st.sched := h.tidy
    exact .inl ⟨rfl, h, .refl ht a, .refl st a, rfl, fun _ hm => absurd hm (Nat.not_lt_zero _),
      fun _ _ _ => rfl, fun k i hk _ => hrest k i hk⟩
  · intro n b b' hn hP hlt hb
    refine startIocr_spec hf hP hn (fun hzero => ?_) hstarts hb
    rcases hP with ⟨-, hP⟩ | ⟨hnz, -⟩
    · rw [hP.crs.same] at hlt
      exact hf.nbrIocrs ▸ hlt
    · exact absurd hzero hnz
  · intro n b hP hnot
    rcases hP with ⟨hzero, hP⟩ | ⟨hnz, hP⟩
    · rw [hP.crs.same] at hnot
      have hge : ¬ n < r.iocrs.length := hf.nbrIocrs ▸ hnot
      have hnone : r.iocrs[n]? = none := List.getElem?_eq_none (Nat.not_lt.mp hge)
      refine .inl ⟨hzero, hP.skip ?_ ?_⟩
      · unfold Request.isOutput
        rw [hnone]
        exact Bool.false_ne_true
      · unfold Request.isInput
        rw [hnone]
        exact Bool.false_ne_true
    · exact .inr ⟨hnz, hP⟩

/-! ## The AR is started -/

theorem Good.initHandle (h : Good p sent st) (hrest : AtRest st kind i) :
    Good p sent (st.initHandle kind i) := by
  rcases h.tidy.initHandle kind i with ⟨ht, hw, hname, hruns⟩
  exact h.sched ht hw (fun _ => hname)
    (fun hp => .inl fun e he => h.idle_of_rest hrest hp e ((hruns e).mp he))
    fun _ _ hnot => absurd hrest hnot

/-- An APMX is activated. -/
theorem Good.open (h : Good p sent st) (huse : (st.ar (k / 2)).inUse = true)
    (hcmsu : (st.ar (k / 2)).cmsuState = .PF_CMSU_STATE_STARTUP) (hrest : AtRest st .apmx k)
    (y : Apmx) : Good p sent ((st.initHandle .apmx k).setApmx k y) := by
  have h1 : Good p sent (st.initHandle .apmx k) := h.initHandle hrest
  have hname : timers.Named (st.initHandle .apmx k).sched .apmx k :=
    (h.tidy.initHandle .apmx k).2.2.1
  have hself : ((st.initHandle .apmx k).setApmx k y).apmx k = y := Function.update_self _ _ _
  have hother (k' : ℕ) (hne : k' ≠ k) :
      ((st.initHandle .apmx k).setApmx k y).apmx k' = st.apmx k' := Function.update_of_ne hne _ _
  have hacts : Acts (k / 2) (st.initHandle .apmx k) ((st.initHandle .apmx k).setApmx k y) :=
    .of_within h1.tidy (.refl _ _) (fun _ _ => rfl) (fun _ _ => rfl)
      fun k' hk' => hother k' fun heq => hk' (congrArg (· / 2) heq)
  refine h1.acts hacts ((h1.orderly (k / 2)).change (show ofAr (k / 2) .apmx k from rfl)
    (.refl _ _) nofun rfl rfl rfl (fun _ => rfl) (fun _ => rfl) (fun _ _ => rfl)
    (fun _ _ _ => ⟨.rfl, rfl⟩) (fun _ _ _ => ⟨rfl, rfl⟩) ?_ (h1.orderly (k / 2)).early ?_)
  · intro k' _ hne
    rw [hother k' fun heq => hne ⟨rfl, heq.symm⟩]
    exact .rfl
  · refine ⟨fun _ => hname, fun _ => huse, fun _ hnot => ⟨hcmsu, hnot⟩, .rfl, fun hp => ?_, ?_⟩
    · exact .inl (h1.idle_of_rest hrest hp)
    · intro _ hk
      rcases hk with hk | ⟨hk, -⟩
      · cases hk
      · cases hk

theorem Good.up (h : Good p sent st) (hrest : Resting st a) : Good p sent (up st a) := by
  refine h.acts (setAr_acts h.tidy a _) (.of_rest ?_ ?_ ?_)
  · rw [up_ar]
    exact (h.orderly a).poll
  · intro k i hk
    rw [(up_atRest st a k i).1, (up_atRest st a k i).2]
    exact hrest k i hk
  · exact fun k i hp hk => h.idle_of_rest (hrest k i hk).1 hp

/-- The AR has been started, as far as CMSU is concerned. -/
structure Opened (p : Kind → Prop) (sent : Prop) (st : Stack) (a : ℕ) (st' : Stack) : Prop where
  good : Good p sent st'
  acts : Acts a st st'
  ar : st'.ar a = { st.ar a with cmsuState := .PF_CMSU_STATE_STARTUP }
  param : ∀ c, (st'.iocr c).param = (st.iocr c).param
  cmioStart : ∀ c, (st'.iocr c).cmioStart = (st.iocr c).cmioStart
  named : timers.Named st'.sched .cmsm a
  connections : st'.connections = st.connections
  connection : st'.connection = st.connection
  notes : st'.notes = st.notes

theorem apmxActivate_acts (ht : timers.Tidy st.sched) (hk : k / 2 = a) :
    Acts a st (st.apmxActivate a k) := by
  rcases ht.initHandle .apmx k with ⟨ht', hw, -, -⟩
  refine .of_within ht' (hw.mono ?_) (fun _ _ => rfl) (fun _ _ => rfl) fun k' hk' => ?_
  · rintro _ _ ⟨rfl, rfl⟩
    exact hk
  · refine Function.update_of_ne ?_ _ _
    rintro rfl
    exact hk' hk

theorem initHandle_acts (ht : timers.Tidy st.sched) (hk : ofAr a kind i) :
    Acts a st (st.initHandle kind i) := by
  rcases ht.initHandle kind i with ⟨ht', hw, -, -⟩
  refine .of_within ht' (hw.mono ?_) (fun _ _ => rfl) (fun _ _ => rfl) fun _ _ => rfl
  rintro _ _ ⟨rfl, rfl⟩
  exact hk

theorem Started.opened (hf : Fresh st a r) (h : Started p sent st r allocated a n st') :
    Opened p sent st a
      (up (((st'.apmxActivate a (2 * a)).apmxActivate a (2 * a + 1)).initHandle .cmsm a) a) := by
  have hdiv : 2 * a / 2 = a ∧ (2 * a + 1) / 2 = a := by omega
  have hrests : AtRest st' .cmsm a ∧ AtRest st' .apmx (2 * a) ∧ AtRest st' .apmx (2 * a + 1) :=
    ⟨(h.rest .cmsm a rfl nofun).1, (h.rest .apmx (2 * a) hdiv.1 nofun).1,
      (h.rest .apmx (2 * a + 1) hdiv.2 nofun).1⟩
  have har : st'.ar = st.ar := by rw [h.crs.same]
  have huse : ((up st' a).ar a).inUse = true := by
    rw [up_ar]
    show (st'.ar a).inUse = true
    rw [har]
    exact hf.inUse
  have hcmsu : ((up st' a).ar a).cmsuState = CmsuState.PF_CMSU_STATE_STARTUP := by rw [up_ar]
  have h1 : Good p sent (up (st'.apmxActivate a (2 * a)) a) :=
    h.good.open (by rwa [hdiv.1]) (by rwa [hdiv.1]) hrests.2.1 _
  have hrest1 : AtRest (st'.apmxActivate a (2 * a)) .apmx (2 * a + 1) := by
    show (Function.update st'.apmx (2 * a) _ (2 * a + 1)).apmsState = _
    rw [Function.update_of_ne (by omega)]
    exact hrests.2.2
  have h2 : Good p sent (up ((st'.apmxActivate a (2 * a)).apmxActivate a (2 * a + 1)) a) :=
    h1.open (by rw [hdiv.2]; exact huse) (by rw [hdiv.2]; exact hcmsu) hrest1 _
  have h3 : Good p sent (up (((st'.apmxActivate a (2 * a)).apmxActivate a
      (2 * a + 1)).initHandle .cmsm a) a) := by
    have hrest3 : AtRest (up ((st'.apmxActivate a (2 * a)).apmxActivate a (2 * a + 1)) a) .cmsm a :=
      (up_atRest _ a .cmsm a).1.mpr hrests.1
    exact h2.initHandle hrest3
  have ht1 : timers.Tidy (st'.apmxActivate a (2 * a)).sched := h1.tidy
  have ht2 : timers.Tidy ((st'.apmxActivate a (2 * a)).apmxActivate a (2 * a + 1)).sched := h2.tidy
  have ht3 : timers.Tidy (((st'.apmxActivate a (2 * a)).apmxActivate a
      (2 * a + 1)).initHandle .cmsm a).sched := h3.tidy
  have hacts := (((h.acts.trans (apmxActivate_acts h.acts.tidy hdiv.1)).trans
    (apmxActivate_acts ht1 hdiv.2)).trans
      (initHandle_acts ht2 (show ofAr a .cmsm a from rfl))).trans
        (setAr_acts ht3 a { st'.ar a with cmsuState := .PF_CMSU_STATE_STARTUP })
  refine ⟨h3, hacts, ?_, h.crs.param, h.crs.cmioStart, (ht2.initHandle .cmsm a).2.2.1, ?_, ?_, ?_⟩
  · rw [up_ar]
    show { st'.ar a with cmsuState := .PF_CMSU_STATE_STARTUP } = _
    rw [har]
  · show st'.connections = _
    rw [h.crs.same]
  · show st'.connection = _
    rw [h.crs.same]
  · show st'.notes = _
    rw [h.crs.same]

/-! ## Connect requests -/

/-- The AR has been connected. -/
structure Connected (st : Stack) (a : ℕ) (r : Request) (st' : Stack) : Prop where
  inUse : (st'.ar a).inUse = true
  cmdevState : (st'.ar a).cmdevState = .PF_CMDEV_STATE_W_PEIND
  cmioState : (st'.ar a).cmioState = .PF_CMIO_STATE_STARTUP
  ready4Data : (st'.ar a).ready4Data = false
  nbrIocrs : (st'.ar a).nbrIocrs = r.iocrs.length
  param : ∀ crep < r.iocrs.length,
    (st'.iocr (crOf a crep)).param = r.iocrs[crep]?.map (·.param)
  cmioStart : ∀ c, c / PNET_MAX_CR = a → (st'.iocr c).cmioStart = false
  connections : st'.connections = st.connections + 1
  connection : st'.connection = Function.update st.connection a st.connections
  notes : st'.notes = .event st.connections .PNET_EVENT_STARTUP ::
    .connect st.connections r.outputs :: st.notes

/-- The AR has been released again. -/
structure Refused (st : Stack) (a : ℕ) (outputs : List ℕ) (st' : Stack) : Prop where
  inUse : (st'.ar a).inUse = false
  connections : st'.connections = st.connections + 1
  connection : st'.connection = Function.update st.connection a st.connections
  notes : st'.notes = .connect st.connections outputs :: st.notes ∨
    st'.notes = .event st.connections .PNET_EVENT_ABORT ::
      .connect st.connections outputs :: st.notes

theorem allocate_fresh (st : Stack) (a : ℕ) (r : Request) :
    Fresh ((st.allocate a (some r)).setCmdevState a .PF_CMDEV_STATE_W_CRES) a r := by
  have har : ((st.allocate a (some r)).setCmdevState a .PF_CMDEV_STATE_W_CRES).ar a =
      { (st.allocate a (some r)).ar a with cmdevState := .PF_CMDEV_STATE_W_CRES } :=
    Stack.setCmdevState_ar _ _ _
  refine ⟨?_, ?_, fun crep hcrep => ?_, fun c hc => (allocate_cr st (some r) hc).1,
    fun c hc => (allocate_cr st (some r) hc).2.1⟩
  · rw [har, allocate_ar]
  · rw [har, allocate_ar]
    rfl
  · have hlt : crep < PNET_MAX_CR := Nat.lt_of_lt_of_le hcrep r.room
    show ((st.allocate a (some r)).iocr (crOf a crep)).param = _
    rw [allocate_iocr st (some r) (crOf_div a hlt), crOf_mod a hlt]
    show (r.iocrs[crep]?.elim Iocr.zero _).param = _
    rw [List.getElem?_eq_getElem hcrep]
    rfl

/-- What CMIO and CMSM are at rest in does not depend on the rest of the AR. -/
theorem Resting.setAr (h : Resting st a) {x : Ar} (hcmio : x.cmioState = (st.ar a).cmioState)
    (hcmsm : x.cmsmState = (st.ar a).cmsmState) : Resting (st.setAr a x) a := by
  intro k i hk
  have hrest := h k i hk
  cases k with
  | cmio =>
    obtain rfl : i = a := hk
    dsimp only [AtRest, Running] at hrest ⊢
    rw [Stack.setAr_self, hcmio]
    exact hrest
  | cmsm =>
    obtain rfl : i = a := hk
    dsimp only [AtRest, Running] at hrest ⊢
    rw [Stack.setAr_self, hcmsm]
    exact hrest
  | cpm => exact hrest
  | ppm => exact hrest
  | apmx => exact hrest

/-- What the answer to a connect request leaves. -/
def Answered (p : Kind → Prop) (sent : Prop) (st : Stack) (a : ℕ) (r : Request) (st' : Stack) :
    Prop :=
  Good p sent st' ∧ Acts a st st' ∧ (Connected st a r st' ∨ Refused st a r.outputs st')

/-- The AR is told that it has been connected. -/
theorem Opened.connected {st1 : Stack} (h : Good p sent st) (hfree : (st.ar a).inUse = false)
    (ho : Opened p sent ((st.allocate a (some r)).setCmdevState a .PF_CMDEV_STATE_W_CRES) a st1)
    (hs : (st1.setCmdevState a .PF_CMDEV_STATE_W_SUCNF).cmdevStateInd a .PNET_EVENT_STARTUP clock =
      some st') : Answered p sent st a r (st'.setCmdevState a .PF_CMDEV_STATE_W_PEIND) := by
  have hf := allocate_fresh st a r
  have h1 : Good p sent (st1.setCmdevState a .PF_CMDEV_STATE_W_SUCNF) :=
    ho.good.setCmdevState a _ nofun
  have har : (st1.setCmdevState a .PF_CMDEV_STATE_W_SUCNF).ar a =
      { st1.ar a with cmdevState := .PF_CMDEV_STATE_W_SUCNF } := Stack.setCmdevState_ar _ _ _
  have huse : ((st1.setCmdevState a .PF_CMDEV_STATE_W_SUCNF).ar a).inUse = true := by
    rw [har, ho.ar]
    exact hf.inUse
  have hev := Stack.cmdevStateInd_spec h1.tidy (h1.orderly a) huse hs nofun
    (by rw [har]; exact nofun) (fun _ => ho.named) nofun
  rcases hev.outcome with hheard | ⟨hprm, -⟩
  · have hidle : ((st1.setCmdevState a .PF_CMDEV_STATE_W_SUCNF).ar a).cmioState =
        .PF_CMIO_STATE_IDLE := by
      rw [har, ho.ar, Stack.setCmdevState_ar, allocate_ar]
      rfl
    have hstate : (st'.ar a).cmioState = CmioState.PF_CMIO_STATE_STARTUP := by
      rw [hheard.ar, hidle]
      rfl
    have hacts : Acts a st (st'.setCmdevState a .PF_CMDEV_STATE_W_PEIND) := by
      have hfirst := allocate_acts h hfree (some r)
      exact ((((hfirst.trans (setAr_acts hfirst.tidy a _)).trans ho.acts).trans
        (setAr_acts ho.good.tidy a _)).trans hev.acts).trans (setAr_acts hev.acts.tidy a _)
    refine ⟨(h1.acts hev.acts hev.orderly).setCmdevState a _ fun _ => .inr hstate, hacts, .inl ?_⟩
    constructor
    · rw [Stack.setCmdevState_ar, hheard.ar]
      exact huse
    · rw [Stack.setCmdevState_ar]
    · rw [Stack.setCmdevState_ar]
      exact hstate
    · rw [Stack.setCmdevState_ar, hheard.ar, har, ho.ar, Stack.setCmdevState_ar, allocate_ar]
      rfl
    · rw [Stack.setCmdevState_ar, hheard.ar, har, ho.ar]
      exact hf.nbrIocrs
    · intro crep hcrep
      show (st'.iocr _).param = _
      rw [hheard.iocr, ← hf.param crep hcrep, ← ho.param]
      rfl
    · intro c hc
      show (st'.iocr c).cmioStart = false
      by_contra hstart
      have hold := hheard.cmioStart c (Bool.eq_true_of_not_eq_false hstart)
      have hzero := (ho.cmioStart c).trans (allocate_cr st (some r) hc).2.2
      rw [show ((st1.setCmdevState a .PF_CMDEV_STATE_W_SUCNF).iocr c).cmioStart =
        (st1.iocr c).cmioStart from rfl, hzero] at hold
      cases hold
    · show st'.connections = _
      rw [hheard.connections]
      exact ho.connections
    · show st'.connection = _
      rw [hheard.connection]
      exact ho.connection
    · show st'.notes = _
      rw [hheard.notes]
      show Note.event (st1.connection a) _ :: st1.notes = _
      rw [ho.connection, ho.notes]
      show Note.event (Function.update st.connection a st.connections a) _ :: _ = _
      rw [Function.update_self]
      rfl
  · cases hprm

/-- The AR of a CR that could not be started is released. -/
theorem Failed.refused {st1 : Stack} (h : Good p sent st) (hfree : (st.ar a).inUse = false)
    (hf : Failed p ((st.allocate a (some r)).setCmdevState a .PF_CMDEV_STATE_W_CRES) a st1) :
    Answered p sent st a r (((st1.setAr a { st1.ar a with
      cmsuState := .PF_CMSU_STATE_STARTUP }).setCmdevState a .PF_CMDEV_STATE_W_SUCNF).release a) := by
  obtain ⟨st2, hst2⟩ : ∃ st2, st2 = (st1.setAr a { st1.ar a with
      cmsuState := .PF_CMSU_STATE_STARTUP }).setCmdevState a .PF_CMDEV_STATE_W_SUCNF := ⟨_, rfl⟩
  have har : st2.ar a = { st1.ar a with
      cmsuState := .PF_CMSU_STATE_STARTUP
      cmdevState := .PF_CMDEV_STATE_W_SUCNF } := by
    rw [hst2, Stack.setCmdevState_ar, Stack.setAr_self]
  have hsched : st2.sched = st1.sched := by
    rw [hst2]
    rfl
  have hacts : Acts a st st2 := by
    have hfirst := allocate_acts h hfree (some r)
    have hup : Acts a st1 (up st1 a) := setAr_acts hf.acts.tidy a _
    rw [hst2]
    exact (((hfirst.trans (setAr_acts hfirst.tidy a _)).trans hf.acts).trans hup).trans
      (setAr_acts hup.tidy a _)
  have hconnections : st2.connections = st.connections + 1 := by
    rw [hst2]
    exact hf.connections
  have hconnection : st2.connection = Function.update st.connection a st.connections := by
    rw [hst2]
    exact hf.connection
  have hnotes : st2.notes = .connect st.connections r.outputs :: st.notes ∨
      st2.notes = Note.event st.connections .PNET_EVENT_ABORT ::
        .connect st.connections r.outputs :: st.notes := by
    have hn : ((st.allocate a (some r)).setCmdevState a .PF_CMDEV_STATE_W_CRES).connection a =
        st.connections := Function.update_self _ _ _
    have hfn := hf.notes
    rw [hn] at hfn
    rw [hst2]
    exact hfn
  rw [← hst2]
  unfold Stack.release
  rcases hf.ar with huse | ⟨hnot, hrest⟩
  · have huse2 : (st2.ar a).inUse = true := by
      rw [har]
      exact huse
    rw [if_pos huse2]
    have ht2 : timers.Tidy st2.sched := hacts.tidy
    rcases Stack.zeroed_spec ht2 a with ⟨ht, hw, hruns⟩
    have hz : Acts a st2 { st2.zeroed a with sched := (st2.zeroed a).sched } :=
      Stack.zeroed_acts ht hw
    have ho : Orderly p sent { st2.zeroed a with sched := (st2.zeroed a).sched } a :=
      Stack.zeroed_orderly fun k i hp hk => (hruns k i).mpr (by rw [hsched]; exact hf.idle k i hp hk)
    exact ⟨h.acts (hacts.trans hz) ho, hacts.trans hz,
      .inr ⟨Stack.zeroed_inUse _ a, hconnections, hconnection, hnotes⟩⟩
  · have hnot2 : (st2.ar a).inUse = false := by
      rw [har]
      exact hnot
    rw [if_neg (by rw [hnot2]; exact Bool.false_ne_true)]
    have hrest2 : Resting st2 a := by
      have hup : Resting (up st1 a) a := hrest.setAr rfl rfl
      rw [hst2]
      exact hup.setAr rfl rfl
    refine ⟨h.acts hacts (.of_rest ?_ hrest2 ?_), hacts, .inr ⟨hnot2, hconnections, hconnection, hnotes⟩⟩
    · intro huse
      exact absurd (hnot2.symm.trans huse) Bool.false_ne_true
    · rw [hsched]
      exact hf.idle

theorem cmdevCmConnectRspPos_spec (h : Good p sent st) (hfree : (st.ar a).inUse = false)
    (hstarts : p .cpm → Starts st r allocated) {q : ℤ × Stack}
    (hq : (st.allocate a (some r)).cmdevCmConnectRspPos a allocated clock = some q) :
    Answered p sent st a r (if q.1 = 0 then q.2 else q.2.release a) := by
  rcases Option.bind_eq_some_iff.mp hq with ⟨q1, hq1, hq⟩
  rcases Option.map_eq_some_iff.mp hq1 with ⟨q2, hq2, rfl⟩
  have hf := allocate_fresh st a r
  have h1 : Good p sent ((st.allocate a (some r)).setCmdevState a .PF_CMDEV_STATE_W_CRES) :=
    (allocate_good h hfree (some r)).setCmdevState a _ nofun
  have hrest : Resting ((st.allocate a (some r)).setCmdevState a .PF_CMDEV_STATE_W_CRES) a :=
    (allocate_resting st a (some r)).setAr rfl rfl
  rcases startIocrs_spec hf (h1.up hrest) hrest hstarts hq2 with ⟨hzero, hst⟩ | ⟨hnz, hfailed⟩
  · dsimp only at hq
    rw [if_pos hzero, if_pos hzero] at hq
    rcases Option.map_eq_some_iff.mp hq with ⟨st2, hst2, rfl⟩
    exact (hst.opened hf).connected h hfree hst2
  · dsimp only at hq
    rw [if_neg hnz, if_neg hnz] at hq
    obtain rfl := Option.some.inj hq
    rw [if_neg hnz]
    exact hfailed.refused h hfree

/-- What a connect request does. -/
inductive Connects (st : Stack) (request : Option Request) (st' : Stack) : Prop where
  /-- There is no AR for it. -/
  | full (same : st' = st)
  | connected (a : ℕ) (r : Request) (free : (st.ar a).inUse = false) (acts : Acts a st st')
    (connected : Connected st a r st')
  | refused (a : ℕ) (free : (st.ar a).inUse = false) (acts : Acts a st st')
    (refused : Refused st a (request.elim [] Request.outputs) st')
  | idle (a : ℕ) (r : Request) (free : (st.ar a).inUse = false)
    (same : st' = (st.allocate a (some r)).setCmdevState a .PF_CMDEV_STATE_W_CIND)
  /-- An AR has the same UUID, and is aborted. -/
  | duplicate (a a2 : ℕ) (r : Request) (st1 : Stack) (free : (st.ar a).inUse = false)
    (used : (st.ar a2).inUse = true) (aborted : (st.allocate a (some r)).abort a2 = some st1)
    (same : st' = st1.release a)

theorem freeAr_free {a : ℕ} (h : st.freeAr = some a) : (st.ar a).inUse = false := by
  have hfree := List.find?_some h
  simpa using hfree

/-- The AR that has just been allocated is not found. -/
theorem arFindByUuid_allocate (st : Stack) (a : ℕ) (request : Option Request)
    (hfree : (st.ar a).inUse = false) (uuid : Rpc.Uuid) :
    (st.allocate a request).arFindByUuid uuid = st.arFindByUuid uuid := by
  unfold Stack.arFindByUuid
  congr 1
  funext a'
  by_cases ha' : a' = a
  · rw [ha', allocate_ar, hfree]
    simp [Ar.zero]
  · have har : (st.allocate a request).ar a' = st.ar a' :=
      (Function.update_of_ne ha' _ _).trans (Function.update_of_ne ha' _ _)
    rw [har]

theorem arFindByUuid_used {uuid : Rpc.Uuid} {a : ℕ} (h : st.arFindByUuid uuid = some a) :
    (st.ar a).inUse = true := by
  have hfound := List.find?_some h
  simp only [decide_eq_true_eq] at hfound
  exact hfound.1

/-- A request that is refused at once. -/
theorem release_refused (h : Good p sent st) (hfree : (st.ar a).inUse = false)
    (request : Option Request) :
    Good p sent ((st.allocate a request).release a) ∧
      Acts a st ((st.allocate a request).release a) ∧
      Refused st a (request.elim [] Request.outputs) ((st.allocate a request).release a) := by
  have h1 := allocate_good h hfree request
  have hidle (k : Kind) (i : ℕ) (hp : p k) (hk : ofAr a k i) :
      timers.Idle (st.allocate a request).sched k i :=
    h1.idle_of_rest (allocate_resting st a request k i hk).1 hp
  have huse : ((st.allocate a request).ar a).inUse = true := by rw [allocate_ar]
  have hrelease : (st.allocate a request).release a = (st.allocate a request).zeroed a :=
    if_pos huse
  rw [hrelease]
  rcases Stack.zeroed_spec h1.tidy a with ⟨ht, hw, -⟩
  have hz : Acts a (st.allocate a request) { (st.allocate a request).zeroed a with
      sched := ((st.allocate a request).zeroed a).sched } := Stack.zeroed_acts ht hw
  exact ⟨h1.zeroed hidle, (allocate_acts h hfree request).trans hz, Stack.zeroed_inUse _ a, rfl, rfl,
    .inl rfl⟩

theorem connect_spec (h : Good p sent st) {request : Option Request} {verdict : Verdict}
    (hstops : p .cmio → Stops st (.connect request verdict allocated clock))
    (hcompletes : p .cpm → Completes st (.connect request verdict allocated clock))
    (hs : st.cmrpcRmConnectInd request verdict allocated clock = some st') :
    Good p sent st' ∧ Connects st request st' := by
  unfold Stack.cmrpcRmConnectInd at hs
  cases hfreeAr : st.freeAr with
  | none =>
    rw [hfreeAr] at hs
    obtain rfl : st = st' := Option.some.inj hs
    exact ⟨h, .full rfl⟩
  | some a =>
    have hfree := freeAr_free hfreeAr
    have h1 := allocate_good h hfree request
    have hrefused (hs : some ((st.allocate a request).release a) = some st') :
        Good p sent st' ∧ Connects st request st' := by
      obtain rfl := Option.some.inj hs
      rcases release_refused h hfree request with ⟨hgood, hacts, hrefused⟩
      exact ⟨hgood, .refused a hfree hacts hrefused⟩
    rw [hfreeAr] at hs
    cases request with
    | none => exact hrefused hs
    | some r =>
      dsimp only [Option.elim_some] at hs
      rw [arFindByUuid_allocate st a (some r) hfree] at hs
      cases hfound : st.arFindByUuid r.arParam.arUuid with
      | some a2 =>
        rw [hfound] at hs
        rcases Option.map_eq_some_iff.mp hs with ⟨st1, hst1, rfl⟩
        have hused := arFindByUuid_used hfound
        have hne : a2 ≠ a := by
          rintro rfl
          exact absurd (hfree.symm.trans hused) Bool.false_ne_true
        have har : (st.allocate a (some r)).ar a2 = st.ar a2 :=
          (Function.update_of_ne hne _ _).trans (Function.update_of_ne hne _ _)
        have hpoll (hp : p .cmio) : timers.Idle (st.allocate a (some r)).sched .cmio a2 := by
          rcases allocate_sched h hfree (some r) with ⟨-, hw, -, -⟩
          rw [hw.idle (show ¬ ofAr a .cmio a2 from hne)]
          refine (noTimer_iff st .cmio a2).mp (hstops hp a2 ?_)
          show a2 ∈ st.freeAr.bind fun _ => st.arFindByUuid r.arParam.arUuid
          rw [hfreeAr]
          exact hfound
        have huse2 : ((st.allocate a (some r)).ar a2).inUse = true := by
          rw [har]
          exact hused
        have h2 := h1.aborted huse2 hpoll hst1
        refine ⟨h2.release fun k i hp hk => ?_, .duplicate a a2 r st1 hfree hused hst1 rfl⟩
        -- the AR that has been allocated is untouched by the ABORT of the other one
        have hu := (Stack.abort_orderly h1.tidy huse2 (fun k i => (h1.orderly a2).stops hpoll)
          hst1 : Acts a2 _ st1 ∧ Orderly p sent st1 a2 ∧ _).1.others a (Ne.symm hne)
        rw [hu.timers.idle (not_not_intro hk)]
        exact h1.idle_of_rest (allocate_resting st a (some r) k i hk).1 hp
      | none =>
        rw [hfound] at hs
        dsimp only at hs
        by_cases hsecond : 1 < a + 1
        · rw [if_pos hsecond] at hs
          exact hrefused hs
        · rw [if_neg hsecond] at hs
          cases verdict with
          | refused => exact hrefused hs
          | idle =>
            obtain rfl := Option.some.inj hs
            exact ⟨h1.setCmdevState a _ nofun, .idle a r hfree rfl⟩
          | accepted =>
            rcases Option.map_eq_some_iff.mp hs with ⟨q, hq, rfl⟩
            have hstarts (hp : p .cpm) : Starts st r allocated := by
              refine hcompletes hp ?_ hfound
              rw [hfreeAr]
              congr 1
              omega
            rcases cmdevCmConnectRspPos_spec h hfree hstarts hq with
              ⟨hgood, hacts, hconnected | hrefused⟩
            · exact ⟨hgood, .connected a r hfree hacts hconnected⟩
            · exact ⟨hgood, .refused a hfree hacts hrefused⟩

end PNet.LifeCycle
