import Mathlib.Logic.Function.Basic
import Mathlib.Data.Int.Notation
import PNet.Options

/-! # The scheduler

`pf_scheduler.c`: a fixed pool of `PF_MAX_TIMEOUTS` timers, linked through
indices into a free list and a busy list. The busy list is kept in order of
expiry, and the tick runs the call-backs of the timers at its front.

* An index of `PF_MAX_TIMEOUTS` or more means "none", as in the source.
* Times are 32-bit counters of microseconds, compared by signed difference.
* A failing `CC_ASSERT` ends the program; a function that contains one returns
  an `Option`, with `none` for that end.
* Each function reads the clock once, at its start; the reading is its argument
  `now`. The mutex is left out: the calls of a run follow each other.
-/

namespace PNet.Scheduler

/-- The address of a name. The source compares names as pointers, not as text. -/
abbrev Name := ℕ

/-- Microseconds, 32 bits wide. -/
abbrev Time := BitVec 32

/-- The address of the text `"<free>"`. -/
def freeName : Name := 1

/-- What a timer runs: the call-back and its argument. -/
structure Job where
  cb : ℕ
  arg : ℕ
deriving DecidableEq, Repr

/-- `pf_scheduler_timeouts_t`. -/
structure Timeout where
  name : Name
  inUse : Bool
  /-- Absolute time of the timeout. -/
  when : Time
  next : ℕ
  prev : ℕ
  job : Job
deriving DecidableEq, Repr

/-- An entry after `memset` to zero. -/
def zeroTimeout : Timeout := ⟨0, false, 0, 0, 0, ⟨0, 0⟩⟩

/-- `pf_scheduler_handle_t`. -/
structure Handle where
  name : Name
  timerIndex : ℕ
deriving DecidableEq, Repr

def UINT32_MAX : ℕ := 2 ^ 32 - 1

/-- The array `scheduler_timeouts`. -/
abbrev Timeouts := ℕ → Timeout

def Timeouts.setNext (ts : Timeouts) (i v : ℕ) : Timeouts :=
  Function.update ts i { ts i with next := v }

def Timeouts.setPrev (ts : Timeouts) (i v : ℕ) : Timeouts :=
  Function.update ts i { ts i with prev := v }

def Timeouts.setInUse (ts : Timeouts) (i : ℕ) (b : Bool) : Timeouts :=
  Function.update ts i { ts i with inUse := b }

def Timeouts.setName (ts : Timeouts) (i : ℕ) (n : Name) : Timeouts :=
  Function.update ts i { ts i with name := n }

/-- The fields `pf_scheduler_add` fills in. -/
def Timeouts.setTimer (ts : Timeouts) (i : ℕ) (n : Name) (j : Job) (w : Time) : Timeouts :=
  Function.update ts i { ts i with inUse := true, name := n, job := j, when := w }

/-! ## Lists through the pool -/

/-- The loop of `pf_scheduler_is_linked`, with `left` rounds until its assertion
`cnt < PF_MAX_TIMEOUTS` fails. -/
def pfSchedulerIsLinkedLoop (ts : Timeouts) (ix : ℕ) : ℕ → ℕ → Bool → Option Bool
  | left, first, ret =>
    if first < PF_MAX_TIMEOUTS then
      match left with
      | 0 => none
      | left + 1 =>
        pfSchedulerIsLinkedLoop ts ix left (ts first).next (if first = ix then true else ret)
    else
      some ret

def pfSchedulerIsLinked (ts : Timeouts) (first ix : ℕ) : Option Bool :=
  if ix < PF_MAX_TIMEOUTS then
    pfSchedulerIsLinkedLoop ts ix PF_MAX_TIMEOUTS first false
  else
    some false

/-- The links as `pf_scheduler_unlink` leaves them, with the new head `*p_q`. -/
def unlinkNode (ts : Timeouts) (q ix : ℕ) : Timeouts × ℕ :=
  let prevIx := (ts ix).prev
  let nextIx := (ts ix).next
  let q' := if q = ix then nextIx else q
  let ts1 := if nextIx < PF_MAX_TIMEOUTS then ts.setPrev nextIx prevIx else ts
  let ts2 := if prevIx < PF_MAX_TIMEOUTS then ts1.setNext prevIx nextIx else ts1
  (ts2, q')

/-- `pf_scheduler_unlink`: the pool and `*p_q` after the call. -/
def pfSchedulerUnlink (ts : Timeouts) (q ix : ℕ) : Option (Timeouts × ℕ) :=
  if PF_MAX_TIMEOUTS ≤ ix then
    some (ts, q)
  else
    (pfSchedulerIsLinked ts q ix).bind fun linked =>
      if linked = false then some (ts, q) else some (unlinkNode ts q ix)

/-- Put `ix` first in a possibly non-empty queue. -/
def linkFirst (ts : Timeouts) (q ix : ℕ) : Timeouts × ℕ :=
  let ts1 := (ts.setPrev ix PF_MAX_TIMEOUTS).setNext ix q
  let ts2 := if q < PF_MAX_TIMEOUTS then ts1.setPrev q ix else ts1
  (ts2, ix)

/-- Put `ix` into an empty queue. -/
def linkOnly (ts : Timeouts) (ix : ℕ) : Timeouts × ℕ :=
  ((ts.setPrev ix PF_MAX_TIMEOUTS).setNext ix PF_MAX_TIMEOUTS, ix)

/-- The last branch of `pf_scheduler_link_after`. -/
def linkAfterPos (ts : Timeouts) (q ix pos : ℕ) : Timeouts × ℕ :=
  let nextIx := (ts pos).next
  let ts1 := if nextIx < PF_MAX_TIMEOUTS then ts.setPrev nextIx ix else ts
  let ts2 := ts1.setNext pos ix
  ((ts2.setPrev ix pos).setNext ix nextIx, q)

/-- The last branch of `pf_scheduler_link_before`. -/
def linkBeforePos (ts : Timeouts) (q ix pos : ℕ) : Timeouts × ℕ :=
  let prevIx := (ts pos).prev
  let ts1 := if prevIx < PF_MAX_TIMEOUTS then ts.setNext prevIx ix else ts
  let ts2 := ts1.setPrev pos ix
  ((ts2.setNext ix pos).setPrev ix prevIx, if q = pos then ix else q)

/-- The branches that `pf_scheduler_link_after` and `pf_scheduler_link_before`
share; `atPos` is the one in which they differ. -/
def linkAt (atPos : Timeouts → ℕ → ℕ → ℕ → Timeouts × ℕ) (ts : Timeouts) (q ix pos : ℕ) :
    Option (Timeouts × ℕ) :=
  if PF_MAX_TIMEOUTS ≤ ix then
    some (ts, q)
  else
    (pfSchedulerIsLinked ts q ix).bind fun linked =>
      if linked = true then some (ts, q)
      else if PF_MAX_TIMEOUTS ≤ pos then some (linkFirst ts q ix)
      else if PF_MAX_TIMEOUTS ≤ q then some (linkOnly ts ix)
      else some (atPos ts q ix pos)

def pfSchedulerLinkAfter : Timeouts → ℕ → ℕ → ℕ → Option (Timeouts × ℕ) :=
  linkAt linkAfterPos

def pfSchedulerLinkBefore : Timeouts → ℕ → ℕ → ℕ → Option (Timeouts × ℕ) :=
  linkAt linkBeforePos

/-! ## The state -/

/-- The scheduler's part of `pnet_t`, and the handles that its users hold. -/
structure St where
  timeouts : Timeouts
  /-- `scheduler_timeout_first`, the head of the busy list. -/
  first : ℕ
  /-- `scheduler_timeout_free`, the head of the free list. -/
  free : ℕ
  tickInterval : Time
  handles : ℕ → Handle

/-- The busy list changes: its head is passed as `p_q`. -/
def St.onBusy (s : St) (r : Timeouts × ℕ) : St := { s with timeouts := r.1, first := r.2 }

/-- The free list changes. -/
def St.onFree (s : St) (r : Timeouts × ℕ) : St := { s with timeouts := r.1, free := r.2 }

def St.setHandle (s : St) (h : ℕ) (v : Handle) : St :=
  { s with handles := Function.update s.handles h v }

/-! ## Handles -/

def pfSchedulerResetHandle (s : St) (h : ℕ) : St :=
  s.setHandle h { s.handles h with timerIndex := UINT32_MAX }

def pfSchedulerInitHandle (s : St) (h : ℕ) (name : Name) : St :=
  s.setHandle h ⟨name, UINT32_MAX⟩

def pfSchedulerIsRunning (s : St) (h : ℕ) : Bool :=
  if (s.handles h).timerIndex = UINT32_MAX then false else true

/-! ## Delays -/

def PF_SCHEDULER_MAX_DELAY_US : Time := 100000000#32

def pfSchedulerSanitizeDelay (wantedDelay stackCycleTime : Time)
    (scheduleHalfTickInAdvance : Bool) : Option Time :=
  if ¬ 0#32 < stackCycleTime then none
  else
    let wanted := if PF_SCHEDULER_MAX_DELAY_US < wantedDelay then 0#32 else wantedDelay
    let ticks : Time :=
      if stackCycleTime + stackCycleTime / 2#32 < wanted then
        (wanted + stackCycleTime / 2#32) / stackCycleTime
      else 1#32
    if ¬ (1#32 ≤ ticks ∧ ticks < 0x80000000#32) then none
    else
      let delay := ticks * stackCycleTime
      some (if scheduleHalfTickInAdvance then delay - stackCycleTime / 2#32 else delay)

/-! ## Timers -/

/-- The loop of `pf_scheduler_init`: entries `n - 1`, …, `0` go to the front of
the free list. -/
def pfSchedulerInitLoop : ℕ → Timeouts → ℕ → Option (Timeouts × ℕ)
  | 0, ts, free => some (ts, free)
  | n + 1, ts, free =>
    (pfSchedulerLinkBefore ((ts.setName n freeName).setInUse n false) free n free).bind fun r =>
      pfSchedulerInitLoop n r.1 r.2

def pfSchedulerInit (s : St) (tickInterval : Time) : Option St :=
  if ¬ 0#32 < tickInterval then none
  else
    (pfSchedulerInitLoop PF_MAX_TIMEOUTS (fun _ => zeroTimeout) PF_MAX_TIMEOUTS).map fun r =>
      { s with
        timeouts := r.1, first := PF_MAX_TIMEOUTS, free := r.2, tickInterval := tickInterval }

/-- `(int32_t) (a - b)`. -/
def diff (a b : Time) : ℤ := (a - b).toInt

/-- The search loop of `pf_scheduler_add`: the position after which a timer that
expires at `w` is put, given `ix_prev` and `ix_this`. -/
def findPos (ts : Timeouts) (w : Time) : ℕ → ℕ → ℕ → ℕ
  | 0, ixPrev, _ => ixPrev
  | left + 1, ixPrev, ixThis =>
    if ixThis < PF_MAX_TIMEOUTS ∧ 0 < diff w (ts ixThis).when then
      findPos ts w left ixThis (ts ixThis).next
    else ixPrev

/-- The second half of `pf_scheduler_add`: `ix` goes into the busy list. -/
def linkBusy (ts : Timeouts) (first ix : ℕ) : Option (Timeouts × ℕ) :=
  if PF_MAX_TIMEOUTS ≤ first then
    pfSchedulerLinkBefore ts first ix PF_MAX_TIMEOUTS
  else if diff (ts ix).when (ts first).when ≤ 0 then
    pfSchedulerLinkBefore ts first ix first
  else
    pfSchedulerLinkAfter ts first ix
      (findPos ts (ts ix).when PF_MAX_TIMEOUTS first (ts first).next)

/-- `pf_scheduler_add`, with its return value. -/
def pfSchedulerAdd (s : St) (delay : Time) (job : Job) (h : ℕ) (now : Time) :
    Option (ℤ × St) :=
  (pfSchedulerSanitizeDelay delay s.tickInterval true).bind fun delay =>
  let ixFree := s.free
  (pfSchedulerUnlink s.timeouts s.free ixFree).bind fun r =>
  let s1 := s.onFree r
  if PF_MAX_TIMEOUTS ≤ ixFree then
    some (-1, s1.setHandle h { s1.handles h with timerIndex := UINT32_MAX })
  else
    let ts := s1.timeouts.setTimer ixFree (s1.handles h).name job (now + delay)
    (linkBusy ts s1.first ixFree).map fun r =>
      (0, (s1.onBusy r).setHandle h { s1.handles h with timerIndex := ixFree + 1 })

/-- Entry `ix` goes from the busy list to the free list, as in
`pf_scheduler_remove` and `pf_scheduler_tick`. -/
def moveToFree (s : St) (ix : ℕ) : Option St :=
  (pfSchedulerUnlink s.timeouts s.first ix).bind fun r =>
  let s1 := s.onBusy r
  (pfSchedulerLinkBefore (s1.timeouts.setInUse ix false) s1.free ix s1.free).map s1.onFree

/-- `pf_scheduler_remove`. The index is a `uint16_t` there. -/
def pfSchedulerRemove (s : St) (h : ℕ) : Option St :=
  let hd := s.handles h
  if hd.timerIndex = 0 ∨ PF_MAX_TIMEOUTS < hd.timerIndex then some s
  else
    let ix := (hd.timerIndex - 1) % 2 ^ 16
    if (s.timeouts ix).name ≠ hd.name then some s
    else if (s.timeouts ix).inUse = false then some s
    else (moveToFree s ix).map fun s' => s'.setHandle h { hd with timerIndex := UINT32_MAX }

def pfSchedulerRemoveIfRunning (s : St) (h : ℕ) : Option St :=
  if pfSchedulerIsRunning s h then pfSchedulerRemove s h else some s

def pfSchedulerRestart (s : St) (delay : Time) (job : Job) (h : ℕ) (now : Time) :
    Option (ℤ × St) :=
  (pfSchedulerRemoveIfRunning s h).bind fun s' => pfSchedulerAdd s' delay job h now

/-! ## Calls and ticks -/

/-- What a user of the scheduler, a call-back included, can ask of it. -/
inductive Call where
  | initHandle (h : ℕ) (name : Name)
  | resetHandle (h : ℕ)
  | add (delay : Time) (job : Job) (h : ℕ) (now : Time)
  | restart (delay : Time) (job : Job) (h : ℕ) (now : Time)
  | remove (h : ℕ)
  | removeIfRunning (h : ℕ)
deriving DecidableEq, Repr

def doCall (s : St) : Call → Option St
  | .initHandle h name => some (pfSchedulerInitHandle s h name)
  | .resetHandle h => some (pfSchedulerResetHandle s h)
  | .add delay job h now => (pfSchedulerAdd s delay job h now).map Prod.snd
  | .restart delay job h now => (pfSchedulerRestart s delay job h now).map Prod.snd
  | .remove h => pfSchedulerRemove s h
  | .removeIfRunning h => pfSchedulerRemoveIfRunning s h

def doCalls (s : St) : List Call → Option St
  | [] => some s
  | c :: cs => (doCall s c).bind fun s' => doCalls s' cs

/-- The loop condition of `pf_scheduler_tick`. -/
def expired (s : St) (now : Time) : Bool :=
  decide (s.first < PF_MAX_TIMEOUTS ∧ 0 ≤ diff now (s.timeouts s.first).when)

/-- A pending timer, as its user sees it: its entry, its expiry and its job. -/
structure Timer where
  ix : ℕ
  when : Time
  job : Job
deriving DecidableEq, Repr

def timerAt (s : St) (ix : ℕ) : Timer := ⟨ix, (s.timeouts ix).when, (s.timeouts ix).job⟩

/-- One round of the tick's loop, for the theorems to talk about. -/
structure Round where
  /-- The state in which the loop condition was true. -/
  found : St
  /-- The state in which the call-back of the first timer starts. -/
  start : St
  /-- What that call-back asks of the scheduler. -/
  calls : List Call
  /-- The state in which it returns. -/
  finish : St

/-- The timer that the round runs. -/
def Round.fired (r : Round) : Timer := timerAt r.found r.found.first

/-- The loop of `pf_scheduler_tick`. What a call-back does is not the scheduler's:
the call-back run as the `k`-th makes the calls of the `k`-th list of `script`
(none when the script is shorter), so the scripts range over all that call-backs
can do. -/
def pfSchedulerTickLoop (now : Time) : ℕ → List (List Call) → St → Option (List Round × St)
  | 0, _, s => some ([], s)
  | left + 1, script, s =>
    if expired s now then
      (moveToFree s s.first).bind fun s1 =>
      (doCalls s1 (script.headD [])).bind fun s2 =>
      (pfSchedulerTickLoop now left script.tail s2).map fun r =>
        (⟨s, s1, script.headD [], s2⟩ :: r.1, r.2)
    else some ([], s)

/-- `pf_scheduler_tick`: the rounds of its loop, in order, and the state it leaves.
Past the end of the script every round takes a timer out of the busy list and puts
none in, so the bound on the rounds is never reached (`tick_done`). -/
def pfSchedulerTick (now : Time) (script : List (List Call)) (s : St) :
    Option (List Round × St) :=
  pfSchedulerTickLoop now (script.length + PF_MAX_TIMEOUTS + 1) script s

/-! ## Runs -/

inductive Step where
  | init (tickInterval : Time)
  | call (c : Call)
  | tick (now : Time) (script : List (List Call))
deriving Repr

def doStep (s : St) : Step → Option St
  | .init tickInterval => pfSchedulerInit s tickInterval
  | .call c => doCall s c
  | .tick now script => (pfSchedulerTick now script s).map Prod.snd

/-- `none` when an assertion has ended the program. -/
def run (s : St) : List Step → Option St
  | [] => some s
  | a :: as => (doStep s a).bind fun s' => run s' as

end PNet.Scheduler
