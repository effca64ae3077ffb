import PNet.Dcp.Timers

/-! # One response to each Identify

The response to an Identify waits in its buffer, the argument of a timer. There is one flag for all
responses that wait: the first that is sent clears it, and another one is then neither sent nor
freed. As long as one response waits at a time, and buffer and timer are there, each request that
matches has exactly one response.
-/

namespace PNet.Dcp

open Block Cmina Scheduler CircularTime

/-! ## Addresses and identifiers -/

/-- The transaction of a request. -/
def Frame.xid (f : Frame) : List Byte := Buffer.slice f.bytes (f.dcpHdrPos + 2) 4

namespace Response

def dest (rsp : Response) : List Byte := Buffer.slice rsp.bytes 0 6
def xid (rsp : Response) : List Byte := Buffer.slice rsp.bytes 18 4

end Response

/-- The blocks of an answer, and the length of its data, are behind its header. -/
theorem answer_header (ase : DcpAse) (f : Frame) (frameId : BitVec 16) (serviceType : Byte)
    (fresh : ℕ → Byte) (blocks : List AnswerBlock) {i : ℕ} (hi : i < dataLengthPos) :
    (answer ase f frameId serviceType fresh blocks).bytes i =
      Buffer.write fresh 0 (answerHeader ase f frameId serviceType) i := by
  have hlt : i < dstStart := Nat.lt_trans hi (by decide)
  unfold answer
  dsimp only
  rw [Buffer.write_outside (.inl hi)]
  exact (putBlocks_grows PF_FRAME_BUFFER_SIZE blocks
    ⟨Buffer.write fresh 0 (answerHeader ase f frameId serviceType), dstStart⟩).2 i hlt

/-- Bytes that have been written between others. -/
theorem slice_write_between (b : ℕ → Byte) (xs ys zs : List Byte) :
    Buffer.slice (Buffer.write b 0 (xs ++ (ys ++ zs))) xs.length ys.length = ys := by
  rw [Buffer.write_append, Buffer.write_append, Nat.zero_add,
    Buffer.slice_write_disjoint (.inl (Nat.le_refl _)), Buffer.slice_write_self]

/-- An answer goes to the source of its request, and bears its transaction. -/
theorem answer_addressed (ase : DcpAse) (f : Frame) (frameId : BitVec 16) (serviceType : Byte)
    (fresh : ℕ → Byte) (blocks : List AnswerBlock) :
    (answer ase f frameId serviceType fresh blocks).dest = f.src ∧
      (answer ase f frameId serviceType fresh blocks).xid = f.xid := by
  have hheader := @answer_header ase f frameId serviceType fresh blocks
  have hsrc : f.src.length = 6 := Buffer.slice_length _ _ _
  have hmac : (field ase.macAddress 6).bytes.length = 6 := Buffer.slice_length _ _ _
  have hxid : f.xid.length = 4 := Buffer.slice_length _ _ _
  constructor
  · have hslice := slice_write_between fresh [] f.src ((field ase.macAddress 6).bytes ++
      bytes16 true PNAL_ETHTYPE_PROFINET ++ bytes16 true frameId ++ [f.serviceId, serviceType] ++
      f.xid ++ bytes16 true 0 ++ Buffer.slice f.bytes (f.dcpHdrPos + 8) 2)
    rw [hsrc] at hslice
    refine (Buffer.slice_congr fun i _ hlt => ?_).trans hslice
    rw [hheader (Nat.lt_of_lt_of_le hlt (by decide))]
    simp [answerHeader, Frame.xid]
  · have hslice := slice_write_between fresh (f.src ++ (field ase.macAddress 6).bytes ++
      bytes16 true PNAL_ETHTYPE_PROFINET ++ bytes16 true frameId ++ [f.serviceId, serviceType])
      f.xid (bytes16 true 0 ++ Buffer.slice f.bytes (f.dcpHdrPos + 8) 2)
    simp only [List.length_append, hsrc, hmac, hxid, bytes16_length, List.length_cons,
      List.length_nil] at hslice
    refine (Buffer.slice_congr fun i _ hlt => ?_).trans hslice
    rw [hheader (Nat.lt_of_lt_of_le hlt (by decide))]
    simp [answerHeader, Frame.xid]

/-! ## What the delay is for -/

/-- The response that a request asks for. -/
def Event.response? : Event → Option Response
  | .identify dev f fresh _ _ => identifyAnswer dev f fresh
  | _ => none

/-- The buffers that wait. -/
def delayed (st : Stack) : List ℕ := (owned st.sched identrespName).map fun timer => timer.job.arg

/-- Each request that matches has one response. -/
structure AnswersOnce (tickInterval : Time) (es : List Event) : Prop where
  /-- It has been sent or it waits, in the order of the requests. -/
  once : ∀ st, runInit tickInterval es = some st →
    (st.sent ++ delayed st).map st.payload = (es.filterMap Event.response?).map some
  /-- Each buffer has been freed once, or it waits; of those freed the ones with a response have been
  sent, once. -/
  buffers : ∀ st, runInit tickInterval es = some st →
    (st.freed ++ delayed st).Perm (List.range' 1 (st.nextBuffer - 1)) ∧
      st.sent = st.freed.filter fun rsp => (st.payload rsp).isSome
  /-- It goes to the source of its request, and bears its transaction. -/
  addressed : ∀ dev f fresh hasBuffer now rsp, .identify dev f fresh hasBuffer now ∈ es →
    identifyAnswer dev f fresh = some rsp → rsp.dest = f.src ∧ rsp.xid = f.xid
  /-- It does not wait when its delay is over and a tick has ended since. -/
  sends : ∀ st now, runInit tickInterval es = some st →
    (∀ st0, init tickInterval = some st0 → NearFrom st0 es) → Near [now] st.sched →
    expired st.sched now = false → ∀ timer ∈ owned st.sched identrespName,
      ¬ 0 ≤ diff now timer.when

/-- A request that matches gets a buffer and a timer, and finds no response waiting. -/
def Answerable (st : Stack) (e : Event) : Prop :=
  ∀ dev f fresh hasBuffer now rsp, e = .identify dev f fresh hasBuffer now →
    identifyAnswer dev f fresh = some rsp →
      hasBuffer = true ∧ st.delayedResponseWaiting = false ∧ st.sched.free < PF_MAX_TIMEOUTS

/-! ## One step -/

/-- The responses `rsps` have been sent, or the last one waits. -/
structure Answering (tickInterval : Time) (st : Stack) (rsps : List Response) : Prop
    extends Inv tickInterval st where
  waiting : (owned st.sched identrespName = [] ∧ st.delayedResponseWaiting = false) ∨
    ∃ timer, owned st.sched identrespName = [timer] ∧ st.delayedResponseWaiting = true
  payloads : (st.sent ++ delayed st).map st.payload = rsps.map some
  buffers : (st.freed ++ delayed st).Perm (List.range' 1 (st.nextBuffer - 1))
  sent : st.sent = st.freed.filter fun rsp => (st.payload rsp).isSome
  nextBuffer : 0 < st.nextBuffer
  unused : ∀ rsp, st.nextBuffer ≤ rsp → st.payload rsp = none

section
variable {tickInterval now : Time} {st st' : Stack} {rsps : List Response}

theorem Answering.of_same (h : Answering tickInterval st rsps) (hinv : Inv tickInterval st')
    (hsame : SameTimer identrespTimeout identrespName st.sched st'.sched)
    (hst : ∃ sam, st' = { st with sam, sched := st'.sched }) :
    Answering tickInterval st' rsps := by
  rcases hst with ⟨sam, hst⟩
  have hdelayed : delayed st' = delayed st := by rw [delayed, delayed, hsame.owned]
  generalize st'.sched = s' at hsame hst
  subst hst
  constructor
  · exact hinv
  · have howned : owned s' identrespName = owned st.sched identrespName := hsame.owned
    show (owned s' identrespName = [] ∧ _) ∨ ∃ timer, owned s' identrespName = [timer] ∧ _
    rw [howned]
    exact h.waiting
  · rw [hdelayed]
    exact h.payloads
  · rw [hdelayed]
    exact h.buffers
  · exact h.sent
  · exact h.nextBuffer
  · exact h.unused

/-- The buffers in use are those allocated so far. -/
theorem Answering.mem_buffers (h : Answering tickInterval st rsps) {rsp : ℕ} :
    rsp ∈ st.freed ++ delayed st ↔ 1 ≤ rsp ∧ rsp < st.nextBuffer := by
  have hpos := h.nextBuffer
  rw [h.buffers.mem_iff, List.mem_range'_1]
  omega

theorem Answering.range_next (h : Answering tickInterval st rsps) :
    List.range' 1 (st.nextBuffer + 1 - 1) =
      List.range' 1 (st.nextBuffer - 1) ++ [st.nextBuffer] := by
  have hpos := h.nextBuffer
  have hnext : st.nextBuffer + 1 - 1 = st.nextBuffer - 1 + 1 := by omega
  have hlast : 1 + (st.nextBuffer - 1) = st.nextBuffer := by omega
  rw [hnext, List.range'_1_concat, hlast]

theorem init_answering (h : init tickInterval = some st) : Answering tickInterval st [] := by
  rcases Option.map_eq_some_iff.mp h with ⟨s, hs, heq⟩
  rcases init_inv h with ⟨hinv, hpending, -, hwaiting, hsent, hfreed, hnext⟩
  have hnone : owned st.sched identrespName = [] := by rw [owned, hpending]; rfl
  have hdelayed : delayed st = [] := by rw [delayed, hnone]; rfl
  constructor
  · exact hinv
  · exact .inl ⟨hnone, hwaiting⟩
  · rw [hsent, hdelayed]
    rfl
  · rw [hfreed, hdelayed, hnext]
    exact List.Perm.refl _
  · rw [hsent, hfreed]
    rfl
  · omega
  · intro rsp _
    rw [← heq]

/-- A request that does not match gives its buffer back. -/
theorem Answering.drop (h : Answering tickInterval st rsps)
    (hinv : Inv tickInterval { st with
      nextBuffer := st.nextBuffer + 1, freed := st.freed ++ [st.nextBuffer] }) :
    Answering tickInterval { st with
      nextBuffer := st.nextBuffer + 1, freed := st.freed ++ [st.nextBuffer] } rsps := by
  constructor
  · exact hinv
  · exact h.waiting
  · exact h.payloads
  · show (st.freed ++ [st.nextBuffer] ++ delayed st).Perm _
    rw [h.range_next, List.append_assoc]
    refine (List.Perm.append_left _ List.perm_append_comm).trans ?_
    rw [← List.append_assoc]
    exact h.buffers.append_right _
  · show st.sent = (st.freed ++ [st.nextBuffer]).filter _
    rw [List.filter_append, List.filter_singleton, h.unused _ (Nat.le_refl _), ← h.sent]
    exact (List.append_nil _).symm
  · exact Nat.succ_pos _
  · intro rsp hrsp
    exact h.unused rsp (Nat.le_of_succ_le hrsp)

/-- A request that matches while none waits gets its response into the queue. -/
theorem Answering.ask (h : Answering tickInterval st rsps) {response : Response} {delay : Time}
    {r : ℤ × St} (hwaiting : st.delayedResponseWaiting = false)
    (hfree : st.sched.free < PF_MAX_TIMEOUTS)
    (hr : pfSchedulerAdd st.sched delay ⟨responderCb, st.nextBuffer⟩ identrespTimeout now = some r)
    (hinv : Inv tickInterval { st with
      nextBuffer := st.nextBuffer + 1
      delayedResponseWaiting := true
      payload := Function.update st.payload st.nextBuffer (some response)
      sched := r.2 }) :
    Answering tickInterval { st with
      nextBuffer := st.nextBuffer + 1
      delayedResponseWaiting := true
      payload := Function.update st.payload st.nextBuffer (some response)
      sched := r.2 } (rsps ++ [response]) := by
  rcases h.queue with ⟨q, hq⟩
  have hnone : owned st.sched identrespName = [] := by
    rcases h.waiting with ⟨hnone, -⟩ | ⟨timer, -, hw⟩
    · exact hnone
    · rw [hwaiting] at hw
      cases hw
  have hbefore : delayed st = [] := by rw [delayed, hnone]; rfl
  rcases Option.bind_eq_some_iff.mp hr with ⟨d, hd, -⟩
  rcases add_owned hq identrespTimeout hd ⟨responderCb, st.nextBuffer⟩ now with
    ⟨ret, s', q', hadd, -, -, -, hroom⟩
  obtain rfl : r = (ret, s') := Option.some.inj (hr.symm.trans hadd)
  rw [h.named.identrespHandle] at hroom
  have howned := ((hroom hfree).2 hnone).1
  -- the new buffer has not been used
  have hnew : st.nextBuffer ∉ st.freed := by
    intro hmem
    have hlt := (h.mem_buffers.mp (List.mem_append_left _ hmem)).2
    omega
  have hpayload (rsp : ℕ) (hrsp : rsp ∈ st.freed) :
      Function.update st.payload st.nextBuffer (some response) rsp = st.payload rsp := by
    apply Function.update_of_ne
    rintro rfl
    exact hnew hrsp
  have hsub : ∀ rsp ∈ st.sent, rsp ∈ st.freed := by
    rw [h.sent]
    exact fun rsp hrsp => (List.mem_filter.mp hrsp).1
  have hpayloads := h.payloads
  have hbuffers := h.buffers
  rw [hbefore, List.append_nil] at hpayloads hbuffers
  constructor
  · exact hinv
  · exact .inr ⟨_, howned, rfl⟩
  · show (st.sent ++ (owned s' identrespName).map _).map
      (Function.update st.payload st.nextBuffer (some response)) = _
    rw [howned, List.map_append, List.map_append, ← hpayloads]
    congr 1
    · exact List.map_congr_left fun rsp hrsp => hpayload rsp (hsub rsp hrsp)
    · simp
  · show (st.freed ++ (owned s' identrespName).map _).Perm _
    rw [howned, h.range_next]
    exact hbuffers.append_right _
  · show st.sent = st.freed.filter fun rsp =>
      (Function.update st.payload st.nextBuffer (some response) rsp).isSome
    rw [h.sent]
    exact List.filter_congr fun rsp hrsp => by rw [hpayload rsp hrsp]
  · exact Nat.succ_pos _
  · intro rsp hrsp
    have hne : rsp ≠ st.nextBuffer := by
      rintro rfl
      exact absurd hrsp (Nat.not_succ_le_self _)
    show Function.update st.payload st.nextBuffer (some response) rsp = none
    rw [Function.update_of_ne hne]
    exact h.unused rsp (Nat.le_of_succ_le hrsp)

/-- The call-back sends the response that waits. -/
theorem Answering.send (h : Answering tickInterval st rsps) {fired : Timer} {sched : St}
    (hfires : Fires st now fired sched) (hcb : fired.job.cb = responderCb)
    (hinv : Inv tickInterval (({ st with sched } : Stack).responder fired.job.arg)) :
    Answering tickInterval (({ st with sched } : Stack).responder fired.job.arg) rsps := by
  rcases hfires.queue with ⟨q, -, hq⟩
  rcases hfires.labels with ⟨n, hlabels, howned⟩
  have hident := howned identrespName
  rw [if_pos (hlabels.2.mpr hcb)] at hident
  rcases h.waiting with ⟨hnone, -⟩ | ⟨timer, htimer, hwaiting⟩
  · rw [hnone] at hident
    cases hident
  · rw [htimer] at hident
    obtain ⟨rfl, hrest⟩ := List.cons.inj hident
    have hdelayed : delayed st = [timer.job.arg] := by rw [delayed, htimer]; rfl
    have harg : timer.job.arg ≠ 0 := by
      have hmem : timer.job.arg ∈ st.freed ++ delayed st := by
        rw [hdelayed]
        exact List.mem_append_right _ (List.mem_singleton_self _)
      have hpos := (h.mem_buffers.mp hmem).1
      omega
    have hsends : ({ st with sched } : Stack).responder timer.job.arg =
        { st with
          sched := pfSchedulerResetHandle sched identrespTimeout
          sent := st.sent ++ [timer.job.arg]
          freed := st.freed ++ [timer.job.arg]
          delayedResponseWaiting := false } := by
      simp [Stack.responder, harg, hwaiting]
    have hempty : owned (pfSchedulerResetHandle sched identrespTimeout) identrespName = [] :=
      (hq.setHandle_owned _ _ _).trans hrest.symm
    have hpayloads := h.payloads
    have hbuffers := h.buffers
    rw [hdelayed] at hpayloads hbuffers
    rw [hsends] at hinv ⊢
    constructor
    · exact hinv
    · exact .inl ⟨hempty, rfl⟩
    · show (st.sent ++ [timer.job.arg] ++ (owned _ identrespName).map _).map st.payload = _
      rw [hempty, List.map_nil, List.append_nil]
      exact hpayloads
    · show (st.freed ++ [timer.job.arg] ++ (owned _ identrespName).map _).Perm _
      rw [hempty, List.map_nil, List.append_nil]
      exact hbuffers
    · -- its buffer holds a response
      have hmem : st.payload timer.job.arg ∈ rsps.map some := by
        rw [← hpayloads, List.map_append]
        exact List.mem_append_right _ (List.mem_singleton_self _)
      rcases List.mem_map.mp hmem with ⟨response, -, hsome⟩
      show st.sent ++ [timer.job.arg] = (st.freed ++ [timer.job.arg]).filter _
      rw [List.filter_append, List.filter_singleton, ← hsome, ← h.sent]
      rfl
    · exact h.nextBuffer
    · exact h.unused

/-- A call-back of another timer leaves the responses alone. -/
theorem callBack_identresp {q : List Timer} (hq : Represents st.sched q) {job : Job}
    (hcb : job.cb ≠ responderCb) :
    SameTimer identrespTimeout identrespName st.sched (st.callBack job).sched ∧
      ∃ sam, st.callBack job = { st with sam, sched := (st.callBack job).sched } := by
  unfold Stack.callBack
  by_cases hsam : job.cb = clearSamCb
  · rw [if_pos hsam]
    exact ⟨SameTimer.resetHandle hq samTimeout_ne.symm identrespName, macNil, rfl⟩
  · rw [if_neg hsam, if_neg hcb]
    exact ⟨.refl _ _ _, st.sam, rfl⟩

/-- What a step does to the responses. -/
theorem step_answering {e : Event} (h : Answering tickInterval st rsps) (he : Answerable st e)
    (hs : step st e = some st') : Answering tickInterval st' (rsps ++ e.response?.toList) := by
  have hinv := (step_inv h.toInv hs).1
  cases e with
  | identify dev f fresh hasBuffer now =>
    show Answering tickInterval st' (rsps ++ (identifyAnswer dev f fresh).toList)
    have hcan (response : Response) (hanswer : identifyAnswer dev f fresh = some response) :=
      he dev f fresh hasBuffer now response rfl hanswer
    rcases identifyReq_cases hs with ⟨hout, rfl⟩ | ⟨hnone, rfl⟩ |
      ⟨response, delay, r, hanswer, hr, rfl⟩
    · cases hanswer : identifyAnswer dev f fresh with
      | none =>
        rw [Option.toList_none, List.append_nil]
        exact h
      | some response =>
        -- a request that matches lies in its frame
        rcases hout with hshort | hno
        · unfold identifyAnswer identifyReq at hanswer
          rw [if_pos hshort] at hanswer
          cases hanswer
        · rw [(hcan response hanswer).1] at hno
          cases hno
    · rw [hnone, Option.toList_none, List.append_nil]
      exact h.drop hinv
    · rw [hanswer]
      rcases hcan response hanswer with ⟨-, hwaiting, hfree⟩
      exact h.ask hwaiting hfree hr hinv
  | getSet mac f hasBuffer now =>
    rw [show Event.response? (.getSet mac f hasBuffer now) = none from rfl, Option.toList_none,
      List.append_nil]
    rcases getSet_identresp h.toInv hs with ⟨hsame, hst⟩
    exact h.of_same hinv hsame hst
  | call c =>
    rw [show Event.response? (.call c) = none from rfl, Option.toList_none, List.append_nil]
    rcases Option.map_eq_some_iff.mp hs with ⟨s', hc, rfl⟩
    rcases h.queue with ⟨q, hq⟩
    exact h.of_same hinv (foreign_named hq h.named c hc).2.2 ⟨st.sam, rfl⟩
  | round now =>
    rw [show Event.response? (.round now) = none from rfl, Option.toList_none, List.append_nil]
    rcases round_cases h.toInv hs with ⟨-, rfl⟩ | ⟨fired, sched, hfires, rfl⟩
    · exact h
    · rcases hfires.queue with ⟨q, -, hq⟩
      rcases hfires.labels with ⟨n, hlabels, howned⟩
      by_cases hcb : fired.job.cb = responderCb
      · have hback : ({ st with sched } : Stack).callBack fired.job =
            ({ st with sched } : Stack).responder fired.job.arg := by
          unfold Stack.callBack
          rw [if_neg (by rw [hcb]; decide), if_pos hcb]
        rw [hback] at hinv ⊢
        exact h.send hfires hcb hinv
      · have hsame := howned identrespName
        rw [if_neg (fun hn => hcb (hlabels.2.mp hn))] at hsame
        rcases @callBack_identresp { st with sched } q hq _ hcb with ⟨htimer, sam, hst⟩
        refine h.of_same hinv ?_ ⟨sam, hst⟩
        constructor
        · rw [htimer.owned, hsame]
        · rw [htimer.handle, hfires.handles]

theorem run_answering {es : List Event} (h : Answering tickInterval st rsps)
    (he : Along Answerable st es) (hrun : run st es = some st') :
    Answering tickInterval st' (rsps ++ es.filterMap Event.response?) := by
  induction es generalizing st rsps with
  | nil =>
    obtain rfl : st = st' := Option.some.inj hrun
    rw [List.filterMap_nil, List.append_nil]
    exact h
  | cons e es ih =>
    rcases Option.bind_eq_some_iff.mp hrun with ⟨st1, hstep, hrest⟩
    have hnext := ih (step_answering h he.1 hstep) (he.2 st1 hstep) hrest
    rw [List.append_assoc] at hnext
    cases hrsp : e.response? with
    | none =>
      rw [hrsp] at hnext
      rw [List.filterMap_cons_none hrsp]
      exact hnext
    | some response =>
      rw [hrsp] at hnext
      rw [List.filterMap_cons_some hrsp]
      exact hnext

end

/-! ## Runs -/

theorem identifyAnswer_addressed {dev : Device} {f : Frame} {fresh : ℕ → Byte} {rsp : Response}
    (h : identifyAnswer dev f fresh = some rsp) : rsp.dest = f.src ∧ rsp.xid = f.xid := by
  rcases Option.map_eq_some_iff.mp h with ⟨blocks, -, rfl⟩
  exact answer_addressed _ _ _ _ _ _

/-- In a run where each request that matches gets a buffer and a timer, and finds no response
waiting, each has one response. -/
theorem answersOnce_of_answerable (tickInterval : Time) (es : List Event)
    (hanswerable : ∀ st, init tickInterval = some st → Along Answerable st es) :
    AnswersOnce tickInterval es := by
  have hrun {st : Stack} (h : runInit tickInterval es = some st) :
      Answering tickInterval st (es.filterMap Event.response?) := by
    rcases Option.bind_eq_some_iff.mp h with ⟨st0, hinit, hrest⟩
    exact run_answering (init_answering hinit) (hanswerable st0 hinit) hrest
  constructor
  · intro st h
    exact (hrun h).payloads
  · intro st h
    exact ⟨(hrun h).buffers, (hrun h).sent⟩
  · intro dev f fresh hasBuffer now rsp _ hanswer
    exact identifyAnswer_addressed hanswer
  · intro st now h hnear hnow hend timer htimer
    rcases Option.bind_eq_some_iff.mp h with ⟨st0, hinit, hrest⟩
    rcases init_inv hinit with ⟨hinv0, hpending0, -⟩
    have hsorted := run_sorted hinv0 (hpending0 ▸ List.Pairwise.nil) (hnear st0 hinit) hrest
    exact none_over (hrun h).toInv hsorted hnow hend timer (List.mem_filter.mp htimer).1

/-! ### Two requests -/

namespace TwoRequests

/-- An Identify for all devices, in the transaction `n`. -/
def request (n : Byte) : Frame where
  bytes i := if i = 6 then 2 else if i = 11 ∨ i = 21 then n else if i = 25 then 4
    else if i = 26 ∨ i = 27 then 0xff else 0
  len := 60
  len_le := shortest_le
  vlanTags := 0

def identify (n : Byte) (now : Time) : Event :=
  .identify NoBlock.device (request n) (fun _ => 0) true now

/-- The second request comes after the response to the first one. -/
def apart : List Event := [identify 1 0#32, .round 1000#32, identify 2 1000#32, .round 2000#32]

/-- The second request comes while the response to the first one waits. -/
def together : List Event := [identify 1 0#32, identify 2 0#32, .round 1000#32, .round 1000#32]

theorem answerable_round (st : Stack) (now : Time) : Answerable st (.round now) := by
  intro dev f fresh hasBuffer now' rsp h
  cases h

theorem answerable_identify {st : Stack} {n : Byte} {now : Time}
    (hwaiting : st.delayedResponseWaiting = false) (hfree : st.sched.free < PF_MAX_TIMEOUTS) :
    Answerable st (identify n now) := by
  intro dev f fresh hasBuffer now' rsp h _
  cases h
  exact ⟨rfl, hwaiting, hfree⟩

/-- The state after some events lets a request be answered. -/
theorem ready_of_runs {as : List Event} {st st' : Stack} (hinit : init 1000#32 = some st)
    (hrun : run st as = some st')
    (hready : (runInit 1000#32 as).all (fun st => !st.delayedResponseWaiting &&
      decide (st.sched.free < PF_MAX_TIMEOUTS)) = true) :
    st'.delayedResponseWaiting = false ∧ st'.sched.free < PF_MAX_TIMEOUTS := by
  rw [runInit, hinit, Option.bind_some, hrun] at hready
  simpa using hready

theorem answerable_apart (st : Stack) (hinit : init 1000#32 = some st) :
    Along Answerable st apart := by
  have hfirst := @ready_of_runs [] st st hinit rfl (by decide +kernel)
  refine ⟨answerable_identify hfirst.1 hfirst.2, fun st1 hst1 => ⟨answerable_round _ _, ?_⟩⟩
  intro st2 hst2
  have hrun : run st (apart.take 2) = some st2 := by
    show (step st _).bind _ = some st2
    rw [hst1, Option.bind_some]
    show (step st1 _).bind _ = some st2
    rw [hst2]
    rfl
  have hsecond := @ready_of_runs (apart.take 2) st st2 hinit hrun (by decide +kernel)
  exact ⟨answerable_identify hsecond.1 hsecond.2,
    fun st3 _ => ⟨answerable_round _ _, fun _ _ => trivial⟩⟩

/-- Of the two buffers only that of the second response is sent and freed. -/
theorem runs_together : (runInit 1000#32 together).map (fun st =>
    (st.sent, st.freed, (delayed st).length)) = some ([2], [2], 0) := by
  decide +kernel

theorem responses_together : (together.filterMap Event.response?).length = 2 := by decide +kernel

end TwoRequests

open TwoRequests in
theorem answersOnce_of_answerable_apart :
    (runInit 1000#32 apart).map (fun st => (st.sent, st.freed)) = some ([1, 2], [1, 2]) ∧
      AnswersOnce 1000#32 apart :=
  ⟨by decide +kernel, answersOnce_of_answerable 1000#32 apart answerable_apart⟩

open TwoRequests in
/-- The first request has no response, and its buffer is lost. -/
theorem not_answersOnce_together : ¬ AnswersOnce 1000#32 together := by
  intro h
  rcases Option.map_eq_some_iff.mp runs_together with ⟨st, hrun, hshows⟩
  have hsent : st.sent.length = 1 := congrArg (fun x => x.1.length) hshows
  have hdelayed : (delayed st).length = 0 := congrArg (fun x => x.2.2) hshows
  have hlength := congrArg List.length (h.once st hrun)
  simp only [List.length_map, List.length_append, hsent, hdelayed, responses_together] at hlength
  omega

end PNet.Dcp
