import PNet.Rpc.Resend

/-! # What the device waits for

A CControl request waits for its answer, and each fragment of a response for the next packet of its reader.
The timeout of the session sees to it that the wait has an end. `Resender.waits_end` says when it does: the
packet has gone out and its timeout is in the scheduler, the AR of the session is set and knows of the
session, and no other packet has stopped the timer.
-/

namespace PNet.Rpc

open Block

namespace Resender

/-- An abort of the AR releases the session, and the abort of no other AR does. -/
structure Ready (st : Resender) (six ar : ℕ) : Prop where
  inUse : (st.net.ars ar).inUse = true
  sessionAr : (st.session six).ar = some ar
  killSession : (st.session six).killSession = false
  own : (st.session six).fromMe = true ∨
    ((st.net.ars ar).sess = some six ∧ (st.session six).releaseInProgress = false)
  only : ∀ i, (st.net.ars i).sess = some six → i = ar

/-- The session waits for an answer to what it has sent, in the connection that it has sent it for. -/
structure Waits (st : Resender) (six : ℕ) (q : Outstanding) : Prop where
  inUse : (st.session six).inUse = true
  lt : six < PF_MAX_SESSION
  isOpen : 0 ≤ (st.session six).socket
  ready : ∃ ar, st.Ready six ar ∧ q = ⟨some ar, st.connection ar⟩

/-- The session waits exactly if something is outstanding; its timer runs then, or does not while a packet
of the session is dealt with. -/
structure Keeps (b : Bool) (st : Resender) (six : ℕ) : Prop where
  waits : ∀ q, st.outstanding six = some q →
    st.Waits six q ∧ (st.session six).resendTimeout = b
  idle : st.outstanding six = none → (st.session six).resendTimeout = false
  sendLen : (st.session six).resendTimeout = true → 0 < (st.session six).outBufSendLen

variable {st st' : Resender} {six j ar : ℕ} {out : Outlet} {b : Bool} {q : Outstanding}

theorem Ready.congr (h : st.Ready six ar) (halike : Alike (st.session six) (st'.session six))
    (huse : (st'.net.ars ar).inUse = (st.net.ars ar).inUse)
    (hsess : (st'.net.ars ar).sess = (st.net.ars ar).sess)
    (hothers : ∀ i, (st'.net.ars i).sess = some six → (st.net.ars i).sess = some six) :
    st'.Ready six ar := by
  constructor
  · rw [huse]
    exact h.inUse
  · rw [halike.ar]
    exact h.sessionAr
  · cases hk : (st'.session six).killSession with
    | false => rfl
    | true => exact h.killSession ▸ (halike.killSession hk).symm
  · rw [halike.fromMe, halike.releaseInProgress, hsess]
    exact h.own
  · exact fun i hi => h.only i (hothers i hi)

/-- Nothing happens to the session, or to its AR. -/
theorem Keeps.congr (h : Keeps b st six) (hout : st'.outstanding six = st.outstanding six)
    (hsession : st'.session six = st.session six)
    (har : ∀ q ar, st.outstanding six = some q → st.Ready six ar →
      (st'.net.ars ar).inUse = (st.net.ars ar).inUse ∧
      (st'.net.ars ar).sess = (st.net.ars ar).sess ∧ st'.connection ar = st.connection ar)
    (hothers : ∀ i, (st'.net.ars i).sess = some six → (st.net.ars i).sess = some six) :
    Keeps b st' six := by
  have halike : Alike (st.session six) (st'.session six) := hsession ▸ Alike.refl _
  constructor
  · intro q hq
    rw [hout] at hq
    obtain ⟨⟨huse, hlt, hopen, ar, hready, rfl⟩, htimer⟩ := h.waits q hq
    obtain ⟨haruse, hsess, hconn⟩ := har _ ar hq hready
    rw [hsession]
    refine ⟨⟨halike.inUse.trans huse, hlt, halike.socket ▸ hopen, ar, ?_, ?_⟩, htimer⟩
    · exact hready.congr halike haruse hsess hothers
    · rw [hconn]
  · intro hq
    rw [hout] at hq
    rw [hsession]
    exact h.idle hq
  · rw [hsession]
    exact h.sendLen

/-- With the same ARs. -/
theorem Keeps.of_same (h : Keeps b st six) (hout : st'.outstanding six = st.outstanding six)
    (hsession : st'.session six = st.session six) (hars : st'.net.ars = st.net.ars)
    (hconn : st'.connection = st.connection) : Keeps b st' six := by
  apply h.congr hout hsession
  · intro _ ar _ _
    rw [hars, hconn]
    exact ⟨rfl, rfl, rfl⟩
  · intro i
    rw [hars]
    exact id

/-- A session with nothing to wait for. -/
theorem Keeps.of_none (hnone : st.outstanding six = none)
    (htimer : (st.session six).resendTimeout = false) : Keeps b st six := by
  constructor
  · exact fun q hq => absurd (hnone.symm.trans hq) (by simp)
  · exact fun _ => htimer
  · exact fun hruns => Bool.noConfusion (htimer.symm.trans hruns)

theorem Keeps.setSession_ne (h : Keeps b st j) (hj : j ≠ six) (s : Session) :
    Keeps b (st.setSession six s) j := by
  apply h.of_same
  · rfl
  · exact setSession_session_ne hj s
  · rfl
  · rfl

/-! ## Aborts -/

/-- The sessions of the AR do not wait any longer; the others do. -/
theorem Keeps.abort (h : Keeps b st j) (ar : ℕ) : Keeps b (st.abort ar) j := by
  have hout : (st.abort ar).outstanding j =
      (st.outstanding j).filter fun q => q ≠ ⟨some ar, st.connection ar⟩ := rfl
  have hcases : (st.abort ar).session j = st.session j ∨
      (st.abort ar).session j = clearedSession := Net.abort_session ar j
  cases hq : st.outstanding j with
  | none =>
    rw [hq] at hout
    apply Keeps.of_none hout
    rcases hcases with hsame | hgone
    · rw [hsame]
      exact h.idle hq
    · rw [hgone]
      rfl
  | some q =>
    obtain ⟨⟨huse, hlt, _, own, hready, rfl⟩, htimer⟩ := h.waits q hq
    rw [hq] at hout
    by_cases hown : own = ar
    · -- it is the AR that the session waits for
      subst hown
      have hnone : (st.abort own).outstanding j = none := by
        rw [hout]
        simp
      have hgone : (st.abort own).session j = clearedSession :=
        Net.abort_clears hlt huse (hready.own.imp (fun hfrom => ⟨hfrom, hready.sessionAr⟩) id)
      apply Keeps.of_none hnone
      rw [hgone]
      rfl
    · have hsess : (st.net.ars ar).sess ≠ some j := fun hs => hown (hready.only ar hs).symm
      have hne : (st.net.sessions j).ar ≠ some ar :=
        fun hs => hown (Option.some.inj (hready.sessionAr.symm.trans hs))
      have hsame : (st.abort ar).session j = st.session j := Net.abort_keeps hsess hne
      have hars : (st.abort ar).net.ars = (st.net.arRelease ar).ars := Net.abort_ars
      apply h.congr
      · rw [hout, hq]
        simp [hown]
      · exact hsame
      · intro _ other _ hother
        have heq : other = own := Option.some.inj (hother.sessionAr.symm.trans hready.sessionAr)
        subst heq
        rw [hars, Net.arRelease_of_ne hown]
        exact ⟨rfl, rfl, Function.update_of_ne hown _ _⟩
      · intro i hi
        rw [hars] at hi
        exact Net.arRelease_sess hi

/-- Nobody waits for the AR any longer. -/
theorem abort_outstanding (h : Keeps b st j) (har : (st.session j).ar = some ar) :
    (st.abort ar).outstanding j = none := by
  have hout : (st.abort ar).outstanding j =
      (st.outstanding j).filter fun q => q ≠ ⟨some ar, st.connection ar⟩ := rfl
  rw [hout]
  cases hq : st.outstanding j with
  | none => rfl
  | some q =>
    obtain ⟨⟨_, _, _, own, hready, rfl⟩, _⟩ := h.waits q hq
    obtain rfl : own = ar := Option.some.inj (hready.sessionAr.symm.trans har)
    simp

theorem Keeps.setAr (h : Keeps b st j) {x : Ar} (huse : x.inUse = (st.net.ars ar).inUse)
    (hsess : x.sess = (st.net.ars ar).sess) : Keeps b (st.setAr ar x) j := by
  have hars (i : ℕ) : ((st.setAr ar x).net.ars i).inUse = (st.net.ars i).inUse ∧
      ((st.setAr ar x).net.ars i).sess = (st.net.ars i).sess := by
    by_cases hi : i = ar
    · subst hi
      have hself : (st.setAr i x).net.ars i = x := Net.setAr_self ..
      rw [hself]
      exact ⟨huse, hsess⟩
    · have hother : (st.setAr ar x).net.ars i = st.net.ars i := Function.update_of_ne hi _ _
      rw [hother]
      exact ⟨rfl, rfl⟩
  apply h.congr
  · rfl
  · rfl
  · intro _ i _ _
    exact ⟨(hars i).1, (hars i).2, rfl⟩
  · intro i hi
    rw [(hars i).2] at hi
    exact hi

theorem Keeps.call (h : Keeps b st j) (c : Call) : Keeps b (st.call c) j := by
  cases c with
  | abort ar => exact h.abort ar
  | cmdevState ar x => exact h.setAr rfl rfl

theorem Keeps.calls (h : Keeps b st j) (cs : List Call) : Keeps b (st.calls cs) j := by
  induction cs generalizing st with
  | nil => exact h
  | cons c cs ih => exact ih (h.call c)

theorem Keeps.cmAbort (h : Keeps b st j) (ar : Option ℕ) : Keeps b (st.cmAbort ar) j := by
  cases ar with
  | none => exact h
  | some ar =>
    unfold Resender.cmAbort
    dsimp only
    split
    · exact h.abort ar
    · exact h

/-- What is not waited for is not waited for afterwards, and what is has not changed. -/
theorem call_outstanding (st : Resender) (c : Call) (j : ℕ) :
    (st.call c).outstanding j = none ∨ (st.call c).outstanding j = st.outstanding j := by
  cases c with
  | abort ar =>
    have hout : (st.call (.abort ar)).outstanding j =
        (st.outstanding j).filter fun q => q ≠ ⟨some ar, st.connection ar⟩ := rfl
    rw [hout]
    cases st.outstanding j with
    | none => exact .inl rfl
    | some q =>
      rw [Option.filter_some]
      split
      · exact .inr rfl
      · exact .inl rfl
  | cmdevState ar x => exact .inr rfl

theorem calls_outstanding (st : Resender) (cs : List Call) (j : ℕ) :
    (st.calls cs).outstanding j = none ∨ (st.calls cs).outstanding j = st.outstanding j := by
  induction cs generalizing st with
  | nil => exact .inr rfl
  | cons c cs ih =>
    rcases ih (st.call c) with hnone | hsame
    · exact .inl hnone
    · rcases call_outstanding st c j with hnone | hsame'
      · exact .inl (hsame.trans hnone)
      · exact .inr (hsame.trans hsame')

/-- A call-back aborts the AR of the session. -/
theorem calls_abort {cs : List Call} (h : Keeps b st j) (hq : st.outstanding j = some q)
    (har : (st.session j).ar = some ar) (hmem : Call.abort ar ∈ cs) :
    (st.calls cs).outstanding j = none := by
  induction cs generalizing st q with
  | nil => cases hmem
  | cons c cs ih =>
    have hafter : (st.calls (c :: cs)).outstanding j = ((st.call c).calls cs).outstanding j := rfl
    rw [hafter]
    rcases call_outstanding st c j with hnone | hsame
    · rcases calls_outstanding (st.call c) cs j with hn | hs
      · exact hn
      · exact hs.trans hnone
    · -- it waits as before, so this was not the abort of its AR
      rcases List.mem_cons.mp hmem with rfl | hrest
      · have hgone : (st.abort ar).outstanding j = none := abort_outstanding h har
        exact absurd ((hsame.symm.trans hgone).symm.trans hq) (by simp)
      · have hq' := hsame.trans hq
        obtain ⟨⟨_, _, _, own, hready, rfl⟩, _⟩ := h.waits q hq
        obtain ⟨⟨_, _, _, own', hready', heq⟩, _⟩ := (h.call c).waits _ hq'
        obtain rfl : own = ar := Option.some.inj (hready.sessionAr.symm.trans har)
        have howns : own = own' := Option.some.inj (congrArg Outstanding.ar heq)
        exact ih (h.call c) hq' (howns ▸ hready'.sessionAr) hrest

/-! ## Connects -/

theorem Keeps.releaseAr (h : Keeps b st j)
    (har : ∀ q, st.outstanding j = some q → q.ar ≠ some ar) :
    Keeps b ({ st with net := st.net.arRelease ar }.disconnect ar) j := by
  apply h.congr
  · show (st.outstanding j).filter _ = _
    cases hq : st.outstanding j with
    | none => rfl
    | some q =>
      have hne : q ≠ ⟨some ar, st.connection ar⟩ := fun heq => har q hq (congrArg Outstanding.ar heq)
      simpa using hne
  · exact congrFun Net.arRelease_sessions j
  · intro q own hq hready
    have hown : own ≠ ar := by
      obtain ⟨⟨_, _, _, own', hready', rfl⟩, _⟩ := h.waits q hq
      have heq : own' = own := Option.some.inj (hready'.sessionAr.symm.trans hready.sessionAr)
      intro hsame
      exact har _ hq (congrArg some (heq.trans hsame))
    have hars : ({ st with net := st.net.arRelease ar }.disconnect ar).net.ars own = st.net.ars own :=
      Net.arRelease_of_ne hown
    rw [hars]
    exact ⟨rfl, rfl, Function.update_of_ne hown _ _⟩
  · exact fun i hi => Net.arRelease_sess hi

theorem Keeps.connect (h : Keeps b st j) (hj : j ≠ six) (hfree : st.net.freeAr = some ar) {x : Ar}
    (hsess : x.sess = some six) : Keeps b (st.setAr ar x) j := by
  have hunused : (st.net.ars ar).inUse = false := by simpa using List.find?_some hfree
  apply h.congr
  · rfl
  · rfl
  · intro _ own _ hready
    -- the AR of a session that waits is in use, and so is not the new one
    have hown : own ≠ ar := by
      rintro rfl
      exact Bool.noConfusion (hunused.symm.trans hready.inUse)
    have hars : (st.setAr ar x).net.ars own = st.net.ars own := Function.update_of_ne hown _ _
    rw [hars]
    exact ⟨rfl, rfl, rfl⟩
  · intro i hi
    by_cases hiar : i = ar
    · subst hiar
      have hself : (st.setAr i x).net.ars i = x := Net.setAr_self ..
      rw [hself, hsess] at hi
      exact absurd (Option.some.inj hi).symm hj
    · have hother : (st.setAr ar x).net.ars i = st.net.ars i := Function.update_of_ne hiar _ _
      rwa [hother] at hi

theorem Keeps.rmConnectInd (h : Keeps b st j) (hj : j ≠ six) (x : Ar) (accepted : Bool)
    (cs : List Call) : Keeps b (st.rmConnectInd six x accepted cs) j := by
  unfold Resender.rmConnectInd
  split
  · exact h.setSession_ne hj _
  · next ar hfree =>
    dsimp only
    have hunused : (st.net.ars ar).inUse = false := by simpa using List.find?_some hfree
    have hset := (h.connect hj hfree (x := { x with
      inUse := true, arep := BitVec.ofNat 16 (ar + 1), sess := some six }) rfl).setSession_ne hj
      { st.session six with ar := some ar }
    have hcalls := hset.calls cs
    split
    · exact hcalls
    · refine Keeps.setSession_ne (Keeps.releaseAr hcalls ?_) hj _
      -- what waits has waited before, for an AR that was in use
      intro q hq
      rcases calls_outstanding ((st.setAr ar { x with
        inUse := true, arep := BitVec.ofNat 16 (ar + 1), sess := some six }).setSession six
        { st.session six with ar := some ar }) cs j with hnone | hsame
      · exact absurd (hnone.symm.trans hq) (by simp)
      · obtain ⟨⟨_, _, _, own, hready, rfl⟩, _⟩ := h.waits q (hsame.symm.trans hq)
        rintro heq
        obtain rfl : own = ar := Option.some.inj heq
        exact Bool.noConfusion (hunused.symm.trans hready.inUse)

theorem Keeps.handle (h : Keeps b st j) (hj : j ≠ six) (hd : Handling) :
    Keeps b (st.handle six hd) j := by
  unfold Resender.handle
  dsimp only
  split
  · next x accepted _ => exact (h.rmConnectInd hj x accepted hd.calls).setSession_ne hj _
  · exact (h.calls hd.calls).setSession_ne hj _

theorem Keeps.answer (h : Keeps b st j) (hj : j ≠ six) (rpcReq : RpcHeader) (hd : Handling) :
    Keeps b (st.answer six rpcReq hd) j := by
  unfold Resender.answer
  exact (h.setSession_ne hj _).handle hj hd

theorem calls_none (h : st.outstanding six = none) (cs : List Call) :
    (st.calls cs).outstanding six = none := by
  rcases calls_outstanding st cs six with hnone | hsame
  · exact hnone
  · exact hsame.trans h

theorem cmAbort_none (h : st.outstanding six = none) (ar : Option ℕ) :
    (st.cmAbort ar).outstanding six = none := by
  cases ar with
  | none => exact h
  | some ar =>
    unfold Resender.cmAbort
    dsimp only
    split
    · exact calls_none h [.abort ar]
    · exact h

theorem rmConnectInd_none (h : st.outstanding six = none) (x : Ar) (accepted : Bool)
    (cs : List Call) : (st.rmConnectInd six x accepted cs).outstanding six = none := by
  unfold Resender.rmConnectInd
  split
  · exact h
  · next ar _ =>
    dsimp only
    have hcalls : (((st.setAr ar { x with
        inUse := true, arep := BitVec.ofNat 16 (ar + 1), sess := some six }).setSession six
        { st.session six with ar := some ar }).calls cs).outstanding six = none :=
      calls_none (by exact h) cs
    split
    · exact hcalls
    · show Option.filter _ (Resender.outstanding _ six) = none
      rw [Option.filter_eq_none_iff]
      intro q hq
      exact absurd (hcalls.symm.trans hq) (by simp)

/-- A request leaves its session with nothing to wait for. -/
theorem answer_none (h : st.outstanding six = none) (rpcReq : RpcHeader) (hd : Handling) :
    (st.answer six rpcReq hd).outstanding six = none := by
  unfold Resender.answer Resender.handle
  dsimp only
  split
  · exact rmConnectInd_none (by exact h) _ _ _
  · exact calls_none (by exact h) _

/-! ## Transmissions -/

theorem Keeps.put_ne {s : Session} (h : Keeps b st j) (hj : j ≠ six) : Keeps b (st.put out six s) j := by
  apply h.of_same
  · rfl
  · exact Net.setSession_of_ne hj _
  · rfl
  · rfl

theorem Keeps.begin_ne {s : Session} (h : Keeps b st j) (hj : j ≠ six) :
    Keeps b (st.begin out six s) j := by
  unfold Resender.begin
  refine Keeps.put_ne (h.of_same ?_ rfl rfl rfl) hj
  dsimp only
  split
  · exact Function.update_of_ne hj _ _
  · rfl

theorem begin_session (s : Session) : (st.begin out six s).session six =
    { s with resendTimeout := s.resendTimeout && out.sent && out.added } :=
  Net.setSession_self ..

/-- Nothing is sent that would have to be waited for. -/
theorem Keeps.begin_silent {s : Session} (h : Keeps false st six)
    (hsilent : Silent (st.session six) s) (hnone : st.outstanding six = none) :
    Keeps true (st.begin out six s) six := by
  have htimer : s.resendTimeout = false := hsilent.resendTimeout.trans (h.idle hnone)
  have hout : (st.begin out six s).outstanding six = st.outstanding six := by
    show (if s.resendTimeout = true then _ else st.outstanding) six = _
    rw [htimer]
    rfl
  apply Keeps.of_none (hout.trans hnone)
  rw [begin_session, htimer]
  rfl

theorem Waits.congr (h : st.Waits six q) (hnet : st'.net = st.net)
    (hconn : st'.connection = st.connection) : st'.Waits six q := by
  have hsession : st'.session six = st.session six := congrFun (congrArg Net.sessions hnet) six
  obtain ⟨huse, hlt, hopen, ar, hready, heq⟩ := h
  have halike : Alike (st.session six) (st'.session six) := hsession ▸ Alike.refl _
  refine ⟨halike.inUse.trans huse, hlt, halike.socket ▸ hopen, ar, ?_, ?_⟩
  · apply hready.congr halike
    · rw [hnet]
    · rw [hnet]
    · intro i
      rw [hnet]
      exact id
  · rw [hconn]
    exact heq

/-- The packet has gone out, and its timeout is in the scheduler. -/
theorem Keeps.put_putOut {s : Session} {n : ℕ} (hq : st.outstanding six = some q)
    (hwaits : st.Waits six q) (hput : PutOut n (st.session six) s) (hsent : out.sent = true)
    (hadded : out.added = true) : Keeps true (st.put out six s) six := by
  have hsession : (st.put out six s).session six =
      { s with resendTimeout := s.resendTimeout && out.sent && out.added } := Net.setSession_self ..
  have hruns : ((st.put out six s).session six).resendTimeout = true := by
    rw [hsession, hput.resendTimeout, hsent, hadded]
    rfl
  have halike : Alike (st.session six) ((st.put out six s).session six) := by
    rw [hsession]
    exact ⟨hput.inUse, hput.socket, hput.ar, hput.fromMe, hput.releaseInProgress, hput.killSession⟩
  constructor
  · intro p hp
    obtain rfl : q = p := Option.some.inj (hq.symm.trans hp)
    obtain ⟨huse, hlt, hopen, own, hown, heq⟩ := hwaits
    exact ⟨⟨halike.inUse.trans huse, hlt, halike.socket ▸ hopen, own,
      hown.congr halike rfl rfl fun _ => id, heq⟩, hruns⟩
  · intro hnone
    exact absurd (hq.symm.trans hnone) (by simp)
  · rw [hsession]
    exact fun _ => hput.sendLen

/-- The same, of a packet that is new. -/
theorem Keeps.begin_putOut {s : Session} {n : ℕ} (h : Keeps false st six) (htidy : Tidy st six)
    (hput : PutOut n (st.session six) s) (hsent : out.sent = true) (hadded : out.added = true)
    (hready : st.Ready six ar) : Keeps true (st.begin out six s) six := by
  have huse : (st.session six).inUse = true := by
    cases hfree : (st.session six).inUse with
    | true => rfl
    | false => exact absurd (htidy.free hfree).2 (Int.not_lt.mpr hput.isOpen)
  -- what it waits for is what it has waited for before, if anything
  have hwaits : st.Waits six ((st.outstanding six).getD (st.purpose six)) := by
    cases hq : st.outstanding six with
    | some q => exact (h.waits q hq).1
    | none =>
      refine ⟨huse, htidy.lt huse, hput.isOpen, ar, hready, ?_⟩
      show (⟨(st.session six).ar, ((st.session six).ar.map st.connection).getD 0⟩ : Outstanding) = _
      rw [hready.sessionAr]
      rfl
  unfold Resender.begin
  apply Keeps.put_putOut
  · show (if s.resendTimeout = true then _ else st.outstanding) six = _
    rw [hput.resendTimeout, if_pos rfl]
    exact Function.update_self ..
  · exact hwaits.congr rfl rfl
  · exact hput
  · exact hsent
  · exact hadded

/-! ## The end of a packet -/

theorem Keeps.killIfNecessary (h : Keeps true st j) (six : ℕ) :
    Keeps true (st.killIfNecessary six) j := by
  unfold Resender.killIfNecessary
  split
  · next hkill =>
    have hars : (st.become (st.net.sessionRelease six)).net.ars = st.net.ars :=
      Net.sessionRelease_ars six
    by_cases hj : j = six
    · subst hj
      -- a session that waits is not killed
      cases hq : st.outstanding j with
      | some q =>
        obtain ⟨⟨_, _, _, _, hready, _⟩, _⟩ := h.waits q hq
        exact Bool.noConfusion (hready.killSession.symm.trans hkill)
      | none =>
        refine Keeps.of_none (show (st.become _).outstanding j = none from hq) ?_
        have hcases : (st.become (st.net.sessionRelease j)).session j = st.session j ∨
            (st.become (st.net.sessionRelease j)).session j = clearedSession :=
          Net.sessionRelease_cases j j
        rcases hcases with hsame | hgone
        · rw [hsame]
          exact h.idle hq
        · rw [hgone]
          rfl
    · apply h.of_same
      · rfl
      · exact Net.sessionRelease_of_ne hj
      · exact hars
      · rfl
  · exact h

/-! ## Where the wait has an end -/

/-- A packet of the session goes out and will be resent, for an AR that the session is tied to. -/
def Sends (st : Resender) (six : ℕ) (out : Outlet) : Prop :=
  out.sent = true ∧ out.added = true ∧ ∃ ar, st.Ready six ar

/-- Whatever the packet makes the device send, in fragments, is sent as it should be. -/
def Transmits (st : Resender) (six : ℕ) (rpcReq : RpcHeader) (hd : Handling) (out : Outlet) : Prop :=
  (rpcReq.packetType = PF_RPC_PT_REQUEST → PF_MAX_UDP_PAYLOAD_SIZE ≤ hd.outBufLen →
    0 ≤ ((st.answer six rpcReq hd).session six).socket → (st.answer six rpcReq hd).Sends six out) ∧
  (rpcReq.packetType = PF_RPC_PT_FRAG_ACK → MoreFragments (st.session six) →
    0 ≤ (st.session six).socket → st.Sends six out)

/-- The packet is what a CControl request may be answered with: the acknowledgement of a fragment, when
there is another one; the confirmation of the request, when it is accepted, or the application aborts
the AR in it; or the end of the AR. -/
def Answers (st : Resender) (six : ℕ) (rpcReq : RpcHeader) (hd : Handling) : Prop :=
  (rpcReq.packetType = PF_RPC_PT_FRAG_ACK ∧ MoreFragments (st.session six)) ∨
  (rpcReq.packetType = PF_RPC_PT_RESPONSE ∧ rpcReq.opnum = PF_RPC_DEV_OPNUM_CONTROL ∧
    (hd.kill = true ∨ ∃ ar, (st.session six).ar = some ar ∧ Call.abort ar ∈ hd.calls)) ∨
  ((rpcReq.packetType = PF_RPC_PT_CL_CANCEL ∨ rpcReq.packetType = PF_RPC_PT_FAULT ∨
      rpcReq.packetType = PF_RPC_PT_REJECT) ∧
    ∀ ar, (st.session six).ar = some ar → (st.net.ars ar).abortable = true)

/-- The condition on a step. -/
def Good (st : Resender) : Event → Prop
  | .ccontrolReq ar req out => (st.net.ars ar).inUse = true → ∀ six, st.net.freeSession = some six →
      0 ≤ req.socket ∧ out.sent = true ∧ out.added = true ∧
        ∀ i, (st.net.ars i).sess = some six → i = ar
  | .expire six out => st.timeouts six ≠ 0 →
      if 0 < (st.session six).resendCounter then out.sent = true ∧ out.added = true
      else ∀ ar, (st.session six).ar = some ar → (st.net.ars ar).abortable = true
  | .packet p activityUuid hd out => ∀ st1 six isNew,
      st.locate p activityUuid = some (st1, six, isNew) →
        let rpcReq := (received p.toDatagram).1
        let st2 := st1.file six p
        (complete rpcReq = true → st2.Transmits six rpcReq hd out) ∧
          (st2.outstanding six ≠ none → complete rpcReq = true ∧ st2.Answers six rpcReq hd)
  | .call _ => True

theorem Keeps.kill_ne (h : Keeps b st j) (hj : j ≠ six) : Keeps b (st.kill six) j :=
  h.setSession_ne hj _

theorem keeps_dispatch {isNew : Bool} {rpcReq : RpcHeader} {hd : Handling} (hquiet : Quiet st six)
    (h : ∀ j, j ≠ six → Keeps true st j) (hsix : Keeps false st six)
    (hnew : isNew = true → st.outstanding six = none)
    (htransmits : st.Transmits six rpcReq hd out)
    (hanswers : st.outstanding six ≠ none → st.Answers six rpcReq hd)
    (hdone : st.dispatch six isNew rpcReq hd out = some st') (j : ℕ) : Keeps true st' j := by
  have hnone (hne : ¬st.Answers six rpcReq hd) : st.outstanding six = none :=
    not_not.mp fun hsome => hne (hanswers hsome)
  unfold Resender.dispatch at hdone
  dsimp only at hdone
  split at hdone
  · -- a ping is no answer
    next htype =>
    have hno := hnone (by rintro (⟨h, _⟩ | ⟨h, _⟩ | ⟨h | h | h, _⟩) <;> rw [htype] at h <;> cases h)
    cases hdone
    by_cases hj : j = six
    · subst hj
      refine Keeps.of_none hno ?_
      rw [setSession_session_self]
      exact hquiet.resendTimeout
    · exact (h j hj).setSession_ne hj _
  split at hdone
  · -- nor is a request
    next htype =>
    have hno := hnone (by rintro (⟨h, _⟩ | ⟨h, _⟩ | ⟨h | h | h, _⟩) <;> rw [htype] at h <;> cases h)
    cases hdone
    by_cases hj : j = six
    · subst hj
      have hquiet' := hquiet.answer rpcReq hd
      have hno' := answer_none hno rpcReq hd
      have hkeeps : Keeps false (st.answer j rpcReq hd) j :=
        Keeps.of_none hno' hquiet'.resendTimeout
      have hlen : ((st.answer j rpcReq hd).session j).outBufLen = hd.outBufLen := by
        unfold Resender.answer Resender.handle
        dsimp only
        rw [setSession_session_self]
      rcases endResponse_cases (st.responseStart j rpcReq hd) ((st.answer j rpcReq hd).session j)
        with ⟨_, hsilent⟩ | ⟨hlong, hput⟩
      · exact hkeeps.begin_silent hsilent hno'
      · obtain ⟨hsent, hadded, ar, hready⟩ := htransmits.1 htype (hlen ▸ hlong) hput.isOpen
        exact hkeeps.begin_putOut (hquiet'.tidy j) hput hsent hadded hready
    · exact ((h j hj).answer hj rpcReq hd).begin_ne hj
  split at hdone
  · next htype =>
    cases hdone
    by_cases hj : j = six
    · subst hj
      rcases fragAck_cases rpcReq (st.session j) with ⟨hclosed, hsilent⟩ | ⟨hmore, hput⟩
      · -- what waits has another fragment to send, and a socket for it
        cases hq : st.outstanding j with
        | none => exact hsix.begin_silent hsilent hq
        | some q =>
          have hopen := (hsix.waits q hq).1.isOpen
          rcases hanswers (by simp [hq]) with ⟨_, hmore⟩ | ⟨h, _⟩ | ⟨h | h | h, _⟩
          · exact absurd (hclosed hmore) (Int.not_lt.mpr hopen)
          all_goals
            rw [htype] at h
            cases h
      · obtain ⟨hsent, hadded, ar, hready⟩ := htransmits.2 htype hmore hput.isOpen
        exact hsix.begin_putOut (hquiet.tidy j) hput hsent hadded hready
    · exact (h j hj).begin_ne hj
  split at hdone
  · next htype =>
    have hconfirms (hsome : st.outstanding six ≠ none) : rpcReq.opnum = PF_RPC_DEV_OPNUM_CONTROL ∧
        (hd.kill = true ∨ ∃ ar, (st.session six).ar = some ar ∧ Call.abort ar ∈ hd.calls) := by
      rcases hanswers hsome with ⟨h, _⟩ | ⟨_, h⟩ | ⟨h | h | h, _⟩
      · rw [htype] at h
        cases h
      · exact h
      all_goals
        rw [htype] at h
        cases h
    split at hdone
    · next hisNew =>
      cases hdone
      by_cases hj : j = six
      · subst hj
        exact Keeps.of_none (hnew hisNew) hquiet.kill.resendTimeout
      · exact (h j hj).kill_ne hj
    · split at hdone
      · next hopnum =>
        cases hdone
        by_cases hj : j = six
        · subst hj
          refine Keeps.of_none ?_ hquiet.resendTimeout
          exact not_not.mp fun hsome => hopnum (hconfirms hsome).1
        · exact h j hj
      · obtain ⟨ar, har, rfl⟩ := Option.map_eq_some_iff.mp hdone
        unfold confirm
        dsimp only
        split
        · by_cases hj : j = six
          · subst hj
            refine Keeps.of_none (Function.update_self ..) ?_
            exact (hquiet.calls hd.calls).kill.resendTimeout
          · refine (((h j hj).calls hd.calls).kill_ne hj).of_same ?_ rfl rfl rfl
            exact Function.update_of_ne hj _ _
        · next hkill =>
          by_cases hj : j = six
          · subst hj
            refine Keeps.of_none ?_ (hquiet.calls hd.calls).resendTimeout
            cases hq : st.outstanding j with
            | none => exact calls_none hq hd.calls
            | some q =>
              rcases (hconfirms (by simp [hq])).2 with hk | ⟨own, hown, hmem⟩
              · exact absurd hk hkill
              · exact calls_abort hsix hq hown hmem
          · exact (h j hj).calls hd.calls
  split at hdone
  · next htype =>
    cases hdone
    by_cases hj : j = six
    · subst hj
      refine Keeps.of_none ?_ (hquiet.cmAbort _).kill.resendTimeout
      show (st.cmAbort (st.session j).ar).outstanding j = none
      cases hq : st.outstanding j with
      | none => exact cmAbort_none hq _
      | some q =>
        obtain ⟨_, _, _, ar, hready, _⟩ := (hsix.waits q hq).1
        have habortable : (st.net.ars ar).abortable = true := by
          rcases hanswers (by simp [hq]) with ⟨h, _⟩ | ⟨h, _⟩ | ⟨_, habort⟩
          · rcases htype with htype | htype | htype <;> rw [htype] at h <;> cases h
          · rcases htype with htype | htype | htype <;> rw [htype] at h <;> cases h
          · exact habort ar hready.sessionAr
        rw [hready.sessionAr, Resender.cmAbort, if_pos habortable]
        exact abort_outstanding hsix hready.sessionAr
    · exact ((h j hj).cmAbort _).kill_ne hj
  · -- a packet of another type
    next hack hresponse hend =>
    cases hdone
    by_cases hj : j = six
    · subst hj
      refine Keeps.of_none (hnone ?_) hquiet.resendTimeout
      rintro (⟨h, _⟩ | ⟨h, _⟩ | ⟨h, _⟩)
      · exact hack h
      · exact hresponse h
      · exact hend h
    · exact h j hj

/-! ## Steps -/

/-- Nothing is outstanding in a session that is not in use. -/
theorem outstanding_of_free (h : ∀ j, Keeps true st j) (hfree : st.net.freeSession = some six) :
    st.outstanding six = none := by
  have hunused : (st.net.sessions six).inUse = false := by
    simpa using List.find?_some hfree
  cases hq : st.outstanding six with
  | none => rfl
  | some q => exact Bool.noConfusion (hunused.symm.trans ((h six).waits q hq).1.inUse)

theorem keeps_allocate {s : Session} (h : ∀ j, Keeps true st j)
    (hfree : st.net.freeSession = some six) (htimer : s.resendTimeout = false) (j : ℕ) :
    Keeps true (st.setSession six s) j := by
  have hnone := outstanding_of_free h hfree
  by_cases hj : j = six
  · subst hj
    refine Keeps.of_none hnone ?_
    rw [setSession_session_self]
    exact htimer
  · exact (h j).setSession_ne hj s

theorem keeps_locate {p : Packet} {activityUuid : Uuid} {isNew : Bool} (h : ∀ j, Keeps true st j)
    (hlocate : st.locate p activityUuid = some (st', six, isNew)) :
    (∀ j, Keeps true st' j) ∧ (isNew = true → st'.outstanding six = none) := by
  unfold Resender.locate at hlocate
  split at hlocate
  · cases hlocate
    exact ⟨h, fun hnew => Bool.noConfusion hnew⟩
  · obtain ⟨_, hfree, heq⟩ := Option.map_eq_some_iff.mp hlocate
    have hnone := outstanding_of_free h hfree
    cases heq
    rw [sessionAllocate_self]
    exact ⟨keeps_allocate h hfree rfl, fun _ => hnone⟩

/-- The timer of the session stops; a response does not wait any longer. -/
theorem keeps_file (h : ∀ j, Keeps true st j) (six : ℕ) (p : Packet) :
    (∀ j, j ≠ six → Keeps true (st.file six p) j) ∧ Keeps false (st.file six p) six ∧
      ((st.file six p).outstanding six = none ∨
        (st.file six p).outstanding six = st.outstanding six) := by
  obtain ⟨halike, hstop, _⟩ := receivePacket_alike p (st.session six)
  have hself : (st.file six p).session six = (receivePacket p (st.session six)).1 :=
    Net.setSession_self ..
  have hout : (st.file six p).outstanding = if (st.session six).fromMe = true then st.outstanding
      else Function.update st.outstanding six none := rfl
  refine ⟨?_, ?_, ?_⟩
  · intro j hj
    apply (h j).of_same
    · rw [hout]
      split
      · rfl
      · exact Function.update_of_ne hj _ _
    · exact Net.setSession_of_ne hj _
    · rfl
    · rfl
  · have htimer : ((st.file six p).session six).resendTimeout = false := by
      rw [hself]
      exact hstop
    constructor
    · intro q hq
      refine ⟨?_, htimer⟩
      rw [hout] at hq
      split at hq
      · obtain ⟨huse, hlt, hopen, ar, hready, heq⟩ := ((h six).waits q hq).1
        rw [← hself] at halike
        exact ⟨halike.inUse.trans huse, hlt, halike.socket ▸ hopen, ar,
          hready.congr halike rfl rfl fun _ => id, heq⟩
      · rw [Function.update_self] at hq
        cases hq
    · exact fun _ => htimer
    · exact fun hruns => Bool.noConfusion (htimer.symm.trans hruns)
  · rw [hout]
    split
    · exact .inr rfl
    · exact .inl (Function.update_self ..)

theorem keeps_dcePacket {p : Packet} {activityUuid : Uuid} {hd : Handling}
    (htidy : ∀ j, Tidy st j) (h : ∀ j, Keeps true st j)
    (hgood : st.Good (.packet p activityUuid hd out))
    (hdone : st.dcePacket p activityUuid hd out = some st') (j : ℕ) : Keeps true st' j := by
  unfold Resender.dcePacket at hdone
  split at hdone
  · cases hdone
    exact h j
  · next st1 six isNew hlocate =>
    obtain ⟨htransmits, hanswers⟩ := hgood st1 six isNew hlocate
    obtain ⟨hkeeps, hnew⟩ := keeps_locate h hlocate
    obtain ⟨hothers, hsix, hfiled⟩ := keeps_file hkeeps six p
    have hquiet : Quiet (st1.file six p) six := Quiet.file (Tidy.locate htidy hlocate) p
    obtain ⟨st2, hdispatch, rfl⟩ := Option.map_eq_some_iff.mp hdone
    apply Keeps.killIfNecessary
    split at hdispatch
    · next hcomplete =>
      refine keeps_dispatch hquiet hothers hsix ?_ (htransmits hcomplete)
        (fun hsome => (hanswers hsome).2) hdispatch j
      intro hisNew
      rcases hfiled with hnone | hsame
      · exact hnone
      · exact hsame.trans (hnew hisNew)
    · -- more fragments of the message are to come
      next hmore =>
      cases hdispatch
      by_cases hj : j = six
      · subst hj
        refine Keeps.of_none ?_ hquiet.resendTimeout
        exact not_not.mp fun hsome => hmore (hanswers hsome).1
      · exact hothers j hj

theorem keeps_rmCcontrolReq {req : CcontrolReq} (htidy : ∀ j, Tidy st j)
    (h : ∀ j, Keeps true st j) (huse : (st.net.ars ar).inUse = true)
    (hgood : st.Good (.ccontrolReq ar req out)) (j : ℕ) :
    Keeps true (st.rmCcontrolReq ar req out) j := by
  unfold Resender.rmCcontrolReq
  split
  · exact h j
  · next six hfree =>
    obtain ⟨hopen, hsent, hadded, honly⟩ := hgood huse six hfree
    dsimp only
    rw [sessionAllocate_self]
    -- the session of the request, and what it is going to wait for
    generalize hs : ccontrolSession ar (((st.net.ars ar).sess.map fun own =>
      (st.session own).ipAddr).getD 0) req.socket req.objectUuid req.blocks { clearedSession with
        inUse := true, activityUuid := req.activityUuid, dcontrolSequenceNmb := UINT32_MAX } = s
    have hlen : 0 < s.outBufSendLen := hs ▸ ccontrolSession_sendLen ..
    have hsocket : 0 ≤ s.socket := hs ▸ hopen
    have hsession : ∀ outstanding, ({ st.setSession six s with outstanding } : Resender).session six =
        s := fun _ => setSession_session_self s
    have htimer : s.resendTimeout = false := hs ▸ rfl
    have hready : ∀ outstanding, ({ st.setSession six s with outstanding } : Resender).Ready six ar := by
      intro outstanding
      constructor
      · exact huse
      · rw [hsession, ← hs]
        rfl
      · rw [hsession, ← hs]
        rfl
      · left
        rw [hsession, ← hs]
        rfl
      · exact honly
    have htidy' : ∀ outstanding, Tidy { st.setSession six s with outstanding } six := by
      intro outstanding
      exact (Tidy.allocate htidy hfree (hs ▸ rfl) htimer (hs ▸ rfl) six).congr rfl rfl
        (SameTimer.refl _)
    by_cases hj : j = six
    · subst hj
      rcases firstSend_cases hlen with ⟨hclosed, _⟩ | hput
      · exact absurd hclosed (Int.not_lt.mpr hsocket)
      · refine Keeps.begin_putOut ?_ (htidy' _) (by rw [hsession]; exact hput) hsent hadded (hready _)
        constructor
        · intro q hq
          have hself : Function.update (st.setSession j s).outstanding j
              (some ((st.setSession j s).purpose j)) j = some ((st.setSession j s).purpose j) :=
            Function.update_self ..
          have hq' : (st.setSession j s).purpose j = q := Option.some.inj (hself.symm.trans hq)
          refine ⟨⟨?_, ?_, ?_, ar, hready _, ?_⟩, ?_⟩
          · rw [hsession, ← hs]
            rfl
          · exact List.mem_range.mp (List.mem_of_find?_eq_some hfree)
          · rw [hsession]
            exact hsocket
          · rw [← hq', purpose, setSession_session_self, ← hs]
            rfl
          · rw [hsession]
            exact htimer
        · intro _
          rw [hsession]
          exact htimer
        · rw [hsession]
          exact fun _ => hlen
    · refine Keeps.begin_ne (((h j).setSession_ne hj s).of_same ?_ rfl rfl rfl) hj
      exact Function.update_of_ne hj _ _

theorem Keeps.resetHandle (h : Keeps b st six) : Keeps false (st.resetHandle six) six := by
  have hsession : (st.resetHandle six).session six = { st.session six with resendTimeout := false } :=
    setSession_session_self _
  have halike : Alike (st.session six) { st.session six with resendTimeout := false } :=
    ⟨rfl, rfl, rfl, rfl, rfl, id⟩
  rw [← hsession] at halike
  constructor
  · intro q hq
    obtain ⟨⟨huse, hlt, hopen, ar, hready, heq⟩, _⟩ := h.waits q hq
    refine ⟨⟨halike.inUse.trans huse, hlt, halike.socket ▸ hopen, ar,
      hready.congr halike rfl rfl fun _ => id, heq⟩, ?_⟩
    rw [hsession]
  · intro _
    rw [hsession]
  · rw [hsession]
    exact fun hruns => Bool.noConfusion hruns

theorem noReaction_abortable (habortable : (st.net.ars ar).abortable = true) :
    ((st.noReaction ar).net.ars ar).abortable = true := by
  have hself : (st.noReaction ar).net.ars ar = { st.net.ars ar with
      errCls := PNET_ERROR_CODE_1_RTA_ERR_CLS_PROTOCOL
      errCode := PNET_ERROR_CODE_2_ABORT_AR_RPC_CONTROL_ERROR } := Net.setAr_self ..
  rw [hself]
  exact habortable

/-- The AR is aborted, and everything that waits for it ends. -/
theorem keeps_giveUp (h : ∀ j, Keeps true st j) (har : (st.session six).ar = some ar)
    (habortable : (st.net.ars ar).abortable = true) :
    ∃ st', st.giveUp six = some st' ∧ (∀ j, Keeps true st' j) ∧ st'.outstanding six = none ∧
      (st'.net.ars ar).inUse = false := by
  have hreset : Keeps false ((st.resetHandle six).noReaction ar) six :=
    (h six).resetHandle.setAr rfl rfl
  have hother (j : ℕ) (hj : j ≠ six) : Keeps true ((st.resetHandle six).noReaction ar) j :=
    ((h j).setSession_ne hj _).setAr rfl rfl
  have hsessionAr : (((st.resetHandle six).noReaction ar).session six).ar = some ar := by
    rw [show ((st.resetHandle six).noReaction ar).session six = _ from setSession_session_self _]
    exact har
  have hcm : ((st.resetHandle six).noReaction ar).cmAbort (some ar) =
      ((st.resetHandle six).noReaction ar).abort ar := if_pos (noReaction_abortable habortable)
  have hgiveUp : st.giveUp six =
      some ((((st.resetHandle six).noReaction ar).cmAbort (some ar)).closeSocket six) := by
    rw [giveUp, har, Option.map_some]
  rw [hcm] at hgiveUp
  generalize (st.resetHandle six).noReaction ar = st1 at hreset hother hsessionAr hgiveUp
  have hnone : (st1.abort ar).outstanding six = none := abort_outstanding hreset hsessionAr
  have hidle := (hreset.abort ar).idle hnone
  have hall (j : ℕ) : Keeps true (st1.abort ar) j := by
    by_cases hj : j = six
    · subst hj
      exact Keeps.of_none hnone hidle
    · exact (hother j hj).abort ar
  have hgone : ((st1.abort ar).net.ars ar).inUse = false := by
    rw [show (st1.abort ar).net.ars = (st1.net.arRelease ar).ars from Net.abort_ars]
    exact Net.arRelease_self
  refine ⟨(st1.abort ar).closeSocket six, hgiveUp, ?_, ?_, ?_⟩
  · intro j
    unfold Resender.closeSocket
    split
    · by_cases hj : j = six
      · subst hj
        refine Keeps.of_none hnone ?_
        rw [setSession_session_self]
        exact hidle
      · exact (hall j).setSession_ne hj _
    · exact hall j
  · unfold Resender.closeSocket
    split <;> exact hnone
  · unfold Resender.closeSocket
    split <;> exact hgone

theorem Keeps.popTimeout (h : Keeps b st j) (six : ℕ) : Keeps b (st.popTimeout six) j :=
  h.of_same rfl rfl rfl rfl

theorem pending_of_waits (htidy : Tidy st six) (h : Keeps true st six)
    (hq : st.outstanding six = some q) : st.timeouts six ≠ 0 := by
  rw [htidy.timeouts, (h.waits q hq).2]
  decide

/-- One more lost answer. -/
theorem keeps_resend (htidy : Tidy st six) (h : Keeps true st six)
    (hq : st.outstanding six = some q) (hsent : out.sent = true) (hadded : out.added = true) :
    Keeps true ((st.popTimeout six).put out six (sendWithTimeout (st.session six)).1) six := by
  have hruns := (h.waits q hq).2
  have hwaits := (h.waits q hq).1
  apply Keeps.put_putOut
  · exact hq
  · exact hwaits.congr rfl rfl
  · exact sendWithTimeout_open (htidy.isOpen hruns) (h.sendLen hruns)
  · exact hsent
  · exact hadded

/-- A timer that expires: the packet goes out again, or the AR is aborted. -/
theorem keeps_expire (htidy : ∀ j, Tidy st j) (h : ∀ j, Keeps true st j)
    (hgood : st.Good (.expire six out)) (hdone : st.expire six out = some st') (j : ℕ) :
    Keeps true st' j := by
  by_cases hpending : st.timeouts six = 0
  · have hnone : st.expire six out = some st := if_pos hpending
    cases hnone.symm.trans hdone
    exact h j
  obtain ⟨hruns, hopen, _⟩ := (htidy six).of_pending hpending
  have hgood' := hgood hpending
  rw [expire_pending (htidy six) hpending] at hdone
  cases hq : st.outstanding six with
  | none => exact Bool.noConfusion (((h six).idle hq).symm.trans hruns)
  | some q =>
    split at hdone
    · next hcounter =>
      rw [if_pos hcounter] at hgood'
      cases hdone
      by_cases hj : j = six
      · subst hj
        exact keeps_resend (htidy j) (h j) hq hgood'.1 hgood'.2
      · exact ((h j).popTimeout six).put_ne hj
    · next hcounter =>
      rw [if_neg hcounter] at hgood'
      obtain ⟨_, _, _, ar, hready, _⟩ := ((h six).waits q hq).1
      obtain ⟨st1, hst1, hkeeps, _⟩ := keeps_giveUp (fun i => (h i).popTimeout six)
        hready.sessionAr (hgood' ar hready.sessionAr)
      cases hst1.symm.trans hdone
      exact hkeeps j

theorem keeps_step {e : Event} (htidy : ∀ j, Tidy st j) (h : ∀ j, Keeps true st j)
    (hgood : st.Good e) (hstep : st.step e = some st') (j : ℕ) : Keeps true st' j := by
  cases e with
  | ccontrolReq ar req out =>
    cases hstep
    split
    · next huse => exact keeps_rmCcontrolReq htidy h huse hgood j
    · exact h j
  | expire six out => exact keeps_expire htidy h hgood hstep j
  | packet p activityUuid hd out => exact keeps_dcePacket htidy h hgood hstep j
  | call c =>
    cases hstep
    exact (h j).call c

/-! ## Runs -/

/-- What waits has its timeout, a timeout that expires finds the AR that it has been started for, and
without an answer the last one ends the wait with that AR. -/
structure Attended (st : Resender) : Prop where
  once : ∀ six, st.timeouts six ≤ 1
  bounded : ∀ six, st.sent six ≤ PF_CMRPC_NUMBER_OF_RESENDS
  safe : ∀ six, st.timeouts six ≠ 0 → ∃ ar, (st.session six).ar = some ar ∧
    (st.net.ars ar).inUse = true ∧ st.outstanding six = some ⟨some ar, st.connection ar⟩
  kept : ∀ six q, st.outstanding six = some q → st.timeouts six = 1
  ends : ∀ six q, st.outstanding six = some q → ∀ ar, (st.session six).ar = some ar →
    (st.net.ars ar).abortable = true →
      ∃ st', Runs.run step st (List.replicate ((st.session six).resendCounter + 1)
          (.expire six ⟨true, true⟩)) = some st' ∧
        st'.outstanding six = none ∧ (st'.net.ars ar).inUse = false

/-- Without an answer, the timeouts of a session come to an end. -/
theorem ends_of_silence (htidy : ∀ j, Tidy st j) (h : ∀ j, Keeps true st j)
    (hq : st.outstanding six = some q) (har : (st.session six).ar = some ar)
    (habortable : (st.net.ars ar).abortable = true) {n : ℕ} (hn : (st.session six).resendCounter = n) :
    ∃ st', Runs.run step st (List.replicate (n + 1) (.expire six ⟨true, true⟩)) = some st' ∧
      st'.outstanding six = none ∧ (st'.net.ars ar).inUse = false := by
  induction n generalizing st with
  | zero =>
    have hexpire := expire_pending (htidy six) (pending_of_waits (htidy six) (h six) hq) ⟨true, true⟩
    rw [if_neg (by omega)] at hexpire
    obtain ⟨st1, hst1, _, hnone, hgone⟩ := keeps_giveUp (fun i => (h i).popTimeout six) har habortable
    refine ⟨st1, ?_, hnone, hgone⟩
    exact Option.bind_eq_some_iff.mpr ⟨st1, hexpire.trans hst1, rfl⟩
  | succ n ih =>
    have hexpire := expire_pending (htidy six) (pending_of_waits (htidy six) (h six) hq) ⟨true, true⟩
    rw [if_pos (by omega)] at hexpire
    have hruns := ((h six).waits q hq).2
    have hput := sendWithTimeout_open ((htidy six).isOpen hruns) ((h six).sendLen hruns)
    have hkeeps (j : ℕ) := keeps_expire htidy h (fun _ => by rw [if_pos (by omega)]; exact ⟨rfl, rfl⟩)
      hexpire j
    have htidy' (j : ℕ) := Tidy.expire htidy hexpire j
    have hsession : ((st.popTimeout six).put ⟨true, true⟩ six (sendWithTimeout (st.session six)).1).session
        six = _ := Net.setSession_self ..
    obtain ⟨st', hrun, hends⟩ := ih htidy' hkeeps hq (by rw [hsession]; exact hput.ar.trans har)
      habortable (by rw [hsession]; exact hput.resendCounter.trans (by omega))
    exact ⟨st', Option.bind_eq_some_iff.mpr ⟨_, hexpire, hrun⟩, hends⟩

theorem powerOn_keeps (rpcreqSocket : ℤ) (j : ℕ) : Keeps true (powerOn rpcreqSocket) j :=
  Keeps.of_none rfl rfl

/-- While every step is good, what the device waits for is attended to. -/
theorem waits_end (rpcreqSocket : ℤ) (es : List Event)
    (hgood : Runs.Along step Good (powerOn rpcreqSocket) es)
    (hrun : Runs.run step (powerOn rpcreqSocket) es = some st) : st.Attended := by
  have hinv : (∀ j, Tidy st j) ∧ ∀ j, Keeps true st j := by
    refine Runs.invariant (I := fun st => (∀ j, Tidy st j) ∧ ∀ j, Keeps true st j) ?_
      ⟨powerOn_tidy rpcreqSocket, powerOn_keeps rpcreqSocket⟩ hgood hrun
    intro st e st' h hgood hstep
    exact ⟨Tidy.step h.1 hstep, keeps_step h.1 h.2 hgood hstep⟩
  obtain ⟨htidy, h⟩ := hinv
  constructor
  · exact fun six => (resends_bounded hrun six).1
  · exact fun six => (resends_bounded hrun six).2
  · intro six hpending
    have hruns := ((htidy six).of_pending hpending).1
    cases hq : st.outstanding six with
    | none => exact Bool.noConfusion (((h six).idle hq).symm.trans hruns)
    | some q =>
      obtain ⟨⟨_, _, _, ar, hready, rfl⟩, _⟩ := (h six).waits q hq
      exact ⟨ar, hready.sessionAr, hready.inUse, rfl⟩
  · intro six q hq
    rw [(htidy six).timeouts, ((h six).waits q hq).2]
    rfl
  · intro six q hq ar har habortable
    exact ends_of_silence htidy h hq har habortable rfl

/-! ## An example -/

namespace ResendRun

def requestPacket (opnum : BitVec 16) (activity : BitVec 32) : Packet where
  toDatagram := datagramOf
    { blankHeader with
      version := 4, isBigEndian := true, interfaceUuid := uuidIoDeviceInterface, opnum
      activityUuid := { zeroUuid with data1 := activity } } []
  ipAddr := 0xC0A80001
  port := 0xC000

def handling (connect : Option (Ar × Bool)) (outBufLen : ℕ) : Handling :=
  ⟨connect, [], false, 4500, fun _ => 0, outBufLen⟩

def works : Outlet := ⟨true, true⟩

/-- A controller connects. -/
def connect : Event :=
  .packet (requestPacket 0 1) zeroUuid (handling (some (clearedAr, true)) 200) works

/-- It reads a long record, with another activity UUID. -/
def read : Event :=
  .packet (requestPacket PF_RPC_DEV_OPNUM_READ 2) zeroUuid (handling none 2000) works

/-- The device tells the controller that it is ready. -/
def applRdy (out : Outlet) : Event :=
  .ccontrolReq 0 ⟨{ zeroUuid with data1 := 3 }, zeroUuid, List.replicate 32 0, 5⟩ out

theorem connect_good : (powerOn 3).Good connect := by
  intro st1 six isNew hlocate
  have htype : (received (requestPacket 0 1).toDatagram).1.packetType = PF_RPC_PT_REQUEST := by
    decide +kernel
  refine ⟨fun _ => ⟨fun _ hlong => ?_, fun hack => ?_⟩, fun hsome => ?_⟩
  · exact absurd hlong (by decide)
  · rw [htype] at hack
    cases hack
  · refine absurd ?_ hsome
    obtain ⟨hkeeps, hnew⟩ := keeps_locate (powerOn_keeps 3) hlocate
    have hsame : st1.outstanding six = none := by
      unfold Resender.locate at hlocate
      split at hlocate
      · cases hlocate
        rfl
      · obtain ⟨_, _, heq⟩ := Option.map_eq_some_iff.mp hlocate
        cases heq
        rfl
    rcases (keeps_file hkeeps six (requestPacket 0 1)).2.2 with hnone | heq
    · exact hnone
    · exact heq.trans hsame

/-- The AR takes its place in the table. -/
theorem connected_ars {st : Resender} {i : ℕ} (hars : st.net.ars = fun _ => clearedAr) (hi : i ≠ 0) :
    ((st.rmConnectInd 0 clearedAr true []).net.ars i).sess = none := by
  have hfree : st.net.freeAr = some 0 := by
    unfold Net.freeAr
    rw [hars]
    rfl
  unfold Resender.rmConnectInd
  rw [hfree]
  show (Function.update st.net.ars 0 _ i).sess = none
  rw [Function.update_of_ne hi, hars]
  rfl

theorem connect_ars {st : Resender} (hstep : (powerOn 3).step connect = some st) (i : ℕ) (hi : i ≠ 0) :
    (st.net.ars i).sess = none := by
  have hlocate : ∃ st1, (powerOn 3).locate (requestPacket 0 1) zeroUuid = some (st1, 0, true) ∧
      st1.net.ars = fun _ => clearedAr := by
    unfold Resender.locate
    rw [show (powerOn 3).net.sessionLocateByUuid
        (received (requestPacket 0 1).toDatagram).1.activityUuid = none by decide +kernel,
      show (powerOn 3).net.freeSession = some 0 by decide +kernel]
    exact ⟨_, rfl, rfl⟩
  obtain ⟨st1, hst1, hars⟩ := hlocate
  have htype : (received (requestPacket 0 1).toDatagram).1.packetType = PF_RPC_PT_REQUEST := by
    decide +kernel
  have hcomplete : complete (received (requestPacket 0 1).toDatagram).1 = true := by decide +kernel
  unfold connect step dcePacket at hstep
  simp only [hst1, hcomplete, if_true] at hstep
  unfold dispatch at hstep
  simp only [htype] at hstep
  rw [if_neg (by decide), if_pos trivial, Option.map_some] at hstep
  cases hstep
  have hkill (st : Resender) : (st.killIfNecessary 0).net.ars = st.net.ars := by
    unfold Resender.killIfNecessary
    split
    · exact Net.sessionRelease_ars 0
    · rfl
  have hbegin (st : Resender) (s : Session) : (st.begin works 0 s).net.ars = st.net.ars := rfl
  have hset (st : Resender) (s : Session) : (st.setSession 0 s).net.ars = st.net.ars := rfl
  rw [hkill, hbegin]
  unfold Resender.answer Resender.handle
  simp only [handling]
  rw [hset]
  exact connected_ars (by exact hars) hi

end ResendRun

open ResendRun in
/-- A CControl request that goes out waits for its answer. -/
theorem waits_end_applRdy : ∃ st, Runs.run step (powerOn 3) [connect, applRdy works] = some st ∧
    st.outstanding 1 = some ⟨some 0, 0⟩ ∧ st.Attended := by
  have hrun : (Runs.run step (powerOn 3) [connect, applRdy works]).map (fun st => st.outstanding 1) =
      some (some ⟨some 0, 0⟩) := by
    decide +kernel
  obtain ⟨st, hst, hout⟩ := Option.map_eq_some_iff.mp hrun
  refine ⟨st, hst, hout, waits_end 3 [connect, applRdy works] ⟨connect_good, fun st1 hst1 => ⟨?_, fun _ _ => trivial⟩⟩ hst⟩
  intro _ six hfree
  have hsession : ((powerOn 3).step connect).map (fun st => st.net.freeSession) = some (some 1) := by
    decide +kernel
  rw [hst1, Option.map_some, hfree] at hsession
  cases hsession
  refine ⟨by decide, rfl, rfl, fun i hi => ?_⟩
  by_contra hne
  exact absurd ((connect_ars hst1 i hne).symm.trans hi) (by simp)

open ResendRun in
/-- The request cannot be sent, and nothing else comes of it; a response is resent for an AR that was
never set. -/
theorem not_waits_end :
    (∃ st, Runs.run step (powerOn 3) [connect, applRdy ⟨false, true⟩] = some st ∧
      (st.net.ars 0).inUse = true ∧ st.outstanding 1 = some ⟨some 0, 0⟩ ∧ st.timeouts 1 = 0) ∧
    (∃ st, Runs.run step (powerOn 3) [connect, read] = some st ∧ st.timeouts 1 = 1 ∧
      (st.session 1).ar = none) ∧
    Runs.run step (powerOn 3)
      [connect, read, .expire 1 works, .expire 1 works, .expire 1 works] = none := by
  have hsend : (Runs.run step (powerOn 3) [connect, applRdy ⟨false, true⟩]).map
      (fun st => ((st.net.ars 0).inUse, st.outstanding 1, st.timeouts 1)) =
      some (true, some ⟨some 0, 0⟩, 0) := by
    decide +kernel
  have hread : (Runs.run step (powerOn 3) [connect, read]).map
      (fun st => (st.timeouts 1, (st.session 1).ar)) = some (1, none) := by
    decide +kernel
  have hnull : (Runs.run step (powerOn 3)
      [connect, read, .expire 1 works, .expire 1 works, .expire 1 works]).isNone = true := by
    decide +kernel
  obtain ⟨st1, hst1, h1⟩ := Option.map_eq_some_iff.mp hsend
  obtain ⟨st2, hst2, h2⟩ := Option.map_eq_some_iff.mp hread
  simp only [Prod.mk.injEq] at h1 h2
  exact ⟨⟨st1, hst1, h1⟩, ⟨st2, hst2, h2⟩, Option.isNone_iff_eq_none.mp hnull⟩

end Resender

end PNet.Rpc
