import PNet.Lldp.Peer

/-! # Keeping track of a peer

The flag, the information and the timer of a port go together: what is known has been heard last, and a
timer is pending for it. Only a packet that repeats what has been forgotten goes unnoticed, since it is
compared with what is left of the old information.

* `tracks_iff`: the information about a peer is what it should be, all the time, in exactly the runs in
  which no packet repeats what has been forgotten
-/

namespace PNet.Lldp

open Block Scheduler

/-! ## The invariant -/

structure Watched.Inv (tickInterval : Time) (port : ℕ) (w : Watched) : Prop where
  tidy : rxTimers.Tidy w.st.sched
  ticks : w.st.sched.tickInterval = tickInterval
  named : ∀ i, w.st.IsValid i → rxTimers.Named w.st.sched () i
  settled : rxTimers.Settled w.st.sched () port
  /-- Known is what has been heard last, and a timer is pending for it. -/
  known : (w.st.ports port).isPeerInfoReceived = true →
    ∃ x, w.heard = some x ∧ (w.st.ports port).peerInfo = x.info ∧
      ∃ e, rxTimers.Runs w.st.sched () port e ∧ e.when = x.expiry tickInterval
  forgotten : (w.st.ports port).isPeerInfoReceived = false → ∀ x, w.heard = some x →
    ∃ now ∈ x.rounds, Over now (x.expiry tickInterval)
  sorted : w.near → Queue.Sorted (pending w.st.sched)

section
variable {tickInterval now : Time} {port i : ℕ} {w : Watched} {st st' : Peers} {s s' : St}

theorem Watched.Inv.tracks (h : w.Inv tickInterval port) : Tracks tickInterval port w := by
  constructor
  · intro e e' he he'
    rcases h.settled with hidle | ⟨e0, -, hall⟩
    · exact absurd he (hidle e)
    · rw [(hall e).mp he, (hall e').mp he']
  · intro hreceived
    rcases h.known hreceived with ⟨x, hx, hinfo, -⟩
    exact ⟨x, hx, hinfo⟩
  · intro x hx hnone
    by_contra hforgotten
    rcases h.forgotten (Bool.not_eq_true _ ▸ hforgotten) x hx with ⟨now, hnow, hover⟩
    exact hnone now hnow hover
  · intro x hx now hnear harc hend hover
    by_contra hreceived
    rcases h.known (Bool.not_eq_false _ ▸ hreceived) with ⟨y, hy, -, e, he, hwhen⟩
    obtain rfl := Option.some.inj (hx.symm.trans hy)
    rcases h.tidy.represents with ⟨q, hq⟩
    have hsorted := h.sorted hnear
    rw [Near, hq.pending_eq] at harc
    rw [hq.pending_eq] at hsorted
    -- the first timer has not expired, so none has
    have hfirst : ¬ ∃ timer q', q = timer :: q' ∧ 0 ≤ diff now timer.when := by
      intro hex
      rw [(hq.expired_iff now).mpr hex] at hend
      cases hend
    have hmem : e ∈ q := hq.pending_eq ▸ he.1
    have hnot := of_decide_eq_false (none_expired hsorted harc hfirst e hmem)
    rw [hwhen] at hnot
    exact hnot hover

/-! ## The timer of a port -/

/-- What restarting the timer of a port does to the timers. -/
theorem restartPeerTimeout_spec (ht : rxTimers.Tidy st.sched)
    (hname : rxTimers.Named st.sched () i) {ttl : BitVec 16} {r : ℤ × Peers}
    (h : st.restartPeerTimeout i ttl now = some r) :
    rxTimers.Tidy r.2.sched ∧ rxTimers.Within (Family.only () i) st.sched r.2.sched ∧
      rxTimers.Named r.2.sched () i ∧ (∃ sched, r.2 = { st with sched }) ∧
      (∃ c, doCall st.sched c = some r.2.sched) ∧
      (rxTimers.Settled st.sched () i → rxTimers.Settled r.2.sched () i ∧
        (ttl.toNat ≤ LLDP_PEER_MAX_TTL_IN_SECS → r.1 = 0 → ∃ e, rxTimers.Runs r.2.sched () i e ∧
          e.when = now + lifeTime st.sched.tickInterval ttl)) := by
  rcases Option.bind_eq_some_iff.mp h with ⟨s1, hs1, hr⟩
  rcases ht.removeIfRunning hs1 with ⟨ht1, hw1, hnamed1, hruns1, harmed1⟩
  have hidle (hsettled : rxTimers.Settled st.sched () i) : rxTimers.Idle s1 () i := by
    rcases hsettled with hidle | harmed
    · exact fun e he => hidle e (hruns1 e he)
    · exact harmed1 harmed
  by_cases hlong : LLDP_PEER_MAX_TTL_IN_SECS < ttl.toNat
  · rw [if_pos hlong] at hr
    obtain rfl := Option.some.inj hr
    refine ⟨ht1, hw1, hnamed1.mpr hname, ⟨s1, rfl⟩, ⟨.removeIfRunning _, hs1⟩, ?_⟩
    intro hsettled
    exact ⟨.inl (hidle hsettled), fun hle => absurd hle (Nat.not_le.mpr hlong)⟩
  · rw [if_neg hlong] at hr
    rcases Option.map_eq_some_iff.mp hr with ⟨⟨ret, s2⟩, hadd, rfl⟩
    rcases ht1.add (hnamed1.mpr hname) hadd with ⟨ht2, hw2, hnamed2, hadd2⟩
    have hcall : doCall st.sched (.restart (BitVec.ofNat 32 (ttl.toNat * 1000000))
        (rxTimers.job () i) (rxTimeout i) now) = some s2 := by
      show (pfSchedulerRestart _ _ _ _ _).map Prod.snd = _
      unfold pfSchedulerRestart
      rw [hs1, Option.bind_some, hadd]
      rfl
    refine ⟨ht2, hw1.trans hw2, hnamed2, ⟨s2, rfl⟩, ⟨_, hcall⟩, ?_⟩
    intro hsettled
    constructor
    · rcases hadd2 (hidle hsettled) with ⟨-, harmed⟩ | ⟨-, hidle⟩
      · exact .inr harmed
      · exact .inl hidle
    · intro _ hret
      obtain rfl : ret = 0 := hret
      rcases ht1.add_when (hnamed1.mpr hname) hadd (hidle hsettled) with
        ⟨d, e, hd, hwhen, -, honly⟩
      refine ⟨e, (honly e).mpr rfl, ?_⟩
      rw [hwhen]
      unfold lifeTime
      rw [← hw1.tickInterval, hd]
      rfl

/-- Stopping it leaves none. -/
theorem stopPeerTimeout_spec (ht : rxTimers.Tidy s)
    (h : pfSchedulerRemoveIfRunning s (rxTimeout i) = some s') :
    rxTimers.Tidy s' ∧ rxTimers.Within (Family.only () i) s s' ∧
      (rxTimers.Named s' () i ↔ rxTimers.Named s () i) ∧
      (rxTimers.Settled s () i → rxTimers.Settled s' () i) := by
  rcases ht.removeIfRunning h with ⟨ht', hw, hnamed, hruns, harmed⟩
  refine ⟨ht', hw, hnamed, ?_⟩
  rintro (hidle | hone)
  · exact .inl fun e he => hidle e (hruns e he)
  · exact .inl (harmed hone)

/-- The handles of other ports keep their names. -/
theorem named_of_within {p : Unit → ℕ → Prop} {n : ℕ} (hw : rxTimers.Within p s s')
    (hself : ∀ i, p () i → rxTimers.Named s () i → rxTimers.Named s' () i)
    (h : ∀ i, 1 ≤ i ∧ i ≤ n → rxTimers.Named s () i) :
    ∀ i, 1 ≤ i ∧ i ≤ n → rxTimers.Named s' () i := by
  intro i hi
  by_cases hp : p () i
  · exact hself i hp (h i hi)
  · exact (hw.named hp).mpr (h i hi)

theorem sorted_call (ht : rxTimers.Tidy s) {c : Call} (hc : doCall s c = some s')
    (hs : Queue.Sorted (pending s)) (hnear : Near [] s') : Queue.Sorted (pending s') := by
  rcases ht.represents with ⟨q, hq⟩
  rcases doCall_represents hq hc with ⟨q', hq', heffect, -⟩
  rw [Near, hq'.pending_eq] at hnear
  rw [hq.pending_eq] at hs
  rw [hq'.pending_eq]
  exact heffect.sorted hs hnear

/-! ## Steps of others -/

/-- What leaves the port and its timer alone, but may be a round. -/
theorem Watched.Inv.frame (h : w.Inv tickInterval port) {p : Unit → ℕ → Prop} {w' : Watched}
    (ht : rxTimers.Tidy w'.st.sched) (hw : rxTimers.Within p w.st.sched w'.st.sched)
    (hp : ¬ p () port) (hself : ∀ i, p () i → rxTimers.Named w.st.sched () i →
      rxTimers.Named w'.st.sched () i)
    (hports : w'.st.numPhysicalPorts = w.st.numPhysicalPorts)
    (hreceived : (w'.st.ports port).isPeerInfoReceived = (w.st.ports port).isPeerInfoReceived)
    (hinfo : (w.st.ports port).isPeerInfoReceived = true →
      (w'.st.ports port).peerInfo = (w.st.ports port).peerInfo)
    (nows : List Time) (hheard : w'.heard = w.heard.map fun x => { x with rounds := nows ++ x.rounds })
    (hsorted : w'.near → Queue.Sorted (pending w'.st.sched)) : w'.Inv tickInterval port := by
  constructor
  · exact ht
  · exact hw.tickInterval.trans h.ticks
  · unfold Peers.IsValid
    rw [hports]
    exact named_of_within hw hself h.named
  · exact (hw.settled hp).mpr h.settled
  · intro hknown
    rw [hreceived] at hknown
    rcases h.known hknown with ⟨x, hx, hxinfo, e, he, hwhen⟩
    rw [hheard, hx]
    exact ⟨_, rfl, (hinfo hknown).trans hxinfo, e, (hw.runs () port hp e).mpr he, hwhen⟩
  · intro hforgotten x' hx'
    rw [hreceived] at hforgotten
    rw [hheard] at hx'
    rcases Option.map_eq_some_iff.mp hx' with ⟨x, hx, rfl⟩
    rcases h.forgotten hforgotten x hx with ⟨now, hnow, hover⟩
    exact ⟨now, List.mem_append_right _ hnow, hover⟩
  · exact hsorted

theorem heard_same (heard : Option Heard) :
    heard = heard.map fun x => { x with rounds := [] ++ x.rounds } := by
  cases heard <;> rfl

/-- The step, as far as `Watched` sees it. -/
def Watched.after (port : ℕ) (w : Watched) (e : PeerEvent) (st' : Peers) : Watched :=
  ⟨st', hear port w.st w.heard e, w.near ∧ Near [] st'.sched⟩

theorem Watched.Inv.of_call (h : w.Inv tickInterval port) {p : Unit → ℕ → Prop} {e : PeerEvent}
    {c : Call} (hc : doCall w.st.sched c = some st'.sched) (ht : rxTimers.Tidy st'.sched)
    (hw : rxTimers.Within p w.st.sched st'.sched) (hp : ¬ p () port)
    (hself : ∀ i, p () i → rxTimers.Named w.st.sched () i → rxTimers.Named st'.sched () i)
    (hports : st'.numPhysicalPorts = w.st.numPhysicalPorts)
    (hport : st'.ports port = w.st.ports port) (hheard : hear port w.st w.heard e = w.heard) :
    (w.after port e st').Inv tickInterval port := by
  refine h.frame ht hw hp hself hports (congrArg PeerPort.isPeerInfoReceived hport)
    (fun _ => congrArg PeerPort.peerInfo hport) [] ?_ ?_
  · exact hheard.trans (heard_same w.heard)
  · rintro ⟨hnear, hnear'⟩
    exact sorted_call h.tidy hc (h.sorted hnear) hnear'

/-- The scheduler is left alone. -/
theorem Watched.Inv.of_same (h : w.Inv tickInterval port) {e : PeerEvent}
    (hsched : st'.sched = w.st.sched) (hports : st'.numPhysicalPorts = w.st.numPhysicalPorts)
    (hreceived : (st'.ports port).isPeerInfoReceived = (w.st.ports port).isPeerInfoReceived)
    (hinfo : (st'.ports port).peerInfo = (w.st.ports port).peerInfo) (nows : List Time)
    (hheard : hear port w.st w.heard e = w.heard.map fun x => { x with rounds := nows ++ x.rounds }) :
    (w.after port e st').Inv tickInterval port := by
  have hw : rxTimers.Within Family.nothing w.st.sched st'.sched := by
    rw [hsched]
    exact .refl _ _
  refine h.frame (hsched ▸ h.tidy) hw id (fun _ h => h.elim) hports hreceived (fun _ => hinfo) nows
    hheard ?_
  rintro ⟨hnear, -⟩
  rw [show (w.after port e st').st.sched = w.st.sched from hsched]
  exact h.sorted hnear

/-! ## Packets -/

/-- A packet on another port, or one that is not accepted. -/
theorem recv_other (h : w.Inv tickInterval port) {port' : ℕ}
    {packet : Packet} {org : OrgHeader} {differs : Bool}
    (hs : w.st.recv port' packet org differs now = some st')
    (hother : port' = port → parsed packet org = none) :
    (w.after port (.recv port' packet org differs now) st').Inv tickInterval port := by
  have hheard : hear port w.st w.heard (.recv port' packet org differs now) = w.heard := by
    unfold hear
    dsimp only
    split
    · rename_i heq
      rw [hother heq]
      rfl
    · rfl
  unfold Peers.recv at hs
  cases hparsed : parsed packet org with
  | none =>
    rw [hparsed] at hs
    obtain rfl := Option.some.inj hs
    exact h.of_same rfl rfl rfl rfl [] (hheard.trans (heard_same _))
  | some info =>
    rw [hparsed] at hs
    dsimp only at hs
    by_cases hvalid : w.st.IsValid port'
    · rw [if_pos hvalid] at hs
      rcases Option.map_eq_some_iff.mp hs with ⟨r, hr, rfl⟩
      rcases restartPeerTimeout_spec h.tidy (h.named _ hvalid) hr with
        ⟨ht, hw, hnamed, ⟨sched, hsched⟩, ⟨c, hc⟩, -⟩
      have hne : port ≠ port' := by
        rintro rfl
        rw [hother rfl] at hparsed
        cases hparsed
      have hself (i : ℕ) (hi : Family.only () port' () i) (_ : rxTimers.Named w.st.sched () i) :
          rxTimers.Named r.2.sched () i := hi.2 ▸ hnamed
      split
      · refine h.of_call hc ht hw (fun hp => hne hp.2) hself ?_ ?_ hheard
        · rw [hsched]
        · rw [hsched]
      · refine h.of_call hc ht hw (fun hp => hne hp.2) hself ?_ ?_ hheard
        · show r.2.numPhysicalPorts = _
          rw [hsched]
        · show Function.update r.2.ports port' _ port = _
          rw [Function.update_of_ne hne, hsched]
    · rw [if_neg hvalid] at hs
      obtain rfl := Option.some.inj hs
      exact h.of_same rfl rfl rfl rfl [] (hheard.trans (heard_same _))

/-- A packet that is accepted. -/
theorem recv_self (h : w.Inv tickInterval port) (hport : w.st.IsValid port) {packet : Packet}
    {org : OrgHeader} {differs : Bool} {info : PeerInfo} (hparsed : parsed packet org = some info)
    (htimed : Timed port w (.recv port packet org differs now))
    (hs : w.st.recv port packet org differs now = some st') :
    let e := PeerEvent.recv port packet org differs now
    (Tracks tickInterval port (w.after port e st') ↔ Fresh port w e) ∧
      (Fresh port w e → (w.after port e st').Inv tickInterval port) := by
  intro e
  rcases htimed rfl info hparsed with ⟨httl, r', hr', hroom⟩
  have hheard : (w.after port e st').heard = some ⟨info, now, []⟩ := by
    show (if port = port then _ else _) = _
    rw [if_pos rfl, hparsed]
    rfl
  have hfresh : Fresh port w e ↔ ((w.st.ports port).isPeerInfoReceived = false →
      info ≠ (w.st.ports port).peerInfo ∨ differs = true) := by
    constructor
    · intro hf
      exact hf rfl info hparsed
    · intro hf _ info' hinfo'
      obtain rfl := Option.some.inj (hparsed.symm.trans hinfo')
      exact hf
  unfold Peers.recv at hs
  rw [hparsed] at hs
  dsimp only at hs
  rw [if_pos hport] at hs
  rcases Option.map_eq_some_iff.mp hs with ⟨r, hr, hst'⟩
  rcases restartPeerTimeout_spec h.tidy (h.named _ hport) hr with
    ⟨ht, hw, hnamed, ⟨sched, hsched⟩, ⟨c, hc⟩, hsettled⟩
  rcases hsettled h.settled with ⟨hone, htimer⟩
  obtain rfl : r = r' := Option.some.inj (hr.symm.trans hr')
  rcases htimer httl hroom with ⟨timer, hruns, hwhen⟩
  have hports : r.2.ports = w.st.ports := by rw [hsched]
  rw [hports] at hst'
  -- when the port knows what the packet says
  have hinv (hsame : st'.sched = r.2.sched) (hnum : st'.numPhysicalPorts = w.st.numPhysicalPorts)
      (hknown : (st'.ports port).isPeerInfoReceived = true)
      (hinfo : (st'.ports port).peerInfo = info) :
      (w.after port e st').Inv tickInterval port := by
    constructor
    · exact hsame ▸ ht
    · exact (congrArg St.tickInterval hsame).trans (hw.tickInterval.trans h.ticks)
    · show ∀ i, st'.IsValid i → rxTimers.Named st'.sched () i
      unfold Peers.IsValid
      rw [hnum, hsame]
      exact named_of_within hw (fun i hi _ => hi.2 ▸ hnamed) h.named
    · exact hsame ▸ hone
    · intro _
      refine ⟨_, hheard, hinfo, timer, hsame ▸ hruns, ?_⟩
      rw [hwhen, h.ticks]
      rfl
    · intro hforgotten
      rw [show ((w.after port e st').st.ports port).isPeerInfoReceived = true from hknown] at hforgotten
      cases hforgotten
    · rintro ⟨hnear, hnear'⟩
      show Queue.Sorted (pending st'.sched)
      rw [hsame] at hnear' ⊢
      exact sorted_call h.tidy hc (h.sorted hnear) hnear'
  rw [hfresh]
  by_cases hsame : info = (w.st.ports port).peerInfo ∧ differs = false
  · rw [if_pos hsame] at hst'
    subst hst'
    cases hknown : (w.st.ports port).isPeerInfoReceived with
    | true =>
      have hall := hinv rfl (by rw [hsched]) (by rw [hports]; exact hknown)
        (by rw [hports]; exact hsame.1.symm)
      exact ⟨iff_of_true hall.tracks nofun, fun _ => hall⟩
    | false =>
      have hno : ¬ (false = false → info ≠ (w.st.ports port).peerInfo ∨ differs = true) := by
        intro hf
        rcases hf rfl with hne | hdiffers
        · exact hne hsame.1
        · rw [hsame.2] at hdiffers
          cases hdiffers
      have hnot : ¬ Tracks tickInterval port (w.after port e r.2) := by
        intro htracks
        have hreceived : (r.2.ports port).isPeerInfoReceived = true :=
          htracks.kept _ hheard (fun _ hmem => absurd hmem List.not_mem_nil)
        rw [hports, hknown] at hreceived
        cases hreceived
      exact ⟨iff_of_false hnot hno, fun hf => absurd hf hno⟩
  · rw [if_neg hsame] at hst'
    subst hst'
    have hself : (r.2.storePeerInfo port info).ports port =
        { r.2.ports port with isPeerInfoReceived := true, peerInfo := info } :=
      Function.update_self _ _ _
    have hall := hinv rfl (by show r.2.numPhysicalPorts = _; rw [hsched])
      (by rw [hself]) (by rw [hself])
    refine ⟨iff_of_true hall.tracks ?_, fun _ => hall⟩
    intro _
    by_contra hno
    rw [not_or, not_not, Bool.not_eq_true] at hno
    exact hsame hno

/-! ## Links, other users and rounds -/

theorem monitorLink_inv (h : w.Inv tickInterval port) (hport : w.st.IsValid port) {port' : ℕ}
    {running : Bool}
    (hs : w.st.monitorLink port' running = some st') :
    (w.after port (.monitorLink port' running) st').Inv tickInterval port := by
  have hup (st : Peers) (running : Bool) :
      let st' := st.setPort port' { st.ports port' with previousIsLinkUp := running }
      (st'.ports port).isPeerInfoReceived = (st.ports port).isPeerInfoReceived ∧
        (st'.ports port).peerInfo = (st.ports port).peerInfo := by
    by_cases heq : port = port'
    · subst heq
      simp only [Peers.setPort, Function.update_self, and_self]
    · simp only [Peers.setPort, Function.update_of_ne heq, and_self]
  have hheard (hno : ¬ LinkDown port w.st (.monitorLink port' running)) :
      hear port w.st w.heard (.monitorLink port' running) =
        w.heard.map fun x => { x with rounds := [] ++ x.rounds } :=
    (if_neg hno).trans (heard_same _)
  unfold Peers.monitorLink at hs
  by_cases hvalid : w.st.IsValid port'
  · rw [if_pos hvalid] at hs
    dsimp only at hs
    by_cases hdown : (w.st.ports port').previousIsLinkUp = true ∧ running = false
    · rw [if_pos hdown] at hs
      rcases Option.map_eq_some_iff.mp hs with ⟨st1, hst1, rfl⟩
      rcases Option.map_eq_some_iff.mp hst1 with ⟨sched, hsched, rfl⟩
      rcases stopPeerTimeout_spec h.tidy hsched with ⟨ht, hw, hnamed, hsettled⟩
      rcases hup ({ w.st with sched }.invalidatePeerInfo port') running with ⟨hreceived, hinfo⟩
      have hsorted (hnear : w.near ∧ Near [] sched) : Queue.Sorted (pending sched) :=
        sorted_call (c := .removeIfRunning (rxTimeout port')) h.tidy hsched (h.sorted hnear.1) hnear.2
      by_cases heq : port = port'
      · subst heq
        have hfalse : (({ w.st with sched }.invalidatePeerInfo port).ports port).isPeerInfoReceived =
            false := by
          simp only [Peers.invalidatePeerInfo, Peers.setPort, Function.update_self]
        have hnone : hear port w.st w.heard (.monitorLink port running) = none :=
          if_pos ⟨rfl, hdown.1, hdown.2⟩
        constructor
        · exact ht
        · exact hw.tickInterval.trans h.ticks
        · exact named_of_within (p := Family.only () port) hw (fun i hi hn => by
            rw [hi.2] at hn ⊢
            exact hnamed.mpr hn) h.named
        · exact hsettled h.settled
        · intro hknown
          exact absurd (hknown.symm.trans (hreceived.trans hfalse)) nofun
        · intro _ x hx
          exact absurd (hx.symm.trans hnone) nofun
        · exact hsorted
      · have hinvalidate : ({ w.st with sched }.invalidatePeerInfo port').ports port =
            w.st.ports port := Function.update_of_ne heq _ _
        rw [hinvalidate] at hreceived hinfo
        refine h.frame ht hw (fun hp => heq hp.2) (fun i hi hn => by
          rw [hi.2] at hn ⊢
          exact hnamed.mpr hn) rfl hreceived (fun _ => hinfo) [] (hheard ?_) hsorted
        rintro ⟨heq', -⟩
        exact heq heq'.symm
    · rw [if_neg hdown] at hs
      obtain rfl := Option.some.inj hs
      rcases hup w.st running with ⟨hreceived, hinfo⟩
      refine h.of_same rfl rfl hreceived hinfo [] (hheard ?_)
      rintro ⟨rfl, hlink, hrunning⟩
      exact hdown ⟨hlink, hrunning⟩
  · rw [if_neg hvalid] at hs
    obtain rfl := Option.some.inj hs
    refine h.of_same rfl rfl rfl rfl [] (hheard ?_)
    rintro ⟨rfl, -⟩
    exact hvalid hport

theorem call_inv (h : w.Inv tickInterval port) {c : Call} (hforeign : rxTimers.Foreign c)
    (hs : w.st.step (.call c hforeign) = some st') :
    (w.after port (.call c hforeign) st').Inv tickInterval port := by
  rcases Option.map_eq_some_iff.mp hs with ⟨sched, hc, rfl⟩
  rcases h.tidy.foreign hforeign hc with ⟨ht, hw⟩
  exact h.of_call hc ht hw id (fun _ hp => hp.elim) rfl rfl rfl

/-- A round runs the timer of the port, of another port, of another user, or none. -/
theorem round_inv (h : w.Inv tickInterval port) (hs : w.st.round now = some st') :
    (w.after port (.round now) st').Inv tickInterval port := by
  have hheard : hear port w.st w.heard (.round now) =
      w.heard.map fun x => { x with rounds := [now] ++ x.rounds } := rfl
  unfold Peers.round at hs
  cases hexp : expired w.st.sched now with
  | false =>
    rw [hexp, if_neg Bool.false_ne_true] at hs
    obtain rfl := Option.some.inj hs
    exact h.of_same rfl rfl rfl rfl [now] hheard
  | true =>
    rw [hexp, if_pos rfl] at hs
    rcases Option.map_eq_some_iff.mp hs with ⟨s1, hs1, hst'⟩
    rcases h.tidy.represents with ⟨q, hq⟩
    rcases moveFirst_represents hq hexp with ⟨s2, q', hcons, hs2, hq', -⟩
    obtain rfl : s2 = s1 := Option.some.inj (hs2.symm.trans hs1)
    have hrest (hsorted : Queue.Sorted (pending w.st.sched)) : Queue.Sorted q' := by
      rw [hq.pending_eq, hcons, Queue.Sorted, List.pairwise_cons] at hsorted
      exact hsorted.2
    dsimp only at hst'
    by_cases hcb : (timerAt w.st.sched w.st.sched.first).job.cb = receiveTimeoutCb
    · rw [if_pos hcb] at hst'
      have hjob : (timerAt w.st.sched w.st.sched.first).job =
          rxTimers.job () (timerAt w.st.sched w.st.sched.first).job.arg := by
        show _ = (⟨receiveTimeoutCb, _⟩ : Job)
        rw [← hcb]
      rcases h.tidy.fire hexp hs1 hjob with ⟨ht, hw, hnamed, hruns, hfired⟩
      set port' := (timerAt w.st.sched w.st.sched.first).job.arg
      set fired := timerAt w.st.sched w.st.sched.first
      subst hst'
      have hsorted (hnear : w.near ∧ Near [] (pfSchedulerResetHandle s2 (rxTimeout port'))) :
          Queue.Sorted (pending (pfSchedulerResetHandle s2 (rxTimeout port'))) := by
        rw [pfSchedulerResetHandle, (hq'.setHandle _ _).pending_eq]
        exact hrest (h.sorted hnear.1)
      have hself (i : ℕ) (hi : Family.only () port' () i)
          (hn : rxTimers.Named w.st.sched () i) :
          rxTimers.Named (pfSchedulerResetHandle s2 (rxTimeout port')) () i := by
        rw [hi.2] at hn ⊢
        exact hnamed.mpr hn
      by_cases heq : port = port'
      · -- the time of the port is over
        have hfalse : (({ w.st with sched := s2 }.receiveTimeout port').ports port).isPeerInfoReceived =
            false := by
          rw [heq]
          simp only [Peers.receiveTimeout, Peers.invalidatePeerInfo, Peers.setPort,
            Function.update_self]
        rw [← heq] at ht hruns hfired hself hw hsorted ⊢
        constructor
        · exact ht
        · exact hw.tickInterval.trans h.ticks
        · exact named_of_within (p := Family.only () port) hw hself h.named
        · left
          intro e he
          rcases (hruns e).mp he with ⟨hold, hne⟩
          exact hne (h.tracks.one e fired hold hfired)
        · intro hknown
          rw [← heq] at hfalse
          cases hknown.symm.trans hfalse
        · intro _ x' hx'
          rcases Option.map_eq_some_iff.mp hx' with ⟨x, hx, rfl⟩
          cases hknown : (w.st.ports port).isPeerInfoReceived with
          | true =>
            rcases h.known hknown with ⟨y, hy, -, e, he, hwhen⟩
            obtain rfl := Option.some.inj (hx.symm.trans hy)
            refine ⟨now, List.mem_cons_self, ?_⟩
            show Over now (x.expiry tickInterval)
            rw [← hwhen, h.tracks.one e fired he hfired]
            exact (of_decide_eq_true hexp).2
          | false =>
            rcases h.forgotten hknown x hx with ⟨now', hnow', hover⟩
            exact ⟨now', List.mem_cons_of_mem _ hnow', hover⟩
        · exact hsorted
      · refine h.frame ht hw (fun hp => heq hp.2) hself rfl ?_ ?_ [now] hheard hsorted
        · exact congrArg PeerPort.isPeerInfoReceived (Function.update_of_ne heq _ _)
        · intro _
          exact congrArg PeerPort.peerInfo (Function.update_of_ne heq _ _)
    · rw [if_neg hcb] at hst'
      subst hst'
      rcases h.tidy.fireForeign hexp hs1 (fun _ => hcb) with ⟨ht, hw⟩
      refine h.frame ht hw id (fun _ hp => hp.elim) rfl rfl (fun _ => rfl) [now] hheard ?_
      rintro ⟨hnear, -⟩
      show Queue.Sorted (pending s2)
      rw [hq'.pending_eq]
      exact hrest (h.sorted hnear)

/-! ## Runs -/

theorem step_tracks (h : w.Inv tickInterval port) (hport : w.st.IsValid port) {e : PeerEvent}
    (htimed : Timed port w e) {w' : Watched} (hs : w.step port e = some w') :
    (Tracks tickInterval port w' ↔ Fresh port w e) ∧
      (Fresh port w e → w'.Inv tickInterval port) := by
  rcases Option.map_eq_some_iff.mp hs with ⟨st', hst', rfl⟩
  have hkept (hinv : (w.after port e st').Inv tickInterval port) (hfresh : Fresh port w e) :
      (Tracks tickInterval port (w.after port e st') ↔ Fresh port w e) ∧
        (Fresh port w e → (w.after port e st').Inv tickInterval port) :=
    ⟨iff_of_true hinv.tracks hfresh, fun _ => hinv⟩
  cases e with
  | recv port' packet org differs now =>
    by_cases hself : port' = port
    · cases hparsed : parsed packet org with
      | none =>
        refine hkept (recv_other h hst' fun _ => hparsed) ?_
        intro _ info hinfo
        rw [hparsed] at hinfo
        cases hinfo
      | some info =>
        subst hself
        exact recv_self h hport hparsed htimed hst'
    · exact hkept (recv_other h hst' fun heq => absurd heq hself) fun heq => absurd heq hself
  | monitorLink port' running => exact hkept (monitorLink_inv h hport hst') trivial
  | call c hforeign => exact hkept (call_inv h hforeign hst') trivial
  | round now => exact hkept (round_inv h hst') trivial

/-- The ports stay the same. -/
theorem step_numPhysicalPorts {e : PeerEvent} (hs : st.step e = some st') :
    st'.numPhysicalPorts = st.numPhysicalPorts := by
  have hrestart {port : ℕ} {ttl : BitVec 16} {now : Time} {r : ℤ × Peers}
      (hr : st.restartPeerTimeout port ttl now = some r) :
      r.2.numPhysicalPorts = st.numPhysicalPorts := by
    rcases Option.bind_eq_some_iff.mp hr with ⟨sched, -, hr⟩
    split at hr
    · obtain rfl := Option.some.inj hr
      rfl
    · rcases Option.map_eq_some_iff.mp hr with ⟨r', -, rfl⟩
      rfl
  cases e with
  | recv port packet org differs now =>
    change st.recv port packet org differs now = some st' at hs
    unfold Peers.recv at hs
    split at hs
    · split at hs
      · rcases Option.map_eq_some_iff.mp hs with ⟨r, hr, rfl⟩
        split
        · exact hrestart hr
        · exact hrestart hr
      · obtain rfl := Option.some.inj hs
        rfl
    · obtain rfl := Option.some.inj hs
      rfl
  | monitorLink port running =>
    change st.monitorLink port running = some st' at hs
    unfold Peers.monitorLink at hs
    split at hs
    · dsimp only at hs
      split at hs
      · rcases Option.map_eq_some_iff.mp hs with ⟨st1, hst1, rfl⟩
        rcases Option.map_eq_some_iff.mp hst1 with ⟨sched, -, rfl⟩
        rfl
      · obtain rfl := Option.some.inj hs
        rfl
    · obtain rfl := Option.some.inj hs
      rfl
  | call c hforeign =>
    rcases Option.map_eq_some_iff.mp hs with ⟨sched, -, rfl⟩
    rfl
  | round now =>
    change st.round now = some st' at hs
    unfold Peers.round at hs
    split at hs
    · rcases Option.map_eq_some_iff.mp hs with ⟨sched, -, rfl⟩
      dsimp only
      split
      · rfl
      · rfl
    · obtain rfl := Option.some.inj hs
      rfl

/-! ## The start -/

/-- What holds while the ports are started: the timers all expire at the same time. -/
structure Starting (tickInterval now : Time) (n : ℕ) (st : Peers) : Prop where
  tidy : rxTimers.Tidy st.sched
  ticks : st.sched.tickInterval = tickInterval
  named : ∀ i, 1 ≤ i ∧ i ≤ n → rxTimers.Named st.sched () i
  settled : ∀ i, rxTimers.Settled st.sched () i
  whens : ∀ e ∈ pending st.sched, e.when = now + lifeTime tickInterval 0
  ports : ∀ i, (st.ports i).isPeerInfoReceived = false
  number : st.numPhysicalPorts = n

theorem initHandles_spec (ht : rxTimers.Tidy s) (hidle : ∀ i, rxTimers.Idle s () i)
    (hempty : pending s = []) (n : ℕ) :
    let s' := Peers.initHandles n s
    rxTimers.Tidy s' ∧ s'.tickInterval = s.tickInterval ∧ (∀ i, rxTimers.Idle s' () i) ∧
      pending s' = [] ∧ ∀ i, 1 ≤ i ∧ i ≤ n → rxTimers.Named s' () i := by
  induction n with
  | zero => exact ⟨ht, rfl, hidle, hempty, fun i hi => by omega⟩
  | succ n ih =>
    rcases ih with ⟨ht', htick, hidle', hempty', hnamed⟩
    rcases ht'.initHandle () (n + 1) with ⟨ht2, hw, hself, hruns⟩
    rcases ht'.represents with ⟨q, hq⟩
    refine ⟨ht2, hw.tickInterval.trans htick, ?_, ?_, ?_⟩
    · intro i
      by_cases hi : i = n + 1
      · subst hi
        exact fun e he => hidle' _ e ((hruns e).mp he)
      · exact (hw.idle fun h => hi h.2).mpr (hidle' i)
    · show pending (pfSchedulerInitHandle (Peers.initHandles n s) _ _) = []
      rw [pfSchedulerInitHandle, (hq.setHandle _ _).pending_eq, ← hq.pending_eq, hempty']
    · intro i hi
      by_cases heq : i = n + 1
      · rw [heq]
        exact hself
      · exact (hw.named fun h => heq h.2).mpr (hnamed i (by omega))

/-- The timers after the restart of one: the old ones, and the new one. -/
theorem restartPeerTimeout_whens (ht : rxTimers.Tidy st.sched) {ttl : BitVec 16} {r : ℤ × Peers}
    (h : st.restartPeerTimeout i ttl now = some r) :
    ∀ e ∈ pending r.2.sched, e ∈ pending st.sched ∨
      e.when = now + lifeTime st.sched.tickInterval ttl := by
  rcases ht.represents with ⟨q, hq⟩
  rcases Option.bind_eq_some_iff.mp h with ⟨s1, hs1, hr⟩
  rcases removeIfRunning_represents (i := rxTimeout i) hq with ⟨s2, q1, hs2, hq1, hremoves, htick⟩
  obtain rfl : s2 = s1 := Option.some.inj (hs2.symm.trans hs1)
  have hold (e : Timer) (he : e ∈ q1) : e ∈ pending st.sched := by
    rw [hq.pending_eq]
    exact hremoves.subset e he
  intro e he
  by_cases hlong : LLDP_PEER_MAX_TTL_IN_SECS < ttl.toNat
  · rw [if_pos hlong] at hr
    obtain rfl := Option.some.inj hr
    exact .inl (hold e (hq1.pending_eq ▸ he))
  · rw [if_neg hlong] at hr
    rcases Option.map_eq_some_iff.mp hr with ⟨⟨ret, s3⟩, hadd, rfl⟩
    rcases add_origin hq1 hadd e he with hmem | ⟨d, hd, hwhen⟩
    · exact .inl (hold e (hq1.pending_eq ▸ hmem))
    · right
      rw [hwhen]
      unfold lifeTime
      rw [← htick, hd]
      rfl

theorem load_starting {n m : ℕ} (hm : m ≤ n) {checked : ℕ → Bool}
    (h : Starting tickInterval now n st) (hs : Peers.load checked now m st = some st') :
    Starting tickInterval now n st' := by
  induction m generalizing st' with
  | zero =>
    obtain rfl : st = st' := Option.some.inj hs
    exact h
  | succ m ih =>
    rcases Option.bind_eq_some_iff.mp hs with ⟨st1, hst1, hs⟩
    have h1 := ih (by omega) hst1
    by_cases hchecked : checked (m + 1) = true
    · rw [if_pos hchecked] at hs
      rcases Option.map_eq_some_iff.mp hs with ⟨r, hr, rfl⟩
      rcases restartPeerTimeout_spec h1.tidy (h1.named (m + 1) (by omega)) hr with
        ⟨ht, hw, hnamed, ⟨sched, hsched⟩, -, hsettled⟩
      constructor
      · exact ht
      · exact hw.tickInterval.trans h1.ticks
      · exact named_of_within (p := Family.only () (m + 1)) hw (fun i hi _ => hi.2 ▸ hnamed) h1.named
      · intro i
        by_cases hi : i = m + 1
        · subst hi
          exact (hsettled (h1.settled _)).1
        · exact (hw.settled fun h => hi h.2).mpr (h1.settled i)
      · intro e he
        rcases restartPeerTimeout_whens h1.tidy hr e he with hold | hnew
        · exact h1.whens e hold
        · rw [hnew, h1.ticks]
      · intro i
        rw [hsched]
        exact h1.ports i
      · rw [hsched]
        exact h1.number
    · rw [if_neg hchecked] at hs
      obtain rfl := Option.some.inj hs
      exact h1

theorem start_starting {n : ℕ} {checked : ℕ → Bool}
    (h : Peers.start tickInterval n checked now = some st) : Starting tickInterval now n st := by
  rcases Option.bind_eq_some_iff.mp h with ⟨s, hs, hload⟩
  rcases Family.init_tidy (f := rxTimers) hs with ⟨ht, hidle⟩
  have hempty : pending s = [] := (init_completes hs).pending_eq
  have htick : s.tickInterval = tickInterval := by
    unfold pfSchedulerInit at hs
    split at hs
    · cases hs
    · rcases Option.map_eq_some_iff.mp hs with ⟨r, -, rfl⟩
      rfl
  rcases initHandles_spec ht (fun i => hidle () i) hempty n with
    ⟨ht', htick', hidle', hempty', hnamed⟩
  refine load_starting le_rfl ⟨ht', htick'.trans htick, hnamed, fun i => .inl (hidle' i), ?_,
    fun _ => rfl, rfl⟩ hload
  intro e he
  rw [show pending _ = [] from hempty'] at he
  cases he

/-- A stack that has just been started, and has heard nothing. -/
def watch (st : Peers) : Watched := ⟨st, none, Near [] st.sched⟩

theorem watch_inv {n : ℕ} (h : Starting tickInterval now n st) (port : ℕ) :
    (watch st).Inv tickInterval port := by
  constructor
  · exact h.tidy
  · exact h.ticks
  · intro i hi
    exact h.named i (h.number ▸ hi)
  · exact h.settled port
  · intro hknown
    rw [show ((watch st).st.ports port).isPeerInfoReceived = false from h.ports port] at hknown
    cases hknown
  · intro _ x hx
    cases hx
  · intro _
    apply List.Pairwise.imp_of_mem (R := fun _ _ => True) _ (List.pairwise_of_forall fun _ _ => trivial)
    intro a b ha hb _
    show (a.when - b.when).toInt ≤ 0
    rw [h.whens a ha, h.whens b hb, sub_self]
    decide

end

/-- **What is known about a peer is what it should be**, all the time, in exactly the runs whose steps
are all fresh. -/
theorem tracks_iff (tickInterval now : Time) (numPhysicalPorts : ℕ) (checked : ℕ → Bool) (st : Peers)
    (hstart : Peers.start tickInterval numPhysicalPorts checked now = some st) (port : ℕ)
    (hport : 1 ≤ port ∧ port ≤ numPhysicalPorts) (es : List PeerEvent)
    (htimed : Runs.Along (Watched.step port) (Timed port) (watch st) es) :
    (∀ es' w, es' <+: es → Runs.run (Watched.step port) (watch st) es' = some w →
        Tracks tickInterval port w) ↔
      Runs.Along (Watched.step port) (Fresh port) (watch st) es := by
  have hstarting := start_starting hstart
  have hvalid : st.IsValid port := by
    unfold Peers.IsValid
    rw [hstarting.number]
    exact hport
  refine @Runs.always_iff_of _ _ (Watched.step port) (Fresh port)
    (fun w => w.Inv tickInterval port ∧ w.st.IsValid port) _ _ _ _
    ⟨watch_inv hstarting port, hvalid⟩ htimed (fun w h => h.1.tracks) ?_ ?_
  · rintro w e w' ⟨hinv, hvalid⟩ hd hs
    rcases step_tracks hinv hvalid hd hs with ⟨hiff, hkept⟩
    refine ⟨hiff, fun hfresh => ⟨hkept hfresh, ?_⟩⟩
    rcases Option.map_eq_some_iff.mp hs with ⟨st', hst', rfl⟩
    unfold Peers.IsValid
    rw [show _ = w.st.numPhysicalPorts from step_numPhysicalPorts hst']
    exact hvalid
  · rintro w e ⟨hinv, hvalid⟩ hd hs
    -- a packet that gets its timer does not end the program
    cases e with
    | recv port' packet org differs now =>
      intro heq info hparsed
      rcases hd heq info hparsed with ⟨-, r, hr, -⟩
      subst heq
      have hnone := Option.map_eq_none_iff.mp hs
      change w.st.recv port' packet org differs now = none at hnone
      unfold Peers.recv at hnone
      rw [hparsed] at hnone
      dsimp only at hnone
      rw [if_pos hvalid, Peers.updatePeer, hr] at hnone
      cases hnone
    | monitorLink port' running => trivial
    | call c hforeign => trivial
    | round now => trivial

/-! ## Two packets -/

namespace PeerRun

theorem two_le : 2 ≤ PNAL_BUF_MAX_SIZE := by decide

theorem six_le : 6 ≤ PNAL_BUF_MAX_SIZE := by decide

/-- The end of an LLDPDU, and nothing else. -/
def emptyPacket : Packet := ⟨fun _ => 0, 2, two_le⟩

/-- A time to live of 20 seconds. -/
def ttlPacket : Packet := ⟨fun i => [0x06, 0x02, 0x00, 0x14].getD i 0, 6, six_le⟩

def org : OrgHeader := ⟨Vector.replicate 3 0, 0⟩

/-- One port, and a tick of a millisecond. -/
def start : Option Peers := Peers.start 1000#32 1 (fun _ => false) 0#32

def event (packet : Packet) : PeerEvent := .recv 1 packet org false 0#32

theorem start_some : ∃ st, start = some st := Option.isSome_iff_exists.mp (by decide +kernel)

theorem timed {st : Peers} (hst : start = some st) {packet : Packet} {info : PeerInfo}
    (hparsed : parsed packet org = some info) (httl : info.ttl.toNat ≤ LLDP_PEER_MAX_TTL_IN_SECS)
    (hroom : (start.bind fun st => st.restartPeerTimeout 1 info.ttl 0#32).map Prod.fst = some 0) :
    Runs.Along (Watched.step 1) (Timed 1) (watch st) [event packet] := by
  refine ⟨?_, fun _ _ => trivial⟩
  intro _ info' hinfo'
  obtain rfl := Option.some.inj (hparsed.symm.trans hinfo')
  rw [hst] at hroom
  rcases Option.map_eq_some_iff.mp hroom with ⟨r, hr, hret⟩
  exact ⟨httl, r, hr, hret⟩

end PeerRun

open PeerRun in
/-- An empty LLDPDU is what a port has known from the start, and nobody notices that it has come. -/
theorem not_tracks_empty : ∃ st, Peers.start 1000#32 1 (fun _ => false) 0#32 = some st ∧
    Runs.Along (Watched.step 1) (Timed 1) (watch st) [event emptyPacket] ∧
    ¬ ∀ es' w, es' <+: [event emptyPacket] →
      Runs.run (Watched.step 1) (watch st) es' = some w → Tracks 1000#32 1 w := by
  have hparsed : parsed emptyPacket org = some .zero := by decide +kernel
  rcases start_some with ⟨st, hst⟩
  refine ⟨st, hst, timed hst hparsed (by decide) (by decide +kernel), ?_⟩
  intro htracks
  have hshows : (start.bind fun st => st.recv 1 emptyPacket org false 0#32).map
      (fun st => (st.ports 1).isPeerInfoReceived) = some false := by decide +kernel
  rw [hst] at hshows
  rcases Option.map_eq_some_iff.mp hshows with ⟨st', hst', hfalse⟩
  have hrun : Runs.run (Watched.step 1) (watch st) [event emptyPacket] =
      some ((watch st).after 1 (event emptyPacket) st') := by
    show ((st.recv 1 emptyPacket org false 0#32).map _).bind _ = _
    rw [show st.recv 1 emptyPacket org false 0#32 = some st' from hst']
    rfl
  have hheard : ((watch st).after 1 (event emptyPacket) st').heard = some ⟨.zero, 0#32, []⟩ := by
    unfold Watched.after event hear
    dsimp only
    rw [if_pos rfl, hparsed]
    rfl
  have htrue := (htracks _ _ List.prefix_rfl hrun).kept _ hheard
    fun _ hmem => absurd hmem List.not_mem_nil
  exact absurd (htrue.symm.trans hfalse) nofun

open PeerRun in
/-- A packet with a time to live is noticed. -/
theorem tracks_ttl : ∃ st, Peers.start 1000#32 1 (fun _ => false) 0#32 = some st ∧
    ∀ es' w, es' <+: [event ttlPacket] →
      Runs.run (Watched.step 1) (watch st) es' = some w → Tracks 1000#32 1 w := by
  have hparsed : parsed ttlPacket org = some { PeerInfo.zero with ttl := 20 } := by decide +kernel
  rcases start_some with ⟨st, hst⟩
  refine ⟨st, hst, (tracks_iff 1000#32 0#32 1 (fun _ => false) st hst 1 ⟨le_rfl, le_rfl⟩
    [event ttlPacket] (timed hst hparsed (by decide) (by decide +kernel))).mpr ⟨?_, fun _ _ => trivial⟩⟩
  intro _ info hinfo _
  obtain rfl := Option.some.inj (hparsed.symm.trans hinfo)
  have hzero : start.map (fun st => (st.ports 1).peerInfo.ttl) = some 0 := by decide +kernel
  rw [hst] at hzero
  refine .inl fun heq => ?_
  have httl : (st.ports 1).peerInfo.ttl = 0 := Option.some.inj hzero
  rw [show st.ports 1 = (watch st).st.ports 1 from rfl, ← heq] at httl
  exact absurd httl (by decide)

end PNet.Lldp
