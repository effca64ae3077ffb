import PNet.Cyclic.Mera
import Mathlib.Data.Finset.Card

/-! # No resource of the hardware driver is lost

Each id and each piece of the SRAM that is marked used belongs to one used frame, and each used
frame to a CR that was created and not closed, or to a close request that the scheduler still has.
It is so in runs in which

* a CR is created only when it is not open, and closed only when it is open, and then the scheduler
  takes the call of `delayed_close`;
* a frame is started only for a CR that is open, and all ids that it needs have been granted;
* the start of a PPM does not fail at one of its objects: the RAL ids of a frame that is not active
  are never returned.
-/

namespace PNet.Cyclic.Mera

open Connect Block

/-! ## Where the resources are -/

/-- The fields of a frame that name a resource. -/
inductive Field where
  | vcam | vlan | rtp | obWal | sram
  | ral (ix : RteIx)
deriving DecidableEq

/-- A field of a frame. -/
abbrev Place := ℕ × Field

section
variable (c : Config)

/-- The entry of the pool that an id names. -/
def entry (k : Kind) (id : ℕ) : Option Resource :=
  if k = .sram then
    ((List.range PF_SRAM_MAX_FRAMES).find? fun i => c.id .sram i = id).map fun i => (.sram, i)
  else if id = PF_MERA_INVALID_ID then none
  else some (k, id - c.baseId k)

/-- What the frame has in a field. A PPM has no WAL of its own. -/
def DrvFrame.holds (g : DrvFrame) : Field → Option Resource
  | .vcam => entry c .vcam g.vcamId
  | .vlan => entry c .vlan g.vlanIdx
  | .rtp => entry c .rtp g.rtpId
  | .obWal => if g.isCpm then entry c .wal g.obWalId else none
  | .sram => entry c .sram g.sramFrameAddress
  | .ral ix => entry c .ral (g.ibRalId ix)

namespace Driver
variable (st : Driver)

/-- The resources of the used frames. -/
def holds (p : Place) : Option Resource :=
  if p.1 < c.maxFrames ∧ (st.frame p.1).used = true then (st.frame p.1).holds c p.2 else none

/-- The frame of a CR that is open. -/
def opens (cr : Cr) : Option ℕ := if (st.cr cr).opened then (st.cr cr).frame else none

/-- Each resource in use belongs to one used frame, and was given back as often as it was taken, but
for the time it is used now. A used frame belongs to an open CR or to a pending close request. No
call was given an id that was refused. -/
structure Conserved : Prop where
  one : ∀ r, st.pools.used r = true ↔ ∃! p, st.holds c p = some r
  balance : ∀ r, st.pools.taken r = st.pools.returned r + if st.pools.used r then 1 else 0
  owned : ∀ f < c.maxFrames, (st.frame f).used = true →
    (∃ cr, st.opens cr = some f) ∨ some f ∈ st.pending.map Prod.snd
  granted : ∀ p ∈ st.programmed, p.2 ≠ PF_MERA_INVALID_ID

end Driver

/-! ## Runs in which nothing is lost -/

/-- All calls for an object succeed. -/
def IbEntryCalls.succeed (o : IbEntryCalls) : Bool :=
  o.raInit && o.raAdd && (!o.qspi || o.raCtrl) && o.dgInit && o.dgAdd && o.ralConf &&
    (!(o.qspi && o.waInit) || o.waAdd)

/-- The ids for a VCAM rule have been granted. -/
def DrvFrame.Granted (g : DrvFrame) : Prop :=
  g.vcamId ≠ PF_MERA_INVALID_ID ∧ g.vlanIdx ≠ PF_MERA_INVALID_ID ∧ g.rtpId ≠ PF_MERA_INVALID_ID

instance (g : DrvFrame) : Decidable g.Granted := inferInstanceAs (Decidable (_ ∧ _ ∧ _))

/-- The entries of the pool of the RAL ids that are not used. -/
def freeRals (p : Stock Resource) : Finset ℕ :=
  (Finset.range c.maxIds).filter fun i => p.used (.ral, i) = false

/-- The start of a PPM gets as far as its objects only when the CPM has got its WAL id, there is a
RAL id for each object, and all calls for them succeed. -/
def Driver.EntriesStart (st : Driver) (f : ℕ) (cr : Cr) (o : PpmCalls) : Prop :=
  o.vcap = true → o.rtpConf = true → ∀ wal ∈ st.getCpmWalId c cr, wal ≠ PF_MERA_INVALID_ID ∧
    (st.frame f).dataIxs.length ≤ (freeRals c st.pools).card ∧
      ∀ ix ∈ (st.frame f).dataIxs, (o.entry ix).succeed = true

instance (st : Driver) (f : ℕ) (cr : Cr) (o : PpmCalls) : Decidable (st.EntriesStart c f cr o) :=
  inferInstanceAs (Decidable (o.vcap = true → o.rtpConf = true → ∀ wal ∈ st.getCpmWalId c cr,
    wal ≠ PF_MERA_INVALID_ID ∧ (st.frame f).dataIxs.length ≤ (freeRals c st.pools).card ∧
      ∀ ix ∈ (st.frame f).dataIxs, (o.entry ix).succeed = true))

/-- A condition on a step. -/
def Orderly (st : Driver) : Event → Prop
  | .ppmCreate ar crep buffer _ =>
    (st.cr (.ppm, ar, crep)).run = false → buffer = true →
      (st.cr (.ppm, ar, crep)).opened = false
  | .cpmCreate ar crep _ => (st.cr (.cpm, ar, crep)).opened = false
  | .ppmActivateReq ar crep o =>
    (st.cr (.ppm, ar, crep)).run = false → ∀ f ∈ (st.cr (.ppm, ar, crep)).frame,
      (st.cr (.ppm, ar, crep)).opened = true ∧ (st.frame f).Granted ∧
        st.EntriesStart c f (.ppm, ar, crep) o
  | .cpmActivateReq ar crep _ =>
    (st.cr (.cpm, ar, crep)).run = false → ∀ f ∈ (st.cr (.cpm, ar, crep)).frame,
      (st.cr (.cpm, ar, crep)).opened = true ∧ (st.frame f).Granted ∧
        (st.frame f).obWalId ≠ PF_MERA_INVALID_ID
  | .closeReq cr added => added = (st.cr cr).opened
  | .dhtExpired _ _ => True
  | .delayedClose _ => True

instance (st : Driver) : ∀ e : Event, Decidable (Orderly c st e)
  | .ppmCreate ar crep buffer _ =>
    inferInstanceAs (Decidable ((st.cr (.ppm, ar, crep)).run = false → buffer = true →
      (st.cr (.ppm, ar, crep)).opened = false))
  | .cpmCreate ar crep _ => inferInstanceAs (Decidable ((st.cr (.cpm, ar, crep)).opened = false))
  | .ppmActivateReq ar crep o =>
    inferInstanceAs (Decidable ((st.cr (.ppm, ar, crep)).run = false →
      ∀ f ∈ (st.cr (.ppm, ar, crep)).frame, (st.cr (.ppm, ar, crep)).opened = true ∧
        (st.frame f).Granted ∧ st.EntriesStart c f (.ppm, ar, crep) o))
  | .cpmActivateReq ar crep _ =>
    inferInstanceAs (Decidable ((st.cr (.cpm, ar, crep)).run = false →
      ∀ f ∈ (st.cr (.cpm, ar, crep)).frame, (st.cr (.cpm, ar, crep)).opened = true ∧
        (st.frame f).Granted ∧ (st.frame f).obWalId ≠ PF_MERA_INVALID_ID))
  | .closeReq cr added => inferInstanceAs (Decidable (added = (st.cr cr).opened))
  | .dhtExpired _ _ => isTrue trivial
  | .delayedClose _ => isTrue trivial

end

/-- The ids of a pool are 16 bits wide, and none of them is `PF_MERA_INVALID_ID`. -/
def Config.Fits (c : Config) : Prop := ∀ k, k ≠ .sram → c.baseId k + c.maxIds ≤ PF_MERA_INVALID_ID

section
variable {c : Config} {p p' : Stock Resource} {h : Place → Option Resource} {q : Place}

/-! ## Pools -/

theorem entry_refused {k : Kind} (hk : k ≠ .sram) : entry c k PF_MERA_INVALID_ID = none := by
  rw [entry, if_neg hk, if_pos rfl]

theorem entry_sram_refused : entry c .sram PF_SRAM_INVALID_ADDRESS = none := by
  have hnone : (List.range PF_SRAM_MAX_FRAMES).find?
      (fun i => c.id .sram i = PF_SRAM_INVALID_ADDRESS) = none := by
    apply List.find?_eq_none.mpr
    intro i _
    simp [Config.id, PF_SRAM_AREA_START_ADDRESS, PF_SRAM_INVALID_ADDRESS]
  rw [entry, if_pos rfl, hnone]
  rfl

theorem entry_id (hfits : c.Fits) {k : Kind} {i : ℕ} (hi : i < c.count k) :
    entry c k (c.id k i) = some (k, i) := by
  by_cases hk : k = .sram
  · subst hk
    have hfind : (List.range PF_SRAM_MAX_FRAMES).find?
        (fun j => c.id .sram j = c.id .sram i) = some i := by
      apply List.find?_range_eq_some.mpr
      refine ⟨by simp, List.mem_range.mpr hi, ?_⟩
      intro j hj
      simp [Config.id, PF_SRAM_FRAME_SIZE]
      omega
    rw [entry, if_pos rfl, hfind]
    rfl
  · have hfit := hfits k hk
    unfold PF_MERA_INVALID_ID at hfit
    have hlt : i < c.maxIds := by
      cases k <;> first | exact hi | exact absurd rfl hk
    have hid : c.id k i = c.baseId k + i := by
      have hsmall : c.baseId k + i < 2 ^ 16 := by omega
      cases k <;> first | exact Nat.mod_eq_of_lt hsmall | exact absurd rfl hk
    have hvalid : c.baseId k + i ≠ PF_MERA_INVALID_ID := by
      unfold PF_MERA_INVALID_ID
      omega
    rw [entry, if_neg hk, hid, if_neg hvalid, Nat.add_sub_cancel_left]

/-- An id that was granted is in use from now on, and has a place. -/
theorem idAlloc_held (hfits : c.Fits) (hp : p.Held h) (hq : h q = none) (k : Kind) :
    (idAlloc c k p).1.Held (Function.update h q (entry c k (idAlloc c k p).2)) := by
  unfold idAlloc
  rcases hfind : (List.range (c.count k)).find? (fun i => !p.used (k, i)) with - | i
  · -- nothing is left, and the place stays empty
    have hnone : entry c k (refused k) = none := by
      cases k <;> first | exact entry_sram_refused | exact entry_refused (by exact nofun)
    dsimp only
    rw [hnone, ← hq, Function.update_eq_self]
    exact hp
  · rcases List.find?_range_eq_some.mp hfind with ⟨hunused, hi, -⟩
    dsimp only
    rw [entry_id hfits (List.mem_range.mp hi)]
    exact hp.take (by simpa using hunused) hq

theorem idFree_eq {k : Kind} {id : ℕ} (hk : k ≠ .sram) (hfree : idFree c k id p = some p') :
    p' = (entry c k id).elim p p.giveBack := by
  unfold idFree at hfree
  rw [entry, if_neg hk]
  by_cases hid : id = PF_MERA_INVALID_ID
  · rw [if_pos hid] at hfree ⊢
    exact (Option.some.inj hfree).symm
  · rw [if_neg hid] at hfree ⊢
    by_cases hrange : c.baseId k ≤ id ∧ id - c.baseId k < c.maxIds
    · rw [if_pos hrange] at hfree
      exact (Option.some.inj hfree).symm
    · rw [if_neg hrange] at hfree
      cases hfree

theorem sramFrameFree_eq (address : ℕ) (p : Stock Resource) :
    sramFrameFree c address p = (entry c .sram address).elim p p.giveBack := by
  unfold sramFrameFree
  rw [entry, if_pos rfl]
  rcases (List.range PF_SRAM_MAX_FRAMES).find? (fun i => c.id .sram i = address) with - | i
  · rfl
  · rfl

/-- What is in one place is given back, when the place names the id. -/
theorem idFree_at {k : Kind} {id : ℕ} (hk : k ≠ .sram) (hq : h q = entry c k id)
    (hfree : idFree c k id p = some p') : p' = p.giveBackAt h q := by
  rw [idFree_eq hk hfree, ← hq]
  rfl

end

/-! ## The invariant -/

section
variable {c : Config} {st st' : Driver} {f : ℕ} {cr : Cr}

/-- Each used frame is one of an open CR or of a pending close request, and of one only. -/
structure Links (c : Config) (st : Driver) : Prop where
  within : ∀ f, (st.frame f).used = true → f < c.maxFrames
  opened : ∀ cr f, st.opens cr = some f → (st.frame f).used = true ∧
    (st.frame f).isCpm = decide (cr.1 = .cpm) ∧ (st.frame f).iocr = some cr
  framed : ∀ cr, (st.cr cr).opened = true → (st.cr cr).frame ≠ none
  closing : ∀ side o, (side, o) ∈ st.pending → ∃ f, o = some f ∧ (st.frame f).used = true ∧
    (st.frame f).isCpm = decide (side = .cpm)
  apart : (st.pending.map Prod.snd).Nodup
  closed : ∀ cr f, st.opens cr = some f → some f ∉ st.pending.map Prod.snd
  owned : ∀ f, (st.frame f).used = true →
    (∃ cr, st.opens cr = some f) ∨ some f ∈ st.pending.map Prod.snd

/-- What holds while a PPM is being started, too. -/
structure Kept (c : Config) (st : Driver) : Prop where
  held : st.pools.Held (st.holds c)
  links : Links c st
  inRange : ∀ f ix, (st.frame f).used = true → (st.frame f).ibRalId ix ≠ PF_MERA_INVALID_ID →
    ix ∈ rteIxs
  granted : ∀ p ∈ st.programmed, p.2 ≠ PF_MERA_INVALID_ID

/-- Only the PPMs that are active have RAL ids. -/
def Idle (g : DrvFrame) : Prop :=
  g.active = false ∨ g.isCpm = true → ∀ ix, g.ibRalId ix = PF_MERA_INVALID_ID

structure Settled (c : Config) (st : Driver) : Prop extends Kept c st where
  idle : ∀ f, (st.frame f).used = true → Idle (st.frame f)
  waits : ∀ cr f, cr.1 = .ppm → st.opens cr = some f → (st.cr cr).run = false →
    (st.frame f).active = false

theorem Settled.conserved (h : Settled c st) : st.Conserved c :=
  ⟨fun _ => h.held.used_iff, h.held.balance, fun f _ hused => h.links.owned f hused, h.granted⟩

/-- What a used frame is for the others. -/
structure SameUse (g g' : DrvFrame) : Prop where
  used : g'.used = g.used
  isCpm : g.used = true → g'.isCpm = g.isCpm
  iocr : g.used = true → g'.iocr = g.iocr

theorem Links.congr (h : Links c st) (hframe : ∀ f, SameUse (st.frame f) (st'.frame f))
    (hopens : ∀ cr, st'.opens cr = st.opens cr)
    (hframed : ∀ cr, (st'.cr cr).opened = true → (st'.cr cr).frame ≠ none)
    (hpending : st'.pending = st.pending) : Links c st' := by
  constructor
  · intro f hused
    exact h.within f ((hframe f).used ▸ hused)
  · intro cr f hf
    rcases h.opened cr f (hopens cr ▸ hf) with ⟨hused, hside, hiocr⟩
    rw [(hframe f).used, (hframe f).isCpm hused, (hframe f).iocr hused]
    exact ⟨hused, hside, hiocr⟩
  · exact hframed
  · intro side o ho
    rw [hpending] at ho
    rcases h.closing side o ho with ⟨f, rfl, hused, hside⟩
    refine ⟨f, rfl, ?_, ?_⟩
    · rw [(hframe f).used]
      exact hused
    · rw [(hframe f).isCpm hused]
      exact hside
  · rw [hpending]
    exact h.apart
  · intro cr f hf
    rw [hpending]
    exact h.closed cr f (hopens cr ▸ hf)
  · intro f hused
    rw [hpending]
    rcases h.owned f ((hframe f).used ▸ hused) with ⟨cr, hf⟩ | hf
    · exact .inl ⟨cr, (hopens cr).trans hf⟩
    · exact .inr hf

theorem SameUse.refl (g : DrvFrame) : SameUse g g := ⟨rfl, fun _ => rfl, fun _ => rfl⟩

theorem setFrame_self (st : Driver) (f : ℕ) (g : DrvFrame) : (st.setFrame f g).frame f = g :=
  Function.update_self _ _ _

theorem setFrame_other {f' : ℕ} (hf : f' ≠ f) (st : Driver) (g : DrvFrame) :
    (st.setFrame f g).frame f' = st.frame f' := Function.update_of_ne hf _ _

theorem setFrame_sameUse {g : DrvFrame} (h : SameUse (st.frame f) g) (f' : ℕ) :
    SameUse (st.frame f') ((st.setFrame f g).frame f') := by
  by_cases hf : f' = f
  · rw [hf, setFrame_self]
    exact h
  · rw [setFrame_other hf]
    exact .refl _

theorem setCr_self (st : Driver) (cr : Cr) (e : Endpoint) : (st.setCr cr e).cr cr = e :=
  Function.update_self _ _ _

theorem setCr_other {cr' : Cr} (hcr : cr' ≠ cr) (st : Driver) (e : Endpoint) :
    (st.setCr cr e).cr cr' = st.cr cr' := Function.update_of_ne hcr _ _

/-- What a place holds depends on its frame. -/
theorem holds_congr {q : Place} (hframe : st'.frame q.1 = st.frame q.1) :
    st'.holds c q = st.holds c q := by
  unfold Driver.holds
  rw [hframe]

theorem holds_unused {q : Place} (hused : (st.frame q.1).used = false) : st.holds c q = none := by
  unfold Driver.holds
  exact if_neg fun h => by simp [hused] at h

theorem opens_setCr (st : Driver) (cr cr' : Cr) (e : Endpoint) :
    (st.setCr cr e).opens cr' =
      if cr' = cr then (if e.opened then e.frame else none) else st.opens cr' := by
  unfold Driver.opens
  by_cases hcr : cr' = cr
  · rw [hcr, setCr_self, if_pos rfl]
  · rw [setCr_other hcr, if_neg hcr]

/-- Another state of a CR that has the same frame open. -/
theorem Settled.setCr (h : Settled c st) {e : Endpoint}
    (hopens : (if e.opened then e.frame else none) = st.opens cr)
    (hframed : e.opened = true → e.frame ≠ none)
    (hrun : cr.1 = .ppm → e.opened = true → e.run = true) : Settled c (st.setCr cr e) := by
  have hsame (cr' : Cr) : (st.setCr cr e).opens cr' = st.opens cr' := by
    rw [opens_setCr]
    by_cases hcr : cr' = cr
    · rw [if_pos hcr, hcr, hopens]
    · exact if_neg hcr
  refine ⟨⟨h.held, h.links.congr (fun f => .refl _) hsame ?_ rfl, h.inRange, h.granted⟩, h.idle, ?_⟩
  · intro cr'
    by_cases hcr : cr' = cr
    · rw [hcr, setCr_self]
      exact hframed
    · rw [setCr_other hcr]
      exact h.links.framed cr'
  · intro cr' f hside hf hwaits
    rw [hsame] at hf
    by_cases hcr : cr' = cr
    · rw [hcr, setCr_self] at hwaits
      have hopen : e.opened = true := by
        by_contra hclosed
        rw [hcr, ← hopens, if_neg hclosed] at hf
        cases hf
      rw [hrun (hcr ▸ hside) hopen] at hwaits
      cases hwaits
    · rw [setCr_other hcr] at hwaits
      exact h.waits cr' f hside hf hwaits

theorem Settled.setRun (h : Settled c st) (cr : Cr) (run : Bool)
    (hrun : cr.1 = .ppm → run = true) : Settled c (st.setCr cr { st.cr cr with run }) :=
  h.setCr rfl (h.links.framed cr) fun hside _ => hrun hside

/-- A frame that is not used does not matter. -/
theorem Settled.setUnused (h : Settled c st) {g : DrvFrame} (hf : (st.frame f).used = false)
    (hg : g.used = false) : Settled c (st.setFrame f g) := by
  have hsame (f' : ℕ) (hused : ((st.setFrame f g).frame f').used = true) :
      (st.setFrame f g).frame f' = st.frame f' := by
    by_cases hf' : f' = f
    · rw [hf', setFrame_self, hg] at hused
      cases hused
    · exact setFrame_other hf' _ _
  refine ⟨⟨?_, h.links.congr ?_ (fun _ => rfl) h.links.framed rfl, ?_, h.granted⟩, ?_, ?_⟩
  · have hholds : (st.setFrame f g).holds c = st.holds c := by
      funext q
      by_cases hq : q.1 = f
      · have hfree : ((st.setFrame f g).frame q.1).used = false := by
          rw [hq, setFrame_self]
          exact hg
        rw [holds_unused hfree, holds_unused (hq ▸ hf)]
      · exact holds_congr (setFrame_other hq _ _)
    rw [hholds]
    exact h.held
  · apply setFrame_sameUse
    refine ⟨hg.trans hf.symm, ?_, ?_⟩
    · intro hused
      rw [hf] at hused
      cases hused
    · intro hused
      rw [hf] at hused
      cases hused
  · intro f' ix hused
    have hf' := hsame f' hused
    rw [hf'] at hused ⊢
    exact h.inRange f' ix hused
  · intro f' hused
    have hf' := hsame f' hused
    rw [hf'] at hused ⊢
    exact h.idle f' hused
  · intro cr f' hside hf' hwaits
    have hused := (h.links.opened cr f' hf').1
    have hne : f' ≠ f := by
      rintro rfl
      rw [hf] at hused
      cases hused
    rw [setFrame_other hne]
    exact h.waits cr f' hside hf' hwaits

theorem Settled.programs (h : Settled c st) {ids : List (Kind × ℕ)}
    (hids : ∀ p ∈ ids, p.2 ≠ PF_MERA_INVALID_ID) : Settled c (st.programs ids) := by
  refine ⟨⟨h.held, h.links.congr (fun f => .refl _) (fun _ => rfl) h.links.framed rfl, h.inRange,
    ?_⟩, h.idle, h.waits⟩
  intro p hp
  rcases List.mem_append.mp hp with hp | hp
  · exact hids p hp
  · exact h.granted p hp

/-! ## Create -/

theorem allocFrame_spec {f : ℕ} (halloc : st.allocFrame c = some (f, st')) :
    f < c.maxFrames ∧ (st.frame f).used = false ∧ st' = st.setFrame f
      { zeroFrame with used := true, ibRalId := fun _ => PF_MERA_INVALID_ID } := by
  rcases Option.map_eq_some_iff.mp halloc with ⟨f', hfind, heq⟩
  obtain ⟨rfl, rfl⟩ := Prod.mk.inj heq
  rcases List.find?_range_eq_some.mp hfind with ⟨hunused, hf, -⟩
  exact ⟨List.mem_range.mp hf, by simpa using hunused, rfl⟩

/-- The ids that a new frame gets are in use from now on. -/
structure Grants (c : Config) (side : Side)
    (ids : Stock Resource → DrvFrame → Stock Resource × DrvFrame) : Prop where
  same : ∀ p g, SameUse g (ids p g).2
  active : ∀ p g, (ids p g).2.active = g.active
  ibRalId : ∀ p g, (ids p g).2.ibRalId = g.ibRalId
  held : ∀ {p : Stock Resource} {h : Place → Option Resource} {g : DrvFrame} {f : ℕ},
    p.Held h → (∀ x, x ≠ .sram → h (f, x) = none) →
    h (f, .sram) = entry c .sram g.sramFrameAddress →
    (∀ ix, g.ibRalId ix = PF_MERA_INVALID_ID) → g.isCpm = decide (side = .cpm) →
    (ids p g).1.Held fun q => if q.1 = f then (ids p g).2.holds c q.2 else h q

/-- Another field of the frame stays empty. -/
theorem update_empty {h : Place → Option Resource} {x y : Field} (hxy : y ≠ x)
    (hy : h (f, y) = none) (r : Option Resource) : Function.update h (f, x) r (f, y) = none := by
  rw [Function.update_of_ne (fun heq => hxy (Prod.mk.inj heq).2)]
  exact hy

theorem ppmIds_grants (hfits : c.Fits) : Grants c .ppm (Driver.ppmIds c) := by
  refine ⟨fun _ _ => ⟨rfl, fun _ => rfl, fun _ => rfl⟩, fun _ _ => rfl, fun _ _ => rfl, ?_⟩
  intro p h g f hp hempty hsram hral hside
  have hvcam := idAlloc_held hfits hp (hempty .vcam (by decide)) .vcam
  have hrtp := idAlloc_held hfits (q := (f, .rtp)) hvcam
    (update_empty (by decide) (hempty .rtp (by decide)) _) .rtp
  have hvlan := idAlloc_held hfits (q := (f, .vlan)) hrtp
    (update_empty (by decide) (update_empty (by decide) (hempty .vlan (by decide)) _) _) .vlan
  refine Eq.mp (congrArg _ ?_) hvlan
  funext ⟨f', x⟩
  by_cases hf : f' = f
  swap
  · simp [Function.update, hf]
  rw [hf, if_pos rfl]
  cases x with
  | vcam => simp [Function.update, DrvFrame.holds, Driver.ppmIds, vcamIdAlloc]
  | vlan =>
    simp [Function.update, DrvFrame.holds, Driver.ppmIds, vcamIdAlloc, rtpIdAlloc, vlanIndexAlloc]
  | rtp => simp [Function.update, DrvFrame.holds, Driver.ppmIds, vcamIdAlloc, rtpIdAlloc]
  | obWal => simp [Function.update, DrvFrame.holds, Driver.ppmIds, hside, hempty .obWal (by decide)]
  | sram => simp [Function.update, DrvFrame.holds, Driver.ppmIds, hsram]
  | ral ix =>
    simp [Function.update, DrvFrame.holds, Driver.ppmIds, hral, hempty (.ral ix) (by simp),
      entry_refused (c := c) (k := .ral) (by decide)]

theorem cpmIds_grants (hfits : c.Fits) : Grants c .cpm (Driver.cpmIds c) := by
  refine ⟨fun _ _ => ⟨rfl, fun _ => rfl, fun _ => rfl⟩, fun _ _ => rfl, fun _ _ => rfl, ?_⟩
  intro p h g f hp hempty hsram hral hside
  have hvcam := idAlloc_held hfits hp (hempty .vcam (by decide)) .vcam
  have hvlan := idAlloc_held hfits (q := (f, .vlan)) hvcam
    (update_empty (by decide) (hempty .vlan (by decide)) _) .vlan
  have hrtp := idAlloc_held hfits (q := (f, .rtp)) hvlan
    (update_empty (by decide) (update_empty (by decide) (hempty .rtp (by decide)) _) _) .rtp
  have hwal := idAlloc_held hfits (q := (f, .obWal)) hrtp
    (update_empty (by decide) (update_empty (by decide)
      (update_empty (by decide) (hempty .obWal (by decide)) _) _) _) .wal
  refine Eq.mp (congrArg _ ?_) hwal
  funext ⟨f', x⟩
  by_cases hf : f' = f
  swap
  · simp [Function.update, hf]
  rw [hf, if_pos rfl]
  cases x with
  | vcam => simp [Function.update, DrvFrame.holds, Driver.cpmIds, vcamIdAlloc]
  | vlan => simp [Function.update, DrvFrame.holds, Driver.cpmIds, vcamIdAlloc, vlanIndexAlloc]
  | rtp =>
    simp [Function.update, DrvFrame.holds, Driver.cpmIds, vcamIdAlloc, vlanIndexAlloc, rtpIdAlloc]
  | obWal =>
    simp [Function.update, DrvFrame.holds, Driver.cpmIds, hside, vcamIdAlloc, vlanIndexAlloc,
      rtpIdAlloc, walIdAlloc]
  | sram => simp [Function.update, DrvFrame.holds, Driver.cpmIds, hsram]
  | ral ix =>
    simp [Function.update, DrvFrame.holds, Driver.cpmIds, hral, hempty (.ral ix) (by simp),
      entry_refused (c := c) (k := .ral) (by decide)]

theorem alloc_spec {dataDesc : List IodataObject} {r : Option ℕ}
    {ids : Stock Resource → DrvFrame → Stock Resource × DrvFrame}
    (halloc : st.alloc c cr dataDesc ids = some (r, st')) :
    ∃ f g, f < c.maxFrames ∧ (st.frame f).used = false ∧
      ((r = none ∧ g.used = false ∧ st' = st.setFrame f g) ∨
        (r = some f ∧ g.used = true ∧ g.active = false ∧ g.isCpm = decide (cr.1 = .cpm) ∧
          g.iocr = some cr ∧ g.sramFrameAddress = (sramFrameAlloc c st.pools).2 ∧
          (∀ ix, g.ibRalId ix = PF_MERA_INVALID_ID) ∧
          st' = { st with pools := (ids (sramFrameAlloc c st.pools).1 g).1 }.setFrame f
            (ids (sramFrameAlloc c st.pools).1 g).2)) := by
  unfold Driver.alloc at halloc
  rcases hframe : st.allocFrame c with - | ⟨f, st1⟩
  · rw [hframe] at halloc
    cases halloc
  rw [hframe] at halloc
  rcases allocFrame_spec hframe with ⟨hf, hunused, rfl⟩
  dsimp only at halloc
  by_cases haddress : (sramFrameAlloc c st.pools).2 = PF_SRAM_INVALID_ADDRESS
  · rw [if_pos (show (sramFrameAlloc c (st.setFrame f _).pools).2 = _ from haddress)] at halloc
    obtain ⟨rfl, rfl⟩ := Prod.mk.inj (Option.some.inj halloc)
    refine ⟨f, { zeroFrame with ibRalId := fun _ => PF_MERA_INVALID_ID }, hf, hunused,
      .inl ⟨rfl, rfl, ?_⟩⟩
    unfold Driver.freeFrame
    rw [setFrame_self]
    unfold Driver.setFrame
    rw [Function.update_idem]
    rfl
  · rw [if_neg (show (sramFrameAlloc c (st.setFrame f _).pools).2 ≠ _ from haddress)] at halloc
    rcases Option.map_eq_some_iff.mp halloc with ⟨rteObject, -, heq⟩
    obtain ⟨rfl, rfl⟩ := Prod.mk.inj heq
    rw [setFrame_self]
    refine ⟨f, { zeroFrame with
      used := true, ibRalId := fun _ => PF_MERA_INVALID_ID, isCpm := cr.1 = .cpm, iocr := some cr
      sramFrameAddress := (sramFrameAlloc c st.pools).2, rteObject }, hf, hunused,
      .inr ⟨rfl, rfl, rfl, rfl, rfl, rfl, fun _ => rfl, ?_⟩⟩
    unfold Driver.setFrame
    rw [Function.update_idem]

/-- A frame that was not used goes to a CR that was not open. -/
theorem Links.create (h : Links c st) (hf : f < c.maxFrames) (hunused : (st.frame f).used = false)
    (hclosed : st.opens cr = none)
    (hself : (st'.frame f).used = true ∧ (st'.frame f).isCpm = decide (cr.1 = .cpm) ∧
      (st'.frame f).iocr = some cr)
    (hother : ∀ f', f' ≠ f → st'.frame f' = st.frame f')
    (hopens : ∀ cr', st'.opens cr' = if cr' = cr then some f else st.opens cr')
    (hframed : ∀ cr, (st'.cr cr).opened = true → (st'.cr cr).frame ≠ none)
    (hpending : st'.pending = st.pending) : Links c st' := by
  have hold {f' : ℕ} (hused : (st.frame f').used = true) : st'.frame f' = st.frame f' := by
    apply hother
    rintro rfl
    rw [hunused] at hused
    cases hused
  constructor
  · intro f' hused
    by_cases hf' : f' = f
    · rw [hf']
      exact hf
    · exact h.within f' (hother f' hf' ▸ hused)
  · intro cr' f' hf'
    rw [hopens] at hf'
    by_cases hcr : cr' = cr
    · rw [if_pos hcr] at hf'
      obtain rfl : f = f' := Option.some.inj hf'
      rw [hcr]
      exact hself
    · rw [if_neg hcr] at hf'
      have hwas := h.opened cr' f' hf'
      rw [hold hwas.1]
      exact hwas
  · exact hframed
  · intro side o ho
    rw [hpending] at ho
    rcases h.closing side o ho with ⟨f', rfl, hused, hside⟩
    refine ⟨f', rfl, ?_⟩
    rw [hold hused]
    exact ⟨hused, hside⟩
  · rw [hpending]
    exact h.apart
  · intro cr' f' hf'
    rw [hopens] at hf'
    rw [hpending]
    by_cases hcr : cr' = cr
    · rw [if_pos hcr] at hf'
      obtain rfl : f = f' := Option.some.inj hf'
      -- a frame with a pending close request is used
      intro hmem
      rcases List.mem_map.mp hmem with ⟨⟨side, o⟩, ho, rfl⟩
      rcases h.closing side _ ho with ⟨f', hf', hused, -⟩
      obtain rfl : f = f' := Option.some.inj hf'
      rw [hunused] at hused
      cases hused
    · rw [if_neg hcr] at hf'
      exact h.closed cr' f' hf'
  · intro f' hused
    rw [hpending]
    by_cases hf' : f' = f
    · exact .inl ⟨cr, by rw [hopens, if_pos rfl, hf']⟩
    · rcases h.owned f' (hother f' hf' ▸ hused) with ⟨cr', hcr'⟩ | hmem
      · refine .inl ⟨cr', ?_⟩
        rw [hopens, if_neg, hcr']
        rintro rfl
        rw [hclosed] at hcr'
        cases hcr'
      · exact .inr hmem

theorem holds_used (hf : f < c.maxFrames) (hused : (st.frame f).used = true) (x : Field) :
    st.holds c (f, x) = (st.frame f).holds c x := if_pos ⟨hf, hused⟩

/-- A CR that is not open gets a frame, or none. -/
theorem create_settled (hfits : c.Fits) {dataDesc : List IodataObject} {r : Option ℕ}
    {ids : Stock Resource → DrvFrame → Stock Resource × DrvFrame} (hids : Grants c cr.1 ids)
    (h : Settled c st) (hclosed : (st.cr cr).opened = false)
    (halloc : st.alloc c cr dataDesc ids = some (r, st')) : Settled c (st'.created cr r) := by
  have hnone : st.opens cr = none := if_neg (by simp [hclosed])
  rcases alloc_spec halloc with ⟨f, g, hf, hunused, hfail | hdone⟩
  · rcases hfail with ⟨rfl, hg, rfl⟩
    exact (h.setUnused hunused hg).setCr hnone.symm nofun fun _ => nofun
  rcases hdone with ⟨rfl, hused, hactive, hside, hiocr, haddress, hral, rfl⟩
  -- the places of the frame are empty, and the SRAM comes first
  have hempty (x : Field) : st.holds c (f, x) = none := holds_unused hunused
  have hsram := idAlloc_held hfits h.held (hempty .sram) .sram
  have hheld := hids.held (p := (sramFrameAlloc c st.pools).1) (g := g) (f := f) hsram
    (fun x hx => update_empty hx (hempty x) _)
    (by rw [haddress]; exact Function.update_self _ _ _) hral hside
  have hsame := hids.same (sramFrameAlloc c st.pools).1 g
  have hidle := hids.active (sramFrameAlloc c st.pools).1 g
  have hrals := hids.ibRalId (sramFrameAlloc c st.pools).1 g
  generalize ids (sramFrameAlloc c st.pools).1 g = r at hsame hidle hrals hheld ⊢
  generalize hst : ({ st with pools := r.1 }.setFrame f r.2).created cr (some f) = st'
  have hpools : st'.pools = r.1 := by rw [← hst]; rfl
  have hself : st'.frame f = r.2 := by rw [← hst]; exact Function.update_self _ _ _
  have hother (f' : ℕ) (hf' : f' ≠ f) : st'.frame f' = st.frame f' := by
    rw [← hst]
    exact Function.update_of_ne hf' _ _
  have hopens (cr' : Cr) : st'.opens cr' = if cr' = cr then some f else st.opens cr' := by
    rw [← hst]
    exact opens_setCr _ _ _ _
  have hframed (cr' : Cr) : (st'.cr cr').opened = true → (st'.cr cr').frame ≠ none := by
    rw [← hst]
    by_cases hcr : cr' = cr
    · rw [hcr, show (Driver.created _ cr _).cr cr = _ from setCr_self _ _ _]
      exact fun _ => nofun
    · rw [show (Driver.created _ cr _).cr cr' = _ from setCr_other hcr _ _]
      exact h.links.framed cr'
  have husedNew : (st'.frame f).used = true := by
    rw [hself]
    exact hsame.used.trans hused
  refine ⟨⟨?_, ?_, ?_, ?_⟩, ?_, ?_⟩
  · rw [hpools]
    refine Eq.mp (congrArg _ ?_) hheld
    funext ⟨f', x⟩
    dsimp only
    by_cases hf' : f' = f
    · rw [hf', if_pos rfl, holds_used hf husedNew, hself]
    · rw [if_neg hf', Function.update_of_ne (fun heq => hf' (Prod.mk.inj heq).1)]
      exact (holds_congr (hother f' hf')).symm
  · refine h.links.create hf hunused hnone ⟨husedNew, ?_, ?_⟩ hother hopens hframed ?_
    · rw [hself, hsame.isCpm hused]
      exact hside
    · rw [hself, hsame.iocr hused]
      exact hiocr
    · rw [← hst]
      rfl
  · intro f' ix
    by_cases hf' : f' = f
    · rw [hf', hself, hrals, hral]
      exact fun _ hne => absurd rfl hne
    · rw [hother f' hf']
      exact h.inRange f' ix
  · rw [← hst]
    exact h.granted
  · intro f' hused'
    by_cases hf' : f' = f
    · intro _ ix
      rw [hf', hself, hrals, hral]
    · rw [hother f' hf'] at hused' ⊢
      exact h.idle f' hused'
  · intro cr' f' hside' hf' hwaits
    rw [hopens] at hf'
    by_cases hcr : cr' = cr
    · rw [if_pos hcr] at hf'
      rw [← Option.some.inj hf', hself, hidle, hactive]
    · rw [if_neg hcr] at hf'
      have hwas := (h.links.opened cr' f' hf').1
      have hne : f' ≠ f := by
        rintro rfl
        rw [hunused] at hwas
        cases hwas
      rw [hother f' hne]
      apply h.waits cr' f' hside' hf'
      rw [← hwaits, ← hst, show (Driver.created _ cr _).cr cr' = _ from setCr_other hcr _ _]
      rfl

/-! ## Close -/

/-- The frame of an open CR goes to the pending close requests. -/
theorem Links.close (h : Links c st) (hopens : st.opens cr = some f)
    (hframe : st'.frame = st.frame)
    (hopens' : ∀ cr', st'.opens cr' = if cr' = cr then none else st.opens cr')
    (hframed : ∀ cr, (st'.cr cr).opened = true → (st'.cr cr).frame ≠ none)
    (hpending : st'.pending = st.pending ++ [(cr.1, some f)]) : Links c st' := by
  rcases h.opened cr f hopens with ⟨hused, hside, hiocr⟩
  have hother {cr' : Cr} {f' : ℕ} (hf' : st'.opens cr' = some f') :
      st.opens cr' = some f' ∧ f' ≠ f := by
    rw [hopens'] at hf'
    by_cases hcr : cr' = cr
    · rw [if_pos hcr] at hf'
      cases hf'
    · rw [if_neg hcr] at hf'
      refine ⟨hf', ?_⟩
      rintro rfl
      have hown := (h.opened cr' f' hf').2.2
      exact hcr (Option.some.inj (hown.symm.trans hiocr))
  have hfrees : st'.pending.map Prod.snd = st.pending.map Prod.snd ++ [some f] := by
    rw [hpending, List.map_append]
    rfl
  constructor
  · rw [hframe]
    exact h.within
  · intro cr' f' hf'
    rw [hframe]
    exact h.opened cr' f' (hother hf').1
  · exact hframed
  · intro side o ho
    rw [hframe]
    rw [hpending] at ho
    rcases List.mem_append.mp ho with ho | ho
    · exact h.closing side o ho
    · obtain ⟨rfl, rfl⟩ := Prod.mk.inj (List.mem_singleton.mp ho)
      exact ⟨f, rfl, hused, hside⟩
  · rw [hfrees]
    apply List.nodup_append.mpr
    refine ⟨h.apart, List.nodup_singleton _, ?_⟩
    intro o ho o' ho'
    obtain rfl := List.mem_singleton.mp ho'
    rintro rfl
    exact h.closed cr f hopens ho
  · intro cr' f' hf' hmem
    rcases hother hf' with ⟨hf', hne⟩
    rw [hfrees] at hmem
    rcases List.mem_append.mp hmem with hmem | hmem
    · exact h.closed cr' f' hf' hmem
    · exact hne (Option.some.inj (List.mem_singleton.mp hmem))
  · intro f' hused'
    rw [hframe] at hused'
    rw [hfrees]
    rcases h.owned f' hused' with ⟨cr', hcr'⟩ | hmem
    · by_cases hcr : cr' = cr
      · rw [hcr, hopens] at hcr'
        rw [hcr']
        exact .inr (List.mem_append_right _ (List.mem_singleton_self _))
      · exact .inl ⟨cr', (hopens' cr').trans ((if_neg hcr).trans hcr')⟩
    · exact .inr (List.mem_append_left _ hmem)

theorem closeReq_settled (h : Settled c st) {added : Bool} (hadded : added = (st.cr cr).opened) :
    Settled c (st.closeReq cr added) := by
  unfold Driver.closeReq
  dsimp only
  by_cases hopen : (st.cr cr).opened = true
  swap
  · -- nothing is open, and the scheduler does not take the call
    rw [hadded, if_neg hopen]
    exact h.setCr (if_neg hopen).symm nofun fun _ => nofun
  rw [hadded, if_pos hopen]
  rcases Option.ne_none_iff_exists'.mp (h.links.framed cr hopen) with ⟨f, hf⟩
  have hopens (cr' : Cr) := opens_setCr st cr cr' { st.cr cr with run := false, opened := false }
  refine ⟨⟨h.held, ?_, h.inRange, h.granted⟩, h.idle, ?_⟩
  swap
  · intro cr' f' hside hf' hwaits
    have hf1 := (hopens cr').symm.trans hf'
    by_cases hcr : cr' = cr
    · rw [if_pos hcr] at hf1
      cases hf1
    · rw [if_neg hcr] at hf1
      have hrun := congrArg Endpoint.run (setCr_other hcr st { st.cr cr with
        run := false, opened := false })
      exact h.waits cr' f' hside hf1 (hrun.symm.trans hwaits)
  refine h.links.close ((if_pos hopen).trans hf) rfl hopens ?_ ?_
  · intro cr'
    by_cases hcr : cr' = cr
    · intro hnew
      rw [hcr, show (Driver.cr _ cr) = _ from setCr_self st cr _] at hnew
      cases hnew
    · rw [show (Driver.cr _ cr') = _ from setCr_other hcr st _]
      exact h.links.framed cr'
  · rw [hf]
    rfl

theorem mem_eraseIdx_iff {β : Type} {l : List β} {n : ℕ} {x y : β} (hl : l.Nodup)
    (hn : l[n]? = some x) : y ∈ l.eraseIdx n ↔ y ∈ l ∧ y ≠ x := by
  rw [List.mem_eraseIdx_iff_getElem?]
  constructor
  · rintro ⟨i, hi, hy⟩
    refine ⟨List.mem_of_getElem? hy, ?_⟩
    rintro rfl
    rcases List.getElem?_eq_some_iff.mp hy with ⟨hlt, -⟩
    exact hi ((List.getElem?_inj hlt hl).mp (hy.trans hn.symm))
  · rintro ⟨hy, hne⟩
    rcases List.mem_iff_getElem?.mp hy with ⟨i, hi⟩
    refine ⟨i, ?_, hi⟩
    rintro rfl
    exact hne (Option.some.inj (hi.symm.trans hn))

/-- The frame of a pending close request is freed. -/
theorem Links.finish {n : ℕ} {side : Side} (h : Links c st)
    (hn : st.pending[n]? = some (side, some f)) (hself : (st'.frame f).used = false)
    (hother : ∀ f', f' ≠ f → st'.frame f' = st.frame f') (hcr : st'.cr = st.cr)
    (hpending : st'.pending = st.pending.eraseIdx n) : Links c st' := by
  have hopens (cr : Cr) : st'.opens cr = st.opens cr := by
    unfold Driver.opens
    rw [hcr]
  have hfrees : st'.pending.map Prod.snd = (st.pending.map Prod.snd).eraseIdx n := by
    rw [hpending, List.eraseIdx_map]
  have hmem (o : Option ℕ) : o ∈ st'.pending.map Prod.snd ↔
      o ∈ st.pending.map Prod.snd ∧ o ≠ some f := by
    rw [hfrees]
    apply mem_eraseIdx_iff h.apart
    rw [List.getElem?_map, hn]
    rfl
  have hwas {f' : ℕ} (hused : (st'.frame f').used = true) :
      f' ≠ f ∧ (st.frame f').used = true := by
    have hne : f' ≠ f := by
      rintro rfl
      rw [hself] at hused
      cases hused
    exact ⟨hne, hother f' hne ▸ hused⟩
  constructor
  · intro f' hused
    exact h.within f' (hwas hused).2
  · intro cr f' hf'
    rw [hopens] at hf'
    have hne : f' ≠ f := by
      rintro rfl
      have hgone : some f' ∈ st.pending.map Prod.snd :=
        List.mem_map_of_mem (List.mem_of_getElem? hn)
      exact h.closed cr f' hf' hgone
    rw [hother f' hne]
    exact h.opened cr f' hf'
  · intro cr
    rw [hcr]
    exact h.framed cr
  · intro side' o ho
    have hne : o ≠ some f := ((hmem o).mp (List.mem_map_of_mem ho)).2
    rw [hpending] at ho
    rcases h.closing side' o (List.mem_of_mem_eraseIdx ho) with ⟨f', rfl, hused, hside⟩
    refine ⟨f', rfl, ?_⟩
    rw [hother f' (fun heq => hne (congrArg some heq))]
    exact ⟨hused, hside⟩
  · rw [hfrees]
    exact h.apart.eraseIdx n
  · intro cr f' hf' hgone
    exact h.closed cr f' (hopens cr ▸ hf') ((hmem _).mp hgone).1
  · intro f' hused
    rcases hwas hused with ⟨hne, hused⟩
    rcases h.owned f' hused with ⟨cr, hf'⟩ | hgone
    · exact .inl ⟨cr, (hopens cr).trans hf'⟩
    · exact .inr ((hmem _).mpr ⟨hgone, fun heq => hne (Option.some.inj heq)⟩)

/-- All that a frame has is given back, and the frame is freed. -/
theorem finish_settled {n : ℕ} {side : Side} {fields : List Field} (h : Settled c st)
    (hn : st.pending[n]? = some (side, some f)) (hnodup : fields.Nodup)
    (hall : ∀ x, x ∉ fields → st.holds c (f, x) = none) :
    Settled c ({ st with
      pending := st.pending.eraseIdx n
      pools := st.pools.giveBackAll (st.holds c) (fields.map fun x => (f, x)) }.freeFrame f) := by
  generalize hst : Driver.freeFrame _ f = st'
  have hself : (st'.frame f).used = false := by
    rw [← hst, Driver.freeFrame, setFrame_self]
  have hother (f' : ℕ) (hf' : f' ≠ f) : st'.frame f' = st.frame f' := by
    rw [← hst]
    exact Function.update_of_ne hf' _ _
  have hwas {f' : ℕ} (hused : (st'.frame f').used = true) : st'.frame f' = st.frame f' := by
    apply hother
    rintro rfl
    rw [hself] at hused
    cases hused
  refine ⟨⟨?_, ?_, ?_, ?_⟩, ?_, ?_⟩
  · have hplaces : (fields.map fun x => (f, x)).Nodup :=
      hnodup.map fun x y hxy => (Prod.mk.inj hxy).2
    have hheld := h.held.giveBackAll hplaces
    rw [show st'.pools = st.pools.giveBackAll (st.holds c) (fields.map fun x => (f, x)) by
      rw [← hst]; rfl]
    refine Eq.mp (congrArg _ ?_) hheld
    funext ⟨f', x⟩
    by_cases hf' : f' = f
    · subst hf'
      have hgone : st'.holds c (f', x) = none := holds_unused hself
      rw [hgone]
      by_cases hx : x ∈ fields
      · exact if_pos (List.mem_map_of_mem hx)
      · rw [if_neg, hall x hx]
        intro hmem
        rcases List.mem_map.mp hmem with ⟨y, hy, heq⟩
        exact hx ((Prod.mk.inj heq).2 ▸ hy)
    · have hsame : st'.holds c (f', x) = st.holds c (f', x) := holds_congr (hother f' hf')
      rw [hsame, if_neg]
      intro hmem
      rcases List.mem_map.mp hmem with ⟨y, -, heq⟩
      exact hf' (Prod.mk.inj heq).1.symm
  · refine h.links.finish hn hself hother ?_ ?_
    · rw [← hst]
      rfl
    · rw [← hst]
      rfl
  · intro f' ix hused
    have hf' := hwas hused
    rw [hf'] at hused ⊢
    exact h.inRange f' ix hused
  · rw [← hst]
    exact h.granted
  · intro f' hused
    have hf' := hwas hused
    rw [hf'] at hused ⊢
    exact h.idle f' hused
  · intro cr f' hside' hf' hwaits
    have hopens : st.opens cr = some f' := by
      rw [← hf', ← hst]
      rfl
    have hne : f' ≠ f := by
      rintro rfl
      have hgone : some f' ∈ st.pending.map Prod.snd :=
        List.mem_map_of_mem (List.mem_of_getElem? hn)
      exact h.links.closed cr f' hopens hgone
    rw [hother f' hne]
    apply h.waits cr f' hside' hopens
    rw [← hwaits, ← hst]
    rfl

/-- What the frees of the ids in some fields of the frame give back. -/
theorem ralFrees {p p' : Stock Resource} {h : Place → Option Resource} {g : DrvFrame}
    {ixs : List RteIx} (hq : ∀ ix, h (f, .ral ix) = entry c .ral (g.ibRalId ix))
    (hfold : ixs.foldlM (fun p ix => ralIdFree c (g.ibRalId ix) p) p = some p') :
    p' = p.giveBackAll h (ixs.map fun ix => (f, .ral ix)) := by
  induction ixs generalizing p with
  | nil => exact (Option.some.inj hfold).symm
  | cons ix ixs ih =>
    rcases Option.bind_eq_some_iff.mp hfold with ⟨p1, hp1, hrest⟩
    rw [ih hrest, idFree_at (by decide) (hq ix) hp1]
    rfl

/-- The fields in which any frame may have something. -/
def idFields : List Field := [.vcam, .vlan, .rtp, .sram]

/-- Those of a PPM. -/
def ppmFields : List Field := rteIxs.map .ral ++ idFields

/-- Those of a CPM. -/
def cpmFields : List Field := [.vcam, .vlan, .rtp, .obWal, .sram]

theorem ppmFields_nodup : ppmFields.Nodup := by
  have hixs : rteIxs.Nodup := List.nodup_range.product List.nodup_range
  apply List.nodup_append.mpr
  refine ⟨hixs.map (fun ix ix' h => Field.ral.inj h), by decide, ?_⟩
  intro x hx y hy
  rcases List.mem_map.mp hx with ⟨ix, -, rfl⟩
  rintro rfl
  simp [idFields] at hy

/-- `pf_mera_ppm_stop` returns all RAL ids, when the frame has none before it is active. -/
theorem ppmStop_spec {h : Place → Option Resource} (hstop : st.ppmStop c f = some st')
    (hq : ∀ x, h (f, x) = (st.frame f).holds c x) (hidle : Idle (st.frame f)) : st' = { st with
      pools := st.pools.giveBackAll h (rteIxs.map fun ix => (f, .ral ix)) } := by
  unfold Driver.ppmStop at hstop
  dsimp only at hstop
  by_cases hactive : (st.frame f).active = true
  · rw [if_pos hactive] at hstop
    rcases Option.bind_eq_some_iff.mp hstop with ⟨p, hfold, hst⟩
    rw [← Option.some.inj hst, ralFrees (fun ix => hq (.ral ix)) hfold]
  · rw [if_neg hactive] at hstop
    rw [← Option.some.inj hstop, Stock.giveBackAll_empty]
    intro q hmem
    rcases List.mem_map.mp hmem with ⟨ix, -, rfl⟩
    rw [hq]
    show entry c .ral ((st.frame f).ibRalId ix) = none
    rw [hidle (.inl (by simpa using hactive)) ix]
    exact entry_refused (by decide)

theorem ppmFree_spec {h : Place → Option Resource} (hfree : st.ppmFree c f = some st')
    (hq : ∀ x, h (f, x) = (st.frame f).holds c x) : st' = { st with
      pools := st.pools.giveBackAll h (idFields.map fun x => (f, x)) }.freeFrame f := by
  unfold Driver.ppmFree at hfree
  rcases Option.bind_eq_some_iff.mp hfree with ⟨p1, hp1, hrest⟩
  rcases Option.bind_eq_some_iff.mp hrest with ⟨p2, hp2, hrest⟩
  rcases Option.bind_eq_some_iff.mp hrest with ⟨p3, hp3, hst⟩
  rw [← Option.some.inj hst, idFree_at (by decide) (hq .rtp) hp3,
    idFree_at (by decide) (hq .vlan) hp2, idFree_at (by decide) (hq .vcam) hp1, sramFrameFree_eq]
  have hsram : entry c .sram (st.frame f).sramFrameAddress = h (f, .sram) := (hq .sram).symm
  rw [hsram]
  rfl

theorem cpmFree_spec {h : Place → Option Resource} (hfree : st.cpmFree c f = some st')
    (hq : ∀ x, h (f, x) = (st.frame f).holds c x) (hside : (st.frame f).isCpm = true) :
    st' = { st with
      pools := st.pools.giveBackAll h (cpmFields.map fun x => (f, x)) }.freeFrame f := by
  have hwal : h (f, .obWal) = entry c .wal (st.frame f).obWalId := (hq .obWal).trans (if_pos hside)
  unfold Driver.cpmFree at hfree
  rcases Option.bind_eq_some_iff.mp hfree with ⟨p1, hp1, hrest⟩
  rcases Option.bind_eq_some_iff.mp hrest with ⟨p2, hp2, hrest⟩
  rcases Option.bind_eq_some_iff.mp hrest with ⟨p3, hp3, hrest⟩
  rcases Option.bind_eq_some_iff.mp hrest with ⟨p4, hp4, hst⟩
  rw [← Option.some.inj hst, idFree_at (by decide) hwal hp4, idFree_at (by decide) (hq .rtp) hp3,
    idFree_at (by decide) (hq .vlan) hp2, idFree_at (by decide) (hq .vcam) hp1, sramFrameFree_eq]
  have hsram : entry c .sram (st.frame f).sramFrameAddress = h (f, .sram) := (hq .sram).symm
  rw [hsram]
  rfl

/-- `pf_ppm_drv_lan9662_delayed_close`. -/
theorem ppmClose_settled {n : ℕ} (h : Settled c st) (hn : st.pending[n]? = some (.ppm, some f))
    (hused : (st.frame f).used = true) (hside : (st.frame f).isCpm = false)
    (hstep : ({ st with pending := st.pending.eraseIdx n }.ppmStop c f).bind
      (fun st => st.ppmFree c f) = some st') : Settled c st' := by
  have hplaces (x : Field) : st.holds c (f, x) = (st.frame f).holds c x :=
    holds_used (h.links.within f hused) hused x
  rcases Option.bind_eq_some_iff.mp hstep with ⟨st1, hstop, hfree⟩
  have hst1 := ppmStop_spec hstop hplaces (h.idle f hused)
  rw [hst1] at hfree
  have hst := ppmFree_spec hfree hplaces
  have hall (x : Field) (hx : x ∉ ppmFields) : st.holds c (f, x) = none := by
    rw [hplaces]
    cases x with
    | obWal => exact if_neg (by simp [hside])
    | ral ix =>
      show entry c .ral ((st.frame f).ibRalId ix) = none
      by_cases hid : (st.frame f).ibRalId ix = PF_MERA_INVALID_ID
      · rw [hid]
        exact entry_refused (by decide)
      · have hmem : ix ∈ rteIxs := h.inRange f ix hused hid
        exact absurd (List.mem_append_left _ (List.mem_map_of_mem hmem)) hx
    | vcam | vlan | rtp | sram => simp [ppmFields, idFields] at hx
  have hdone := finish_settled h hn ppmFields_nodup hall
  rw [ppmFields, List.map_append, Stock.giveBackAll_append, List.map_map] at hdone
  rw [hst]
  exact hdone

theorem cpmClose_settled {n : ℕ} (h : Settled c st) (hn : st.pending[n]? = some (.cpm, some f))
    (hused : (st.frame f).used = true) (hside : (st.frame f).isCpm = true)
    (hstep : { st with pending := st.pending.eraseIdx n }.cpmFree c f = some st') :
    Settled c st' := by
  have hplaces (x : Field) : st.holds c (f, x) = (st.frame f).holds c x :=
    holds_used (h.links.within f hused) hused x
  have hst := cpmFree_spec hstep hplaces hside
  rw [hst]
  refine finish_settled h hn (by decide) ?_
  intro x hx
  rw [hplaces]
  cases x with
  | ral ix =>
    show entry c .ral ((st.frame f).ibRalId ix) = none
    rw [h.idle f hused (.inr hside) ix]
    exact entry_refused (by decide)
  | vcam | vlan | rtp | obWal | sram => simp [cpmFields] at hx

theorem delayedClose_settled {n : ℕ} (h : Settled c st) (hstep : st.delayedClose c n = some st') :
    Settled c st' := by
  unfold Driver.delayedClose at hstep
  rcases hn : st.pending[n]? with - | ⟨side, o⟩
  · rw [hn] at hstep
    obtain rfl : st = st' := Option.some.inj hstep
    exact h
  rcases h.links.closing side o (List.mem_of_getElem? hn) with ⟨f, rfl, hused, hside⟩
  rw [hn] at hstep
  cases side with
  | ppm => exact ppmClose_settled h hn hused hside hstep
  | cpm => exact cpmClose_settled h hn hused hside hstep

/-! ## Activate -/

theorem mem_attempt {calls : List (List (Kind × ℕ) × Bool)} {p : Kind × ℕ}
    (hp : p ∈ (attempt calls).1) : ∃ call ∈ calls, p ∈ call.1 := by
  induction calls with
  | nil => cases hp
  | cons call calls ih =>
    unfold attempt at hp
    by_cases hok : call.2 = true
    · rw [if_pos hok] at hp
      rcases List.mem_append.mp hp with hp | hp
      · exact ⟨call, List.mem_cons_self, hp⟩
      · rcases ih hp with ⟨call', hcall', hp'⟩
        exact ⟨call', List.mem_cons_of_mem _ hcall', hp'⟩
    · rw [if_neg hok] at hp
      exact ⟨call, List.mem_cons_self, hp⟩

theorem attempt_succeeds {calls : List (List (Kind × ℕ) × Bool)}
    (h : ∀ call ∈ calls, call.2 = true) :
    (attempt calls).2 = true := by
  induction calls with
  | nil => rfl
  | cons call calls ih =>
    unfold attempt
    rw [if_pos (h call List.mem_cons_self)]
    exact ih fun call' hcall' => h call' (List.mem_cons_of_mem _ hcall')

theorem ibCalls_succeed (g : DrvFrame) (ralId : ℕ) {o : IbEntryCalls} (h : o.succeed = true) :
    (attempt (g.ibCalls ralId o)).2 = true := by
  apply attempt_succeeds
  intro call hcall
  simp only [IbEntryCalls.succeed, Bool.and_eq_true, Bool.or_eq_true, Bool.not_eq_true'] at h
  unfold DrvFrame.ibCalls at hcall
  by_cases hqspi : o.qspi = true
  · by_cases hwa : o.waInit = true
    · simp [hqspi, hwa] at hcall h
      rcases hcall with rfl | rfl | rfl | rfl | rfl | rfl | rfl <;> simp [h]
    · simp [hqspi, hwa] at hcall h
      rcases hcall with rfl | rfl | rfl | rfl | rfl | rfl <;> simp [h]
  · simp [hqspi] at hcall h
    rcases hcall with rfl | rfl | rfl | rfl | rfl <;> simp [h]

/-- The ids of an object, of the frame and of its WAL. -/
theorem ibCalls_granted {g : DrvFrame} {ralId : ℕ} {o : IbEntryCalls}
    (hral : ralId ≠ PF_MERA_INVALID_ID) (hrtp : g.rtpId ≠ PF_MERA_INVALID_ID)
    (hwal : g.internalWalId ≠ PF_MERA_INVALID_ID) :
    ∀ p ∈ (attempt (g.ibCalls ralId o)).1, p.2 ≠ PF_MERA_INVALID_ID := by
  have hids : ∀ call ∈ g.ibCalls ralId o, ∀ p ∈ call.1,
      p ∈ [(.ral, ralId), (.rtp, g.rtpId), (.wal, g.internalWalId)] := by
    unfold DrvFrame.ibCalls
    by_cases hqspi : o.qspi = true
    · by_cases hwa : o.waInit = true
      · simp +contextual [hqspi, hwa, or_imp]
      · simp +contextual [hqspi, hwa, or_imp]
    · simp +contextual [hqspi, or_imp]
  intro p hp
  rcases mem_attempt hp with ⟨call, hcall, hp⟩
  have hmem := hids call hcall p hp
  simp only [List.mem_cons, List.not_mem_nil, or_false] at hmem
  rcases hmem with rfl | rfl | rfl
  · exact hral
  · exact hrtp
  · exact hwal

/-- As long as there is a RAL id, it is granted, and there is one less. -/
theorem ralIdAlloc_granted (hfits : c.Fits) {p : Stock Resource} (hfree : 0 < (freeRals c p).card) :
    (ralIdAlloc c p).2 ≠ PF_MERA_INVALID_ID ∧
      (freeRals c (ralIdAlloc c p).1).card + 1 = (freeRals c p).card := by
  rcases Finset.card_pos.mp hfree with ⟨i, hi⟩
  rcases Finset.mem_filter.mp hi with ⟨hlt, hunused⟩
  unfold ralIdAlloc idAlloc
  rcases hfind : (List.range (c.count .ral)).find? (fun i => !p.used (.ral, i)) with - | j
  · have hnone := List.find?_eq_none.mp hfind i (List.mem_range.mpr (Finset.mem_range.mp hlt))
    rw [hunused] at hnone
    exact absurd rfl hnone
  · rcases List.find?_range_eq_some.mp hfind with ⟨hj, hjlt, -⟩
    have hjlt : j < c.maxIds := List.mem_range.mp hjlt
    have hj : p.used (.ral, j) = false := by simpa using hj
    have hmem : j ∈ freeRals c p := Finset.mem_filter.mpr ⟨Finset.mem_range.mpr hjlt, hj⟩
    have hrest : freeRals c (p.take (.ral, j)) = (freeRals c p).erase j := by
      ext n
      rw [Finset.mem_erase]
      unfold freeRals
      rw [Finset.mem_filter, Finset.mem_filter]
      by_cases hn : n = j
      · rw [hn, Stock.take_self]
        simp
      · rw [Stock.take_other p (fun heq => hn (Prod.mk.inj heq).2)]
        simp [hn]
    dsimp only
    rw [hrest, Finset.card_erase_add_one hmem]
    refine ⟨?_, rfl⟩
    have hfit := hfits .ral (by decide)
    unfold PF_MERA_INVALID_ID at hfit ⊢
    show (c.baseId .ral + j) % 2 ^ 16 ≠ _
    omega

/-- Another state of a frame that has the same resources. -/
theorem Kept.setFrame (h : Kept c st) {g : DrvFrame} (hsame : SameUse (st.frame f) g)
    (hholds : ∀ x, g.holds c x = (st.frame f).holds c x)
    (hrals : g.ibRalId = (st.frame f).ibRalId) : Kept c (st.setFrame f g) := by
  refine ⟨?_, h.links.congr (setFrame_sameUse hsame) (fun _ => rfl) h.links.framed rfl, ?_,
    h.granted⟩
  · have hplaces : (st.setFrame f g).holds c = st.holds c := by
      funext ⟨f', x⟩
      by_cases hf : f' = f
      · unfold Driver.holds
        dsimp only
        rw [hf, setFrame_self, hsame.used, hholds]
      · exact holds_congr (setFrame_other hf _ _)
    rw [hplaces]
    exact h.held
  · intro f' ix hused
    by_cases hf : f' = f
    · rw [hf, setFrame_self] at hused ⊢
      rw [hrals]
      exact h.inRange f ix (hsame.used.symm.trans hused)
    · rw [setFrame_other hf] at hused ⊢
      exact h.inRange f' ix hused

/-- Only the RAL ids of the frame have changed. -/
structure Loaded (f : ℕ) (st st' : Driver) : Prop where
  other : ∀ f', f' ≠ f → st'.frame f' = st.frame f'
  same : SameUse (st.frame f) (st'.frame f)
  cr : st'.cr = st.cr

theorem Loaded.trans {st1 : Driver} (h : Loaded f st st1) (h' : Loaded f st1 st')
    (hused : (st.frame f).used = true) : Loaded f st st' := by
  have hused1 : (st1.frame f).used = true := h.same.used.trans hused
  refine ⟨?_, ⟨h'.same.used.trans h.same.used, ?_, ?_⟩, h'.cr.trans h.cr⟩
  · intro f' hf'
    rw [h'.other f' hf', h.other f' hf']
  · intro _
    rw [h'.same.isCpm hused1, h.same.isCpm hused]
  · intro _
    rw [h'.same.iocr hused1, h.same.iocr hused]

/-- What the start of a PPM needs for the objects that are left. -/
structure Ready (c : Config) (st : Driver) (f : ℕ) (o : RteIx → IbEntryCalls) (ixs : List RteIx) :
    Prop where
  used : (st.frame f).used = true
  nodup : ixs.Nodup
  inRange : ∀ ix ∈ ixs, ix ∈ rteIxs
  empty : ∀ ix ∈ ixs, (st.frame f).ibRalId ix = PF_MERA_INVALID_ID
  rtp : (st.frame f).rtpId ≠ PF_MERA_INVALID_ID
  wal : (st.frame f).internalWalId ≠ PF_MERA_INVALID_ID
  rals : ixs.length ≤ (freeRals c st.pools).card
  succeed : ∀ ix ∈ ixs, (o ix).succeed = true

theorem addIbEntry_kept (hfits : c.Fits) {o : RteIx → IbEntryCalls} {ix : RteIx} {ixs : List RteIx}
    (h : Kept c st) (hr : Ready c st f o (ix :: ixs)) :
    ∃ st', st.addIbEntry c f o ix = (true, st') ∧ Kept c st' ∧ Loaded f st st' ∧
      Ready c st' f o ixs := by
  have hix : (st.frame f).ibRalId ix = PF_MERA_INVALID_ID := hr.empty ix List.mem_cons_self
  have hf := h.links.within f hr.used
  rcases ralIdAlloc_granted hfits (p := st.pools)
    (Nat.lt_of_lt_of_le (Nat.succ_pos _) hr.rals) with ⟨hral, hless⟩
  have hplace : st.holds c (f, .ral ix) = none := by
    rw [holds_used hf hr.used]
    show entry c .ral ((st.frame f).ibRalId ix) = none
    rw [hix]
    exact entry_refused (by decide)
  have hheld : (ralIdAlloc c st.pools).1.Held (Function.update (st.holds c) (f, .ral ix)
      (entry c .ral (ralIdAlloc c st.pools).2)) := idAlloc_held hfits h.held hplace .ral
  unfold Driver.addIbEntry
  generalize ralIdAlloc c st.pools = alloc at hral hless hheld ⊢
  rcases alloc with ⟨p, ralId⟩
  dsimp only at hral hless hheld ⊢
  generalize hg : { st.frame f with ibRalId := Function.update (st.frame f).ibRalId ix ralId } = g
  have hnew : g.ibRalId ix = ralId := by
    rw [← hg]
    exact Function.update_self ..
  have hold (ix' : RteIx) (hne : ix' ≠ ix) : g.ibRalId ix' = (st.frame f).ibRalId ix' := by
    rw [← hg]
    exact Function.update_of_ne hne ..
  have hrtp : g.rtpId ≠ PF_MERA_INVALID_ID := by
    rw [← hg]
    exact hr.rtp
  have hwal : g.internalWalId ≠ PF_MERA_INVALID_ID := by
    rw [← hg]
    exact hr.wal
  have hok := ibCalls_succeed g ralId (hr.succeed ix List.mem_cons_self)
  have hids := ibCalls_granted (o := o ix) hral hrtp hwal
  generalize attempt (g.ibCalls ralId (o ix)) = r at hok hids
  generalize hst : ({ st with pools := p }.setFrame f g).programs r.1 = st'
  have hself : st'.frame f = g := by
    rw [← hst]
    exact setFrame_self _ f g
  have hother (f' : ℕ) (hf' : f' ≠ f) : st'.frame f' = st.frame f' := by
    rw [← hst]
    exact setFrame_other hf' _ g
  have hsame : SameUse (st.frame f) (st'.frame f) := by
    rw [hself, ← hg]
    exact ⟨rfl, fun _ => rfl, fun _ => rfl⟩
  have hused : (st'.frame f).used = true := hsame.used.trans hr.used
  have hloaded : Loaded f st st' := ⟨hother, hsame, by rw [← hst]; rfl⟩
  have hpools : st'.pools = p := by rw [← hst]; rfl
  refine ⟨st', by rw [hok], ⟨?_, ?_, ?_, ?_⟩, hloaded, ?_⟩
  · rw [hpools]
    refine Eq.mp (congrArg _ ?_) hheld
    funext ⟨f', x⟩
    by_cases hf' : f' = f
    · subst hf'
      rw [holds_used hf hused, hself]
      by_cases hx : x = .ral ix
      · rw [hx, Function.update_self]
        show _ = entry c .ral (g.ibRalId ix)
        rw [hnew]
      · rw [Function.update_of_ne (fun heq => hx (Prod.mk.inj heq).2), holds_used hf hr.used]
        cases x with
        | ral ix' =>
          show _ = entry c .ral (g.ibRalId ix')
          rw [hold ix' (fun heq => hx (congrArg _ heq))]
          rfl
        | vcam | vlan | rtp | obWal | sram =>
          rw [← hg]
          rfl
    · rw [Function.update_of_ne (fun heq => hf' (Prod.mk.inj heq).1)]
      exact (holds_congr (hother f' hf')).symm
  · apply h.links.congr
    · intro f'
      by_cases hf' : f' = f
      · rw [hf']
        exact hsame
      · rw [hother f' hf']
        exact .refl _
    · intro cr
      unfold Driver.opens
      rw [hloaded.cr]
    · rw [hloaded.cr]
      exact h.links.framed
    · rw [← hst]
      rfl
  · intro f' ix' hused' hid
    by_cases hf' : f' = f
    · rw [hf', hself] at hid
      by_cases hix' : ix' = ix
      · rw [hix']
        exact hr.inRange ix List.mem_cons_self
      · rw [hold ix' hix'] at hid
        exact h.inRange f ix' hr.used hid
    · rw [hother f' hf'] at hused' hid
      exact h.inRange f' ix' hused' hid
  · intro q hq
    rw [← hst] at hq
    rcases List.mem_append.mp hq with hq | hq
    · exact hids q hq
    · exact h.granted q hq
  · rcases List.nodup_cons.mp hr.nodup with ⟨hfresh, hrest⟩
    refine ⟨hused, hrest, fun ix' h' => hr.inRange ix' (List.mem_cons_of_mem _ h'), ?_, ?_, ?_, ?_,
      fun ix' h' => hr.succeed ix' (List.mem_cons_of_mem _ h')⟩
    · intro ix' hmem
      rw [hself, hold ix' (ne_of_mem_of_not_mem hmem hfresh)]
      exact hr.empty ix' (List.mem_cons_of_mem _ hmem)
    · rw [hself]
      exact hrtp
    · rw [hself]
      exact hwal
    · have hlen := hr.rals
      rw [List.length_cons] at hlen
      rw [hpools]
      omega

/-- All objects are configured. -/
theorem addIbEntries_kept (hfits : c.Fits) {o : RteIx → IbEntryCalls} {ixs : List RteIx}
    (h : Kept c st) (hr : Ready c st f o ixs) :
    ∃ st', Driver.addIbEntries c f o st ixs = (true, st') ∧ Kept c st' ∧ Loaded f st st' := by
  induction ixs generalizing st with
  | nil => exact ⟨st, rfl, h, fun _ _ => rfl, .refl _, rfl⟩
  | cons ix ixs ih =>
    rcases addIbEntry_kept hfits h hr with ⟨st1, hst1, hkept, hloaded, hr1⟩
    rcases ih hkept hr1 with ⟨st2, hst2, hkept2, hloaded2⟩
    refine ⟨st2, ?_, hkept2, hloaded.trans hloaded2 hr.used⟩
    rw [Driver.addIbEntries, hst1]
    exact hst2

theorem ruleIds_granted {g : DrvFrame} (hg : g.Granted) :
    ∀ p ∈ g.ruleIds, p.2 ≠ PF_MERA_INVALID_ID := by
  rcases hg with ⟨hvcam, hvlan, hrtp⟩
  intro p hp
  simp only [DrvFrame.ruleIds, List.mem_cons, List.not_mem_nil, or_false] at hp
  rcases hp with rfl | rfl | rfl
  · exact hvcam
  · exact hvlan
  · exact hrtp

theorem ppmStartCalls_granted {g : DrvFrame} (hg : g.Granted) (o : PpmCalls) :
    ∀ p ∈ (attempt (g.ppmStartCalls o)).1, p.2 ≠ PF_MERA_INVALID_ID := by
  intro p hp
  rcases mem_attempt hp with ⟨call, hcall, hp⟩
  simp only [DrvFrame.ppmStartCalls, List.mem_cons, List.not_mem_nil, or_false] at hcall
  rcases hcall with rfl | rfl
  · exact ruleIds_granted hg p hp
  · obtain rfl := List.mem_singleton.mp hp
    exact hg.2.2

theorem ppmStartCalls_ok {g : DrvFrame} {o : PpmCalls}
    (h : (attempt (g.ppmStartCalls o)).2 = true) :
    o.vcap = true ∧ o.rtpConf = true := by
  unfold DrvFrame.ppmStartCalls attempt at h
  by_cases hvcap : o.vcap = true
  · by_cases hconf : o.rtpConf = true
    · exact ⟨hvcap, hconf⟩
    · simp [hvcap, hconf, attempt] at h
  · simp [hvcap] at h

/-- A frame that is started for an open CR that runs. -/
theorem ppmStartRte_settled (hfits : c.Fits) {o : PpmCalls} (h : Settled c st)
    (hside : cr.1 = .ppm) (hopens : st.opens cr = some f) (hrun : (st.cr cr).run = true)
    (hactive : (st.frame f).active = false) (hg : (st.frame f).Granted)
    (he : st.EntriesStart c f cr o) : Settled c (st.ppmStartRte c f cr o) := by
  rcases h.links.opened cr f hopens with ⟨hused, hcpm, hiocr⟩
  have hids := ppmStartCalls_granted hg o
  unfold Driver.ppmStartRte
  dsimp only
  by_cases hok : (attempt ((st.frame f).ppmStartCalls o)).2 = true
  swap
  · rw [if_neg hok]
    exact h.programs hids
  rw [if_pos hok]
  rcases ppmStartCalls_ok hok with ⟨hvcap, hconf⟩
  have hprog := h.programs hids
  generalize hst1 : st.programs (attempt ((st.frame f).ppmStartCalls o)).1 = st1 at hprog
  have hframe : st1.frame = st.frame := by rw [← hst1]; rfl
  have hwalId : st1.getCpmWalId c cr = st.getCpmWalId c cr := by
    unfold Driver.getCpmWalId
    rw [hframe]
  rcases hwal : st.getCpmWalId c cr with - | wal
  · rw [hwalId, hwal]
    exact hprog
  rw [hwalId, hwal]
  rcases he hvcap hconf wal hwal with ⟨hgranted, hrals, hsucceed⟩
  -- the objects, one after another
  have hkept : Kept c (st1.setFrame f { st.frame f with internalWalId := wal }) := by
    apply hprog.toKept.setFrame
    · rw [hframe]
      exact ⟨rfl, fun _ => rfl, fun _ => rfl⟩
    · intro x
      rw [hframe]
      cases x with
      | vcam | vlan | rtp | obWal | sram | ral => rfl
    · rw [hframe]
  have hready : Ready c (st1.setFrame f { st.frame f with internalWalId := wal }) f o.entry
      (st.frame f).dataIxs := by
    have hidle := h.idle f hused (.inl hactive)
    refine ⟨?_, ?_, fun ix hix => (List.mem_filter.mp hix).1, ?_, ?_, ?_, ?_, hsucceed⟩
    · rw [setFrame_self]
      exact hused
    · exact (List.nodup_range.product List.nodup_range).filter _
    · intro ix _
      rw [setFrame_self]
      exact hidle ix
    · rw [setFrame_self]
      exact hg.2.2
    · rw [setFrame_self]
      exact hgranted
    · rw [← hst1]
      exact hrals
  rcases addIbEntries_kept hfits hkept hready with ⟨st2, hst2, hkept2, hloaded⟩
  dsimp only
  rw [hst2]
  dsimp only
  have hother (f' : ℕ) (hf' : f' ≠ f) :
      (st2.setFrame f { st2.frame f with active := true }).frame f' = st.frame f' := by
    rw [setFrame_other hf', hloaded.other f' hf', setFrame_other hf', hframe]
  have hsame := hloaded.same
  rw [setFrame_self] at hsame
  have hcr : st2.cr = st.cr := by
    rw [hloaded.cr, ← hst1]
    rfl
  refine ⟨hkept2.setFrame ⟨rfl, fun _ => rfl, fun _ => rfl⟩ (fun x => ?_) rfl, ?_, ?_⟩
  · cases x with
    | vcam | vlan | rtp | obWal | sram | ral => rfl
  · intro f' hused'
    by_cases hf' : f' = f
    · rw [hf', setFrame_self]
      intro hno
      rcases hno with hno | hno
      · cases hno
      · rw [show (st2.frame f).isCpm = _ from hsame.isCpm hused] at hno
        rw [show (st.frame f).isCpm = _ from hcpm, hside] at hno
        cases hno
    · rw [hother f' hf'] at hused' ⊢
      exact h.idle f' hused'
  · intro cr' f' hside' hf' hwaits
    have hf1 : st.opens cr' = some f' := by
      rw [← hf']
      unfold Driver.opens
      show _ = if (st2.cr cr').opened then (st2.cr cr').frame else none
      rw [hcr]
    have hwaits' : (st.cr cr').run = false := by
      rw [← hwaits, ← hcr]
      rfl
    by_cases heq : f' = f
    · -- the CR of the frame is the one that runs
      have hown := (h.links.opened cr' f' hf1).2.2
      rw [heq, hiocr] at hown
      rw [← Option.some.inj hown, hrun] at hwaits'
      cases hwaits'
    · rw [hother f' heq]
      exact h.waits cr' f' hside' hf1 hwaits'

theorem ppmActivateReq_settled (hfits : c.Fits) {ar crep : ℕ} {o : PpmCalls} (h : Settled c st)
    (ho : Orderly c st (.ppmActivateReq ar crep o)) :
    Settled c (st.ppmActivateReq c ar crep o) := by
  generalize hcr : ((.ppm, ar, crep) : Cr) = cr
  have hside : cr.1 = .ppm := by rw [← hcr]
  unfold Orderly at ho
  unfold Driver.ppmActivateReq
  dsimp only at ho ⊢
  rw [hcr] at ho ⊢
  by_cases hrun : (st.cr cr).run = true
  · rw [if_pos hrun]
    exact h
  rw [if_neg hrun]
  have hrun : (st.cr cr).run = false := by simpa using hrun
  have hset := h.setRun cr true fun _ => rfl
  dsimp only at hset
  rcases hframe : (st.cr cr).frame with - | f
  · rw [hframe] at hset
    exact hset
  rw [hframe] at hset
  rcases ho hrun f hframe with ⟨hopen, hg, he⟩
  have hopens : st.opens cr = some f := (if_pos hopen).trans hframe
  have hactive := h.waits cr f hside hopens hrun
  generalize hst1 : st.setCr cr { run := true, frame := some f, opened := (st.cr cr).opened } = st1
    at hset
  have hcr1 : st1.cr cr = ⟨true, some f, (st.cr cr).opened⟩ := by
    rw [← hst1]
    exact setCr_self st cr _
  have hopens1 : st1.opens cr = some f := by
    unfold Driver.opens
    rw [hcr1]
    exact if_pos hopen
  have hstart : st1.ppmStart c f o = st1.ppmStartRte c f cr o := by
    unfold Driver.ppmStart
    rw [(hset.links.opened cr f hopens1).2.2]
    rfl
  rw [Option.elim_some, hstart]
  subst hst1
  exact ppmStartRte_settled hfits hset hside hopens1 (congrArg Endpoint.run hcr1) hactive hg he

/-! ## A CPM is started -/

theorem cpmStartCalls_granted {g : DrvFrame} (hg : g.Granted)
    (hwal : g.obWalId ≠ PF_MERA_INVALID_ID) (o : CpmCalls) :
    ∀ p ∈ (attempt (g.cpmStartCalls o)).1, p.2 ≠ PF_MERA_INVALID_ID := by
  have hob (o : ObEntryCalls) : ∀ call ∈ g.obCalls o, ∀ p ∈ call.1,
      p ∈ [(.rtp, g.rtpId), (.wal, g.obWalId)] := by
    unfold DrvFrame.obCalls
    by_cases hwa : o.waInit = true
    · by_cases hqspi : o.qspi = true
      · simp +contextual [hqspi, hwa, or_imp]
      · simp +contextual [hqspi, hwa, or_imp]
    · simp +contextual [hwa, or_imp]
  have htwo : ∀ p ∈ [(Kind.rtp, g.rtpId), (.wal, g.obWalId)], p.2 ≠ PF_MERA_INVALID_ID := by
    intro p hp
    simp only [List.mem_cons, List.not_mem_nil, or_false] at hp
    rcases hp with rfl | rfl
    · exact hg.2.2
    · exact hwal
  intro p hp
  rcases mem_attempt hp with ⟨call, hcall, hp⟩
  rcases List.mem_cons.mp hcall with rfl | hcall
  · exact ruleIds_granted hg p hp
  rcases List.mem_cons.mp hcall with rfl | hcall
  · exact htwo p hp
  · rcases List.mem_flatMap.mp hcall with ⟨ix, -, hcall⟩
    exact htwo p (hob (o.entry ix) call hcall p hp)

/-- The CPM has no RAL ids, active or not. -/
theorem cpmStartRte_settled {o : CpmCalls} (h : Settled c st) (hside : cr.1 = .cpm)
    (hopens : st.opens cr = some f) (hg : (st.frame f).Granted)
    (hwal : (st.frame f).obWalId ≠ PF_MERA_INVALID_ID) :
    Settled c (st.cpmStartRte f o).2 ∧ (st.cpmStartRte f o).2.cr = st.cr := by
  rcases h.links.opened cr f hopens with ⟨hused, hcpm, hiocr⟩
  have hcpm : (st.frame f).isCpm = true := by
    rw [hcpm, hside]
    rfl
  have hprog := h.programs (cpmStartCalls_granted hg hwal o)
  unfold Driver.cpmStartRte
  dsimp only
  by_cases hok : (attempt ((st.frame f).cpmStartCalls o)).2 = true
  swap
  · rw [if_neg hok]
    exact ⟨hprog, rfl⟩
  rw [if_pos hok]
  refine ⟨?_, rfl⟩
  have hmore : ∀ p ∈ [(Kind.wal, (st.frame f).obWalId), (.rtp, (st.frame f).rtpId)],
      p.2 ≠ PF_MERA_INVALID_ID := by
    intro p hp
    simp only [List.mem_cons, List.not_mem_nil, or_false] at hp
    rcases hp with rfl | rfl
    · exact hwal
    · exact hg.2.2
  have hprog2 := hprog.programs hmore
  generalize hst1 : (st.programs _).programs _ = st1 at hprog2
  have hframe : st1.frame = st.frame := by
    rw [← hst1]
    rfl
  have hsame : SameUse (st1.frame f) { st.frame f with active := true } := by
    rw [hframe]
    exact ⟨rfl, fun _ => rfl, fun _ => rfl⟩
  refine ⟨hprog2.toKept.setFrame hsame (fun x => ?_) (by rw [hframe]), ?_, ?_⟩
  · rw [hframe]
    cases x with
    | vcam | vlan | rtp | obWal | sram | ral => rfl
  · intro f' hused'
    by_cases hf' : f' = f
    · rw [hf', setFrame_self]
      exact fun _ => h.idle f hused (.inr hcpm)
    · rw [setFrame_other hf'] at hused' ⊢
      exact hprog2.idle f' hused'
  · intro cr' f' hside' hf' hwaits
    have hne : f' ≠ f := by
      rintro rfl
      have hown := (hprog2.links.opened cr' f' hf').2.1
      rw [hframe, hcpm, hside'] at hown
      cases hown
    rw [setFrame_other hne]
    exact hprog2.waits cr' f' hside' hf' hwaits

theorem cpmActivateReq_settled {ar crep : ℕ} {o : CpmCalls} (h : Settled c st)
    (ho : Orderly c st (.cpmActivateReq ar crep o)) : Settled c (st.cpmActivateReq ar crep o) := by
  generalize hcr : ((.cpm, ar, crep) : Cr) = cr
  have hside : cr.1 = .cpm := by rw [← hcr]
  unfold Orderly at ho
  unfold Driver.cpmActivateReq
  dsimp only at ho ⊢
  rw [hcr] at ho ⊢
  by_cases hrun : (st.cr cr).run = true
  · rw [if_pos hrun]
    exact h
  rw [if_neg hrun]
  have hrun : (st.cr cr).run = false := by simpa using hrun
  rcases hframe : (st.cr cr).frame with - | f
  · exact h
  rcases ho hrun f hframe with ⟨hopen, hg, hwal⟩
  have hopens : st.opens cr = some f := (if_pos hopen).trans hframe
  have hstart : st.cpmStart f o = st.cpmStartRte f o := by
    unfold Driver.cpmStart
    rw [(h.links.opened cr f hopens).2.2]
    rfl
  rcases cpmStartRte_settled (o := o) h hside hopens hg hwal with ⟨hset, hsame⟩
  rw [Option.elim_some, hstart]
  generalize st.cpmStartRte f o = r at hset hsame ⊢
  by_cases hdone : (r.1 && o.timer) = true
  · rw [if_pos hdone]
    have hrunning := hset.setRun cr true fun _ => rfl
    dsimp only at hrunning
    rw [hsame, hframe] at hrunning
    exact hrunning
  · rw [if_neg hdone]
    exact hset

/-! ## Steps and runs -/

theorem ppmCreate_settled (hfits : c.Fits) {ar crep : ℕ} {buffer : Bool}
    {dataDesc : List IodataObject} (h : Settled c st)
    (ho : Orderly c st (.ppmCreate ar crep buffer dataDesc))
    (hstep : st.ppmCreate c ar crep buffer dataDesc = some st') : Settled c st' := by
  unfold Driver.ppmCreate at hstep
  by_cases hskip : ((st.cr (.ppm, ar, crep)).run || !buffer) = true
  · rw [if_pos hskip] at hstep
    obtain rfl : st = st' := Option.some.inj hstep
    exact h
  · rw [if_neg hskip] at hstep
    simp only [Bool.or_eq_true, Bool.not_eq_true', not_or, Bool.not_eq_true,
      Bool.not_eq_false] at hskip
    rcases Option.map_eq_some_iff.mp hstep with ⟨r, halloc, rfl⟩
    exact create_settled hfits (ppmIds_grants hfits) h (ho hskip.1 hskip.2) halloc

theorem step_settled (hfits : c.Fits) {e : Event} (h : Settled c st) (ho : Orderly c st e)
    (hstep : step c st e = some st') : Settled c st' := by
  cases e with
  | ppmCreate ar crep buffer dataDesc => exact ppmCreate_settled hfits h ho hstep
  | cpmCreate ar crep dataDesc =>
    rcases Option.map_eq_some_iff.mp hstep with ⟨r, halloc, rfl⟩
    exact create_settled hfits (cpmIds_grants hfits) h ho halloc
  | ppmActivateReq ar crep o =>
    obtain rfl := Option.some.inj hstep
    exact ppmActivateReq_settled hfits h ho
  | cpmActivateReq ar crep o =>
    obtain rfl := Option.some.inj hstep
    exact cpmActivateReq_settled h ho
  | dhtExpired ar crep =>
    obtain rfl := Option.some.inj hstep
    exact h.setRun (.cpm, ar, crep) false nofun
  | closeReq cr added =>
    obtain rfl := Option.some.inj hstep
    exact closeReq_settled h ho
  | delayedClose n => exact delayedClose_settled h hstep

theorem powerOn_settled (c : Config) : Settled c powerOn := by
  refine ⟨⟨.new (fun _ => holds_unused rfl), ?_, nofun, nofun⟩, nofun, nofun⟩
  constructor
  · exact nofun
  · exact nofun
  · exact nofun
  · exact nofun
  · exact List.nodup_nil
  · exact nofun
  · exact nofun

end

/-- In all states of all runs of the events, nothing is lost. -/
def Conserves (c : Config) (es : List Event) : Prop :=
  ∀ es' st, es' <+: es → Runs.run (step c) powerOn es' = some st → st.Conserved c

/-- In runs that meet the condition, nothing is lost. -/
theorem conserves_of_orderly {c : Config} (hfits : c.Fits) {es : List Event}
    (horderly : Runs.Along (step c) (Orderly c) powerOn es) : Conserves c es := by
  intro es' st hprefix hrun
  have hgoes := Runs.Along.of_prefix horderly hprefix
  have hsettled : Settled c st :=
    Runs.invariant (fun _ _ _ h ho hstep => step_settled hfits h ho hstep) (powerOn_settled c) hgoes
      hrun
  exact hsettled.conserved

/-! ## A PPM that starts, and one that does not -/

namespace OneAr

def config : Config := ⟨2, 16, 1, 1, 1, 1⟩

def desc : IodataObject := ⟨true, ⟨0, 1, 1⟩, 0, 4, 4, 1, 0, 0⟩

def cpmCalls : CpmCalls :=
  ⟨true, true, fun _ => ⟨true, true, true, true, true, true, true⟩, true, true⟩

/-- `mera_ib_dg_add` succeeds or fails. -/
def ppmCalls (dgAdd : Bool) : PpmCalls :=
  ⟨true, true, fun _ => ⟨true, true, true, true, true, dgAdd, true, true, true⟩⟩

/-- The CRs of an AR are created, activated and closed, and the scheduler closes the frames. -/
def events (dgAdd : Bool) : List Event :=
  [.cpmCreate 0 1 [desc], .ppmCreate 0 0 true [desc], .cpmActivateReq 0 1 cpmCalls,
    .ppmActivateReq 0 0 (ppmCalls dgAdd), .closeReq (.cpm, 0, 1) true, .closeReq (.ppm, 0, 0) true,
    .delayedClose 0, .delayedClose 0]

theorem config_fits : config.Fits := by
  intro k _
  cases k <;> decide

/-- How often the first RAL id was taken and given back, and which frames are used in the end. -/
def outcome (st : Driver) : (ℕ × ℕ) × Bool × Bool :=
  ((st.pools.taken (.ral, 0), st.pools.returned (.ral, 0)), (st.frame 0).used, (st.frame 1).used)

theorem events_leak : (Runs.run (step config) powerOn (events false)).map
    (fun st => (outcome st, st.pools.used (.ral, 0))) = some (((1, 0), false, false), true) := by
  decide +kernel

end OneAr

open OneAr in
theorem conserves_of_orderly_started :
    (Runs.run (step config) powerOn (events true)).map outcome =
        some ((1, 1), false, false) ∧ Conserves config (events true) :=
  ⟨by decide +kernel, conserves_of_orderly config_fits (by decide +kernel)⟩

open OneAr in
/-- The data group cannot be added, and the RAL id stays in use without a frame. -/
theorem not_conserves_leak : ¬ Conserves config (events false) := by
  intro h
  rcases Option.map_eq_some_iff.mp events_leak with ⟨st, hrun, hshows⟩
  obtain ⟨hout, hused⟩ := Prod.mk.inj hshows
  obtain ⟨-, hframes⟩ := Prod.mk.inj hout
  obtain ⟨hzero, hone⟩ := Prod.mk.inj hframes
  rcases ((h _ st (List.prefix_refl _) hrun).one (.ral, 0)).mp hused with ⟨⟨f, x⟩, hplace, -⟩
  unfold Driver.holds at hplace
  by_cases hf : f < config.maxFrames ∧ (st.frame f).used = true
  · -- neither of the two frames is used
    have hlt : f < 2 := hf.1
    have hcases : f = 0 ∨ f = 1 := by omega
    rcases hcases with rfl | rfl
    · rw [hzero] at hf
      cases hf.2
    · rw [hone] at hf
      cases hf.2
  · rw [if_neg hf] at hplace
    cases hplace

end PNet.Cyclic.Mera
