import PNet.Cyclic.Resources
import PNet.Cyclic.Transmitters

/-! # The RTE objects of the data

`pf_mera_ppm_alloc` and `pf_mera_cpm_alloc` enter each descriptor with data in the array
`rte_object` of the new frame. The place is found by the slot, which no one checks, and the subslot,
whose index is checked and which is itself compared with the number of slots; the API is not used.
The reads and writes of the application find the object in the same way.

* `step_rteObject`: no step changes the objects of a frame that is in use.
* `ownObjects_iff`: each descriptor has an object of its own, for as long as the frame is in use, if
  and only if the arrays have room for it and no other API has the same slot and subslot.
-/

namespace PNet.Cyclic.Mera

open Connect Connect.Layout

namespace RteObjects

/-! ## Where a subslot has its object -/

/-- The slot and the subslot are in the arrays, and no assertion fails. -/
structure Addressable (loc : Location) : Prop where
  slot : loc.slotNbr.toNat < PNET_MAX_SLOTS
  first : 1 ≤ loc.subslotNbr.toNat
  last : loc.subslotNbr.toNat ≤ PNET_MAX_SUBSLOTS
  asserted : loc.subslotNbr.toNat < PNET_MAX_SLOTS

theorem getSubslotIndex_of_le {subslot : BitVec 16} (hfirst : 1 ≤ subslot.toNat)
    (hlast : subslot.toNat ≤ PNET_MAX_SUBSLOTS) :
    getSubslotIndex subslot = some (subslot.toNat - 1) := by
  have hdap : subslot < Rpc.PNET_SUBSLOT_DAP_INTERFACE_1_IDENT := by
    rw [BitVec.lt_def]
    exact lt_of_le_of_lt hlast (by decide)
  have hsub : (subslot - 1).toNat = subslot.toNat - 1 :=
    BitVec.toNat_sub_of_le (BitVec.le_def.mpr hfirst)
  unfold getSubslotIndex
  rw [if_pos hdap]
  dsimp only
  rw [hsub, if_pos (by omega)]

theorem Addressable.getRteObject {loc : Location} (h : Addressable loc) :
    getRteObject loc = some (loc.slotNbr.toNat, loc.subslotNbr.toNat - 1) := by
  unfold Cyclic.getRteObject
  rw [getSubslotIndex_of_le h.first h.last, Option.bind_some, if_pos ⟨h.asserted, h.slot⟩]

theorem addressable_of_getRteObject {loc : Location} {ix : RteIx}
    (h : getRteObject loc = some ix) : Addressable loc := by
  rcases getRteObject_some h with ⟨hslot, hsubslot, hmem⟩
  rcases List.pair_mem_product.mp hmem with ⟨hix, hix'⟩
  have hix := List.mem_range.mp hix
  have hix' := List.mem_range.mp hix'
  have hslots : PNET_MAX_SLOTS = 5 := rfl
  have hsubslots : PNET_MAX_SUBSLOTS = 3 := rfl
  constructor <;> omega

/-- Two subslots with one object differ in the API at most. -/
theorem Addressable.same {loc loc' : Location} (h : Addressable loc) (h' : Addressable loc')
    (heq : Cyclic.getRteObject loc = Cyclic.getRteObject loc') :
    loc.slotNbr = loc'.slotNbr ∧ loc.subslotNbr = loc'.subslotNbr := by
  rw [h.getRteObject, h'.getRteObject] at heq
  obtain ⟨hslot, hsubslot⟩ := Prod.mk.inj (Option.some.inj heq)
  have hfirst := h.first
  have hfirst' := h'.first
  exact ⟨BitVec.eq_of_toNat_eq hslot, BitVec.eq_of_toNat_eq (by omega)⟩

/-! ## Entering the descriptors -/

section
variable {objects objects' : RteIx → RteObject} {ds : List IodataObject} {ix : RteIx}

/-- The objects of other places stay. -/
theorem allocObjects_other (h : allocObjects objects ds = some objects')
    (hother : ∀ d ∈ ds, 0 < d.dataLength → getRteObject d.location ≠ some ix) :
    objects' ix = objects ix := by
  induction ds generalizing objects with
  | nil =>
    obtain rfl := Option.some.inj h
    rfl
  | cons d ds ih =>
    unfold allocObjects at h
    have hrest : ∀ e ∈ ds, 0 < e.dataLength → getRteObject e.location ≠ some ix :=
      fun e he => hother e (List.mem_cons_of_mem d he)
    by_cases hdata : 0 < d.dataLength
    · rw [if_pos hdata] at h
      rcases Option.bind_eq_some_iff.mp h with ⟨ix', hix', h⟩
      have hne : ix ≠ ix' := by
        rintro rfl
        exact hother d List.mem_cons_self hdata hix'
      rw [ih h hrest, Function.update_of_ne hne]
    · rw [if_neg hdata] at h
      exact ih h hrest

/-- A descriptor that shares its place with no other one is what is found there. -/
theorem allocObjects_own (h : allocObjects objects ds = some objects')
    (hown : ∀ d ∈ ds, ∀ e ∈ ds, 0 < d.dataLength → 0 < e.dataLength →
      getRteObject d.location = getRteObject e.location → d = e)
    {d : IodataObject} (hd : d ∈ ds) (hdata : 0 < d.dataLength)
    (hix : getRteObject d.location = some ix) : (objects' ix).iodata = some d := by
  induction ds generalizing objects with
  | nil => cases hd
  | cons e ds ih =>
    unfold allocObjects at h
    have hrest : ∀ d ∈ ds, ∀ e ∈ ds, 0 < d.dataLength → 0 < e.dataLength →
        getRteObject d.location = getRteObject e.location → d = e :=
      fun d hd e' he' => hown d (List.mem_cons_of_mem e hd) e' (List.mem_cons_of_mem e he')
    by_cases hmem : d ∈ ds
    · -- A later entry of the same descriptor.
      by_cases he : 0 < e.dataLength
      · rw [if_pos he] at h
        rcases Option.bind_eq_some_iff.mp h with ⟨_, -, h⟩
        exact ih h hrest hmem
      · rw [if_neg he] at h
        exact ih h hrest hmem
    · obtain rfl : d = e := (List.mem_cons.mp hd).resolve_right hmem
      rw [if_pos hdata] at h
      rcases Option.bind_eq_some_iff.mp h with ⟨ix', hix', h⟩
      obtain rfl : ix' = ix := Option.some.inj (hix'.symm.trans hix)
      rw [allocObjects_other h, Function.update_self]
      intro e he hlen heq
      have hsame := hown d hd e (List.mem_cons_of_mem d he) hdata hlen (hix.trans heq.symm)
      exact hmem (hsame ▸ he)

/-- No assertion fails if and only if all descriptors with data have a place. -/
theorem allocObjects_isSome_iff :
    (∃ objects', allocObjects objects ds = some objects') ↔
      ∀ d ∈ ds, 0 < d.dataLength → Addressable d.location := by
  induction ds generalizing objects with
  | nil =>
    refine ⟨fun _ d hd => ?_, fun _ => ⟨objects, rfl⟩⟩
    cases hd
  | cons d ds ih =>
    unfold allocObjects
    by_cases hdata : 0 < d.dataLength
    · rw [if_pos hdata]
      constructor
      · rintro ⟨objects', h⟩ e he hlen
        rcases Option.bind_eq_some_iff.mp h with ⟨ix, hix, h⟩
        rcases List.mem_cons.mp he with rfl | he
        · exact addressable_of_getRteObject hix
        · exact ih.mp ⟨objects', h⟩ e he hlen
      · intro h
        rw [(h d List.mem_cons_self hdata).getRteObject, Option.bind_some]
        exact ih.mpr fun e he => h e (List.mem_cons_of_mem d he)
    · rw [if_neg hdata, ih]
      constructor
      · intro h e he hlen
        rcases List.mem_cons.mp he with rfl | he
        · exact absurd hlen hdata
        · exact h e he hlen
      · exact fun h e he => h e (List.mem_cons_of_mem d he)

end

/-! ## The frame in use -/

variable {c : Config} {st st' : Driver} {f : ℕ}

/-- A frame keeps its objects. -/
def SameObjects (st st' : Driver) : Prop := ∀ f, (st'.frame f).rteObject = (st.frame f).rteObject

theorem SameObjects.trans {st1 : Driver} (h : SameObjects st st1) (h' : SameObjects st1 st') :
    SameObjects st st' := fun f => (h' f).trans (h f)

theorem sameObjects_setFrame {g : DrvFrame} (h : g.rteObject = (st.frame f).rteObject) :
    SameObjects st (st.setFrame f g) := by
  intro f'
  by_cases hf : f' = f
  · subst hf
    rw [setFrame_self, h]
  · rw [setFrame_other hf]

theorem sameObjects_addIbEntries (o : RteIx → IbEntryCalls) (ixs : List RteIx) (st : Driver) :
    SameObjects st (st.addIbEntries c f o ixs).2 := by
  induction ixs generalizing st with
  | nil => exact fun _ => rfl
  | cons ix ixs ih =>
    have hentry : SameObjects st (st.addIbEntry c f o ix).2 :=
      @sameObjects_setFrame { st with pools := _ } _ _ rfl
    unfold Driver.addIbEntries
    generalize st.addIbEntry c f o ix = r at hentry ⊢
    rcases r with ⟨ok, st1⟩
    cases ok with
    | true => exact hentry.trans (ih st1)
    | false => exact hentry

theorem sameObjects_ppmStart (o : PpmCalls) : SameObjects st (st.ppmStart c f o) := by
  unfold Driver.ppmStart
  cases (st.frame f).iocr with
  | none => exact fun _ => rfl
  | some cr =>
    show SameObjects st (st.ppmStartRte c f cr o)
    unfold Driver.ppmStartRte
    dsimp only
    generalize attempt ((st.frame f).ppmStartCalls o) = r
    rcases r with ⟨ids, ok⟩
    cases ok with
    | false => exact fun _ => rfl
    | true =>
      dsimp only
      rw [if_pos rfl]
      cases (st.programs ids).getCpmWalId c cr with
      | none => exact fun _ => rfl
      | some internalWalId =>
        have hwal : SameObjects st
            ((st.programs ids).setFrame f { st.frame f with internalWalId }) :=
          @sameObjects_setFrame (st.programs ids) _ _ rfl
        have hentries := hwal.trans
          (@sameObjects_addIbEntries c f o.entry (st.frame f).dataIxs _)
        dsimp only
        generalize Driver.addIbEntries c f o.entry _ (st.frame f).dataIxs = r at hentries ⊢
        rcases r with ⟨ok, st1⟩
        cases ok with
        | true => exact hentries.trans (sameObjects_setFrame rfl)
        | false => exact hentries

theorem sameObjects_cpmStart (o : CpmCalls) : SameObjects st (st.cpmStart f o).2 := by
  unfold Driver.cpmStart
  cases (st.frame f).iocr with
  | none => exact fun _ => rfl
  | some cr =>
    show SameObjects st (st.cpmStartRte f o).2
    unfold Driver.cpmStartRte
    dsimp only
    generalize attempt ((st.frame f).cpmStartCalls o) = r
    rcases r with ⟨ids, ok⟩
    cases ok with
    | false => exact fun _ => rfl
    | true => exact @sameObjects_setFrame { st with programmed := _ } _ _ rfl

theorem sameObjects_ppmFree (h : st.ppmFree c f = some st') : SameObjects st st' := by
  unfold Driver.ppmFree at h
  rcases Option.bind_eq_some_iff.mp h with ⟨p1, -, h⟩
  rcases Option.bind_eq_some_iff.mp h with ⟨p2, -, h⟩
  rcases Option.bind_eq_some_iff.mp h with ⟨p3, -, h⟩
  obtain rfl := Option.some.inj h
  exact @sameObjects_setFrame { st with pools := _ } _ _ rfl

theorem sameObjects_cpmFree (h : st.cpmFree c f = some st') : SameObjects st st' := by
  unfold Driver.cpmFree at h
  rcases Option.bind_eq_some_iff.mp h with ⟨p1, -, h⟩
  rcases Option.bind_eq_some_iff.mp h with ⟨p2, -, h⟩
  rcases Option.bind_eq_some_iff.mp h with ⟨p3, -, h⟩
  rcases Option.bind_eq_some_iff.mp h with ⟨p4, -, h⟩
  obtain rfl := Option.some.inj h
  exact @sameObjects_setFrame { st with pools := _ } _ _ rfl

theorem sameObjects_delayedClose {n : ℕ} (h : st.delayedClose c n = some st') :
    SameObjects st st' := by
  unfold Driver.delayedClose at h
  split at h
  · obtain rfl := Option.some.inj h
    exact fun _ => rfl
  · cases h
  · next f _ =>
    rcases Option.bind_eq_some_iff.mp h with ⟨st1, hstop, hfree⟩
    have hsame : SameObjects st st1 := by
      unfold Driver.ppmStop at hstop
      dsimp only at hstop
      split at hstop
      · rcases Option.bind_eq_some_iff.mp hstop with ⟨p, -, hstop⟩
        obtain rfl := Option.some.inj hstop
        exact fun _ => rfl
      · obtain rfl := Option.some.inj hstop
        exact fun _ => rfl
    exact hsame.trans (sameObjects_ppmFree hfree)
  · have hsame := sameObjects_cpmFree h
    exact hsame

/-- A new CR is given a frame that was not in use. -/
theorem alloc_rteObject {cr : Cr} {ds : List IodataObject} {r : Option ℕ}
    {ids : Stock Resource → DrvFrame → Stock Resource × DrvFrame}
    (h : st.alloc c cr ds ids = some (r, st')) (hused : (st.frame f).used = true) :
    (st'.frame f).rteObject = (st.frame f).rteObject := by
  rcases alloc_spec h with ⟨f', g, -, hunused, ⟨-, -, rfl⟩ | ⟨-, -, -, -, -, -, -, rfl⟩⟩
  all_goals
    have hne : f ≠ f' := by
      rintro rfl
      rw [hunused] at hused
      cases hused
  · rw [setFrame_other hne]
  · rw [setFrame_other hne]

/-- No step changes the objects of a frame that is in use. -/
theorem step_rteObject {e : Event} (h : step c st e = some st')
    (hused : (st.frame f).used = true) :
    (st'.frame f).rteObject = (st.frame f).rteObject := by
  cases e with
  | ppmCreate ar crep buffer dataDesc =>
    have h : st.ppmCreate c ar crep buffer dataDesc = some st' := h
    unfold Driver.ppmCreate at h
    split at h
    · obtain rfl := Option.some.inj h
      rfl
    · rcases Option.map_eq_some_iff.mp h with ⟨⟨r, st1⟩, halloc, rfl⟩
      have hkept := alloc_rteObject halloc hused
      exact hkept
  | cpmCreate ar crep dataDesc =>
    rcases Option.map_eq_some_iff.mp h with ⟨⟨r, st1⟩, halloc, rfl⟩
    have hkept := alloc_rteObject halloc hused
    exact hkept
  | ppmActivateReq ar crep o =>
    obtain rfl := Option.some.inj h
    unfold Driver.ppmActivateReq
    dsimp only
    split
    · rfl
    · cases (st.cr (.ppm, ar, crep)).frame with
      | none => rfl
      | some f' => exact @sameObjects_ppmStart _ (st.setCr _ _) _ o f
  | cpmActivateReq ar crep o =>
    obtain rfl := Option.some.inj h
    unfold Driver.cpmActivateReq
    dsimp only
    split
    · rfl
    · cases (st.cr (.cpm, ar, crep)).frame with
      | none => rfl
      | some f' =>
        show ((if _ then _ else _ : Driver).frame f).rteObject = _
        split
        · exact sameObjects_cpmStart o f
        · exact sameObjects_cpmStart o f
  | dhtExpired ar crep =>
    obtain rfl := Option.some.inj h
    rfl
  | closeReq cr added =>
    obtain rfl := Option.some.inj h
    cases added <;> rfl
  | delayedClose n => exact sameObjects_delayedClose h f

/-! ## The objects of a CR -/

/-- The ids of the two functions. -/
def idsOf (c : Config) : Side → Stock Resource → DrvFrame → Stock Resource × DrvFrame
  | .ppm => Driver.ppmIds c
  | .cpm => Driver.cpmIds c

/-- The object that the reads and writes of the application use for a subslot. -/
def accessed (g : DrvFrame) (loc : Location) : Option RteObject :=
  (getRteObject loc).map g.rteObject

/-- Each descriptor with data has an object that is its own, and is accessed in it. -/
structure EachItsOwn (ds : List IodataObject) (g : DrvFrame) : Prop where
  inside : ∀ d ∈ ds, 0 < d.dataLength → ∃ ix ∈ rteIxs, getRteObject d.location = some ix
  accessed : ∀ d ∈ ds, 0 < d.dataLength → ∃ o, accessed g d.location = some o ∧ o.iodata = some d
  distinct : ∀ d ∈ ds, ∀ e ∈ ds, 0 < d.dataLength → 0 < e.dataLength → d ≠ e →
    getRteObject d.location ≠ getRteObject e.location

/-- If there is a frame and room in the SRAM, the CR is given the frame, in which each descriptor
has its own object for as long as the frame is in use. -/
def OwnObjects (ds : List IodataObject) : Prop :=
  ∀ (c : Config) (st : Driver) (cr : Cr) (f : ℕ) (st₁ : Driver),
    st.allocFrame c = some (f, st₁) → (sramFrameAlloc c st₁.pools).2 ≠ PF_SRAM_INVALID_ADDRESS →
    ∃ st₂, st.alloc c cr ds (idsOf c cr.1) = some (some f, st₂) ∧
      ∀ es st₃, Runs.Along (step c) (fun st _ => (st.frame f).used = true) st₂ es →
        Runs.run (step c) st₂ es = some st₃ → EachItsOwn ds (st₃.frame f)

/-- The arrays have room for the descriptors with data, and no two APIs have the same subslot. -/
structure Placed (ds : List IodataObject) : Prop where
  addressable : ∀ d ∈ ds, 0 < d.dataLength → Addressable d.location
  oneApi : ∀ d ∈ ds, ∀ e ∈ ds, 0 < d.dataLength → 0 < e.dataLength →
    d.location.slotNbr = e.location.slotNbr → d.location.subslotNbr = e.location.subslotNbr →
    d.location.apiId = e.location.apiId

theorem idsOf_rteObject (side : Side) (p : Stock Resource) (g : DrvFrame) :
    (idsOf c side p g).2.rteObject = g.rteObject := by
  cases side <;> rfl

theorem Placed.distinct {ds : List IodataObject} (h : Placed ds)
    (hunique : KeyedList.Unique IodataObject.location ds) {d e : IodataObject} (hd : d ∈ ds)
    (he : e ∈ ds) (hdata : 0 < d.dataLength) (hdata' : 0 < e.dataLength)
    (heq : getRteObject d.location = getRteObject e.location) : d = e := by
  obtain ⟨hslot, hsubslot⟩ :=
    (h.addressable d hd hdata).same (h.addressable e he hdata') heq
  have hapi := h.oneApi d hd e he hdata hdata' hslot hsubslot
  apply List.inj_on_of_nodup_map hunique hd he
  cases hd : d.location
  cases he : e.location
  rw [hd, he] at hapi hslot hsubslot
  congr

theorem Placed.ownObjects {ds : List IodataObject} (h : Placed ds)
    (hunique : KeyedList.Unique IodataObject.location ds) : OwnObjects ds := by
  intro c st cr f st₁ hframe haddress
  obtain ⟨objects, hobjects⟩ := allocObjects_isSome_iff.mpr h.addressable
  have halloc : ∃ st₂, st.alloc c cr ds (idsOf c cr.1) = some (some f, st₂) ∧
      (st₂.frame f).rteObject = objects := by
    unfold Driver.alloc
    rw [hframe]
    dsimp only
    rw [if_neg haddress, hobjects]
    refine ⟨_, rfl, ?_⟩
    rw [setFrame_self, idsOf_rteObject]
  rcases halloc with ⟨st₂, halloc, hobjects₂⟩
  refine ⟨st₂, halloc, ?_⟩
  intro es st₃ hused hrun
  have hsame : (st₃.frame f).rteObject = objects := by
    apply Runs.invariant (I := fun st => (st.frame f).rteObject = objects) _ hobjects₂ hused hrun
    intro st e st' hst hused hstep
    exact (step_rteObject hstep hused).trans hst
  have hown : ∀ d ∈ ds, ∀ e ∈ ds, 0 < d.dataLength → 0 < e.dataLength →
      getRteObject d.location = getRteObject e.location → d = e :=
    fun d hd e he hdata hdata' => h.distinct hunique hd he hdata hdata'
  constructor
  · intro d hd hdata
    have hix := (h.addressable d hd hdata).getRteObject
    exact ⟨_, (getRteObject_some hix).2.2, hix⟩
  · intro d hd hdata
    have hix := (h.addressable d hd hdata).getRteObject
    unfold RteObjects.accessed
    rw [hix, hsame]
    exact ⟨_, rfl, allocObjects_own hobjects hown hd hdata hix⟩
  · intro d hd e he hdata hdata' hne heq
    exact hne (hown d hd e he hdata hdata' heq)

theorem OwnObjects.placed {ds : List IodataObject} (h : OwnObjects ds) : Placed ds := by
  -- The first CR after the start.
  rcases h OneAr.config powerOn (.cpm, 0, 0) 0 _ rfl (by decide) with ⟨st₂, halloc, hruns⟩
  have hown := hruns [] st₂ trivial rfl
  have haddressable : ∀ d ∈ ds, 0 < d.dataLength → Addressable d.location := by
    intro d hd hdata
    rcases hown.inside d hd hdata with ⟨ix, -, hix⟩
    exact addressable_of_getRteObject hix
  refine ⟨haddressable, ?_⟩
  intro d hd e he hdata hdata' hslot hsubslot
  by_contra hapi
  apply hown.distinct d hd e he hdata hdata'
  · rintro rfl
    exact hapi rfl
  · rw [(haddressable d hd hdata).getRteObject, (haddressable e he hdata').getRteObject, hslot,
      hsubslot]

/-- **Each data object has its own RTE object**, if and only if the slots and subslots with data are
in the arrays and no two APIs have the same. -/
theorem ownObjects_iff (expApis : List ExpApi) (p : IocrParam) :
    OwnObjects (layoutOf expApis p).dataDesc ↔ Placed (layoutOf expApis p).dataDesc :=
  ⟨fun h => h.placed, fun h => h.ownObjects iocrSetupDesc_formed.unique⟩

/-! ## A slot behind the array -/

namespace SlotFive

open TransmittersRun

/-- One byte of input in slot 5, one byte of output in slot 2. -/
def expApis : List ExpApi :=
  [⟨0, [⟨5, 0x30, 0, [⟨1, 0x130, ⟨PNET_DIR_INPUT, false, false, false, false⟩, [⟨1, 1, 1, 1⟩]⟩]⟩,
    ⟨2, 0x31, 0, [⟨1, 0x131, ⟨PNET_DIR_OUTPUT, false, false, false, false⟩, [⟨2, 1, 1, 1⟩]⟩]⟩]⟩]

def input : IocrParam := iocr PF_IOCR_TYPE_INPUT 0xC000 [⟨0, [⟨5, 1, 0⟩], [⟨2, 1, 2⟩]⟩]

def output : IocrParam := iocr PF_IOCR_TYPE_OUTPUT 0xC001 [⟨0, [⟨2, 1, 0⟩], [⟨5, 1, 2⟩]⟩]

end SlotFive

open TransmittersRun SlotFive in
/-- The request is accepted with data in slot 5 of 5. -/
theorem not_ownObjects_slot :
    acceptsIocrs 32 ar SlotFive.expApis [SlotFive.input, SlotFive.output] noError = true ∧
      ¬ OwnObjects (layoutOf SlotFive.expApis SlotFive.input).dataDesc := by
  refine ⟨by decide +kernel, fun h => ?_⟩
  have hmem : (⟨true, ⟨0, 5, 1⟩, 0, 1, 1, 1, 0, 0⟩ : IodataObject) ∈
      (layoutOf SlotFive.expApis SlotFive.input).dataDesc := by
    decide +kernel
  exact absurd (h.placed.addressable _ hmem (by decide)).slot (by decide)

end RteObjects

end PNet.Cyclic.Mera
