import PNet.Cmdev.Numbers

/-! # Looking up a submodule by its numbers

An operation names a submodule by an API number of 32 bits, a slot number and a subslot number. The
functions that look it up take an API identifier of 16 bits, so that the upper half of the API number
is lost on the way to the tree.

* `Device.Exact` - the look-ups find what has the numbers, and the operations act on nothing else
* `exact_iff` - when this is so
-/

namespace PNet

/-! ## The look-ups -/

namespace Cmdev.Device

/-- `pf_cmdev_get_slot_full`, whose API identifier has 16 bits. -/
def getSlotFull (d : Device) (apiId slotNbr : BitVec 16) : Option SlotPos := do
  let a ← d.getApi (apiId.setWidth 32)
  let s ← d.getSlot a slotNbr
  return (a, s)

/-- `pf_cmdev_get_module_ident`. -/
def getModuleIdent (d : Device) (apiId slotNbr : BitVec 16) : Option (BitVec 32) :=
  (d.getSlotFull apiId slotNbr).map fun q => (d.slots q).moduleIdentNumber

/-- `pf_cmdev_get_submodule_ident`. -/
def getSubmoduleIdent (d : Device) (apiId slotNbr subslotNbr : BitVec 16) : Option (BitVec 32) :=
  (d.getSubslotFull apiId slotNbr subslotNbr).map fun q => (d.subslots q).submoduleIdentNumber

/-- The AR of a subslot, with which `pf_cpm_get_ar_iocr_desc` and `pf_ppm_get_ar_iocr_desc` begin. -/
def subslotAr (d : Device) (loc : Cyclic.Location) : Option ℕ :=
  (d.getSubslotFull (loc.apiId.setWidth 16) loc.slotNbr loc.subslotNbr).bind fun q =>
    (d.subslots q).pAr

end Cmdev.Device

namespace Cyclic.Net

/-- `pf_ppm_get_ar_iocr_desc`: the first CR of the AR that provides data of the subslot. -/
def ppmGetArIocrDesc (net : Net) (loc : Location) : Option (Cr × IodataObject) :=
  match net.subslotAr loc with
  | none => none
  | some ar =>
    (List.range (net.nbrIocrs ar)).findSome? fun crep =>
      let io := net.iocr (ar, crep)
      if io.iocrType = .PF_IOCR_TYPE_INPUT ∨ io.iocrType = .PF_IOCR_TYPE_MC_PROVIDER then
        (io.dataDesc.find? fun d => d.inUse ∧ d.location = loc).map fun d => ((ar, crep), d)
      else none

variable {net : Net} {loc : Location} {cr : Cr} {x : IodataObject}

/-- The object of a search for the subslot in some of the CRs of an AR. -/
theorem object_of_search {ar n : ℕ} (chosen : Iocr → Prop) [∀ io, Decidable (chosen io)]
    (h : ((List.range n).findSome? fun crep =>
      if chosen (net.iocr (ar, crep)) then
        ((net.iocr (ar, crep)).dataDesc.find? fun d => d.inUse ∧ d.location = loc).map
          fun d => ((ar, crep), d)
      else none) = some (cr, x)) : x.location = loc ∧ cr.1 = ar := by
  rcases List.exists_of_findSome?_eq_some h with ⟨crep, -, hcrep⟩
  by_cases hchosen : chosen (net.iocr (ar, crep))
  · simp only [if_pos hchosen] at hcrep
    rcases Option.map_eq_some_iff.mp hcrep with ⟨d, hd, heq⟩
    cases heq
    have hfound := List.find?_some hd
    rw [decide_eq_true_iff] at hfound
    exact ⟨hfound.2, rfl⟩
  · simp only [if_neg hchosen] at hcrep
    cases hcrep

theorem getArIocrDesc_object (h : net.getArIocrDesc loc = some (cr, x)) :
    x.location = loc ∧ net.subslotAr loc = some cr.1 := by
  unfold getArIocrDesc at h
  cases har : net.subslotAr loc with
  | none =>
    simp only [har] at h
    cases h
  | some ar =>
    simp only [har] at h
    rcases object_of_search (fun io => io.iocrType = IocrType.PF_IOCR_TYPE_OUTPUT ∨
      io.iocrType = IocrType.PF_IOCR_TYPE_MC_CONSUMER) h with ⟨hloc, hcr⟩
    exact ⟨hloc, congrArg some hcr.symm⟩

theorem ppmGetArIocrDesc_object (h : net.ppmGetArIocrDesc loc = some (cr, x)) :
    x.location = loc ∧ net.subslotAr loc = some cr.1 := by
  unfold ppmGetArIocrDesc at h
  cases har : net.subslotAr loc with
  | none =>
    simp only [har] at h
    cases h
  | some ar =>
    simp only [har] at h
    rcases object_of_search (fun io => io.iocrType = IocrType.PF_IOCR_TYPE_INPUT ∨
      io.iocrType = IocrType.PF_IOCR_TYPE_MC_PROVIDER) h with ⟨hloc, hcr⟩
    exact ⟨hloc, congrArg some hcr.symm⟩

end Cyclic.Net

namespace Cmdev

namespace Device

variable {d : Device} {apiId : BitVec 32} {slotNbr subslotNbr : BitVec 16}

/-! ## What the numbers mean -/

/-- The API in use with this number contains the slot in use with this number. -/
def HasSlot (d : Device) (apiId : BitVec 32) (slotNbr : BitVec 16) (q : SlotPos) : Prop :=
  (q.1 < PNET_MAX_API ∧ (d.apis q.1).inUse = true ∧ (d.apis q.1).apiId = apiId) ∧
    q.2 < PNET_MAX_SLOTS ∧ (d.slots q).inUse = true ∧ (d.slots q).slotNbr = slotNbr

/-- The slot contains the subslot in use with this number. -/
def HasSubslot (d : Device) (apiId : BitVec 32) (slotNbr subslotNbr : BitVec 16)
    (q : SubslotPos) : Prop :=
  d.HasSlot apiId slotNbr (q.1, q.2.1) ∧
    q.2.2 < PNET_MAX_SUBSLOTS ∧ (d.subslots q).inUse = true ∧
      (d.subslots q).subslotNbr = subslotNbr

/-- The look-ups by the numbers find the entries that have them, and the operations that are called
with the numbers act on the submodule that has them. -/
structure Exact (d : Device) (apiId : BitVec 32) (slotNbr subslotNbr : BitVec 16) : Prop where
  slot : ∀ q, d.getSlotFull (apiId.setWidth 16) slotNbr = some q ↔ d.HasSlot apiId slotNbr q
  subslot : ∀ q, d.getSubslotFull (apiId.setWidth 16) slotNbr subslotNbr = some q ↔
    d.HasSubslot apiId slotNbr subslotNbr q
  moduleIdent : ∀ n, d.getModuleIdent (apiId.setWidth 16) slotNbr = some n ↔
    ∃ q, d.HasSlot apiId slotNbr q ∧ (d.slots q).moduleIdentNumber = n
  submoduleIdent : ∀ n, d.getSubmoduleIdent (apiId.setWidth 16) slotNbr subslotNbr = some n ↔
    ∃ q, d.HasSubslot apiId slotNbr subslotNbr q ∧ (d.subslots q).submoduleIdentNumber = n
  /-- What is read of a received frame is of the submodule, in a CR of the AR that owns it. -/
  consumer : ∀ net : Cyclic.Net, net.subslotAr = d.subslotAr → ∀ cr x,
    net.getArIocrDesc ⟨apiId, slotNbr, subslotNbr⟩ = some (cr, x) →
      x.location = ⟨apiId, slotNbr, subslotNbr⟩ ∧
        ∃ q, d.HasSubslot apiId slotNbr subslotNbr q ∧ (d.subslots q).pAr = some cr.1
  /-- What is written into a frame to be sent is of the submodule, in a CR of the AR that owns it. -/
  provider : ∀ net : Cyclic.Net, net.subslotAr = d.subslotAr → ∀ cr x,
    net.ppmGetArIocrDesc ⟨apiId, slotNbr, subslotNbr⟩ = some (cr, x) →
      x.location = ⟨apiId, slotNbr, subslotNbr⟩ ∧
        ∃ q, d.HasSubslot apiId slotNbr subslotNbr q ∧ (d.subslots q).pAr = some cr.1
  diagnosis : ∀ ars send op ret net', op.source.api = apiId → op.source.slot = slotNbr →
    op.source.subslot = subslotNbr → DiagOp.run ⟨d, ars⟩ send op = some (ret, net') →
      ∀ q, ¬ d.HasSubslot apiId slotNbr subslotNbr q → net'.dev.subslots q = d.subslots q

/-! ## The look-ups are exact for the number that they get -/

theorem Numbered.getSlotFull_iff (h : d.Numbered) (apiId slotNbr : BitVec 16) (q : SlotPos) :
    d.getSlotFull apiId slotNbr = some q ↔ d.HasSlot (apiId.setWidth 32) slotNbr q := by
  rcases q with ⟨a, s⟩
  unfold HasSlot
  rw [← h.apis.lookup_iff, ← (h.slots a).lookup_iff, ← getApi_eq, ← getSlot_eq]
  simp only [getSlotFull, Option.bind_eq_bind, Option.bind_eq_some_iff, Option.pure_def,
    Option.some.injEq, Prod.mk.injEq]
  constructor
  · rintro ⟨a', ha, s', hs, rfl, rfl⟩
    exact ⟨ha, hs⟩
  · rintro ⟨ha, hs⟩
    exact ⟨a, ha, s, hs, rfl, rfl⟩

theorem getSubslotFull_eq (apiId slotNbr subslotNbr : BitVec 16) (q : SubslotPos) :
    d.getSubslotFull apiId slotNbr subslotNbr = some q ↔
      d.getSlotFull apiId slotNbr = some (q.1, q.2.1) ∧
        d.getSubslot q.1 q.2.1 subslotNbr = some q.2.2 := by
  rcases q with ⟨a, s, i⟩
  simp only [getSubslotFull, getSlotFull, Option.bind_eq_bind, Option.bind_eq_some_iff,
    Option.pure_def, Option.some.injEq, Prod.mk.injEq]
  constructor
  · rintro ⟨a', ha, s', hs, i', hi, rfl, rfl, rfl⟩
    exact ⟨⟨a', ha, s', hs, rfl, rfl⟩, hi⟩
  · rintro ⟨⟨a', ha, s', hs, rfl, rfl⟩, hi⟩
    exact ⟨a', ha, s', hs, i, hi, rfl, rfl, rfl⟩

theorem Numbered.getSubslotFull_iff (h : d.Numbered) (apiId slotNbr subslotNbr : BitVec 16)
    (q : SubslotPos) : d.getSubslotFull apiId slotNbr subslotNbr = some q ↔
      d.HasSubslot (apiId.setWidth 32) slotNbr subslotNbr q := by
  rw [getSubslotFull_eq, h.getSlotFull_iff, getSubslot_eq, (h.subslots _ _).lookup_iff]
  exact Iff.rfl

/-! ## The number that they get -/

/-- Both numbers lead to the same entries: they are the same, or lead to none. -/
theorem Numbered.hasSlot_iff (h : d.Numbered) (hcut : (apiId.setWidth 16).toNat = apiId.toNat ∨
    ∀ q, ¬ d.HasSlot apiId slotNbr q ∧
      ¬ d.HasSlot ((apiId.setWidth 16).setWidth 32) slotNbr q) (q : SlotPos) :
    d.getSlotFull (apiId.setWidth 16) slotNbr = some q ↔ d.HasSlot apiId slotNbr q := by
  rw [h.getSlotFull_iff]
  rcases hcut with hcut | hnone
  · have heq : (apiId.setWidth 16).setWidth 32 = apiId := by
      apply BitVec.eq_of_toNat_eq
      rw [BitVec.toNat_setWidth, hcut, Nat.mod_eq_of_lt apiId.isLt]
    rw [heq]
  · exact ⟨fun hq => absurd hq (hnone q).2, fun hq => absurd hq (hnone q).1⟩

theorem subslot_of_slot (h : d.Numbered) (hslot : ∀ q,
    d.getSlotFull (apiId.setWidth 16) slotNbr = some q ↔ d.HasSlot apiId slotNbr q)
    (subslotNbr : BitVec 16) (q : SubslotPos) :
    d.getSubslotFull (apiId.setWidth 16) slotNbr subslotNbr = some q ↔
      d.HasSubslot apiId slotNbr subslotNbr q := by
  rw [getSubslotFull_eq, hslot, getSubslot_eq, (h.subslots _ _).lookup_iff]
  exact Iff.rfl

/-- The AR that a cyclic operation finds owns the submodule. -/
theorem subslotAr_owner (hsub : ∀ q, d.getSubslotFull (apiId.setWidth 16) slotNbr subslotNbr =
    some q ↔ d.HasSubslot apiId slotNbr subslotNbr q) {ar : ℕ}
    (h : d.subslotAr ⟨apiId, slotNbr, subslotNbr⟩ = some ar) :
    ∃ q, d.HasSubslot apiId slotNbr subslotNbr q ∧ (d.subslots q).pAr = some ar := by
  rcases Option.bind_eq_some_iff.mp h with ⟨q, hq, har⟩
  exact ⟨q, (hsub q).mp hq, har⟩

/-- The rest follows from the look-up of the slot. -/
theorem exact_of_slot (h : d.Numbered) (hslot : ∀ q,
    d.getSlotFull (apiId.setWidth 16) slotNbr = some q ↔ d.HasSlot apiId slotNbr q) :
    d.Exact apiId slotNbr subslotNbr := by
  have hsub := subslot_of_slot h hslot subslotNbr
  constructor
  · exact hslot
  · exact hsub
  · intro n
    unfold getModuleIdent
    rw [Option.map_eq_some_iff]
    exact exists_congr fun q => and_congr_left fun _ => hslot q
  · intro n
    unfold getSubmoduleIdent
    rw [Option.map_eq_some_iff]
    exact exists_congr fun q => and_congr_left fun _ => hsub q
  · intro net hnet cr x hx
    rcases Cyclic.Net.getArIocrDesc_object hx with ⟨hloc, har⟩
    rw [hnet] at har
    exact ⟨hloc, subslotAr_owner hsub har⟩
  · intro net hnet cr x hx
    rcases Cyclic.Net.ppmGetArIocrDesc_object hx with ⟨hloc, har⟩
    rw [hnet] at har
    exact ⟨hloc, subslotAr_owner hsub har⟩
  · intro ars send op ret net' hapi hs hi hrun q hq
    apply (Net.diagnoses_run hrun).others q
    intro htarget
    apply hq
    apply (hsub q).mp
    rw [← hapi, ← hs, ← hi]
    exact (Option.filter_eq_some_iff.mp htarget).1

end Device

/-- **The look-ups are exact** for an API number of 16 bits; for a longer one they are if no slot
has the slot number under this API number, and none under what is left of it. -/
theorem exact_iff {d : Device} (h : d.Numbered) (apiId : BitVec 32)
    (slotNbr subslotNbr : BitVec 16) : d.Exact apiId slotNbr subslotNbr ↔
      apiId.toNat < 2 ^ 16 ∨ ∀ q, ¬ d.HasSlot apiId slotNbr q ∧
        ¬ d.HasSlot ((apiId.setWidth 16).setWidth 32) slotNbr q := by
  constructor
  · intro hexact
    by_cases hlt : apiId.toNat < 2 ^ 16
    · exact Or.inl hlt
    · right
      have hne : (apiId.setWidth 16).setWidth 32 ≠ apiId := by
        intro heq
        apply hlt
        rw [← heq, BitVec.toNat_setWidth_of_le (by omega)]
        exact (apiId.setWidth 16).isLt
      -- an entry that has one of the numbers would have both
      have hboth (q : SlotPos) : d.HasSlot ((apiId.setWidth 16).setWidth 32) slotNbr q ↔
          d.HasSlot apiId slotNbr q := by
        rw [← h.getSlotFull_iff]
        exact hexact.slot q
      have hnot (q : SlotPos) : ¬ d.HasSlot apiId slotNbr q := by
        intro hq
        have hq' := (hboth q).mpr hq
        exact hne (hq'.1.2.2.symm.trans hq.1.2.2)
      intro q
      exact ⟨hnot q, fun hq => hnot q ((hboth q).mp hq)⟩
  · intro hcut
    apply Device.exact_of_slot h
    apply h.hasSlot_iff
    refine hcut.imp (fun hlt => ?_) id
    rw [BitVec.toNat_setWidth, Nat.mod_eq_of_lt hlt]

/-! ## A diagnosis that reaches a submodule of another API -/

namespace OtherApi

/-- A submodule of API 0. -/
def plug : List PoolStep := [.plugSubmodule 0 1 1 ⟨1, 1, 0, 0, 0⟩ false]

/-- A diagnosis for a submodule of API 0x10000, which does not exist. -/
def diagnosis : Diagnosis :=
  { LostItem.diagnosis with source := { LostItem.diagnosis.source with api := 0x10000 } }

theorem plug_run : ∃ net, LostItem.start.run plug = some net ∧ net.dev.Numbered := by
  rcases hrun : LostItem.start.run plug with _ | net
  · cases hrun
  · exact ⟨net, rfl, Net.numbered_of_run Device.numbered_init hrun⟩

theorem plug_finds : ((LostItem.start.run plug).map fun net =>
      (net.dev.getSlotFull ((0x10000 : BitVec 32).setWidth 16) 1, (net.dev.apis 0).apiId,
        net.dev.target diagnosis.source)) = some (some (0, 0), 0, some (0, 0, 0)) := by
  decide +kernel

end OtherApi

open OtherApi in
/-- Under API 0x10000 the slot of API 0 is found, and a diagnosis goes to its submodule. -/
theorem not_exact_otherApi : ∃ net, LostItem.start.run plug = some net ∧ net.dev.Numbered ∧
    net.dev.target diagnosis.source = some (0, 0, 0) ∧ ¬ net.dev.Exact 0x10000 1 1 := by
  rcases plug_run with ⟨net, hrun, hnumbered⟩
  have hfinds := plug_finds
  rw [hrun, Option.map_some, Option.some.injEq, Prod.mk.injEq, Prod.mk.injEq] at hfinds
  rcases hfinds with ⟨hslot, hzero, htarget⟩
  refine ⟨net, hrun, hnumbered, htarget, ?_⟩
  intro hexact
  have hapi := ((hexact.slot (0, 0)).mp hslot).1.2.2
  rw [hzero] at hapi
  exact absurd hapi (by decide)

open OtherApi in
theorem exact_of_plug : ∃ net, LostItem.start.run plug = some net ∧ net.dev.Exact 0 1 1 := by
  rcases plug_run with ⟨net, hrun, hnumbered⟩
  exact ⟨net, hrun, (exact_iff hnumbered 0 1 1).mpr (Or.inl (by decide))⟩

end Cmdev

end PNet
