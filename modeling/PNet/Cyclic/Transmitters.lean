import PNet.Cyclic.FrameData
import PNet.Cyclic.Lan9662
import PNet.Lib.Runs

/-! # Two transmitters of one CR

The same calls go to the PPM with its software driver and to the one with the LAN9662 driver.

* `sameFrame_of_conforms`: the image in the engine has the bytes of the frame that the software
  driver would send, as long as no call does what the hardware driver does not pass on.
-/

namespace PNet.Cyclic

open Connect Block

/-- The descriptor of a subslot that belongs to the AR. -/
def getDesc (x : Layout) (loc : Location) : Option IodataObject :=
  x.dataDesc.find? fun d => d.inUse ∧ d.location = loc

/-! ## Calls -/

/-- A call of the stack or of the application. `null` is a missing data pointer; the length that
comes with it is that of `data`. -/
inductive PpmCall where
  | create (sa da : Vector Byte 6) (allocated : Bool) (sramFrame : Option ℕ)
  | activate (now : BitVec 32) (added started : Bool)
  | setDataAndIops (loc : Location) (null : Bool) (data iops : List Byte)
  | setIocs (loc : Location) (iocs : List Byte)
  | setDataStatus (bit : ℕ) (on : Bool)

/-- The data that a call passes to the driver. -/
def pointer (null : Bool) (data : List Byte) : Option (List Byte) := if null then none else some data

section

variable (p : IocrParam) (x : Layout)

/-- A call with the software driver. -/
def Ppm.call (y : Ppm) : PpmCall → Ppm
  | .create sa da allocated _ => (y.create sa da p allocated).2
  | .activate now added _ => (y.activateReq x.inLength now added).2
  | .setDataAndIops loc null data iops =>
    match getDesc x loc with
    | none => y
    | some d =>
      if data.length = d.dataLength ∧ iops.length = d.iopsLength then
        y.writeDataAndIops d (pointer null data) iops
      else y
  | .setIocs loc iocs =>
    match getDesc x loc with
    | none => y
    | some d => if iocs.length = d.iocsLength then y.writeIocs d iocs else y
  | .setDataStatus bit on => y.setDataStatus bit on

/-- A call with the hardware driver. -/
def Lan9662.call (y : Lan9662) : PpmCall → Option Lan9662
  | .create sa da allocated sramFrame =>
    (y.create sa da p x.dataDesc allocated sramFrame).map Prod.snd
  | .activate now _ started => (y.activateReq x.inLength now started).map Prod.snd
  | .setDataAndIops loc null data iops =>
    match getDesc x loc with
    | none => some y
    | some d =>
      if data.length = d.dataLength ∧ iops.length = d.iopsLength then
        (y.writeDataAndIops d (pointer null data) iops).map Prod.snd
      else some y
  | .setIocs loc iocs =>
    match getDesc x loc with
    | none => some y
    | some d => if iocs.length = d.iocsLength then some (y.writeIocs d iocs) else some y
  | .setDataStatus bit on => some (y.setDataStatus bit on)

/-- The two transmitters. -/
structure Transmitters where
  sw : Ppm
  hw : Lan9662

namespace Transmitters

/-- Nothing has been created, and the SRAM has any contents. -/
def start (rte : Rte) : Transmitters := ⟨Ppm.cleared, Ppm.cleared, none, rte⟩

def step (w : Transmitters) (c : PpmCall) : Option Transmitters :=
  (w.hw.call p x c).map fun hw => ⟨w.sw.call p x c, hw⟩

/-- An active image has the data, the IOPS, the IOCS and the data status of the next frame that the
software driver would send. -/
def SameFrame (w : Transmitters) : Prop :=
  ∀ f, w.hw.frame = some f → f.active = true →
    ∃ g, (w.sw.finishBuffer x.inLength).sendBuffer = some g ∧
      (∀ d ∈ x.dataDesc, ∀ a ∈ d.areas, ∀ k, a.Has k →
        w.hw.rte.image (w.sw.bufferPos.toNat + k) = g.payload (w.sw.bufferPos.toNat + k)) ∧
      w.hw.rte.image w.sw.dataStatusOffset.toNat = g.payload w.sw.dataStatusOffset.toNat

end Transmitters

/-! ## Calls that both drivers carry out alike -/

/-- The frame has these bytes already. -/
def Unchanged (y : Ppm) (pos : ℕ) (bytes : List Byte) : Prop :=
  ∀ i (h : i < bytes.length), pos + i < x.inLength.toNat → y.bufferData (pos + i) = bytes[i]

/-- The bytes that the software driver does not put into its frame are zero. -/
def ZeroBeyond (pos : ℕ) (bytes : List Byte) : Prop :=
  ∀ i (h : i < bytes.length), x.inLength.toNat ≤ pos + i → bytes[i] = 0

/-- The IOPS goes to the engine: not that of the DAP, nor one that comes with a data pointer of a
submodule without data. -/
def ToEngine (d : IodataObject) (null : Bool) : Prop :=
  d.location.slotNbr ≠ Rpc.PNET_SLOT_DAP_IDENT ∧ (null = true ∨ 0 < d.dataLength)

/-- The state of the hardware driver is one in which the call comes to the same.
* Each submodule with data has an object in the engine.
* At the activation the SRAM of a submodule holds the data that have been set until then.
* Data are set when there is a frame. While it is active, an IOPS that does not reach the engine is
  the one that has been set, and so is each IOCS.
* The data status is set when its place is known. -/
def Conforms (y : Lan9662) : PpmCall → Prop
  | .create _ _ allocated sramFrame =>
    y.ppm.state = .PF_PPM_STATE_W_START → allocated = true → sramFrame ≠ none →
      ∀ d ∈ x.dataDesc, 0 < d.dataLength → getRteObject d.location ≠ none
  | .activate _ _ started =>
    y.ppm.state = .PF_PPM_STATE_W_START → y.ppm.sendBuffer.isSome = true ∧
      ∀ f ∈ y.frame, started = true → ∀ d ∈ x.dataDesc, ∀ ix ∈ getRteObject d.location,
        ∀ i < d.dataLength,
          y.rte.sram ix (((f.rteObject ix).config f.sramFrameAddress).sramAddress + i) =
            y.ppm.staged x.inLength (d.dataOffset + i)
  | .setDataAndIops loc null data iops =>
    ∀ d ∈ getDesc x loc, data.length = d.dataLength → iops.length = d.iopsLength →
      ∃ f ∈ y.frame, f.active = true →
        (null = false → getRteObject d.location ≠ none ∧ ZeroBeyond x d.dataOffset data) ∧
        (ToEngine d null → getRteObject d.location ≠ none ∧ ZeroBeyond x d.iopsOffset iops) ∧
        (¬ToEngine d null → Unchanged x y.ppm d.iopsOffset iops)
  | .setIocs loc iocs =>
    ∀ d ∈ getDesc x loc, iocs.length = d.iocsLength →
      ∀ f ∈ y.frame, f.active = true → Unchanged x y.ppm d.iocsOffset iocs
  | .setDataStatus _ _ => p.cSduLength.toNat ≤ y.ppm.dataStatusOffset.toNat

instance (y : Ppm) (pos : ℕ) (bytes : List Byte) : Decidable (Unchanged x y pos bytes) :=
  inferInstanceAs (Decidable (∀ i (h : i < bytes.length), _ → y.bufferData (pos + i) = bytes[i]))

instance (pos : ℕ) (bytes : List Byte) : Decidable (ZeroBeyond x pos bytes) :=
  inferInstanceAs (Decidable (∀ i (h : i < bytes.length), _ → bytes[i] = 0))

instance (d : IodataObject) (null : Bool) : Decidable (ToEngine d null) :=
  inferInstanceAs (Decidable (_ ∧ _))

instance (y : Lan9662) : ∀ c, Decidable (Conforms p x y c)
  | .create _ _ _ _ => inferInstanceAs (Decidable (_ → _ → _ → ∀ d ∈ x.dataDesc, _))
  | .activate _ _ _ => inferInstanceAs (Decidable (_ → _ ∧ ∀ f ∈ y.frame, _ →
      ∀ d ∈ x.dataDesc, ∀ ix ∈ getRteObject d.location, ∀ i < d.dataLength, _))
  | .setDataAndIops loc _ _ _ => inferInstanceAs (Decidable (∀ d ∈ getDesc x loc, _ → _ →
      ∃ f ∈ y.frame, _ → _))
  | .setIocs loc _ => inferInstanceAs (Decidable (∀ d ∈ getDesc x loc, _ → ∀ f ∈ y.frame, _ → _))
  | .setDataStatus _ _ => inferInstanceAs (Decidable (_ ≤ _))

/-! ## The image -/

variable {p x}

theorem copy_outside {sram : RteIx → ℕ → Byte} {b : ℕ → Byte} {a : ReadAction} {pos : ℕ}
    (h : pos < MERA_PDU_START + a.pduOffset ∨ MERA_PDU_START + a.pduOffset + a.length ≤ pos) :
    a.copy sram b pos = b pos := by
  unfold ReadAction.copy
  apply Buffer.write_outside
  rw [Buffer.slice_length]
  exact h

theorem copy_inside {sram : RteIx → ℕ → Byte} {b : ℕ → Byte} {a : ReadAction} {i : ℕ}
    (h : i < a.length) :
    a.copy sram b (MERA_PDU_START + a.pduOffset + i) = sram a.list (a.addr + i) := by
  unfold ReadAction.copy
  have hlt : i < (Buffer.slice (sram a.list) a.addr a.length).length := by
    rw [Buffer.slice_length]
    exact h
  rw [Buffer.write_inside hlt]
  apply Option.some.inj
  rw [← List.getElem?_eq_getElem hlt, Buffer.slice_getElem?, if_pos h]

/-- A byte that no action writes. -/
theorem foldl_copy_outside {sram : RteIx → ℕ → Byte} {b : ℕ → Byte} {l : List ReadAction} {pos : ℕ}
    (h : ∀ a ∈ l, pos < MERA_PDU_START + a.pduOffset ∨
      MERA_PDU_START + a.pduOffset + a.length ≤ pos) :
    l.foldl (ReadAction.copy sram) b pos = b pos := by
  induction l generalizing b with
  | nil => rfl
  | cons a l ih =>
    rw [List.foldl_cons, ih fun a' ha' => h a' (List.mem_cons_of_mem a ha')]
    exact copy_outside (h a List.mem_cons_self)

/-- A byte that some action writes, and all that do so write `v`. -/
theorem foldl_copy_inside {sram : RteIx → ℕ → Byte} {b : ℕ → Byte} {l : List ReadAction} {pos : ℕ}
    {v : Byte} (hex : ∃ a ∈ l, ∃ i < a.length, pos = MERA_PDU_START + a.pduOffset + i)
    (hval : ∀ a ∈ l, ∀ i < a.length, pos = MERA_PDU_START + a.pduOffset + i →
      sram a.list (a.addr + i) = v) : l.foldl (ReadAction.copy sram) b pos = v := by
  induction l generalizing b with
  | nil =>
    rcases hex with ⟨a, ha, -⟩
    cases ha
  | cons a l ih =>
    rw [List.foldl_cons]
    have hval' : ∀ a' ∈ l, ∀ i < a'.length, pos = MERA_PDU_START + a'.pduOffset + i →
        sram a'.list (a'.addr + i) = v := fun a' ha' => hval a' (List.mem_cons_of_mem a ha')
    by_cases hrest : ∃ a' ∈ l, ∃ i < a'.length, pos = MERA_PDU_START + a'.pduOffset + i
    · exact ih hrest hval'
    · -- the last action that writes the byte is the first one of the list
      rw [foldl_copy_outside]
      · rcases hex with ⟨a', ha', i, hi, rfl⟩
        rcases List.mem_cons.mp ha' with rfl | ha'
        · rw [copy_inside hi]
          exact hval a' List.mem_cons_self i hi rfl
        · exact absurd ⟨a', ha', i, hi, rfl⟩ hrest
      · intro a' ha'
        by_contra hin
        push Not at hin
        exact hrest ⟨a', ha', pos - (MERA_PDU_START + a'.pduOffset), by omega, by omega⟩

/-! ## The objects of a frame -/

/-- What is known of the descriptors of an accepted CR. -/
structure Regular (p : IocrParam) (x : Layout) : Prop where
  inside : ∀ d ∈ x.dataDesc, d.Inside p.cSduLength
  apart : ∀ d ∈ x.dataDesc, ∀ e ∈ x.dataDesc, d ≠ e → d.Apart e
  own : ∀ d ∈ x.dataDesc, d.data.Apart d.iops
  object : ∀ d ∈ x.dataDesc, ∀ e ∈ x.dataDesc, ∀ ix, getRteObject d.location = some ix →
    getRteObject e.location = some ix → d = e

theorem getSubslotIndex_some {subslot : BitVec 16} {ix : ℕ} (h : getSubslotIndex subslot = some ix)
    (hlt : subslot.toNat < PNET_MAX_SLOTS) : subslot.toNat = ix + 1 ∧ ix < PNET_MAX_SUBSLOTS := by
  unfold getSubslotIndex at h
  have hdap : subslot < Rpc.PNET_SUBSLOT_DAP_INTERFACE_1_IDENT := by
    rw [BitVec.lt_def]
    exact lt_of_lt_of_le hlt (by decide)
  rw [if_pos hdap] at h
  dsimp only at h
  by_cases hix : (subslot - 1).toNat < PNET_MAX_SUBSLOTS
  · rw [if_pos hix] at h
    obtain rfl := Option.some.inj h
    refine ⟨?_, hix⟩
    have hmax : PNET_MAX_SUBSLOTS = 3 := rfl
    have hsub : (subslot - 1).toNat = (2 ^ 16 - 1 + subslot.toNat) % 2 ^ 16 := by
      rw [BitVec.toNat_sub]
      rfl
    have hbound := subslot.isLt
    omega
  · rw [if_neg hix] at h
    cases h

theorem getRteObject_some {loc : Location} {ix : RteIx} (h : getRteObject loc = some ix) :
    loc.slotNbr.toNat = ix.1 ∧ loc.subslotNbr.toNat = ix.2 + 1 ∧ ix ∈ rteIxs := by
  rcases Option.bind_eq_some_iff.mp h with ⟨i, hi, h⟩
  by_cases hlt : loc.subslotNbr.toNat < PNET_MAX_SLOTS ∧ loc.slotNbr.toNat < PNET_MAX_SLOTS
  · rw [if_pos hlt] at h
    obtain rfl := Option.some.inj h
    rcases getSubslotIndex_some hi hlt.1 with ⟨hsubslot, hmax⟩
    exact ⟨rfl, hsubslot,
      List.pair_mem_product.mpr ⟨List.mem_range.mpr hlt.2, List.mem_range.mpr hmax⟩⟩
  · rw [if_neg hlt] at h
    cases h

theorem regular_of_sound (hs : x.Sound p.cSduLength) (hf : x.Formed p.apis)
    (hone : p.apis.length ≤ PNET_MAX_API) : Regular p x := by
  have : Std.Symm IodataObject.Apart := ⟨fun _ _ h => h.symm⟩
  constructor
  · exact hs.inside
  · exact fun d hd e he hne => hs.apart.forall hd he hne
  · intro d hd
    rcases hf.iops d hd with hlen | hoff
    · intro k _ hk
      have hlt : k < d.iopsOffset + d.iopsLength := hk.2
      have hle : d.iopsOffset ≤ k := hk.1
      omega
    · have hin : d.dataOffset + d.dataLength ≤ p.cSduLength.toNat :=
        hs.inside d hd d.data List.mem_cons_self
      have hbound := p.cSduLength.isLt
      have hnext : d.iopsOffset = d.dataOffset + d.dataLength := by omega
      intro k hk hk'
      have hlt : k < d.dataOffset + d.dataLength := hk.2
      have hle : d.iopsOffset ≤ k := hk'.1
      omega
  · intro d hd e he ix hix hix'
    rcases getRteObject_some hix with ⟨hslot, hsubslot, -⟩
    rcases getRteObject_some hix' with ⟨hslot', hsubslot', -⟩
    rcases hf.api d hd with ⟨a, ha, hapi⟩
    rcases hf.api e he with ⟨a', ha', hapi'⟩
    -- there is one API only
    have hsame : a = a' := by
      have hmax : PNET_MAX_API = 1 := rfl
      match hapis : p.apis with
      | [] =>
        rw [hapis] at ha
        cases ha
      | [b] =>
        rw [hapis, List.mem_singleton] at ha ha'
        rw [ha, ha']
      | _ :: _ :: _ =>
        rw [hapis, List.length_cons, List.length_cons] at hone
        omega
    apply List.inj_on_of_nodup_map hf.unique hd he
    have hloc {l l' : Location} (h1 : l.apiId = l'.apiId) (h2 : l.slotNbr = l'.slotNbr)
        (h3 : l.subslotNbr = l'.subslotNbr) : l = l' := by
      cases l
      cases l'
      cases h1
      cases h2
      cases h3
      rfl
    apply hloc
    · rw [hapi, hapi', hsame]
    · exact BitVec.eq_of_toNat_eq (hslot.trans hslot'.symm)
    · exact BitVec.eq_of_toNat_eq (hsubslot.trans hsubslot'.symm)

/-- Each submodule with data has its own object. -/
structure Holds (x : Layout) (objects : RteIx → RteObject) : Prop where
  own : ∀ d ∈ x.dataDesc, 0 < d.dataLength →
    ∃ ix, getRteObject d.location = some ix ∧ (objects ix).iodata = some d
  of : ∀ ix d, (objects ix).iodata = some d →
    d ∈ x.dataDesc ∧ 0 < d.dataLength ∧ getRteObject d.location = some ix

theorem Holds.congr {objects objects' : RteIx → RteObject} (h : Holds x objects)
    (hsame : ∀ ix, (objects' ix).iodata = (objects ix).iodata) : Holds x objects' := by
  constructor
  · intro d hd hlen
    rcases h.own d hd hlen with ⟨ix, hix, hio⟩
    exact ⟨ix, hix, (hsame ix).trans hio⟩
  · intro ix d hio
    exact h.of ix d ((hsame ix).symm.trans hio)

theorem allocObjects_holds {ds : List IodataObject} (objects : RteIx → RteObject)
    (hobject : ∀ d ∈ ds, 0 < d.dataLength → getRteObject d.location ≠ none)
    (hinj : ∀ d ∈ ds, ∀ e ∈ ds, ∀ ix, getRteObject d.location = some ix →
      getRteObject e.location = some ix → d = e) :
    ∃ objects', allocObjects objects ds = some objects' ∧
      (∀ d ∈ ds, 0 < d.dataLength →
        ∃ ix, getRteObject d.location = some ix ∧ (objects' ix).iodata = some d) ∧
      (∀ ix, (objects' ix).iodata = (objects ix).iodata ∨
        ∃ d ∈ ds, (objects' ix).iodata = some d ∧ 0 < d.dataLength ∧
          getRteObject d.location = some ix) := by
  induction ds generalizing objects with
  | nil =>
    refine ⟨objects, rfl, ?_, fun _ => .inl rfl⟩
    intro d hd
    cases hd
  | cons d ds ih =>
    rw [List.forall_mem_cons] at hobject
    have hinj' : ∀ d ∈ ds, ∀ e ∈ ds, ∀ ix, getRteObject d.location = some ix →
        getRteObject e.location = some ix → d = e := fun d' hd' e he =>
      hinj d' (List.mem_cons_of_mem d hd') e (List.mem_cons_of_mem d he)
    unfold allocObjects
    by_cases hlen : 0 < d.dataLength
    · rw [if_pos hlen]
      rcases Option.ne_none_iff_exists'.mp (hobject.1 hlen) with ⟨ix, hix⟩
      rcases ih (Function.update objects ix { objects ix with iodata := some d })
        hobject.2 hinj' with ⟨objects', halloc, hown, hof⟩
      refine ⟨objects', by rw [hix]; exact halloc, ?_, ?_⟩
      · rw [List.forall_mem_cons]
        refine ⟨fun _ => ⟨ix, hix, ?_⟩, hown⟩
        rcases hof ix with hsame | ⟨e, he, hio, -, hix'⟩
        · rw [hsame, Function.update_self]
        · rw [hio, hinj d List.mem_cons_self e (List.mem_cons_of_mem d he) ix hix hix']
      · intro ix'
        rcases hof ix' with hsame | ⟨e, he, hio, hlen', hix'⟩
        · by_cases hne : ix' = ix
          · right
            refine ⟨d, List.mem_cons_self, ?_, hlen, hne ▸ hix⟩
            rw [hsame, hne, Function.update_self]
          · left
            rw [hsame, Function.update_of_ne hne]
        · exact .inr ⟨e, List.mem_cons_of_mem d he, hio, hlen', hix'⟩
    · rw [if_neg hlen]
      rcases ih objects hobject.2 hinj' with ⟨objects', halloc, hown, hof⟩
      refine ⟨objects', halloc, ?_, ?_⟩
      · rw [List.forall_mem_cons]
        exact ⟨fun h => absurd h hlen, hown⟩
      · intro ix
        rcases hof ix with hsame | ⟨e, he, hio⟩
        · exact .inl hsame
        · exact .inr ⟨e, List.mem_cons_of_mem d he, hio⟩

theorem config_iodata (address : ℕ) (o : RteObject) : (o.config address).iodata = o.iodata := by
  unfold RteObject.config
  cases hio : o.iodata with
  | none => exact hio
  | some d =>
    dsimp only
    split
    · rfl
    · exact hio

theorem readAction_some {ix : RteIx} {o : RteObject} {a : ReadAction}
    (h : o.readAction ix = some a) : ∃ d, o.iodata = some d ∧ 0 < d.dataLength ∧
      a = ⟨ix, o.sramAddress, d.dataLength, d.dataOffset + PF_MERA_PPM_IODATA_OFFSET⟩ := by
  unfold RteObject.readAction at h
  cases hio : o.iodata with
  | none =>
    rw [hio] at h
    cases h
  | some d =>
    rw [hio] at h
    dsimp only at h
    by_cases hlen : 0 < d.dataLength
    · rw [if_pos hlen] at h
      exact ⟨d, rfl, hlen, (Option.some.inj h).symm⟩
    · rw [if_neg hlen] at h
      cases h

/-! ## The invariant -/

/-- What the engine has of an active frame: the data of the submodules in the SRAM, all else in
the image. -/
structure Mirror (p : IocrParam) (x : Layout) (sw : Ppm) (rte : Rte)
    (objects : RteIx → RteObject) : Prop where
  actions : rte.actions = rteIxs.filterMap fun ix => (objects ix).readAction ix
  data : ∀ d ∈ x.dataDesc, ∀ ix, getRteObject d.location = some ix → ∀ i < d.dataLength,
    rte.sram ix ((objects ix).sramAddress + i) = sw.staged x.inLength (d.dataOffset + i)
  rest : ∀ k < p.cSduLength.toNat, (∀ e ∈ x.dataDesc, ¬e.data.Has k) →
    rte.data (20 + k) = sw.staged x.inLength k
  status : rte.data (20 + p.cSduLength.toNat + 2) = sw.dataStatus

/-- How the two transmitters hang together. -/
structure Linked (p : IocrParam) (x : Layout) (w : Transmitters) : Prop where
  state : w.sw.state = w.hw.ppm.state
  dataStatus : w.sw.dataStatus = w.hw.ppm.dataStatus
  ready : w.sw.sendBuffer = none ∧ w.hw.ppm.sendBuffer = none ∨
    w.sw.Ready p x.inLength ∧ w.hw.ppm.Ready p x.inLength
  buffer : ∀ k < p.cSduLength.toNat, w.sw.bufferData k = w.hw.ppm.bufferData k
  holds : ∀ f, w.hw.frame = some f → Holds x f.rteObject
  active : ∀ f, w.hw.frame = some f → f.active = true → w.sw.state = .PF_PPM_STATE_RUN ∧
    w.sw.Ready p x.inLength ∧ Mirror p x w.sw w.hw.rte f.rteObject

variable {w : Transmitters} {sw : Ppm} {rte : Rte} {objects : RteIx → RteObject} {k : ℕ}

/-- The data area of a descriptor ends inside of the frame. -/
theorem Regular.lt (hr : Regular p x) {d : IodataObject} (hd : d ∈ x.dataDesc) {a : Area}
    (ha : a ∈ d.areas) (hk : a.Has k) : k < p.cSduLength.toNat :=
  lt_of_lt_of_le hk.2 (hr.inside d hd a ha)

theorem mem_actions (hm : Mirror p x sw rte objects) (hh : Holds x objects) {a : ReadAction}
    (ha : a ∈ rte.actions) : ∃ d ∈ x.dataDesc, getRteObject d.location = some a.list ∧
      a.addr = (objects a.list).sramAddress ∧ a.length = d.dataLength ∧
      a.pduOffset = d.dataOffset + PF_MERA_PPM_IODATA_OFFSET := by
  rw [hm.actions] at ha
  rcases List.mem_filterMap.mp ha with ⟨ix, -, hix⟩
  rcases readAction_some hix with ⟨d, hio, -, rfl⟩
  rcases hh.of ix d hio with ⟨hd, -, hloc⟩
  exact ⟨d, hd, hloc, rfl, rfl, rfl⟩

/-- The data come from the SRAM, all else from the image. -/
theorem Mirror.image (hm : Mirror p x sw rte objects) (hr : Regular p x) (hh : Holds x objects)
    (hk : k < p.cSduLength.toNat) : rte.image (20 + k) = sw.staged x.inLength k := by
  have hstart : MERA_PDU_START + PF_MERA_PPM_IODATA_OFFSET = 20 := rfl
  by_cases hdata : ∃ e ∈ x.dataDesc, e.data.Has k
  · rcases hdata with ⟨e, he, hle, hlt⟩
    have hoff : e.dataOffset ≤ k := hle
    have hend : k < e.dataOffset + e.dataLength := hlt
    rcases hh.own e he (by omega) with ⟨ix, hix, hio⟩
    apply foldl_copy_inside
    · refine ⟨⟨ix, (objects ix).sramAddress, e.dataLength,
        e.dataOffset + PF_MERA_PPM_IODATA_OFFSET⟩, ?_, k - e.dataOffset, ?_, ?_⟩
      · rw [hm.actions]
        refine List.mem_filterMap.mpr ⟨ix, (getRteObject_some hix).2.2, ?_⟩
        unfold RteObject.readAction
        rw [hio]
        exact if_pos (by omega)
      · show k - e.dataOffset < e.dataLength
        omega
      · show 20 + k = MERA_PDU_START + (e.dataOffset + PF_MERA_PPM_IODATA_OFFSET) +
          (k - e.dataOffset)
        omega
    · intro a ha i hi hpos
      rcases mem_actions hm hh ha with ⟨d, hd, hloc, haddr, hlen, hpdu⟩
      rw [hpdu] at hpos
      rw [hlen] at hi
      have hsame : d = e := by
        by_contra hne
        exact hr.apart d hd e he hne e.data List.mem_cons_self d.data List.mem_cons_self k
          ⟨hle, hlt⟩ ⟨show d.dataOffset ≤ k by omega,
            show k < d.dataOffset + d.dataLength by omega⟩
      subst hsame
      rw [haddr, hm.data d hd a.list hloc i hi]
      congr 1
      omega
  · rw [Rte.image, foldl_copy_outside]
    · exact hm.rest k hk fun e he hin => hdata ⟨e, he, hin⟩
    · intro a ha
      rcases mem_actions hm hh ha with ⟨d, hd, -, -, hlen, hpdu⟩
      by_contra hin
      push Not at hin
      rw [hpdu, hlen] at hin
      exact hdata ⟨d, hd, show d.dataOffset ≤ k by omega,
        show k < d.dataOffset + d.dataLength by omega⟩

theorem Mirror.image_status (hm : Mirror p x sw rte objects) (hr : Regular p x)
    (hh : Holds x objects) : rte.image (20 + p.cSduLength.toNat + 2) = sw.dataStatus := by
  rw [Rte.image, foldl_copy_outside]
  · exact hm.status
  · intro a ha
    rcases mem_actions hm hh ha with ⟨d, hd, -, -, hlen, hpdu⟩
    have hend : d.dataOffset + d.dataLength ≤ p.cSduLength.toNat :=
      hr.inside d hd d.data List.mem_cons_self
    have hstart : MERA_PDU_START + PF_MERA_PPM_IODATA_OFFSET = 20 := rfl
    right
    rw [hpdu, hlen]
    omega

theorem Linked.sameFrame (h : Linked p x w) (hr : Regular p x) : w.SameFrame x := by
  intro f hf hactive
  rcases h.active f hf hactive with ⟨-, hready, hm⟩
  rcases Ppm.finishBuffer_carries hready with ⟨-, g, hg, -, hdata, hstatus⟩
  refine ⟨g, hg, ?_, ?_⟩
  · intro d hd a ha k hk
    rw [hready.bufferPos, hdata k (hr.lt hd ha hk)]
    exact hm.image hr (h.holds f hf) (hr.lt hd ha hk)
  · rw [hready.dataStatus, hstatus]
    exact hm.image_status hr (h.holds f hf)

theorem start_linked (rte : Rte) : Linked p x (Transmitters.start rte) where
  state := rfl
  dataStatus := rfl
  ready := .inl ⟨rfl, rfl⟩
  buffer := fun _ _ => rfl
  holds := nofun
  active := nofun

/-! ## Creating and activating -/

theorem create_same (y : Ppm) (sa da : Vector Byte 6) (allocated : Bool) :
    (y.create sa da p allocated).2.bufferData = y.bufferData ∧
      (y.create sa da p allocated).2.state = y.state := by
  unfold Ppm.create
  cases hstate : y.state with
  | PF_PPM_STATE_RUN => exact ⟨rfl, hstate⟩
  | PF_PPM_STATE_W_START =>
    cases allocated with
    | false => exact ⟨rfl, hstate⟩
    | true => exact ⟨rfl, hstate⟩

theorem create_dataStatus {y z : Ppm} (hstate : z.state = y.state)
    (hstatus : z.dataStatus = y.dataStatus) (sa da : Vector Byte 6) (allocated : Bool) :
    (z.create sa da p allocated).2.dataStatus = (y.create sa da p allocated).2.dataStatus := by
  unfold Ppm.create
  rw [hstate]
  cases y.state with
  | PF_PPM_STATE_RUN => exact hstatus
  | PF_PPM_STATE_W_START =>
    cases allocated with
    | false => rfl
    | true => rfl

theorem Linked.create (h : Linked p x w) (hr : Regular p x) (hfits : Fits p)
    (sa da : Vector Byte 6) (allocated : Bool) (sramFrame : Option ℕ)
    (hc : Conforms p x w.hw (.create sa da allocated sramFrame)) :
    ∃ w', w.step p x (.create sa da allocated sramFrame) = some w' ∧ Linked p x w' := by
  cases hstate : w.hw.ppm.state with
  | PF_PPM_STATE_RUN =>
    have hsw : w.sw.create sa da p allocated = (-1, w.sw) := by
      rw [Ppm.create, h.state, hstate]
    have hhw : w.hw.ppm.create sa da p allocated = (-1, w.hw.ppm) := by
      rw [Ppm.create, hstate]
    refine ⟨w, ?_, h⟩
    unfold Transmitters.step Lan9662.call Ppm.call Lan9662.create
    dsimp only
    rw [hsw, hhw]
    rfl
  | PF_PPM_STATE_W_START =>
    have hidle (f : MeraFrame) (hf : w.hw.frame = some f) : f.active ≠ true := by
      intro hactive
      have hrun := (h.active f hf hactive).1
      rw [h.state, hstate] at hrun
      cases hrun
    have hlinked (frame : Option MeraFrame)
        (hready : (w.sw.create sa da p allocated).2.sendBuffer = none ∧
            (w.hw.ppm.create sa da p allocated).2.sendBuffer = none ∨
          (w.sw.create sa da p allocated).2.Ready p x.inLength ∧
            (w.hw.ppm.create sa da p allocated).2.Ready p x.inLength)
        (hholds : ∀ f, frame = some f → Holds x f.rteObject ∧ f.active ≠ true) :
        Linked p x ⟨(w.sw.create sa da p allocated).2,
          { w.hw with ppm := (w.hw.ppm.create sa da p allocated).2, frame }⟩ := by
      rcases create_same (p := p) w.sw sa da allocated with ⟨hbuf, hst⟩
      rcases create_same (p := p) w.hw.ppm sa da allocated with ⟨hbuf', hst'⟩
      constructor
      · exact hst.trans (h.state.trans hst'.symm)
      · exact create_dataStatus h.state h.dataStatus sa da allocated
      · exact hready
      · intro k hk
        rw [hbuf]
        dsimp only
        rw [hbuf']
        exact h.buffer k hk
      · exact fun f hf => (hholds f hf).1
      · exact fun f hf hactive => absurd hactive (hholds f hf).2
    cases allocated with
    | false =>
      have hret : (w.hw.ppm.create sa da p false).1 = -1 := by
        rw [Ppm.create, hstate]
        rfl
      have hnone (y : Ppm) (hy : y.state = .PF_PPM_STATE_W_START) :
          (y.create sa da p false).2.sendBuffer = none := by
        rw [Ppm.create, hy]
        rfl
      refine ⟨_, ?_, hlinked w.hw.frame (.inl ⟨hnone _ (h.state.trans hstate), hnone _ hstate⟩)
        fun f hf => ⟨h.holds f hf, hidle f hf⟩⟩
      unfold Transmitters.step Lan9662.call Ppm.call Lan9662.create
      dsimp only
      rw [hret]
      rfl
    | true =>
      have hret : (w.hw.ppm.create sa da p true).1 = 0 := by
        rw [Ppm.create, hstate]
        rfl
      have hready := And.intro (Ppm.create_ready hfits (h.state.trans hstate) sa da x.inLength)
        (Ppm.create_ready hfits hstate sa da x.inLength)
      cases sramFrame with
      | none =>
        refine ⟨_, ?_, hlinked none (.inr hready) fun _ hf => by cases hf⟩
        unfold Transmitters.step Lan9662.call Ppm.call Lan9662.create
        dsimp only
        rw [hret]
        rfl
      | some address =>
        rcases allocObjects_holds (fun _ => ⟨none, PF_SRAM_INVALID_ADDRESS⟩)
          (hc hstate rfl fun h => by cases h) hr.object with ⟨objects, halloc, hown, hof⟩
        have hholds : Holds x objects := by
          constructor
          · exact hown
          · intro ix d hio
            rcases hof ix with hsame | ⟨e, he, hio', hlen, hloc⟩
            · cases hio.symm.trans hsame
            · obtain rfl := Option.some.inj (hio'.symm.trans hio)
              exact ⟨he, hlen, hloc⟩
        refine ⟨_, ?_, hlinked (some ⟨false, address, objects⟩) (.inr hready) ?_⟩
        · unfold Transmitters.step Lan9662.call Ppm.call Lan9662.create Lan9662.drvCreate
          dsimp only
          rw [hret, halloc]
          rfl
        · rintro f ⟨⟩
          exact ⟨hholds, Bool.false_ne_true⟩

theorem activateReq_carries {y : Ppm} (h : y.Ready p x.inLength)
    (hstate : y.state = .PF_PPM_STATE_W_START) (now : BitVec 32) (added : Bool) :
    (y.activateReq x.inLength now added).2.Ready p x.inLength ∧
      (y.activateReq x.inLength now added).2.state = .PF_PPM_STATE_RUN ∧
      (y.activateReq x.inLength now added).2.bufferData = y.bufferData ∧
      (y.activateReq x.inLength now added).2.dataStatus = y.dataStatus ∧
      ∃ g, (y.activateReq x.inLength now added).2.sendBuffer = some g ∧
        g.len.toNat = 20 + p.cSduLength.toNat + 4 ∧ y.Carries p x.inLength g := by
  set z : Ppm := { y with
    nextExec := now + y.controlInterval, state := .PF_PPM_STATE_RUN, ciRunning := true }
  have hz : (y.activateReq x.inLength now added).2 = z.finishBuffer x.inLength := by
    rw [Ppm.activateReq, hstate]
  have hready : z.Ready p x.inLength := h.of_same rfl rfl rfl rfl rfl
  rcases Ppm.finishBuffer_same z x.inLength with ⟨hbuf, hstatus, -, -, -, -, hst⟩
  rcases Ppm.finishBuffer_carries hready with ⟨hready', g, hg, hlen, hcarries⟩
  rw [hz]
  exact ⟨hready', hst, hbuf, hstatus, g, hg, hlen, hcarries⟩

/-- The engine takes the bytes of the send buffer. -/
theorem handedOver_byte {g : Frame} {n : ℕ} (h : n < g.len.toNat) : handedOver g n = g.payload n := by
  unfold handedOver
  have hlt : n < (Buffer.slice g.payload 0 g.len.toNat).length := by
    rw [Buffer.slice_length]
    exact h
  have hinside := Buffer.write_inside (b := fun _ => (0 : Byte)) (p := 0) hlt
  rw [Nat.zero_add] at hinside
  rw [hinside]
  apply Option.some.inj
  rw [← List.getElem?_eq_getElem hlt, Buffer.slice_getElem?, if_pos h, Nat.zero_add]

theorem Linked.activate (h : Linked p x w) (hr : Regular p x) (now : BitVec 32)
    (added started : Bool)
    (hc : Conforms p x w.hw (.activate now added started)) :
    ∃ w', w.step p x (.activate now added started) = some w' ∧ Linked p x w' := by
  cases hstate : w.hw.ppm.state with
  | PF_PPM_STATE_RUN =>
    have hsw : (w.sw.activateReq x.inLength now added).2 = w.sw := by
      rw [Ppm.activateReq, h.state, hstate]
    refine ⟨w, ?_, h⟩
    unfold Transmitters.step Lan9662.call Ppm.call Lan9662.activateReq
    dsimp only
    rw [hsw, hstate]
    rfl
  | PF_PPM_STATE_W_START =>
    rcases hc hstate with ⟨hbuffer, hsram⟩
    rcases h.ready with hnone | ⟨hsw, hhw⟩
    · rw [hnone.2] at hbuffer
      cases hbuffer
    rcases activateReq_carries hsw (h.state.trans hstate) now added with
      ⟨hready, hrun, hbuf, hstatus, -⟩
    rcases activateReq_carries hhw hstate now true with
      ⟨hready', hrun', hbuf', hstatus', g, hg, hlen, hdata, hgstatus⟩
    have hlinked (frame : Option MeraFrame) (rte : Rte)
        (hframe : ∀ f, frame = some f → Holds x f.rteObject ∧ (f.active = true →
          Mirror p x (w.sw.activateReq x.inLength now added).2 rte f.rteObject)) :
        Linked p x ⟨(w.sw.activateReq x.inLength now added).2,
          ⟨(w.hw.ppm.activateReq x.inLength now true).2, frame, rte⟩⟩ := by
      constructor
      · exact hrun.trans hrun'.symm
      · exact hstatus.trans (h.dataStatus.trans hstatus'.symm)
      · exact .inr ⟨hready, hready'⟩
      · intro k hk
        dsimp only
        rw [hbuf, hbuf']
        exact h.buffer k hk
      · exact fun f hf => (hframe f hf).1
      · exact fun f hf hactive => ⟨hrun, hready, (hframe f hf).2 hactive⟩
    have hstaged (k : ℕ) (hk : k < p.cSduLength.toNat) :
        (w.sw.activateReq x.inLength now added).2.staged x.inLength k =
          w.hw.ppm.staged x.inLength k := by
      apply Ppm.staged_congr
      rw [hbuf]
      exact h.buffer k hk
    -- what the engine then has
    have hmirror (f : MeraFrame) (hf : w.hw.frame = some f)
        (hstarted : started = true) : Mirror p x (w.sw.activateReq x.inLength now added).2
        ⟨handedOver g, rteIxs.filterMap fun ix =>
          ((f.rteObject ix).config f.sramFrameAddress).readAction ix, w.hw.rte.sram⟩
        fun ix => (f.rteObject ix).config f.sramFrameAddress := by
      constructor
      · rfl
      · intro d hd ix hix i hi
        have hlt : d.dataOffset + i < p.cSduLength.toNat :=
          hr.lt hd List.mem_cons_self ⟨Nat.le_add_right _ _, Nat.add_lt_add_left hi _⟩
        rw [hstaged _ hlt]
        exact hsram f hf hstarted d hd ix hix i hi
      · intro k hk _
        rw [hstaged k hk, ← hdata k hk]
        exact handedOver_byte (by omega)
      · rw [hstatus, h.dataStatus, ← hgstatus]
        exact handedOver_byte (by omega)
    have hstep (hw : Lan9662) (hact : (w.hw.activateReq x.inLength now started).map Prod.snd = some hw) :
        w.step p x (.activate now added started) =
          some ⟨(w.sw.activateReq x.inLength now added).2, hw⟩ := by
      unfold Transmitters.step Lan9662.call Ppm.call
      dsimp only
      rw [hact]
      rfl
    cases hframe : w.hw.frame with
    | none =>
      refine ⟨_, hstep ⟨_, none, w.hw.rte⟩ ?_, hlinked none w.hw.rte nofun⟩
      unfold Lan9662.activateReq
      rw [hstate]
      dsimp only
      rw [hg, hframe]
      rfl
    | some f =>
      cases started with
      | false =>
        refine ⟨_, hstep ⟨_, some f, w.hw.rte⟩ ?_, hlinked (some f) w.hw.rte ?_⟩
        · unfold Lan9662.activateReq
          rw [hstate]
          dsimp only
          rw [hg, hframe]
          rfl
        · rintro f' ⟨⟩
          refine ⟨h.holds f hframe, fun hactive => ?_⟩
          have hrunning := (h.active f hframe hactive).1
          rw [h.state, hstate] at hrunning
          cases hrunning
      | true =>
        refine ⟨_, hstep (Lan9662.ppmStart
          ⟨(w.hw.ppm.activateReq x.inLength now true).2, w.hw.frame, w.hw.rte⟩ f g) ?_,
          hlinked (some ⟨true, f.sramFrameAddress,
            fun ix => (f.rteObject ix).config f.sramFrameAddress⟩) _ ?_⟩
        · unfold Lan9662.activateReq
          rw [hstate]
          dsimp only
          rw [hg, hframe]
          rfl
        · rintro f' ⟨⟩
          exact ⟨(h.holds f hframe).congr fun ix => config_iodata _ _, fun _ => hmirror f hframe rfl⟩

/-! ## Settings -/

/-- The two PPMs differ in the buffer of the application only. -/
structure Alike (y z : Ppm) : Prop where
  state : z.state = y.state
  dataStatus : z.dataStatus = y.dataStatus
  bufferPos : z.bufferPos = y.bufferPos
  cycleCounterOffset : z.cycleCounterOffset = y.cycleCounterOffset
  dataStatusOffset : z.dataStatusOffset = y.dataStatusOffset
  transferStatusOffset : z.transferStatusOffset = y.transferStatusOffset
  sendBuffer : z.sendBuffer = y.sendBuffer

theorem Alike.ready {y z : Ppm} (h : Alike y z) (hy : y.Ready p x.inLength) :
    z.Ready p x.inLength :=
  hy.of_same h.bufferPos h.cycleCounterOffset h.dataStatusOffset h.transferStatusOffset
    h.sendBuffer

theorem writeFrameBuffer_alike (y : Ppm) (offset : ℕ) (data : List Byte) :
    Alike y (y.writeFrameBuffer offset data) := ⟨rfl, rfl, rfl, rfl, rfl, rfl, rfl⟩

theorem writeDataAndIops_alike (y : Ppm) (d : IodataObject) (data : Option (List Byte))
    (iops : List Byte) : Alike y (y.writeDataAndIops d data iops) := by
  cases data <;> exact ⟨rfl, rfl, rfl, rfl, rfl, rfl, rfl⟩

/-- Steps that only write to the buffers, and to the engine of an active frame. -/
theorem Linked.of_alike (h : Linked p x w) {sw hw : Ppm} {rte : Rte} (hsw : Alike w.sw sw)
    (hhw : Alike w.hw.ppm hw)
    (hbuf : ∀ k < p.cSduLength.toNat, sw.bufferData k = hw.bufferData k)
    (hactive : ∀ f, w.hw.frame = some f → f.active = true → Mirror p x sw rte f.rteObject) :
    Linked p x ⟨sw, ⟨hw, w.hw.frame, rte⟩⟩ := by
  constructor
  · exact hsw.state.trans (h.state.trans hhw.state.symm)
  · exact hsw.dataStatus.trans (h.dataStatus.trans hhw.dataStatus.symm)
  · rcases h.ready with ⟨hnone, hnone'⟩ | ⟨hready, hready'⟩
    · exact .inl ⟨hsw.sendBuffer.trans hnone, hhw.sendBuffer.trans hnone'⟩
    · exact .inr ⟨hsw.ready hready, hhw.ready hready'⟩
  · exact hbuf
  · exact h.holds
  · intro f hf hact
    rcases h.active f hf hact with ⟨hrun, hready, -⟩
    exact ⟨hsw.state.trans hrun, hsw.ready hready, hactive f hf hact⟩

theorem writeFrameBuffer_congr {y z : Ppm} {c offset : ℕ} {data : List Byte}
    (h : ∀ k < c, y.bufferData k = z.bufferData k) :
    ∀ k < c, (y.writeFrameBuffer offset data).bufferData k =
      (z.writeFrameBuffer offset data).bufferData k := by
  intro k hk
  show Buffer.write y.bufferData offset data k = Buffer.write z.bufferData offset data k
  by_cases hin : offset ≤ k ∧ k < offset + data.length
  · have hlt : k - offset < data.length := by omega
    have hpos : k = offset + (k - offset) := by omega
    rw [hpos, Buffer.write_inside hlt, Buffer.write_inside hlt]
  · rw [Buffer.write_outside (by omega), Buffer.write_outside (by omega)]
    exact h k hk

theorem writeDataAndIops_congr {y z : Ppm} {c : ℕ} (d : IodataObject)
    (data : Option (List Byte)) (iops : List Byte)
    (h : ∀ k < c, y.bufferData k = z.bufferData k) :
    ∀ k < c, (y.writeDataAndIops d data iops).bufferData k =
      (z.writeDataAndIops d data iops).bufferData k := by
  cases data with
  | none => exact writeFrameBuffer_congr h
  | some data => exact writeFrameBuffer_congr (writeFrameBuffer_congr h)

theorem writeDataAndIops_of_frame {y : Lan9662} {f : MeraFrame} (hf : y.frame = some f)
    (d : IodataObject) (data : Option (List Byte)) (iops : List Byte) :
    y.writeDataAndIops d data iops =
      if f.active then
        Lan9662.writeActive ⟨y.ppm.writeDataAndIops d data iops, y.frame, y.rte⟩ f d data iops
      else some (0, ⟨y.ppm.writeDataAndIops d data iops, y.frame, y.rte⟩) := by
  rcases y with ⟨ppm, frame, rte⟩
  subst hf
  rfl

/-- What `pf_ppm_drv_lan9662_write_data_and_iops` does to the engine. -/
theorem writeActive_spec (hr : Regular p x) {y : Lan9662} {f : MeraFrame}
    (hh : Holds x f.rteObject) {d : IodataObject} (hd : d ∈ x.dataDesc) {null : Bool}
    (data iops : List Byte) (hobject : null = false → getRteObject d.location ≠ none)
    (hobject' : ToEngine d null → getRteObject d.location ≠ none) :
    ∃ ret rte, y.writeActive f d (pointer null data) iops = some (ret, { y with rte }) ∧
      rte.actions = y.rte.actions ∧
      (ToEngine d null →
        rte.data = Buffer.write y.rte.data (y.ppm.bufferPos.toNat + d.iopsOffset) iops) ∧
      (¬ToEngine d null → rte.data = y.rte.data) ∧
      (null = true ∨ d.dataLength = 0 → rte.sram = y.rte.sram) ∧
      (null = false → 0 < d.dataLength → ∃ ix, getRteObject d.location = some ix ∧
        rte.sram = Function.update y.rte.sram ix
          (Buffer.write (y.rte.sram ix) (f.rteObject ix).sramAddress data)) := by
  -- the IOPS, after the data
  have hiops (z : Lan9662) (hdata : null = true ∨ 0 < d.dataLength) :
      ∃ ret rte, z.ppmWriteIops d iops = some (ret, { z with rte }) ∧
        rte.actions = z.rte.actions ∧ rte.sram = z.rte.sram ∧
        (ToEngine d null →
          rte.data = Buffer.write z.rte.data (z.ppm.bufferPos.toNat + d.iopsOffset) iops) ∧
        (¬ToEngine d null → rte.data = z.rte.data) := by
    unfold Lan9662.ppmWriteIops
    by_cases hslot : d.location.slotNbr = Rpc.PNET_SLOT_DAP_IDENT
    · rw [if_pos hslot]
      exact ⟨-1, z.rte, rfl, rfl, rfl, fun h => absurd hslot h.1, fun _ => rfl⟩
    · rw [if_neg hslot]
      rcases Option.ne_none_iff_exists'.mp (hobject' ⟨hslot, hdata⟩) with ⟨ix, hix⟩
      rw [hix]
      exact ⟨0, _, rfl, rfl, rfl, fun _ => rfl, fun h => absurd ⟨hslot, hdata⟩ h⟩
  cases null with
  | true =>
    rcases hiops y (.inl rfl) with ⟨ret, rte, hw, hact, hsram, hto, hnot⟩
    exact ⟨ret, rte, hw, hact, hto, hnot, fun _ => hsram, nofun⟩
  | false =>
    rcases Option.ne_none_iff_exists'.mp (hobject rfl) with ⟨ix, hix⟩
    unfold Lan9662.writeActive pointer
    rw [if_neg Bool.false_ne_true]
    dsimp only
    unfold Lan9662.ppmWriteInput
    rw [hix]
    by_cases hlen : 0 < d.dataLength
    · -- the list of the object takes the data
      have hreq : meraIbRalReq (f.rteObject ix) = true := by
        rcases hh.own d hd hlen with ⟨ix', hix', hio⟩
        obtain rfl := Option.some.inj (hix.symm.trans hix')
        unfold meraIbRalReq
        rw [hio]
        exact decide_eq_true hlen
      rcases hiops { y with rte := { y.rte with
          sram := Function.update y.rte.sram ix
            (Buffer.write (y.rte.sram ix) (f.rteObject ix).sramAddress data) } } (.inr hlen) with
        ⟨ret, rte, hw, hact, hsram, hto, hnot⟩
      refine ⟨ret, rte, ?_, hact, hto, hnot, ?_, fun _ _ => ⟨ix, rfl, hsram⟩⟩
      · dsimp only [Option.map_some, Option.bind_some]
        rw [if_pos hreq, if_pos rfl]
        exact hw
      · rintro (h | h)
        · cases h
        · omega
    · -- there is no list
      have hreq : meraIbRalReq (f.rteObject ix) = false := by
        unfold meraIbRalReq
        cases hio : (f.rteObject ix).iodata with
        | none => rfl
        | some e =>
          rcases hh.of ix e hio with ⟨he, hlen', hix'⟩
          rw [hr.object e he d hd ix hix' hix] at hlen'
          exact absurd hlen' hlen
      have hnot : ¬ToEngine d false := by
        rintro ⟨-, h | h⟩
        · cases h
        · exact hlen h
      refine ⟨-1, y.rte, ?_, rfl, fun h => absurd h hnot, fun _ => rfl, fun _ => rfl,
        fun _ h => absurd h hlen⟩
      dsimp only [Option.map_some, Option.bind_some]
      rw [hreq]
      rfl

/-! ### Bytes of the buffer -/

theorem outside_of {a : Area} {n : ℕ} (hlen : n = a.length) (h : ¬a.Has k) :
    k < a.start ∨ a.start + n ≤ k := by
  by_contra hin
  push Not at hin
  exact h ⟨hin.1, by omega⟩

theorem writeDataAndIops_iops (y : Ppm) (d : IodataObject) (data : Option (List Byte))
    {iops : List Byte} {i : ℕ} (h : i < iops.length) :
    (y.writeDataAndIops d data iops).bufferData (d.iopsOffset + i) = iops[i] := by
  cases data with
  | none => exact Buffer.write_inside h
  | some data => exact Buffer.write_inside h

theorem writeDataAndIops_outside (y : Ppm) (d : IodataObject) (null : Bool) {data iops : List Byte}
    (hdata : data.length = d.dataLength) (hiops : iops.length = d.iopsLength)
    (hk : null = true ∨ ¬d.data.Has k) (hk' : ¬d.iops.Has k) :
    (y.writeDataAndIops d (pointer null data) iops).bufferData k = y.bufferData k := by
  have hout' : k < d.iopsOffset ∨ d.iopsOffset + iops.length ≤ k := outside_of hiops hk'
  cases null with
  | true => exact Buffer.write_outside hout'
  | false =>
    have hout : k < d.dataOffset ∨ d.dataOffset + data.length ≤ k := by
      rcases hk with hnull | hk
      · cases hnull
      · exact outside_of hdata hk
    show Buffer.write (Buffer.write y.bufferData d.dataOffset data) d.iopsOffset iops k = _
    rw [Buffer.write_outside hout', Buffer.write_outside hout]

theorem writeDataAndIops_data (y : Ppm) (d : IodataObject) {data iops : List Byte}
    (hiops : iops.length = d.iopsLength) {i : ℕ} (hi : i < data.length)
    (hk : ¬d.iops.Has (d.dataOffset + i)) :
    (y.writeDataAndIops d (pointer false data) iops).bufferData (d.dataOffset + i) = data[i] := by
  show Buffer.write (Buffer.write y.bufferData d.dataOffset data) d.iopsOffset iops _ = _
  have hout : d.dataOffset + i < d.iopsOffset ∨ d.iopsOffset + iops.length ≤ d.dataOffset + i :=
    outside_of hiops hk
  rw [Buffer.write_outside hout, Buffer.write_inside hi]

/-- The engine keeps step with the buffer when data and IOPS are set. -/
theorem Mirror.setDataAndIops (hr : Regular p x) {objects : RteIx → RteObject}
    {y : Ppm} {rte rte' : Rte} (hm : Mirror p x y rte objects)
    {d : IodataObject} (hd : d ∈ x.dataDesc) {null : Bool} {data iops : List Byte}
    (hdata : data.length = d.dataLength) (hiops : iops.length = d.iopsLength)
    (hzero : null = false → ZeroBeyond x d.dataOffset data)
    (hzero' : ToEngine d null → ZeroBeyond x d.iopsOffset iops)
    (hsame : ¬ToEngine d null → Unchanged x y d.iopsOffset iops)
    (hact : rte'.actions = rte.actions)
    (hto : ToEngine d null → rte'.data = Buffer.write rte.data (20 + d.iopsOffset) iops)
    (hnot : ¬ToEngine d null → rte'.data = rte.data)
    (hsram : null = true ∨ d.dataLength = 0 → rte'.sram = rte.sram)
    (hsram' : null = false → 0 < d.dataLength → ∃ ix, getRteObject d.location = some ix ∧
      rte'.sram = Function.update rte.sram ix
        (Buffer.write (rte.sram ix) (objects ix).sramAddress data)) :
    Mirror p x (y.writeDataAndIops d (pointer null data) iops) rte' objects := by
  have hiopsMem : d.iops ∈ d.areas := List.mem_cons_of_mem _ List.mem_cons_self
  constructor
  · rw [hact]
    exact hm.actions
  · intro e he ix hix i hi
    have hin : e.data.Has (e.dataOffset + i) :=
      ⟨Nat.le_add_right _ _, Nat.add_lt_add_left hi _⟩
    -- no data byte is the IOPS
    have hniops : ¬d.iops.Has (e.dataOffset + i) := by
      by_cases hed : e = d
      · rw [hed] at hin ⊢
        exact hr.own d hd _ hin
      · exact hr.apart d hd e he (Ne.symm hed) _ List.mem_cons_self _ hiopsMem _ hin
    have hold := hm.data e he ix hix i hi
    by_cases hset : e = d ∧ null = false
    · rcases hset with ⟨rfl, rfl⟩
      rcases hsram' rfl (by omega) with ⟨ix', hix', hupdate⟩
      obtain rfl := Option.some.inj (hix.symm.trans hix')
      have hlt : i < data.length := by omega
      rw [hupdate, Function.update_self, Buffer.write_inside hlt]
      unfold Ppm.staged
      rw [writeDataAndIops_data y e hiops hlt hniops]
      by_cases hlen : e.dataOffset + i < x.inLength.toNat
      · rw [if_pos hlen]
      · rw [if_neg hlen]
        exact hzero rfl i hlt (Nat.le_of_not_lt hlen)
    · have hother : null = true ∨ ¬d.data.Has (e.dataOffset + i) := by
        cases null with
        | true => exact .inl rfl
        | false =>
          have hed : e ≠ d := fun hed => hset ⟨hed, rfl⟩
          exact .inr (hr.apart d hd e he (Ne.symm hed) _ List.mem_cons_self _ List.mem_cons_self _
            hin)
      rw [Ppm.staged_congr (y := y)
        (writeDataAndIops_outside y d null hdata hiops hother hniops), ← hold]
      by_cases hwrite : null = true ∨ d.dataLength = 0
      · rw [hsram hwrite]
      · push Not at hwrite
        have hnull : null = false := Bool.eq_false_iff.mpr hwrite.1
        rcases hsram' hnull (Nat.pos_of_ne_zero hwrite.2) with ⟨ix', hix', hupdate⟩
        have hne : ix ≠ ix' := by
          rintro rfl
          exact hset ⟨hr.object e he d hd ix hix hix', hnull⟩
        rw [hupdate, Function.update_of_ne hne]
  · intro k hk hnone
    have hndata : null = true ∨ ¬d.data.Has k := .inr (hnone d hd)
    by_cases hin : d.iops.Has k
    · have hle : d.iopsOffset ≤ k := hin.1
      have hlt : k - d.iopsOffset < iops.length := by
        have hend : k < d.iopsOffset + d.iopsLength := hin.2
        omega
      have hpos : k = d.iopsOffset + (k - d.iopsOffset) := by omega
      have hnew := writeDataAndIops_iops y d (pointer null data) hlt
      rw [← hpos] at hnew
      unfold Ppm.staged
      rw [hnew]
      by_cases hengine : ToEngine d null
      · have hwritten : rte'.data (20 + k) = iops[k - d.iopsOffset] := by
          rw [hto hengine]
          have hinside := Buffer.write_inside (b := rte.data) (p := 20 + d.iopsOffset) hlt
          rw [show 20 + d.iopsOffset + (k - d.iopsOffset) = 20 + k by omega] at hinside
          exact hinside
        rw [hwritten]
        by_cases hlen : k < x.inLength.toNat
        · rw [if_pos hlen]
        · rw [if_neg hlen]
          exact hzero' hengine _ hlt (by omega)
      · rw [hnot hengine, hm.rest k hk hnone]
        unfold Ppm.staged
        by_cases hlen : k < x.inLength.toNat
        · have hkept := hsame hengine _ hlt (by omega)
          rw [← hpos] at hkept
          rw [if_pos hlen, if_pos hlen, hkept]
        · rw [if_neg hlen, if_neg hlen]
    · rw [Ppm.staged_congr (y := y)
        (writeDataAndIops_outside y d null hdata hiops hndata hin), ← hm.rest k hk hnone]
      by_cases hengine : ToEngine d null
      · rw [hto hengine]
        apply Buffer.write_outside
        by_contra hboth
        push Not at hboth
        exact hin ⟨show d.iopsOffset ≤ k by omega,
          show k < d.iopsOffset + d.iopsLength by omega⟩
      · rw [hnot hengine]
  · have hstatus : (y.writeDataAndIops d (pointer null data) iops).dataStatus = y.dataStatus :=
      (writeDataAndIops_alike y d (pointer null data) iops).dataStatus
    rw [hstatus, ← hm.status]
    by_cases hengine : ToEngine d null
    · rw [hto hengine]
      apply Buffer.write_outside
      have hend : d.iopsOffset + d.iopsLength ≤ p.cSduLength.toNat := hr.inside d hd _ hiopsMem
      omega
    · rw [hnot hengine]

/-- The call comes to nothing in both. -/
theorem Linked.skip (h : Linked p x w) {c : PpmCall} (hsw : w.sw.call p x c = w.sw)
    (hhw : w.hw.call p x c = some w.hw) : ∃ w', w.step p x c = some w' ∧ Linked p x w' := by
  refine ⟨w, ?_, h⟩
  unfold Transmitters.step
  rw [hsw, hhw]
  rfl

theorem getDesc_mem {loc : Location} {d : IodataObject} (h : getDesc x loc = some d) :
    d ∈ x.dataDesc := List.mem_of_find?_eq_some h

theorem Linked.setDataAndIops (h : Linked p x w) (hr : Regular p x) (loc : Location)
    (null : Bool) (data iops : List Byte)
    (hc : Conforms p x w.hw (.setDataAndIops loc null data iops)) :
    ∃ w', w.step p x (.setDataAndIops loc null data iops) = some w' ∧ Linked p x w' := by
  cases hdesc : getDesc x loc with
  | none =>
    apply h.skip
    · unfold Ppm.call
      dsimp only
      rw [hdesc]
    · unfold Lan9662.call
      dsimp only
      rw [hdesc]
  | some d =>
    by_cases hlen : data.length = d.dataLength ∧ iops.length = d.iopsLength
    · rcases hc d hdesc hlen.1 hlen.2 with ⟨f, hmem, hactive⟩
      have hf : w.hw.frame = some f := hmem
      have hd := getDesc_mem hdesc
      have hbuf := writeDataAndIops_congr d (pointer null data) iops h.buffer
      have hstep (ret : ℤ) (hw : Lan9662)
          (hwrite : w.hw.writeDataAndIops d (pointer null data) iops = some (ret, hw)) :
          w.step p x (.setDataAndIops loc null data iops) =
            some ⟨w.sw.writeDataAndIops d (pointer null data) iops, hw⟩ := by
        unfold Transmitters.step Lan9662.call Ppm.call
        dsimp only
        rw [hdesc]
        dsimp only
        rw [if_pos hlen, if_pos hlen, hwrite]
        rfl
      cases hact : f.active with
      | false =>
        refine ⟨_, hstep 0 ⟨_, w.hw.frame, w.hw.rte⟩ ?_,
          h.of_alike (writeDataAndIops_alike w.sw d _ _) (writeDataAndIops_alike w.hw.ppm d _ _)
            hbuf ?_⟩
        · rw [writeDataAndIops_of_frame hf, hact]
          rfl
        · intro f' hf' hact'
          obtain rfl := Option.some.inj (hf.symm.trans hf')
          exact absurd (hact.symm.trans hact') Bool.false_ne_true
      | true =>
        rcases hactive hact with ⟨hdata, hto, hnot⟩
        rcases h.active f hf hact with ⟨-, hready, hm⟩
        rcases writeActive_spec hr (y := ⟨w.hw.ppm.writeDataAndIops d (pointer null data) iops,
            w.hw.frame, w.hw.rte⟩) (h.holds f hf) hd data iops
            (fun hnull => (hdata hnull).1) (fun hengine => (hto hengine).1) with
          ⟨ret, rte, hwrite, hactions, hengine, hnengine, hsram, hsram'⟩
        have hpos : (w.hw.ppm.writeDataAndIops d (pointer null data) iops).bufferPos.toNat = 20 := by
          rcases h.ready with hnone | ⟨-, hready'⟩
          · rcases hready.buffer with ⟨g, hg, -⟩
            cases hnone.1.symm.trans hg
          · rw [(writeDataAndIops_alike w.hw.ppm d (pointer null data) iops).bufferPos]
            exact hready'.bufferPos
        refine ⟨_, hstep ret ⟨_, w.hw.frame, rte⟩ ?_,
          h.of_alike (writeDataAndIops_alike w.sw d _ _) (writeDataAndIops_alike w.hw.ppm d _ _)
            hbuf ?_⟩
        · rw [writeDataAndIops_of_frame hf, if_pos hact]
          exact hwrite
        · intro f' hf' _
          obtain rfl := Option.some.inj (hf.symm.trans hf')
          have hkept (hnengine : ¬ToEngine d null) : Unchanged x w.sw d.iopsOffset iops := by
            intro i hi hin
            have hlt : d.iopsOffset + i < p.cSduLength.toNat :=
              hr.lt hd (a := d.iops) (List.mem_cons_of_mem _ List.mem_cons_self)
                ⟨Nat.le_add_right _ _, Nat.add_lt_add_left (lt_of_lt_of_eq hi hlen.2) _⟩
            rw [h.buffer _ hlt]
            exact hnot hnengine i hi hin
          rw [hpos] at hengine
          exact hm.setDataAndIops hr hd hlen.1 hlen.2 (fun hnull => (hdata hnull).2)
            (fun hengine => (hto hengine).2) hkept hactions hengine hnengine hsram hsram'
    · apply h.skip
      · unfold Ppm.call
        dsimp only
        rw [hdesc]
        exact if_neg hlen
      · unfold Lan9662.call
        dsimp only
        rw [hdesc]
        exact if_neg hlen

theorem Mirror.congr (hr : Regular p x) {y z : Ppm} {rte : Rte} {objects : RteIx → RteObject}
    (hm : Mirror p x y rte objects)
    (hsame : ∀ k < p.cSduLength.toNat, z.staged x.inLength k = y.staged x.inLength k)
    (hstatus : z.dataStatus = y.dataStatus) : Mirror p x z rte objects := by
  constructor
  · exact hm.actions
  · intro d hd ix hix i hi
    have hlt : d.dataOffset + i < p.cSduLength.toNat :=
      hr.lt hd List.mem_cons_self ⟨Nat.le_add_right _ _, Nat.add_lt_add_left hi _⟩
    rw [hsame _ hlt]
    exact hm.data d hd ix hix i hi
  · intro k hk hnone
    rw [hsame k hk]
    exact hm.rest k hk hnone
  · rw [hstatus]
    exact hm.status

theorem Linked.setIocs (h : Linked p x w) (hr : Regular p x) (loc : Location) (iocs : List Byte)
    (hc : Conforms p x w.hw (.setIocs loc iocs)) :
    ∃ w', w.step p x (.setIocs loc iocs) = some w' ∧ Linked p x w' := by
  cases hdesc : getDesc x loc with
  | none =>
    apply h.skip
    · unfold Ppm.call
      dsimp only
      rw [hdesc]
    · unfold Lan9662.call
      dsimp only
      rw [hdesc]
  | some d =>
    by_cases hlen : iocs.length = d.iocsLength
    · have hd := getDesc_mem hdesc
      refine ⟨⟨w.sw.writeIocs d iocs, w.hw.writeIocs d iocs⟩, ?_, ?_⟩
      · unfold Transmitters.step Lan9662.call Ppm.call
        dsimp only
        rw [hdesc]
        dsimp only
        rw [if_pos hlen, if_pos hlen]
        rfl
      · refine h.of_alike (writeFrameBuffer_alike _ _ _) (writeFrameBuffer_alike _ _ _)
          (writeFrameBuffer_congr h.buffer) ?_
        intro f hf hact
        refine (h.active f hf hact).2.2.congr hr ?_ rfl
        -- the frame has the bytes already
        intro k hk
        by_cases hin : d.iocsOffset ≤ k ∧ k < d.iocsOffset + iocs.length
        · have hlt : k - d.iocsOffset < iocs.length := by omega
          have hpos : k = d.iocsOffset + (k - d.iocsOffset) := by omega
          unfold Ppm.staged
          by_cases hk' : k < x.inLength.toNat
          · have hkept := hc d hdesc hlen f hf hact _ hlt (by omega)
            rw [← hpos, ← h.buffer k hk] at hkept
            rw [if_pos hk', if_pos hk', hkept]
            show Buffer.write w.sw.bufferData d.iocsOffset iocs k = _
            have hinside := Buffer.write_inside (b := w.sw.bufferData) (p := d.iocsOffset) hlt
            rw [← hpos] at hinside
            exact hinside
          · rw [if_neg hk', if_neg hk']
        · exact Ppm.staged_congr (Buffer.write_outside (by omega))
    · apply h.skip
      · unfold Ppm.call
        dsimp only
        rw [hdesc]
        exact if_neg hlen
      · unfold Lan9662.call
        dsimp only
        rw [hdesc]
        exact if_neg hlen

theorem Linked.setDataStatus (h : Linked p x w) (bit : ℕ) (on : Bool)
    (hc : Conforms p x w.hw (.setDataStatus bit on)) :
    ∃ w', w.step p x (.setDataStatus bit on) = some w' ∧ Linked p x w' := by
  refine ⟨⟨w.sw.setDataStatus bit on, w.hw.setDataStatus bit on⟩, rfl, ?_⟩
  have hstatus : (w.sw.setDataStatus bit on).dataStatus = (w.hw.ppm.setDataStatus bit on).dataStatus := by
    unfold Ppm.setDataStatus
    rw [h.dataStatus]
  -- the status goes behind the data of the buffer
  have hbuf (k : ℕ) (hk : k < p.cSduLength.toNat) :
      Buffer.write w.hw.ppm.bufferData w.hw.ppm.dataStatusOffset.toNat
        [(w.hw.ppm.setDataStatus bit on).dataStatus] k = w.hw.ppm.bufferData k :=
    Buffer.write_outside (.inl (lt_of_lt_of_le hk hc))
  have hlinked (rte : Rte) (hrte : ∀ f, w.hw.frame = some f → f.active = true →
      rte = ⟨Buffer.write w.hw.rte.data w.hw.ppm.dataStatusOffset.toNat
        [(w.hw.ppm.setDataStatus bit on).dataStatus], w.hw.rte.actions, w.hw.rte.sram⟩) :
      Linked p x ⟨w.sw.setDataStatus bit on, ⟨(w.hw.ppm.setDataStatus bit on).writeFrameBuffer
        w.hw.ppm.dataStatusOffset.toNat [(w.hw.ppm.setDataStatus bit on).dataStatus], w.hw.frame,
        rte⟩⟩ := by
    constructor
    · exact h.state
    · exact hstatus
    · rcases h.ready with hnone | ⟨hready, hready'⟩
      · exact .inl hnone
      · exact .inr ⟨hready.of_same rfl rfl rfl rfl rfl, hready'.of_same rfl rfl rfl rfl rfl⟩
    · intro k hk
      exact (h.buffer k hk).trans (hbuf k hk).symm
    · exact h.holds
    · intro f hf hact
      rcases h.active f hf hact with ⟨hrun, hready, hm⟩
      refine ⟨hrun, hready.of_same rfl rfl rfl rfl rfl, ?_⟩
      have hplace : w.hw.ppm.dataStatusOffset.toNat = 20 + p.cSduLength.toNat + 2 := by
        rcases h.ready with hnone | ⟨-, hready'⟩
        · rcases hready.buffer with ⟨g, hg, -⟩
          cases hnone.1.symm.trans hg
        · exact hready'.dataStatus
      rw [hrte f hf hact, hplace]
      constructor
      · exact hm.actions
      · exact hm.data
      · intro k hk hnone
        dsimp only
        rw [Buffer.write_outside (by omega)]
        exact hm.rest k hk hnone
      · have hinside := @Buffer.write_inside _ w.hw.rte.data (20 + p.cSduLength.toNat + 2) 0
          [(w.hw.ppm.setDataStatus bit on).dataStatus] Nat.one_pos
        rw [Nat.add_zero] at hinside
        exact hinside.trans hstatus.symm
  unfold Lan9662.setDataStatus Lan9662.meraWriteDataStatus
  cases hf : w.hw.frame with
  | none =>
    have hidle := hlinked w.hw.rte fun f hf' => by cases hf.symm.trans hf'
    rw [hf] at hidle
    dsimp only [Lan9662.writeFrameBuffer]
    exact hidle
  | some f =>
    dsimp only [Lan9662.writeFrameBuffer]
    cases hact : f.active with
    | false =>
      have hidle := hlinked w.hw.rte fun f' hf' hact' => by
        obtain rfl := Option.some.inj (hf.symm.trans hf')
        cases hact.symm.trans hact'
      rw [hf] at hidle
      exact hidle
    | true =>
      have hsent := hlinked _ fun _ _ _ => rfl
      rw [hf] at hsent
      exact hsent

/-! ## Runs -/

theorem step_linked (hr : Regular p x) (hfits : Fits p) (w : Transmitters) (c : PpmCall)
    (h : Linked p x w) (hc : Conforms p x w.hw c) :
    ∃ w', w.step p x c = some w' ∧ Linked p x w' := by
  cases c with
  | create sa da allocated sramFrame => exact h.create hr hfits sa da allocated sramFrame hc
  | activate now added started => exact h.activate hr now added started hc
  | setDataAndIops loc null data iops => exact h.setDataAndIops hr loc null data iops hc
  | setIocs loc iocs => exact h.setIocs hr loc iocs hc
  | setDataStatus bit on => exact h.setDataStatus bit on hc

variable {minDeviceInterval : ℕ} {ar : ArParam} {expApis : List ExpApi} {iocrs : List IocrParam}
  {stat : PnetResult}

/-- A CR of an accepted request, and no call that the hardware driver does not pass on: the engine
has what the software driver would send. -/
theorem sameFrame_of_conforms
    (haccepted : acceptsIocrs minDeviceInterval ar expApis iocrs stat = true) (hp : p ∈ iocrs)
    (hapis : p.apis.length ≤ PNET_MAX_API) (hfits : Fits p) (rte : Rte) {calls : List PpmCall}
    (hc : Runs.Along (Transmitters.step p (layoutOf expApis p))
      (fun w c => Conforms p (layoutOf expApis p) w.hw c) (.start rte) calls) :
    ∀ calls', calls' <+: calls →
      ∃ w, Runs.run (Transmitters.step p (layoutOf expApis p)) (.start rte) calls' = some w ∧
        w.SameFrame (layoutOf expApis p) := by
  intro calls' hprefix
  have hr : Regular p (layoutOf expApis p) :=
    regular_of_sound (sound_of_accepts haccepted hp) iocrSetupDesc_formed hapis
  rcases Runs.completes (step_linked hr hfits) (start_linked rte) (hc.of_prefix hprefix) with
    ⟨w, hrun, hw⟩
  exact ⟨w, hrun, hw.sameFrame hr⟩

end

/-! ## A consumer status that does not get through -/

namespace TransmittersRun

def ar : ArParam where
  arType := 1
  arUuid := ⟨0, 0, 0, Vector.replicate 8 0⟩
  sessionKey := 1
  cmInitiatorMacAdd := Vector.replicate 6 1
  cmInitiatorObjectUuid := ⟨0, 0, 0, Vector.replicate 8 0⟩
  arProperties := ⟨1, false, 0, false, 0, false, false, false, false⟩
  cmInitiatorActivityTimeoutFactor := 100
  cmInitiatorUdpRtPort := 0x8892
  cmInitiatorStationNameLen := 1
  cmInitiatorStationName := [0x61]

/-- One byte of input in slot 1, one byte of output in slot 2. -/
def expApis : List ExpApi :=
  [⟨0, [⟨1, 0x30, 0, [⟨1, 0x130, ⟨PNET_DIR_INPUT, false, false, false, false⟩, [⟨1, 1, 1, 1⟩]⟩]⟩,
    ⟨2, 0x31, 0, [⟨1, 0x131, ⟨PNET_DIR_OUTPUT, false, false, false, false⟩, [⟨2, 1, 1, 1⟩]⟩]⟩]⟩]

def iocr (iocrType frameId : BitVec 16) (apis : List ApiEntry) : IocrParam where
  iocrType
  iocrReference := iocrType
  ltField := PNAL_ETHTYPE_PROFINET
  iocrProperties := ⟨PF_RT_CLASS_1, 0, 0, 0⟩
  cSduLength := 40
  frameId
  sendClockFactor := 32
  reductionRatio := 1
  phase := 1
  sequence := 0
  frameSendOffset := 0xFFFFFFFF
  watchdogFactor := 10
  dataHoldFactor := 10
  iocrTagHeader := ⟨0, 6⟩
  iocrMulticastMacAdd := Vector.replicate 6 0
  apis

/-- The data and the IOPS of slot 1, then the IOCS of slot 2. -/
def input : IocrParam := iocr PF_IOCR_TYPE_INPUT 0xC000 [⟨0, [⟨1, 1, 0⟩], [⟨2, 1, 2⟩]⟩]

def output : IocrParam := iocr PF_IOCR_TYPE_OUTPUT 0xC001 [⟨0, [⟨2, 1, 0⟩], [⟨1, 1, 2⟩]⟩]

/-- An engine that has not been used. -/
def rte : Rte := ⟨fun _ => 0, [], fun _ _ => 0⟩

def begin : List PpmCall :=
  [.create (Vector.replicate 6 2) (Vector.replicate 6 1) true (some 100), .activate 0 true true]

def runCalls (calls : List PpmCall) : Option Transmitters :=
  Runs.run (Transmitters.step input (layoutOf expApis input)) (.start rte) calls

end TransmittersRun

open TransmittersRun in
/-- Data, provider status and data status get through. -/
theorem sameFrame_setDataAndIops : ∃ w, runCalls (begin ++
    [PpmCall.setDataAndIops ⟨0, 1, 1⟩ false [0x11] [0x80], PpmCall.setDataStatus 4 true]) = some w ∧
      w.SameFrame (layoutOf expApis input) :=
  have haccepted : acceptsIocrs 32 ar expApis [input, output] noError = true := by decide +kernel
  sameFrame_of_conforms haccepted List.mem_cons_self (by decide) (by decide) rte
    (by decide +kernel) _ List.prefix_rfl

open TransmittersRun in
/-- The consumer status that the application sets while the frames are sent does not reach the
engine. -/
theorem not_sameFrame_setIocs :
    acceptsIocrs 32 ar expApis [input, output] noError = true ∧ Fits input ∧
      ∃ w, runCalls (begin ++ [PpmCall.setIocs ⟨0, 2, 1⟩ [0x80]]) = some w ∧
        ¬w.SameFrame (layoutOf expApis input) := by
  refine ⟨by decide +kernel, by decide, ?_⟩
  cases hrun : runCalls (begin ++ [PpmCall.setIocs ⟨0, 2, 1⟩ [0x80]]) with
  | none =>
    have hsome : (runCalls (begin ++ [PpmCall.setIocs ⟨0, 2, 1⟩ [0x80]])).isSome = true := by
      decide +kernel
    rw [hrun] at hsome
    cases hsome
  | some w =>
    refine ⟨w, rfl, ?_⟩
    -- the IOCS has byte 2 of the data
    have hbytes : ((runCalls (begin ++ [PpmCall.setIocs ⟨0, 2, 1⟩ [0x80]])).map fun w =>
        (w.hw.frame.map MeraFrame.active, w.sw.bufferPos, w.hw.rte.image 22,
          (w.sw.finishBuffer (layoutOf expApis input).inLength).sendBuffer.map
            fun g => g.payload 22)) = some (some true, 20, 0, some 0x80) := by decide +kernel
    rw [hrun, Option.map_some] at hbytes
    rcases Prod.mk.inj (Option.some.inj hbytes) with ⟨hactive, hrest⟩
    rcases Prod.mk.inj hrest with ⟨hpos, hrest⟩
    rcases Prod.mk.inj hrest with ⟨himage, hsent⟩
    rcases Option.map_eq_some_iff.mp hactive with ⟨f, hf, hact⟩
    intro h
    rcases h f hf hact with ⟨g, hg, hsame, -⟩
    have hiocs : ∃ d ∈ (layoutOf expApis input).dataDesc, d.iocs.Has 2 := by decide +kernel
    rcases hiocs with ⟨d, hd, hk⟩
    have hbyte := hsame d hd d.iocs (List.mem_cons_of_mem _ (List.mem_cons_of_mem _
      List.mem_cons_self)) 2 hk
    rw [hg, Option.map_some] at hsent
    rw [hpos] at hbyte
    have hbyte' : w.hw.rte.image 22 = g.payload 22 := hbyte
    rw [himage, Option.some.inj hsent] at hbyte'
    exact absurd hbyte' (by decide)

end PNet.Cyclic
