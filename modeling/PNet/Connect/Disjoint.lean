import PNet.Connect.Descriptors

/-! # No byte of a frame belongs to two areas

`pf_cmdev_check_iocr_overlap` compares the areas of a descriptor with those of the earlier
descriptors of the CR. Nothing compares the IOCS of a submodule with its own data and its own IOPS.

* `layoutOf_disjoint_iff`: the areas of an accepted CR lie in the data of the frame and share no
  byte, exactly when no submodule has its IOCS on its own data or its own IOPS.
-/

namespace PNet.Connect

open Cyclic

/-- All areas lie in the data of the frame, and no two of them share a byte. -/
structure Layout.Disjoint (cSduLength : BitVec 16) (x : Layout) : Prop where
  inside : ∀ d ∈ x.dataDesc, d.Inside cSduLength
  apart : (x.dataDesc.flatMap IodataObject.areas).Pairwise Area.Apart

/-! ## What a request asks for -/

/-- The bytes of a data object: the data, and the IOPS behind them. -/
def dataBytes (dir : BitVec 16) (m : Mention) (sub : ExpSubmodule) (desc : DataDescriptor) : Area :=
  if sub.submoduleProperties.discardIoxs then ⟨0, 0⟩
  else if Layout.Reduced dir sub then ⟨0, desc.lengthIops.toNat⟩
  else ⟨m.frameOffset.toNat, desc.submoduleDataLength.toNat + desc.lengthIops.toNat⟩

/-- The bytes of an IOCS. -/
def iocsBytes (m : Mention) (sub : ExpSubmodule) (desc : DataDescriptor) : Area :=
  if sub.submoduleProperties.discardIoxs then ⟨0, 0⟩
  else ⟨m.frameOffset.toNat, desc.lengthIocs.toNat⟩

/-- No submodule has its IOCS on its own data or on its own IOPS. -/
def OwnApart (expApis : List ExpApi) (p : IocrParam) : Prop :=
  ∀ m ∈ p.dataMentions, ∀ n ∈ p.iocsMentions, n.location = m.location →
    ∀ sub desc desc', descriptorOf expApis p.dir .PF_DEV_STATUS_TYPE_IOPS m = some (sub, desc) →
      descriptorOf expApis p.dir .PF_DEV_STATUS_TYPE_IOCS n = some (sub, desc') →
      (dataBytes p.dir m sub desc).Apart (iocsBytes n sub desc')

namespace Layout

section
variable {expApis : List ExpApi} {dir : BitVec 16} {p : IocrParam} {x : Layout} {m n : Mention}
  {sub sub' : ExpSubmodule} {desc desc' : DataDescriptor} {d : IodataObject}
  {cSduLength : BitVec 16}

/-- The submodule is that of the location. -/
theorem descriptorOf_sub (hloc : n.location = m.location) {status status' : DevStatusType}
    (hm : descriptorOf expApis dir status m = some (sub, desc))
    (hn : descriptorOf expApis dir status' n = some (sub', desc')) : sub' = sub := by
  unfold descriptorOf at hm hn
  rw [hloc] at hn
  rcases Option.bind_eq_some_iff.mp hm with ⟨s, hs, hmap⟩
  rcases Option.bind_eq_some_iff.mp hn with ⟨s', hs', hmap'⟩
  rcases Option.map_eq_some_iff.mp hmap with ⟨_, _, heq⟩
  rcases Option.map_eq_some_iff.mp hmap' with ⟨_, _, heq'⟩
  have hsame : s' = s := Option.some.inj (hs'.symm.trans hs)
  exact (Prod.mk.inj heq').1.symm.trans (hsame.trans (Prod.mk.inj heq).1)

/-- The bytes of a data object are those of its data and those of its IOPS. -/
theorem dataBytes_has {k : ℕ} (hbound : (newData dir m sub desc).data.start +
      (newData dir m sub desc).data.length < 2 ^ 16) :
    (dataBytes dir m sub desc).Has k ↔
      (newData dir m sub desc).data.Has k ∨ (newData dir m sub desc).iops.Has k := by
  unfold dataBytes
  by_cases hdiscard : sub.submoduleProperties.discardIoxs = true
  · rcases newData_discard dir m desc hdiscard with ⟨hdata, hiops⟩
    rw [hdata, hiops, if_pos hdiscard, or_self]
  by_cases hreduced : Reduced dir sub
  · rcases newData_reduced m desc hdiscard hreduced with ⟨hdata, hiops⟩
    rw [hdata, hiops, if_neg hdiscard, if_pos hreduced]
    unfold Area.Has
    dsimp only
    omega
  · rcases newData_plain m desc hdiscard hreduced with ⟨hdata, hiops⟩
    rw [hdata] at hbound ⊢
    rw [hiops, Nat.mod_eq_of_lt hbound, if_neg hdiscard, if_neg hreduced]
    unfold Area.Has
    dsimp only
    omega

theorem dataBytes_apart {a : Area} (hbound : (newData dir m sub desc).data.start +
      (newData dir m sub desc).data.length < 2 ^ 16) :
    (dataBytes dir m sub desc).Apart a ↔
      (newData dir m sub desc).data.Apart a ∧ (newData dir m sub desc).iops.Apart a := by
  unfold Area.Apart
  constructor
  · intro h
    constructor
    · exact fun k hk => h k ((dataBytes_has hbound).mpr (.inl hk))
    · exact fun k hk => h k ((dataBytes_has hbound).mpr (.inr hk))
  · rintro ⟨hdata, hiops⟩ k hk
    rcases (dataBytes_has hbound).mp hk with hk | hk
    · exact hdata k hk
    · exact hiops k hk

theorem newIocs_eq : (newIocs m sub desc).iocs = iocsBytes m sub desc := by
  unfold newIocs setIocs iocsBytes
  cases sub.submoduleProperties.discardIoxs <;> rfl

/-! ## The areas of one descriptor -/

/-- An area without bytes is apart from each other one. -/
theorem apart_of_length {a b : Area} (h : a.length = 0) : a.Apart b := by
  rintro k ⟨hstart, hend⟩
  omega

/-- The IOPS lies behind the data. -/
theorem Formed.data_apart {apis : List ApiEntry} (h : x.Formed apis)
    (hinside : ∀ d ∈ x.dataDesc, d.Inside cSduLength) (hd : d ∈ x.dataDesc) :
    d.data.Apart d.iops := by
  rcases h.iops d hd with hnone | hoffset
  · exact (apart_of_length hnone).symm
  · have hend : d.data.start + d.data.length ≤ cSduLength.toNat :=
      hinside d hd d.data List.mem_cons_self
    have hbehind : d.iops.start = d.data.start + d.data.length :=
      hoffset.trans (Nat.mod_eq_of_lt (hend.trans_lt cSduLength.isLt))
    rintro k ⟨_, hk⟩ ⟨hk', _⟩
    omega

theorem pairwise_areas (h : d.data.Apart d.iops) :
    d.areas.Pairwise Area.Apart ↔ d.data.Apart d.iocs ∧ d.iops.Apart d.iocs := by
  simp only [IodataObject.areas, List.pairwise_cons, List.forall_mem_cons, List.not_mem_nil,
    false_implies, implies_true, and_true, List.Pairwise.nil]
  tauto

/-- What the check leaves open are the areas of one descriptor. -/
theorem Sound.disjoint_iff (h : x.Sound cSduLength) {apis : List ApiEntry}
    (hformed : x.Formed apis) :
    x.Disjoint cSduLength ↔ ∀ d ∈ x.dataDesc, d.data.Apart d.iocs ∧ d.iops.Apart d.iocs := by
  have hbehind (d : IodataObject) (hd : d ∈ x.dataDesc) : d.data.Apart d.iops :=
    hformed.data_apart h.inside hd
  have hothers : x.dataDesc.Pairwise fun e d => ∀ a ∈ e.areas, ∀ b ∈ d.areas, a.Apart b :=
    h.apart.imp fun hapart a ha b hb => (hapart b hb a ha).symm
  constructor
  · intro hdisjoint d hd
    have howns := (List.pairwise_flatMap.mp hdisjoint.apart).1
    exact (pairwise_areas (hbehind d hd)).mp (howns d hd)
  · intro howns
    constructor
    · exact h.inside
    · apply List.pairwise_flatMap.mpr
      exact ⟨fun d hd => (pairwise_areas (hbehind d hd)).mpr (howns d hd), hothers⟩

/-! ## The mentions whose submodule has a descriptor -/

/-- The mentions whose submodule has a descriptor of the status. -/
def found (expApis : List ExpApi) (dir : BitVec 16) (status : DevStatusType) (ms : List Mention) :
    List Mention :=
  ms.filter fun m => (descriptorOf expApis dir status m).isSome

theorem mem_found {status : DevStatusType} {ms : List Mention} :
    m ∈ found expApis dir status ms ↔
      m ∈ ms ∧ ∃ sub desc, descriptorOf expApis dir status m = some (sub, desc) := by
  rw [found, List.mem_filter, Option.isSome_iff_exists, Prod.exists]

theorem found_found {status : DevStatusType} {ms : List Mention} :
    Found expApis dir status (found expApis dir status ms) :=
  fun _ hm => (mem_found.mp hm).2

theorem found_nodup {status : DevStatusType} {ms : List Mention}
    (h : (ms.map Mention.location).Nodup) :
    ((found expApis dir status ms).map Mention.location).Nodup :=
  h.sublist (List.filter_sublist.map _)

/-- A mention without a descriptor changes nothing. -/
theorem foldl_found {status : DevStatusType} {step : Layout → Mention → Layout}
    (hstep : ∀ x m, descriptorOf expApis dir status m = none → step x m = x) (ms : List Mention) :
    (found expApis dir status ms).foldl step x = ms.foldl step x := by
  rw [found, List.foldl_filter]
  congr 1
  funext x m
  cases hm : descriptorOf expApis dir status m with
  | none => exact (hstep x m hm).symm
  | some _ => rfl

/-- The table of a CR comes from the mentions whose submodule has a descriptor. -/
theorem layoutOf_eq : layoutOf expApis p =
    (found expApis p.dir .PF_DEV_STATUS_TYPE_IOCS p.iocsMentions).foldl (stepIocs expApis p.dir)
      ((found expApis p.dir .PF_DEV_STATUS_TYPE_IOPS p.dataMentions).foldl (stepData expApis p.dir)
        empty) := by
  have hdata (x : Layout) (m : Mention)
      (hm : descriptorOf expApis p.dir .PF_DEV_STATUS_TYPE_IOPS m = none) :
      stepData expApis p.dir x m = x := by
    rw [stepData, hm]
  have hiocs (x : Layout) (m : Mention)
      (hm : descriptorOf expApis p.dir .PF_DEV_STATUS_TYPE_IOCS m = none) :
      stepIocs expApis p.dir x m = x := by
    rw [stepIocs, hm]
  rw [layoutOf, iocrSetupDesc, setupIocs_eq, setupDataIops_eq, foldl_found hdata, foldl_found hiocs]

/-- The table of a CR that mentions each subslot at most once in each of its two lists. -/
theorem layoutOf_made_found (honce : (p.dataMentions.map Mention.location).Nodup)
    (honce' : (p.iocsMentions.map Mention.location).Nodup) :
    Made expApis p.dir (found expApis p.dir .PF_DEV_STATUS_TYPE_IOPS p.dataMentions)
      (found expApis p.dir .PF_DEV_STATUS_TYPE_IOCS p.iocsMentions) (layoutOf expApis p) := by
  rw [layoutOf_eq]
  exact foldl_stepIocs (foldl_stepData empty_made found_found (found_nodup honce)) found_found
    (found_nodup honce')

/-- What the request asks for is what the descriptor has, for a subslot with both of them. -/
theorem Made.own_apart_iff {data iocs : List Mention} (h : Made expApis dir data iocs x)
    (hinside : ∀ d ∈ x.dataDesc, d.Inside cSduLength) (hd : d ∈ x.dataDesc)
    (hm : m ∈ data) (hn : n ∈ iocs) (hmloc : m.location = d.location)
    (hnloc : n.location = d.location)
    (hfound : descriptorOf expApis dir .PF_DEV_STATUS_TYPE_IOPS m = some (sub, desc))
    (hfound' : descriptorOf expApis dir .PF_DEV_STATUS_TYPE_IOCS n = some (sub, desc')) :
    (dataBytes dir m sub desc).Apart (iocsBytes n sub desc') ↔
      d.data.Apart d.iocs ∧ d.iops.Apart d.iocs := by
  rcases (h.dataOf d hd).of_mem m hm hmloc with ⟨sub₁, desc₁, hfound₁, hdata, hiops⟩
  rcases (h.iocsOf d hd).of_mem n hn hnloc with ⟨sub₂, desc₂, hfound₂, hiocs⟩
  obtain ⟨rfl, rfl⟩ := Prod.mk.inj (Option.some.inj (hfound₁.symm.trans hfound))
  obtain ⟨rfl, rfl⟩ := Prod.mk.inj (Option.some.inj (hfound₂.symm.trans hfound'))
  have hend := hinside d hd d.data List.mem_cons_self
  rw [hdata] at hend
  rw [hdata, hiops, hiocs, newIocs_eq]
  exact dataBytes_apart (hend.trans_lt cSduLength.isLt)

/-- The table of a CR has no IOCS on the data or the IOPS of its own descriptor exactly when the
request asks for none. -/
theorem Made.ownApart_iff {expApis : List ExpApi} {p : IocrParam}
    (h : Made expApis p.dir (found expApis p.dir .PF_DEV_STATUS_TYPE_IOPS p.dataMentions)
      (found expApis p.dir .PF_DEV_STATUS_TYPE_IOCS p.iocsMentions) x)
    (hinside : ∀ d ∈ x.dataDesc, d.Inside cSduLength) :
    OwnApart expApis p ↔ ∀ d ∈ x.dataDesc, d.data.Apart d.iocs ∧ d.iops.Apart d.iocs := by
  constructor
  · intro hown d hd
    by_cases hdata : ∀ m ∈ found expApis p.dir .PF_DEV_STATUS_TYPE_IOPS p.dataMentions,
        m.location ≠ d.location
    · -- no data object of the subslot
      rcases (h.dataOf d hd).of_absent hdata with ⟨hnone, hnone'⟩
      exact ⟨apart_of_length hnone, apart_of_length hnone'⟩
    by_cases hiocs : ∀ n ∈ found expApis p.dir .PF_DEV_STATUS_TYPE_IOCS p.iocsMentions,
        n.location ≠ d.location
    · -- no IOCS of the subslot
      have hnone : d.iocs.length = 0 := (h.iocsOf d hd).of_absent hiocs
      exact ⟨(apart_of_length hnone).symm, (apart_of_length hnone).symm⟩
    push Not at hdata hiocs
    rcases hdata with ⟨m, hm, hmloc⟩
    rcases hiocs with ⟨n, hn, hnloc⟩
    rcases mem_found.mp hm with ⟨hm', sub, desc, hfound⟩
    rcases mem_found.mp hn with ⟨hn', sub', desc', hfound'⟩
    have hloc : n.location = m.location := hnloc.trans hmloc.symm
    obtain rfl := descriptorOf_sub hloc hfound hfound'
    apply (h.own_apart_iff hinside hd hm hn hmloc hnloc hfound hfound').mp
    exact hown m hm' n hn' hloc _ _ _ hfound hfound'
  · intro howns m hm n hn hloc sub desc desc' hfound hfound'
    have hm' := mem_found.mpr ⟨hm, sub, desc, hfound⟩
    have hn' := mem_found.mpr ⟨hn, sub, desc', hfound'⟩
    -- the two of them have one descriptor
    rcases (h.mentioned m.location).mpr ⟨m, List.mem_append_left _ hm', rfl⟩ with ⟨d, hd, hdloc⟩
    apply (h.own_apart_iff hinside hd hm' hn' hdloc.symm (hloc.trans hdloc.symm) hfound hfound').mpr
    exact howns d hd

end

/-- The areas of an accepted CR are disjoint if and only if no submodule has its IOCS on its own
data or its own IOPS. -/
theorem layoutOf_disjoint_iff {minDeviceInterval : ℕ} {ar : ArParam} {expApis : List ExpApi}
    {iocrs : List IocrParam} {stat : PnetResult} {p : IocrParam}
    (haccepted : acceptsIocrs minDeviceInterval ar expApis iocrs stat = true) (hp : p ∈ iocrs)
    (hapis : p.apis.length ≤ PNET_MAX_API) :
    (layoutOf expApis p).Disjoint p.cSduLength ↔ OwnApart expApis p := by
  rcases nodup_of_accepts haccepted hp hapis with ⟨honce, honce'⟩
  have hsound := sound_of_accepts haccepted hp
  have hmade := @layoutOf_made_found expApis p honce honce'
  rw [hsound.disjoint_iff iocrSetupDesc_formed, hmade.ownApart_iff hsound.inside]

end Layout

/-! ## A submodule with its IOCS in its own data -/

namespace DisjointRun

/-- Four bytes of data from the first byte on, and the IOCS at `iocsOffset`. -/
def iocr (iocsOffset : BitVec 16) : IocrParam :=
  { TimingRun.iocr 32 1 3 with apis := [⟨0, [⟨1, 1, 0⟩], [⟨1, 1, iocsOffset⟩]⟩] }

end DisjointRun

open DisjointRun DescriptorsRun in
theorem layoutOf_disjoint_behind :
    (layoutOf (expApis false) (iocr 5)).Disjoint (iocr 5).cSduLength := by
  have haccepted : acceptsIocrs 32 TimingRun.ar (expApis false) [iocr 5] noError = true := by
    decide +kernel
  apply (Layout.layoutOf_disjoint_iff haccepted List.mem_cons_self le_rfl).mpr
  intro m hm n hn _ s desc desc' hfound hfound'
  obtain rfl := List.mem_singleton.mp hm
  obtain rfl := List.mem_singleton.mp hn
  have hsub : (sub false, (⟨PF_DIRECTION_INPUT, 4, 1, 1⟩ : DataDescriptor)) = (s, desc) :=
    Option.some.inj hfound
  have hsub' : (sub false, (⟨PF_DIRECTION_OUTPUT, 2, 1, 1⟩ : DataDescriptor)) = (s, desc') :=
    Option.some.inj hfound'
  obtain ⟨rfl, rfl⟩ := Prod.mk.inj hsub
  obtain rfl := (Prod.mk.inj hsub').2
  decide +kernel

open DisjointRun DescriptorsRun in
/-- The request is accepted with the IOCS on the third byte of the data. -/
theorem not_disjoint_iocs :
    (sub false).accepted true 0 = true ∧
    acceptsIocrs 32 TimingRun.ar (expApis false) [iocr 2] noError = true ∧
    (layoutOf (expApis false) (iocr 2)).dataDesc = [⟨true, ⟨0, 1, 1⟩, 0, 4, 4, 1, 2, 1⟩] ∧
    ¬(layoutOf (expApis false) (iocr 2)).Disjoint (iocr 2).cSduLength := by
  have htable : (layoutOf (expApis false) (iocr 2)).dataDesc =
      [⟨true, ⟨0, 1, 1⟩, 0, 4, 4, 1, 2, 1⟩] := by
    decide +kernel
  refine ⟨by decide +kernel, by decide +kernel, htable, fun h => ?_⟩
  have hpairs := h.apart
  rw [htable] at hpairs
  exact absurd hpairs (by decide +kernel)

end PNet.Connect
