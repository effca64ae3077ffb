import PNet.Connect.Layout
import PNet.Connect.Timing
import PNet.Rpc.Read

/-! # The descriptors of a CR

What `pf_cmdev_iocr_setup_data_iops` and `pf_cmdev_iocr_setup_iocs` make of the data objects and the
IOCS of a CR, when the request is accepted.

* `layoutOf_exact_iff`: each subslot of the CR has its descriptor, with the offsets of the request and the
  lengths of the expected submodule, and the lengths sum up, exactly when the CR is `Served`.
-/

namespace PNet.Connect

open Cyclic

/-! ## What a CR speaks about -/

/-- A data object or an IOCS of a CR. -/
structure Mention where
  location : Location
  frameOffset : BitVec 16
deriving DecidableEq, Repr

def ApiEntry.mention (a : ApiEntry) (f : FrameDescriptor) : Mention :=
  ⟨⟨a.api, f.slotNumber, f.subslotNumber⟩, f.frameOffset⟩

namespace IocrParam

def dataMentions (p : IocrParam) : List Mention := p.apis.flatMap fun a => a.ioData.map a.mention

def iocsMentions (p : IocrParam) : List Mention := p.apis.flatMap fun a => a.iocs.map a.mention

end IocrParam

/-- The expected submodule, and its descriptor of the direction that belongs to the status. -/
def descriptorOf (expApis : List ExpApi) (dir : BitVec 16) (status : DevStatusType) (m : Mention) :
    Option (ExpSubmodule × DataDescriptor) :=
  (getExpSub expApis m.location.apiId m.location.slotNbr m.location.subslotNbr).bind fun sub =>
    (getExpSubDataDescriptor sub dir status).map fun desc => (sub, desc)

end PNet.Connect

/-- Bytes of a frame that the descriptor stands for. -/
def PNet.Cyclic.IodataObject.total (d : IodataObject) : ℕ := d.dataLength + d.iopsLength + d.iocsLength

namespace PNet.Connect.Layout

open Cyclic

/-! ## What is expected of the descriptors -/

/-- The descriptor is as `made` says when a mention is of its subslot, and as `absent` when none is. -/
structure Follows (made : Mention → IodataObject → Prop) (absent : IodataObject → Prop)
    (ms : List Mention) (d : IodataObject) : Prop where
  of_mem : ∀ m ∈ ms, m.location = d.location → made m d
  of_absent : (∀ m ∈ ms, m.location ≠ d.location) → absent d

section
variable (expApis : List ExpApi) (dir : BitVec 16)

/-- Data and IOPS lie where the request says, with the lengths of the submodule's descriptor. -/
def DeclaredData (m : Mention) (d : IodataObject) : Prop :=
  ∃ sub desc, descriptorOf expApis dir .PF_DEV_STATUS_TYPE_IOPS m = some (sub, desc) ∧
    d.data = ⟨m.frameOffset.toNat, desc.submoduleDataLength.toNat⟩ ∧
    d.iops = ⟨m.frameOffset.toNat + desc.submoduleDataLength.toNat, desc.lengthIops.toNat⟩

/-- The same for the IOCS. -/
def DeclaredIocs (m : Mention) (d : IodataObject) : Prop :=
  ∃ sub desc, descriptorOf expApis dir .PF_DEV_STATUS_TYPE_IOCS m = some (sub, desc) ∧
    d.iocs = ⟨m.frameOffset.toNat, desc.lengthIocs.toNat⟩

def NoData (d : IodataObject) : Prop := d.dataLength = 0 ∧ d.iopsLength = 0

def NoIocs (d : IodataObject) : Prop := d.iocsLength = 0

end

/-- The table of a CR is as expected. -/
structure Exact (expApis : List ExpApi) (p : IocrParam) (x : Layout) : Prop where
  unique : KeyedList.Unique IodataObject.location x.dataDesc
  mentioned : ∀ loc, (∃ d ∈ x.dataDesc, d.location = loc) ↔
    ∃ m ∈ p.dataMentions ++ p.iocsMentions, m.location = loc
  inUse : ∀ d ∈ x.dataDesc, d.inUse = true
  data : ∀ d ∈ x.dataDesc, Follows (DeclaredData expApis p.dir) NoData p.dataMentions d
  iocs : ∀ d ∈ x.dataDesc, Follows (DeclaredIocs expApis p.dir) NoIocs p.iocsMentions d
  inLength : p.dir = PF_DIRECTION_INPUT → x.inLength.toNat = (x.dataDesc.map IodataObject.total).sum
  outLength : p.dir = PF_DIRECTION_OUTPUT → x.outLength.toNat = (x.dataDesc.map IodataObject.total).sum

/-! ## What the code makes of them -/

section
variable (expApis : List ExpApi) (dir : BitVec 16)

/-- The descriptor of a data object that is new. -/
def newData (m : Mention) (sub : ExpSubmodule) (desc : DataDescriptor) : IodataObject :=
  setDataIops sub dir desc m.frameOffset (emptyDesc m.location)

/-- The descriptor of an IOCS that is new. -/
def newIocs (m : Mention) (sub : ExpSubmodule) (desc : DataDescriptor) : IodataObject :=
  setIocs sub desc m.frameOffset (emptyDesc m.location)

def MadeData (m : Mention) (d : IodataObject) : Prop :=
  ∃ sub desc, descriptorOf expApis dir .PF_DEV_STATUS_TYPE_IOPS m = some (sub, desc) ∧
    d.data = (newData dir m sub desc).data ∧ d.iops = (newData dir m sub desc).iops

def MadeIocs (m : Mention) (d : IodataObject) : Prop :=
  ∃ sub desc, descriptorOf expApis dir .PF_DEV_STATUS_TYPE_IOCS m = some (sub, desc) ∧
    d.iocs = (newIocs m sub desc).iocs

/-- The length that a data object adds. -/
def dataLength (m : Mention) : ℕ :=
  match descriptorOf expApis dir .PF_DEV_STATUS_TYPE_IOPS m with
  | none => 0
  | some (sub, desc) => (newData dir m sub desc).total

/-- The length that an IOCS adds. -/
def iocsLength (m : Mention) : ℕ :=
  match descriptorOf expApis dir .PF_DEV_STATUS_TYPE_IOCS m with
  | none => 0
  | some (sub, desc) => (newIocs m sub desc).total

/-- The table, when the data objects `data` and the IOCS `iocs` have been looked at. -/
structure Made (data iocs : List Mention) (x : Layout) : Prop where
  unique : KeyedList.Unique IodataObject.location x.dataDesc
  mentioned : ∀ loc, (∃ d ∈ x.dataDesc, d.location = loc) ↔
    ∃ m ∈ data ++ iocs, m.location = loc
  inUse : ∀ d ∈ x.dataDesc, d.inUse = true
  dataOf : ∀ d ∈ x.dataDesc, Follows (MadeData expApis dir) NoData data d
  iocsOf : ∀ d ∈ x.dataDesc, Follows (MadeIocs expApis dir) NoIocs iocs d
  sum : (x.dataDesc.map IodataObject.total).sum =
    (data.map (dataLength expApis dir)).sum + (iocs.map (iocsLength expApis dir)).sum
  inLength : dir = PF_DIRECTION_INPUT → x.inLength = BitVec.ofNat 16 (x.dataDesc.map IodataObject.total).sum
  outLength : dir = PF_DIRECTION_OUTPUT → x.outLength = BitVec.ofNat 16 (x.dataDesc.map IodataObject.total).sum

end

section
variable {expApis : List ExpApi} {dir : BitVec 16} {x : Layout} {data iocs : List Mention}
  {m : Mention} {sub : ExpSubmodule} {desc : DataDescriptor} {d : IodataObject}

/-! ### One list of mentions -/

variable {made : Mention → IodataObject → Prop} {absent : IodataObject → Prop} {ms : List Mention}

theorem Follows.nil (h : absent d) : Follows made absent [] d :=
  ⟨fun _ hm => absurd hm List.not_mem_nil, fun _ => h⟩

/-- A mention of another subslot makes no difference. -/
theorem Follows.append_ne (h : Follows made absent ms d) (hne : m.location ≠ d.location) :
    Follows made absent (ms ++ [m]) d := by
  constructor
  · intro n hn hloc
    rcases List.mem_append.mp hn with hn | hn
    · exact h.of_mem n hn hloc
    · rw [List.mem_singleton.mp hn] at hloc
      exact absurd hloc hne
  · exact fun hnone => h.of_absent fun n hn => hnone n (List.mem_append_left _ hn)

/-- The first mention of the subslot. -/
theorem Follows.append_eq (h : made m d) (hnew : ∀ n ∈ ms, n.location ≠ d.location)
    (hloc : m.location = d.location) : Follows made absent (ms ++ [m]) d := by
  constructor
  · intro n hn hn'
    rcases List.mem_append.mp hn with hn | hn
    · exact absurd hn' (hnew n hn)
    · rw [List.mem_singleton.mp hn]
      exact h
  · exact fun hnone => absurd hloc (hnone m (List.mem_append_right _ (List.mem_singleton_self m)))

/-- What counts of a descriptor. -/
theorem Follows.imp {made' : Mention → IodataObject → Prop} {absent' : IodataObject → Prop}
    {e : IodataObject} (h : Follows made absent ms d) (hloc : e.location = d.location)
    (hmade : ∀ m ∈ ms, m.location = d.location → made m d → made' m e) (habsent : absent d → absent' e) :
    Follows made' absent' ms e := by
  constructor
  · intro m hm heq
    have hd : m.location = d.location := heq.trans hloc
    exact hmade m hm hd (h.of_mem m hm hd)
  · exact fun hnone => habsent (h.of_absent fun m hm => hloc ▸ hnone m hm)

/-! ### One step -/

theorem descOf_cases (x : Layout) (loc : Location) :
    (x.dataDesc.find? (fun d => d.location = loc) = some (x.descOf loc) ∧ x.descOf loc ∈ x.dataDesc) ∨
      x.dataDesc.find? (fun d => d.location = loc) = none ∧ x.descOf loc = emptyDesc loc ∧
        ∀ d ∈ x.dataDesc, d.location ≠ loc := by
  unfold descOf
  cases hfind : x.dataDesc.find? fun d => d.location = loc with
  | some d => exact .inl ⟨rfl, List.mem_of_find?_eq_some hfind⟩
  | none =>
    refine .inr ⟨rfl, rfl, fun d hd hloc => ?_⟩
    exact absurd (decide_eq_true hloc) (List.find?_eq_none.mp hfind d hd)

/-- The sum after a descriptor has been stored. -/
theorem sum_store (x : Layout) {loc : Location} (hloc : d.location = loc) (len : ℕ) :
    ((x.store dir d len).dataDesc.map IodataObject.total).sum + (x.descOf loc).total =
      (x.dataDesc.map IodataObject.total).sum + d.total := by
  have hsum := @KeyedList.sum_set _ _ _ IodataObject.location x.dataDesc d IodataObject.total
  rw [hloc] at hsum
  rcases descOf_cases x loc with ⟨hfind, _⟩ | ⟨hfind, hempty, _⟩
  · rw [hfind] at hsum
    exact hsum
  · rw [hfind] at hsum
    rw [hempty]
    exact hsum

/-- The subslots of a table after a descriptor has been stored. -/
theorem store_location_iff (hunique : KeyedList.Unique IodataObject.location x.dataDesc) {len : ℕ}
    {loc : Location} : (∃ e ∈ (x.store dir d len).dataDesc, e.location = loc) ↔
      d.location = loc ∨ ∃ e ∈ x.dataDesc, e.location = loc := by
  have hmem (e : IodataObject) : e ∈ (x.store dir d len).dataDesc ↔
      e = d ∨ e ∈ x.dataDesc ∧ e.location ≠ d.location := hunique.mem_set
  constructor
  · rintro ⟨e, he, rfl⟩
    rcases (hmem e).mp he with rfl | ⟨he, _⟩
    · exact .inl rfl
    · exact .inr ⟨e, he, rfl⟩
  · rintro (rfl | ⟨e, he, rfl⟩)
    · exact ⟨d, (hmem d).mpr (.inl rfl), rfl⟩
    · by_cases heq : e.location = d.location
      · exact ⟨d, (hmem d).mpr (.inl rfl), heq.symm⟩
      · exact ⟨e, (hmem e).mpr (.inr ⟨he, heq⟩), rfl⟩

/-- Storing the descriptor of a mention. -/
theorem Made.store (h : Made expApis dir data iocs x) {data' iocs' : List Mention} {len : ℕ}
    (hloc : d.location = m.location) (hinUse : d.inUse = true)
    (hment : ∀ loc, (∃ n ∈ data' ++ iocs', n.location = loc) ↔
      m.location = loc ∨ ∃ n ∈ data ++ iocs, n.location = loc)
    (hdata : Follows (MadeData expApis dir) NoData data' d)
    (hiocs : Follows (MadeIocs expApis dir) NoIocs iocs' d)
    (hothers : ∀ e ∈ x.dataDesc, m.location ≠ e.location →
      Follows (MadeData expApis dir) NoData data' e ∧ Follows (MadeIocs expApis dir) NoIocs iocs' e)
    (hlen : d.total = (x.descOf m.location).total + len)
    (hsum : (data'.map (dataLength expApis dir)).sum + (iocs'.map (iocsLength expApis dir)).sum =
      (data.map (dataLength expApis dir)).sum + (iocs.map (iocsLength expApis dir)).sum + len) :
    Made expApis dir data' iocs' (x.store dir d len) := by
  have hmem (e : IodataObject) : e ∈ (x.store dir d len).dataDesc ↔
      e = d ∨ e ∈ x.dataDesc ∧ e.location ≠ d.location := h.unique.mem_set
  have htotal : ((x.store dir d len).dataDesc.map IodataObject.total).sum =
      (x.dataDesc.map IodataObject.total).sum + len := by
    have hstored := @sum_store dir d x m.location hloc len
    omega
  constructor
  case unique => exact h.unique.set d
  case mentioned =>
    intro loc
    rw [hment, ← h.mentioned, store_location_iff h.unique, hloc]
  case inUse =>
    intro e he
    rcases (hmem e).mp he with rfl | ⟨he, _⟩
    · exact hinUse
    · exact h.inUse e he
  case dataOf =>
    intro e he
    rcases (hmem e).mp he with rfl | ⟨he, hne⟩
    · exact hdata
    · exact (hothers e he fun heq => hne (heq.symm.trans hloc.symm)).1
  case iocsOf =>
    intro e he
    rcases (hmem e).mp he with rfl | ⟨he, hne⟩
    · exact hiocs
    · exact (hothers e he fun heq => hne (heq.symm.trans hloc.symm)).2
  case sum => rw [htotal, h.sum, hsum]
  case inLength =>
    intro hdir
    rw [htotal, BitVec.ofNat_add, ← h.inLength hdir]
    exact if_pos hdir
  case outLength =>
    intro hdir
    rw [htotal, BitVec.ofNat_add, ← h.outLength hdir]
    exact if_pos hdir

/-- One data object of a subslot that has none yet. -/
theorem Made.addData (h : Made expApis dir data [] x)
    (hfound : descriptorOf expApis dir .PF_DEV_STATUS_TYPE_IOPS m = some (sub, desc))
    (hnew : ∀ n ∈ data, n.location ≠ m.location) :
    Made expApis dir (data ++ [m]) []
      (x.store dir (setDataIops sub dir desc m.frameOffset (x.descOf m.location))
        (setDataIops sub dir desc m.frameOffset (x.descOf m.location)).total) := by
  have hempty : x.descOf m.location = emptyDesc m.location := by
    rcases descOf_cases x m.location with ⟨_, hmem⟩ | ⟨_, hempty, _⟩
    · rcases (h.mentioned m.location).mp ⟨_, hmem, descOf_location⟩ with ⟨n, hn, hloc⟩
      rw [List.append_nil] at hn
      exact absurd hloc (hnew n hn)
    · exact hempty
  have hloc : (newData dir m sub desc).location = m.location := setDataIops_location _ _ _ _
  have hiocs : (newData dir m sub desc).iocsLength = 0 ∧ (newData dir m sub desc).inUse = true := by
    unfold newData setDataIops
    cases sub.submoduleProperties.discardIoxs <;> exact ⟨rfl, rfl⟩
  rw [hempty]
  refine h.store hloc hiocs.2 ?_ ?_ (.nil hiocs.1) ?_ ?_ ?_
  · intro loc
    simp only [List.append_nil, List.mem_append, List.mem_singleton]
    constructor
    · rintro ⟨n, hn | rfl, rfl⟩
      · exact .inr ⟨n, hn, rfl⟩
      · exact .inl rfl
    · rintro (rfl | ⟨n, hn, rfl⟩)
      · exact ⟨m, .inr rfl, rfl⟩
      · exact ⟨n, .inl hn, rfl⟩
  · exact Follows.append_eq ⟨sub, desc, hfound, rfl, rfl⟩ (fun n hn heq => hnew n hn (heq.trans hloc))
      hloc.symm
  · exact fun e he hne => ⟨(h.dataOf e he).append_ne hne, h.iocsOf e he⟩
  · rw [hempty]
    exact (Nat.zero_add _).symm
  · have hlength : dataLength expApis dir m = (newData dir m sub desc).total := by
      rw [dataLength, hfound]
    rw [List.map_append, List.sum_append, List.map_singleton, List.sum_singleton, hlength]
    exact (Nat.add_right_comm _ _ _)

/-- One IOCS of a subslot that has none yet. -/
theorem Made.addIocs (h : Made expApis dir data iocs x)
    (hfound : descriptorOf expApis dir .PF_DEV_STATUS_TYPE_IOCS m = some (sub, desc))
    (hnew : ∀ n ∈ iocs, n.location ≠ m.location) :
    Made expApis dir data (iocs ++ [m])
      (x.store dir (setIocs sub desc m.frameOffset (x.descOf m.location))
        (setIocs sub desc m.frameOffset (x.descOf m.location)).iocsLength) := by
  rcases setIocs_same sub desc m.frameOffset (x.descOf m.location) with ⟨hloc, hsame, hsame'⟩
  rw [descOf_location] at hloc
  have hiocs : (setIocs sub desc m.frameOffset (x.descOf m.location)).iocs =
      (newIocs m sub desc).iocs := by
    unfold newIocs setIocs
    cases sub.submoduleProperties.discardIoxs <;> rfl
  have hinUse : (setIocs sub desc m.frameOffset (x.descOf m.location)).inUse =
      (x.descOf m.location).inUse := by
    unfold setIocs
    cases sub.submoduleProperties.discardIoxs <;> rfl
  have hlength : iocsLength expApis dir m = (newIocs m sub desc).iocsLength := by
    rw [iocsLength, hfound]
    dsimp only
    unfold newIocs setIocs
    cases sub.submoduleProperties.discardIoxs <;> exact Nat.zero_add _
  -- the descriptor of the subslot, if it has one, or a new one
  have hold : (x.descOf m.location).inUse = true ∧ (x.descOf m.location).iocsLength = 0 ∧
      Follows (MadeData expApis dir) NoData data (x.descOf m.location) := by
    rcases descOf_cases x m.location with ⟨_, hmem⟩ | ⟨_, hempty, hnone⟩
    · refine ⟨h.inUse _ hmem, (h.iocsOf _ hmem).of_absent fun n hn => ?_, h.dataOf _ hmem⟩
      rw [descOf_location]
      exact hnew n hn
    · rw [hempty]
      refine ⟨rfl, rfl, fun n hn hloc => ?_, fun _ => ⟨rfl, rfl⟩⟩
      rcases (h.mentioned n.location).mpr ⟨n, List.mem_append_left _ hn, rfl⟩ with ⟨d, hd, hd'⟩
      exact absurd (hd'.trans hloc) (hnone d hd)
  rcases Area.mk.inj hsame with ⟨_, hdata⟩
  rcases Area.mk.inj hsame' with ⟨_, hiops⟩
  refine h.store hloc (hinUse.trans hold.1) ?_ ?_ ?_ ?_ ?_ ?_
  · intro loc
    simp only [List.mem_append, List.mem_singleton]
    constructor
    · rintro ⟨n, hn | hn | rfl, rfl⟩
      · exact .inr ⟨n, .inl hn, rfl⟩
      · exact .inr ⟨n, .inr hn, rfl⟩
      · exact .inl rfl
    · rintro (rfl | ⟨n, hn | hn, rfl⟩)
      · exact ⟨m, .inr (.inr rfl), rfl⟩
      · exact ⟨n, .inl hn, rfl⟩
      · exact ⟨n, .inr (.inl hn), rfl⟩
  · refine hold.2.2.imp (hloc.trans descOf_location.symm) ?_ ?_
    · rintro n _ _ ⟨sub', desc', hfound', hmade, hmade'⟩
      exact ⟨sub', desc', hfound', hsame.trans hmade, hsame'.trans hmade'⟩
    · exact fun hnone => ⟨hdata.trans hnone.1, hiops.trans hnone.2⟩
  · exact Follows.append_eq ⟨sub, desc, hfound, hiocs⟩ (fun n hn heq => hnew n hn (heq.trans hloc))
      hloc.symm
  · exact fun e he hne => ⟨h.dataOf e he, (h.iocsOf e he).append_ne hne⟩
  · unfold IodataObject.total
    rw [hdata, hiops, hold.2.1]
    rfl
  · rw [List.map_append, List.sum_append, List.map_singleton, List.sum_singleton, hlength,
      (Area.mk.inj hiocs).2]
    exact (Nat.add_assoc _ _ _).symm

/-! ### All of them -/

/-- One object of `pf_cmdev_iocr_setup_data_iops`. -/
def stepData (expApis : List ExpApi) (dir : BitVec 16) (x : Layout) (m : Mention) : Layout :=
  match descriptorOf expApis dir .PF_DEV_STATUS_TYPE_IOPS m with
  | none => x
  | some (sub, desc) =>
    x.store dir (setDataIops sub dir desc m.frameOffset (x.descOf m.location))
      (setDataIops sub dir desc m.frameOffset (x.descOf m.location)).total

/-- One IOCS of `pf_cmdev_iocr_setup_iocs`. -/
def stepIocs (expApis : List ExpApi) (dir : BitVec 16) (x : Layout) (m : Mention) : Layout :=
  match descriptorOf expApis dir .PF_DEV_STATUS_TYPE_IOCS m with
  | none => x
  | some (sub, desc) =>
    x.store dir (setIocs sub desc m.frameOffset (x.descOf m.location))
      (setIocs sub desc m.frameOffset (x.descOf m.location)).iocsLength

theorem setupDataIops_eq (p : IocrParam) (x : Layout) :
    setupDataIops expApis dir p.apis x = p.dataMentions.foldl (stepData expApis dir) x := by
  have hstep (a : ApiEntry) (x : Layout) (f : FrameDescriptor) :
      addDataIops expApis dir a.api x f = stepData expApis dir x (a.mention f) := by
    unfold addDataIops stepData descriptorOf
    dsimp only [ApiEntry.mention]
    cases getExpSub expApis a.api f.slotNumber f.subslotNumber with
    | none => rfl
    | some sub =>
      dsimp only [Option.bind_some]
      cases getExpSubDataDescriptor sub dir .PF_DEV_STATUS_TYPE_IOPS <;> rfl
  unfold setupDataIops IocrParam.dataMentions
  simp only [List.foldl_flatMap, List.foldl_map, ← hstep]

theorem setupIocs_eq (p : IocrParam) (x : Layout) :
    (setupIocs expApis dir p.apis x).2 = p.iocsMentions.foldl (stepIocs expApis dir) x := by
  have hstep (a : ApiEntry) (x : Layout) (f : FrameDescriptor) :
      Layout.addIocs expApis dir a.api x f = stepIocs expApis dir x (a.mention f) := by
    unfold Layout.addIocs stepIocs descriptorOf
    dsimp only [ApiEntry.mention]
    cases getExpSub expApis a.api f.slotNumber f.subslotNumber with
    | none => rfl
    | some sub =>
      dsimp only [Option.bind_some]
      cases getExpSubDataDescriptor sub dir .PF_DEV_STATUS_TYPE_IOCS <;> rfl
  unfold setupIocs IocrParam.iocsMentions
  simp only [List.foldl_flatMap, List.foldl_map, ← hstep]

/-- The submodule of each of the mentions has a descriptor. -/
def Found (expApis : List ExpApi) (dir : BitVec 16) (status : DevStatusType) (ms : List Mention) :
    Prop :=
  ∀ m ∈ ms, ∃ sub desc, descriptorOf expApis dir status m = some (sub, desc)

theorem empty_made : Made expApis dir [] [] empty := by
  have hnone : ∀ d ∈ empty.dataDesc, False := fun d hd => absurd hd List.not_mem_nil
  constructor
  case unique => exact List.nodup_nil
  case mentioned =>
    intro loc
    constructor
    · rintro ⟨d, hd, _⟩
      exact (hnone d hd).elim
    · rintro ⟨m, hm, _⟩
      exact absurd hm List.not_mem_nil
  case inUse => exact fun d hd => (hnone d hd).elim
  case dataOf => exact fun d hd => (hnone d hd).elim
  case iocsOf => exact fun d hd => (hnone d hd).elim
  case sum => rfl
  case inLength => exact fun _ => rfl
  case outLength => exact fun _ => rfl

/-- A mention behind others with different subslots. -/
theorem fresh_of_nodup {ms rest : List Mention}
    (h : ((ms ++ m :: rest).map Mention.location).Nodup) : ∀ n ∈ ms, n.location ≠ m.location := by
  intro n hn heq
  rw [List.map_append, List.map_cons] at h
  apply List.disjoint_of_nodup_append h (List.mem_map_of_mem hn)
  rw [heq]
  exact List.mem_cons_self

theorem foldl_stepData {rest : List Mention} (h : Made expApis dir data [] x)
    (hfound : Found expApis dir .PF_DEV_STATUS_TYPE_IOPS rest)
    (hnodup : ((data ++ rest).map Mention.location).Nodup) :
    Made expApis dir (data ++ rest) [] (rest.foldl (stepData expApis dir) x) := by
  induction rest generalizing data x with
  | nil => rwa [List.append_nil]
  | cons m rest ih =>
    rcases hfound m List.mem_cons_self with ⟨sub, desc, hm⟩
    have hnext := h.addData hm (fresh_of_nodup hnodup)
    rw [List.foldl_cons, stepData, hm, List.append_cons]
    rw [List.append_cons] at hnodup
    exact ih hnext (fun n hn => hfound n (List.mem_cons_of_mem m hn)) hnodup

theorem foldl_stepIocs {rest : List Mention} (h : Made expApis dir data iocs x)
    (hfound : Found expApis dir .PF_DEV_STATUS_TYPE_IOCS rest)
    (hnodup : ((iocs ++ rest).map Mention.location).Nodup) :
    Made expApis dir data (iocs ++ rest) (rest.foldl (stepIocs expApis dir) x) := by
  induction rest generalizing iocs x with
  | nil => rwa [List.append_nil]
  | cons m rest ih =>
    rcases hfound m List.mem_cons_self with ⟨sub, desc, hm⟩
    have hnext := h.addIocs hm (fresh_of_nodup hnodup)
    rw [List.foldl_cons, stepIocs, hm, List.append_cons]
    rw [List.append_cons] at hnodup
    exact ih hnext (fun n hn => hfound n (List.mem_cons_of_mem m hn)) hnodup

/-- The table of a CR that mentions each subslot once, in each of its two lists. -/
theorem layoutOf_made {p : IocrParam}
    (hdata : Found expApis p.dir .PF_DEV_STATUS_TYPE_IOPS p.dataMentions)
    (hiocs : Found expApis p.dir .PF_DEV_STATUS_TYPE_IOCS p.iocsMentions)
    (honce : (p.dataMentions.map Mention.location).Nodup)
    (honce' : (p.iocsMentions.map Mention.location).Nodup) :
    Made expApis p.dir p.dataMentions p.iocsMentions (layoutOf expApis p) := by
  rw [layoutOf, iocrSetupDesc, setupIocs_eq, setupDataIops_eq]
  exact foldl_stepIocs (foldl_stepData empty_made hdata honce) hiocs honce'

end

/-! ## An accepted CR -/

section
variable {v : Verdict} {expApis : List ExpApi} {p : IocrParam} {iocrs : List IocrParam}

theorem once_of_foldl {l m : List FrameDescriptor} {errorCode2 : Byte}
    (h : (l.foldl (fun v f => v.test (notOnce m f) errorCode2) v).ok = true) :
    ∀ f ∈ l, notOnce m f = false := by
  intro f hf
  rcases Verdict.each_of_foldl (fun _ _ hv => (Verdict.test_ok.mp hv).1) h f hf with ⟨v', hv'⟩
  exact (Verdict.test_ok.mp hv').2

theorem checkApiEntry_once {exp : ExpApi} {a : ApiEntry}
    (h : (checkApiEntry p exp a v).ok = true) :
    (∀ f ∈ a.ioData, notOnce a.ioData f = false) ∧ ∀ f ∈ a.iocs, notOnce a.iocs f = false := by
  have htests {v : Verdict} {l m : List FrameDescriptor} {errorCode2 : Byte} :
      (l.foldl (fun v f => v.test (notOnce m f) errorCode2) v).ok = true → v.ok = true :=
    Verdict.ok_of_foldl fun _ _ hv => (Verdict.test_ok.mp hv).1
  have hiocs := Verdict.ok_of_whileOk
    (fun v hv => Verdict.ok_of_foldl (fun _ _ => checkIocs_ok) hv) h
  have honce := (Verdict.whileOk_ok fun v hv => htests hv).mp hiocs
  have hdata := Verdict.ok_of_foldl (fun _ _ => checkIoData_ok) (htests honce)
  exact ⟨once_of_foldl hdata, once_of_foldl honce⟩

theorem once_of_accepts {minDeviceInterval : ℕ} {ar : ArParam} {stat : PnetResult}
    (h : acceptsIocrs minDeviceInterval ar expApis iocrs stat = true) (hp : p ∈ iocrs) :
    ∀ a ∈ p.apis,
      (∀ f ∈ a.ioData, notOnce a.ioData f = false) ∧ ∀ f ∈ a.iocs, notOnce a.iocs f = false := by
  rw [acceptsIocrs, Bool.and_eq_true] at h
  have hmem : (p, layoutOf expApis p) ∈ iocrs.map fun q => (q, layoutOf expApis q) :=
    List.mem_map.mpr ⟨p, hp, rfl⟩
  rcases Verdict.each_of_foldl (fun _ _ hv => (checkIocr_ok hv).1) h.2 _ hmem with ⟨v, hv⟩
  have hapis := (checkDescs_ok.mp hv).1
  intro a ha
  rcases Verdict.each_of_foldl (fun _ _ => checkApi_ok) hapis a ha with ⟨v', hv'⟩
  unfold checkApi at hv'
  cases hexp : getExpApi expApis a.api with
  | none =>
    rw [hexp] at hv'
    cases hv'
  | some exp =>
    rw [hexp] at hv'
    exact checkApiEntry_once ((Verdict.whileOk_ok fun _ => checkApiEntry_ok).mp hv')

theorem nodup_of_once (a : ApiEntry) {l : List FrameDescriptor}
    (h : ∀ f ∈ l, notOnce l f = false) : ((l.map a.mention).map Mention.location).Nodup := by
  rw [List.nodup_iff_count_le_one]
  intro loc
  by_cases hmem : loc ∈ (l.map a.mention).map Mention.location
  · rw [List.map_map] at hmem ⊢
    rcases List.mem_map.mp hmem with ⟨f, hf, rfl⟩
    have hcount : l.countP (fun g => g.slotNumber = f.slotNumber ∧
        g.subslotNumber = f.subslotNumber) = 1 := by
      have honce := h f hf
      unfold notOnce at honce
      by_contra hne
      exact absurd honce (by simpa using hne)
    rw [List.count, List.countP_map, ← hcount]
    apply le_of_eq
    apply List.countP_congr
    intro g _
    simp [ApiEntry.mention]
  · rw [List.count_eq_zero.mpr hmem]
    exact Nat.zero_le 1

/-- An accepted CR mentions each subslot at most once in each list. -/
theorem nodup_of_accepts {minDeviceInterval : ℕ} {ar : ArParam} {stat : PnetResult}
    (h : acceptsIocrs minDeviceInterval ar expApis iocrs stat = true) (hp : p ∈ iocrs)
    (hapis : p.apis.length ≤ PNET_MAX_API) :
    (p.dataMentions.map Mention.location).Nodup ∧ (p.iocsMentions.map Mention.location).Nodup := by
  have honce := once_of_accepts h hp
  have hmax : PNET_MAX_API = 1 := rfl
  unfold IocrParam.dataMentions IocrParam.iocsMentions
  match hlist : p.apis with
  | [] => exact ⟨List.nodup_nil, List.nodup_nil⟩
  | [a] =>
    rcases honce a (hlist ▸ List.mem_singleton_self a) with ⟨hdata, hiocs⟩
    rw [List.flatMap_singleton, List.flatMap_singleton]
    exact ⟨nodup_of_once a hdata, nodup_of_once a hiocs⟩
  | _ :: _ :: _ =>
    rw [hlist, List.length_cons, List.length_cons] at hapis
    omega

end

/-! ## When the table is exact -/

/-- The length of the data of an input or an output submodule is reduced to zero. -/
def Reduced (dir : BitVec 16) (sub : ExpSubmodule) : Prop :=
  dir = PF_DIRECTION_INPUT ∧ sub.submoduleProperties.reduceInputSubmoduleDataLength = true ∨
    dir = PF_DIRECTION_OUTPUT ∧ sub.submoduleProperties.reduceOutputSubmoduleDataLength = true

instance (dir : BitVec 16) (sub : ExpSubmodule) : Decidable (Reduced dir sub) :=
  inferInstanceAs (Decidable (_ ∨ _))

/-- The bytes that the request and the expected submodules ask for. -/
def declaredLength (expApis : List ExpApi) (p : IocrParam) : ℕ :=
  (p.dataMentions.map fun m =>
    match descriptorOf expApis p.dir .PF_DEV_STATUS_TYPE_IOPS m with
    | none => 0
    | some (_, desc) => desc.submoduleDataLength.toNat + desc.lengthIops.toNat).sum +
  (p.iocsMentions.map fun m =>
    match descriptorOf expApis p.dir .PF_DEV_STATUS_TYPE_IOCS m with
    | none => 0
    | some (_, desc) => desc.lengthIocs.toNat).sum

/-- Each submodule of the CR has a descriptor of the direction, and no property that takes bytes from
it which the request counts on. -/
structure Served (expApis : List ExpApi) (p : IocrParam) : Prop where
  data : ∀ m ∈ p.dataMentions, ∃ sub desc,
    descriptorOf expApis p.dir .PF_DEV_STATUS_TYPE_IOPS m = some (sub, desc) ∧
      (Reduced p.dir sub → m.frameOffset = 0 ∧ desc.submoduleDataLength = 0) ∧
      (sub.submoduleProperties.discardIoxs = true →
        m.frameOffset = 0 ∧ desc.submoduleDataLength = 0 ∧ desc.lengthIops = 0)
  iocs : ∀ m ∈ p.iocsMentions, ∃ sub desc,
    descriptorOf expApis p.dir .PF_DEV_STATUS_TYPE_IOCS m = some (sub, desc) ∧
      (sub.submoduleProperties.discardIoxs = true → m.frameOffset = 0 ∧ desc.lengthIocs = 0)
  fits : declaredLength expApis p < 2 ^ 16

section
variable {expApis : List ExpApi} {dir : BitVec 16} {p : IocrParam} {m : Mention}
  {sub : ExpSubmodule} {desc : DataDescriptor} {d : IodataObject}

theorem eq_zero_iff {n : ℕ} {b : BitVec n} : b = 0 ↔ 0 = b.toNat := by
  rw [BitVec.toNat_eq]
  exact eq_comm

theorem newData_discard (dir : BitVec 16) (m : Mention) (desc : DataDescriptor)
    (h : sub.submoduleProperties.discardIoxs = true) :
    (newData dir m sub desc).data = ⟨0, 0⟩ ∧ (newData dir m sub desc).iops = ⟨0, 0⟩ := by
  unfold newData setDataIops
  rw [if_pos h]
  exact ⟨rfl, rfl⟩

theorem newData_reduced (m : Mention) (desc : DataDescriptor)
    (h : sub.submoduleProperties.discardIoxs ≠ true) (hreduced : Reduced dir sub) :
    (newData dir m sub desc).data = ⟨0, 0⟩ ∧
      (newData dir m sub desc).iops = ⟨0, desc.lengthIops.toNat⟩ := by
  have hdec := decide_eq_true (p := _ ∨ _) hreduced
  unfold newData setDataIops
  rw [if_neg h, hdec]
  exact ⟨rfl, rfl⟩

theorem newData_plain (m : Mention) (desc : DataDescriptor)
    (h : sub.submoduleProperties.discardIoxs ≠ true) (hreduced : ¬Reduced dir sub) :
    (newData dir m sub desc).data = ⟨m.frameOffset.toNat, desc.submoduleDataLength.toNat⟩ ∧
      (newData dir m sub desc).iops =
        ⟨(m.frameOffset.toNat + desc.submoduleDataLength.toNat) % 2 ^ 16, desc.lengthIops.toNat⟩ := by
  have hdec := decide_eq_false (p := _ ∨ _) hreduced
  unfold newData setDataIops
  rw [if_neg h, hdec]
  exact ⟨rfl, rfl⟩

/-- The data and the IOPS are as the request says exactly when no property of the submodule takes
bytes from them. -/
theorem newData_iff (hbound : (newData dir m sub desc).data.start +
      (newData dir m sub desc).data.length < 2 ^ 16) :
    ((newData dir m sub desc).data = ⟨m.frameOffset.toNat, desc.submoduleDataLength.toNat⟩ ∧
      (newData dir m sub desc).iops =
        ⟨m.frameOffset.toNat + desc.submoduleDataLength.toNat, desc.lengthIops.toNat⟩) ↔
    (Reduced dir sub → m.frameOffset = 0 ∧ desc.submoduleDataLength = 0) ∧
      (sub.submoduleProperties.discardIoxs = true →
        m.frameOffset = 0 ∧ desc.submoduleDataLength = 0 ∧ desc.lengthIops = 0) := by
  simp only [eq_zero_iff]
  by_cases hdiscard : sub.submoduleProperties.discardIoxs = true
  · rcases newData_discard dir m desc hdiscard with ⟨hdata, hiops⟩
    rw [hdata, hiops, Area.mk.injEq, Area.mk.injEq]
    constructor
    · rintro ⟨⟨hoff, hlen⟩, _, hiops⟩
      exact ⟨fun _ => ⟨hoff, hlen⟩, fun _ => ⟨hoff, hlen, hiops⟩⟩
    · rintro ⟨_, h⟩
      rcases h hdiscard with ⟨hoff, hlen, hiops⟩
      exact ⟨⟨hoff, hlen⟩, by omega, hiops⟩
  by_cases hreduced : Reduced dir sub
  · rcases newData_reduced m desc hdiscard hreduced with ⟨hdata, hiops⟩
    rw [hdata, hiops, Area.mk.injEq, Area.mk.injEq]
    constructor
    · rintro ⟨h, _⟩
      exact ⟨fun _ => h, fun h => absurd h hdiscard⟩
    · rintro ⟨h, _⟩
      rcases h hreduced with ⟨hoff, hlen⟩
      exact ⟨⟨hoff, hlen⟩, by omega, rfl⟩
  · rcases newData_plain m desc hdiscard hreduced with ⟨hdata, hiops⟩
    rw [hdata] at hbound ⊢
    rw [hiops, Nat.mod_eq_of_lt hbound]
    exact iff_of_true ⟨rfl, rfl⟩ ⟨fun h => absurd h hreduced, fun h => absurd h hdiscard⟩

theorem newIocs_iff : (newIocs m sub desc).iocs = ⟨m.frameOffset.toNat, desc.lengthIocs.toNat⟩ ↔
    (sub.submoduleProperties.discardIoxs = true → m.frameOffset = 0 ∧ desc.lengthIocs = 0) := by
  simp only [eq_zero_iff]
  unfold newIocs setIocs
  by_cases hdiscard : sub.submoduleProperties.discardIoxs = true
  · rw [if_pos hdiscard]
    simp only [IodataObject.iocs, Area.mk.injEq, hdiscard, true_imp_iff]
  · rw [if_neg hdiscard]
    exact iff_of_true rfl fun h => absurd h hdiscard

end

section
variable {expApis : List ExpApi} {p : IocrParam} {x : Layout}

theorem newData_total (dir : BitVec 16) (m : Mention) (sub : ExpSubmodule) (desc : DataDescriptor) :
    (newData dir m sub desc).total =
      (newData dir m sub desc).data.length + (newData dir m sub desc).iops.length := by
  unfold newData setDataIops
  cases sub.submoduleProperties.discardIoxs <;> rfl

theorem newIocs_total (m : Mention) (sub : ExpSubmodule) (desc : DataDescriptor) :
    (newIocs m sub desc).total = (newIocs m sub desc).iocs.length := by
  unfold newIocs setIocs
  cases sub.submoduleProperties.discardIoxs <;> exact Nat.zero_add _

/-- The data of a mention ends inside of the frame. -/
theorem Made.bound (h : Made expApis p.dir p.dataMentions p.iocsMentions x)
    (hsound : x.Sound p.cSduLength) {m : Mention} {sub : ExpSubmodule} {desc : DataDescriptor}
    (hm : m ∈ p.dataMentions)
    (hfound : descriptorOf expApis p.dir .PF_DEV_STATUS_TYPE_IOPS m = some (sub, desc)) :
    (newData p.dir m sub desc).data.start + (newData p.dir m sub desc).data.length < 2 ^ 16 := by
  rcases (h.mentioned m.location).mpr ⟨m, List.mem_append_left _ hm, rfl⟩ with ⟨d, hd, hloc⟩
  rcases (h.dataOf d hd).of_mem m hm hloc.symm with ⟨sub', desc', hfound', hdata, _⟩
  obtain ⟨rfl, rfl⟩ := Prod.mk.inj (Option.some.inj (hfound'.symm.trans hfound))
  have hinside := hsound.inside d hd d.data List.mem_cons_self
  rw [hdata] at hinside
  exact hinside.trans_lt p.cSduLength.isLt

/-- The bytes of the table are those that were asked for, when each mention adds what it asks for. -/
theorem Made.sum_declared (h : Made expApis p.dir p.dataMentions p.iocsMentions x)
    (hdata : ∀ m ∈ p.dataMentions, ∃ sub desc,
      descriptorOf expApis p.dir .PF_DEV_STATUS_TYPE_IOPS m = some (sub, desc) ∧
        (newData p.dir m sub desc).data = ⟨m.frameOffset.toNat, desc.submoduleDataLength.toNat⟩ ∧
        (newData p.dir m sub desc).iops =
          ⟨m.frameOffset.toNat + desc.submoduleDataLength.toNat, desc.lengthIops.toNat⟩)
    (hiocs : ∀ m ∈ p.iocsMentions, ∃ sub desc,
      descriptorOf expApis p.dir .PF_DEV_STATUS_TYPE_IOCS m = some (sub, desc) ∧
        (newIocs m sub desc).iocs = ⟨m.frameOffset.toNat, desc.lengthIocs.toNat⟩) :
    (x.dataDesc.map IodataObject.total).sum = declaredLength expApis p := by
  have hfirst : p.dataMentions.map (dataLength expApis p.dir) = p.dataMentions.map fun m =>
      match descriptorOf expApis p.dir .PF_DEV_STATUS_TYPE_IOPS m with
      | none => 0
      | some (_, desc) => desc.submoduleDataLength.toNat + desc.lengthIops.toNat := by
    apply List.map_congr_left
    intro m hm
    rcases hdata m hm with ⟨sub, desc, hfound, hd, hi⟩
    rw [dataLength, hfound]
    dsimp only
    rw [newData_total, hd, hi]
  have hsecond : p.iocsMentions.map (iocsLength expApis p.dir) = p.iocsMentions.map fun m =>
      match descriptorOf expApis p.dir .PF_DEV_STATUS_TYPE_IOCS m with
      | none => 0
      | some (_, desc) => desc.lengthIocs.toNat := by
    apply List.map_congr_left
    intro m hm
    rcases hiocs m hm with ⟨sub, desc, hfound, hi⟩
    rw [iocsLength, hfound]
    dsimp only
    rw [newIocs_total, hi]
  rw [h.sum, hfirst, hsecond]
  rfl

theorem exact_of_served (hserved : Served expApis p)
    (hmade : Made expApis p.dir p.dataMentions p.iocsMentions x) (hsound : x.Sound p.cSduLength) :
    Exact expApis p x := by
  have hdata : ∀ m ∈ p.dataMentions, ∃ sub desc,
      descriptorOf expApis p.dir .PF_DEV_STATUS_TYPE_IOPS m = some (sub, desc) ∧
        (newData p.dir m sub desc).data = ⟨m.frameOffset.toNat, desc.submoduleDataLength.toNat⟩ ∧
        (newData p.dir m sub desc).iops =
          ⟨m.frameOffset.toNat + desc.submoduleDataLength.toNat, desc.lengthIops.toNat⟩ := by
    intro m hm
    rcases hserved.data m hm with ⟨sub, desc, hfound, hkept⟩
    exact ⟨sub, desc, hfound, (newData_iff (hmade.bound hsound hm hfound)).mpr hkept⟩
  have hiocs : ∀ m ∈ p.iocsMentions, ∃ sub desc,
      descriptorOf expApis p.dir .PF_DEV_STATUS_TYPE_IOCS m = some (sub, desc) ∧
        (newIocs m sub desc).iocs = ⟨m.frameOffset.toNat, desc.lengthIocs.toNat⟩ := by
    intro m hm
    rcases hserved.iocs m hm with ⟨sub, desc, hfound, hkept⟩
    exact ⟨sub, desc, hfound, newIocs_iff.mpr hkept⟩
  have hsum := hmade.sum_declared hdata hiocs
  have htotal : (x.dataDesc.map IodataObject.total).sum < 2 ^ 16 := hsum ▸ hserved.fits
  constructor
  case unique => exact hmade.unique
  case mentioned => exact hmade.mentioned
  case inUse => exact hmade.inUse
  case data =>
    intro d hd
    refine (hmade.dataOf d hd).imp rfl ?_ id
    rintro m hm _ ⟨sub, desc, hfound, hd, hi⟩
    rcases hdata m hm with ⟨sub', desc', hfound', hd', hi'⟩
    obtain ⟨rfl, rfl⟩ := Prod.mk.inj (Option.some.inj (hfound'.symm.trans hfound))
    exact ⟨_, _, hfound, hd.trans hd', hi.trans hi'⟩
  case iocs =>
    intro d hd
    refine (hmade.iocsOf d hd).imp rfl ?_ id
    rintro m hm _ ⟨sub, desc, hfound, hi⟩
    rcases hiocs m hm with ⟨sub', desc', hfound', hi'⟩
    obtain ⟨rfl, rfl⟩ := Prod.mk.inj (Option.some.inj (hfound'.symm.trans hfound))
    exact ⟨_, _, hfound, hi.trans hi'⟩
  case inLength =>
    intro hdir
    rw [hmade.inLength hdir, BitVec.toNat_ofNat, Nat.mod_eq_of_lt htotal]
  case outLength =>
    intro hdir
    rw [hmade.outLength hdir, BitVec.toNat_ofNat, Nat.mod_eq_of_lt htotal]

/-- The submodules of an exact table have been found. -/
theorem Exact.found (h : Exact expApis p x) :
    Found expApis p.dir .PF_DEV_STATUS_TYPE_IOPS p.dataMentions ∧
      Found expApis p.dir .PF_DEV_STATUS_TYPE_IOCS p.iocsMentions := by
  constructor
  · intro m hm
    rcases (h.mentioned m.location).mpr ⟨m, List.mem_append_left _ hm, rfl⟩ with ⟨d, hd, hloc⟩
    rcases (h.data d hd).of_mem m hm hloc.symm with ⟨sub, desc, hfound, _⟩
    exact ⟨sub, desc, hfound⟩
  · intro m hm
    rcases (h.mentioned m.location).mpr ⟨m, List.mem_append_right _ hm, rfl⟩ with ⟨d, hd, hloc⟩
    rcases (h.iocs d hd).of_mem m hm hloc.symm with ⟨sub, desc, hfound, _⟩
    exact ⟨sub, desc, hfound⟩

theorem served_of_exact (h : Exact expApis p x)
    (hmade : Made expApis p.dir p.dataMentions p.iocsMentions x) (hsound : x.Sound p.cSduLength) :
    Served expApis p := by
  have hdata : ∀ m ∈ p.dataMentions, ∃ sub desc,
      descriptorOf expApis p.dir .PF_DEV_STATUS_TYPE_IOPS m = some (sub, desc) ∧
        (newData p.dir m sub desc).data = ⟨m.frameOffset.toNat, desc.submoduleDataLength.toNat⟩ ∧
        (newData p.dir m sub desc).iops =
          ⟨m.frameOffset.toNat + desc.submoduleDataLength.toNat, desc.lengthIops.toNat⟩ := by
    intro m hm
    rcases (h.mentioned m.location).mpr ⟨m, List.mem_append_left _ hm, rfl⟩ with ⟨d, hd, hloc⟩
    rcases (h.data d hd).of_mem m hm hloc.symm with ⟨sub, desc, hfound, hd', hi'⟩
    rcases (hmade.dataOf d hd).of_mem m hm hloc.symm with ⟨sub', desc', hfound', hd'', hi''⟩
    obtain ⟨rfl, rfl⟩ := Prod.mk.inj (Option.some.inj (hfound'.symm.trans hfound))
    exact ⟨_, _, hfound, hd''.symm.trans hd', hi''.symm.trans hi'⟩
  have hiocs : ∀ m ∈ p.iocsMentions, ∃ sub desc,
      descriptorOf expApis p.dir .PF_DEV_STATUS_TYPE_IOCS m = some (sub, desc) ∧
        (newIocs m sub desc).iocs = ⟨m.frameOffset.toNat, desc.lengthIocs.toNat⟩ := by
    intro m hm
    rcases (h.mentioned m.location).mpr ⟨m, List.mem_append_right _ hm, rfl⟩ with ⟨d, hd, hloc⟩
    rcases (h.iocs d hd).of_mem m hm hloc.symm with ⟨sub, desc, hfound, hi'⟩
    rcases (hmade.iocsOf d hd).of_mem m hm hloc.symm with ⟨sub', desc', hfound', hi''⟩
    obtain ⟨rfl, rfl⟩ := Prod.mk.inj (Option.some.inj (hfound'.symm.trans hfound))
    exact ⟨_, _, hfound, hi''.symm.trans hi'⟩
  constructor
  case data =>
    intro m hm
    rcases hdata m hm with ⟨sub, desc, hfound, hkept⟩
    exact ⟨sub, desc, hfound, (newData_iff (hmade.bound hsound hm hfound)).mp hkept⟩
  case iocs =>
    intro m hm
    rcases hiocs m hm with ⟨sub, desc, hfound, hkept⟩
    exact ⟨sub, desc, hfound, newIocs_iff.mp hkept⟩
  case fits =>
    rw [← hmade.sum_declared hdata hiocs]
    by_cases hinput : p.dir = PF_DIRECTION_INPUT
    · rw [← h.inLength hinput]
      exact x.inLength.isLt
    · have houtput : p.dir = PF_DIRECTION_OUTPUT := by
        unfold IocrParam.dir at hinput ⊢
        split_ifs at hinput ⊢
        · exact absurd rfl hinput
        · rfl
      rw [← h.outLength houtput]
      exact x.outLength.isLt

end

/-- The table of an accepted CR is exact if and only if the CR is served. -/
theorem layoutOf_exact_iff {minDeviceInterval : ℕ} {ar : ArParam} {expApis : List ExpApi}
    {iocrs : List IocrParam} {stat : PnetResult} {p : IocrParam}
    (haccepted : acceptsIocrs minDeviceInterval ar expApis iocrs stat = true) (hp : p ∈ iocrs)
    (hapis : p.apis.length ≤ PNET_MAX_API) :
    Exact expApis p (layoutOf expApis p) ↔ Served expApis p := by
  rcases nodup_of_accepts haccepted hp hapis with ⟨honce, honce'⟩
  have hsound := sound_of_accepts haccepted hp
  constructor
  · intro h
    rcases h.found with ⟨hdata, hiocs⟩
    exact served_of_exact h (layoutOf_made hdata hiocs honce honce') hsound
  · intro h
    have hdata : Found expApis p.dir .PF_DEV_STATUS_TYPE_IOPS p.dataMentions := by
      intro m hm
      rcases h.data m hm with ⟨sub, desc, hfound, _⟩
      exact ⟨sub, desc, hfound⟩
    have hiocs : Found expApis p.dir .PF_DEV_STATUS_TYPE_IOCS p.iocsMentions := by
      intro m hm
      rcases h.iocs m hm with ⟨sub, desc, hfound, _⟩
      exact ⟨sub, desc, hfound⟩
    exact exact_of_served h (layoutOf_made hdata hiocs honce honce') hsound

end PNet.Connect.Layout

namespace PNet.Connect

open Cyclic Rpc

/-! ## The expected submodules -/

def faultyExp (fails : Bool) (errorCode2 : Byte) : Test :=
  ⟨fails, PNET_ERROR_CODE_1_CONN_FAULTY_EXP_BLOCK_REQ, errorCode2⟩

/-- The tests of `pf_cmdev_exp_submodule_configure` for one data descriptor. -/
def DataDescriptor.tests (type : Byte) (d : DataDescriptor) : List Test :=
  [ faultyExp (d.dataDirection ≠ PF_DIRECTION_INPUT ∧ d.dataDirection ≠ PF_DIRECTION_OUTPUT) 13,
    faultyExp (d.dataDirection = PF_DIRECTION_INPUT ∧ type = PNET_DIR_OUTPUT) 13,
    faultyExp (d.dataDirection = PF_DIRECTION_OUTPUT ∧ type ≠ PNET_DIR_OUTPUT ∧ type ≠ PNET_DIR_IO)
      13,
    faultyExp (1439 < d.submoduleDataLength ∨ type = PNET_DIR_NO_IO ∧ d.submoduleDataLength ≠ 0) 14,
    faultyExp (d.lengthIops ≠ 1) 15,
    faultyExp (d.lengthIocs ≠ 1) 16 ]

namespace ExpSubmodule

/-- One of the descriptors has the direction. -/
def hasDirection (sub : ExpSubmodule) (direction : BitVec 16) : Bool :=
  sub.dataDescriptor.any fun d => d.dataDirection = direction

/-- The descriptors are not those that the type asks for. -/
def wrongDescriptors (sub : ExpSubmodule) : Bool :=
  let type := sub.submoduleProperties.type
  let one (direction : BitVec 16) : Bool :=
    sub.dataDescriptor.length = 1 && sub.hasDirection direction
  ((type = PNET_DIR_NO_IO || type = PNET_DIR_INPUT) && !one PF_DIRECTION_INPUT) ||
    (type = PNET_DIR_OUTPUT && !one PF_DIRECTION_OUTPUT) ||
    (type = PNET_DIR_IO && !(sub.dataDescriptor.length = 2 &&
      sub.hasDirection PF_DIRECTION_INPUT && sub.hasDirection PF_DIRECTION_OUTPUT))

/-- The tests of `pf_cmdev_exp_submodule_configure` for the submodule itself. The subslot is `plugged`,
after the application has been asked to plug it. -/
def tests (plugged : Bool) (api : BitVec 32) (sub : ExpSubmodule) : List Test :=
  let properties := sub.submoduleProperties
  let type := properties.type
  [ faultyExp (0x9FFF < sub.subslotNumber) 10,
    faultyExp (!plugged) 10,
    faultyExp (PNET_SUBSLOT_DAP_INTERFACE_1_IDENT ≤ sub.subslotNumber ∧ api ≠ 0) 10,
    faultyExp sub.wrongDescriptors 12,
    faultyExp (type = PNET_DIR_OUTPUT ∧ properties.sharedInput = true) 12,
    faultyExp (properties.reduceInputSubmoduleDataLength = true ∧
      (type = PNET_DIR_INPUT ∨ type = PNET_DIR_IO)) 12,
    faultyExp (properties.reduceOutputSubmoduleDataLength = true ∧
      (type = PNET_DIR_OUTPUT ∨ type = PNET_DIR_IO)) 12,
    faultyExp (properties.discardIoxs = true ∧ type ≠ PNET_DIR_IO) 12 ]

/-- The submodule passes all tests. -/
def accepted (plugged : Bool) (api : BitVec 32) (sub : ExpSubmodule) : Bool :=
  (firstFailure (sub.tests plugged api)).isNone &&
    sub.dataDescriptor.all fun d => (firstFailure (d.tests sub.submoduleProperties.type)).isNone

end ExpSubmodule

/-! ## A submodule that discards IOPS and IOCS -/

namespace DescriptorsRun

/-- Four bytes in and two bytes out. -/
def sub (discardIoxs : Bool) : ExpSubmodule where
  subslotNumber := 1
  submoduleIdentNumber := 1
  submoduleProperties := ⟨ PNET_DIR_IO, false, false, false, discardIoxs⟩
  dataDescriptor := [⟨PF_DIRECTION_INPUT, 4, 1, 1⟩, ⟨PF_DIRECTION_OUTPUT, 2, 1, 1⟩]

def expApis (discardIoxs : Bool) : List ExpApi := [⟨0, [⟨1, 1, 0, [sub discardIoxs]⟩]⟩]

def iocr : IocrParam :=
  { TimingRun.iocr 32 1 3 with apis := [⟨0, [⟨1, 1, 0⟩], [⟨1, 1, 10⟩]⟩] }

end DescriptorsRun

open DescriptorsRun in
/-- Data, IOPS and IOCS of an input and output submodule. -/
theorem exact_plain : (layoutOf (expApis false) iocr).dataDesc =
      [⟨true, ⟨0, 1, 1⟩, 0, 4, 4, 1, 10, 1⟩] ∧
    Layout.Exact (expApis false) iocr (layoutOf (expApis false) iocr) := by
  refine ⟨by decide +kernel, ?_⟩
  have haccepted : acceptsIocrs 32 TimingRun.ar (expApis false) [iocr] noError = true := by
    decide +kernel
  apply (Layout.layoutOf_exact_iff haccepted List.mem_cons_self le_rfl).mpr
  refine ⟨?_, ?_, by decide +kernel⟩
  · refine List.forall_mem_singleton.mpr ⟨sub false, ⟨PF_DIRECTION_INPUT, 4, 1, 1⟩, rfl, ?_, ?_⟩
    · exact fun h => absurd h (by decide +kernel)
    · exact fun h => Bool.noConfusion h
  · refine List.forall_mem_singleton.mpr ⟨sub false, ⟨PF_DIRECTION_OUTPUT, 2, 1, 1⟩, rfl, ?_⟩
    exact fun h => Bool.noConfusion h

open DescriptorsRun in
/-- The request is accepted with such a submodule, whose data then have no bytes in the frame. -/
theorem not_exact_discard :
    (sub true).accepted true 0 = true ∧
    acceptsIocrs 32 TimingRun.ar (expApis true) [iocr] noError = true ∧
    (layoutOf (expApis true) iocr).dataDesc = [⟨true, ⟨0, 1, 1⟩, 0, 0, 0, 0, 0, 0⟩] ∧
    ¬Layout.Exact (expApis true) iocr (layoutOf (expApis true) iocr) := by
  have htable : (layoutOf (expApis true) iocr).dataDesc = [⟨true, ⟨0, 1, 1⟩, 0, 0, 0, 0, 0, 0⟩] := by
    decide +kernel
  refine ⟨by decide +kernel, by decide +kernel, htable, fun h => ?_⟩
  have hmem : (⟨true, ⟨0, 1, 1⟩, 0, 0, 0, 0, 0, 0⟩ : IodataObject) ∈
      (layoutOf (expApis true) iocr).dataDesc := by
    rw [htable]
    exact List.mem_cons_self
  rcases (h.data _ hmem).of_mem ⟨⟨0, 1, 1⟩, 0⟩ List.mem_cons_self rfl with
    ⟨_, desc, hfound, hdata, _⟩
  have hdesc : desc = ⟨PF_DIRECTION_INPUT, 4, 1, 1⟩ :=
    ((Prod.mk.inj (Option.some.inj hfound)).2).symm
  rw [hdesc] at hdata
  exact absurd hdata (by decide +kernel)

end PNet.Connect
