import PNet.Connect.CheckPeers

/-! # Requests that fit into the arrays

A connect request, and the record for the check of a port, stay inside the arrays if and only if
the counts fit that they announce and that no reader looks at: the APIs of an IOCR, the IO data
objects and IOCS of such an API, the submodules of a module, the length of a station name.
-/

namespace PNet.Connect

open Block Rpc

/-! ## The counts of a request -/

/-- The counts that no reader compares with a size. -/
def Fits (iocrs : List IocrParam) (expApis : List ExpApi) : Prop :=
  (∀ p ∈ iocrs, p.apis.length ≤ PNET_MAX_API ∧
      ∀ v ∈ p.apis, v.ioData.length ≤ PNET_MAX_SLOTS * PNET_MAX_SUBSLOTS ∧
        v.iocs.length ≤ PNET_MAX_SLOTS * PNET_MAX_SUBSLOTS) ∧
    ∀ x ∈ expApis, ∀ m ∈ x.modules, m.submodules.length ≤ PNET_MAX_SUBSLOTS

/-- The counts that the readers do compare. -/
structure Bounded (iocrs : List IocrParam) (expApis : List ExpApi) : Prop where
  iocrs_le : iocrs.length ≤ PNET_MAX_CR
  expApis_le : expApis.length ≤ PNET_MAX_API
  modules_le : ∀ x ∈ expApis, x.modules.length ≤ PNET_MAX_SLOTS
  descriptors_le : ∀ x ∈ expApis, ∀ m ∈ x.modules, ∀ v ∈ m.submodules, v.dataDescriptor.length ≤ 2

theorem elim_le {α : Type} {x : Option α} {f : α → ℕ} {n : ℕ} (h : ∀ v, x = some v → f v ≤ n) :
    x.elim 0 f ≤ n := by
  rcases x with _ | v
  · exact Nat.zero_le _
  · exact h v rfl

theorem mem_of_bind {α β : Type} {x : Option α} {l : α → List β} {i : ℕ} {v : β}
    (h : (x.bind fun y => (l y)[i]?) = some v) : ∃ y, x = some y ∧ v ∈ l y := by
  rcases Option.bind_eq_some_iff.mp h with ⟨y, hy, hv⟩
  exact ⟨y, hy, List.mem_of_getElem? hv⟩

/-- All arrays are large enough if the counts fit. -/
theorem sizeIn_le_iff {iocrs : List IocrParam} {expApis : List ExpApi}
    (h : Bounded iocrs expApis) :
    (∀ a, sizeIn iocrs expApis a ≤ a.size) ↔ Fits iocrs expApis := by
  constructor
  · intro hsize
    refine ⟨fun p hp => ?_, fun x hx m hm => ?_⟩
    · rcases List.mem_iff_getElem?.mp hp with ⟨cr, hcr⟩
      constructor
      · have happs := hsize (.crApis cr)
        simp only [sizeIn, hcr] at happs
        exact happs
      · intro v hv
        rcases List.mem_iff_getElem?.mp hv with ⟨i, hi⟩
        have hdata := hsize (.ioData cr i)
        have hiocs := hsize (.iocs cr i)
        simp only [sizeIn, hcr, Option.bind, hi] at hdata hiocs
        exact ⟨hdata, hiocs⟩
    · rcases List.mem_iff_getElem?.mp hx with ⟨i, hi⟩
      rcases List.mem_iff_getElem?.mp hm with ⟨j, hj⟩
      have hsub := hsize (.submodules i j)
      simp only [sizeIn, hi, Option.bind, hj] at hsub
      exact hsub
  · rintro ⟨hcrs, hmods⟩ a
    cases a with
    | iocrs => exact h.iocrs_le
    | crApis cr => exact elim_le fun p hp => (hcrs p (List.mem_of_getElem? hp)).1
    | ioData cr i =>
      apply elim_le
      intro v hv
      rcases mem_of_bind hv with ⟨p, hp, hmem⟩
      exact ((hcrs p (List.mem_of_getElem? hp)).2 v hmem).1
    | iocs cr i =>
      apply elim_le
      intro v hv
      rcases mem_of_bind hv with ⟨p, hp, hmem⟩
      exact ((hcrs p (List.mem_of_getElem? hp)).2 v hmem).2
    | expApis => exact h.expApis_le
    | modules i => exact elim_le fun x hx => h.modules_le x (List.mem_of_getElem? hx)
    | submodules i j =>
      apply elim_le
      intro m hm
      rcases mem_of_bind hm with ⟨x, hx, hmem⟩
      exact hmods x (List.mem_of_getElem? hx) m hmem
    | dataDescriptor i j k =>
      apply elim_le
      intro v hv
      rcases mem_of_bind hv with ⟨m, hm, hmem⟩
      rcases mem_of_bind hm with ⟨x, hx, hmem'⟩
      exact h.descriptors_le x (List.mem_of_getElem? hx) m hmem' v hmem
    | _ => exact Nat.zero_le _

/-! ## The counts that are compared -/

theorem getExpSubmodule_le : Yields (fun v => v.dataDescriptor.length ≤ 2) getExpSubmodule := by
  apply Yields.bind
  intro subslotNumber
  apply Yields.bind
  intro ident
  apply Yields.bind
  intro properties
  apply Yields.bind
  intro first r
  split
  · exact le_rfl
  · exact Nat.le_succ _

theorem getExpModule_le (slotNumber : BitVec 16) :
    Yields (fun m => ∀ v ∈ m.submodules, v.dataDescriptor.length ≤ 2)
      (getExpModule slotNumber) := by
  apply Yields.bind
  intro fixed r
  exact forall_mem_getTimes getExpSubmodule_le fixed.2 r

variable {iocrs : List IocrParam} {expApis : List ExpApi}

/-- "Allocate a new API" looks for room. -/
theorem bounded_place {st : ExpState} (h : Bounded iocrs st.expApis) (api : BitVec 32) :
    Bounded iocrs (placeExpApi st api).expApis := by
  unfold placeExpApi
  dsimp only
  split
  · rename_i hroom
    refine ⟨h.iocrs_le, ?_, ?_, ?_⟩
    · rw [List.length_append]
      exact hroom.2
    · intro x hx
      rcases List.mem_append.mp hx with hx | hx
      · exact h.modules_le x hx
      · rw [List.mem_singleton.mp hx]
        exact Nat.zero_le _
    · intro x hx
      rcases List.mem_append.mp hx with hx | hx
      · exact h.descriptors_le x hx
      · rw [List.mem_singleton.mp hx]
        intro m hm
        cases hm
  · exact h

theorem mem_addModule {i : ℕ} {m : ExpModule} {x : ExpApi} (hx : x ∈ addModule expApis i m) :
    x ∈ expApis ∨ ∃ y, expApis[i]? = some y ∧ x = { y with modules := y.modules ++ [m] } := by
  rcases List.mem_iff_getElem?.mp hx with ⟨i', hi'⟩
  rw [getElem?_addModule] at hi'
  split at hi'
  · rename_i hi
    subst hi
    rcases Option.map_eq_some_iff.mp hi' with ⟨y, hy, rfl⟩
    exact .inr ⟨y, hy, rfl⟩
  · exact .inl (List.mem_of_getElem? hi')

/-- "Get a new module" looks for room. -/
theorem bounded_addModule (h : Bounded iocrs expApis) {i : ℕ}
    (hroom : modulesAt expApis i < PNET_MAX_SLOTS) {m : ExpModule}
    (hm : ∀ v ∈ m.submodules, v.dataDescriptor.length ≤ 2) :
    Bounded iocrs (addModule expApis i m) := by
  refine ⟨h.iocrs_le, ?_, ?_, ?_⟩
  · rw [addModule_length]
    exact h.expApis_le
  · intro x hx
    rcases mem_addModule hx with hx | ⟨y, hy, rfl⟩
    · exact h.modules_le x hx
    · have hat : modulesAt expApis i = y.modules.length := by
        rw [modulesAt, hy]
        rfl
      rw [List.length_append]
      exact hat ▸ hroom
  · intro x hx
    rcases mem_addModule hx with hx | ⟨y, hy, rfl⟩
    · exact h.descriptors_le x hx
    · intro m' hm'
      rcases List.mem_append.mp hm' with hm' | hm'
      · exact h.descriptors_le y (List.mem_of_getElem? hy) m' hm'
      · rw [List.mem_singleton.mp hm']
        exact hm

theorem bounded_expSlot {placed : ExpState} (h : Bounded iocrs placed.expApis) :
    Yields (fun st => Bounded iocrs st.expApis) (getExpSlot placed) := by
  rcases placed with ⟨expApis, _ | i⟩
  · exact fun r => h
  · apply Yields.bind
    intro slotNumber
    dsimp only
    split
    · rename_i hroom
      intro r
      exact bounded_addModule h hroom (getExpModule_le slotNumber r)
    · exact fun r => h

theorem bounded_expEntries (n : ℕ) {st : ExpState} (h : Bounded iocrs st.expApis) :
    Yields (fun st' => Bounded iocrs st'.expApis) (getExpEntries n st) := by
  induction n generalizing st with
  | zero => exact fun r => h
  | succ n ih =>
    intro r
    have hentry : Bounded iocrs (getExpEntry st r).1.expApis :=
      bounded_expSlot (bounded_place h _) _
    exact ih hentry (getExpEntry st r).2

theorem bounded_expApiModule (h : Bounded iocrs expApis) :
    Yields (fun expApis' => Bounded iocrs expApis') (getExpApiModule expApis) := by
  apply Yields.bind
  intro n r
  exact bounded_expEntries _ h r

/-- A block keeps the counts that are compared. -/
theorem bounded_block (header : BlockHeader) {st : ConnectState}
    (h : Bounded st.ar.iocrs st.ar.expApis) (hcounted : st.ar.iocrs.length = st.ar.nbrIocrs) :
    Bounded (arraysAfter header st).1 (arraysAfter header st).2 := by
  unfold arraysAfter
  split
  · split
    · rename_i hroom
      refine ⟨?_, h.expApis_le, h.modules_le, h.descriptors_le⟩
      rw [List.length_append, hcounted]
      exact hroom
    · exact h
  · split
    · exact bounded_expApiModule h _
    · exact h

/-- The blocks of a request keep the counts that are compared. -/
theorem bounded_blocks (fuel : ℕ) {st : ConnectState} (hcounted : st.CrsCounted)
    (h : Bounded st.ar.iocrs st.ar.expApis) :
    Bounded (connectBlocks fuel st).2.1.ar.iocrs (connectBlocks fuel st).2.1.ar.expApis := by
  induction fuel generalizing st with
  | zero => exact h
  | succ fuel ih =>
    unfold connectBlocks
    by_cases hloop : st.ok ∧ st.reader.info.result = .PF_PARSE_OK ∧
        st.reader.pos + blockHeaderSize ≤ st.reader.info.len
    · rw [if_pos hloop]
      generalize getBlockHeader st.reader = result
      rcases result with ⟨header, reader⟩
      dsimp only
      by_cases hfits : blockFits header reader = true
      · rw [if_pos hfits]
        have hblock := @bounded_block header { st with reader } h (hcounted hloop.1)
        rcases readBlock_arrays header { st with reader } with ⟨harrays, hnext⟩
        rw [← harrays] at hblock
        exact @ih { readBlock header { st with reader } with firstBlock := false }
          (hnext hcounted hloop.1) hblock
      · rw [if_neg hfits]
        exact h
    · rw [if_neg hloop]
      exact h

/-! ## A connect request -/

/-- The checks behind the loop do not touch the AR. -/
theorem rmConnectInterpretInd_eq (argsLength : BitVec 32) (stat : PnetResult) (start : Reader) :
    let loop := connectBlocks (start.info.len + 1) ⟨allocatedAr, stat, start, true, true⟩
    (rmConnectInterpretInd argsLength stat start).1 = loop.1 ∧
      (rmConnectInterpretInd argsLength stat start).2.ar = loop.2.1.ar := by
  unfold rmConnectInterpretInd
  generalize connectBlocks (start.info.len + 1) ⟨allocatedAr, stat, start, true, true⟩ = loop
  rcases loop with ⟨blocks, st, returned⟩
  dsimp only
  split
  · exact ⟨rfl, rfl⟩
  split
  · exact ⟨rfl, rfl⟩
  split
  · exact ⟨rfl, rfl⟩
  split
  · exact ⟨rfl, rfl⟩
  · exact ⟨rfl, rfl⟩

/-- What the request asks for fits. -/
def RequestFits (argsLength : BitVec 32) (stat : PnetResult) (start : Reader) : Prop :=
  Fits (rmConnectInterpretInd argsLength stat start).2.ar.iocrs
    (rmConnectInterpretInd argsLength stat start).2.ar.expApis

theorem sizeIn_nil (a : ArrayRef) : sizeIn [] [] a = 0 := by
  cases a <;> rfl

/-- The stores of a request, and its counts. -/
theorem connectTrace_adds (argsLength : BitVec 32) (stat : PnetResult) (start : Reader) :
    Adds (connectTrace argsLength stat start) (sizeIn [] [])
      (sizeIn (rmConnectInterpretInd argsLength stat start).2.ar.iocrs
        (rmConnectInterpretInd argsLength stat start).2.ar.expApis) := by
  rcases rmConnectInterpretInd_eq argsLength stat start with ⟨hblocks, har⟩
  rw [connectTrace, hblocks, har]
  exact adds_blocks _ fun _ => rfl

theorem request_bounded (argsLength : BitVec 32) (stat : PnetResult) (start : Reader) :
    Bounded (rmConnectInterpretInd argsLength stat start).2.ar.iocrs
      (rmConnectInterpretInd argsLength stat start).2.ar.expApis := by
  rw [(rmConnectInterpretInd_eq argsLength stat start).2]
  apply bounded_blocks _ fun _ => rfl
  refine ⟨Nat.zero_le _, Nat.zero_le _, ?_, ?_⟩
  · intro x hx
    cases hx
  · intro x hx
    cases hx

theorem connectTrace_stores (argsLength : BitVec 32) (stat : PnetResult) (start : Reader)
    (a : ArrayRef) :
    storesIn a (connectTrace argsLength stat start) =
      List.range (sizeIn (rmConnectInterpretInd argsLength stat start).2.ar.iocrs
        (rmConnectInterpretInd argsLength stat start).2.ar.expApis a) := by
  rcases connectTrace_adds argsLength stat start a with ⟨-, hstores, -⟩
  rw [hstores, sizeIn_nil, Nat.sub_zero, List.range_eq_range']

theorem connectTrace_counted (argsLength : BitVec 32) (stat : PnetResult) (start : Reader)
    {a : ArrayRef} (ha : a ≠ .iocrs) : Counted (connectTrace argsLength stat start) a := by
  rcases connectTrace_adds argsLength stat start a with ⟨-, -, hcounts⟩
  rw [Counted, connectTrace_stores, ← hcounts ha, sizeIn_nil]

theorem connectTrace_staysInside_iff (argsLength : BitVec 32) (stat : PnetResult)
    (start : Reader) :
    StaysInside (connectTrace argsLength stat start) ↔ RequestFits argsLength stat start := by
  rw [RequestFits, ← sizeIn_le_iff (request_bounded argsLength stat start), staysInside_iff]
  constructor
  · intro h a
    have hlast := h a
    rw [connectTrace_stores] at hlast
    by_contra hlt
    exact absurd (hlast _ (List.mem_range.mpr (by omega : a.size < _))) (Nat.lt_irrefl _)
  · intro h a ix hix
    rw [connectTrace_stores] at hix
    exact (List.mem_range.mp hix).trans_le (h a)

/-! ## Requests and records -/

/-- A request of one IOCR block, which announces two APIs. -/
def twoApisRequest : List Byte :=
  [0x01, 0x02, 0, 58, 1, 0] ++ List.replicate 38 0 ++ [0, 2] ++ List.replicate 16 0

/-- A check of a peer whose station name has 241 characters. -/
def longNameRecord : List Byte :=
  [0, 0, 0, 0, 0x80, 0x01, 0x02, 0x0a, 0, 247, 1, 0, 1, 0, 241] ++ List.replicate 241 0x61

/-- A request stays inside the arrays of the AR, with the counts of what it stores, if and only if
the counts fit that nobody compares; and a record for the check of a port does if its station names
fit. -/
theorem arrays_stay_inside_iff (argsLength : BitVec 32) (stat : PnetResult) (start : Reader)
    (bytes : ℕ → Byte) (dataLength : ℕ) :
    ((StaysInside (connectTrace argsLength stat start) ∧
        ∀ a, a ≠ .iocrs → Counted (connectTrace argsLength stat start) a) ↔
      RequestFits argsLength stat start) ∧
      ((StaysInside (recordTrace bytes dataLength) ∧ RecordCounted bytes dataLength) ↔
        RecordFits bytes dataLength) := by
  constructor
  · rw [connectTrace_staysInside_iff]
    constructor
    · rintro ⟨hfits, -⟩
      exact hfits
    · intro hfits
      exact ⟨hfits, fun a ha => connectTrace_counted argsLength stat start ha⟩
  · rw [recordTrace_staysInside_iff]
    constructor
    · rintro ⟨hfits, -⟩
      exact hfits
    · intro hfits
      exact ⟨hfits, recordCounted bytes dataLength⟩

/-- The second API of an IOCR, and the terminator of a long name, are stored behind the ends of
their arrays. -/
theorem arrays_left :
    (¬ StaysInside (connectTrace 62 noError (recordReader (twoApisRequest.getD · 0) 62))) ∧
      ¬ StaysInside (recordTrace (longNameRecord.getD · 0) 256) := by
  constructor
  · intro h
    have hmem : Event.store (.crApis 0) 1 ∈
        connectTrace 62 noError (recordReader (twoApisRequest.getD · 0) 62) := by
      decide +kernel
    exact absurd (h _ hmem) (Nat.lt_irrefl _)
  · intro h
    have hmem : Event.store (.peerStationName 0) 241 ∈
        recordTrace (longNameRecord.getD · 0) 256 := by
      decide +kernel
    exact absurd (h _ hmem) (Nat.lt_irrefl _)

end PNet.Connect
