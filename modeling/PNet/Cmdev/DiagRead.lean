import Mathlib.Algebra.Order.BigOperators.Group.List
import Mathlib.Data.List.Dedup
import PNet.Cmdev.DiagRecord

/-! # What a diagnosis record shows

A record shows the diagnosis exactly when it is a sequence of blocks whose items are those in
scope that the filter stands for, each once, under the numbers of their own submodule.

The items with the USIs 0 and `UINT16_MAX` are never found, a qualified diagnosis is never
selected by its severity, the API number is cut to 16 bits, and a block that does not fit is cut.
-/

namespace PNet.Cmdev

open Block Rpc

/-! ## What is stored -/

/-- A stored diagnosis and its submodule. -/
abbrev Entry := SubslotPos × DiagItem

namespace Entry

/-- What the diagnoses of one block share. -/
def key (x : Entry) : SubslotPos × BitVec 16 := (x.1, x.2.usi)

def bytes (e : Bool) (x : Entry) : List Byte := itemBytes e x.2

end Entry

/-- The diagnoses that a filter stands for: manufacturer specific ones have no severity, the
severity of a qualified one is in its qualifier. -/
def DiagFilterLevel.selects (diagFilter : DiagFilterLevel) (item : DiagItem) : Bool :=
  let manufacturerSpecific : Bool := item.usi < PF_USI_CHANNEL_DIAGNOSIS
  match diagFilter with
  | .PF_DIAG_FILTER_FAULT_STD => !manufacturerSpecific
  | .PF_DIAG_FILTER_FAULT_ALL => manufacturerSpecific || item.isStdFault
  | .PF_DIAG_FILTER_ALL => true
  | .PF_DIAG_FILTER_M_REQ => manufacturerSpecific ||
      item.hasSeverity .PNET_DIAG_CH_PROP_MAINT_REQUIRED PF_DIAG_QUALIFIER_MASK_REQUIRED
  | .PF_DIAG_FILTER_M_DEM => manufacturerSpecific ||
      item.hasSeverity .PNET_DIAG_CH_PROP_MAINT_DEMANDED PF_DIAG_QUALIFIER_MASK_DEMANDED

theorem selects_of_inserts {diagFilter : DiagFilterLevel} {item : DiagItem}
    (h : diagFilter.inserts item = true) : diagFilter.selects item = true := by
  cases diagFilter with
  | PF_DIAG_FILTER_FAULT_STD =>
    have hle : PF_USI_CHANNEL_DIAGNOSIS ≤ item.usi := of_decide_eq_true h
    simp only [DiagFilterLevel.selects, Bool.not_eq_true', decide_eq_false_iff_not, not_lt]
    exact BitVec.not_lt.mpr hle
  | PF_DIAG_FILTER_ALL => rfl
  | PF_DIAG_FILTER_FAULT_ALL | PF_DIAG_FILTER_M_REQ | PF_DIAG_FILTER_M_DEM =>
    rcases of_decide_eq_true h with hlt | hmaint
    · simp [DiagFilterLevel.selects, hlt]
    · simp [DiagFilterLevel.selects, DiagItem.isStdFault, DiagItem.hasSeverity, hmaint]

namespace Device

variable (d : Device) (e : Bool) (r : DiagRead) (resLen : ℕ) (w : Writer)

def entriesAt (q : SubslotPos) : List Entry :=
  if InScope d r q then ((itemsAt d q).filter r.diagFilter.selects).map fun item => (q, item)
  else []

/-- The diagnoses in scope that the filter stands for. -/
def entries : List Entry := subslotPositions.flatMap (entriesAt d r)

/-! ## Exact records -/

/-- Diagnoses of one submodule with one USI. -/
structure DiagBlock where
  place : SubslotPos
  usi : BitVec 16
  items : List DiagItem

/-- The block under the numbers of its submodule. -/
def DiagBlock.raw (b : DiagBlock) : RawBlock where
  apiId := (d.apis b.place.1).apiId
  slotNbr := (d.slots (b.place.1, b.place.2.1)).slotNbr
  subslotNbr := (d.subslots b.place).subslotNbr
  usi := b.usi
  data := b.items.flatMap (itemBytes e)

def DiagBlock.entries (b : DiagBlock) : List Entry := b.items.map fun item => (b.place, item)

/-- The bytes are blocks that show exactly the diagnoses. -/
def Shows (bytes : List Byte) : Prop :=
  ∃ blocks : List DiagBlock, (∀ b ∈ blocks, ∀ item ∈ b.items, item.usi = b.usi) ∧
    bytes = blocks.flatMap (fun b => (b.raw d e).bytes e) ∧
    (blocks.flatMap DiagBlock.entries).Perm (entries d r)

/-- The lists in scope end. -/
def ListsEnd : Prop := ∀ q, InScope d r q → (d.diagItemsOf q).isSome

/-- The record that is put behind `w` shows exactly the diagnoses. -/
def ReadsExactly : Prop :=
  ListsEnd d r ∧ ∃ w', putDiagData d e r resLen w = some w' ∧
    Shows d e r (Buffer.slice w'.bytes w.pos (w'.pos - w.pos))

/-! ## Diagnoses that are shown -/

/-- The bytes of the smallest record with these diagnoses. -/
def recordLength (xs : List Entry) : ℕ :=
  20 * (xs.map Entry.key).dedup.length + (xs.map fun x => (x.bytes e).length).sum

/-- What it takes for a diagnosis to be shown. -/
def Shown (x : Entry) : Prop :=
  x.2.usi ≠ 0 ∧ x.2.usi ≠ UINT16_MAX ∧ (d.apis x.1.1).apiId.toNat < 2 ^ 16 ∧ AroundAr d r x.1 ∧
    (x.bytes e ≠ [] → r.diagFilter.inserts x.2 = true) ∧
    ∃ y ∈ entries d r, y.key = x.key ∧ y.bytes e ≠ []

/-- All diagnoses are shown, and there is room for them. -/
def Readable : Prop :=
  ListsEnd d r ∧ (∀ x ∈ entries d r, Shown d e r x) ∧
    recordLength e (entries d r) ≤ resLen - w.pos

variable {d e r resLen w}

/-! ## The smallest record -/

theorem raw_length (b : DiagBlock) :
    ((b.raw d e).bytes e).length = 20 + (b.entries.map fun x => (x.bytes e).length).sum := by
  rw [RawBlock.bytes_length, DiagBlock.raw, DiagBlock.entries, List.map_map, List.length_flatMap]
  rfl

theorem blocks_length (blocks : List DiagBlock) :
    (blocks.flatMap fun b => (b.raw d e).bytes e).length = 20 * blocks.length +
      ((blocks.flatMap DiagBlock.entries).map fun x => (x.bytes e).length).sum := by
  induction blocks with
  | nil => rfl
  | cons b blocks ih =>
    rw [List.flatMap_cons, List.length_append, raw_length, ih, List.flatMap_cons, List.map_append,
      List.sum_append, List.length_cons]
    omega

/-- No exact record is smaller. -/
theorem recordLength_le {blocks : List DiagBlock}
    (husi : ∀ b ∈ blocks, ∀ item ∈ b.items, item.usi = b.usi) {xs : List Entry}
    (hxs : (blocks.flatMap DiagBlock.entries).Perm xs) :
    recordLength e xs ≤ (blocks.flatMap fun b => (b.raw d e).bytes e).length := by
  have hkeys : (xs.map Entry.key).dedup ⊆ blocks.map fun b => (b.place, b.usi) := by
    intro k hk
    rcases List.mem_map.mp (List.mem_dedup.mp hk) with ⟨x, hx, rfl⟩
    rcases List.mem_flatMap.mp (hxs.mem_iff.mpr hx) with ⟨b, hb, hxb⟩
    rcases List.mem_map.mp hxb with ⟨item, hitem, rfl⟩
    refine List.mem_map.mpr ⟨b, hb, ?_⟩
    rw [Entry.key, husi b hb item hitem]
  have hlen := ((List.nodup_dedup _).subperm hkeys).length_le
  rw [List.length_map] at hlen
  have hsum := (hxs.map fun x => (x.bytes e).length).sum_eq
  rw [blocks_length, hsum, recordLength]
  omega

/-! ## The diagnoses that are read -/

variable (d r) in
/-- What the code reads of the diagnoses. -/
def isRead (x : Entry) : Bool :=
  AroundAr d r x.1 ∧ r.diagFilter.inserts x.2 = true ∧ x.2.usi ≠ 0 ∧ x.2.usi ≠ UINT16_MAX

theorem mem_usisAt {q : SubslotPos} {usi : BitVec 16} :
    usi ∈ usisAt d q ↔ (∃ item ∈ itemsAt d q, item.usi = usi) ∧ usi ≠ 0 ∧ usi ≠ UINT16_MAX := by
  rw [usisAt, Ascending.mem_turns, List.mem_map]
  have hzero : BitVec.toNat (0 : BitVec 16) < usi.toNat ↔ usi ≠ 0 := by
    have hval : BitVec.toNat (0 : BitVec 16) = 0 := rfl
    rw [← toNat_injective.ne_iff]
    omega
  have hmax : usi.toNat < UINT16_MAX.toNat ↔ usi ≠ UINT16_MAX := by
    have hlt := usi.isLt
    have hval : UINT16_MAX.toNat = 2 ^ 16 - 1 := rfl
    rw [← toNat_injective.ne_iff]
    omega
  rw [hzero, hmax]

/-- The diagnoses that a call puts. -/
def callEntries (d : Device) (r : DiagRead) (c : SubslotPos × BitVec 16) : List Entry :=
  (inserted r.diagFilter c.2 (itemsAt d c.1)).map fun item => (c.1, item)

theorem callEntries_at (q : SubslotPos) :
    ((callsAt d r q).flatMap (callEntries d r)).Perm ((entriesAt d r q).filter (isRead d r)) := by
  by_cases hv : Visits d r q
  · -- grouped by their USIs, the items are those with the USIs that are found
    have hgroups := Ascending.groups_perm
      (Ascending.turns_nodup 0 : (usisAt d q).Nodup) DiagItem.usi
      ((itemsAt d q).filter fun item => r.diagFilter.inserts item = true ∧ item.usi ≠ 0 ∧
        item.usi ≠ UINT16_MAX) (by
        intro item hitem
        rcases List.mem_filter.mp hitem with ⟨hmem, htest⟩
        exact mem_usisAt.mpr ⟨⟨item, hmem, rfl⟩, (of_decide_eq_true htest).2⟩)
    have hcalls : (callsAt d r q).flatMap (callEntries d r) = ((usisAt d q).flatMap fun usi =>
        ((itemsAt d q).filter fun item => r.diagFilter.inserts item = true ∧ item.usi ≠ 0 ∧
          item.usi ≠ UINT16_MAX).filter fun item => item.usi = usi).map fun item => (q, item) := by
      rw [callsAt, if_pos hv, List.flatMap_map, List.map_flatMap]
      refine List.flatMap_congr fun usi husi => ?_
      rcases mem_usisAt.mp husi with ⟨-, hzero, hmax⟩
      rw [callEntries, inserted, List.filter_filter]
      congr 1
      refine List.filter_congr fun item _ => ?_
      by_cases heq : item.usi = usi
      · have hne : ¬ usi = 0#16 := hzero
        simp [heq, hne, hmax]
      · simp [heq]
    have hentries : (entriesAt d r q).filter (isRead d r) = ((itemsAt d q).filter fun item =>
        r.diagFilter.inserts item = true ∧ item.usi ≠ 0 ∧ item.usi ≠ UINT16_MAX).map
        fun item => (q, item) := by
      rw [entriesAt, if_pos hv.1, List.filter_map, List.filter_filter]
      congr 1
      refine List.filter_congr fun item _ => ?_
      by_cases hins : r.diagFilter.inserts item = true
      · simp [isRead, hv.2, hins, selects_of_inserts hins]
      · simp [isRead, hins]
    rw [hcalls, hentries]
    exact hgroups.map _
  · rw [callsAt_nil hv]
    have hnil : (entriesAt d r q).filter (isRead d r) = [] := by
      rw [entriesAt]
      split
      · rename_i hscope
        refine List.filter_eq_nil_iff.mpr fun x hx => ?_
        rcases List.mem_map.mp hx with ⟨item, -, rfl⟩
        intro hread
        exact hv ⟨hscope, (of_decide_eq_true hread).1⟩
      · rfl
    rw [hnil]
    exact List.Perm.refl _

/-- The diagnoses that are read are put once each. -/
theorem callEntries_perm :
    ((calls d r).flatMap (callEntries d r)).Perm ((entries d r).filter (isRead d r)) := by
  rw [calls, entries, List.flatMap_assoc, List.filter_flatMap]
  exact List.Perm.flatMap_left _ fun q _ => callEntries_at q

/-! ## How much is put -/

theorem callEntries_bytes (c : SubslotPos × BitVec 16) :
    ((callEntries d r c).map fun x => (x.bytes e).length).sum = (callRaw d e r c).data.length := by
  rw [callEntries, callRaw_data, insertedBytes, List.map_map, List.length_flatMap]
  rfl

theorem allBytes_length (cs : List (SubslotPos × BitVec 16)) :
    (allBytes d e r cs).length = 20 * (puttingCalls d e r cs).length +
      ((cs.flatMap (callEntries d r)).map fun x => (x.bytes e).length).sum := by
  induction cs with
  | nil => rfl
  | cons c cs ih =>
    rw [List.flatMap_cons, List.map_append, List.sum_append, callEntries_bytes]
    by_cases hdata : (callRaw d e r c).data = []
    · rw [allBytes_cons_of_empty hdata, ih, hdata, puttingCalls, puttingCalls,
        List.filter_cons_of_neg (by simpa using hdata)]
      simp
    · rw [allBytes_cons_of_some hdata, List.length_append, ih, RawBlock.bytes_length, puttingCalls,
        puttingCalls, List.filter_cons_of_pos (by simpa using hdata), List.length_cons]
      omega

theorem mem_callEntries {c : SubslotPos × BitVec 16} {y : Entry} (hy : y ∈ callEntries d r c) :
    y.key = c := by
  rcases List.mem_map.mp hy with ⟨item, hitem, rfl⟩
  have husi := (of_decide_eq_true (List.mem_filter.mp hitem).2).2
  rw [Entry.key, husi]

theorem data_ne_nil {c : SubslotPos × BitVec 16} :
    (callRaw d e r c).data ≠ [] ↔ ∃ y ∈ callEntries d r c, y.bytes e ≠ [] := by
  simp only [callRaw_data, insertedBytes, callEntries, ne_eq, List.flatMap_eq_nil_iff, not_forall,
    List.mem_map, exists_exists_and_eq_and, Entry.bytes, exists_prop]

/-- The calls that put a block have the keys of the diagnoses that are read and have bytes. -/
theorem mem_puttingCalls {c : SubslotPos × BitVec 16} :
    c ∈ puttingCalls d e r (calls d r) ↔
      ∃ y ∈ entries d r, isRead d r y = true ∧ y.key = c ∧ y.bytes e ≠ [] := by
  rw [puttingCalls, List.mem_filter, decide_eq_true_eq, data_ne_nil]
  constructor
  · rintro ⟨hc, y, hy, hbytes⟩
    have hread := callEntries_perm.mem_iff.mp (List.mem_flatMap.mpr ⟨c, hc, hy⟩)
    rcases List.mem_filter.mp hread with ⟨hmem, hread⟩
    exact ⟨y, hmem, hread, mem_callEntries hy, hbytes⟩
  · rintro ⟨y, hmem, hread, rfl, hbytes⟩
    have hy := callEntries_perm.mem_iff.mpr (List.mem_filter.mpr ⟨hmem, hread⟩)
    rcases List.mem_flatMap.mp hy with ⟨c, hc, hy⟩
    rw [mem_callEntries hy]
    exact ⟨hc, y, hy, hbytes⟩

theorem subslotPositions_nodup : subslotPositions.Nodup := by
  unfold subslotPositions
  refine List.nodup_flatMap.mpr ⟨fun a _ => List.nodup_flatMap.mpr ⟨fun s _ => ?_, ?_⟩, ?_⟩
  · refine List.nodup_range.map fun i j hij => ?_
    simpa using hij
  · refine List.nodup_range.imp fun {s s'} hne => ?_
    intro q hq hq'
    rcases List.mem_map.mp hq with ⟨i, -, rfl⟩
    rcases List.mem_map.mp hq' with ⟨j, -, hj⟩
    exact hne (Prod.mk.inj (Prod.mk.inj hj).2).1.symm
  · refine List.nodup_range.imp fun {a a'} hne => ?_
    intro q hq hq'
    rcases List.mem_flatMap.mp hq with ⟨s, -, hs⟩
    rcases List.mem_map.mp hs with ⟨i, -, rfl⟩
    rcases List.mem_flatMap.mp hq' with ⟨s', -, hs'⟩
    rcases List.mem_map.mp hs' with ⟨j, -, hj⟩
    exact hne (Prod.mk.inj hj).1.symm

theorem calls_nodup : (calls d r).Nodup := by
  refine List.nodup_flatMap.mpr ⟨fun q _ => ?_, ?_⟩
  · unfold callsAt
    split
    · refine (Ascending.turns_nodup 0 : (usisAt d q).Nodup).map fun u v huv => ?_
      exact (Prod.mk.inj huv).2
    · exact List.nodup_nil
  · refine subslotPositions_nodup.imp fun {q q'} hne => ?_
    have hfst : ∀ {q : SubslotPos} {c : SubslotPos × BitVec 16}, c ∈ callsAt d r q → c.1 = q := by
      intro q c hc
      unfold callsAt at hc
      split at hc
      · rcases List.mem_map.mp hc with ⟨u, -, rfl⟩
        rfl
      · simp at hc
    intro c hc hc'
    exact hne ((hfst hc).symm.trans (hfst hc'))

/-- The keys of the blocks are among those of the diagnoses. -/
theorem puttingCalls_subperm :
    List.Subperm (puttingCalls d e r (calls d r)) ((entries d r).map Entry.key).dedup := by
  refine (calls_nodup.filter _).subperm fun c hc => List.mem_dedup.mpr ?_
  rcases mem_puttingCalls.mp hc with ⟨y, hy, -, rfl, -⟩
  exact List.mem_map_of_mem hy

/-- The bytes of the diagnoses are those of the ones that are read and of the others. -/
theorem sum_filter (p : Entry → Bool) (xs : List Entry) :
    (xs.map fun x => (x.bytes e).length).sum =
      ((xs.filter p).map fun x => (x.bytes e).length).sum +
        ((xs.filter fun x => !p x).map fun x => (x.bytes e).length).sum := by
  rw [← List.sum_append, ← List.map_append]
  exact ((List.filter_append_perm p xs).map _).sum_eq.symm

theorem allBytes_calls_length :
    (allBytes d e r (calls d r)).length = 20 * (puttingCalls d e r (calls d r)).length +
      (((entries d r).filter (isRead d r)).map fun x => (x.bytes e).length).sum := by
  rw [allBytes_length, (callEntries_perm.map _).sum_eq]

/-- The blocks are no more than a smallest exact record. -/
theorem allBytes_le : (allBytes d e r (calls d r)).length ≤ recordLength e (entries d r) := by
  have hsum := @sum_filter e (isRead d r) (entries d r)
  have hkeys := (@puttingCalls_subperm d e r).length_le
  rw [allBytes_calls_length, recordLength]
  omega

/-- With blocks as large as an exact record, no diagnosis has been left out. -/
theorem shown_of_le (h : recordLength e (entries d r) ≤ (allBytes d e r (calls d r)).length)
    {x : Entry} (hx : x ∈ entries d r) :
    x.2.usi ≠ 0 ∧ x.2.usi ≠ UINT16_MAX ∧ AroundAr d r x.1 ∧
      (x.bytes e ≠ [] → r.diagFilter.inserts x.2 = true) ∧
      ∃ y ∈ entries d r, y.key = x.key ∧ y.bytes e ≠ [] := by
  have hsum := @sum_filter e (isRead d r) (entries d r)
  have hkeys := (@puttingCalls_subperm d e r)
  have hlen := hkeys.length_le
  rw [allBytes_calls_length, recordLength] at h
  -- the key of each diagnosis has a block, since there are as many keys as blocks
  have hblock : x.key ∈ puttingCalls d e r (calls d r) := by
    have hperm := hkeys.perm_of_length_le (by omega)
    exact hperm.mem_iff.mpr (List.mem_dedup.mpr (List.mem_map_of_mem hx))
  rcases mem_puttingCalls.mp hblock with ⟨y, hy, hread, hkey, hbytes⟩
  rcases of_decide_eq_true hread with ⟨haround, -, hzero, hmax⟩
  rcases Prod.mk.inj hkey with ⟨hplace, husi⟩
  rw [hplace] at haround
  rw [husi] at hzero hmax
  refine ⟨hzero, hmax, haround, ?_, y, hy, hkey, hbytes⟩
  -- what is not read has no bytes
  intro hxbytes
  by_contra hins
  have hnot : x ∈ (entries d r).filter fun x => !isRead d r x := by
    refine List.mem_filter.mpr ⟨hx, ?_⟩
    simp [isRead, hins]
  have hle := List.single_le_sum (fun n _ => Nat.zero_le n) _
    (List.mem_map_of_mem (f := fun x : Entry => (x.bytes e).length) hnot)
  have hpos := List.length_pos_iff.mpr hxbytes
  omega

end Device

/-! ## Headers -/

namespace RawBlock

/-- The first block of a record can be told from its bytes. -/
theorem bytes_append_inj {e : Bool} {b c : RawBlock} {rest rest' : List Byte}
    (hb : 16 + b.data.length < 2 ^ 16) (hc : 16 + c.data.length < 2 ^ 16)
    (h : b.bytes e ++ rest = c.bytes e ++ rest') : b.apiId = c.apiId ∧ rest = rest' := by
  simp only [bytes, List.append_assoc] at h
  rcases List.append_inj h rfl with ⟨-, h⟩
  rcases List.append_inj h (by rw [bytes16_length, bytes16_length]) with ⟨hlen, h⟩
  have hdata : b.data.length = c.data.length := by
    have hval := congrArg BitVec.toNat (bytes16_injective e hlen)
    rw [BitVec.toNat_ofNat, BitVec.toNat_ofNat, Nat.mod_eq_of_lt hb, Nat.mod_eq_of_lt hc] at hval
    omega
  rcases List.append_inj h (by rw [numbers_length, numbers_length]) with ⟨hnumbers, h⟩
  refine ⟨?_, (List.append_inj h hdata).2⟩
  simp only [numbers, List.append_assoc] at hnumbers
  have happ := (List.append_inj hnumbers rfl).2
  exact bytes32_injective e
    (List.append_inj happ (by rw [bytes32_length, bytes32_length])).1

/-- The API numbers can be told from the bytes. -/
theorem apiIds_of_bytes {e : Bool} {bs cs : List RawBlock}
    (hlen : (bs.flatMap fun b => b.bytes e).length < 2 ^ 16)
    (h : (bs.flatMap fun b => b.bytes e) = cs.flatMap fun b => b.bytes e) :
    bs.map apiId = cs.map apiId := by
  induction bs generalizing cs with
  | nil =>
    cases cs with
    | nil => rfl
    | cons c cs =>
      have hnil := congrArg List.length h
      rw [List.flatMap_cons, List.length_append, bytes_length] at hnil
      simp only [List.flatMap_nil, List.length_nil] at hnil
      omega
  | cons b bs ih =>
    cases cs with
    | nil =>
      have hnil := congrArg List.length h
      rw [List.flatMap_cons, List.length_append, bytes_length] at hnil
      simp only [List.flatMap_nil, List.length_nil] at hnil
      omega
    | cons c cs =>
      have hlen' := hlen
      rw [h] at hlen'
      rw [List.flatMap_cons, List.length_append, bytes_length] at hlen hlen'
      rw [List.flatMap_cons, List.flatMap_cons] at h
      rcases bytes_append_inj (by omega) (by omega) h with ⟨hapi, hrest⟩
      rw [List.map_cons, List.map_cons, hapi, ih (by omega) hrest]

end RawBlock

namespace Device

variable {d : Device} {e : Bool} {r : DiagRead} {resLen : ℕ} {w : Writer}

/-! ## From an exact record -/

theorem readable_of_readsExactly (hres : resLen < 2 ^ 16) (h : ReadsExactly d e r resLen w) :
    Readable d e r resLen w := by
  rcases h with ⟨hends, w', hw', blocks, husi, hbytes, hperm⟩
  rw [putDiagData_eq fun q hv => hends q hv.1] at hw'
  obtain rfl := Option.some.inj hw'
  rcases @putCalls_bounds d e r resLen w (calls d r) with ⟨hle, hlen, hstays⟩
  have htotal := congrArg List.length hbytes
  rw [Buffer.slice_length] at htotal
  have hsmall := @recordLength_le d e blocks husi _ hperm
  have hroom : (allBytes d e r (calls d r)).length ≤ resLen - w.pos := by
    have hmost := @allBytes_le d e r
    omega
  refine ⟨hends, ?_, by omega⟩
  intro x hx
  rcases @shown_of_le d e r (by omega) x hx with ⟨hzero, hmax, haround, hins, hy⟩
  refine ⟨hzero, hmax, ?_, haround, hins, hy⟩
  -- the header of the block of `x` is one that has been put
  have hputs := putCalls_of_room hroom
  rw [hputs.1, Nat.add_sub_cancel_left, hputs.2.1] at hbytes
  have hraw : ((puttingCalls d e r (calls d r)).map (callRaw d e r)).flatMap
      (fun b => b.bytes e) = (blocks.map fun b => b.raw d e).flatMap fun b => b.bytes e := by
    rw [List.flatMap_map, List.flatMap_map]
    exact hbytes
  have hapis := RawBlock.apiIds_of_bytes (by
    rw [List.flatMap_map]
    have heq : (puttingCalls d e r (calls d r)).flatMap (fun c => (callRaw d e r c).bytes e) =
        allBytes d e r (calls d r) := rfl
    rw [heq]
    omega) hraw
  rcases List.mem_flatMap.mp (hperm.mem_iff.mpr hx) with ⟨b, hb, hxb⟩
  have hmem : (b.raw d e).apiId ∈ (blocks.map fun b => b.raw d e).map RawBlock.apiId :=
    List.mem_map_of_mem (List.mem_map_of_mem hb)
  rw [← hapis] at hmem
  rcases List.mem_map.mp hmem with ⟨raw, hraw, hraweq⟩
  rcases List.mem_map.mp hraw with ⟨c, -, rfl⟩
  rcases List.mem_map.mp hxb with ⟨item, -, rfl⟩
  have hval : (d.apis b.place.1).apiId = ((d.apis c.1.1).apiId.setWidth 16).setWidth 32 :=
    hraweq.symm
  dsimp only
  rw [hval, BitVec.toNat_setWidth]
  have hlt := ((d.apis c.1.1).apiId.setWidth 16).isLt
  omega

/-! ## To an exact record -/

theorem mem_entries {x : Entry} :
    x ∈ entries d r ↔ InScope d r x.1 ∧ x.2 ∈ itemsAt d x.1 ∧ r.diagFilter.selects x.2 = true := by
  rw [entries, List.mem_flatMap]
  constructor
  · rintro ⟨q, -, hx⟩
    unfold entriesAt at hx
    split at hx
    · rename_i hscope
      rcases List.mem_map.mp hx with ⟨item, hitem, rfl⟩
      exact ⟨hscope, List.mem_filter.mp hitem⟩
    · simp at hx
  · rintro ⟨hscope, hitem⟩
    refine ⟨x.1, hscope.1.mem_positions, ?_⟩
    rw [entriesAt, if_pos hscope]
    exact List.mem_map.mpr ⟨x.2, List.mem_filter.mpr hitem, rfl⟩

/-- The block of an exact record. -/
def exactBlock (d : Device) (r : DiagRead) (c : SubslotPos × BitVec 16) : DiagBlock where
  place := c.1
  usi := c.2
  items := ((itemsAt d c.1).filter r.diagFilter.selects).filter fun item => item.usi = c.2

/-- Items without bytes do not count. -/
theorem flatMap_filter_eq {α β : Type} {f : α → List β} {p q : α → Bool} {l : List α}
    (hqp : ∀ x ∈ l, q x = true → p x = true) (hpq : ∀ x ∈ l, p x = true → f x ≠ [] → q x = true) :
    (l.filter p).flatMap f = (l.filter q).flatMap f := by
  induction l with
  | nil => rfl
  | cons x l ih =>
    have ih := ih (fun y hy => hqp y (List.mem_cons_of_mem x hy))
      fun y hy => hpq y (List.mem_cons_of_mem x hy)
    by_cases hq : q x = true
    · have hp := hqp x List.mem_cons_self hq
      rw [List.filter_cons_of_pos hp, List.filter_cons_of_pos hq, List.flatMap_cons,
        List.flatMap_cons, ih]
    · rw [List.filter_cons_of_neg hq]
      by_cases hp : p x = true
      · have hnil : f x = [] := by
          by_contra hne
          exact hq (hpq x List.mem_cons_self hp hne)
        rw [List.filter_cons_of_pos hp, List.flatMap_cons, hnil, List.nil_append, ih]
      · rw [List.filter_cons_of_neg hp, ih]

theorem raw_exactBlock (hshown : ∀ x ∈ entries d r, Shown d e r x) {c : SubslotPos × BitVec 16}
    (hc : c ∈ puttingCalls d e r (calls d r)) :
    (exactBlock d r c).raw d e = callRaw d e r c := by
  rcases mem_puttingCalls.mp hc with ⟨y, hy, -, rfl, -⟩
  have hapi : ((d.apis y.1.1).apiId.setWidth 16).setWidth 32 = (d.apis y.1.1).apiId := by
    have hlt := (hshown y hy).2.2.1
    apply BitVec.eq_of_toNat_eq
    rw [BitVec.toNat_setWidth, BitVec.toNat_setWidth, Nat.mod_eq_of_lt hlt]
    exact Nat.mod_eq_of_lt (lt_trans hlt (by decide))
  have hdata : (exactBlock d r y.key).items.flatMap (itemBytes e) =
      insertedBytes e r.diagFilter y.key.2 (itemsAt d y.key.1) := by
    rw [exactBlock, List.filter_filter, insertedBytes, inserted]
    refine flatMap_filter_eq ?_ ?_
    · intro item _ hins
      rcases of_decide_eq_true hins with ⟨hins, husi⟩
      simp [husi, selects_of_inserts hins]
    · intro item hitem hsel hbytes
      rcases Bool.and_eq_true_iff.mp hsel with ⟨husi, hsel⟩
      have hentry : (y.1, item) ∈ entries d r :=
        mem_entries.mpr ⟨(mem_entries.mp hy).1, hitem, hsel⟩
      have hins := (hshown _ hentry).2.2.2.2.1 hbytes
      simp only [decide_eq_true_eq] at husi
      simp [hins, husi]
  unfold DiagBlock.raw callRaw
  rw [hdata]
  unfold exactBlock Entry.key
  dsimp only
  rw [hapi]

theorem exactBlocks_at (hshown : ∀ x ∈ entries d r, Shown d e r x) (q : SubslotPos) :
    ((puttingCalls d e r (callsAt d r q)).flatMap fun c => (exactBlock d r c).entries).Perm
      (entriesAt d r q) := by
  by_cases hv : Visits d r q
  · have hgroups := Ascending.groups_perm
      ((Ascending.turns_nodup 0 : (usisAt d q).Nodup).filter fun usi =>
        (callRaw d e r (q, usi)).data ≠ []) DiagItem.usi
      ((itemsAt d q).filter r.diagFilter.selects) (by
        intro item hitem
        have hentry : (q, item) ∈ entries d r :=
          mem_entries.mpr ⟨hv.1, List.mem_filter.mp hitem⟩
        rcases hshown _ hentry with ⟨hzero, hmax, -, haround, hins, y, hy, hkey, hbytes⟩
        rcases hshown y hy with ⟨hyzero, hymax, -, hyaround, hyins, -⟩
        have hblock : (q, item.usi) ∈ puttingCalls d e r (calls d r) := by
          refine mem_puttingCalls.mpr ⟨y, hy, ?_, hkey, hbytes⟩
          exact decide_eq_true ⟨hyaround, hyins hbytes, hyzero, hymax⟩
        have hmem := List.mem_filter.mp hitem
        exact List.mem_filter.mpr ⟨mem_usisAt.mpr ⟨⟨item, hmem.1, rfl⟩, hzero, hmax⟩,
          (List.mem_filter.mp hblock).2⟩)
    have hentries : entriesAt d r q =
        ((itemsAt d q).filter r.diagFilter.selects).map fun item => (q, item) := by
      rw [entriesAt, if_pos hv.1]
    have hblocks : ((puttingCalls d e r (callsAt d r q)).flatMap fun c =>
        (exactBlock d r c).entries) = (((usisAt d q).filter fun usi =>
          (callRaw d e r (q, usi)).data ≠ []).flatMap fun usi =>
          ((itemsAt d q).filter r.diagFilter.selects).filter fun item => item.usi = usi).map
          fun item => (q, item) := by
      rw [puttingCalls, callsAt, if_pos hv, List.filter_map, List.flatMap_map, List.map_flatMap]
      rfl
    rw [hblocks, hentries]
    exact hgroups.map _
  · -- what is in scope but not visited has no diagnosis
    have hnil : entriesAt d r q = [] := by
      refine List.eq_nil_iff_forall_not_mem.mpr fun x hx => ?_
      have hplace : x.1 = q ∧ InScope d r q := by
        unfold entriesAt at hx
        split at hx
        · rename_i hscope
          rcases List.mem_map.mp hx with ⟨item, -, rfl⟩
          exact ⟨rfl, hscope⟩
        · simp at hx
      have hentry : x ∈ entries d r :=
        List.mem_flatMap.mpr ⟨q, hplace.2.1.mem_positions, hx⟩
      have haround := (hshown x hentry).2.2.2.1
      rw [hplace.1] at haround
      exact hv ⟨hplace.2, haround⟩
    rw [callsAt_nil hv, hnil]
    exact List.Perm.refl _

theorem readsExactly_of_readable (h : Readable d e r resLen w) : ReadsExactly d e r resLen w := by
  rcases h with ⟨hends, hshown, hroom⟩
  have hputs := @putCalls_of_room d e r resLen w (calls d r) (le_trans allBytes_le hroom)
  refine ⟨hends, _, putDiagData_eq (fun q hv => hends q hv.1) w,
    (puttingCalls d e r (calls d r)).map (exactBlock d r), ?_, ?_, ?_⟩
  · intro b hb item hitem
    rcases List.mem_map.mp hb with ⟨c, -, rfl⟩
    exact of_decide_eq_true (List.mem_filter.mp hitem).2
  · rw [hputs.1, Nat.add_sub_cancel_left, hputs.2.1, List.flatMap_map, allBytes]
    refine List.flatMap_congr fun c hc => ?_
    rw [raw_exactBlock hshown hc]
  · rw [List.flatMap_map, puttingCalls, calls, List.filter_flatMap, List.flatMap_assoc, entries]
    exact List.Perm.flatMap_left _ fun q _ => exactBlocks_at hshown q

/-- A record of any size shows exactly the diagnoses in scope that the filter stands for if and
only if each of them is one that is shown, and there is room for them. -/
theorem readsExactly_iff (d : Device) (e : Bool) (r : DiagRead) (resLen : BitVec 16) (w : Writer) :
    ReadsExactly d e r resLen.toNat w ↔ Readable d e r resLen.toNat w :=
  ⟨readable_of_readsExactly resLen.isLt, readsExactly_of_readable⟩

end Device

/-! ## A diagnosis with the USI 0 -/

namespace UsiZero

/-- A submodule is plugged and gets a diagnosis with one byte of data. -/
def steps : List PoolStep :=
  [.plugSubmodule 0 1 1 ⟨1, 1, 0, 0, 0⟩ false,
    .diag (fun _ _ _ => 0) (.add { LostItem.diagnosis with
      usi := 0, manufDataLen := 1, manufData := some fun _ => 0x11 })]

/-- All diagnoses of the submodule. -/
def read : DiagRead where
  filterLevel := .PF_DEV_FILTER_LEVEL_SUBSLOT
  diagFilter := .PF_DIAG_FILTER_ALL
  pAr := none
  apiId := 0
  slotNbr := 1
  subslotNbr := 1

theorem stored : ((LostItem.start.run steps).map fun net =>
    (Device.entries net.dev read).any fun x => x.2.usi = 0) = some true := by
  decide +kernel

end UsiZero

open UsiZero in
/-- It is stored, and not read in any room. -/
theorem not_readsExactly_usi_zero : ∃ net, LostItem.start.run steps = some net ∧
    ∀ w, ¬ Device.ReadsExactly net.dev true read 4000 w := by
  rcases Option.map_eq_some_iff.mp stored with ⟨net, hrun, hany⟩
  refine ⟨net, hrun, ?_⟩
  intro w hreads
  rcases List.any_eq_true.mp hany with ⟨x, hx, husi⟩
  have hshown := (Device.readable_of_readsExactly (by decide) hreads).2.1 x hx
  exact hshown.1 (of_decide_eq_true husi)

end PNet.Cmdev
