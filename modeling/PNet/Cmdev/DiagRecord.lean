import Mathlib.Data.List.Dedup
import PNet.Cmdev.PutDiag
import PNet.Fspm.LogBook

/-! # The blocks of a diagnosis record

* `Device.putDiagData_eq`: the nested loops are one loop over `calls`, one for each submodule that
  is visited and each USI that is found.
* `Device.putCalls_of_room`: what the loop puts when there is room for all blocks.
* `Device.putCalls_bounds`: how much it puts in any room.
-/

namespace PNet.Cmdev

open Block Rpc Fspm

/-! ## Bytes -/

/-- An item without its USI. -/
def itemBytes (e : Bool) (item : DiagItem) : List Byte :=
  let std := item.std
  let channel := bytes16 e std.chNbr ++ bytes16 e std.chProperties.bits ++
    bytes16 e std.chErrorType
  let ext := channel ++ bytes16 e std.extChErrorType ++ bytes32 e std.extChAddValue
  if item.usi = PF_USI_CHANNEL_DIAGNOSIS then channel
  else if item.usi = PF_USI_EXTENDED_CHANNEL_DIAGNOSIS then ext
  else if item.usi = PF_USI_QUALIFIED_CHANNEL_DIAGNOSIS then ext ++ bytes32 e std.qualChQualifier
  else item.manufData

/-- A block of a record: the numbers of its header, and the bytes of its items. -/
structure RawBlock where
  apiId : BitVec 32
  slotNbr : BitVec 16
  subslotNbr : BitVec 16
  usi : BitVec 16
  data : List Byte

namespace RawBlock

/-- The header behind the block length. -/
def numbers (e : Bool) (b : RawBlock) : List Byte :=
  [PNET_BLOCK_VERSION_HIGH, PNET_BLOCK_VERSION_LOW_1] ++ bytes32 e b.apiId ++
    bytes16 e b.slotNbr ++ bytes16 e b.subslotNbr ++ bytes16 e PNET_CHANNEL_WHOLE_SUBMODULE ++
    bytes16 e (DiagSpec.PF_DIAG_CH_PROP_SPEC_APPEARS.value <<< 11) ++ bytes16 e b.usi

def bytes (e : Bool) (b : RawBlock) : List Byte :=
  bytes16 e PF_BT_DIAGNOSIS_DATA ++ bytes16 e (BitVec.ofNat 16 (16 + b.data.length)) ++
    (b.numbers e ++ b.data)

theorem numbers_length (e : Bool) (b : RawBlock) : (b.numbers e).length = 16 := by
  simp [numbers]

theorem bytes_length (e : Bool) (b : RawBlock) : (b.bytes e).length = 20 + b.data.length := by
  simp only [bytes, List.length_append, bytes16_length, numbers_length]
  omega

end RawBlock

/-! ## One block -/

variable {resLen : ℕ}

theorem emits_item (e : Bool) (item : DiagItem) :
    Emits resLen (putDiagItem e item false resLen) (itemBytes e item) := by
  have hchannel := ((@emits_uint16 resLen e item.std.chNbr).comp
    (emits_uint16 e item.std.chProperties.bits)).comp (emits_uint16 e item.std.chErrorType)
  have hext := (hchannel.comp (emits_uint16 e item.std.extChErrorType)).comp
    (emits_uint32 e item.std.extChAddValue)
  unfold itemBytes
  by_cases hch : item.usi = PF_USI_CHANNEL_DIAGNOSIS
  · have heq : putDiagItem e item false resLen = _ := funext fun w => if_pos hch
    rw [heq, if_pos hch]
    exact hchannel
  · rw [if_neg hch]
    by_cases hx : item.usi = PF_USI_EXTENDED_CHANNEL_DIAGNOSIS
    · have heq : putDiagItem e item false resLen = _ :=
        funext fun w => (if_neg hch).trans (if_pos hx)
      rw [heq, if_pos hx]
      exact hext
    · rw [if_neg hx]
      by_cases hq : item.usi = PF_USI_QUALIFIED_CHANNEL_DIAGNOSIS
      · have heq : putDiagItem e item false resLen = _ :=
          funext fun w => ((if_neg hch).trans (if_neg hx)).trans (if_pos hq)
        rw [heq, if_pos hq]
        exact hext.comp (emits_uint32 e item.std.qualChQualifier)
      · have heq : putDiagItem e item false resLen = _ :=
          funext fun w => ((if_neg hch).trans (if_neg hx)).trans (if_neg hq)
        rw [heq, if_neg hq]
        exact emits_mem item.manufData

/-- The loop over a list. -/
theorem emits_items (e : Bool) (p : DiagItem → Bool) (items : List DiagItem) :
    Emits resLen (fun w => items.foldl (fun w item =>
      if p item then putDiagItem e item false resLen w else w) w)
      ((items.filter p).flatMap (itemBytes e)) := by
  induction items with
  | nil => exact emits_nil
  | cons x items ih =>
    by_cases hx : p x = true
    · rw [List.filter_cons_of_pos hx, List.flatMap_cons]
      have hcomp := (emits_item e x).comp ih
      simp only [List.foldl_cons, if_pos hx]
      exact hcomp
    · rw [List.filter_cons_of_neg hx]
      simp only [List.foldl_cons, if_neg hx]
      exact ih

/-- The header, with the length it has before the items are known. -/
theorem emits_header (e : Bool) (usi apiId slotNbr subslotNbr : BitVec 16) :
    Emits resLen (putDiagHeader e usi apiId slotNbr subslotNbr resLen)
      (bytes16 e PF_BT_DIAGNOSIS_DATA ++ bytes16 e (0 + BitVec.ofNat 16 blockHeaderSize - 4) ++
        RawBlock.numbers e ⟨apiId.setWidth 32, slotNbr, subslotNbr, usi, []⟩) := by
  have h := ((((((((((@emits_uint16 resLen e PF_BT_DIAGNOSIS_DATA).comp
    (emits_uint16 e (0 + BitVec.ofNat 16 blockHeaderSize - 4))).comp
    (emits_byte PNET_BLOCK_VERSION_HIGH)).comp (emits_byte PNET_BLOCK_VERSION_LOW_1)).comp
    (emits_uint32 e (apiId.setWidth 32))).comp (emits_uint16 e slotNbr)).comp
    (emits_uint16 e subslotNbr)).comp (emits_uint16 e PNET_CHANNEL_WHOLE_SUBMODULE)).comp
    (emits_uint16 e (DiagSpec.PF_DIAG_CH_PROP_SPEC_APPEARS.value <<< 11))).comp
    (emits_uint16 e usi))
  simp only [List.append_assoc] at h
  simp only [RawBlock.numbers, List.append_assoc, List.cons_append, List.nil_append] at h ⊢
  exact h

/-- The items a block of `pf_put_diag_list` has. -/
def inserted (diagFilter : DiagFilterLevel) (usi : BitVec 16) (items : List DiagItem) :
    List DiagItem :=
  items.filter fun item => diagFilter.inserts item ∧ item.usi = usi

def insertedBytes (e : Bool) (diagFilter : DiagFilterLevel) (usi : BitVec 16)
    (items : List DiagItem) : List Byte :=
  (inserted diagFilter usi items).flatMap (itemBytes e)

section
variable (e : Bool) (diagFilter : DiagFilterLevel) (usi apiId slotNbr subslotNbr : BitVec 16)
  (items : List DiagItem) (w : Writer)

/-- The header and the items, before the block length is known. -/
theorem emits_fields :
    Emits resLen (fun w => items.foldl (fun w item =>
      if diagFilter.inserts item ∧ item.usi = usi then putDiagItem e item false resLen w else w)
      (putDiagHeader e usi apiId slotNbr subslotNbr resLen w))
      (bytes16 e PF_BT_DIAGNOSIS_DATA ++ bytes16 e (0 + BitVec.ofNat 16 blockHeaderSize - 4) ++
        (RawBlock.numbers e ⟨apiId.setWidth 32, slotNbr, subslotNbr, usi, []⟩ ++
          insertedBytes e diagFilter usi items)) := by
  have hitems := @emits_items resLen e
    (fun item => decide (diagFilter.inserts item = true ∧ item.usi = usi)) items
  simp only [decide_eq_true_eq] at hitems
  rw [← List.append_assoc]
  exact (emits_header e usi apiId slotNbr subslotNbr).comp hitems

/-- A block without bytes in it is taken back. -/
theorem putDiagList_empty (hempty : insertedBytes e diagFilter usi items = []) :
    Puts w (putDiagList e diagFilter usi apiId slotNbr subslotNbr items resLen w) [] := by
  have hitems := (@emits_items resLen e
    (fun item => decide (diagFilter.inserts item = true ∧ item.usi = usi)) items).2.2
    (putDiagHeader e usi apiId slotNbr subslotNbr resLen w)
  simp only [decide_eq_true_eq] at hitems
  have hlen : ((items.filter fun item => decide (diagFilter.inserts item = true ∧
      item.usi = usi)).flatMap (itemBytes e)).length = 0 := List.length_eq_zero_iff.mpr hempty
  have hfields := (@emits_fields resLen e diagFilter usi apiId slotNbr subslotNbr items).2.2 w
  unfold putDiagList
  split
  · exact Puts.refl rfl fun _ _ => rfl
  · dsimp only
    rw [if_neg (by omega)]
    exact Puts.refl rfl hfields.2.2

/-- With room for it, a whole block is put. -/
theorem putDiagList_of_room (hsome : insertedBytes e diagFilter usi items ≠ [])
    (hroom : w.pos + (20 + (insertedBytes e diagFilter usi items).length) ≤ resLen) :
    Puts w (putDiagList e diagFilter usi apiId slotNbr subslotNbr items resLen w)
      (RawBlock.bytes e ⟨apiId.setWidth 32, slotNbr, subslotNbr, usi,
        insertedBytes e diagFilter usi items⟩) := by
  have hitems : items ≠ [] := by
    rintro rfl
    exact hsome rfl
  have hdata : 0 < (insertedBytes e diagFilter usi items).length := List.length_pos_iff.mpr hsome
  have hhead := (@emits_header resLen e usi apiId slotNbr subslotNbr).2.2 w
  have hbody := (@emits_fields resLen e diagFilter usi apiId slotNbr subslotNbr items).1 w
  simp only [List.length_append, bytes16_length, RawBlock.numbers_length] at hhead hbody
  have hpatch := append_patch w (bytes16 e PF_BT_DIAGNOSIS_DATA)
    (bytes16 e (0 + BitVec.ofNat 16 blockHeaderSize - 4))
    (RawBlock.numbers e ⟨apiId.setWidth 32, slotNbr, subslotNbr, usi, []⟩ ++
      insertedBytes e diagFilter usi items)
    (bytes16 e (BitVec.ofNat 16 (16 + (insertedBytes e diagFilter usi items).length)))
    (by rw [bytes16_length, bytes16_length])
  unfold putDiagList
  rw [if_neg hitems]
  dsimp only
  rw [hbody (by omega)]
  generalize hX : bytes16 e PF_BT_DIAGNOSIS_DATA ++
    bytes16 e (0 + BitVec.ofNat 16 blockHeaderSize - 4) ++
    (RawBlock.numbers e ⟨apiId.setWidth 32, slotNbr, subslotNbr, usi, []⟩ ++
      insertedBytes e diagFilter usi items) = X at hpatch ⊢
  have hlen : X.length = 4 + (16 + (insertedBytes e diagFilter usi items).length) := by
    rw [← hX]
    simp only [List.length_append, bytes16_length, RawBlock.numbers_length]
  have hpos : (w.append X).pos = w.pos + 4 + (16 + (insertedBytes e diagFilter usi items).length) := by
    rw [Writer.append, hlen, ← Nat.add_assoc]
  rw [if_pos (by omega), hpos, ofNat_add_sub,
    appends_uint16 e _ _ (by rw [bytes16_length]; dsimp only; omega)]
  rw [bytes16_length] at hpatch
  rw [hpatch]
  have hall := puts_append w (RawBlock.bytes e ⟨apiId.setWidth 32, slotNbr, subslotNbr, usi,
    insertedBytes e diagFilter usi items⟩)
  have hend : w.pos + 4 + (16 + (insertedBytes e diagFilter usi items).length) =
      (w.append (RawBlock.bytes e ⟨apiId.setWidth 32, slotNbr, subslotNbr, usi,
        insertedBytes e diagFilter usi items⟩)).pos := by
    simp only [Writer.append, RawBlock.bytes_length]
    omega
  rw [hend]
  exact hall

/-- The room that a block takes at most. -/
def neededFor (data : List Byte) : ℕ := if data = [] then 0 else 20 + data.length

theorem putDiagList_bounds :
    w.pos ≤ (putDiagList e diagFilter usi apiId slotNbr subslotNbr items resLen w).pos ∧
      (putDiagList e diagFilter usi apiId slotNbr subslotNbr items resLen w).pos ≤
        w.pos + neededFor (insertedBytes e diagFilter usi items) ∧
      (putDiagList e diagFilter usi apiId slotNbr subslotNbr items resLen w).pos ≤
        max w.pos resLen := by
  by_cases hempty : insertedBytes e diagFilter usi items = []
  · have hpos := (@putDiagList_empty resLen e diagFilter usi apiId slotNbr subslotNbr items w
      hempty).1
    rw [List.length_nil] at hpos
    omega
  · have hfields := @emits_fields resLen e diagFilter usi apiId slotNbr subslotNbr items
    rcases hfields.2.2 w with ⟨hle, hlen, -⟩
    have hstays := hfields.2.1 w
    simp only [List.length_append, bytes16_length, RawBlock.numbers_length] at hlen
    rw [neededFor, if_neg hempty]
    unfold putDiagList
    split
    · exact ⟨le_refl _, Nat.le_add_right _ _, le_max_left _ _⟩
    · dsimp only
      split
      · exact ⟨hle, by dsimp only at hlen ⊢; omega, hstays⟩
      · exact ⟨le_refl _, Nat.le_add_right _ _, le_max_left _ _⟩
end

/-! ## Scope -/

namespace Device

variable (d : Device) (e : Bool) (r : DiagRead)

/-- The number is the one to read, or any number is. -/
def Selects {n : ℕ} (level : DevFilterLevel) (filter nbr : BitVec n) : Prop :=
  level.value ≤ r.filterLevel.value → nbr = filter

/-- The submodules whose diagnosis is to be read. -/
def InScope (q : SubslotPos) : Prop :=
  d.InUse q ∧ Selects r .PF_DEV_FILTER_LEVEL_API r.apiId (d.apis q.1).apiId ∧
    Selects r .PF_DEV_FILTER_LEVEL_SLOT r.slotNbr (d.slots (q.1, q.2.1)).slotNbr ∧
    Selects r .PF_DEV_FILTER_LEVEL_SUBSLOT r.subslotNbr (d.subslots q).subslotNbr ∧
    (r.pAr = none ∨ r.pAr = (d.subslots q).pAr)

/-- The API and the slot around the subslot are of the AR as well. -/
def AroundAr (q : SubslotPos) : Prop :=
  r.pAr = none ∨ r.pAr = (d.apis q.1).pAr ∧ r.pAr = (d.slots (q.1, q.2.1)).pAr

/-- The submodules that are read. -/
def Visits (q : SubslotPos) : Prop := InScope d r q ∧ AroundAr d r q

instance {n : ℕ} (level : DevFilterLevel) (filter nbr : BitVec n) :
    Decidable (Selects r level filter nbr) := inferInstanceAs (Decidable (_ → _))

instance (q : SubslotPos) : Decidable (InScope d r q) := inferInstanceAs (Decidable (_ ∧ _))

instance (q : SubslotPos) : Decidable (AroundAr d r q) := inferInstanceAs (Decidable (_ ∨ _))

instance (q : SubslotPos) : Decidable (Visits d r q) := inferInstanceAs (Decidable (_ ∧ _))

/-- The items of a subslot whose list ends. -/
def itemsAt (q : SubslotPos) : List DiagItem := (d.diagItemsOf q).getD []

/-! ## The loops as one -/

/-- The USIs that are found for a subslot. -/
def usisAt (q : SubslotPos) : List (BitVec 16) :=
  Ascending.turns BitVec.toNat UINT16_MAX ((itemsAt d q).map DiagItem.usi) toNat_injective 0

/-- The calls of `pf_put_diag_list` for a subslot. -/
def callsAt (q : SubslotPos) : List (SubslotPos × BitVec 16) :=
  if Visits d r q then (usisAt d q).map fun usi => (q, usi) else []

def calls : List (SubslotPos × BitVec 16) := subslotPositions.flatMap (callsAt d r)

def putCall (resLen : ℕ) (w : Writer) (c : SubslotPos × BitVec 16) : Writer :=
  putDiagList e r.diagFilter c.2 ((d.apis c.1.1).apiId.setWidth 16)
    (d.slots (c.1.1, c.1.2.1)).slotNbr (d.subslots c.1).subslotNbr (itemsAt d c.1) resLen w

def putCalls (resLen : ℕ) (cs : List (SubslotPos × BitVec 16)) (w : Writer) : Writer :=
  cs.foldl (putCall d e r resLen) w

variable {d e r} {resLen : ℕ}

theorem putCalls_append (cs cs' : List (SubslotPos × BitVec 16)) (w : Writer) :
    putCalls d e r resLen (cs ++ cs') w = putCalls d e r resLen cs' (putCalls d e r resLen cs w) :=
  List.foldl_append

theorem foldlM_putCalls {α : Type} {l : List α} {f : Writer → α → Option Writer}
    {g : α → List (SubslotPos × BitVec 16)}
    (h : ∀ a ∈ l, ∀ w, f w a = some (putCalls d e r resLen (g a) w)) (w : Writer) :
    l.foldlM f w = some (putCalls d e r resLen (l.flatMap g) w) := by
  induction l generalizing w with
  | nil => rfl
  | cons a l ih =>
    have hrest := ih (fun b hb => h b (List.mem_cons_of_mem a hb)) (putCalls d e r resLen (g a) w)
    rw [List.foldlM_cons, h a List.mem_cons_self, List.flatMap_cons, putCalls_append]
    exact hrest

theorem if_selected {α : Type} {used owned filtered found : Prop} [Decidable used]
    [Decidable owned] [Decidable filtered] [Decidable found] (x y : α) :
    (if used then if owned then if filtered then if found then x else y else x else y else y) =
      if used ∧ owned ∧ (filtered → found) then x else y := by
  by_cases hu : used
  · by_cases ho : owned
    · by_cases hf : filtered
      · simp [hu, ho, hf]
      · simp [hu, ho, hf]
    · simp [ho]
  · simp [hu]

theorem itemsAt_eq {q : SubslotPos} (h : (d.diagItemsOf q).isSome) :
    d.diagItemsOf q = some (itemsAt d q) := by
  rcases Option.isSome_iff_exists.mp h with ⟨items, hitems⟩
  rw [itemsAt, hitems]
  rfl

theorem putDiagSubslot_eq {q : SubslotPos} (hends : (d.diagItemsOf q).isSome) (hv : Visits d r q)
    (w : Writer) :
    putDiagSubslot d e r resLen ((d.apis q.1).apiId.setWidth 16) (d.slots (q.1, q.2.1)).slotNbr q w =
      some (putCalls d e r resLen (callsAt d r q) w) := by
  unfold putDiagSubslot
  rw [itemsAt_eq hends, Option.map_some, Ascending.loop_eq_foldl, callsAt, if_pos hv, putCalls,
    List.foldl_map]
  rfl

variable {a s : ℕ}

theorem putDiagSlot_eq (hends : ∀ q, Visits d r q → (d.diagItemsOf q).isSome)
    (hapi : a < PNET_MAX_API ∧ (d.apis a).inUse = true ∧
      (r.pAr = none ∨ r.pAr = (d.apis a).pAr) ∧
      Selects r .PF_DEV_FILTER_LEVEL_API r.apiId (d.apis a).apiId)
    (hslot : s < PNET_MAX_SLOTS ∧ (d.slots (a, s)).inUse = true ∧
      (r.pAr = none ∨ r.pAr = (d.slots (a, s)).pAr) ∧
      Selects r .PF_DEV_FILTER_LEVEL_SLOT r.slotNbr (d.slots (a, s)).slotNbr) (w : Writer) :
    putDiagSlot d e r resLen (d.apis a).apiId (a, s) w =
      some (putCalls d e r resLen
        ((List.range PNET_MAX_SUBSLOTS).flatMap fun i => callsAt d r (a, s, i)) w) := by
  unfold putDiagSlot
  refine foldlM_putCalls ?_ w
  intro i hi w
  dsimp only
  rw [if_selected]
  by_cases hv : Visits d r (a, s, i)
  · rcases hv.1 with ⟨⟨-, -, -, hused⟩, -, -, hsub, howned⟩
    rw [if_pos ⟨hused, howned, hsub⟩]
    exact putDiagSubslot_eq (hends _ hv) hv w
  · rw [callsAt, if_neg hv, if_neg]
    · rfl
    · rintro ⟨hused, howned, hsub⟩
      apply hv
      refine ⟨⟨⟨⟨hapi.1, hapi.2.1⟩, ⟨hslot.1, hslot.2.1⟩, List.mem_range.mp hi, hused⟩,
        hapi.2.2.2, hslot.2.2.2, hsub, howned⟩, ?_⟩
      rcases hapi.2.2.1 with hnone | ha
      · exact .inl hnone
      · rcases hslot.2.2.1 with hnone | hs
        · exact .inl hnone
        · exact .inr ⟨ha, hs⟩

theorem callsAt_nil {q : SubslotPos} (h : ¬ Visits d r q) : callsAt d r q = [] := by
  rw [callsAt, if_neg h]

theorem putDiagApi_eq (hends : ∀ q, Visits d r q → (d.diagItemsOf q).isSome)
    (hapi : a < PNET_MAX_API ∧ (d.apis a).inUse = true ∧
      (r.pAr = none ∨ r.pAr = (d.apis a).pAr) ∧
      Selects r .PF_DEV_FILTER_LEVEL_API r.apiId (d.apis a).apiId) (w : Writer) :
    putDiagApi d e r resLen a w =
      some (putCalls d e r resLen ((List.range PNET_MAX_SLOTS).flatMap fun s =>
        (List.range PNET_MAX_SUBSLOTS).flatMap fun i => callsAt d r (a, s, i)) w) := by
  unfold putDiagApi
  refine foldlM_putCalls ?_ w
  intro s hs w
  dsimp only
  rw [if_selected]
  by_cases hslot : (d.slots (a, s)).inUse = true ∧ (r.pAr = none ∨ r.pAr = (d.slots (a, s)).pAr) ∧
      Selects r .PF_DEV_FILTER_LEVEL_SLOT r.slotNbr (d.slots (a, s)).slotNbr
  · exact (if_pos hslot).trans (putDiagSlot_eq hends hapi ⟨List.mem_range.mp hs, hslot⟩ w)
  · have hnil : ((List.range PNET_MAX_SUBSLOTS).flatMap fun i => callsAt d r (a, s, i)) = [] := by
      refine List.flatMap_eq_nil_iff.mpr fun i _ => callsAt_nil fun hv => hslot ?_
      rcases hv with ⟨⟨⟨-, ⟨-, hused⟩, -⟩, -, hsel, -⟩, haround⟩
      exact ⟨hused, haround.imp_right And.right, hsel⟩
    rw [hnil]
    exact if_neg hslot

/-- The nested loops are one. -/
theorem putDiagData_eq (hends : ∀ q, Visits d r q → (d.diagItemsOf q).isSome) (w : Writer) :
    putDiagData d e r resLen w = some (putCalls d e r resLen (calls d r) w) := by
  have hcalls : calls d r = (List.range PNET_MAX_API).flatMap fun a =>
      (List.range PNET_MAX_SLOTS).flatMap fun s =>
        (List.range PNET_MAX_SUBSLOTS).flatMap fun i => callsAt d r (a, s, i) := by
    simp only [calls, subslotPositions, List.flatMap_assoc, List.flatMap_map]
  rw [hcalls]
  unfold putDiagData
  refine foldlM_putCalls ?_ w
  intro a ha w
  dsimp only
  rw [if_selected]
  by_cases hapi : (d.apis a).inUse = true ∧ (r.pAr = none ∨ r.pAr = (d.apis a).pAr) ∧
      Selects r .PF_DEV_FILTER_LEVEL_API r.apiId (d.apis a).apiId
  · exact (if_pos hapi).trans (putDiagApi_eq hends ⟨List.mem_range.mp ha, hapi⟩ w)
  · have hnil : ((List.range PNET_MAX_SLOTS).flatMap fun s =>
        (List.range PNET_MAX_SUBSLOTS).flatMap fun i => callsAt d r (a, s, i)) = [] := by
      refine List.flatMap_eq_nil_iff.mpr fun s _ => List.flatMap_eq_nil_iff.mpr fun i _ =>
        callsAt_nil fun hv => hapi ?_
      rcases hv with ⟨⟨⟨⟨-, hused⟩, -⟩, hsel, -⟩, haround⟩
      exact ⟨hused, haround.imp_right And.left, hsel⟩
    rw [hnil]
    exact if_neg hapi

/-! ## With and without room -/

/-- The block that a call would put. -/
def callRaw (d : Device) (e : Bool) (r : DiagRead) (c : SubslotPos × BitVec 16) : RawBlock where
  apiId := ((d.apis c.1.1).apiId.setWidth 16).setWidth 32
  slotNbr := (d.slots (c.1.1, c.1.2.1)).slotNbr
  subslotNbr := (d.subslots c.1).subslotNbr
  usi := c.2
  data := insertedBytes e r.diagFilter c.2 (itemsAt d c.1)

/-- The calls that put a block. -/
def puttingCalls (d : Device) (e : Bool) (r : DiagRead) (cs : List (SubslotPos × BitVec 16)) :
    List (SubslotPos × BitVec 16) :=
  cs.filter fun c => (callRaw d e r c).data ≠ []

/-- The bytes of all blocks. -/
def allBytes (d : Device) (e : Bool) (r : DiagRead) (cs : List (SubslotPos × BitVec 16)) :
    List Byte :=
  (puttingCalls d e r cs).flatMap fun c => (callRaw d e r c).bytes e

variable {w : Writer} {cs : List (SubslotPos × BitVec 16)} {c : SubslotPos × BitVec 16}

theorem callRaw_data (c : SubslotPos × BitVec 16) :
    (callRaw d e r c).data = insertedBytes e r.diagFilter c.2 (itemsAt d c.1) := rfl

theorem allBytes_cons_of_empty (h : (callRaw d e r c).data = []) :
    allBytes d e r (c :: cs) = allBytes d e r cs := by
  rw [allBytes, puttingCalls, List.filter_cons_of_neg (by simpa using h)]
  rfl

theorem allBytes_cons_of_some (h : (callRaw d e r c).data ≠ []) :
    allBytes d e r (c :: cs) = (callRaw d e r c).bytes e ++ allBytes d e r cs := by
  rw [allBytes, puttingCalls, List.filter_cons_of_pos (by simpa using h), List.flatMap_cons]
  rfl

/-- With room for all blocks they are put. -/
theorem putCalls_of_room (h : (allBytes d e r cs).length ≤ resLen - w.pos) :
    Puts w (putCalls d e r resLen cs w) (allBytes d e r cs) := by
  induction cs generalizing w with
  | nil => exact Puts.refl rfl fun _ _ => rfl
  | cons c cs ih =>
    by_cases hdata : (callRaw d e r c).data = []
    · rw [allBytes_cons_of_empty hdata] at h ⊢
      have hfirst := @putDiagList_empty resLen e r.diagFilter c.2
        ((d.apis c.1.1).apiId.setWidth 16) (d.slots (c.1.1, c.1.2.1)).slotNbr
        (d.subslots c.1).subslotNbr (itemsAt d c.1) w hdata
      exact hfirst.trans (ih (by rw [hfirst.1]; exact h))
    · rw [allBytes_cons_of_some hdata] at h ⊢
      rw [List.length_append, RawBlock.bytes_length, callRaw_data] at h
      have hfirst := @putDiagList_of_room resLen e r.diagFilter c.2
        ((d.apis c.1.1).apiId.setWidth 16) (d.slots (c.1.1, c.1.2.1)).slotNbr
        (d.subslots c.1).subslotNbr (itemsAt d c.1) w hdata (by omega)
      refine hfirst.trans (ih ?_)
      rw [hfirst.1, RawBlock.bytes_length]
      dsimp only
      omega

/-- In any room no more than the blocks is put. -/
theorem putCalls_bounds :
    w.pos ≤ (putCalls d e r resLen cs w).pos ∧
      (putCalls d e r resLen cs w).pos ≤ w.pos + (allBytes d e r cs).length ∧
      (putCalls d e r resLen cs w).pos ≤ max w.pos resLen := by
  induction cs generalizing w with
  | nil => exact ⟨le_refl _, Nat.le_add_right _ _, le_max_left _ _⟩
  | cons c cs ih =>
    have hfirst := @putDiagList_bounds resLen e r.diagFilter c.2
      ((d.apis c.1.1).apiId.setWidth 16) (d.slots (c.1.1, c.1.2.1)).slotNbr
      (d.subslots c.1).subslotNbr (itemsAt d c.1) w
    rcases @ih (putCall d e r resLen w c) with ⟨hle, hlen, hstays⟩
    have hneeded : neededFor (insertedBytes e r.diagFilter c.2 (itemsAt d c.1)) +
        (allBytes d e r cs).length = (allBytes d e r (c :: cs)).length := by
      unfold neededFor
      split
      · rename_i hdata
        rw [allBytes_cons_of_empty hdata, Nat.zero_add]
      · rename_i hdata
        rw [allBytes_cons_of_some hdata, List.length_append, RawBlock.bytes_length]
        rfl
    have hput : putDiagList e r.diagFilter c.2 ((d.apis c.1.1).apiId.setWidth 16)
        (d.slots (c.1.1, c.1.2.1)).slotNbr (d.subslots c.1).subslotNbr (itemsAt d c.1) resLen w =
        putCall d e r resLen w c := rfl
    have hrun : putCalls d e r resLen (c :: cs) w =
        putCalls d e r resLen cs (putCall d e r resLen w c) := rfl
    rw [hput] at hfirst
    rw [hrun]
    omega

end Device

end PNet.Cmdev
