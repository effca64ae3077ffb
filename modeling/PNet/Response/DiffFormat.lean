import PNet.Block.Format
import PNet.Response.Diff

/-! # The format of the module differences

A `ModuleDiffBlock` is a count and the APIs, each a number, a count and its modules, each a slot, an
ident number, a state, a count and its submodules. `pf_put_ar_diff` puts four bytes where a missing
module has its count.

* `roundTrips_iff`: the list is read back exactly when no module is missing, a missing submodule has
  the ident number 0, and the fields and the block have room.
-/

namespace PNet.Response

open Block Rpc

/-! ## Submodule states -/

namespace SubmoduleState

/-- The bit fields have room for the numbers. -/
def Fits (s : SubmoduleState) : Prop :=
  s.addInfo.toNat < 8 ∧ s.arInfo.toNat < 16 ∧ s.identInfo.toNat < 16

def ofValue (v : BitVec 16) : SubmoduleState where
  addInfo := (v.extractLsb' 0 3).setWidth 8
  adviceAvail := v.getLsbD 3
  maintenanceRequired := v.getLsbD 4
  maintenanceDemanded := v.getLsbD 5
  fault := v.getLsbD 6
  arInfo := (v.extractLsb' 7 4).setWidth 8
  identInfo := (v.extractLsb' 11 4).setWidth 8
  formatIndicator := v.getLsbD 15

theorem toNat_inj {a b : Bool} (h : a.toNat = b.toNat) : a = b := by
  cases a <;> cases b <;> first | rfl | cases h

theorem bit_toNat (b : Bool) : (bit b).toNat = b.toNat := by cases b <;> rfl

theorem value_toNat (s : SubmoduleState) :
    s.value.toNat = s.addInfo.toNat % 8 + s.adviceAvail.toNat * 8 +
      s.maintenanceRequired.toNat * 16 + s.maintenanceDemanded.toNat * 32 + s.fault.toNat * 64 +
      s.arInfo.toNat % 16 * 128 + s.identInfo.toNat % 16 * 2048 +
      s.formatIndicator.toNat * 32768 := by
  have hadd := packed_zero.putBits (s.addInfo.setWidth 32) 3 0 (by decide)
    (by decide)
  have hstate := (((hadd.putBits (bit s.adviceAvail) 1 3 (by decide)
    (by decide)).putBits (bit s.maintenanceRequired) 1 4 (by decide)
    (by decide)).putBits (bit s.maintenanceDemanded) 1 5 (by decide)
    (by decide)).putBits (bit s.fault) 1 6 (by decide) (by decide)
  rcases ((hstate.putBits (s.arInfo.setWidth 32) 4 7 (by decide)
    (by decide)).putBits (s.identInfo.setWidth 32) 4 11 (by decide)
    (by decide)).putBits (bit s.formatIndicator) 1 15 (by decide)
    (by decide) with ⟨hvalue, hlt⟩
  rw [value, BitVec.toNat_setWidth, hvalue, Nat.mod_eq_of_lt hlt]
  simp only [bit_toNat, BitVec.toNat_setWidth]
  have h1 := s.adviceAvail.toNat_lt
  have h2 := s.maintenanceRequired.toNat_lt
  have h3 := s.maintenanceDemanded.toNat_lt
  have h4 := s.fault.toNat_lt
  have h5 := s.formatIndicator.toNat_lt
  omega

theorem value_ofValue (v : BitVec 16) : (ofValue v).value = v := by
  apply BitVec.eq_of_toNat_eq
  rw [value_toNat]
  simp only [ofValue, BitVec.toNat_setWidth, BitVec.extractLsb'_toNat, BitVec.getLsbD,
    Nat.toNat_testBit, Nat.shiftRight_eq_div_pow]
  omega

theorem ofValue_fits (v : BitVec 16) : (ofValue v).Fits := by
  refine ⟨?_, ?_, ?_⟩
  all_goals
    simp only [ofValue, BitVec.toNat_setWidth, BitVec.extractLsb'_toNat]
    omega

theorem ofValue_value {s : SubmoduleState} (h : s.Fits) : ofValue s.value = s := by
  rcases h with ⟨hadd, har, hident⟩
  have h1 := s.adviceAvail.toNat_lt
  have h2 := s.maintenanceRequired.toNat_lt
  have h3 := s.maintenanceDemanded.toNat_lt
  have h4 := s.fault.toNat_lt
  have h5 := s.formatIndicator.toNat_lt
  have hv := s.value_toNat
  rcases s with ⟨addInfo, adviceAvail, maintenanceRequired, maintenanceDemanded, fault, arInfo,
    identInfo, formatIndicator⟩
  dsimp only at *
  rw [ofValue, SubmoduleState.mk.injEq]
  refine ⟨?_, ?_, ?_, ?_, ?_, ?_, ?_, ?_⟩
  case refine_1 | refine_6 | refine_7 =>
    apply BitVec.eq_of_toNat_eq
    rw [BitVec.toNat_setWidth, BitVec.extractLsb'_toNat, Nat.shiftRight_eq_div_pow, hv]
    omega
  all_goals
    apply toNat_inj
    rw [BitVec.getLsbD, Nat.toNat_testBit, hv]
    omega

end SubmoduleState

/-! ## The format -/

section
variable (e : Bool)

def submoduleStateFormat : Format Byte SubmoduleState :=
  (uint16Format e).as SubmoduleState.ofValue SubmoduleState.value SubmoduleState.Fits
    (fun v _ => ⟨SubmoduleState.ofValue_fits v, SubmoduleState.value_ofValue v⟩)
    (fun _ h => ⟨trivial, SubmoduleState.ofValue_value h⟩)

def submoduleDiffFormat : Format Byte SubmoduleDiff :=
  ((uint16Format e).prod ((uint32Format e).prod (submoduleStateFormat e))).as
    (fun p => ⟨p.1, p.2.1, p.2.2⟩)
    (fun diff => (diff.subslotNumber, diff.submoduleIdentNumber, diff.submoduleState))
    (fun diff => diff.submoduleState.Fits)
    (fun _ h => ⟨h.2.2, rfl⟩) (fun _ h => ⟨⟨trivial, trivial, h⟩, rfl⟩)

def moduleDiffFormat : Format Byte ModuleDiff :=
  ((uint16Format e).prod ((uint32Format e).prod ((uint16Format e).prod
    (Format.counted (countFormat e) (submoduleDiffFormat e))))).as
    (fun p => ⟨p.1, p.2.1, p.2.2.1, p.2.2.2⟩)
    (fun diff => (diff.slotNumber, diff.moduleIdentNumber, diff.moduleState, diff.submoduleDiffs))
    (fun diff => diff.submoduleDiffs.length < 2 ^ 16 ∧
      ∀ s ∈ diff.submoduleDiffs, s.submoduleState.Fits)
    (fun _ h => ⟨h.2.2.2, rfl⟩) (fun _ h => ⟨⟨trivial, trivial, trivial, h⟩, rfl⟩)

def apiDiffFormat : Format Byte ApiDiff :=
  ((uint32Format e).prod (Format.counted (countFormat e) (moduleDiffFormat e))).as
    (fun p => ⟨p.1, p.2⟩) (fun diff => (diff.api, diff.moduleDiffs))
    (fun diff => diff.moduleDiffs.length < 2 ^ 16 ∧
      ∀ m ∈ diff.moduleDiffs, (moduleDiffFormat e).Valid m)
    (fun _ h => ⟨h.2, rfl⟩) (fun _ h => ⟨⟨trivial, h⟩, rfl⟩)

def apiDiffsFormat : Format Byte (List ApiDiff) :=
  Format.counted (countFormat e) (apiDiffFormat e)

def blockHeaderFormat : Format Byte (BitVec 16 × BitVec 16 × Byte × Byte) :=
  (uint16Format e).prod ((uint16Format e).prod (byteFormat.prod byteFormat))

/-- What a reader takes from the place of the block: no block means no differences. -/
def decodeArDiff (l : List Byte) : Option (List ApiDiff) :=
  if l.isEmpty then some []
  else ((blockHeaderFormat e).get l).bind fun p =>
    if p.1 = (PF_BT_MODULE_DIFF_BLOCK, BitVec.ofNat 16 (l.length - 4), PNET_BLOCK_VERSION_HIGH,
        PNET_BLOCK_VERSION_LOW) ∧ l.length - 4 < 2 ^ 16 then
      (apiDiffsFormat e).decode p.2
    else none

theorem decodeArDiff_block {fields : List Byte} {apiDiffs : List ApiDiff} :
    decodeArDiff e (blockBytes e PF_BT_MODULE_DIFF_BLOCK PNET_BLOCK_VERSION_LOW fields) =
        some apiDiffs ↔
      fields.length + 2 < 2 ^ 16 ∧ (apiDiffsFormat e).Valid apiDiffs ∧
        fields = (apiDiffsFormat e).put apiDiffs := by
  have hlen := blockBytes_length e PF_BT_MODULE_DIFF_BLOCK PNET_BLOCK_VERSION_LOW fields
  have hget := (blockHeaderFormat e).get_put (PF_BT_MODULE_DIFF_BLOCK,
    BitVec.ofNat 16 (fields.length + 2), PNET_BLOCK_VERSION_HIGH, PNET_BLOCK_VERSION_LOW) fields
    ⟨trivial, trivial, trivial, trivial⟩
  have hbytes : blockBytes e PF_BT_MODULE_DIFF_BLOCK PNET_BLOCK_VERSION_LOW fields =
      (blockHeaderFormat e).put (PF_BT_MODULE_DIFF_BLOCK, BitVec.ofNat 16 (fields.length + 2),
        PNET_BLOCK_VERSION_HIGH, PNET_BLOCK_VERSION_LOW) ++ fields := by
    rw [blockBytes, List.append_assoc]
    show _ = (bytes16 e _ ++ (bytes16 e _ ++ [_, _])) ++ fields
    rw [List.append_assoc, List.append_assoc]
    rfl
  have hempty : (blockBytes e PF_BT_MODULE_DIFF_BLOCK PNET_BLOCK_VERSION_LOW fields).isEmpty =
      false := by
    rw [List.isEmpty_eq_false_iff, ← List.length_pos_iff]
    omega
  rw [decodeArDiff, hempty, if_neg (by decide), hlen, hbytes, hget, Option.bind_some]
  have hsub : fields.length + 6 - 4 = fields.length + 2 := by omega
  rw [hsub]
  by_cases hshort : fields.length + 2 < 2 ^ 16
  · rw [if_pos ⟨rfl, hshort⟩, Format.decode_eq_some]
    exact ⟨fun h => ⟨hshort, h⟩, fun h => h.2⟩
  · rw [if_neg fun h => hshort h.2]
    exact ⟨fun h => absurd h (by simp), fun h => absurd h.1 hshort⟩

end

/-! ## What is written and what the format has -/

/-- The bytes that are not 0. -/
def weight (l : List Byte) : ℕ := l.countP (· ≠ 0)

theorem weight_append (l m : List Byte) : weight (l ++ m) = weight l + weight m :=
  List.countP_append

theorem weight_flatMap {α : Type} (f : α → List Byte) (as : List α) :
    weight (as.flatMap f) = (as.map fun a => weight (f a)).sum := by
  induction as with
  | nil => rfl
  | cons a as ih => rw [List.flatMap_cons, weight_append, ih, List.map_cons, List.sum_cons]

theorem weight_zero (e : Bool) : weight (bytes32 e 0) = 0 := by
  cases e <;> rfl

theorem eq_zero_of_weight {l : List Byte} (h : weight l = 0) : l = List.replicate l.length 0 := by
  rw [List.eq_replicate_iff]
  refine ⟨rfl, ?_⟩
  intro b hb
  have hzero := List.countP_eq_zero.mp h b hb
  simpa using hzero

theorem bytes32_eq_zero {e : Bool} {v : BitVec 32} (h : weight (bytes32 e v) = 0) : v = 0 := by
  apply bytes32_injective e
  have hbytes := eq_zero_of_weight h
  rw [bytes32_length] at hbytes
  rw [hbytes]
  cases e <;> rfl

theorem bytes16_eq_zero {e : Bool} {v : BitVec 16} (h : weight (bytes16 e v) = 0) : v = 0 := by
  apply bytes16_injective e
  have hbytes := eq_zero_of_weight h
  rw [bytes16_length] at hbytes
  rw [hbytes]
  cases e <;> rfl

/-- Terms that are not larger, with the same sum, are the same. -/
theorem sum_map_le {α : Type} {f g : α → ℕ} (as : List α) (h : ∀ a ∈ as, f a ≤ g a) :
    (as.map f).sum ≤ (as.map g).sum ∧
      ((as.map f).sum = (as.map g).sum → ∀ a ∈ as, f a = g a) := by
  induction as with
  | nil => exact ⟨le_refl _, fun _ a ha => absurd ha List.not_mem_nil⟩
  | cons a as ih =>
    rcases ih fun b hb => h b (List.mem_cons_of_mem _ hb) with ⟨hle, heq⟩
    have ha := h a List.mem_cons_self
    simp only [List.map_cons, List.sum_cons]
    refine ⟨Nat.add_le_add ha hle, ?_⟩
    intro hsum b hb
    rcases List.mem_cons.mp hb with rfl | hb
    · omega
    · exact heq (by omega) b hb

section
variable (e : Bool)

/-- The ident number of a missing submodule is not put. -/
theorem weight_submoduleDiff (s : SubmoduleDiff) :
    weight (submoduleDiffBytes e s) ≤ weight ((submoduleDiffFormat e).put s) ∧
      (weight (submoduleDiffBytes e s) = weight ((submoduleDiffFormat e).put s) →
        s.submoduleState.identInfo = PF_SUBMOD_PLUG_NO → s.submoduleIdentNumber = 0) := by
  have hput : (submoduleDiffFormat e).put s = bytes16 e s.subslotNumber ++
    (bytes32 e s.submoduleIdentNumber ++ bytes16 e s.submoduleState.value) := rfl
  rw [hput, submoduleDiffBytes]
  simp only [weight_append]
  split
  · rw [weight_zero]
    refine ⟨by omega, ?_⟩
    intro h _
    exact bytes32_eq_zero (by omega : weight (bytes32 e s.submoduleIdentNumber) = 0)
  · rename_i hplugged
    exact ⟨le_refl _, fun _ h => absurd h hplugged⟩

theorem put_moduleDiff (m : ModuleDiff) : (moduleDiffFormat e).put m =
    bytes16 e m.slotNumber ++ (bytes32 e m.moduleIdentNumber ++ (bytes16 e m.moduleState ++
      (bytes16 e (BitVec.ofNat 16 m.submoduleDiffs.length) ++
        m.submoduleDiffs.flatMap (submoduleDiffFormat e).put))) := rfl

/-- With the same bytes that are not 0, a missing module has no submodules. -/
theorem weight_moduleDiff {m : ModuleDiff} (hcount : m.submoduleDiffs.length < 2 ^ 16) :
    weight (moduleDiffBytes e m) ≤ weight ((moduleDiffFormat e).put m) ∧
      (weight (moduleDiffBytes e m) = weight ((moduleDiffFormat e).put m) →
        (m.moduleState = PF_MOD_PLUG_NO_MODULE → m.submoduleDiffs = []) ∧
        ∀ s ∈ m.submoduleDiffs, s.submoduleState.identInfo = PF_SUBMOD_PLUG_NO →
          s.submoduleIdentNumber = 0) := by
  rw [put_moduleDiff, moduleDiffBytes]
  simp only [weight_append]
  split
  · rw [weight_zero]
    refine ⟨by omega, ?_⟩
    intro h
    have hzero := bytes16_eq_zero
      (by omega : weight (bytes16 e (BitVec.ofNat 16 m.submoduleDiffs.length)) = 0)
    have hnil : m.submoduleDiffs = [] := by
      have hnat := congrArg BitVec.toNat hzero
      rw [BitVec.toNat_ofNat, Nat.mod_eq_of_lt hcount] at hnat
      exact List.length_eq_zero_iff.mp hnat
    refine ⟨fun _ => hnil, ?_⟩
    intro s hs
    rw [hnil] at hs
    exact absurd hs List.not_mem_nil
  · rename_i hplugged
    rcases sum_map_le m.submoduleDiffs fun s _ => (weight_submoduleDiff e s).1 with ⟨hle, heq⟩
    rw [weight_append, weight_flatMap, weight_flatMap]
    refine ⟨by omega, ?_⟩
    intro h
    refine ⟨fun hmissing => absurd hmissing hplugged, ?_⟩
    intro s hs
    exact (weight_submoduleDiff e s).2 (heq (by omega) s hs)

theorem length_submoduleDiff (s : SubmoduleDiff) :
    (submoduleDiffBytes e s).length = ((submoduleDiffFormat e).put s).length := by
  have hput : (submoduleDiffFormat e).put s = bytes16 e s.subslotNumber ++
    (bytes32 e s.submoduleIdentNumber ++ bytes16 e s.submoduleState.value) := rfl
  rw [hput, submoduleDiffBytes]
  split
  · simp only [List.length_append, bytes32_length]
  · rfl

/-- A missing module without submodules takes two bytes too many. -/
theorem length_moduleDiff {m : ModuleDiff}
    (hsubs : m.moduleState = PF_MOD_PLUG_NO_MODULE → m.submoduleDiffs = []) :
    ((moduleDiffFormat e).put m).length ≤ (moduleDiffBytes e m).length ∧
      (((moduleDiffFormat e).put m).length = (moduleDiffBytes e m).length →
        m.moduleState ≠ PF_MOD_PLUG_NO_MODULE) := by
  rw [put_moduleDiff, moduleDiffBytes]
  split
  · rename_i hmissing
    rw [hsubs hmissing]
    simp only [List.length_append, bytes32_length, bytes16_length, List.flatMap_nil,
      List.length_nil]
    refine ⟨by omega, ?_⟩
    intro h
    omega
  · rename_i hplugged
    refine ⟨?_, fun _ => hplugged⟩
    simp only [List.length_append, List.length_flatMap, length_submoduleDiff]
    exact le_refl _

theorem put_apiDiff (a : ApiDiff) : (apiDiffFormat e).put a =
    bytes32 e a.api ++ (bytes16 e (BitVec.ofNat 16 a.moduleDiffs.length) ++
      a.moduleDiffs.flatMap (moduleDiffFormat e).put) := rfl

theorem put_apiDiffs (apiDiffs : List ApiDiff) : (apiDiffsFormat e).put apiDiffs =
    bytes16 e (BitVec.ofNat 16 apiDiffs.length) ++ apiDiffs.flatMap (apiDiffFormat e).put := rfl

/-- A list that the block can say as it is. -/
structure Sayable (apiDiffs : List ApiDiff) : Prop where
  modulesPlugged : ∀ a ∈ apiDiffs, ∀ m ∈ a.moduleDiffs, m.moduleState ≠ PF_MOD_PLUG_NO_MODULE
  noIdent : ∀ a ∈ apiDiffs, ∀ m ∈ a.moduleDiffs, ∀ s ∈ m.submoduleDiffs,
    s.submoduleState.identInfo = PF_SUBMOD_PLUG_NO → s.submoduleIdentNumber = 0
  valid : apiDiffs.length < 2 ^ 16 ∧ ∀ a ∈ apiDiffs, a.moduleDiffs.length < 2 ^ 16 ∧
    ∀ m ∈ a.moduleDiffs, m.submoduleDiffs.length < 2 ^ 16 ∧
      ∀ s ∈ m.submoduleDiffs, s.submoduleState.Fits
  short : (arDiffFields e apiDiffs).length + 2 < 2 ^ 16

variable {e} {apiDiffs : List ApiDiff}

theorem Sayable.fields_eq (h : Sayable e apiDiffs) :
    arDiffFields e apiDiffs = (apiDiffsFormat e).put apiDiffs := by
  have hsub : ∀ a ∈ apiDiffs, ∀ m ∈ a.moduleDiffs, ∀ s ∈ m.submoduleDiffs,
      submoduleDiffBytes e s = (submoduleDiffFormat e).put s := by
    intro a ha m hm s hs
    have hput : (submoduleDiffFormat e).put s = bytes16 e s.subslotNumber ++
      (bytes32 e s.submoduleIdentNumber ++ bytes16 e s.submoduleState.value) := rfl
    rw [submoduleDiffBytes, hput]
    split
    · rename_i hmissing
      rw [h.noIdent a ha m hm s hs hmissing]
    · rfl
  have hmod : ∀ a ∈ apiDiffs, ∀ m ∈ a.moduleDiffs,
      moduleDiffBytes e m = (moduleDiffFormat e).put m := by
    intro a ha m hm
    rw [moduleDiffBytes, put_moduleDiff, if_neg (h.modulesPlugged a ha m hm),
      if_neg (h.modulesPlugged a ha m hm), List.flatMap_congr (hsub a ha m hm)]
  have hapi : ∀ a ∈ apiDiffs, apiDiffBytes e a = (apiDiffFormat e).put a := by
    intro a ha
    rw [apiDiffBytes, put_apiDiff, List.flatMap_congr (hmod a ha)]
  rw [arDiffFields, put_apiDiffs, List.flatMap_congr hapi]

/-- Bytes of the format come from a list without missing modules: the bytes that are not 0 show that
nothing else has been left out, and then their number does. -/
theorem sayable_of_fields_eq (hvalid : (apiDiffsFormat e).Valid apiDiffs)
    (hshort : (arDiffFields e apiDiffs).length + 2 < 2 ^ 16)
    (hfields : arDiffFields e apiDiffs = (apiDiffsFormat e).put apiDiffs) :
    Sayable e apiDiffs := by
  have hcount : ∀ a ∈ apiDiffs, ∀ m ∈ a.moduleDiffs, m.submoduleDiffs.length < 2 ^ 16 :=
    fun a ha m hm => ((hvalid.2 a ha).2 m hm).1
  -- the weights
  have hmodWeights : ∀ a ∈ apiDiffs, weight (apiDiffBytes e a) ≤ weight ((apiDiffFormat e).put a) ∧
      (weight (apiDiffBytes e a) = weight ((apiDiffFormat e).put a) →
        ∀ m ∈ a.moduleDiffs, weight (moduleDiffBytes e m) = weight ((moduleDiffFormat e).put m)) := by
    intro a ha
    rcases sum_map_le a.moduleDiffs fun m hm => (weight_moduleDiff e (hcount a ha m hm)).1
      with ⟨hle, heq⟩
    rw [apiDiffBytes, put_apiDiff]
    simp only [weight_append, weight_flatMap]
    exact ⟨by omega, fun h => heq (by omega)⟩
  have hweights : ∀ a ∈ apiDiffs, ∀ m ∈ a.moduleDiffs,
      weight (moduleDiffBytes e m) = weight ((moduleDiffFormat e).put m) := by
    intro a ha
    apply (hmodWeights a ha).2
    have hsum := congrArg weight hfields
    rw [arDiffFields, put_apiDiffs] at hsum
    simp only [weight_append, weight_flatMap] at hsum
    exact (sum_map_le apiDiffs fun a ha => (hmodWeights a ha).1).2 (by omega) a ha
  -- the lengths
  have hmodLengths : ∀ a ∈ apiDiffs,
      ((apiDiffFormat e).put a).length ≤ (apiDiffBytes e a).length ∧
      (((apiDiffFormat e).put a).length = (apiDiffBytes e a).length →
        ∀ m ∈ a.moduleDiffs, ((moduleDiffFormat e).put m).length = (moduleDiffBytes e m).length) := by
    intro a ha
    rcases sum_map_le a.moduleDiffs fun m hm => (length_moduleDiff e
      ((weight_moduleDiff e (hcount a ha m hm)).2 (hweights a ha m hm)).1).1 with ⟨hle, heq⟩
    rw [apiDiffBytes, put_apiDiff]
    simp only [List.length_append, List.length_flatMap]
    exact ⟨by omega, fun h => heq (by omega)⟩
  have hlengths : ∀ a ∈ apiDiffs, ∀ m ∈ a.moduleDiffs,
      ((moduleDiffFormat e).put m).length = (moduleDiffBytes e m).length := by
    intro a ha
    apply (hmodLengths a ha).2
    have hsum := congrArg List.length hfields
    rw [arDiffFields, put_apiDiffs] at hsum
    simp only [List.length_append, List.length_flatMap] at hsum
    exact (sum_map_le apiDiffs fun a ha => (hmodLengths a ha).1).2 (by omega) a ha
  constructor
  · intro a ha m hm
    have hsubs := (weight_moduleDiff e (hcount a ha m hm)).2 (hweights a ha m hm)
    exact (length_moduleDiff e hsubs.1).2 (hlengths a ha m hm)
  · intro a ha m hm
    exact ((weight_moduleDiff e (hcount a ha m hm)).2 (hweights a ha m hm)).2
  · exact hvalid
  · exact hshort

variable (e apiDiffs) in
/-- Into a buffer with room for it, `pf_put_ar_diff` puts a block from which the format gives back
the list, with as many entries behind each count as the count tells. -/
def RoundTrips : Prop :=
  ∀ resLen w, w.pos + (arDiffBytes e apiDiffs).length ≤ resLen →
    ∃ w', putArDiff e apiDiffs resLen w = .ok w' ∧
      decodeArDiff e (Buffer.slice w'.bytes w.pos (w'.pos - w.pos)) = some apiDiffs

theorem written_slice (w : Writer) (bs : List Byte) :
    Buffer.slice (w.append bs).bytes w.pos ((w.append bs).pos - w.pos) = bs := by
  have hlen : (w.append bs).pos - w.pos = bs.length := Nat.add_sub_cancel_left _ _
  rw [hlen]
  exact Buffer.slice_write_self _ _ _

/-- What the reader makes of the block. -/
theorem roundTrips_iff_decode :
    RoundTrips e apiDiffs ↔ decodeArDiff e (arDiffBytes e apiDiffs) = some apiDiffs := by
  constructor
  · intro h
    rcases h (arDiffBytes e apiDiffs).length ⟨fun _ => 0, 0⟩ (by rw [Nat.zero_add])
      with ⟨w', hrun, hdecode⟩
    rw [@writes_arDiff e 0 apiDiffs _ _ (Nat.zero_le _) (by rw [Nat.zero_add, Nat.add_zero])] at hrun
    cases hrun
    rwa [written_slice] at hdecode
  · intro h resLen w hroom
    refine ⟨w.append (arDiffBytes e apiDiffs), ?_, ?_⟩
    · exact @writes_arDiff e 0 apiDiffs resLen w (Nat.zero_le _) hroom
    · rwa [written_slice]

/-- The module differences are read back exactly when the block can say them. -/
theorem roundTrips_iff (e : Bool) (apiDiffs : List ApiDiff) :
    RoundTrips e apiDiffs ↔ Sayable e apiDiffs := by
  rw [roundTrips_iff_decode, arDiffBytes]
  by_cases hnil : apiDiffs = []
  · -- without differences there is no block
    subst hnil
    refine ⟨fun _ => ?_, fun _ => rfl⟩
    have hnone : ∀ a : ApiDiff, a ∉ [] := fun a => List.not_mem_nil
    have hshort : (arDiffFields e []).length + 2 < 2 ^ 16 := by
      rw [arDiffFields, List.flatMap_nil, List.append_nil, bytes16_length]
      decide
    exact ⟨fun a ha => absurd ha (hnone a), fun a ha => absurd ha (hnone a),
      ⟨by decide, fun a ha => absurd ha (hnone a)⟩, hshort⟩
  · rw [if_neg hnil, decodeArDiff_block]
    constructor
    · intro h
      exact sayable_of_fields_eq h.2.1 h.1 h.2.2
    · intro h
      exact ⟨h.short, h.valid, h.fields_eq⟩

end

/-! ## A missing module -/

/-- Two modules of an API; the first one is missing. -/
def missingModule : List ApiDiff :=
  [⟨0, [⟨1, 0, PF_MOD_PLUG_NO_MODULE, []⟩, ⟨2, 0x32, 1, []⟩]⟩]

theorem not_roundTrips_missingModule : ¬RoundTrips true missingModule := by
  intro h
  rw [roundTrips_iff_decode] at h
  revert h
  decide +kernel

end PNet.Response
