import Mathlib.Data.Fintype.Pi
import PNet.Fspm.ImRead
import PNet.Lib.Runs

/-! # The two locations of a device

The location of a device is kept twice: as the tag location of I&M1, and as the system location of
SNMP, which is longer. Each has its file. A stack with the SNMP server (`pf_snmp.c`) has to keep them
in step.

* `tagLocation_put`: the tag location, as reads of I&M1 see it
* `inStep_iff`: in a run the locations stay in step exactly when no reset is one of the communication
  parameters only, and no write of I&M1 is too long - unless there is nothing to lose
-/

namespace PNet.Fspm

open Block

/-! ## Strings -/

/-- The characters of a string with its terminator in an array of `size` bytes. -/
structure CString (size : ℕ) where
  chars : List Byte
  noNul : 0 ∉ chars
  fits : chars.length < size
deriving DecidableEq, Repr

/-- The characters of an array behind which stands a terminator. -/
def stringOf {n : ℕ} (array : Vector Byte n) : List Byte := array.toList.takeWhile (· ≠ 0)

/-- What the format `%-22s` makes of a string. -/
def format22 (chars : List Byte) : List Byte := chars ++ List.replicate (22 - chars.length) 0x20

theorem stringOf_noNul {n : ℕ} (array : Vector Byte n) : 0 ∉ stringOf array := by
  intro h
  unfold stringOf at h
  exact absurd (List.mem_takeWhile_imp h) (by decide)

theorem stringOf_length {n : ℕ} (array : Vector Byte n) : (stringOf array).length ≤ n := by
  have h := (List.takeWhile_prefix (l := array.toList) (· ≠ 0)).length_le
  rwa [Vector.length_toList] at h

theorem format22_noNul {chars : List Byte} (h : 0 ∉ chars) : 0 ∉ format22 chars := by
  intro hmem
  rcases List.mem_append.mp hmem with hchars | hblank
  · exact h hchars
  · exact absurd (List.eq_of_mem_replicate hblank) (by decide)

theorem format22_length {chars : List Byte} (h : chars.length ≤ 22) :
    (format22 chars).length = 22 := by
  unfold format22
  rw [List.length_append, List.length_replicate]
  omega

/-- A string of 22 characters is not padded. -/
theorem format22_full {chars : List Byte} (h : chars.length = 22) : format22 chars = chars := by
  unfold format22
  rw [h]
  exact List.append_nil _

/-- Padding and cutting off can be exchanged. -/
theorem format22_take (chars : List Byte) :
    (format22 chars).take 22 = format22 (chars.take 22) := by
  by_cases hlong : chars.length ≤ 22
  · rw [List.take_of_length_le (format22_length hlong).le, List.take_of_length_le hlong]
  · have hcut : (chars.take 22).length = 22 := by
      rw [List.length_take]
      omega
    rw [format22_full hcut]
    unfold format22
    rw [List.take_append_of_le_length (by omega)]

/-! ## The tag location of I&M1 -/

/-- The tag location, as it stands in the record I&M1 (`tagLocation_put`). -/
def tagLocation (im1 : Im1) : List Byte := format22 (stringOf im1.imTagLocation)

/-! ## The state -/

/-- The two locations with their files, and whether the background worker still has to save the I&M
data. -/
structure Locations where
  im : ImStore
  systemLocation : CString 256
  systemLocationFile : Option (CString 256)
  savePending : Bool

/-- The tag location of 22 characters. -/
def Locations.setImLocation (st : Locations) (chars : List Byte) : Locations :=
  let imTagLocation := Vector.ofFn fun i => (format22 chars).getD i 0
  { st with im.data.im1.imTagLocation := imTagLocation }

theorem imLocation_noNul (im1 : Im1) : 0 ∉ (tagLocation im1).take 22 := fun h =>
  format22_noNul (stringOf_noNul _) (List.mem_of_mem_take h)

theorem imLocation_fits (im1 : Im1) : ((tagLocation im1).take 22).length < 256 :=
  (List.length_take_le _ _).trans_lt (by decide)

/-- `pf_fspm_get_im_location`. -/
def getImLocation (im1 : Im1) : CString 256 :=
  ⟨(tagLocation im1).take 22, imLocation_noNul im1, imLocation_fits im1⟩

namespace Locations

/-- `pf_fspm_save_im_location`. -/
def saveImLocation (st : Locations) (chars : List Byte) : Locations :=
  { st.setImLocation chars with savePending := true }

/-- `pf_snmp_set_system_location`. -/
def setSystemLocation (st : Locations) (location : CString 256) : Locations :=
  { st with systemLocation := location, systemLocationFile := some location }.saveImLocation
    location.chars

/-- `pf_snmp_fspm_im_location_ind`. -/
def imLocationInd (st : Locations) : Locations :=
  { st with systemLocation := getImLocation st.im.data.im1, systemLocationFile := none }

/-- `pf_fspm_cm_write_ind` with an I&M record. -/
def imWrite (st : Locations) (supported index : BitVec 16) (bytes : ℕ → Byte) (writeLength : ℕ)
    (stat : PnetResult) : Locations :=
  let (ret, _, im) := Fspm.imWrite supported true index bytes writeLength st.im stat
  let st := { st with im }
  if index = PF_IDX_SUB_IM_1 ∧ ret = 0 then st.imLocationInd else st

/-- `pf_fspm_clear_im_data`. -/
def clearImData (st : Locations) : Locations :=
  let data : ImData :=
    { im1 := ⟨Vector.replicate 32 0x20, Vector.replicate 22 0x20⟩
      imDate := Vector.replicate 16 0x20
      imDescriptor := Vector.replicate 54 0x20
      imSignature := Vector.replicate 54 0 }
  { st with im.data := data, savePending := true }

/-- `pf_snmp_data_clear`. -/
def snmpDataClear (st : Locations) : Locations :=
  { st with systemLocation := ⟨[], List.not_mem_nil, Nat.zero_lt_succ _⟩, systemLocationFile := none }

/-- What `pf_cmina_set_default_cfg` does to the locations. -/
def setDefaultCfg (st : Locations) (resetMode : BitVec 16) : Locations :=
  let st := if resetMode = 1 ∨ 3 ≤ resetMode then st.clearImData.snmpDataClear else st
  if resetMode = 2 ∨ 3 ≤ resetMode then st.snmpDataClear else st

/-- The background worker. -/
def bgWorker (st : Locations) : Locations :=
  if st.savePending then { st with im := saveIm true st.im, savePending := false } else st

end Locations

/-- `pf_fspm_load_im`. -/
def loadIm (store : ImStore) : ImStore :=
  match store.file with
  | some data => { store with data }
  | none => store

/-- `pf_fspm_init` and `pf_snmp_data_init`, with the I&M data of the configuration and the files. -/
def startUp (cfg : ImData) (imFile : Option ImData) (systemLocationFile : Option (CString 256)) :
    Locations :=
  let im := saveIm true (loadIm ⟨cfg, imFile⟩)
  let systemLocation := match systemLocationFile with
    | some location => location
    | none => getImLocation im.data.im1
  ⟨im, systemLocation, systemLocationFile, false⟩

/-! ## Runs -/

inductive LocationEvent where
  | snmpSet (location : CString 256)
  | imWrite (supported index : BitVec 16) (bytes : ℕ → Byte) (writeLength : ℕ) (stat : PnetResult)
  | reset (resetMode : BitVec 16)
  | bgWorker
  /-- With the configuration of the next start. -/
  | restart (cfg : ImData)

namespace Locations

/-- The device is not restarted while the background worker has something to do. -/
def step (st : Locations) : LocationEvent → Option Locations
  | .snmpSet location => some (st.setSystemLocation location)
  | .imWrite supported index bytes writeLength stat =>
    some (st.imWrite supported index bytes writeLength stat)
  | .reset resetMode => some (st.setDefaultCfg resetMode)
  | .bgWorker => some st.bgWorker
  | .restart cfg => if st.savePending then none else some (startUp cfg st.im.file st.systemLocationFile)

/-- A system location as I&M1 has room for it. -/
def tagOf (location : CString 256) : List Byte := format22 (location.chars.take 22)

/-- The tag location is the system location, cut off and padded. -/
def InStep (st : Locations) : Prop := tagLocation st.im.data.im1 = tagOf st.systemLocation

/-- The step does not take a location from one side only. -/
def Careful (st : Locations) : LocationEvent → Prop
  | .imWrite supported index bytes writeLength _ =>
    index = PF_IDX_SUB_IM_1 → supported &&& PNET_SUPPORTED_IM1 ≠ 0 → 54 < writeLength →
      format22 (stringOf (field bytes 32 22)) = tagLocation st.im.data.im1
  | .reset resetMode => resetMode = 2 → tagLocation st.im.data.im1 = List.replicate 22 0x20
  | _ => True

/-- The locations are in step, and those in the files will be after a restart. -/
structure Inv (st : Locations) : Prop where
  inStep : st.InStep
  systemFile : ∀ location, st.systemLocationFile = some location →
    tagOf location = tagOf st.systemLocation
  imFile : st.savePending = false → ∃ data, st.im.file = some data ∧
    tagLocation data.im1 = tagLocation st.im.data.im1

end Locations

namespace Locations
variable {st : Locations} {e : LocationEvent}

/-! ## What the steps do -/

theorem getImLocation_tag (im1 : Im1) : tagOf (getImLocation im1) = tagLocation im1 := by
  have hlength : (tagLocation im1).length = 22 := format22_length (stringOf_length _)
  have hchars : (getImLocation im1).chars = tagLocation im1 :=
    List.take_of_length_le hlength.le
  unfold tagOf
  rw [hchars, List.take_of_length_le hlength.le, format22_full hlength]

/-- What SNMP stores as the tag location is read as the system location. -/
theorem setImLocation_tag (location : CString 256) :
    tagLocation (st.setImLocation location.chars).im.data.im1 = tagOf location := by
  have hlength : ((format22 location.chars).take 22).length = 22 := by
    rw [format22_take, format22_length (List.length_take_le _ _)]
  have harray : (Vector.ofFn fun i : Fin 22 => (format22 location.chars).getD i 0).toList =
      (format22 location.chars).take 22 := by
    apply List.ext_getElem
    · rw [Vector.length_toList, hlength]
    · intro i hi hi'
      rw [List.getElem_take, Vector.getElem_toList, Vector.getElem_ofFn]
      exact (List.getElem_eq_getD 0).symm
  have hnoNul : ∀ b ∈ (format22 location.chars).take 22, decide (b ≠ 0) = true := by
    intro b hb
    apply decide_eq_true
    rintro rfl
    exact format22_noNul location.noNul (List.mem_of_mem_take hb)
  show format22 (stringOf (Vector.ofFn fun i : Fin 22 => (format22 location.chars).getD i 0)) = _
  unfold stringOf tagOf
  rw [harray, List.takeWhile_eq_self_iff.mpr hnoNul, format22_full hlength, format22_take]

theorem startUp_inv (cfg : ImData) (imFile : Option ImData)
    (systemLocationFile : Option (CString 256))
    (hfiles : ∀ location, systemLocationFile = some location → ∃ data, imFile = some data ∧
      tagLocation data.im1 = tagOf location) :
    Inv (startUp cfg imFile systemLocationFile) := by
  refine ⟨?_, ?_, fun _ => ⟨_, rfl, rfl⟩⟩
  · cases systemLocationFile with
    | none => exact (getImLocation_tag _).symm
    | some location =>
      rcases hfiles location rfl with ⟨data, rfl, htag⟩
      exact htag
  · intro location heq
    obtain rfl : systemLocationFile = some location := heq
    rfl

section
variable {supported index : BitVec 16} {bytes : ℕ → Byte} {writeLength : ℕ} {stat : PnetResult}

theorem imCopy_im1 {flag : BitVec 16} {size : ℕ} {stored data : ImData}
    (h : stored.im1 = data.im1) :
    (imCopy supported flag size writeLength stored data stat).2.2.im1 = data.im1 := by
  unfold imCopy
  split
  · split
    · exact h
    · rfl
  · rfl

/-- A record that is not I&M1 leaves I&M1 alone. -/
theorem imSwitch_im1_of_ne (h1 : index ≠ PF_IDX_SUB_IM_1) (data : ImData) :
    (imSwitch supported index bytes writeLength data stat).2.2.im1 = data.im1 := by
  unfold imSwitch
  by_cases h0 : index = Rpc.PF_IDX_SUB_IM_0
  · rw [if_pos h0]
  rw [if_neg h0, if_neg h1]
  split
  · exact imCopy_im1 rfl
  split
  · exact imCopy_im1 rfl
  split
  · exact imCopy_im1 rfl
  · rfl

/-- A write that leaves the tag location as it was. -/
theorem Inv.of_write (h : st.Inv) {im : ImStore}
    (htag : tagLocation im.data.im1 = tagLocation st.im.data.im1)
    (hfile : im.file = st.im.file ∨ im.file = some im.data) :
    Inv { st with im } := by
  refine ⟨htag.trans h.inStep, h.systemFile, ?_⟩
  intro hpending
  rcases hfile with hfile | hfile
  · rcases h.imFile hpending with ⟨data, hdata, hsame⟩
    exact ⟨data, hfile.trans hdata, hsame.trans htag.symm⟩
  · exact ⟨im.data, hfile, rfl⟩

theorem imWrite_of_ne (h : st.Inv) (h1 : index ≠ PF_IDX_SUB_IM_1) :
    (st.imWrite supported index bytes writeLength stat).Inv := by
  have hkeeps := @imSwitch_im1_of_ne supported index bytes writeLength stat h1 st.im.data
  unfold Locations.imWrite Fspm.imWrite
  generalize imSwitch supported index bytes writeLength st.im.data stat = out at hkeeps ⊢
  rcases out with ⟨ret, stat', data⟩
  dsimp only at hkeeps ⊢
  rw [if_neg (fun h => h1 h.1)]
  have htag : tagLocation data.im1 = tagLocation st.im.data.im1 := by rw [hkeeps]
  split
  · exact h.of_write htag (.inr rfl)
  · exact h.of_write htag (.inl rfl)

/-- After an accepted write of I&M1 SNMP has its location. -/
theorem imLocationInd_inv (hfile : st.im.file = some st.im.data) : st.imLocationInd.Inv :=
  ⟨(getImLocation_tag _).symm, nofun, fun _ => ⟨_, hfile, rfl⟩⟩

/-- A refused write saves nothing, and SNMP hears nothing of it. -/
theorem imWrite_refused {stat' : PnetResult} {data : ImData}
    (h : imSwitch supported index bytes writeLength st.im.data stat = (-1, stat', data)) :
    st.imWrite supported index bytes writeLength stat =
      { st with im := ⟨data, st.im.file⟩ } := by
  have hret : ¬ (-1 : ℤ) = 0 := by decide
  unfold Locations.imWrite Fspm.imWrite
  rw [h]
  dsimp only
  rw [if_neg hret, if_neg (fun h => hret h.2)]

/-- A write of I&M1 that is not too long keeps the locations in step. -/
theorem imWrite_im1 (h : st.Inv) (hsupported : supported &&& PNET_SUPPORTED_IM1 ≠ 0)
    (hlength : ¬ 54 < writeLength) :
    (st.imWrite supported PF_IDX_SUB_IM_1 bytes writeLength stat).Inv := by
  have hswitch := @imSwitch_im1 supported bytes writeLength stat hsupported st.im.data
  dsimp only at hswitch
  by_cases hwhole : writeLength = 54
  · rw [if_pos hwhole] at hswitch
    unfold Locations.imWrite Fspm.imWrite
    rw [hswitch]
    exact imLocationInd_inv rfl
  · rw [if_neg hwhole] at hswitch
    rw [imWrite_refused hswitch]
    refine h.of_write ?_ (.inl rfl)
    rw [if_pos (by omega : writeLength < 54)]
    rfl

/-- One that is too long changes the tag location only. -/
theorem imWrite_long (hsupported : supported &&& PNET_SUPPORTED_IM1 ≠ 0)
    (hlength : 54 < writeLength) :
    ∃ data, st.imWrite supported PF_IDX_SUB_IM_1 bytes writeLength stat =
        { st with im := ⟨data, st.im.file⟩ } ∧
      tagLocation data.im1 = format22 (stringOf (field bytes 32 22)) := by
  have hswitch := @imSwitch_im1 supported bytes writeLength stat hsupported st.im.data
  dsimp only at hswitch
  rw [if_neg (by omega), if_neg (by omega), if_neg (by omega)] at hswitch
  exact ⟨_, imWrite_refused hswitch, rfl⟩

end

theorem imWrite_unsupported (h : st.Inv) {supported : BitVec 16} {bytes : ℕ → Byte}
    {writeLength : ℕ} {stat : PnetResult} (hsupported : ¬ supported &&& PNET_SUPPORTED_IM1 ≠ 0) :
    (st.imWrite supported PF_IDX_SUB_IM_1 bytes writeLength stat).Inv := by
  have hswitch : imSwitch supported PF_IDX_SUB_IM_1 bytes writeLength st.im.data stat =
      (-1, imRefused stat PNET_ERROR_CODE_1_ACC_INVALID_INDEX, st.im.data) := by
    unfold imSwitch
    rw [if_neg (by decide), if_pos rfl, if_neg hsupported]
  rw [imWrite_refused hswitch]
  exact h

/-- A reset of the application parameters leaves no location. -/
theorem clear_inv (st : Locations) : st.clearImData.snmpDataClear.Inv := by
  have hblank : tagLocation st.clearImData.im.data.im1 = List.replicate 22 0x20 := by
    show tagLocation ⟨Vector.replicate 32 0x20, Vector.replicate 22 0x20⟩ = _
    decide
  refine ⟨hblank, nofun, ?_⟩
  intro hpending
  cases hpending

theorem reset_inv (h : st.Inv) (resetMode : BitVec 16) :
    ((st.setDefaultCfg resetMode).InStep ↔ st.Careful (.reset resetMode)) ∧
      (st.Careful (.reset resetMode) → (st.setDefaultCfg resetMode).Inv) := by
  unfold setDefaultCfg Careful
  by_cases hfactory : 3 ≤ resetMode
  · -- both kinds of parameters
    have hmode : resetMode ≠ 2 := by
      rintro rfl
      exact absurd hfactory (by decide)
    simp only [if_pos (Or.inr hfactory)]
    have hinv := clear_inv st
    exact ⟨iff_of_true hinv.inStep (fun h => absurd h hmode), fun _ => hinv⟩
  by_cases hcommunication : resetMode = 2
  · subst hcommunication
    have hneither : ¬ ((2 : BitVec 16) = 1 ∨ (3 : BitVec 16) ≤ 2) := by decide
    simp only [if_neg hneither, true_or, if_true, forall_const]
    refine ⟨Iff.rfl, ?_⟩
    intro hblank
    exact ⟨hblank, nofun, h.imFile⟩
  · simp only [if_neg (not_or.mpr ⟨hcommunication, hfactory⟩)]
    have hinv : (if resetMode = 1 ∨ 3 ≤ resetMode then st.clearImData.snmpDataClear else st).Inv := by
      split
      · exact clear_inv st
      · exact h
    exact ⟨iff_of_true hinv.inStep (fun h => absurd h hcommunication), fun _ => hinv⟩

theorem bgWorker_inv (h : st.Inv) : st.bgWorker.Inv := by
  unfold bgWorker
  split
  · exact ⟨h.inStep, h.systemFile, fun _ => ⟨_, rfl, rfl⟩⟩
  · exact h

theorem setSystemLocation_inv (st : Locations) (location : CString 256) :
    (st.setSystemLocation location).Inv := by
  refine ⟨setImLocation_tag location, ?_, ?_⟩
  · rintro location' ⟨⟩
    rfl
  · intro hpending
    cases hpending

theorem step_inv (h : st.Inv) {st' : Locations} (hstep : st.step e = some st') :
    (st'.InStep ↔ st.Careful e) ∧ (st.Careful e → st'.Inv) := by
  have hkept (hinv : st'.Inv) (hcareful : st.Careful e) :
      (st'.InStep ↔ st.Careful e) ∧ (st.Careful e → st'.Inv) :=
    ⟨iff_of_true hinv.inStep hcareful, fun _ => hinv⟩
  cases e with
  | snmpSet location =>
    obtain rfl := Option.some.inj hstep
    exact hkept (setSystemLocation_inv st location) trivial
  | imWrite supported index bytes writeLength stat =>
    obtain rfl := Option.some.inj hstep
    by_cases h1 : index = PF_IDX_SUB_IM_1
    · subst h1
      by_cases hsupported : supported &&& PNET_SUPPORTED_IM1 ≠ 0
      · by_cases hlength : 54 < writeLength
        · -- nobody tells SNMP
          rcases @imWrite_long st supported bytes writeLength stat hsupported hlength with
            ⟨data, hwrite, htag⟩
          have hcareful : st.Careful (.imWrite supported PF_IDX_SUB_IM_1 bytes writeLength stat) ↔
              format22 (stringOf (field bytes 32 22)) = tagLocation st.im.data.im1 :=
            ⟨fun h => h rfl hsupported hlength, fun h _ _ _ => h⟩
          rw [hwrite, hcareful, ← htag, h.inStep]
          refine ⟨Iff.rfl, ?_⟩
          intro hsame
          exact h.of_write (hsame.trans h.inStep.symm) (.inl rfl)
        · exact hkept (imWrite_im1 h hsupported hlength) (fun _ _ h => absurd h hlength)
      · exact hkept (imWrite_unsupported h hsupported) (fun _ h => absurd h hsupported)
    · exact hkept (imWrite_of_ne h h1) (fun h => absurd h h1)
  | reset resetMode =>
    obtain rfl := Option.some.inj hstep
    exact reset_inv h resetMode
  | bgWorker =>
    obtain rfl := Option.some.inj hstep
    exact hkept (bgWorker_inv h) trivial
  | restart cfg =>
    change (if st.savePending = true then none else some (startUp cfg _ _)) = some st' at hstep
    cases hpending : st.savePending with
    | true =>
      rw [if_pos hpending] at hstep
      cases hstep
    | false =>
      rw [if_neg (Bool.not_eq_true _ ▸ hpending)] at hstep
      obtain rfl := Option.some.inj hstep
      refine hkept (startUp_inv _ _ _ ?_) trivial
      intro location hlocation
      rcases h.imFile hpending with ⟨data, hdata, htag⟩
      exact ⟨data, hdata, htag.trans (h.inStep.trans (h.systemFile location hlocation).symm)⟩

theorem careful_of_none (h : st.step e = none) : st.Careful e := by
  cases e with
  | restart cfg => trivial
  | _ => cases h

end Locations

open Locations

/-- **The two locations stay in step** in exactly the runs in which each step is careful. -/
theorem inStep_iff (cfg : ImData) (es : List LocationEvent) :
    (∀ es' st, es' <+: es → Runs.run step (startUp cfg none none) es' = some st → st.InStep) ↔
      Runs.Along step Careful (startUp cfg none none) es :=
  Runs.always_iff (startUp_inv _ _ _ nofun) (fun _ h => h.inStep) (fun _ _ _ h => step_inv h)
    fun _ _ => careful_of_none

namespace LocationRun

/-- Blanks everywhere. -/
def cfg : ImData := ⟨⟨Vector.replicate 32 0x20, Vector.replicate 22 0x20⟩, Vector.replicate 16 0x20,
  Vector.replicate 54 0x20, Vector.replicate 54 0⟩

def hall : CString 256 := ⟨[0x48, 0x61, 0x6c, 0x6c], by decide, by decide⟩

end LocationRun

open LocationRun in
/-- After a reset of the communication parameters, SNMP has no location any more, and I&M1 has. -/
theorem not_inStep_reset : ¬ ∀ es' st, es' <+: [LocationEvent.snmpSet hall, .reset 2] →
    Runs.run step (startUp cfg none none) es' = some st → st.InStep := by
  intro h
  have hlocations : tagLocation ((startUp cfg none none).setSystemLocation hall).im.data.im1 =
      List.replicate 22 0x20 := h _ _ List.prefix_rfl rfl
  exact absurd hlocations (by decide +kernel)

end PNet.Fspm
