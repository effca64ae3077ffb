import PNet.Block.Exact
import PNet.Rpc.Write

/-! # Writing the I&M data

The part of `pf_fspm_cm_write_ind` about the I&M records. I&M1 is read into the data that are kept,
and only then its length is looked at; the other records are copied when their length is right.

* `imWrite_lawful_iff`: a refused write leaves the data as they were, and one that is accepted has
  stored the whole record, exactly when a write of I&M1 has the right length, is shorter than the
  first field, or has the fields that are kept already.
-/

namespace PNet.Fspm

open Block Rpc

def PF_IDX_SUB_IM_1 : BitVec 16 := 0xaff1
def PF_IDX_SUB_IM_2 : BitVec 16 := 0xaff2
def PF_IDX_SUB_IM_3 : BitVec 16 := 0xaff3
def PF_IDX_SUB_IM_4 : BitVec 16 := 0xaff4

def PNET_SUPPORTED_IM1 : BitVec 16 := 0x0002
def PNET_SUPPORTED_IM2 : BitVec 16 := 0x0004
def PNET_SUPPORTED_IM3 : BitVec 16 := 0x0008
def PNET_SUPPORTED_IM4 : BitVec 16 := 0x0010

/-- `pnet_im_1_t`, each array without its terminator. -/
structure Im1 where
  imTagFunction : Vector Byte 32
  imTagLocation : Vector Byte 22
deriving DecidableEq, Repr

/-- The I&M data that can be written. -/
structure ImData where
  im1 : Im1
  imDate : Vector Byte 16
  imDescriptor : Vector Byte 54
  imSignature : Vector Byte 54
deriving DecidableEq, Repr

/-- The I&M data and their file. -/
structure ImStore where
  data : ImData
  file : Option ImData
deriving DecidableEq, Repr

/-- `pf_get_im_1`. -/
def getIm1 (dest : Im1) : Get Im1 := do
  let imTagFunction ← getMem dest.imTagFunction
  let imTagLocation ← getMem dest.imTagLocation
  return ⟨imTagFunction, imTagLocation⟩

/-- `n` bytes of a record. -/
def field (bytes : ℕ → Byte) (pos n : ℕ) : Vector Byte n := Vector.ofFn fun i => bytes (pos + i)

/-- The answers to an I&M record that is not written. -/
def imRefused (stat : PnetResult) (errorCode1 : Byte) : PnetResult :=
  { stat with
    pnioStatus := ⟨PNET_ERROR_CODE_WRITE, PNET_ERROR_DECODE_PNIORW, errorCode1, 0⟩ }

/-- A record that is copied when it has the size of the data. -/
def imCopy (supported flag : BitVec 16) (size writeLength : ℕ) (stored data : ImData)
    (stat : PnetResult) : ℤ × PnetResult × ImData :=
  if supported &&& flag ≠ 0 then
    if writeLength = size then (0, stat, stored)
    else (-1, imRefused stat PNET_ERROR_CODE_1_ACC_WRITE_LENGTH_ERROR, data)
  else (-1, imRefused stat PNET_ERROR_CODE_1_ACC_INVALID_INDEX, data)

/-- The switch over the I&M records, with `supported` from I&M0. -/
def imSwitch (supported index : BitVec 16) (bytes : ℕ → Byte) (writeLength : ℕ) (data : ImData)
    (stat : PnetResult) : ℤ × PnetResult × ImData :=
  if index = PF_IDX_SUB_IM_0 then
    (-1, imRefused stat PNET_ERROR_CODE_1_ACC_ACCESS_DENIED, data)
  else if index = PF_IDX_SUB_IM_1 then
    if supported &&& PNET_SUPPORTED_IM1 ≠ 0 then
      let (im1, r) := getIm1 data.im1 ⟨⟨.PF_PARSE_OK, true, bytes, writeLength⟩, 0⟩
      let data := { data with im1 }
      if r.info.result = .PF_PARSE_OK ∧ r.pos = writeLength then (0, stat, data)
      else (-1, imRefused stat PNET_ERROR_CODE_1_ACC_WRITE_LENGTH_ERROR, data)
    else (-1, imRefused stat PNET_ERROR_CODE_1_ACC_INVALID_INDEX, data)
  else if index = PF_IDX_SUB_IM_2 then
    imCopy supported PNET_SUPPORTED_IM2 16 writeLength
      { data with imDate := field bytes 0 16 } data stat
  else if index = PF_IDX_SUB_IM_3 then
    imCopy supported PNET_SUPPORTED_IM3 54 writeLength
      { data with imDescriptor := field bytes 0 54 } data stat
  else if index = PF_IDX_SUB_IM_4 then
    imCopy supported PNET_SUPPORTED_IM4 54 writeLength
      { data with imSignature := field bytes 0 54 } data stat
  else (-1, imRefused stat PNET_ERROR_CODE_1_ACC_INVALID_INDEX, data)

/-- `pf_fspm_save_im`; `saves` tells whether the file can be written. -/
def saveIm (saves : Bool) (store : ImStore) : ImStore :=
  if saves then { store with file := some store.data } else store

/-- `pf_fspm_cm_write_ind` with an I&M record. -/
def imWrite (supported : BitVec 16) (saves : Bool) (index : BitVec 16) (bytes : ℕ → Byte)
    (writeLength : ℕ) (store : ImStore) (stat : PnetResult) : ℤ × PnetResult × ImStore :=
  let (ret, stat, data) := imSwitch supported index bytes writeLength store.data stat
  let store := { store with data }
  (ret, stat, if ret = 0 then saveIm saves store else store)

/-! ## What a record holds -/

/-- The I&M record of `writeLength` bytes, put into the data; nothing for what is not such a
record. -/
def imRecord (index : BitVec 16) (bytes : ℕ → Byte) (writeLength : ℕ) (data : ImData) :
    Option ImData :=
  if index = PF_IDX_SUB_IM_1 ∧ writeLength = 54 then
    some { data with im1 := ⟨field bytes 0 32, field bytes 32 22⟩ }
  else if index = PF_IDX_SUB_IM_2 ∧ writeLength = 16 then
    some { data with imDate := field bytes 0 16 }
  else if index = PF_IDX_SUB_IM_3 ∧ writeLength = 54 then
    some { data with imDescriptor := field bytes 0 54 }
  else if index = PF_IDX_SUB_IM_4 ∧ writeLength = 54 then
    some { data with imSignature := field bytes 0 54 }
  else none

/-- A refused write leaves the data and the file as they were; one that is accepted has stored the
record, and its file is written unless that fails. -/
def ImLawful (supported : BitVec 16) (saves : Bool) (index : BitVec 16) (bytes : ℕ → Byte)
    (writeLength : ℕ) (store : ImStore) (stat : PnetResult) : Prop :=
  let out := imWrite supported saves index bytes writeLength store stat
  (out.1 ≠ 0 → out.2.2 = store) ∧
    (out.1 = 0 → some out.2.2.data = imRecord index bytes writeLength store.data ∧
      (saves = true → out.2.2.file = some out.2.2.data))

/-- What a write of I&M1 needs. -/
def Im1Keeps (bytes : ℕ → Byte) (writeLength : ℕ) (data : ImData) : Prop :=
  writeLength < 32 ∨ writeLength = 54 ∨
    (field bytes 0 32 = data.im1.imTagFunction ∧
      (54 < writeLength → field bytes 32 22 = data.im1.imTagLocation))

section
variable {bytes : ℕ → Byte} {writeLength : ℕ}

theorem getMem_whole {n : ℕ} {buf : ℕ → Byte} {len pos : ℕ} (dest : Vector Byte n)
    (h : pos + n ≤ len) : getMem dest ⟨⟨.PF_PARSE_OK, true, buf, len⟩, pos⟩ =
      (field buf pos n, ⟨⟨.PF_PARSE_OK, true, buf, len⟩, pos + n⟩) := by
  unfold getMem
  rw [if_neg (fun h => h rfl), if_neg (by dsimp only; omega)]
  rfl

theorem getMem_short {n : ℕ} {buf : ℕ → Byte} {len pos : ℕ} (dest : Vector Byte n)
    (h : len < pos + n) : getMem dest ⟨⟨.PF_PARSE_OK, true, buf, len⟩, pos⟩ =
      (dest, ⟨⟨.PF_PARSE_END_OF_INPUT, true, buf, len⟩, pos⟩) := by
  unfold getMem
  rw [if_neg (fun h => h rfl), if_pos h]
  rfl

theorem getMem_failed {n : ℕ} (dest : Vector Byte n) {r : Reader}
    (h : r.info.result ≠ .PF_PARSE_OK) : getMem dest r = (dest, r) := by
  unfold getMem
  rw [if_pos h]

/-- What is left of the stored data of I&M1, and whether the record is accepted. -/
theorem getIm1_eq (dest : Im1) (writeLength : ℕ) :
    ∃ r : Reader, getIm1 dest ⟨⟨.PF_PARSE_OK, true, bytes, writeLength⟩, 0⟩ =
      (⟨if writeLength < 32 then dest.imTagFunction else field bytes 0 32,
        if writeLength < 54 then dest.imTagLocation else field bytes 32 22⟩, r) ∧
      (r.info.result = .PF_PARSE_OK ∧ r.pos = writeLength ↔ writeLength = 54) := by
  have hrun (r : Reader) : getIm1 dest r =
      (⟨(getMem dest.imTagFunction r).1,
        (getMem dest.imTagLocation (getMem dest.imTagFunction r).2).1⟩,
        (getMem dest.imTagLocation (getMem dest.imTagFunction r).2).2) := rfl
  rw [hrun]
  by_cases h32 : writeLength < 32
  · rw [getMem_short _ (by omega), getMem_failed _ endOfInput_ne_ok, if_pos h32,
      if_pos (by omega)]
    refine ⟨_, rfl, ?_⟩
    constructor
    · intro h
      exact absurd h.1 endOfInput_ne_ok
    · intro h
      omega
  · rw [getMem_whole _ (by omega), if_neg h32]
    by_cases h54 : writeLength < 54
    · rw [getMem_short _ (by omega), if_pos h54]
      refine ⟨_, rfl, ?_⟩
      constructor
      · intro h
        exact absurd h.1 endOfInput_ne_ok
      · intro h
        omega
    · rw [getMem_whole _ (by omega), if_neg h54]
      refine ⟨_, rfl, ?_⟩
      constructor
      · intro h
        exact h.2.symm
      · intro h
        exact ⟨rfl, h.symm⟩

end

/-! ## The records -/

section
variable {supported index : BitVec 16} {saves : Bool} {bytes : ℕ → Byte} {writeLength : ℕ}
  {store : ImStore} {stat : PnetResult}

/-- A write that is refused and leaves the data as they were. -/
theorem lawful_of_refused {stat' : PnetResult}
    (h : imSwitch supported index bytes writeLength store.data stat = (-1, stat', store.data)) :
    ImLawful supported saves index bytes writeLength store stat := by
  unfold ImLawful imWrite
  rw [h]
  show ((-1 : ℤ) ≠ 0 → _) ∧ ((-1 : ℤ) = 0 → _)
  exact ⟨fun _ => rfl, fun hret => absurd hret (by decide)⟩

/-- A write that is accepted and has stored the record. -/
theorem lawful_of_stored {data : ImData}
    (h : imSwitch supported index bytes writeLength store.data stat = (0, stat, data))
    (hrecord : imRecord index bytes writeLength store.data = some data) :
    ImLawful supported saves index bytes writeLength store stat := by
  unfold ImLawful imWrite
  rw [h, hrecord]
  refine ⟨fun hret => absurd rfl hret, ?_⟩
  intro _
  cases saves with
  | false => exact ⟨rfl, fun hsaves => absurd hsaves Bool.false_ne_true⟩
  | true => exact ⟨rfl, fun _ => rfl⟩

theorem lawful_of_copy {flag : BitVec 16} {size : ℕ} {stored : ImData}
    (h : imSwitch supported index bytes writeLength store.data stat =
      imCopy supported flag size writeLength stored store.data stat)
    (hrecord : writeLength = size → imRecord index bytes writeLength store.data = some stored) :
    ImLawful supported saves index bytes writeLength store stat := by
  unfold imCopy at h
  split at h
  · split at h
    · rename_i hsize
      exact lawful_of_stored h (hrecord hsize)
    · exact lawful_of_refused h
  · exact lawful_of_refused h

theorem imSwitch_im1 (hsupported : supported &&& PNET_SUPPORTED_IM1 ≠ 0) (data : ImData) :
    imSwitch supported PF_IDX_SUB_IM_1 bytes writeLength data stat =
      let data' := { data with im1 :=
        ⟨if writeLength < 32 then data.im1.imTagFunction else field bytes 0 32,
          if writeLength < 54 then data.im1.imTagLocation else field bytes 32 22⟩ }
      if writeLength = 54 then (0, stat, data')
      else (-1, imRefused stat PNET_ERROR_CODE_1_ACC_WRITE_LENGTH_ERROR, data') := by
  rcases @getIm1_eq bytes data.im1 writeLength with ⟨r, hrun, hlength⟩
  unfold imSwitch
  rw [if_neg (by decide), if_pos rfl, if_pos hsupported, hrun]
  dsimp only
  simp only [hlength]

/-- What the stored data are after a refused write of I&M1. -/
theorem im1_same_iff (hlength : writeLength ≠ 54) (data : ImData) :
    ({ data with im1 :=
        ⟨if writeLength < 32 then data.im1.imTagFunction else field bytes 0 32,
          if writeLength < 54 then data.im1.imTagLocation else field bytes 32 22⟩ } : ImData) =
      data ↔ Im1Keeps bytes writeLength data := by
  rcases data with ⟨⟨function, location⟩, date, descriptor, signature⟩
  simp only [ImData.mk.injEq, Im1.mk.injEq, and_true, Im1Keeps]
  by_cases h32 : writeLength < 32
  · rw [if_pos h32, if_pos (by omega)]
    exact ⟨fun _ => .inl h32, fun _ => ⟨rfl, rfl⟩⟩
  · rw [if_neg h32]
    constructor
    · rintro ⟨hfunction, hlocation⟩
      refine .inr (.inr ⟨hfunction, ?_⟩)
      intro hlong
      rwa [if_neg (by omega)] at hlocation
    · intro h
      rcases (h.resolve_left h32).resolve_left hlength with ⟨hfunction, hlocation⟩
      refine ⟨hfunction, ?_⟩
      by_cases h54 : writeLength < 54
      · rw [if_pos h54]
      · rw [if_neg h54]
        exact hlocation (by omega)

theorem im1_lawful_iff (hsupported : supported &&& PNET_SUPPORTED_IM1 ≠ 0) :
    ImLawful supported saves PF_IDX_SUB_IM_1 bytes writeLength store stat ↔
      Im1Keeps bytes writeLength store.data := by
  have hswitch := @imSwitch_im1 supported bytes writeLength stat hsupported store.data
  dsimp only at hswitch
  by_cases hlength : writeLength = 54
  · rw [if_pos hlength] at hswitch
    have hlawful : ImLawful supported saves PF_IDX_SUB_IM_1 bytes writeLength store stat := by
      apply lawful_of_stored hswitch
      unfold imRecord
      rw [if_pos ⟨rfl, hlength⟩, if_neg (by omega), if_neg (by omega)]
    exact ⟨fun _ => .inr (.inl hlength), fun _ => hlawful⟩
  · rw [if_neg hlength] at hswitch
    rw [← im1_same_iff hlength]
    unfold ImLawful imWrite
    rw [hswitch]
    show (((-1 : ℤ) ≠ 0 → (⟨_, store.file⟩ : ImStore) = store) ∧ ((-1 : ℤ) = 0 → _)) ↔ _
    constructor
    · rintro ⟨hsame, _⟩
      exact congrArg ImStore.data (hsame (by decide))
    · intro hsame
      rw [hsame]
      exact ⟨fun _ => rfl, fun hret => absurd hret (by decide)⟩

end

/-- A write of an I&M record leaves the data as they were when it is refused, and stores the whole
record when it is accepted, exactly when a write of I&M1 meets its condition. -/
theorem imWrite_lawful_iff (supported : BitVec 16) (saves : Bool) (index : BitVec 16)
    (bytes : ℕ → Byte) (writeLength : ℕ) (store : ImStore) (stat : PnetResult) :
    ImLawful supported saves index bytes writeLength store stat ↔
      (index = PF_IDX_SUB_IM_1 → supported &&& PNET_SUPPORTED_IM1 ≠ 0 →
        Im1Keeps bytes writeLength store.data) := by
  by_cases h1 : index = PF_IDX_SUB_IM_1
  · rw [h1]
    by_cases hsupported : supported &&& PNET_SUPPORTED_IM1 ≠ 0
    · rw [im1_lawful_iff hsupported]
      exact ⟨fun h _ _ => h, fun h => h rfl hsupported⟩
    · have hswitch : imSwitch supported PF_IDX_SUB_IM_1 bytes writeLength store.data stat =
          (-1, imRefused stat PNET_ERROR_CODE_1_ACC_INVALID_INDEX, store.data) := by
        unfold imSwitch
        rw [if_neg (by decide), if_pos rfl, if_neg hsupported]
      exact ⟨fun _ _ h => absurd h hsupported, fun _ => lawful_of_refused hswitch⟩
  have hlawful : ImLawful supported saves index bytes writeLength store stat := by
    by_cases h0 : index = PF_IDX_SUB_IM_0
    · apply lawful_of_refused
      unfold imSwitch
      rw [if_pos h0]
    by_cases h2 : index = PF_IDX_SUB_IM_2
    · apply lawful_of_copy
      · unfold imSwitch
        rw [if_neg h0, if_neg h1, if_pos h2]
      · intro hsize
        unfold imRecord
        rw [if_neg (fun h => h1 h.1), if_pos ⟨h2, hsize⟩]
    by_cases h3 : index = PF_IDX_SUB_IM_3
    · apply lawful_of_copy
      · unfold imSwitch
        rw [if_neg h0, if_neg h1, if_neg h2, if_pos h3]
      · intro hsize
        unfold imRecord
        rw [if_neg (fun h => h1 h.1), if_neg (fun h => h2 h.1), if_pos ⟨h3, hsize⟩]
    by_cases h4 : index = PF_IDX_SUB_IM_4
    · apply lawful_of_copy
      · unfold imSwitch
        rw [if_neg h0, if_neg h1, if_neg h2, if_neg h3, if_pos h4]
      · intro hsize
        unfold imRecord
        rw [if_neg (fun h => h1 h.1), if_neg (fun h => h2 h.1), if_neg (fun h => h3 h.1),
          if_pos ⟨h4, hsize⟩]
    apply lawful_of_refused
    unfold imSwitch
    rw [if_neg h0, if_neg h1, if_neg h2, if_neg h3, if_neg h4]
  exact ⟨fun _ h => absurd h h1, fun _ => hlawful⟩

end PNet.Fspm
