import PNet.Fspm.Im
import PNet.Pdport.Write

/-! # The records of the device and the answers to their writes

A write request hands its data to the I&M part of FSPM, to the records of the ports, or to the
callback of the application (`Rpc.WriteEnv`); here the first two keep them.

* `write_lawful_iff`: a write that is answered with an error leaves the records and their files as
  they were, and one that is answered positively has stored the whole record, exactly when the data
  that are handed on meet the condition of their receiver.
-/

namespace PNet.Fspm

open Block Rpc Pdport

/-- What the device keeps of the records. -/
structure Records where
  im : ImStore
  pd : PdRecords

/-- What a write of a record depends on besides the records. -/
structure RecordEnv where
  /-- From I&M0. -/
  supported : BitVec 16
  /-- Whether the file of the I&M data can be written. -/
  saves : Bool
  writeCb : Bool
  /-- The callback of the application. -/
  user : Handed → PnetResult → ℤ × PnetResult
  apiKnown : BitVec 32 → Bool

/-- `p_req_buf` from the data of the record on. -/
def recordBytes (buf : ℕ → Byte) (handed : Handed) : ℕ → Byte := fun i => buf (handed.pos + i)

/-- What becomes of data that are handed on: the result, its details, and the records. -/
def takeRecord (env : RecordEnv) (buf : ℕ → Byte) (store : Records) (handed : Handed)
    (stat : PnetResult) : (ℤ × PnetResult) × Records :=
  let bytes := recordBytes buf handed
  if handed.receiver = .im then
    let (ret, stat, im) :=
      imWrite env.supported env.saves handed.index bytes handed.length store.im stat
    ((ret, stat), { store with im })
  else if handed.receiver = .pdport then
    let (ret, pd) :=
      pdportWriteReq handed.index handed.subslotNumber bytes handed.length store.pd
    ((ret, stat), { store with pd })
  else (env.user handed stat, store)

/-- The device as the receiver of records. -/
def RecordEnv.toWriteEnv (env : RecordEnv) (buf : ℕ → Byte) (store : Records) : WriteEnv where
  writeCb := env.writeCb
  answer := fun handed stat => (takeRecord env buf store handed stat).1
  apiKnown := env.apiKnown

/-- The records after a write. -/
def recordsAfter (env : RecordEnv) (buf : ℕ → Byte) (store : Records) (handed : Option Handed)
    (stat : PnetResult) : Records :=
  handed.elim store fun handed => (takeRecord env buf store handed stat).2

/-- The whole record is stored; what the application stores is its own. -/
def RecordStored (env : RecordEnv) (buf : ℕ → Byte) (handed : Handed) (store after : Records) :
    Prop :=
  let bytes := recordBytes buf handed
  if handed.receiver = .im then
    some after.im.data = imRecord handed.index bytes handed.length store.im.data ∧
      (env.saves = true → after.im.file = some after.im.data)
  else if handed.receiver = .pdport then
    PdStored handed.index handed.subslotNumber bytes handed.length after.pd
  else True

/-- A write that is answered with an error leaves the records and their files as they were; one that
is answered positively has stored its record. -/
def WriteLawful (env : RecordEnv) (net : Net) (q : WriteRequest) (result : WriteResult)
    (stat : PnetResult) (r : Reader) (store : Records) : Prop :=
  let w := (performOneWrite net (env.toWriteEnv r.info.buf store) q result stat r).1
  let after := recordsAfter env r.info.buf store w.handed stat
  (w.ok = false → after = store) ∧
    (w.ok = true → ∃ handed, w.handed = some handed ∧
      RecordStored env r.info.buf handed store after)

/-- What the receiver of the data needs. -/
def RecordKeeps (env : RecordEnv) (buf : ℕ → Byte) (handed : Handed) (store : Records) : Prop :=
  let bytes := recordBytes buf handed
  (handed.receiver = .im → handed.index = PF_IDX_SUB_IM_1 →
      env.supported &&& PNET_SUPPORTED_IM1 ≠ 0 →
      Im1Keeps bytes handed.length store.im.data) ∧
    (handed.receiver = .pdport →
      PdKeeps store.pd.numberOfPorts handed.index handed.subslotNumber bytes handed.length)

section
variable {env : RecordEnv} {buf : ℕ → Byte} {store : Records} {handed : Handed} {stat : PnetResult}

/-- What the answer to the data says about the records. -/
def TakenLawful (env : RecordEnv) (buf : ℕ → Byte) (store : Records) (handed : Handed)
    (stat : PnetResult) : Prop :=
  let out := takeRecord env buf store handed stat
  (out.1.1 ≠ 0 → out.2 = store) ∧ (out.1.1 = 0 → RecordStored env buf handed store out.2)

theorem taken_im_iff (h : handed.receiver = .im) :
    TakenLawful env buf store handed stat ↔
      ImLawful env.supported env.saves handed.index (recordBytes buf handed) handed.length
        store.im stat := by
  unfold TakenLawful ImLawful takeRecord RecordStored
  rw [if_pos h]
  dsimp only
  rw [if_pos h]
  apply and_congr
  · apply imp_congr_right
    intro _
    exact ⟨fun hsame => congrArg Records.im hsame, fun hsame => congrArg (Records.mk · _) hsame⟩
  · rfl

theorem taken_pdport_iff (h : handed.receiver = .pdport) :
    TakenLawful env buf store handed stat ↔
      PdLawful handed.index handed.subslotNumber (recordBytes buf handed) handed.length
        store.pd := by
  have him : handed.receiver ≠ .im := fun him => by rw [h] at him; cases him
  unfold TakenLawful PdLawful takeRecord RecordStored
  rw [if_neg him, if_pos h]
  dsimp only
  rw [if_neg him, if_pos h]
  apply and_congr
  · apply imp_congr_right
    intro _
    exact ⟨fun hsame => congrArg Records.pd hsame, fun hsame => congrArg (Records.mk _) hsame⟩
  · rfl

theorem taken_user (him : handed.receiver ≠ .im) (hpd : handed.receiver ≠ .pdport) :
    TakenLawful env buf store handed stat := by
  unfold TakenLawful takeRecord RecordStored
  rw [if_neg him, if_neg hpd]
  dsimp only
  rw [if_neg him, if_neg hpd]
  exact ⟨fun _ => rfl, fun _ => trivial⟩

theorem taken_lawful_iff (env : RecordEnv) (buf : ℕ → Byte) (store : Records) (handed : Handed)
    (stat : PnetResult) :
    TakenLawful env buf store handed stat ↔ RecordKeeps env buf handed store := by
  unfold RecordKeeps
  by_cases him : handed.receiver = .im
  · have hpd : handed.receiver ≠ .pdport := fun hpd => by rw [him] at hpd; cases hpd
    rw [taken_im_iff him, imWrite_lawful_iff]
    exact ⟨fun h => ⟨fun _ => h, fun h' => absurd h' hpd⟩, fun h => h.1 him⟩
  by_cases hpd : handed.receiver = .pdport
  · rw [taken_pdport_iff hpd, pdportWriteReq_lawful_iff]
    exact ⟨fun h => ⟨fun h' => absurd h' him, fun _ => h⟩, fun h => h.2 hpd⟩
  · exact iff_of_true (taken_user him hpd) ⟨fun h => absurd h him, fun h => absurd h hpd⟩

end

/-- A write is answered as its data are taken. -/
theorem writeLawful_iff_taken (env : RecordEnv) (net : Net) (q : WriteRequest)
    (result : WriteResult) (stat : PnetResult) (r : Reader) (store : Records) :
    WriteLawful env net q result stat r store ↔
      ∀ handed, handsOn net (env.toWriteEnv r.info.buf store) q r = some handed →
        TakenLawful env r.info.buf store handed stat := by
  have hspec := @performOneWrite_spec net (env.toWriteEnv r.info.buf store) q result stat r
  rcases hspec with ⟨hhanded, hok⟩
  unfold WriteLawful
  dsimp only
  rw [hhanded, hok]
  unfold accepts
  cases handsOn net (env.toWriteEnv r.info.buf store) q r with
  | none =>
    refine iff_of_true ⟨fun _ => rfl, fun h => ?_⟩ fun handed h => ?_
    · cases h
    · cases h
  | some handed =>
    -- the answer of the device decides whether the write is answered positively
    have hret : (Option.any (fun h =>
          decide (((env.toWriteEnv r.info.buf store).answer h stat).1 = 0)) (some handed) = true) ↔
        (takeRecord env r.info.buf store handed stat).1.1 = 0 := decide_eq_true_iff
    rw [← Bool.not_eq_true, hret]
    unfold TakenLawful recordsAfter
    dsimp only [Option.elim]
    constructor
    · rintro ⟨hsame, hstored⟩ _ h
      cases h
      refine ⟨hsame, fun hzero => ?_⟩
      rcases hstored hzero with ⟨_, h, hstored⟩
      cases h
      exact hstored
    · intro h
      rcases h handed rfl with ⟨hsame, hstored⟩
      exact ⟨hsame, fun hzero => ⟨handed, rfl, hstored hzero⟩⟩

/-- A write that is answered with an error leaves the records and their files as they were, and one
that is answered positively has stored the whole record, exactly when the data that are handed on
meet the condition of their receiver. -/
theorem write_lawful_iff (env : RecordEnv) (net : Net) (q : WriteRequest) (result : WriteResult)
    (stat : PnetResult) (r : Reader) (store : Records) :
    WriteLawful env net q result stat r store ↔
      ∀ handed, handsOn net (env.toWriteEnv r.info.buf store) q r = some handed →
        RecordKeeps env r.info.buf handed store := by
  rw [writeLawful_iff_taken]
  apply forall₂_congr
  intro handed _
  exact taken_lawful_iff env r.info.buf store handed stat

/-! ## An example -/

def exampleEnv : RecordEnv where
  supported := PNET_SUPPORTED_IM1
  saves := true
  writeCb := false
  user := fun _ stat => (0, stat)
  apiKnown := fun api => api = 0

/-- Records of zeros, for a device with one port. -/
def exampleRecords : Records where
  im := ⟨⟨⟨.replicate 32 0, .replicate 22 0⟩, .replicate 16 0, .replicate 54 0, .replicate 54 0⟩,
    none⟩
  pd := ⟨1, fun _ => ⟨false, ⟨0, .replicate _ 0, 0, .replicate _ 0⟩, false,
    ⟨false, false, false, 0⟩⟩, ⟨false, .PF_LLDP_NAME_OF_DEVICE_MODE_STANDARD⟩, false⟩

/-- A write of I&M1 with 40 bytes of data behind its block header. -/
def shortIm1 : WriteRequest :=
  ⟨1, ⟨1, 2, 3, Vector.replicate 8 4⟩, 0, 0, 1, PF_IDX_SUB_IM_1, 46⟩

def shortIm1Bytes : List Byte := [0x00, 0x21, 0, 42, 1, 0] ++ List.replicate 40 0x41

/-- The write is refused, and the function in the plant is not what it was before. -/
theorem not_lawful_shortIm1 :
    ¬ WriteLawful exampleEnv writableNet shortIm1 clearedWriteResult noError
      (requestOf shortIm1Bytes) exampleRecords := by
  intro h
  have hrefused : (performOneWrite writableNet
      (exampleEnv.toWriteEnv (requestOf shortIm1Bytes).info.buf exampleRecords) shortIm1
      clearedWriteResult noError (requestOf shortIm1Bytes)).1.ok = false := by
    decide +kernel
  have hchanged : (recordsAfter exampleEnv (requestOf shortIm1Bytes).info.buf exampleRecords
      (performOneWrite writableNet
        (exampleEnv.toWriteEnv (requestOf shortIm1Bytes).info.buf exampleRecords) shortIm1
        clearedWriteResult noError (requestOf shortIm1Bytes)).1.handed noError).im.data.im1 ≠
      exampleRecords.im.data.im1 := by
    decide +kernel
  exact hchanged (congrArg (fun records => records.im.data.im1) (h.1 hrefused))

end PNet.Fspm
