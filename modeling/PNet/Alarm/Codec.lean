import PNet.Alarm.Apmr
import PNet.Cmdev.PutDiag
import PNet.Response.Control

/-! # The headers of an alarm

`pf_put_alarm_fixed` and `pf_put_alarm_block`, with their readers. The fixed part is no block. The
block of a notification or of an acknowledgement starts with the fields of `pf_alarm_data_t`, and
what follows them depends on the block type.

* `codec_round_trip`: each reader gets back what its writer has put, and stops behind it.
-/

namespace PNet.Alarm

open Block Rpc Cmdev
open Response (insertLength insertLength_slice behind_block newHeader newHeader_length
  appends_blockHeader putControl roundTrips_control)

variable {resLen : ℕ}

/-! ## The fixed part -/

/-- The byte of the PDU type and its version. -/
def pduTypeByte (x : AlarmFixed) : Byte :=
  (putBits (x.version.setWidth 32) 4 4 (putBits (x.pduType.setWidth 32) 4 0 0)).setWidth 8

/-- The byte of the window size and TACK. -/
def addFlagsByte (x : AlarmFixed) : Byte :=
  (putBits (bit x.tack) 1 4 (putBits (x.windowSize.setWidth 32) 4 0 0)).setWidth 8

/-- `pf_put_alarm_fixed`. -/
def putAlarmFixed (e : Bool) (x : AlarmFixed) (resLen : ℕ) (w : Writer) : Writer :=
  let w := putUint16 e x.dstRef resLen w
  let w := putUint16 e x.srcRef resLen w
  let w := putByte (pduTypeByte x) resLen w
  let w := putByte (addFlagsByte x) resLen w
  let w := putUint16 e x.sendSeqNum resLen w
  putUint16 e x.ackSeqNbr resLen w

/-- `pf_get_alarm_fixed`. -/
def getAlarmFixed : Get AlarmFixed := do
  let dstRef ← getUint16
  let srcRef ← getUint16
  let pduType ← getByte
  let addFlags ← getByte
  let sendSeqNum ← getUint16
  let ackSeqNbr ← getUint16
  return {
    dstRef, srcRef
    pduType := (getBits (pduType.setWidth 32) 0 4).setWidth 8
    version := (getBits (pduType.setWidth 32) 4 4).setWidth 8
    windowSize := (getBits (addFlags.setWidth 32) 0 4).setWidth 8
    tack := getBits (addFlags.setWidth 32) 4 1 != 0
    sendSeqNum, ackSeqNbr }

/-- The fields that have fewer values on the wire than in the record. -/
structure AlarmFixed.Fits (x : AlarmFixed) : Prop where
  pduType : x.pduType.toNat < 16
  version : x.version.toNat < 16
  windowSize : x.windowSize.toNat < 16

/-! ## The block -/

def PF_USI_MAINTENANCE : BitVec 16 := 0x8100
def PF_BT_MAINTENANCE_ITEM : BitVec 16 := 0x0f00

/-- `pf_alarm_payload_t`. -/
structure AlarmPayload where
  usi : BitVec 16
  /-- The `len` bytes of manufacturer data. -/
  data : List Byte
  /-- The same memory as a `pf_diag_item_t`. -/
  item : DiagItem

/-- `pf_put_maint_status`. -/
def putMaintStatus (e : Bool) (maintStatus : BitVec 32) (resLen : ℕ) (w : Writer) : Writer :=
  let start := putUint16 e PF_USI_MAINTENANCE resLen w
  let w := putBlockHeader e PF_BT_MAINTENANCE_ITEM 0 PNET_BLOCK_VERSION_HIGH
    PNET_BLOCK_VERSION_LOW resLen start
  let w := putByte 0 resLen w
  let w := putByte 0 resLen w
  let w := putUint32 e maintStatus resLen w
  insertLength e resLen start.pos w

/-- What `pf_put_alarm_block` puts behind the fields of a notification. -/
def putAlarmPayload (e : Bool) (maintStatus : BitVec 32) (payload : AlarmPayload) (resLen : ℕ)
    (w : Writer) : Writer :=
  if payload.usi = 0 then w
  else if payload.usi = PF_USI_MAINTENANCE then
    -- an error of the caller, which is only logged
    w
  else if payload.usi = PF_USI_CHANNEL_DIAGNOSIS ∨ payload.usi = PF_USI_EXTENDED_CHANNEL_DIAGNOSIS ∨
      payload.usi = PF_USI_QUALIFIED_CHANNEL_DIAGNOSIS then
    putDiagItem e payload.item true resLen
      (if maintStatus = 0 then w else putMaintStatus e maintStatus resLen w)
  else
    let w := putUint16 e payload.usi resLen w
    if 0 < payload.data.length then putMem payload.data resLen w else w

/-- The sequence number with the alarm specifier; bit 14 is not used. -/
def specifierWord (x : AlarmData) : BitVec 32 :=
  putBits (bit x.alarmSpecifier.arDiagnosis) 1 15
    (putBits (bit x.alarmSpecifier.submoduleDiagnosis) 1 13
      (putBits (bit x.alarmSpecifier.manufacturerDiagnosis) 1 12
        (putBits (bit x.alarmSpecifier.channelDiagnosis) 1 11
          (putBits (x.sequenceNumber.setWidth 32) 11 0 0))))

def isNotification (bhType : BitVec 16) : Bool :=
  bhType == PF_BT_ALARM_NOTIFICATION_LOW || bhType == PF_BT_ALARM_NOTIFICATION_HIGH

/-- `pf_put_alarm_block` up to the alarm specifier. -/
def putAlarmHead (e : Bool) (bhType : BitVec 16) (x : AlarmData) (resLen : ℕ) (w : Writer) :
    Writer :=
  let w := putBlockHeader e bhType 0 PNET_BLOCK_VERSION_HIGH PNET_BLOCK_VERSION_LOW resLen w
  let w := putUint16 e x.alarmType resLen w
  let w := putUint32 e x.apiId resLen w
  let w := putUint16 e x.slotNbr resLen w
  let w := putUint16 e x.subslotNbr resLen w
  let w := if isNotification bhType then
      putUint32 e (x.submoduleIdent.setWidth 32) resLen (putUint32 e x.moduleIdent resLen w)
    else w
  putUint16 e ((specifierWord x).setWidth 16) resLen w

/-- `pf_put_alarm_block`. -/
def putAlarmBlock (e : Bool) (bhType : BitVec 16) (x : AlarmData) (maintStatus : BitVec 32)
    (payload : AlarmPayload) (status : PnioStatus) (resLen : ℕ) (w : Writer) : Writer :=
  let head := putAlarmHead e bhType x resLen w
  let body := if isNotification bhType then putAlarmPayload e maintStatus payload resLen head
    else putPnetStatus true status PF_FRAME_BUFFER_SIZE head
  insertLength e resLen w.pos body

/-- `pf_get_alarm_ack`; `dest` keeps its identifiers. -/
def getAlarmAck (dest : AlarmData) : Get AlarmData := do
  let alarmType ← getUint16
  let apiId ← getUint32
  let slotNbr ← getUint16
  let subslotNbr ← getUint16
  let bits ← getUint16
  let flag pos := getBits (bits.setWidth 32) pos 1 != 0
  return {
    alarmType, apiId, slotNbr, subslotNbr
    moduleIdent := dest.moduleIdent, submoduleIdent := dest.submoduleIdent
    alarmSpecifier := ⟨flag 11, flag 12, flag 13, flag 15⟩
    sequenceNumber := (getBits (bits.setWidth 32) 0 11).setWidth 16 }

/-! ## Bit fields -/

theorem bit_toNat_lt (b : Bool) : (bit b).toNat < 2 := by
  cases b
  · exact Nat.zero_lt_two
  · exact Nat.one_lt_two

/-- A flag is read back from where it stands. -/
theorem flag_of_toNat {bits : BitVec 32} {pos : ℕ} {b : Bool} (hpos : pos + 1 < 32)
    (h : bits.toNat / 2 ^ pos % 2 = (bit b).toNat) : (getBits bits pos 1 != 0) = b := by
  have hbit : getBits bits pos 1 = bit b := by
    apply BitVec.eq_of_toNat_eq
    rw [getBits_toNat Nat.one_pos hpos]
    exact h
  rw [hbit]
  cases b
  · rfl
  · rfl

/-- A nibble is read back from where it stands. -/
theorem nibble_of_toNat {bits : BitVec 32} {pos : ℕ} {b : Byte} (hpos : pos + 4 < 32)
    (h : bits.toNat / 2 ^ pos % 16 = b.toNat) : (getBits bits pos 4).setWidth 8 = b := by
  apply BitVec.eq_of_toNat_eq
  rw [BitVec.toNat_setWidth, getBits_toNat (by decide) hpos]
  have hb := b.isLt
  omega

/-- The byte of two fields, the lower one of four bits. -/
theorem fields_toNat {low high : BitVec 32} {len : ℕ} (hlow : low.toNat < 16) (hlen : len ≤ 4)
    (hhigh : high.toNat < 2 ^ len) :
    (((putBits high len 4 (putBits low 4 0 0)).setWidth 8).setWidth 32).toNat =
      low.toNat + high.toNat * 16 := by
  have hpow : 2 ^ len ≤ 2 ^ 4 := Nat.pow_le_pow_right (by decide) hlen
  have hpacked := (packed_zero.putBits low 4 0 (le_refl 0) (by decide)).putBits high len 4
    (le_refl 4) (by omega)
  have hsum := hpacked.1
  rw [Nat.mod_eq_of_lt hhigh, Nat.mod_eq_of_lt (show low.toNat < 2 ^ 4 from hlow)] at hsum
  rw [BitVec.toNat_setWidth, BitVec.toNat_setWidth, hsum]
  omega

theorem specifierWord_toNat (x : AlarmData) (hseq : x.sequenceNumber.toNat < 2048) :
    (((specifierWord x).setWidth 16).setWidth 32).toNat =
      x.sequenceNumber.toNat + (bit x.alarmSpecifier.channelDiagnosis).toNat * 2 ^ 11 +
        (bit x.alarmSpecifier.manufacturerDiagnosis).toNat * 2 ^ 12 +
        (bit x.alarmSpecifier.submoduleDiagnosis).toNat * 2 ^ 13 +
        (bit x.alarmSpecifier.arDiagnosis).toNat * 2 ^ 15 := by
  have h1 := bit_toNat_lt x.alarmSpecifier.channelDiagnosis
  have h2 := bit_toNat_lt x.alarmSpecifier.manufacturerDiagnosis
  have h3 := bit_toNat_lt x.alarmSpecifier.submoduleDiagnosis
  have h4 := bit_toNat_lt x.alarmSpecifier.arDiagnosis
  have hpacked := ((((packed_zero.putBits (x.sequenceNumber.setWidth 32) 11 0 (le_refl 0)
    (by decide)).putBits (bit x.alarmSpecifier.channelDiagnosis) 1 11 (le_refl _)
    (by decide)).putBits (bit x.alarmSpecifier.manufacturerDiagnosis) 1 12 (le_refl _)
    (by decide)).putBits (bit x.alarmSpecifier.submoduleDiagnosis) 1 13 (le_refl _)
    (by decide)).putBits (bit x.alarmSpecifier.arDiagnosis) 1 15 (by decide) (by decide)
  have hsum := hpacked.1
  rw [BitVec.toNat_setWidth, BitVec.toNat_setWidth]
  unfold specifierWord
  rw [hsum, BitVec.toNat_setWidth]
  omega

theorem setWidth32_toNat (b : Byte) : (b.setWidth 32).toNat = b.toNat := by
  have hb := b.isLt
  rw [BitVec.toNat_setWidth]
  omega

theorem pduTypeByte_toNat {x : AlarmFixed} (hfits : x.Fits) :
    ((pduTypeByte x).setWidth 32).toNat = x.pduType.toNat + x.version.toNat * 16 := by
  have hlow := setWidth32_toNat x.pduType
  have hhigh := setWidth32_toNat x.version
  have hsum := fields_toNat (by rw [hlow]; exact hfits.pduType) (le_refl 4)
    (by rw [hhigh]; exact hfits.version)
  rw [hlow, hhigh] at hsum
  exact hsum

theorem addFlagsByte_toNat {x : AlarmFixed} (hfits : x.Fits) :
    ((addFlagsByte x).setWidth 32).toNat = x.windowSize.toNat + (bit x.tack).toNat * 16 := by
  have hlow := setWidth32_toNat x.windowSize
  have hone : 1 ≤ 4 := by decide
  have hsum := fields_toNat (by rw [hlow]; exact hfits.windowSize) hone (bit_toNat_lt x.tack)
  rw [hlow] at hsum
  exact hsum

/-! ## The fixed part is read back -/

def fixedBytes (e : Bool) (x : AlarmFixed) : List Byte :=
  bytes16 e x.dstRef ++ (bytes16 e x.srcRef ++ ([pduTypeByte x] ++ ([addFlagsByte x] ++
    (bytes16 e x.sendSeqNum ++ bytes16 e x.ackSeqNbr))))

@[simp] theorem fixedBytes_length (e : Bool) (x : AlarmFixed) : (fixedBytes e x).length = 10 := by
  simp [fixedBytes]

theorem appends_fixed (e : Bool) (x : AlarmFixed) :
    Appends resLen (putAlarmFixed e x resLen) (fixedBytes e x) := by
  have hfields : Appends resLen (putAlarmFixed e x resLen) (bytes16 e x.dstRef ++
      bytes16 e x.srcRef ++ [pduTypeByte x] ++ [addFlagsByte x] ++ bytes16 e x.sendSeqNum ++
      bytes16 e x.ackSeqNbr) :=
    (((((appends_uint16 _ _).comp (appends_uint16 _ _)).comp (appends_byte _)).comp
      (appends_byte _)).comp (appends_uint16 _ _)).comp (appends_uint16 _ _)
  simp only [List.append_assoc] at hfields
  exact hfields

theorem reads_fixed (e : Bool) {x : AlarmFixed} (hfits : x.Fits) :
    Reads e getAlarmFixed (fixedBytes e x) x e := by
  have hfields : Reads e getAlarmFixed (fixedBytes e x)
      ⟨x.dstRef, x.srcRef, (getBits ((pduTypeByte x).setWidth 32) 0 4).setWidth 8,
        (getBits ((pduTypeByte x).setWidth 32) 4 4).setWidth 8,
        (getBits ((addFlagsByte x).setWidth 32) 0 4).setWidth 8,
        getBits ((addFlagsByte x).setWidth 32) 4 1 != 0, x.sendSeqNum, x.ackSeqNbr⟩ e :=
    (reads_uint16 e x.dstRef).bind <| (reads_uint16 e x.srcRef).bind <|
      (reads_byte e (pduTypeByte x)).bind <| (reads_byte e (addFlagsByte x)).bind <|
      (reads_uint16 e x.sendSeqNum).bind <| (reads_uint16 e x.ackSeqNbr).map _
  have hpdu := pduTypeByte_toNat hfits
  have hflags := addFlagsByte_toNat hfits
  have htypeLt := hfits.pduType
  have hversionLt := hfits.version
  have hwindowLt := hfits.windowSize
  have htackLt := bit_toNat_lt x.tack
  have htype : (getBits ((pduTypeByte x).setWidth 32) 0 4).setWidth 8 = x.pduType :=
    nibble_of_toNat (by decide) (by omega)
  have hversion : (getBits ((pduTypeByte x).setWidth 32) 4 4).setWidth 8 = x.version :=
    nibble_of_toNat (by decide) (by omega)
  have hwindow : (getBits ((addFlagsByte x).setWidth 32) 0 4).setWidth 8 = x.windowSize :=
    nibble_of_toNat (by decide) (by omega)
  have htack : (getBits ((addFlagsByte x).setWidth 32) 4 1 != 0) = x.tack :=
    flag_of_toNat (by decide) (by omega)
  rw [htype, hversion, hwindow, htack] at hfields
  exact hfields

theorem roundTrips_fixed (e : Bool) {x : AlarmFixed} (hfits : x.Fits) :
    RoundTrips e e (putAlarmFixed e x) (putAlarmFixed e x) 10 0 getAlarmFixed x := by
  have htrip := (reads_fixed e hfits).roundTrips_self fun _ => appends_fixed e x
  rw [fixedBytes_length] at htrip
  exact htrip

/-! ## The fields of a block are read back -/

def specifierBytes (e : Bool) (x : AlarmData) : List Byte :=
  bytes16 e ((specifierWord x).setWidth 16)

/-- The fields of a notification, with the identifiers. -/
def notificationBytes (e : Bool) (x : AlarmData) : List Byte :=
  bytes16 e x.alarmType ++ (bytes32 e x.apiId ++ (bytes16 e x.slotNbr ++ (bytes16 e x.subslotNbr ++
    (bytes32 e x.moduleIdent ++ (bytes32 e (x.submoduleIdent.setWidth 32) ++
      specifierBytes e x)))))

/-- The fields of an acknowledgement. -/
def ackBytes (e : Bool) (x : AlarmData) : List Byte :=
  bytes16 e x.alarmType ++ (bytes32 e x.apiId ++ (bytes16 e x.slotNbr ++ (bytes16 e x.subslotNbr ++
    specifierBytes e x)))

@[simp] theorem notificationBytes_length (e : Bool) (x : AlarmData) :
    (notificationBytes e x).length = 20 := by
  simp [notificationBytes, specifierBytes]

@[simp] theorem ackBytes_length (e : Bool) (x : AlarmData) : (ackBytes e x).length = 12 := by
  simp [ackBytes, specifierBytes]

theorem appends_notification (e : Bool) {bhType : BitVec 16} (x : AlarmData)
    (htype : isNotification bhType = true) :
    Appends resLen (putAlarmHead e bhType x resLen)
      (newHeader e bhType ++ notificationBytes e x) := by
  have hfields : Appends resLen (putAlarmHead e bhType x resLen) (newHeader e bhType ++
      bytes16 e x.alarmType ++ bytes32 e x.apiId ++ bytes16 e x.slotNbr ++
      bytes16 e x.subslotNbr ++ bytes32 e x.moduleIdent ++
      bytes32 e (x.submoduleIdent.setWidth 32) ++ specifierBytes e x) := by
    unfold putAlarmHead
    simp only [htype, if_true]
    exact (((((((appends_blockHeader e bhType _ _).comp (appends_uint16 _ _)).comp
      (appends_uint32 _ _)).comp (appends_uint16 _ _)).comp (appends_uint16 _ _)).comp
      (appends_uint32 _ _)).comp (appends_uint32 _ _)).comp (appends_uint16 _ _)
  unfold notificationBytes
  simp only [List.append_assoc] at hfields
  exact hfields

theorem appends_ack (e : Bool) {bhType : BitVec 16} (x : AlarmData)
    (htype : isNotification bhType = false) :
    Appends resLen (putAlarmHead e bhType x resLen) (newHeader e bhType ++ ackBytes e x) := by
  have hfields : Appends resLen (putAlarmHead e bhType x resLen) (newHeader e bhType ++
      bytes16 e x.alarmType ++ bytes32 e x.apiId ++ bytes16 e x.slotNbr ++
      bytes16 e x.subslotNbr ++ specifierBytes e x) := by
    unfold putAlarmHead
    simp only [htype, Bool.false_eq_true, if_false]
    exact (((((appends_blockHeader e bhType _ _).comp (appends_uint16 _ _)).comp
      (appends_uint32 _ _)).comp (appends_uint16 _ _)).comp (appends_uint16 _ _)).comp
      (appends_uint16 _ _)
  unfold ackBytes
  simp only [List.append_assoc] at hfields
  exact hfields

/-- The fields that have fewer values on the wire than in the record. -/
def AlarmData.Fits (x : AlarmData) : Prop := x.sequenceNumber.toNat < 2048

/-- The sequence number and the alarm specifier come back from their word. -/
theorem specifierWord_read {x : AlarmData} (hfits : x.Fits) {bits : BitVec 32}
    (hbits : bits = ((specifierWord x).setWidth 16).setWidth 32) :
    (⟨getBits bits 11 1 != 0, getBits bits 12 1 != 0, getBits bits 13 1 != 0,
        getBits bits 15 1 != 0⟩ : AlarmSpec) = x.alarmSpecifier ∧
      (getBits bits 0 11).setWidth 16 = x.sequenceNumber := by
  have hsum := specifierWord_toNat x hfits
  rw [← hbits] at hsum
  have hseq : x.sequenceNumber.toNat < 2048 := hfits
  have h1 := bit_toNat_lt x.alarmSpecifier.channelDiagnosis
  have h2 := bit_toNat_lt x.alarmSpecifier.manufacturerDiagnosis
  have h3 := bit_toNat_lt x.alarmSpecifier.submoduleDiagnosis
  have h4 := bit_toNat_lt x.alarmSpecifier.arDiagnosis
  have hchannel : (getBits bits 11 1 != 0) = x.alarmSpecifier.channelDiagnosis :=
    flag_of_toNat (by decide) (by omega)
  have hmanufacturer : (getBits bits 12 1 != 0) = x.alarmSpecifier.manufacturerDiagnosis :=
    flag_of_toNat (by decide) (by omega)
  have hsubmodule : (getBits bits 13 1 != 0) = x.alarmSpecifier.submoduleDiagnosis :=
    flag_of_toNat (by decide) (by omega)
  have har : (getBits bits 15 1 != 0) = x.alarmSpecifier.arDiagnosis :=
    flag_of_toNat (by decide) (by omega)
  constructor
  · rw [hchannel, hmanufacturer, hsubmodule, har]
  · apply BitVec.eq_of_toNat_eq
    rw [BitVec.toNat_setWidth, getBits_toNat (by decide) (by decide)]
    omega

theorem reads_notification (e : Bool) {x : AlarmData} (hfits : x.Fits) :
    Reads e getAlarmData (notificationBytes e x) x e := by
  obtain ⟨bits, hbits⟩ : ∃ bits : BitVec 32,
    bits = ((specifierWord x).setWidth 16).setWidth 32 := ⟨_, rfl⟩
  have hfields : Reads e getAlarmData (notificationBytes e x)
      ⟨x.alarmType, x.apiId, x.slotNbr, x.subslotNbr, x.moduleIdent,
        (x.submoduleIdent.setWidth 32).setWidth 16,
        ⟨getBits bits 11 1 != 0, getBits bits 12 1 != 0, getBits bits 13 1 != 0,
          getBits bits 15 1 != 0⟩, (getBits bits 0 11).setWidth 16⟩ e := by
    rw [hbits]
    exact (reads_uint16 e x.alarmType).bind <| (reads_uint32 e x.apiId).bind <|
      (reads_uint16 e x.slotNbr).bind <| (reads_uint16 e x.subslotNbr).bind <|
      (reads_uint32 e x.moduleIdent).bind <| (reads_uint32 e (x.submoduleIdent.setWidth 32)).bind <|
      (reads_uint16 e _).map _
  -- the identifier has 16 bits in the record, and 32 on the wire
  have hident : (x.submoduleIdent.setWidth 32).setWidth 16 = x.submoduleIdent := by
    apply BitVec.eq_of_toNat_eq
    rw [BitVec.toNat_setWidth, BitVec.toNat_setWidth]
    omega
  rcases specifierWord_read hfits hbits with ⟨hspec, hseq⟩
  rw [hident, hspec, hseq] at hfields
  exact hfields

theorem reads_ack (e : Bool) (dest : AlarmData) {x : AlarmData} (hfits : x.Fits) :
    Reads e (getAlarmAck dest) (ackBytes e x)
      { x with moduleIdent := dest.moduleIdent, submoduleIdent := dest.submoduleIdent } e := by
  obtain ⟨bits, hbits⟩ : ∃ bits : BitVec 32,
    bits = ((specifierWord x).setWidth 16).setWidth 32 := ⟨_, rfl⟩
  have hfields : Reads e (getAlarmAck dest) (ackBytes e x)
      ⟨x.alarmType, x.apiId, x.slotNbr, x.subslotNbr, dest.moduleIdent, dest.submoduleIdent,
        ⟨getBits bits 11 1 != 0, getBits bits 12 1 != 0, getBits bits 13 1 != 0,
          getBits bits 15 1 != 0⟩, (getBits bits 0 11).setWidth 16⟩ e := by
    rw [hbits]
    exact (reads_uint16 e x.alarmType).bind <| (reads_uint32 e x.apiId).bind <|
      (reads_uint16 e x.slotNbr).bind <| (reads_uint16 e x.subslotNbr).bind <|
      (reads_uint16 e _).map _
  rcases specifierWord_read hfits hbits with ⟨hspec, hseq⟩
  rw [hspec, hseq] at hfields
  exact hfields

/-! ## What follows the fields -/

theorem behind_maintStatus (e : Bool) (maintStatus : BitVec 32) :
    Behind (putMaintStatus e maintStatus resLen) := by
  have hfields : Behind fun w => putUint32 e maintStatus resLen (putByte 0 resLen
      (putByte 0 resLen (putBlockHeader e PF_BT_MAINTENANCE_ITEM 0 PNET_BLOCK_VERSION_HIGH
        PNET_BLOCK_VERSION_LOW resLen w))) :=
    ((((((grows_uint16 _ _).comp (grows_uint16 _ _)).comp (grows_byte _)).comp
      (grows_byte _)).comp (grows_byte _)).comp (grows_byte _)).behind.comp
      (grows_uint32 _ _).behind
  exact (grows_uint16 e PF_USI_MAINTENANCE).behind.comp (behind_block hfields)

theorem behind_payload (e : Bool) (maintStatus : BitVec 32) (payload : AlarmPayload) :
    Behind (putAlarmPayload e maintStatus payload resLen) := by
  have hitem : Behind (putDiagItem e payload.item true resLen) := by
    have husi := (@grows_uint16 resLen e payload.item.usi).behind
    have hchannel := ((husi.comp (@grows_uint16 resLen e payload.item.std.chNbr).behind).comp
      (@grows_uint16 resLen e payload.item.std.chProperties.bits).behind).comp
      (@grows_uint16 resLen e payload.item.std.chErrorType).behind
    have hext := (hchannel.comp (@grows_uint16 resLen e payload.item.std.extChErrorType).behind).comp
      (@grows_uint32 resLen e payload.item.std.extChAddValue).behind
    have hqual := hext.comp (@grows_uint32 resLen e payload.item.std.qualChQualifier).behind
    have hmem := husi.comp (@grows_mem resLen payload.item.manufData).behind
    exact hchannel.ite (hext.ite (hqual.ite hmem))
  have hmaint : Behind fun w => if maintStatus = 0 then w else putMaintStatus e maintStatus resLen w :=
    behind_id.ite (behind_maintStatus e maintStatus)
  have husi := (@grows_uint16 resLen e payload.usi).behind
  have hdata : Behind fun w => if 0 < payload.data.length then
      putMem payload.data resLen (putUint16 e payload.usi resLen w)
    else putUint16 e payload.usi resLen w :=
    (husi.comp (grows_mem payload.data).behind).ite husi
  exact behind_id.ite (behind_id.ite ((hmaint.comp hitem).ite hdata))

/-- The fields stand in the block as they have been put. -/
theorem putAlarmBlock_slice (e : Bool) (bhType : BitVec 16) (x : AlarmData)
    (maintStatus : BitVec 32) (payload : AlarmPayload) (status : PnioStatus) {w : Writer} {p n : ℕ}
    (hroom : w.pos + 4 ≤ resLen) (hp : w.pos + 4 ≤ p)
    (hend : p + n ≤ (putAlarmHead e bhType x resLen w).pos) :
    Buffer.slice (putAlarmBlock e bhType x maintStatus payload status resLen w).bytes p n =
      Buffer.slice (putAlarmHead e bhType x resLen w).bytes p n := by
  have hbody : Behind fun w => if isNotification bhType then
      putAlarmPayload e maintStatus payload resLen w
    else putPnetStatus true status PF_FRAME_BUFFER_SIZE w :=
    (behind_payload e maintStatus payload).ite (grows_uint32 _ _).behind
  exact (insertLength_slice _ hroom hp).trans (hbody.slice _ hend)

/-- The fields of a block stand behind its header, and the reader stops at their end. -/
theorem roundTrips_block {α : Type} {e : Bool} {bhType : BitVec 16} {x : AlarmData}
    {get : Get α} {v : α} {fields : List Byte} {n : ℕ} (hreads : Reads e get fields v e)
    (happends : ∀ resLen, Appends resLen (putAlarmHead e bhType x resLen)
      (newHeader e bhType ++ fields))
    (hlen : fields.length = n) (maintStatus : BitVec 32) (payload : AlarmPayload)
    (status : PnioStatus) :
    RoundTrips e e (putAlarmBlock e bhType x maintStatus payload status)
      (putAlarmHead e bhType x) (6 + n) 6 get v := by
  have hheader := newHeader_length e bhType
  have hslice (resLen : ℕ) (w : Writer) (hroom : w.pos + (6 + n) ≤ resLen) :
      Buffer.slice (putAlarmBlock e bhType x maintStatus payload status resLen w).bytes
          (w.pos + (newHeader e bhType).length) fields.length =
        Buffer.slice (putAlarmHead e bhType x resLen w).bytes
          (w.pos + (newHeader e bhType).length) fields.length := by
    have hhead : putAlarmHead e bhType x resLen w = w.append (newHeader e bhType ++ fields) :=
      happends resLen w (by rw [List.length_append]; omega)
    have hstop : (putAlarmHead e bhType x resLen w).pos =
        w.pos + ((newHeader e bhType).length + fields.length) := by
      rw [hhead, Writer.append, List.length_append]
    apply putAlarmBlock_slice
    · omega
    · omega
    · omega
  have htrip := hreads.roundTrips (newHeader e bhType) happends
    (show (newHeader e bhType).length + fields.length ≤ 6 + n by omega) hslice
  rw [hheader] at htrip
  exact htrip

/-- The RPC header brings its own byte order. -/
theorem roundTrips_header (e : Bool) (dest : RpcHeader) {h : RpcHeader} (hfits : h.Fits) :
    RoundTrips e h.isBigEndian (fun resLen w => (putDceRpcHeader h resLen w).1)
      (fun resLen w => (putDceRpcHeader h resLen w).1) 80 0 (getDceRpcHeader dest) h := by
  have hput (resLen : ℕ) : Appends resLen (fun w => (putDceRpcHeader h resLen w).1)
      (headerBytes h) := by
    intro w hroom
    rw [headerBytes_length] at hroom
    show (putDceRpcHeader h resLen w).1 = _
    rw [putDceRpcHeader_eq h w hroom]
  have htrip := (reads_header e dest h hfits).roundTrips_self hput
  rw [headerBytes_length] at htrip
  exact htrip

/-- In either byte order the readers get back what the writers have put, and stop behind it: of the
RPC header, of the control block, of the fixed part of an alarm, and of the fields of an alarm
notification and of an alarm acknowledgement. -/
theorem codec_round_trip (e : Bool) :
    (∀ dest h : RpcHeader, h.Fits →
      RoundTrips e h.isBigEndian (fun resLen w => (putDceRpcHeader h resLen w).1)
        (fun resLen w => (putDceRpcHeader h resLen w).1) 80 0 (getDceRpcHeader dest) h) ∧
    (∀ (blockType : BitVec 16) (dest c : ControlBlock),
      RoundTrips e e (putControl e blockType c) (putControl e blockType c) 32 6
        (getControl dest) c) ∧
    (∀ x : AlarmFixed, x.Fits →
      RoundTrips e e (putAlarmFixed e x) (putAlarmFixed e x) 10 0 getAlarmFixed x) ∧
    (∀ (bhType : BitVec 16) (x : AlarmData) (maintStatus : BitVec 32) (payload : AlarmPayload)
        (status : PnioStatus), isNotification bhType = true → x.Fits →
      RoundTrips e e (putAlarmBlock e bhType x maintStatus payload status)
        (putAlarmHead e bhType x) 26 6 getAlarmData x) ∧
    (∀ (bhType : BitVec 16) (dest x : AlarmData) (maintStatus : BitVec 32)
        (payload : AlarmPayload) (status : PnioStatus), isNotification bhType = false → x.Fits →
      RoundTrips e e (putAlarmBlock e bhType x maintStatus payload status)
        (putAlarmHead e bhType x) 18 6 (getAlarmAck dest)
        { x with moduleIdent := dest.moduleIdent, submoduleIdent := dest.submoduleIdent }) := by
  refine ⟨?_, ?_, ?_, ?_, ?_⟩
  · intro dest h hfits
    exact roundTrips_header e dest hfits
  · intro blockType dest c
    exact roundTrips_control e blockType dest c
  · intro x hfits
    exact roundTrips_fixed e hfits
  · intro bhType x maintStatus payload status htype hfits
    exact roundTrips_block (reads_notification e hfits)
      (fun _ => appends_notification e x htype) (notificationBytes_length e x) maintStatus payload
      status
  · intro bhType dest x maintStatus payload status htype hfits
    exact roundTrips_block (reads_ack e dest hfits) (fun _ => appends_ack e x htype)
      (ackBytes_length e x) maintStatus payload status

end PNet.Alarm
