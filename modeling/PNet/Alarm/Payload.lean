import PNet.Alarm.Codec
import PNet.Alarm.Delivery

/-! # The lengths of a received alarm

A received alarm frame announces its length twice: the fixed part of the RTA-PDU ends with the
length of the variable part, and the block in it has a length of its own. `pf_alarm_apmr_periodic`
takes a frame from the queue and passes the first one on, and neither is compared with the frame.

* `apmrDataInd_eq`: a DATA PDU is handled as in `Apmr`; here the parser and the arguments of the alarm
  indication are kept.
* `contained_iff`: the frames from which nothing else is read or indicated than what they announce,
  and that are dropped when they do not have it.
-/

namespace PNet.Alarm

open Block

def PF_RTA_PDU_TYPE_ERR : Byte := 4

def PNET_ERROR_CODE_1_APMR : Byte := 0x46
def PNET_ERROR_CODE_2_APMR_INVALID_STATE : Byte := 0x00

/-- `pf_apmr_msg_t`: a received frame, with the place of its frame ID. -/
structure AlarmMsg where
  buf : List Byte
  frameIdPos : ℕ

/-- A frame that has been handled: the parser as it was left, and the arguments `p_data` (as a place
in the frame) and `data_len` of `pf_fspm_alpmr_alarm_ind`, if it was called. -/
structure Handled where
  ret : ℤ
  apmx : Apmx
  reader : Reader
  indicated : Option (ℕ × BitVec 16)

namespace Handled

/-! ## DATA PDUs -/

/-- An Alarm ACK PDU in sequence; `r` is the parser behind the block header. -/
def ackInSequence (env : Surroundings) (f : DataFrame) (r : Reader) (x : Apmx) : Handled :=
  let (ret, x) := Apmx.sendAck env (Apmx.advance (x.apmsDataInd env f.fixed))
  if ret = 0 then
    let (status, r) := getPnioStatus r
    let (ret, x) := Apmx.reopen (Apmx.alpmiDataInd env status
      { x with apmrState := .PF_APMR_STATE_WCNF })
    ⟨ret, x, r, none⟩
  else ⟨ret, x, r, none⟩

/-- An Alarm Notification PDU in sequence. -/
def notifyInSequence (env : Surroundings) (f : DataFrame) (r : Reader) (x : Apmx) : Handled :=
  let (ret, x) := Apmx.sendAck env (Apmx.advance (x.apmsDataInd env f.fixed))
  if ret = 0 then
    let x := { x with apmrState := .PF_APMR_STATE_WCNF }
    let (data, r) := getAlarmData r
    let (usi, r) := getUint16 r
    if r.info.result = .PF_PARSE_OK then
      let dataLen := f.dataLen - BitVec.ofNat 16 (r.pos - f.reader.pos)
      let indicated :=
        if x.neighbours.alpmrState = .PF_ALPMR_STATE_W_NOTIFY then some (r.pos, dataLen) else none
      let (ret, x) := Apmx.reopen (Apmx.alpmrDataInd env data usi
        (Buffer.slice r.info.buf r.pos dataLen.toNat) x)
      ⟨ret, x, r, indicated⟩
    else ⟨-1, x, r, none⟩
  else ⟨ret, x, r, none⟩

/-- The PDU with the expected number. -/
def inSequence (env : Surroundings) (f : DataFrame) (x : Apmx) : Handled :=
  let (block, r) := getBlockHeader f.reader
  if block.blockType = x.blockTypeAlarmAck then ackInSequence env f r x
  else if block.blockType = x.blockTypeAlarmNotify then notifyInSequence env f r x
  else
    ⟨-1, x.errorInd PNET_ERROR_CODE_1_RTA_ERR_CLS_PROTOCOL
      PNET_ERROR_CODE_2_ABORT_AR_ALARM_IND_ERROR, r, none⟩

/-- Without a look at the variable part. -/
def unread (f : DataFrame) (r : ℤ × Apmx) : Handled := ⟨r.1, r.2, f.reader, none⟩

/-- `pf_alarm_apmr_a_data_ind`. -/
def apmrDataInd (env : Surroundings) (f : DataFrame) (x : Apmx) : Handled :=
  match x.apmrState with
  | .PF_APMR_STATE_CLOSED => unread f (0, x)
  | .PF_APMR_STATE_OPEN =>
    if f.fixed.tack = false then unread f (0, x)
    else if f.fixed.sendSeqNum = x.expSeqCount then inSequence env f x
    else if f.fixed.sendSeqNum = x.expSeqCountO then
      unread f (0, (Apmx.sendAck env (x.apmsDataInd env f.fixed)).2)
    else unread f (x.outOfSequence env)
  | .PF_APMR_STATE_WCNF => unread f (-1, x)

/-- The loop of `pf_alarm_apmr_periodic` behind the header of a frame; `f` is any PDU. -/
def pdu (env : Surroundings) (f : DataFrame) (x : Apmx) : Handled :=
  if f.fixed.version = 1 then
    if f.fixed.pduType = PF_RTA_PDU_TYPE_ACK then
      if f.dataLen = 0 then unread f (0, x.apmsDataInd env f.fixed) else unread f (0, x)
    else if f.fixed.pduType = PF_RTA_PDU_TYPE_NACK then unread f (0, x)
    else if f.fixed.pduType = PF_RTA_PDU_TYPE_DATA then apmrDataInd env f x
    else if f.fixed.pduType = PF_RTA_PDU_TYPE_ERR then
      if f.dataLen = 4 then
        let (status, r) := getPnioStatus f.reader
        match x.apmrState with
        | .PF_APMR_STATE_OPEN => ⟨0, x.errorInd status.errorCode1 status.errorCode2, r, none⟩
        | _ =>
          ⟨0, x.errorInd PNET_ERROR_CODE_1_APMR PNET_ERROR_CODE_2_APMR_INVALID_STATE, r, none⟩
      else unread f (0, x)
    else unread f (0, x)
  else unread f (0, x)

end Handled

/-! ## Frames -/

namespace AlarmMsg

/-- The parser behind the frame ID. -/
def start (m : AlarmMsg) : Reader :=
  ⟨⟨.PF_PARSE_OK, true, fun i => m.buf.getD i 0, m.buf.length⟩, m.frameIdPos + 2⟩

/-- The fixed part of the PDU and the length of its variable part; `reader` stands in front of the
variable part. -/
def header (m : AlarmMsg) : DataFrame :=
  let (fixed, r) := getAlarmFixed m.start
  let (varPartLen, r) := getUint16 r
  ⟨fixed, varPartLen, r⟩

/-- One turn of the loop of `pf_alarm_apmr_periodic`, which does not take a frame for an instance
that is closed. -/
def receive (env : Surroundings) (m : AlarmMsg) (x : Apmx) : Handled :=
  if x.apmrState = .PF_APMR_STATE_CLOSED then ⟨0, x, m.start, none⟩
  else Handled.pdu env m.header x

end AlarmMsg

/-! ## The property -/

/-- How much of the variable part of a DATA PDU is read. -/
def bodySize (x : Apmx) (blockType : BitVec 16) : ℕ :=
  if blockType = x.blockTypeAlarmAck then 10
  else if blockType = x.blockTypeAlarmNotify then 28
  else 6

/-- A PDU of a frame of `size` bytes has what it announces: its header is complete, the variable
part ends inside the frame, and for a DATA PDU the block and the fields that are read from it end
inside the variable part. -/
structure DataFrame.Fits (f : DataFrame) (x : Apmx) (size : ℕ) : Prop where
  header : f.reader.info.result = .PF_PARSE_OK
  varPart : f.reader.pos + f.dataLen.toNat ≤ size
  body : f.fixed.pduType = PF_RTA_PDU_TYPE_DATA →
    bodySize x (getBlockHeader f.reader).1.blockType ≤ f.dataLen.toNat ∧
      (getBlockHeader f.reader).1.blockLength.toNat + 4 ≤ f.dataLen.toNat

/-- What the handling of a frame keeps to. The bytes that are read are those that the parser goes
over (`Block.Scans`). -/
structure Contained (env : Surroundings) (m : AlarmMsg) (x : Apmx) : Prop where
  /-- Each byte that the parser goes over is in the frame. -/
  read : ∀ i, m.start.pos ≤ i → i < (m.receive env x).reader.pos → i < m.buf.length
  /-- Behind the header, it is in the variable part. -/
  sdu : ∀ i, m.header.reader.pos ≤ i → i < (m.receive env x).reader.pos →
    i < m.header.reader.pos + m.header.dataLen.toNat
  /-- The payload of an alarm indication is in the frame and in the variable part. -/
  payload : ∀ pos len, (m.receive env x).indicated = some (pos, len) →
    m.header.reader.pos ≤ pos ∧ pos + len.toNat ≤ m.buf.length ∧
      pos + len.toNat ≤ m.header.reader.pos + m.header.dataLen.toNat
  /-- A frame that has not what it announces changes nothing. -/
  dropped : ¬ m.header.Fits x m.buf.length → (m.receive env x).apmx = x

/-- APMS takes the acknowledgement number. -/
def Confirms (f : DataFrame) (x : Apmx) : Prop :=
  x.neighbours.apmsState = .PF_APMS_STATE_WTACK ∧ f.fixed.ackSeqNbr = x.neighbours.sendSeqCount

/-- A DATA PDU that is ignored. -/
def DataIgnored (env : Surroundings) (f : DataFrame) (x : Apmx) : Prop :=
  x.apmrState ≠ .PF_APMR_STATE_OPEN ∨ f.fixed.tack = false ∨
    f.fixed.sendSeqNum ≠ x.expSeqCount ∧ f.fixed.sendSeqNum = x.expSeqCountO ∧
      ¬ Confirms f x ∧ env.sends = false

/-- A PDU that is ignored, whatever its lengths are; those of any other type or version are. -/
structure Ignored (env : Surroundings) (f : DataFrame) (x : Apmx) : Prop where
  ack : f.fixed.version = 1 → f.fixed.pduType = PF_RTA_PDU_TYPE_ACK →
    f.dataLen ≠ 0 ∨ ¬ Confirms f x
  data : f.fixed.version = 1 → f.fixed.pduType = PF_RTA_PDU_TYPE_DATA → DataIgnored env f x
  err : f.fixed.version = 1 → f.fixed.pduType = PF_RTA_PDU_TYPE_ERR → f.dataLen ≠ 4

/-! ## The same handling -/

namespace Handled

variable {env : Surroundings} {f : DataFrame} {x : Apmx}

theorem ackInSequence_eq (env : Surroundings) (f : DataFrame) (r : Reader) (x : Apmx) :
    ((ackInSequence env f r x).ret, (ackInSequence env f r x).apmx) =
      x.ackInSequence env f r := by
  unfold ackInSequence Apmx.ackInSequence
  dsimp only
  split <;> rfl

theorem notifyInSequence_eq (env : Surroundings) (f : DataFrame) (r : Reader) (x : Apmx) :
    ((notifyInSequence env f r x).ret, (notifyInSequence env f r x).apmx) =
      x.notifyInSequence env f r := by
  unfold notifyInSequence Apmx.notifyInSequence Apmx.notificationOf
  rcases Apmx.sendAck env (Apmx.advance (x.apmsDataInd env f.fixed)) with ⟨ret, x⟩
  rcases getAlarmData r with ⟨data, r⟩
  dsimp only
  rcases getUint16 r with ⟨usi, r⟩
  dsimp only
  by_cases hret : ret = 0
  · rw [if_pos hret, if_pos hret]
    by_cases hok : r.info.result = .PF_PARSE_OK
    · rw [if_pos hok, if_pos hok]
    · rw [if_neg hok, if_neg hok]
  · rw [if_neg hret, if_neg hret]

theorem inSequence_eq (env : Surroundings) (f : DataFrame) (x : Apmx) :
    ((inSequence env f x).ret, (inSequence env f x).apmx) = x.inSequence env f := by
  unfold inSequence Apmx.inSequence
  rcases getBlockHeader f.reader with ⟨block, r⟩
  dsimp only
  split
  · exact ackInSequence_eq _ _ _ _
  · split
    · exact notifyInSequence_eq _ _ _ _
    · rfl

/-- A DATA PDU is handled as in `Apmr`. -/
theorem apmrDataInd_eq (env : Surroundings) (f : DataFrame) (x : Apmx) :
    ((apmrDataInd env f x).ret, (apmrDataInd env f x).apmx) = x.apmrDataInd env f := by
  unfold apmrDataInd Apmx.apmrDataInd
  cases x.apmrState with
  | PF_APMR_STATE_CLOSED => rfl
  | PF_APMR_STATE_WCNF => rfl
  | PF_APMR_STATE_OPEN =>
    dsimp only
    split
    · rfl
    · split
      · exact inSequence_eq _ _ _
      · split <;> rfl

/-! ## What is read -/

theorem takes_pnioStatus : Takes 4 getPnioStatus :=
  takes_byte.bind fun _ => takes_byte.bind fun _ => takes_byte.bind fun _ => takes_byte.map _

theorem takes_blockHeader : Takes 6 getBlockHeader :=
  takes_uint16.bind fun _ => takes_uint16.bind fun _ => takes_byte.bind fun _ => takes_byte.map _

theorem takes_alarmData : Takes 20 getAlarmData :=
  takes_uint16.bind fun _ => takes_uint32.bind fun _ => takes_uint16.bind fun _ =>
    takes_uint16.bind fun _ => takes_uint32.bind fun _ => takes_uint32.bind fun _ =>
      takes_uint16.map _

theorem takes_run {α : Type} {n : ℕ} {g : Get α} (hg : Takes n g) {r : Reader}
    (hok : r.info.result = .PF_PARSE_OK) (hroom : r.pos + n ≤ r.info.len) :
    ∃ v, g r = (v, { r with pos := r.pos + n }) := ⟨(g r).1, Prod.ext rfl (hg r hok hroom)⟩

theorem ackInSequence_reads {r : Reader} (hok : r.info.result = .PF_PARSE_OK)
    (hroom : r.pos + 4 ≤ r.info.len) :
    (ackInSequence env f r x).reader.pos ≤ r.pos + 4 ∧
      (ackInSequence env f r x).indicated = none := by
  rcases takes_run takes_pnioStatus hok hroom with ⟨status, hstatus⟩
  unfold ackInSequence
  rw [hstatus]
  dsimp only
  split
  · exact ⟨le_rfl, rfl⟩
  · exact ⟨Nat.le_add_right _ _, rfl⟩

/-- The payload is what the variable part has behind 28 bytes. -/
theorem notifyInSequence_reads {r : Reader} (hok : r.info.result = .PF_PARSE_OK)
    (hroom : r.pos + 22 ≤ r.info.len) (hstart : r.pos = f.reader.pos + 6)
    (hlen : 28 ≤ f.dataLen.toNat) :
    (notifyInSequence env f r x).reader.pos ≤ f.reader.pos + 28 ∧
      ∀ pos len, (notifyInSequence env f r x).indicated = some (pos, len) →
        pos = f.reader.pos + 28 ∧ len.toNat = f.dataLen.toNat - 28 := by
  rcases takes_run takes_alarmData hok (by omega) with ⟨data, hdata⟩
  have hroom' : r.pos + 20 + 2 ≤ r.info.len := hroom
  rcases takes_run takes_uint16 (r := { r with pos := r.pos + 20 }) hok hroom' with ⟨usi, husi⟩
  have hsize : r.pos + 20 + 2 - f.reader.pos = 28 := by omega
  unfold notifyInSequence
  rw [hdata]
  dsimp only
  rw [husi]
  rcases Apmx.sendAck env (Apmx.advance (x.apmsDataInd env f.fixed)) with ⟨ret, x⟩
  dsimp only
  by_cases hret : ret = 0
  swap
  · rw [if_neg hret]
    refine ⟨by dsimp only; omega, ?_⟩
    intro pos len h
    cases h
  rw [if_pos hret, if_pos hok, hsize]
  refine ⟨by dsimp only; omega, ?_⟩
  intro pos len h
  dsimp only at h
  split at h
  · obtain ⟨rfl, rfl⟩ := Prod.mk.inj (Option.some.inj h)
    refine ⟨by omega, ?_⟩
    rw [BitVec.toNat_sub_of_le hlen]
    rfl
  · cases h

/-- With room for the body, the parser stops behind it at the latest. -/
theorem inSequence_reads (hok : f.reader.info.result = .PF_PARSE_OK)
    (hsize : bodySize x (getBlockHeader f.reader).1.blockType ≤ f.dataLen.toNat)
    (hroom : f.reader.pos + f.dataLen.toNat ≤ f.reader.info.len) :
    (inSequence env f x).reader.pos ≤ f.reader.pos + f.dataLen.toNat ∧
      ∀ pos len, (inSequence env f x).indicated = some (pos, len) →
        f.reader.pos ≤ pos ∧ pos + len.toNat = f.reader.pos + f.dataLen.toNat := by
  have hsix : 6 ≤ bodySize x (getBlockHeader f.reader).1.blockType := by
    unfold bodySize
    split
    · decide
    · split <;> decide
  rcases takes_run takes_blockHeader hok (by omega) with ⟨block, hblock⟩
  rw [hblock] at hsize
  unfold bodySize at hsize
  dsimp only at hsize
  unfold inSequence
  rw [hblock]
  dsimp only
  by_cases hack : block.blockType = x.blockTypeAlarmAck
  · rw [if_pos hack] at hsize ⊢
    have hroom' : f.reader.pos + 6 + 4 ≤ f.reader.info.len := by omega
    have hread := @ackInSequence_reads env f x { f.reader with pos := f.reader.pos + 6 } hok hroom'
    refine ⟨hread.1.trans (by dsimp only; omega), ?_⟩
    intro pos len h
    rw [hread.2] at h
    cases h
  rw [if_neg hack] at hsize ⊢
  by_cases hnotify : block.blockType = x.blockTypeAlarmNotify
  · rw [if_pos hnotify] at hsize ⊢
    have hroom' : f.reader.pos + 6 + 22 ≤ f.reader.info.len := by omega
    have hread := @notifyInSequence_reads env f x { f.reader with pos := f.reader.pos + 6 } hok
      hroom' rfl hsize
    refine ⟨hread.1.trans (by omega), ?_⟩
    intro pos len h
    rcases hread.2 pos len h with ⟨rfl, hlen⟩
    exact ⟨Nat.le_add_right _ _, by omega⟩
  · rw [if_neg hnotify] at hsize ⊢
    refine ⟨by dsimp only; omega, ?_⟩
    intro pos len h
    cases h

end Handled

/-! ## What is changed -/

namespace Apmx

variable {env : Surroundings} {x y : Apmx}

theorem ne_of_log (h : x.log.length < y.log.length) : y ≠ x := by
  intro heq
  rw [heq] at h
  exact Nat.lt_irrefl _ h

theorem nextSeq_ne (n : BitVec 16) : nextSeq n ≠ n := by
  intro h
  have hnat := congrArg BitVec.toNat h
  have hn := n.isLt
  unfold nextSeq at hnat
  rw [BitVec.toNat_and, BitVec.toNat_add] at hnat
  rw [show (0x7fff : BitVec 16).toNat = 2 ^ 15 - 1 from rfl, Nat.and_two_pow_sub_one_eq_mod] at hnat
  rw [show (1 : BitVec 16).toNat = 1 from rfl] at hnat
  omega

theorem errorInd_ne (x : Apmx) (errCls errCode : Byte) : x.errorInd errCls errCode ≠ x := by
  apply ne_of_log
  show x.log.length < (x.log ++ [_]).length
  rw [List.length_append]
  exact Nat.lt_succ_self _

theorem outOfSequence_ne (env : Surroundings) (x : Apmx) : (x.outOfSequence env).2 ≠ x := by
  apply ne_of_log
  unfold outOfSequence sendNack send emit
  dsimp only
  split
  · dsimp only
    rw [List.length_append, List.length_append]
    exact Nat.lt_add_right _ (Nat.lt_succ_self _)
  · dsimp only
    rw [List.length_append]
    exact Nat.lt_succ_self _

/-- The PDU in sequence moves the counter, or aborts the AR. -/
theorem inSequence_ne (env : Surroundings) (f : DataFrame) (x : Apmx) :
    (x.inSequence env f).2 ≠ x := by
  have hback : ∀ y : Apmx, y.expSeqCount = nextSeq x.expSeqCount → y ≠ x := by
    intro y hy heq
    rw [heq] at hy
    exact nextSeq_ne _ hy.symm
  have hack : ∀ y : ℤ × Apmx, y = sendAck env (advance (x.apmsDataInd env f.fixed)) →
      y.2.expSeqCount = nextSeq x.expSeqCount := by
    rintro y rfl
    have hkeep := (apmsDataInd_moves env f.fixed x).exp
    unfold sendAck send
    split
    · exact congrArg nextSeq hkeep
    · exact congrArg nextSeq hkeep
  unfold inSequence
  rcases getBlockHeader f.reader with ⟨block, r⟩
  dsimp only
  split
  · apply hback
    unfold ackInSequence
    rcases hy : sendAck env (advance (x.apmsDataInd env f.fixed)) with ⟨ret, y⟩
    have hexp : y.expSeqCount = nextSeq x.expSeqCount := hack _ hy.symm
    dsimp only
    split
    · exact (reopen_moves (alpmiDataInd_moves env _ _)).exp.trans hexp
    · exact hexp
  · split
    · apply hback
      unfold notifyInSequence
      rcases hy : sendAck env (advance (x.apmsDataInd env f.fixed)) with ⟨ret, y⟩
      have hexp : y.expSeqCount = nextSeq x.expSeqCount := hack _ hy.symm
      dsimp only
      split
      · split
        · rcases alpmrDataInd_moves env _ _ _ { y with apmrState := .PF_APMR_STATE_WCNF } with
            ⟨rest, hmoves, -⟩
          exact (reopen_moves hmoves).exp.trans hexp
        · exact hexp
      · exact hexp
    · exact errorInd_ne _ _ _

theorem apmsDataInd_eq_self {fixed : AlarmFixed}
    (h : ¬ (x.neighbours.apmsState = .PF_APMS_STATE_WTACK ∧
      fixed.ackSeqNbr = x.neighbours.sendSeqCount)) : x.apmsDataInd env fixed = x := by
  unfold apmsDataInd
  rw [if_neg h, ite_self]

/-- Otherwise APMS leaves the state in which it waits. -/
theorem apmsDataInd_open {fixed : AlarmFixed}
    (htype : fixed.pduType = PF_RTA_PDU_TYPE_ACK ∨ fixed.pduType = PF_RTA_PDU_TYPE_DATA)
    (h : x.neighbours.apmsState = .PF_APMS_STATE_WTACK ∧
      fixed.ackSeqNbr = x.neighbours.sendSeqCount) :
    (x.apmsDataInd env fixed).neighbours.apmsState = .PF_APMS_STATE_OPEN := by
  unfold apmsDataInd
  rw [if_pos htype, if_pos h]

theorem ne_of_open (hwait : x.neighbours.apmsState = .PF_APMS_STATE_WTACK)
    (h : y.neighbours.apmsState = .PF_APMS_STATE_OPEN) : y ≠ x := by
  rintro rfl
  cases hwait.symm.trans h

end Apmx

/-! ## One PDU -/

namespace Handled

variable {env : Surroundings} {f : DataFrame} {x : Apmx}

/-- A DATA PDU that is ignored. -/
theorem apmrDataInd_ignored (h : DataIgnored env f x) :
    ∃ ret, apmrDataInd env f x = unread f (ret, x) := by
  unfold apmrDataInd
  cases hstate : x.apmrState with
  | PF_APMR_STATE_CLOSED => exact ⟨0, rfl⟩
  | PF_APMR_STATE_WCNF => exact ⟨-1, rfl⟩
  | PF_APMR_STATE_OPEN =>
    dsimp only
    by_cases htack : f.fixed.tack = false
    · rw [if_pos htack]
      exact ⟨0, rfl⟩
    rcases h with hno | hno | ⟨hseq, hold, hconf, hsends⟩
    · exact absurd hstate hno
    · exact absurd hno htack
    · rw [if_neg htack, if_neg hseq, if_pos hold, Apmx.apmsDataInd_eq_self hconf]
      unfold Apmx.sendAck Apmx.send
      rw [hsends]
      exact ⟨0, rfl⟩

/-- Any other one changes something. -/
theorem apmrDataInd_changes (htype : f.fixed.pduType = PF_RTA_PDU_TYPE_DATA)
    (h : ¬ DataIgnored env f x) : (apmrDataInd env f x).apmx ≠ x := by
  unfold DataIgnored at h
  rw [not_or, not_or, not_not] at h
  rcases h with ⟨hopen, htack, hseq⟩
  unfold apmrDataInd
  rw [hopen]
  dsimp only
  rw [if_neg htack]
  by_cases hexp : f.fixed.sendSeqNum = x.expSeqCount
  · rw [if_pos hexp, show (inSequence env f x).apmx = (x.inSequence env f).2 from
      congrArg Prod.snd (inSequence_eq env f x)]
    exact Apmx.inSequence_ne _ _ _
  rw [if_neg hexp]
  by_cases hold : f.fixed.sendSeqNum = x.expSeqCountO
  · -- The last PDU once more: APMS takes it, or it is acknowledged again.
    rw [if_pos hold]
    show (Apmx.sendAck env (x.apmsDataInd env f.fixed)).2 ≠ x
    by_cases hconf : Confirms f x
    · have htaken := @Apmx.apmsDataInd_open env x f.fixed (.inr htype) hconf
      apply Apmx.ne_of_open hconf.1
      unfold Apmx.sendAck Apmx.send
      split <;> exact htaken
    · rw [Apmx.apmsDataInd_eq_self hconf]
      unfold Apmx.sendAck Apmx.send
      split
      · apply Apmx.ne_of_log
        show x.log.length < (x.log ++ [_]).length
        rw [List.length_append]
        exact Nat.lt_succ_self _
      · rename_i hsends
        exact absurd ⟨hexp, hold, hconf, Bool.eq_false_iff.mpr hsends⟩ hseq
  · rw [if_neg hold]
    exact Apmx.outOfSequence_ne _ _

/-- A PDU that is ignored leaves everything as it is, and nothing behind its header is read. -/
theorem pdu_ignored (h : Ignored env f x) : ∃ ret, pdu env f x = unread f (ret, x) := by
  unfold pdu
  by_cases hversion : f.fixed.version = 1
  swap
  · rw [if_neg hversion]
    exact ⟨0, rfl⟩
  rw [if_pos hversion]
  by_cases hack : f.fixed.pduType = PF_RTA_PDU_TYPE_ACK
  · rw [if_pos hack]
    by_cases hlen : f.dataLen = 0
    · have hconf := (h.ack hversion hack).resolve_left (not_not_intro hlen)
      rw [if_pos hlen, Apmx.apmsDataInd_eq_self hconf]
      exact ⟨0, rfl⟩
    · rw [if_neg hlen]
      exact ⟨0, rfl⟩
  rw [if_neg hack]
  by_cases hnack : f.fixed.pduType = PF_RTA_PDU_TYPE_NACK
  · rw [if_pos hnack]
    exact ⟨0, rfl⟩
  rw [if_neg hnack]
  by_cases hdata : f.fixed.pduType = PF_RTA_PDU_TYPE_DATA
  · rw [if_pos hdata]
    exact apmrDataInd_ignored (h.data hversion hdata)
  rw [if_neg hdata]
  by_cases herr : f.fixed.pduType = PF_RTA_PDU_TYPE_ERR
  · rw [if_pos herr, if_neg (h.err hversion herr)]
    exact ⟨0, rfl⟩
  · rw [if_neg herr]
    exact ⟨0, rfl⟩

/-- Only those leave everything as it is. -/
theorem ignored_of_unchanged (h : (pdu env f x).apmx = x) : Ignored env f x := by
  unfold pdu at h
  constructor
  · intro hversion hack
    rw [if_pos hversion, if_pos hack] at h
    by_contra hno
    rw [not_or, not_not, not_not] at hno
    rw [if_pos hno.1] at h
    exact Apmx.ne_of_open hno.2.1 (Apmx.apmsDataInd_open (.inl hack) hno.2) h
  · intro hversion hdata
    rw [if_pos hversion, if_neg (by rw [hdata]; decide), if_neg (by rw [hdata]; decide),
      if_pos hdata] at h
    by_contra hno
    exact apmrDataInd_changes hdata hno h
  · intro hversion herr hlen
    rw [if_pos hversion, if_neg (by rw [herr]; decide), if_neg (by rw [herr]; decide),
      if_neg (by rw [herr]; decide), if_pos herr, if_pos hlen] at h
    split at h
    split at h
    · exact Apmx.errorInd_ne _ _ _ h
    · exact Apmx.errorInd_ne _ _ _ h

/-- Of a PDU that has what it announces, nothing behind it is read or indicated. -/
theorem pdu_reads (h : f.Fits x f.reader.info.len) :
    (pdu env f x).reader.pos ≤ f.reader.pos + f.dataLen.toNat ∧
      ∀ pos len, (pdu env f x).indicated = some (pos, len) →
        f.reader.pos ≤ pos ∧ pos + len.toNat = f.reader.pos + f.dataLen.toNat := by
  have hunread : ∀ r : ℤ × Apmx, (unread f r).reader.pos ≤ f.reader.pos + f.dataLen.toNat ∧
      ∀ pos len, (unread f r).indicated = some (pos, len) →
        f.reader.pos ≤ pos ∧ pos + len.toNat = f.reader.pos + f.dataLen.toNat := by
    intro r
    refine ⟨Nat.le_add_right _ _, ?_⟩
    intro pos len hind
    cases hind
  unfold pdu
  split
  swap
  · exact hunread _
  split
  · split
    · exact hunread _
    · exact hunread _
  split
  · exact hunread _
  split
  · rename_i hdata
    unfold apmrDataInd
    split
    · exact hunread _
    · split
      · exact hunread _
      · split
        · exact inSequence_reads h.header (h.body hdata).1 h.varPart
        · split
          · exact hunread _
          · exact hunread _
    · exact hunread _
  split
  · split
    · -- an error PDU, with a status in its variable part
      rename_i hlen
      have hfour : f.dataLen.toNat = 4 := by rw [hlen]; rfl
      have hroom := h.varPart
      rw [hfour] at hroom ⊢
      rcases takes_run takes_pnioStatus h.header hroom with ⟨status, hstatus⟩
      rw [hstatus]
      dsimp only
      split
      · refine ⟨le_rfl, ?_⟩
        intro pos len hind
        cases hind
      · refine ⟨le_rfl, ?_⟩
        intro pos len hind
        cases hind
    · exact hunread _
  · exact hunread _

end Handled

/-! ## One frame -/

namespace AlarmMsg

theorem moves_alarmFixed : Moves getAlarmFixed :=
  moves_uint16.bind fun _ => moves_uint16.bind fun _ => moves_byte.bind fun _ =>
    moves_byte.bind fun _ => moves_uint16.bind fun _ => moves_uint16.map _

/-- The header is read inside the frame, if there is one. -/
theorem header_reader (m : AlarmMsg) : m.header.reader.info.len = m.buf.length ∧
    m.start.pos ≤ m.header.reader.pos ∧
    m.header.reader.pos ≤ max m.start.pos m.buf.length := by
  rcases moves_alarmFixed m.start with ⟨hlen, hge, hle, -⟩
  rcases hfixed : getAlarmFixed m.start with ⟨fixed, r⟩
  rw [hfixed] at hlen hge hle
  rcases moves_uint16 r with ⟨hlen', hge', hle', -⟩
  rcases hvar : getUint16 r with ⟨varPartLen, r'⟩
  rw [hvar] at hlen' hge' hle'
  have hheader : m.header = ⟨fixed, varPartLen, r'⟩ := by
    unfold header
    rw [hfixed]
    dsimp only
    rw [hvar]
  rw [hheader]
  have hsize : m.start.info.len = m.buf.length := rfl
  dsimp only at hlen hge hle hlen' hge' hle' ⊢
  exact ⟨by omega, by omega, by omega⟩

variable {env : Surroundings} {m : AlarmMsg} {x : Apmx}

theorem receive_pdu (env : Surroundings) (m : AlarmMsg) (h : x.apmrState ≠ .PF_APMR_STATE_CLOSED) :
    m.receive env x = Handled.pdu env m.header x := if_neg h

theorem contained_closed (h : x.apmrState = .PF_APMR_STATE_CLOSED) : Contained env m x := by
  have hnone : m.receive env x = ⟨0, x, m.start, none⟩ := if_pos h
  have hge := (header_reader m).2.1
  constructor
  · rw [hnone]
    intro i hi hlt
    exact absurd hi (Nat.not_le.mpr hlt)
  · rw [hnone]
    intro i hi hlt
    exact absurd (hge.trans hi) (Nat.not_le.mpr hlt)
  · rw [hnone]
    intro pos len hind
    cases hind
  · intro _
    rw [hnone]

theorem contained_ignored (hclosed : x.apmrState ≠ .PF_APMR_STATE_CLOSED)
    (h : Ignored env m.header x) : Contained env m x := by
  have hle := (header_reader m).2.2
  have hpdu := receive_pdu env m hclosed
  generalize hf : m.header = f at h hle hpdu
  rcases Handled.pdu_ignored h with ⟨ret, hret⟩
  rw [hret] at hpdu
  constructor
  · rw [hpdu]
    intro i hi hlt
    have hlt' : i < f.reader.pos := hlt
    omega
  · rw [hpdu, hf]
    intro i hi hlt
    exact absurd hi (Nat.not_le.mpr hlt)
  · rw [hpdu]
    intro pos len hind
    cases hind
  · intro _
    rw [hpdu]
    rfl

theorem contained_fits (hclosed : x.apmrState ≠ .PF_APMR_STATE_CLOSED)
    (h : m.header.Fits x m.buf.length) : Contained env m x := by
  have hlen := (header_reader m).1
  have hpdu := receive_pdu env m hclosed
  have hfits := h
  generalize hf : m.header = f at h hlen hpdu
  rw [← hlen] at h
  have hroom := h.varPart
  rcases @Handled.pdu_reads env f x h with ⟨hpos, hind⟩
  rw [hlen] at hroom
  constructor
  · rw [hpdu]
    intro i _ hlt
    omega
  · rw [hpdu, hf]
    intro i _ hlt
    omega
  · rw [hpdu, hf]
    intro pos len hsome
    rcases hind pos len hsome with ⟨hfrom, hend⟩
    exact ⟨hfrom, by omega, hend.le⟩
  · intro hno
    exact absurd hfits hno

/-- The handling of a frame keeps to its lengths in exactly these cases: the instance is closed, the
PDU is ignored anyway, or the frame has what it announces. -/
theorem contained_iff (env : Surroundings) (m : AlarmMsg) (x : Apmx) :
    Contained env m x ↔ x.apmrState = .PF_APMR_STATE_CLOSED ∨ Ignored env m.header x ∨
      m.header.Fits x m.buf.length := by
  by_cases hclosed : x.apmrState = .PF_APMR_STATE_CLOSED
  · exact iff_of_true (contained_closed hclosed) (.inl hclosed)
  rw [or_iff_right hclosed]
  constructor
  · intro h
    -- A frame that is not ignored changes something, and so has to fit.
    by_cases hignored : Ignored env m.header x
    · exact Or.inl hignored
    · refine Or.inr (Classical.byContradiction fun hno => ?_)
      apply hignored
      apply Handled.ignored_of_unchanged
      rw [← receive_pdu env m hclosed]
      exact h.dropped hno
  · intro h
    rcases h with hignored | hfits
    · exact contained_ignored hclosed hignored
    · exact contained_fits hclosed hfits

/-! ## A length that is too small -/

/-- An Alarm Notification PDU of low priority, the first PDU after the activation. Its variable part
has 28 bytes, and the length that it announces is 10. -/
def shortVarPart : AlarmMsg where
  buf := List.replicate 14 0 ++ [0xfe, 0x01, 0x00, 0x01, 0x00, 0x02, 0x11, 0x11, 0xff, 0xff, 0xff,
    0xfe, 0x00, 0x0a, 0x00, 0x02, 0x00, 0x18, 0x01, 0x00] ++ List.replicate 22 0
  frameIdPos := 14

/-- The application is told that there are 65518 bytes of payload behind the end of the frame. -/
theorem shortVarPart_indicated :
    (shortVarPart.receive (sampleSurroundings true) (Apmx.activate false 1 2)).indicated =
      some (56, 65518) ∧ shortVarPart.buf.length = 56 ∧
    ¬ ∀ (env : Surroundings) (m : AlarmMsg) (high : Bool) (srcRef dstRef : BitVec 16),
      Contained env m (Apmx.activate high srcRef dstRef) := by
  have hind : (shortVarPart.receive (sampleSurroundings true)
      (Apmx.activate false 1 2)).indicated = some (56, 65518) := by decide +kernel
  refine ⟨hind, rfl, ?_⟩
  intro h
  rcases (h _ _ _ _ _).payload 56 65518 hind with ⟨-, hend, -⟩
  exact absurd hend (by decide)

end AlarmMsg

end PNet.Alarm
