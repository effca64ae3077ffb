import PNet.Alarm.Delivery
import PNet.Lib.Runs

/-! # The receiver of alarms while the application aborts

`pf_alarm_apmr_a_data_ind` goes through the state WCNF within one call, and calls the application
from there. This is the same function with an application that may abort the AR in each of its
callbacks, so that the instance is closed below the function that called it.

* `inSequence_eq`: with an application that does not abort, a PDU in sequence is handled as in
  `Apmr`.
* `settled_iff`: the runs in which the receiver is always left open or closed, and closed when it
  was closed.
-/

namespace PNet.Alarm

open Block

/-! ## The instance -/

/-- What the rest of the system does while one PDU is handled; the application aborts the AR in a
callback, if it is called, or does not. -/
structure Application extends Surroundings where
  abortsInInd : Bool
  abortsInCnf : Bool
  abortsInAckCnf : Bool

/-- An APMX that has been activated; `closed` tells that it has been closed since then, and with
that its pointer to the AR is `NULL`. -/
structure Receiver where
  apmx : Apmx
  closed : Bool

namespace Receiver

def setState (apmrState : ApmrState) (x : Receiver) : Receiver :=
  { x with apmx := { x.apmx with apmrState } }

def onNeighbours (change : Neighbours → Neighbours) (x : Receiver) : Receiver :=
  { x with apmx := { x.apmx with neighbours := change x.apmx.neighbours } }

/-- `pf_alarm_close`, as far as it concerns one instance. -/
def close (x : Receiver) : Receiver := ⟨x.apmx.close, true⟩

/-- `pf_alarm_error_ind`. -/
def errorInd (errCls errCode : Byte) (x : Receiver) : Receiver :=
  ⟨x.apmx.errorInd errCls errCode, true⟩

/-- A callback of the application. -/
def callback (change : Neighbours → Neighbours) (aborts : Bool) (x : Receiver) : Receiver :=
  if aborts then (x.onNeighbours change).close else x.onNeighbours change

/-! ## Handling a PDU -/

/-- `pf_alarm_alpmr_apms_a_data_cnf`, positive. -/
def alpmrApmsDataCnf (env : Application) (x : Receiver) : Receiver :=
  match x.apmx.neighbours.alpmrState with
  | .PF_ALPMR_STATE_W_START | .PF_ALPMR_STATE_W_NOTIFY | .PF_ALPMR_STATE_W_USER_ACK => x
  | .PF_ALPMR_STATE_W_TACK =>
    (x.callback env.alarmAckCnf env.abortsInAckCnf).onNeighbours fun n =>
      { n with alpmrState := .PF_ALPMR_STATE_W_NOTIFY }

/-- `pf_alarm_apms_a_data_ind`. -/
def apmsDataInd (env : Application) (fixed : AlarmFixed) (x : Receiver) : Receiver :=
  if fixed.pduType = PF_RTA_PDU_TYPE_ACK ∨ fixed.pduType = PF_RTA_PDU_TYPE_DATA then
    if x.apmx.neighbours.apmsState = .PF_APMS_STATE_WTACK ∧
        fixed.ackSeqNbr = x.apmx.neighbours.sendSeqCount then
      let x := alpmrApmsDataCnf env (x.onNeighbours fun n => { n with
        sendSeqCountO := n.sendSeqCount
        sendSeqCount := (n.sendSeqCount + 1) &&& 0x7fff
        rta := false })
      x.onNeighbours fun n => { n with apmsState := .PF_APMS_STATE_OPEN }
    else x
  else x

/-- `pf_alarm_apmr_send_ack`, which looks at the AR; `none` when the pointer is `NULL`. -/
def sendAck (env : Application) (x : Receiver) : Option (ℤ × Receiver) :=
  if x.closed then none
  else
    let r := x.apmx.sendAck env.toSurroundings
    some (r.1, { x with apmx := r.2 })

/-- `pf_alarm_alpmi_apmr_a_data_ind`. -/
def alpmiDataInd (env : Application) (status : PnioStatus) (x : Receiver) : ℤ × Receiver :=
  let x := { x with apmx := x.apmx.emit (.handed (.ack status)) }
  match x.apmx.neighbours.alpmiState with
  | .PF_ALPMI_STATE_W_START | .PF_ALPMI_STATE_W_ALARM => (0, x)
  | .PF_ALPMI_STATE_W_ACK =>
    let x := x.onNeighbours fun n => { n with alpmiState := .PF_ALPMI_STATE_W_ALARM }
    (0, x.callback env.alarmCnf env.abortsInCnf)

/-- `pf_alarm_alpmr_apmr_a_data_ind`. -/
def alpmrDataInd (env : Application) (data : AlarmData) (dataUsi : BitVec 16)
    (payload : List Byte) (x : Receiver) : ℤ × Receiver :=
  let x := { x with apmx := x.apmx.emit (.handed (.notification data dataUsi payload)) }
  match x.apmx.neighbours.alpmrState with
  | .PF_ALPMR_STATE_W_START => (0, x)
  | .PF_ALPMR_STATE_W_NOTIFY =>
    let x := x.onNeighbours fun n => { n with alpmrState := .PF_ALPMR_STATE_W_USER_ACK }
    (0, x.callback env.alarmInd env.abortsInInd)
  | .PF_ALPMR_STATE_W_USER_ACK | .PF_ALPMR_STATE_W_TACK =>
    (-1, x.errorInd PNET_ERROR_CODE_1_RTA_ERR_CLS_PROTOCOL
      PNET_ERROR_CODE_2_ABORT_AR_PROTOCOL_VIOLATION)

/-- An answer 0 opens APMR again. -/
def reopen (r : ℤ × Receiver) : ℤ × Receiver :=
  if r.1 = 0 then (r.1, r.2.setState .PF_APMR_STATE_OPEN) else r

/-- The acknowledgement of a PDU in sequence. -/
def acknowledge (env : Application) (fixed : AlarmFixed) (x : Receiver) : Option (ℤ × Receiver) :=
  let x := apmsDataInd env fixed x
  sendAck env { x with apmx := x.apmx.advance }

/-- An Alarm ACK PDU in sequence; `r` is the parser behind the block header. -/
def ackInSequence (env : Application) (f : DataFrame) (r : Reader) (x : Receiver) :
    Option (ℤ × Receiver) :=
  (acknowledge env f.fixed x).map fun (ret, x) =>
    if ret = 0 then
      reopen (alpmiDataInd env (getPnioStatus r).1 (x.setState .PF_APMR_STATE_WCNF))
    else (ret, x)

/-- An Alarm Notification PDU in sequence. -/
def notifyInSequence (env : Application) (f : DataFrame) (r : Reader) (x : Receiver) :
    Option (ℤ × Receiver) :=
  (acknowledge env f.fixed x).map fun (ret, x) =>
    if ret = 0 then
      let x := x.setState .PF_APMR_STATE_WCNF
      match Apmx.notificationOf f r with
      | some (data, usi, payload) => reopen (alpmrDataInd env data usi payload x)
      | none => (-1, x)
    else (ret, x)

/-- The PDU with the expected number. -/
def inSequence (env : Application) (f : DataFrame) (x : Receiver) : Option (ℤ × Receiver) :=
  let (block, r) := getBlockHeader f.reader
  if block.blockType = x.apmx.blockTypeAlarmAck then ackInSequence env f r x
  else if block.blockType = x.apmx.blockTypeAlarmNotify then notifyInSequence env f r x
  else if x.closed then none
  else
    some (-1, x.errorInd PNET_ERROR_CODE_1_RTA_ERR_CLS_PROTOCOL
      PNET_ERROR_CODE_2_ABORT_AR_ALARM_IND_ERROR)

/-- Any other number. -/
def outOfSequence (env : Application) (x : Receiver) : Option (ℤ × Receiver) :=
  if x.closed then none
  else
    let r := x.apmx.outOfSequence env.toSurroundings
    some (r.1, { x with apmx := r.2 })

/-- `pf_alarm_apmr_a_data_ind`. -/
def apmrDataInd (env : Application) (f : DataFrame) (x : Receiver) : Option (ℤ × Receiver) :=
  match x.apmx.apmrState with
  | .PF_APMR_STATE_CLOSED => some (0, x)
  | .PF_APMR_STATE_OPEN =>
    if f.fixed.tack = false then some (0, x)
    else if f.fixed.sendSeqNum = x.apmx.expSeqCount then inSequence env f x
    else if f.fixed.sendSeqNum = x.apmx.expSeqCountO then
      (sendAck env (apmsDataInd env f.fixed x)).map fun r => (0, r.2)
    else outOfSequence env x
  | .PF_APMR_STATE_WCNF => some (-1, x)

end Receiver

/-! ## Without aborts -/

namespace Receiver

variable {env : Application} {f : DataFrame} {x : Receiver}

/-- The application aborts the AR when it is told that its own acknowledgement has arrived. -/
def AbortsInAckCnf (env : Application) (fixed : AlarmFixed) (x : Receiver) : Prop :=
  (fixed.pduType = PF_RTA_PDU_TYPE_ACK ∨ fixed.pduType = PF_RTA_PDU_TYPE_DATA) ∧
    (x.apmx.neighbours.apmsState = .PF_APMS_STATE_WTACK ∧
      fixed.ackSeqNbr = x.apmx.neighbours.sendSeqCount) ∧
    x.apmx.neighbours.alpmrState = .PF_ALPMR_STATE_W_TACK ∧ env.abortsInAckCnf = true

theorem callback_false (change : Neighbours → Neighbours) :
    x.callback change false = x.onNeighbours change := rfl

theorem callback_true (change : Neighbours → Neighbours) :
    x.callback change true = (x.onNeighbours change).close := rfl

/-- APMS does as in `Apmr`, or the AR is aborted below it. -/
theorem apmsDataInd_cases (env : Application) (fixed : AlarmFixed) (x : Receiver) :
    (¬ AbortsInAckCnf env fixed x ∧ apmsDataInd env fixed x =
      { x with apmx := x.apmx.apmsDataInd env.toSurroundings fixed }) ∨
    (AbortsInAckCnf env fixed x ∧ (apmsDataInd env fixed x).closed = true) := by
  unfold AbortsInAckCnf apmsDataInd Apmx.apmsDataInd
  by_cases htype : fixed.pduType = PF_RTA_PDU_TYPE_ACK ∨ fixed.pduType = PF_RTA_PDU_TYPE_DATA
  swap
  · rw [if_neg htype, if_neg htype]
    exact .inl ⟨fun h => htype h.1, rfl⟩
  rw [if_pos htype, if_pos htype]
  by_cases hack : x.apmx.neighbours.apmsState = .PF_APMS_STATE_WTACK ∧
      fixed.ackSeqNbr = x.apmx.neighbours.sendSeqCount
  swap
  · rw [if_neg hack, if_neg hack]
    exact .inl ⟨fun h => hack h.2.1, rfl⟩
  rw [if_pos hack, if_pos hack]
  unfold alpmrApmsDataCnf Apmx.alpmrApmsDataCnf
  cases hstate : x.apmx.neighbours.alpmrState with
  | PF_ALPMR_STATE_W_TACK =>
    cases haborts : env.abortsInAckCnf with
    | false =>
      left
      refine ⟨fun h => Bool.false_ne_true h.2.2.2, ?_⟩
      simp only [onNeighbours, hstate, callback_false]
    | true =>
      right
      refine ⟨⟨htype, hack, rfl, rfl⟩, ?_⟩
      simp only [onNeighbours, hstate, callback_true]
      rfl
  | _ =>
    left
    refine ⟨?_, ?_⟩
    · rintro ⟨-, -, hno, -⟩
      cases hno
    · simp only [onNeighbours, hstate]

/-- The acknowledgement as in `Apmr`. -/
theorem acknowledge_eq (hopen : x.closed = false) {fixed : AlarmFixed}
    (h : ¬ AbortsInAckCnf env fixed x) :
    acknowledge env fixed x = some
      (((x.apmx.apmsDataInd env.toSurroundings fixed).advance.sendAck env.toSurroundings).1,
        { x with apmx := ((x.apmx.apmsDataInd env.toSurroundings fixed).advance.sendAck
          env.toSurroundings).2 }) := by
  rcases apmsDataInd_cases env fixed x with ⟨-, heq⟩ | ⟨haborts, -⟩
  · unfold acknowledge sendAck
    rw [heq, hopen]
    rfl
  · exact absurd haborts h

/-- Once the AR has been aborted, there is none to send the acknowledgement for. -/
theorem acknowledge_none {fixed : AlarmFixed} (h : AbortsInAckCnf env fixed x) :
    acknowledge env fixed x = none := by
  rcases apmsDataInd_cases env fixed x with ⟨hno, -⟩ | ⟨-, hclosed⟩
  · exact absurd h hno
  · unfold acknowledge sendAck
    rw [if_pos hclosed]

/-- Whether the acknowledgement is sent. -/
theorem sendAck_fst (env : Surroundings) (a : Apmx) :
    (a.sendAck env).1 = 0 ↔ env.sends = true := by
  unfold Apmx.sendAck Apmx.send
  split
  · rename_i hsends
    exact iff_of_true rfl hsends
  · rename_i hsends
    exact iff_of_false (show ¬ (-1 : ℤ) = 0 by decide) hsends

theorem alpmiDataInd_eq (env : Application) (status : PnioStatus) (x : Receiver)
    (h : x.apmx.neighbours.alpmiState = .PF_ALPMI_STATE_W_ACK → env.abortsInCnf = false) :
    alpmiDataInd env status x = ((x.apmx.alpmiDataInd env.toSurroundings status).1,
      { x with apmx := (x.apmx.alpmiDataInd env.toSurroundings status).2 }) := by
  unfold alpmiDataInd Apmx.alpmiDataInd
  cases hstate : x.apmx.neighbours.alpmiState with
  | PF_ALPMI_STATE_W_ACK =>
    simp only [Apmx.emit, hstate, h hstate, callback_false]
    rfl
  | _ =>
    simp only [Apmx.emit, hstate]

theorem alpmrDataInd_eq (env : Application) (data : AlarmData) (dataUsi : BitVec 16)
    (payload : List Byte) (x : Receiver)
    (h : x.apmx.neighbours.alpmrState = .PF_ALPMR_STATE_W_NOTIFY → env.abortsInInd = false) :
    ∃ closed, alpmrDataInd env data dataUsi payload x =
      ((x.apmx.alpmrDataInd env.toSurroundings data dataUsi payload).1,
        ⟨(x.apmx.alpmrDataInd env.toSurroundings data dataUsi payload).2, closed⟩) := by
  unfold alpmrDataInd Apmx.alpmrDataInd
  cases hstate : x.apmx.neighbours.alpmrState with
  | PF_ALPMR_STATE_W_NOTIFY =>
    simp only [Apmx.emit, hstate, h hstate, callback_false]
    exact ⟨x.closed, rfl⟩
  | PF_ALPMR_STATE_W_START =>
    simp only [Apmx.emit, hstate]
    exact ⟨x.closed, rfl⟩
  | _ =>
    simp only [Apmx.emit, hstate]
    exact ⟨true, rfl⟩

/-- The receiver is open, or it has been closed and is. -/
def Live (x : Receiver) : Prop :=
  x.apmx.apmrState = if x.closed then .PF_APMR_STATE_CLOSED else .PF_APMR_STATE_OPEN

/-- The receiver is stuck, or open although it has been closed. -/
def Stuck (x : Receiver) : Prop :=
  x.apmx.apmrState = .PF_APMR_STATE_WCNF ∨
    x.closed = true ∧ x.apmx.apmrState = .PF_APMR_STATE_OPEN

theorem callback_closed (change : Neighbours → Neighbours) (aborts : Bool) :
    (x.callback change aborts).closed = true ↔ x.closed = true ∨ aborts = true := by
  cases aborts with
  | false => exact (or_iff_left Bool.false_ne_true).symm
  | true => exact iff_of_true rfl (.inr rfl)

/-- An alarm acknowledgement that has been handed to ALPMI. -/
theorem alpmiDataInd_closed (env : Application) (status : PnioStatus) (x : Receiver) :
    (alpmiDataInd env status x).1 = 0 ∧
      ((alpmiDataInd env status x).2.closed = true ↔ x.closed = true ∨
        x.apmx.neighbours.alpmiState = .PF_ALPMI_STATE_W_ACK ∧ env.abortsInCnf = true) := by
  unfold alpmiDataInd
  cases hstate : x.apmx.neighbours.alpmiState with
  | PF_ALPMI_STATE_W_ACK =>
    simp only [Apmx.emit, hstate, callback_closed, true_and]
    exact Iff.rfl
  | _ =>
    simp [Apmx.emit, hstate]

/-- A notification that has been handed to ALPMR, which indicates it or aborts the AR. -/
theorem alpmrDataInd_closed (env : Application) (data : AlarmData) (dataUsi : BitVec 16)
    (payload : List Byte) (x : Receiver) :
    ((alpmrDataInd env data dataUsi payload x).1 = 0 ∧
      ((alpmrDataInd env data dataUsi payload x).2.closed = true ↔ x.closed = true ∨
        x.apmx.neighbours.alpmrState = .PF_ALPMR_STATE_W_NOTIFY ∧ env.abortsInInd = true)) ∨
    (x.apmx.neighbours.alpmrState ≠ .PF_ALPMR_STATE_W_NOTIFY ∧
      (alpmrDataInd env data dataUsi payload x).1 ≠ 0 ∧
      Live (alpmrDataInd env data dataUsi payload x).2) := by
  unfold alpmrDataInd
  cases hstate : x.apmx.neighbours.alpmrState with
  | PF_ALPMR_STATE_W_NOTIFY =>
    left
    simp only [Apmx.emit, hstate, callback_closed, true_and]
    exact Iff.rfl
  | PF_ALPMR_STATE_W_START =>
    left
    simp [Apmx.emit, hstate]
  | _ =>
    right
    simp only [Apmx.emit, hstate]
    exact ⟨by decide, by decide, rfl⟩

/-! ## One PDU -/

/-- APMS and the acknowledgement leave the state of APMR. -/
theorem apmsDataInd_apmrState (env : Surroundings) (fixed : AlarmFixed) (a : Apmx) :
    (a.apmsDataInd env fixed).apmrState = a.apmrState := by
  unfold Apmx.apmsDataInd
  split
  · split
    · unfold Apmx.alpmrApmsDataCnf
      split <;> rfl
    · rfl
  · rfl

theorem sendAck_snd (env : Surroundings) (a : Apmx) :
    (a.sendAck env).2.apmrState = a.apmrState ∧ (a.sendAck env).2.neighbours = a.neighbours := by
  unfold Apmx.sendAck Apmx.send
  split <;> exact ⟨rfl, rfl⟩

/-- The condition on an Alarm ACK PDU in sequence: the application does not abort the AR. -/
def AckCalm (env : Application) (f : DataFrame) (x : Receiver) : Prop :=
  ¬ AbortsInAckCnf env f.fixed x ∧
    (env.sends = true →
      (x.apmx.apmsDataInd env.toSurroundings f.fixed).neighbours.alpmiState =
        .PF_ALPMI_STATE_W_ACK → env.abortsInCnf = false)

/-- The condition on an Alarm Notification PDU in sequence: it can be parsed, and the application
does not abort the AR. -/
def NotifyCalm (env : Application) (f : DataFrame) (r : Reader) (x : Receiver) : Prop :=
  ¬ AbortsInAckCnf env f.fixed x ∧
    (env.sends = true → (Apmx.notificationOf f r).isSome = true ∧
      ((x.apmx.apmsDataInd env.toSurroundings f.fixed).neighbours.alpmrState =
        .PF_ALPMR_STATE_W_NOTIFY → env.abortsInInd = false))

/-- What a PDU does, if the condition is met and if it is not. -/
def Judged (calm : Prop) (result : Option (ℤ × Receiver)) : Prop :=
  calm ∧ (∃ r, result = some r ∧ Live r.2) ∨ ¬ calm ∧ ∀ r, result = some r → Stuck r.2

/-- APMR is opened again, which is right unless it has been closed. -/
theorem reopen_judged {calm : Prop} {r : ℤ × Receiver} (hret : r.1 = 0)
    (hcalm : ¬ calm ↔ r.2.closed = true) : Judged calm (some (reopen r)) := by
  unfold reopen
  rw [if_pos hret]
  by_cases hc : calm
  · left
    have hopen : r.2.closed = false := Bool.eq_false_iff.mpr fun h => hcalm.mpr h hc
    refine ⟨hc, _, rfl, ?_⟩
    unfold Live setState
    rw [hopen]
    rfl
  · right
    refine ⟨hc, ?_⟩
    intro r' hr'
    obtain rfl := Option.some.inj hr'
    exact .inr ⟨hcalm.mp hc, rfl⟩

theorem ackInSequence_judged (hopen : x.closed = false)
    (hstate : x.apmx.apmrState = .PF_APMR_STATE_OPEN) (r : Reader) :
    Judged (AckCalm env f x) (ackInSequence env f r x) := by
  unfold ackInSequence
  by_cases haborts : AbortsInAckCnf env f.fixed x
  · right
    rw [acknowledge_none haborts]
    refine ⟨fun h => h.1 haborts, ?_⟩
    intro r' hr'
    cases hr'
  rw [acknowledge_eq hopen haborts, Option.map_some]
  have hsame := sendAck_snd env.toSurroundings
    (x.apmx.apmsDataInd env.toSurroundings f.fixed).advance
  have hret := sendAck_fst env.toSurroundings
    (x.apmx.apmsDataInd env.toSurroundings f.fixed).advance
  have hkeep : (x.apmx.apmsDataInd env.toSurroundings f.fixed).advance.apmrState =
      .PF_APMR_STATE_OPEN := (apmsDataInd_apmrState _ _ _).trans hstate
  generalize (x.apmx.apmsDataInd env.toSurroundings f.fixed).advance.sendAck env.toSurroundings = y
    at hsame hret
  by_cases hsends : env.sends = true
  swap
  · -- The state has not been changed.
    left
    refine ⟨⟨haborts, fun h => absurd h hsends⟩, _, rfl, ?_⟩
    dsimp only
    rw [if_neg (fun h => hsends (hret.mp h))]
    unfold Live
    rw [hopen]
    exact hsame.1.trans hkeep
  dsimp only
  rw [if_pos (hret.mpr hsends)]
  rcases alpmiDataInd_closed env (getPnioStatus r).1
    (setState .PF_APMR_STATE_WCNF { x with apmx := y.2 }) with ⟨hzero, hclosed⟩
  refine reopen_judged hzero ?_
  rw [hclosed]
  show ¬ AckCalm env f x ↔ x.closed = true ∨
    y.2.neighbours.alpmiState = .PF_ALPMI_STATE_W_ACK ∧ env.abortsInCnf = true
  rw [hsame.2, hopen, or_iff_right Bool.false_ne_true]
  unfold AckCalm
  rw [and_iff_right haborts, forall_prop_of_true hsends, Classical.not_imp, Bool.not_eq_false]
  exact Iff.rfl

theorem notifyInSequence_judged (hopen : x.closed = false)
    (hstate : x.apmx.apmrState = .PF_APMR_STATE_OPEN) (r : Reader) :
    Judged (NotifyCalm env f r x) (notifyInSequence env f r x) := by
  unfold notifyInSequence
  by_cases haborts : AbortsInAckCnf env f.fixed x
  · right
    rw [acknowledge_none haborts]
    refine ⟨fun h => h.1 haborts, ?_⟩
    intro r' hr'
    cases hr'
  rw [acknowledge_eq hopen haborts, Option.map_some]
  have hsame := sendAck_snd env.toSurroundings
    (x.apmx.apmsDataInd env.toSurroundings f.fixed).advance
  have hret := sendAck_fst env.toSurroundings
    (x.apmx.apmsDataInd env.toSurroundings f.fixed).advance
  have hkeep : (x.apmx.apmsDataInd env.toSurroundings f.fixed).advance.apmrState =
      .PF_APMR_STATE_OPEN := (apmsDataInd_apmrState _ _ _).trans hstate
  generalize (x.apmx.apmsDataInd env.toSurroundings f.fixed).advance.sendAck env.toSurroundings = y
    at hsame hret
  by_cases hsends : env.sends = true
  swap
  · left
    refine ⟨⟨haborts, fun h => absurd h hsends⟩, _, rfl, ?_⟩
    dsimp only
    rw [if_neg (fun h => hsends (hret.mp h))]
    unfold Live
    rw [hopen]
    exact hsame.1.trans hkeep
  dsimp only
  rw [if_pos (hret.mpr hsends)]
  cases hbody : Apmx.notificationOf f r with
  | none =>
    -- The PDU has been acknowledged, but not handed upward: the receiver is left in WCNF.
    right
    refine ⟨?_, ?_⟩
    · intro h
      have hsome := (h.2 hsends).1
      rw [hbody] at hsome
      cases hsome
    · intro r' hr'
      obtain rfl := Option.some.inj hr'
      exact .inl rfl
  | some body =>
    obtain ⟨data, usi, payload⟩ := body
    rcases alpmrDataInd_closed env data usi payload
      (setState .PF_APMR_STATE_WCNF { x with apmx := y.2 }) with ⟨hzero, hclosed⟩ | ⟨hw, hne, hlive⟩
    · refine reopen_judged hzero ?_
      rw [hclosed]
      show ¬ NotifyCalm env f r x ↔ x.closed = true ∨
        y.2.neighbours.alpmrState = .PF_ALPMR_STATE_W_NOTIFY ∧ env.abortsInInd = true
      rw [hsame.2, hopen, or_iff_right Bool.false_ne_true]
      unfold NotifyCalm
      rw [and_iff_right haborts, forall_prop_of_true hsends, hbody, Option.isSome_some,
        and_iff_right rfl, Classical.not_imp, Bool.not_eq_false]
      exact Iff.rfl
    · -- ALPMR aborts the AR, and its answer keeps APMR closed.
      left
      refine ⟨⟨haborts, fun _ => ⟨by rw [hbody]; rfl, ?_⟩⟩, _, rfl, ?_⟩
      · intro h
        refine absurd ?_ hw
        show y.2.neighbours.alpmrState = _
        rw [hsame.2]
        exact h
      · unfold reopen
        dsimp only
        rw [if_neg hne]
        exact hlive

theorem Judged.of_live {calm : Prop} {r : ℤ × Receiver} (hcalm : calm) (h : Live r.2) :
    Judged calm (some r) := .inl ⟨hcalm, r, rfl, h⟩

/-- The condition on a PDU in sequence. -/
def BodyCalm (env : Application) (f : DataFrame) (x : Receiver) : Prop :=
  let (block, r) := getBlockHeader f.reader
  if block.blockType = x.apmx.blockTypeAlarmAck then AckCalm env f x
  else if block.blockType = x.apmx.blockTypeAlarmNotify then NotifyCalm env f r x
  else True

/-- The condition on a PDU. -/
def PduCalm (env : Application) (f : DataFrame) (x : Receiver) : Prop :=
  if f.fixed.sendSeqNum = x.apmx.expSeqCount then BodyCalm env f x
  else if f.fixed.sendSeqNum = x.apmx.expSeqCountO then ¬ AbortsInAckCnf env f.fixed x
  else True

/-- `pf_alarm_apmr_a_data_ind`, of a PDU with the TACK flag for a receiver that is open. -/
theorem apmrDataInd_judged (hopen : x.closed = false)
    (hstate : x.apmx.apmrState = .PF_APMR_STATE_OPEN) (htack : f.fixed.tack = true) :
    Judged (PduCalm env f x) (apmrDataInd env f x) := by
  have hnot : ¬ f.fixed.tack = false := Bool.not_eq_false _ ▸ htack
  unfold apmrDataInd PduCalm
  rw [hstate]
  dsimp only
  rw [if_neg hnot]
  by_cases hseq : f.fixed.sendSeqNum = x.apmx.expSeqCount
  · rw [if_pos hseq, if_pos hseq]
    unfold inSequence BodyCalm
    rcases getBlockHeader f.reader with ⟨block, r⟩
    dsimp only
    by_cases hack : block.blockType = x.apmx.blockTypeAlarmAck
    · rw [if_pos hack, if_pos hack]
      exact ackInSequence_judged hopen hstate r
    rw [if_neg hack, if_neg hack]
    by_cases hnotify : block.blockType = x.apmx.blockTypeAlarmNotify
    · rw [if_pos hnotify, if_pos hnotify]
      exact notifyInSequence_judged hopen hstate r
    · rw [if_neg hnotify, if_neg hnotify, hopen, if_neg Bool.false_ne_true]
      exact Judged.of_live trivial rfl
  rw [if_neg hseq, if_neg hseq]
  by_cases hold : f.fixed.sendSeqNum = x.apmx.expSeqCountO
  · rw [if_pos hold, if_pos hold]
    rcases apmsDataInd_cases env f.fixed x with ⟨hno, heq⟩ | ⟨haborts, hclosed⟩
    · rw [heq]
      unfold sendAck
      rw [hopen, if_neg Bool.false_ne_true, Option.map_some]
      refine Judged.of_live hno ?_
      exact ((sendAck_snd _ _).1.trans (apmsDataInd_apmrState _ _ _)).trans hstate
    · right
      refine ⟨fun hno => hno haborts, ?_⟩
      unfold sendAck
      rw [hclosed, if_pos rfl, Option.map_none]
      intro r hr
      cases hr
  · rw [if_neg hold, if_neg hold]
    unfold outOfSequence
    rw [hopen, if_neg Bool.false_ne_true]
    refine Judged.of_live trivial ?_
    unfold Apmx.outOfSequence Apmx.sendNack Apmx.send
    dsimp only
    split <;> exact hstate

/-! ## The next PDU -/

theorem reopen_eq (ret : ℤ) (a : Apmx) (closed : Bool) :
    reopen (ret, ⟨a, closed⟩) = ((Apmx.reopen (ret, a)).1, ⟨(Apmx.reopen (ret, a)).2, closed⟩) := by
  unfold reopen Apmx.reopen setState
  split <;> rfl

/-- With an application that does not abort the AR, the function is that of `Apmr`. -/
theorem inSequence_eq (hopen : x.closed = false) (hind : env.abortsInInd = false)
    (hcnf : env.abortsInCnf = false) (hackCnf : env.abortsInAckCnf = false) :
    ∃ closed, inSequence env f x = some ((x.apmx.inSequence env.toSurroundings f).1,
      ⟨(x.apmx.inSequence env.toSurroundings f).2, closed⟩) := by
  have hno : ¬ AbortsInAckCnf env f.fixed x := by
    intro h
    exact Bool.false_ne_true (hackCnf.symm.trans h.2.2.2)
  unfold inSequence Apmx.inSequence
  rcases getBlockHeader f.reader with ⟨block, r⟩
  dsimp only
  by_cases hack : block.blockType = x.apmx.blockTypeAlarmAck
  · rw [if_pos hack, if_pos hack]
    unfold ackInSequence Apmx.ackInSequence
    rw [acknowledge_eq hopen hno, Option.map_some]
    generalize (x.apmx.apmsDataInd env.toSurroundings f.fixed).advance.sendAck
      env.toSurroundings = y
    dsimp only
    by_cases hret : y.1 = 0
    · rw [if_pos hret, if_pos hret, alpmiDataInd_eq env _ _ fun _ => hcnf]
      exact ⟨x.closed, congrArg some (reopen_eq _ _ _)⟩
    · rw [if_neg hret, if_neg hret]
      exact ⟨x.closed, rfl⟩
  rw [if_neg hack, if_neg hack]
  by_cases hnotify : block.blockType = x.apmx.blockTypeAlarmNotify
  · rw [if_pos hnotify, if_pos hnotify]
    unfold notifyInSequence Apmx.notifyInSequence
    rw [acknowledge_eq hopen hno, Option.map_some]
    generalize (x.apmx.apmsDataInd env.toSurroundings f.fixed).advance.sendAck
      env.toSurroundings = y
    dsimp only
    by_cases hret : y.1 = 0
    · rw [if_pos hret, if_pos hret]
      cases Apmx.notificationOf f r with
      | none => exact ⟨x.closed, rfl⟩
      | some body =>
        obtain ⟨data, usi, payload⟩ := body
        rcases alpmrDataInd_eq env data usi payload
          (setState .PF_APMR_STATE_WCNF { x with apmx := y.2 }) fun _ => hind with ⟨closed, heq⟩
        dsimp only
        rw [heq]
        exact ⟨closed, congrArg some (reopen_eq _ _ _)⟩
    · rw [if_neg hret, if_neg hret]
      exact ⟨x.closed, rfl⟩
  · rw [if_neg hnotify, if_neg hnotify, hopen, if_neg Bool.false_ne_true]
    exact ⟨true, rfl⟩

/-- The next PDU in sequence is acknowledged and handed upward, if the acknowledgement can be sent
and the application does not abort the AR meanwhile. -/
def Accepts (x : Receiver) : Prop :=
  ∀ (env : Application) (f : DataFrame) (p : AlarmPdu), env.abortsInInd = false →
    env.abortsInCnf = false → env.abortsInAckCnf = false → env.sends = true →
    f.fixed.tack = true → seqOf f = x.apmx.expSeqCount → pduOf x.apmx f = some p →
    ∃ ret x' fixed rest, apmrDataInd env f x = some (ret, x') ∧
      x'.apmx.log = x.apmx.log ++ ([.sent fixed] ++ ([.handed p] ++ rest)) ∧
      fixed.pduType = PF_RTA_PDU_TYPE_ACK ∧ fixed.ackSeqNbr = seqOf f ∧
      x'.apmx.expSeqCount = nextSeq (seqOf f)

theorem accepts_of_open (hopen : x.closed = false)
    (hstate : x.apmx.apmrState = .PF_APMR_STATE_OPEN) : Accepts x := by
  intro env f p hind hcnf hackCnf hsends htack hseq hpdu
  rcases inSequence_eq (f := f) hopen hind hcnf hackCnf with ⟨closed, heq⟩
  rcases Apmx.inSequence_moves hpdu hsends with
    ⟨fixed, rest, hmoves, htype, hnbr, -, -⟩
  have hnot : ¬ f.fixed.tack = false := Bool.not_eq_false _ ▸ htack
  have hrun : apmrDataInd env f x = inSequence env f x := by
    unfold apmrDataInd
    rw [hstate]
    dsimp only
    rw [if_neg hnot, if_pos (show f.fixed.sendSeqNum = x.apmx.expSeqCount from hseq)]
  exact ⟨_, _, fixed, rest, hrun.trans heq, hmoves.log, htype, hnbr.trans hseq.symm,
    hmoves.exp.trans (congrArg nextSeq hseq.symm)⟩

/-! ## Every run -/

/-- The receiver is open or closed; closed, if the AR was aborted, and else ready for the next
PDU. -/
structure Settled (x : Receiver) : Prop where
  passed : x.apmx.apmrState ≠ .PF_APMR_STATE_WCNF
  aborted : x.closed = true → x.apmx.apmrState = .PF_APMR_STATE_CLOSED
  ready : x.closed = false → x.apmx.apmrState = .PF_APMR_STATE_OPEN ∧ Accepts x

theorem Live.settled (h : Live x) : Settled x := by
  unfold Live at h
  cases hc : x.closed with
  | false =>
    rw [hc] at h
    constructor
    · intro hw
      rw [h] at hw
      cases hw
    · intro hclosed
      cases hc.symm.trans hclosed
    · intro _
      exact ⟨h, accepts_of_open hc h⟩
  | true =>
    rw [hc] at h
    constructor
    · intro hw
      rw [h] at hw
      cases hw
    · intro _
      exact h
    · intro hopen
      cases hc.symm.trans hopen

theorem Stuck.not_settled (h : Stuck x) : ¬ Settled x := by
  intro hs
  rcases h with hw | ⟨hclosed, hopen⟩
  · exact hs.passed hw
  · cases (hs.aborted hclosed).symm.trans hopen

/-- What can happen to an APMX from its activation on. -/
inductive Event where
  /-- An RTA DATA PDU is handled. -/
  | data (env : Application) (f : DataFrame)
  /-- The machines next to APMR go on. -/
  | neighbours (change : Neighbours → Neighbours)
  /-- The alarms of the AR are closed. -/
  | close

/-- `none` when the program uses the pointer to the AR after the AR was aborted. -/
def step (x : Receiver) : Event → Option Receiver
  | .data env f => (apmrDataInd env f x).map Prod.snd
  | .neighbours change => some (x.onNeighbours change)
  | .close => some x.close

/-- The condition on a step. -/
def Calm (x : Receiver) : Event → Prop
  | .data env f =>
    x.apmx.apmrState = .PF_APMR_STATE_OPEN → f.fixed.tack = true → PduCalm env f x
  | .neighbours _ => True
  | .close => True

/-- `pf_alarm_activate`, as far as it concerns one instance. -/
def activate (high : Bool) (srcRef dstRef : BitVec 16) : Receiver :=
  ⟨Apmx.activate high srcRef dstRef, false⟩

theorem step_judged (x : Receiver) (e : Event) (h : Live x) :
    (Calm x e ∧ ∃ x', step x e = some x' ∧ Live x') ∨
      (¬ Calm x e ∧ ∀ x', step x e = some x' → ¬ Settled x') := by
  cases e with
  | neighbours change => exact .inl ⟨trivial, _, rfl, h⟩
  | close => exact .inl ⟨trivial, _, rfl, rfl⟩
  | data env f =>
    cases hc : x.closed with
    | true =>
      have hstate : x.apmx.apmrState = .PF_APMR_STATE_CLOSED := by
        unfold Live at h
        rw [hc] at h
        exact h
      left
      refine ⟨?_, x, ?_, h⟩
      · intro hopen
        cases hstate.symm.trans hopen
      show (apmrDataInd env f x).map Prod.snd = some x
      unfold apmrDataInd
      rw [hstate]
      rfl
    | false =>
      have hstate : x.apmx.apmrState = .PF_APMR_STATE_OPEN := by
        unfold Live at h
        rw [hc] at h
        exact h
      cases htack : f.fixed.tack with
      | false =>
        -- Without the flag, the PDU is ignored.
        left
        refine ⟨?_, x, ?_, h⟩
        · intro _ ht
          cases htack.symm.trans ht
        show (apmrDataInd env f x).map Prod.snd = some x
        unfold apmrDataInd
        rw [hstate]
        dsimp only
        rw [if_pos htack]
        rfl
      | true =>
        have hcalm : Calm x (.data env f) ↔ PduCalm env f x :=
          ⟨fun hcalm => hcalm hstate htack, fun hcalm _ _ => hcalm⟩
        rw [hcalm]
        rcases apmrDataInd_judged hc hstate htack with ⟨hcalm, r, hr, hlive⟩ | ⟨hno, hstuck⟩
        · exact .inl ⟨hcalm, r.2, congrArg (Option.map Prod.snd) hr, hlive⟩
        · refine .inr ⟨hno, ?_⟩
          intro x' hx'
          rcases Option.map_eq_some_iff.mp hx' with ⟨r, hr, rfl⟩
          exact (hstuck r hr).not_settled

/-- From its activation on, the receiver is settled after each step of exactly the runs in which
each PDU meets the condition: a notification in sequence can be parsed, and the application does not
abort the AR in a callback. -/
theorem settled_iff (high : Bool) (srcRef dstRef : BitVec 16) (events : List Event) :
    (∀ done, done <+: events →
      ∃ x, Runs.run step (activate high srcRef dstRef) done = some x ∧ Settled x) ↔
    Runs.Along step Calm (activate high srcRef dstRef) events :=
  Runs.completes_iff (I := Live) rfl (fun _ h => h.settled) step_judged

/-! ## A notification that ends too early -/

/-- A notification of low priority, the first PDU after the activation, that ends with its block
header. -/
def shortNotification : DataFrame where
  fixed := ⟨0, 0, PF_RTA_PDU_TYPE_DATA, PF_ALARM_PDU_TYPE_VERSION_1, 1, true, 0xffff, 0xfffe⟩
  dataLen := 6
  reader := ⟨⟨.PF_PARSE_OK, true,
    fun i => [0x00, 0x02, 0x00, 0x02, 0x01, 0x00].getD i 0, 6⟩, 0⟩

/-- The application does nothing, and the Ethernet driver takes the answer. -/
def sampleApplication : Application := ⟨sampleSurroundings true, false, false, false⟩

/-- It is acknowledged, and the receiver is left in WCNF. -/
theorem shortNotification_stuck :
    (∃ x, Runs.run step (activate false 1 2) [.data sampleApplication shortNotification] = some x ∧
      acknowledged x.apmx.log = [0xffff] ∧ handed x.apmx.log = [] ∧
      x.apmx.apmrState = .PF_APMR_STATE_WCNF) ∧
    ¬ ∀ (events : List Event) (x : Receiver),
      Runs.run step (activate false 1 2) events = some x → Settled x := by
  have hrun : ∃ x, Runs.run step (activate false 1 2)
      [.data sampleApplication shortNotification] = some x ∧
      acknowledged x.apmx.log = [0xffff] ∧ handed x.apmx.log = [] ∧
      x.apmx.apmrState = .PF_APMR_STATE_WCNF := ⟨_, rfl, by decide, by decide, by decide⟩
  refine ⟨hrun, ?_⟩
  intro h
  rcases hrun with ⟨x, hx, -, -, hwcnf⟩
  exact (h _ x hx).passed hwcnf

end Receiver

end PNet.Alarm
