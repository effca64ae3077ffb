import PNet.Alarm.Apmr

/-! # Exactly-once reception of alarms

* `run_exactlyOnce`: in a run whose steps all meet `Meets`, the PDUs handed upward are those a
  receiver in sequence accepts, and every acknowledged number belongs to one of them.
* `lost_after_failed_ack`: when the acknowledgement of a PDU cannot be sent, the PDU is lost,
  and acknowledged when the controller sends it again.
-/

namespace PNet.Alarm

open Block StopAndWait

/-! ## Runs -/

/-- What can happen to an APMX between its activation and its next one. -/
inductive Step where
  /-- An RTA DATA PDU is handled. -/
  | data (env : Surroundings) (f : DataFrame)
  /-- The machines next to APMR go on: alarms are sent, acknowledged by the application,
  confirmed or repeated. -/
  | neighbours (n : Neighbours)
  /-- The AR is aborted. -/
  | close

def step (x : Apmx) : Step → Apmx
  | .data env f => (x.apmrDataInd env f).2
  | .neighbours n => { x with neighbours := n }
  | .close => x.close

def run (x : Apmx) (steps : List Step) : Apmx := steps.foldl step x

def frames (steps : List Step) : List DataFrame :=
  steps.filterMap fun
    | .data _ f => some f
    | _ => none

/-! ## The property -/

def seqOf (f : DataFrame) : BitVec 16 := f.fixed.sendSeqNum

def nextSeq (n : BitVec 16) : BitVec 16 := (n + 1) &&& 0x7fff

/-- The PDUs handed upward. -/
def handed (log : List Output) : List AlarmPdu :=
  log.filterMap fun
    | .handed p => some p
    | _ => none

/-- The numbers of the transport acknowledgements that were sent. -/
def acknowledged (log : List Output) : List (BitVec 16) :=
  log.filterMap fun
    | .sent fixed => if fixed.pduType = PF_RTA_PDU_TYPE_ACK then some fixed.ackSeqNbr else none
    | _ => none

/-- The alarm PDU in a frame, if it is one. -/
def pduOf (x : Apmx) (f : DataFrame) : Option AlarmPdu :=
  let (block, r) := getBlockHeader f.reader
  if block.blockType = x.blockTypeAlarmAck then some (.ack (getPnioStatus r).1)
  else if block.blockType = x.blockTypeAlarmNotify then
    (Apmx.notificationOf f r).map fun (data, usi, payload) => .notification data usi payload
  else none

/-- The frames a receiver in sequence accepts in a run. -/
def inSequenceFrames (x : Apmx) (steps : List Step) : List DataFrame :=
  accepted seqOf nextSeq x.expSeqCount (frames steps)

/-- The PDUs in sequence, and no others, have been handed upward, each once and in order; what
has been acknowledged is among them. -/
structure ExactlyOnce (x : Apmx) (steps : List Step) : Prop where
  delivered : (handed (run x steps).log).map some = (inSequenceFrames x steps).map (pduOf x)
  numbers : (inSequenceFrames x steps).map seqOf =
    (List.range (inSequenceFrames x steps).length).map fun i => nextSeq^[i] x.expSeqCount
  confirmed : ∀ n ∈ acknowledged (run x steps).log,
    n ∈ (inSequenceFrames x steps).map seqOf

/-- The condition on a step: an expected frame finds APMR open, has the TACK flag and a body
that can be parsed, and its acknowledgement can be sent; the number before the first one is
not used. -/
def Meets (x : Apmx) : Step → Prop
  | .data env f =>
    (seqOf f = x.expSeqCount → x.apmrState = .PF_APMR_STATE_OPEN ∧ f.fixed.tack = true ∧
      (pduOf x f).isSome ∧ env.sends = true) ∧
    (seqOf f = x.expSeqCountO → x.apmrState = .PF_APMR_STATE_OPEN → f.fixed.tack = true →
      env.sends = true → x.expSeqCountO ≠ 0xfffe)
  | .neighbours _ => True
  | .close => True

def AllMeet : Apmx → List Step → Prop
  | _, [] => True
  | x, s :: steps => Meets x s ∧ AllMeet (step x s) steps

/-! ## What one PDU does -/

namespace Apmx

/-- The counters of APMR afterwards, and what has been put out. -/
structure Moves (x x' : Apmx) (e o : BitVec 16) (outs : List Output) : Prop where
  exp : x'.expSeqCount = e
  expO : x'.expSeqCountO = o
  notify : x'.blockTypeAlarmNotify = x.blockTypeAlarmNotify
  ack : x'.blockTypeAlarmAck = x.blockTypeAlarmAck
  log : x'.log = x.log ++ outs

theorem Moves.refl (x : Apmx) : Moves x x x.expSeqCount x.expSeqCountO [] :=
  ⟨rfl, rfl, rfl, rfl, (List.append_nil _).symm⟩

theorem Moves.trans {x y z : Apmx} {e o e' o' : BitVec 16} {outs outs' : List Output}
    (h : Moves x y e o outs) (h' : Moves y z e' o' outs') : Moves x z e' o' (outs ++ outs') := by
  constructor
  · exact h'.exp
  · exact h'.expO
  · rw [h'.notify, h.notify]
  · rw [h'.ack, h.ack]
  · rw [h'.log, h.log, List.append_assoc]

theorem alpmrApmsDataCnf_moves (env : Surroundings) (x : Apmx) :
    Moves x (x.alpmrApmsDataCnf env) x.expSeqCount x.expSeqCountO [] := by
  rw [alpmrApmsDataCnf]
  split
  all_goals exact ⟨rfl, rfl, rfl, rfl, (List.append_nil _).symm⟩

/-- APMS leaves APMR alone. -/
theorem apmsDataInd_moves (env : Surroundings) (fixed : AlarmFixed) (x : Apmx) :
    Moves x (x.apmsDataInd env fixed) x.expSeqCount x.expSeqCountO [] := by
  rw [apmsDataInd]
  split
  · split
    · simp only
      set y : Apmx := { x with neighbours := { x.neighbours with
        sendSeqCountO := x.neighbours.sendSeqCount
        sendSeqCount := (x.neighbours.sendSeqCount + 1) &&& 0x7fff
        rta := false } } with hy
      have hmv := alpmrApmsDataCnf_moves env y
      exact ⟨hmv.exp, hmv.expO, hmv.notify, hmv.ack, hmv.log⟩
    · exact Moves.refl x
  · exact Moves.refl x

theorem send_moves {env : Surroundings} (hsends : env.sends = true) (pduType : Byte) (x : Apmx) :
    (x.send env pduType).1 = 0 ∧
      Moves x (x.send env pduType).2 x.expSeqCount x.expSeqCountO [.sent (x.answer pduType)] := by
  rw [send, if_pos hsends]
  exact ⟨rfl, rfl, rfl, rfl, rfl, rfl⟩

theorem alpmiDataInd_moves (env : Surroundings) (status : PnioStatus) (x : Apmx) :
    Moves x (x.alpmiDataInd env status).2 x.expSeqCount x.expSeqCountO
      [.handed (.ack status)] := by
  rw [alpmiDataInd]
  simp only
  split
  all_goals exact ⟨rfl, rfl, rfl, rfl, rfl⟩

/-- When ALPMR does not wait for a notification, it aborts the AR. -/
theorem alpmrDataInd_moves (env : Surroundings) (data : AlarmData) (usi : BitVec 16)
    (payload : List Byte) (x : Apmx) :
    ∃ rest, Moves x (x.alpmrDataInd env data usi payload).2 x.expSeqCount x.expSeqCountO
        ([.handed (.notification data usi payload)] ++ rest) ∧
      handed rest = [] ∧ acknowledged rest = [] := by
  rw [alpmrDataInd]
  simp only
  split
  · exact ⟨[], ⟨rfl, rfl, rfl, rfl, rfl⟩, rfl, rfl⟩
  · exact ⟨[], ⟨rfl, rfl, rfl, rfl, rfl⟩, rfl, rfl⟩
  · exact ⟨[.errorInd _ _], ⟨rfl, rfl, rfl, rfl, List.append_assoc _ _ _⟩, rfl, rfl⟩
  · exact ⟨[.errorInd _ _], ⟨rfl, rfl, rfl, rfl, List.append_assoc _ _ _⟩, rfl, rfl⟩

theorem reopen_moves {x : Apmx} {r : ℤ × Apmx} {e o : BitVec 16} {outs : List Output}
    (h : Moves x r.2 e o outs) : Moves x (reopen r).2 e o outs := by
  rw [reopen]
  split
  · exact ⟨h.exp, h.expO, h.notify, h.ack, h.log⟩
  · exact h

/-- The acknowledgement of the expected PDU, which goes out before the PDU is handed upward. -/
theorem advance_sendAck_moves {env : Surroundings} (hsends : env.sends = true) (f : DataFrame)
    (x : Apmx) :
    let r := sendAck env (advance (apmsDataInd env f.fixed x))
    ∃ fixed, r.1 = 0 ∧
      Moves x { r.2 with apmrState := .PF_APMR_STATE_WCNF } (nextSeq x.expSeqCount) x.expSeqCount
        [.sent fixed] ∧
      fixed.pduType = PF_RTA_PDU_TYPE_ACK ∧ fixed.ackSeqNbr = x.expSeqCount := by
  intro r
  have happ := apmsDataInd_moves env f.fixed x
  have hsend := send_moves hsends PF_RTA_PDU_TYPE_ACK (advance (apmsDataInd env f.fixed x))
  have hr := hsend.2
  refine ⟨(advance (apmsDataInd env f.fixed x)).answer PF_RTA_PDU_TYPE_ACK, hsend.1,
    ⟨?_, ?_, ?_, ?_, ?_⟩, rfl, ?_⟩
  · rw [← happ.exp]
    exact hr.exp
  · rw [← happ.exp]
    exact hr.expO
  · exact hr.notify.trans happ.notify
  · exact hr.ack.trans happ.ack
  · have hlog : (advance (apmsDataInd env f.fixed x)).log = x.log ++ [] := happ.log
    rw [List.append_nil] at hlog
    rw [← hlog]
    exact hr.log
  · exact happ.exp

/-- The expected PDU: acknowledged, then handed upward. -/
theorem inSequence_moves {env : Surroundings} {f : DataFrame} {x : Apmx} {p : AlarmPdu}
    (hpdu : pduOf x f = some p) (hsends : env.sends = true) :
    ∃ fixed rest, Moves x (x.inSequence env f).2 (nextSeq x.expSeqCount) x.expSeqCount
        ([.sent fixed] ++ ([.handed p] ++ rest)) ∧
      fixed.pduType = PF_RTA_PDU_TYPE_ACK ∧ fixed.ackSeqNbr = x.expSeqCount ∧
      handed rest = [] ∧ acknowledged rest = [] := by
  rcases advance_sendAck_moves hsends f x with ⟨fixed, hret, hmv, hack, hnbr⟩
  rcases hblock : getBlockHeader f.reader with ⟨block, r⟩
  simp only [pduOf, hblock] at hpdu
  simp only [inSequence, hblock]
  by_cases htype : block.blockType = x.blockTypeAlarmAck
  · -- an Alarm ACK PDU
    rw [if_pos htype] at hpdu
    cases hpdu
    rw [if_pos htype, ackInSequence]
    simp only [hret, if_true]
    have hind := alpmiDataInd_moves env (getPnioStatus r).1
      { (sendAck env (advance (apmsDataInd env f.fixed x))).2 with
        apmrState := .PF_APMR_STATE_WCNF }
    rw [hmv.exp, hmv.expO] at hind
    refine ⟨fixed, [], reopen_moves ?_, hack, hnbr, rfl, rfl⟩
    exact hmv.trans hind
  rw [if_neg htype] at hpdu
  by_cases htype' : block.blockType = x.blockTypeAlarmNotify
  · rw [if_pos htype'] at hpdu
    rcases hbody : notificationOf f r with _ | ⟨data, usi, payload⟩
    · rw [hbody] at hpdu
      cases hpdu
    · -- an Alarm Notification PDU
      rw [hbody] at hpdu
      cases hpdu
      rw [if_neg htype, if_pos htype', notifyInSequence]
      simp only [hret, if_true, hbody]
      rcases alpmrDataInd_moves env data usi payload
        { (sendAck env (advance (apmsDataInd env f.fixed x))).2 with
          apmrState := .PF_APMR_STATE_WCNF } with ⟨rest, hind, hq⟩
      rw [hmv.exp, hmv.expO] at hind
      refine ⟨fixed, rest, reopen_moves ?_, hack, hnbr, hq⟩
      exact hmv.trans hind
  · rw [if_neg htype'] at hpdu
    cases hpdu

/-- Any other PDU: nothing is handed upward, at most the last number is acknowledged again. -/
theorem apmrDataInd_other {env : Surroundings} {f : DataFrame} {x : Apmx}
    (hseq : seqOf f ≠ x.expSeqCount) :
    ∃ outs, Moves x (x.apmrDataInd env f).2 x.expSeqCount x.expSeqCountO outs ∧
      handed outs = [] ∧ ∀ n ∈ acknowledged outs, n = x.expSeqCountO ∧ seqOf f = x.expSeqCountO ∧
        x.apmrState = .PF_APMR_STATE_OPEN ∧ f.fixed.tack = true ∧ env.sends = true := by
  rw [apmrDataInd]
  split
  · exact ⟨[], Moves.refl x, rfl, by simp [acknowledged]⟩
  · next hopen =>
    split
    · exact ⟨[], Moves.refl x, rfl, by simp [acknowledged]⟩
    · next htack =>
      rw [if_neg (show f.fixed.sendSeqNum ≠ x.expSeqCount from hseq)]
      split
      · next hold =>
        -- the last PDU once more
        have happ := apmsDataInd_moves env f.fixed x
        rw [sendAck, send]
        split
        · next hsends =>
          refine ⟨[.sent (answer (apmsDataInd env f.fixed x) PF_RTA_PDU_TYPE_ACK)],
            ⟨happ.exp, happ.expO, happ.notify, happ.ack, ?_⟩, rfl, ?_⟩
          · rw [← (happ.log.trans (List.append_nil _))]
            rfl
          · intro k hk
            exact ⟨(List.mem_singleton.mp hk).trans happ.expO, hold, hopen,
              by simpa using htack, hsends⟩
        · exact ⟨[], happ, rfl, by simp [acknowledged]⟩
      · -- a number out of sequence
        rw [outOfSequence, sendNack, send]
        simp only
        split
        · refine ⟨[_, _], ⟨rfl, rfl, rfl, rfl, List.append_assoc _ _ _⟩, rfl, ?_⟩
          intro k hk
          cases hk
        · refine ⟨[_], ⟨rfl, rfl, rfl, rfl, rfl⟩, rfl, ?_⟩
          intro k hk
          cases hk
  · exact ⟨[], Moves.refl x, rfl, by simp [acknowledged]⟩

end Apmx

/-! ## Every run -/

/-- The state of APMR after the steps of a run that have all met the condition. -/
structure Inv (start : Apmx) (steps : List Step) (x : Apmx) : Prop where
  exp : x.expSeqCount = expected seqOf nextSeq start.expSeqCount (frames steps)
  /-- The number that is acknowledged again has been accepted, but for the initial one. -/
  expO : x.expSeqCountO = 0xfffe ∨ x.expSeqCountO ∈ (inSequenceFrames start steps).map seqOf
  notify : x.blockTypeAlarmNotify = start.blockTypeAlarmNotify
  ack : x.blockTypeAlarmAck = start.blockTypeAlarmAck
  delivered : (handed x.log).map some = (inSequenceFrames start steps).map (pduOf start)
  confirmed : ∀ n ∈ acknowledged x.log, n ∈ (inSequenceFrames start steps).map seqOf

theorem handed_append (l l' : List Output) : handed (l ++ l') = handed l ++ handed l' :=
  List.filterMap_append

theorem acknowledged_append (l l' : List Output) :
    acknowledged (l ++ l') = acknowledged l ++ acknowledged l' :=
  List.filterMap_append

theorem pduOf_congr {x y : Apmx} (hnotify : x.blockTypeAlarmNotify = y.blockTypeAlarmNotify)
    (hack : x.blockTypeAlarmAck = y.blockTypeAlarmAck) (f : DataFrame) :
    pduOf x f = pduOf y f := by
  simp only [pduOf, hnotify, hack]

theorem frames_concat_data (steps : List Step) (env : Surroundings) (f : DataFrame) :
    frames (steps ++ [.data env f]) = frames steps ++ [f] := by
  simp [frames]

section

variable {start x : Apmx} {steps : List Step}

/-- A step without a frame. -/
theorem Inv.of_quiet {x' : Apmx} {s : Step} (h : Inv start steps x)
    (hframes : frames (steps ++ [s]) = frames steps)
    (hmv : Apmx.Moves x x' x.expSeqCount x.expSeqCountO []) : Inv start (steps ++ [s]) x' := by
  have hlog : x'.log = x.log := hmv.log.trans (List.append_nil _)
  have hacc : inSequenceFrames start (steps ++ [s]) = inSequenceFrames start steps := by
    rw [inSequenceFrames, hframes, inSequenceFrames]
  constructor
  · rw [hmv.exp, hframes, h.exp]
  · rw [hmv.expO, hacc]
    exact h.expO
  · rw [hmv.notify, h.notify]
  · rw [hmv.ack, h.ack]
  · rw [hlog, hacc, h.delivered]
  · rw [hlog, hacc]
    exact h.confirmed

/-- The expected frame arrives. -/
theorem Inv.data_expected {env : Surroundings} {f : DataFrame} (h : Inv start steps x)
    (hm : Meets x (.data env f)) (hseq : seqOf f = x.expSeqCount) :
    Inv start (steps ++ [.data env f]) (x.apmrDataInd env f).2 := by
  rcases hm.1 hseq with ⟨hopen, htack, hsome, hsends⟩
  rcases Option.isSome_iff_exists.mp hsome with ⟨p, hp⟩
  rcases Apmx.inSequence_moves hp hsends with ⟨fixed, rest, hmv, htype, hnbr, hrest, hrest'⟩
  have hind : (x.apmrDataInd env f).2 = (x.inSequence env f).2 := by
    rw [Apmx.apmrDataInd, hopen]
    simp only [htack]
    rw [if_neg (by decide), if_pos (show f.fixed.sendSeqNum = x.expSeqCount from hseq)]
  have hexp := h.exp
  have hacc : inSequenceFrames start (steps ++ [.data env f]) =
      inSequenceFrames start steps ++ [f] := by
    rw [inSequenceFrames, frames_concat_data, accepted_concat, ← hexp, if_pos hseq,
      inSequenceFrames]
  rw [hind]
  constructor
  · rw [hmv.exp, frames_concat_data, expected_concat, ← hexp, if_pos hseq]
  · right
    rw [hmv.expO, hacc, List.map_append, ← hseq]
    exact List.mem_append_right _ (List.mem_singleton.mpr rfl)
  · rw [hmv.notify, h.notify]
  · rw [hmv.ack, h.ack]
  · have hout : handed ([.sent fixed] ++ ([.handed p] ++ rest)) = [p] := by
      rw [handed_append, handed_append, hrest]
      rfl
    have hpdu : pduOf start f = some p := (pduOf_congr h.notify h.ack f).symm.trans hp
    rw [hmv.log, handed_append, hout, hacc, List.map_append, List.map_append, h.delivered,
      List.map_singleton, List.map_singleton, hpdu]
  · have hout : acknowledged ([.sent fixed] ++ ([.handed p] ++ rest)) = [x.expSeqCount] := by
      rw [acknowledged_append, acknowledged_append, hrest']
      simp [acknowledged, htype, hnbr]
    intro n hn
    rw [hmv.log, acknowledged_append, hout] at hn
    rw [hacc, List.map_append]
    rcases List.mem_append.mp hn with hold | hnew
    · exact List.mem_append_left _ (h.confirmed n hold)
    · rw [List.mem_singleton.mp hnew, ← hseq]
      exact List.mem_append_right _ (List.mem_singleton.mpr rfl)

/-- Any other frame arrives. -/
theorem Inv.data_other {env : Surroundings} {f : DataFrame} (h : Inv start steps x)
    (hm : Meets x (.data env f)) (hseq : seqOf f ≠ x.expSeqCount) :
    Inv start (steps ++ [.data env f]) (x.apmrDataInd env f).2 := by
  rcases Apmx.apmrDataInd_other hseq with ⟨outs, hmv, hnone, hagain⟩
  have hexp := h.exp
  have hacc : inSequenceFrames start (steps ++ [.data env f]) = inSequenceFrames start steps := by
    rw [inSequenceFrames, frames_concat_data, accepted_concat, ← hexp, if_neg hseq,
      List.append_nil, inSequenceFrames]
  constructor
  · rw [hmv.exp, frames_concat_data, expected_concat, ← hexp, if_neg hseq]
  · rw [hmv.expO, hacc]
    exact h.expO
  · rw [hmv.notify, h.notify]
  · rw [hmv.ack, h.ack]
  · rw [hmv.log, handed_append, hnone, List.append_nil, hacc, h.delivered]
  · intro n hn
    rw [hmv.log, acknowledged_append] at hn
    rw [hacc]
    rcases List.mem_append.mp hn with hold | hnew
    · exact h.confirmed n hold
    · -- acknowledged again: the number is that of an accepted frame
      rcases hagain n hnew with ⟨rfl, hlast, hopen, htack, hsends⟩
      rcases h.expO with hinit | hin
      · exact absurd hinit (hm.2 hlast hopen htack hsends)
      · exact hin

theorem Inv.step {s : Step} (h : Inv start steps x) (hm : Meets x s) :
    Inv start (steps ++ [s]) (step x s) := by
  cases s with
  | data env f =>
    rcases Decidable.em (seqOf f = x.expSeqCount) with hseq | hseq
    · exact h.data_expected hm hseq
    · exact h.data_other hm hseq
  | neighbours n =>
    exact h.of_quiet (by simp [frames]) ⟨rfl, rfl, rfl, rfl, (List.append_nil _).symm⟩
  | close =>
    exact h.of_quiet (by simp [frames]) ⟨rfl, rfl, rfl, rfl, (List.append_nil _).symm⟩

end

theorem inv_run {start : Apmx} (todo : List Step) {done : List Step} {x : Apmx}
    (h : Inv start done x) (hm : AllMeet x todo) : Inv start (done ++ todo) (run x todo) := by
  induction todo generalizing done x with
  | nil =>
    rw [List.append_nil]
    exact h
  | cons s todo ih =>
    have hnext := ih (h.step hm.1) hm.2
    rw [List.append_assoc] at hnext
    exact hnext

theorem inv_activate (high : Bool) (srcRef dstRef : BitVec 16) :
    Inv (Apmx.activate high srcRef dstRef) [] (Apmx.activate high srcRef dstRef) := by
  constructor
  · rfl
  · exact Or.inl rfl
  · rfl
  · rfl
  · rfl
  · intro n hn
    cases hn

theorem AllMeet.initial {x : Apmx} {done steps : List Step} (h : AllMeet x steps)
    (hpre : done <+: steps) : AllMeet x done := by
  induction done generalizing x steps with
  | nil => trivial
  | cons s done ih =>
    rcases hpre with ⟨rest, rfl⟩
    exact ⟨h.1, ih h.2 ⟨rest, rfl⟩⟩

/-- From its activation on, at every point of a run whose steps all meet the condition, an APMX
has handed upward exactly the PDUs in sequence, and acknowledged no others. -/
theorem run_exactlyOnce {high : Bool} {srcRef dstRef : BitVec 16} {steps : List Step}
    (h : AllMeet (Apmx.activate high srcRef dstRef) steps) :
    ∀ done, done <+: steps → ExactlyOnce (Apmx.activate high srcRef dstRef) done := by
  intro done hpre
  have hinv := inv_run done (inv_activate high srcRef dstRef) (h.initial hpre)
  constructor
  · exact hinv.delivered
  · exact accepted_numbers seqOf nextSeq _ _
  · exact hinv.confirmed

/-! ## An example -/

/-- An Alarm ACK PDU of low priority, the first one after the activation. -/
def sampleAckFrame : DataFrame where
  fixed := ⟨0, 0, PF_RTA_PDU_TYPE_DATA, PF_ALARM_PDU_TYPE_VERSION_1, 1, true, 0xffff, 0xfffe⟩
  dataLen := 10
  reader := ⟨⟨.PF_PARSE_OK, true,
    fun i => [0x80, 0x02, 0x00, 0x08, 0x01, 0x00, 0x00, 0x00, 0x00, 0x00].getD i 0, 10⟩, 0⟩

/-- The application does nothing, and the Ethernet driver takes the answer or not. -/
def sampleSurroundings (sends : Bool) : Surroundings := ⟨sends, id, id, id⟩

/-- A frame and its repetition. -/
theorem run_exactlyOnce_repeated :
    ExactlyOnce (Apmx.activate false 1 2) [.data (sampleSurroundings true) sampleAckFrame,
      .data (sampleSurroundings false) sampleAckFrame] := by
  have hmeet : AllMeet (Apmx.activate false 1 2) [.data (sampleSurroundings true) sampleAckFrame,
      .data (sampleSurroundings false) sampleAckFrame] := by
    refine ⟨⟨fun _ => ⟨rfl, rfl, rfl, rfl⟩, ?_⟩, ⟨?_, ?_⟩, trivial⟩
    · intro h
      exact absurd h (by decide)
    · intro h
      exact absurd h (by decide)
    · intro _ _ _ _
      decide
  exact run_exactlyOnce hmeet _ List.prefix_rfl

/-- The acknowledgement of a PDU cannot be sent, and the controller repeats the PDU: it is
acknowledged, and has not been handed upward. -/
theorem lost_after_failed_ack :
    let steps := [.data (sampleSurroundings false) sampleAckFrame,
      .data (sampleSurroundings true) sampleAckFrame]
    handed (run (Apmx.activate false 1 2) steps).log = [] ∧
      acknowledged (run (Apmx.activate false 1 2) steps).log = [0xffff] ∧
      ¬ ExactlyOnce (Apmx.activate false 1 2) steps := by
  intro steps
  have hnone : handed (run (Apmx.activate false 1 2) steps).log = [] := by decide
  refine ⟨hnone, by decide, ?_⟩
  intro h
  have hlen := congrArg List.length h.delivered
  rw [hnone] at hlen
  exact absurd hlen (by decide)

end PNet.Alarm
