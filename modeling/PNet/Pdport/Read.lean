import PNet.Response.Pdport

/-! # Reading the records of the ports

`pf_pdport_read_ind`, with its loops over the ports.

* `answered_iff`: the function comes to its end, and a record about several ports has the block of
  each of them, exactly when the record is not the check of the whole module, the blocks of a record
  about several ports have room, and the padding of the block of one port comes to its multiple
  within the room.
-/

namespace PNet.Pdport

open Block Rpc Response

def PF_IDX_SUB_PDPORT_DATA_REAL : BitVec 16 := 0x802a
def PF_IDX_SUB_PDPORT_STATISTIC : BitVec 16 := 0x8072
def PF_IDX_DEV_PDREAL_DATA : BitVec 16 := 0xf841
def PF_IDX_DEV_PDEXP_DATA : BitVec 16 := 0xf842

/-- `name_of_device_mode` of the interface. -/
structure NameOfDevice where
  active : Bool
  mode : Lldp.NameOfDeviceMode

/-- What a read asks for. -/
structure Device where
  numberOfPorts : ℕ
  /-- A device without ports is not configured. -/
  ports_pos : 0 < numberOfPorts
  /-- `pf_port_get_state`, from port 1 on. -/
  port : ℕ → Port
  real : InterfaceReal
  nameOfDevice : NameOfDevice
  /-- `pnal_get_port_statistics` for the main port. -/
  mainStatistics : Option PortStats
  /-- `pnal_get_port_statistics` for a port. -/
  statistics : ℕ → Option PortStats

/-- What a call has come to: nothing yet, the buffer in which it stays, or the result and the buffer. -/
abbrev Run := Option (Except Writer (ℤ × Writer))

/-- `while (loc_port_num != 0)` over the ports, with the statement `body` for each of them. -/
def overPorts (body : ℕ → Put) (resSize : ℕ) :
    ℕ → ℕ × PortIterator → Writer → Option (Except Writer Writer)
  | 0, _, _ => none
  | fuel + 1, next, w =>
    if next.1 = 0 then some (.ok w)
    else
      match body next.1 resSize w with
      | .error w => some (.error w)
      | .ok w => overPorts body resSize fuel next.2.next w

/-- The same loop, in which the next port is not taken. -/
def overOnePort (body : ℕ → Put) (resSize : ℕ) (port : ℕ) :
    ℕ → Writer → Option (Except Writer Writer)
  | 0, _ => none
  | fuel + 1, w =>
    if port = 0 then some (.ok w)
    else
      match body port resSize w with
      | .error w => some (.error w)
      | .ok w => overOnePort body resSize port fuel w

namespace Device
variable {extra start : ℕ} (d : Device)

/-- The block of the real data of a port. -/
def dataReal (port : ℕ) (subslot : BitVec 16) : Stmt extra start :=
  let status := (d.port port).ethStatusFilteredMau
  putPdportDataReal true subslot (getPeerStationName (d.port port).peerInfo)
    (getPeerPortName (d.port port).peerInfo) (d.port port) (getMediaType status.operationalMauType)
    status

/-- The blocks of a port in the real data of the device. -/
def portAndStatistics (api : BitVec 32) (port : ℕ) : Stmt extra start :=
  let status := (d.port port).ethStatusFilteredMau
  putPdMultiblockPortAndStatistics true api (locPortNumToDapSubslot port)
    (getPeerStationName (d.port port).peerInfo) (getPeerPortName (d.port port).peerInfo)
    (d.port port) (getMediaType status.operationalMauType) status
    ((d.statistics port).getD .zero)

/-- The blocks of the interface in the real data of the device. -/
def interfaceAndStatistics (api : BitVec 32) : Stmt extra start :=
  putPdMultiblockInterfaceAndStatistics true api d.real (d.mainStatistics.getD .zero)

/-- The block of the check of a port, if one is active. -/
def dataCheck (q : ReadRequest) (port : ℕ) : Stmt extra start :=
  if (d.port port).check.active then
    putPdportDataCheck true q.slotNumber q.subslotNumber (d.port port).check.peer
  else .seq []

/-- The block of the adjustments of a port, if they are active. -/
def dataAdj (subslot : BitVec 16) (port : ℕ) : Stmt extra start :=
  if (d.port port).adjust.active then
    putPdportDataAdj true subslot (d.port port).adjust.peerToPeerBoundary
  else .seq []

/-- The block of the adjustment of the interface, if it is active. -/
def interfaceAdj : Stmt extra start :=
  if d.nameOfDevice.active then putPdInterfaceAdj true d.nameOfDevice.mode else .seq []

/-- The statistics of a port, 0 for the main port. -/
def statisticsOf (port : ℕ) : Option PortStats :=
  if port = 0 then d.mainStatistics else d.statistics port

end Device

/-- A statement, and then `ret = 0`. -/
def done (s : Stmt 0 0) (resSize : ℕ) (w : Writer) : Run :=
  some ((s.put resSize w).map fun w => (0, w))

/-- `ret = -1`. -/
def refused (w : Writer) : Run := some (.ok (-1, w))

/-- The real data of the device: the interface, and then the loop over the ports. -/
def deviceRun (d : Device) (api : BitVec 32) (fuel limit : ℕ) (w : Writer) : Run :=
  match (d.interfaceAndStatistics api : Stmt 0 0).put limit w with
  | .error w => some (.error w)
  | .ok w =>
    (overPorts (fun port => (d.portAndStatistics api port : Stmt 0 0).put) limit fuel
      (PortIterator.init d.numberOfPorts).next w).map fun run => run.map fun w => (0, w)

/-- All the checks, in the loop that does not take the next port. -/
def allChecksRun (d : Device) (q : ReadRequest) (fuel limit : ℕ) (w : Writer) : Run :=
  (overOnePort (fun port => (d.dataCheck q port : Stmt 0 0).put) limit
    (PortIterator.init d.numberOfPorts).next.1 fuel w).map fun run => run.map fun w => (0, w)

/-- `pf_pdport_read_ind`. The loops over the ports take at most `fuel` turns. -/
def readInd (d : Device) (q : ReadRequest) (fuel resSize : ℕ) (w : Writer) : Run :=
  let n := d.numberOfPorts
  let port := dapSubslotToLocalPort n q.subslotNumber
  if q.index = PF_IDX_SUB_PDPORT_DATA_REAL then
    if q.slotNumber = PNET_SLOT_DAP_IDENT ∧ subslotIsDapPortId n q.subslotNumber = true then
      done (d.dataReal port q.subslotNumber) resSize w
    else refused w
  else if q.index = PF_IDX_SUB_PDPORT_DATA_ADJ then
    if q.slotNumber = PNET_SLOT_DAP_IDENT ∧ subslotIsDapPortId n q.subslotNumber = true then
      done (d.dataAdj q.subslotNumber port) resSize w
    else refused w
  else if q.index = PF_IDX_SUB_PDPORT_DATA_CHECK then
    if q.slotNumber = PNET_SLOT_DAP_IDENT then
      if subslotIsDapPortId n q.subslotNumber = true then done (d.dataCheck q port) resSize w
      else if q.subslotNumber = PNET_SUBSLOT_DAP_WHOLE_MODULE then
        allChecksRun d q fuel resSize w
      else refused w
    else refused w
  else if q.index = PF_IDX_DEV_PDREAL_DATA then
    if q.slotNumber = PNET_SLOT_DAP_IDENT ∧ (q.subslotNumber = PNET_SUBSLOT_DAP_WHOLE_MODULE ∨
        q.subslotNumber = PNET_SUBSLOT_DAP_IDENT) then
      deviceRun d q.api fuel resSize w
    else refused w
  else if q.index = PF_IDX_DEV_PDEXP_DATA then some (.ok (0, w))
  else if q.index = PF_IDX_SUB_PDPORT_STATISTIC then
    if q.slotNumber = PNET_SLOT_DAP_IDENT ∧
        (q.subslotNumber = PNET_SUBSLOT_DAP_INTERFACE_1_IDENT ∨
          subslotIsDapPortId n q.subslotNumber = true) then
      match d.statisticsOf port with
      | some stats => done (putPdportStatistics true stats) resSize w
      | none => refused w
    else refused w
  else if q.index = PF_IDX_SUB_PDINTF_ADJUST then
    if q.slotNumber = PNET_SLOT_DAP_IDENT ∧
        q.subslotNumber = PNET_SUBSLOT_DAP_INTERFACE_1_IDENT then
      done d.interfaceAdj resSize w
    else refused w
  else refused w

/-! ## The loops -/

theorem overOnePort_never {body : ℕ → Put} {resSize port : ℕ} (hport : port ≠ 0) (fuel : ℕ) :
    ∀ w w', overOnePort body resSize port fuel w ≠ some (.ok w') := by
  induction fuel with
  | zero =>
    intro w w' h
    cases h
  | succ fuel ih =>
    intro w w'
    rw [overOnePort, if_neg hport]
    cases body port resSize w with
    | error w₁ =>
      intro h
      cases h
    | ok w₁ => exact ih w₁ w'

/-- The loop over the ports `k` to `n`. -/
theorem overPorts_from {body : ℕ → Put} {resSize : ℕ} (c : ℕ) :
    ∀ k n fuel : ℕ, ∀ w, 0 < k → k + c = n + 1 →
      (c < fuel → overPorts body resSize fuel (⟨if n < k then 0 else k, n⟩ : PortIterator).next w =
        some (seq ((List.range' k c).map body) resSize w)) ∧
      ∀ run, overPorts body resSize fuel (⟨if n < k then 0 else k, n⟩ : PortIterator).next w =
        some run → run = seq ((List.range' k c).map body) resSize w := by
  induction c with
  | zero =>
    intro k n fuel w _ hsum
    rw [if_pos (by omega), PortIterator.next_zero]
    cases fuel with
    | zero => exact ⟨fun h => absurd h (Nat.lt_irrefl 0), fun run h => by cases h⟩
    | succ fuel =>
      rw [overPorts, if_pos rfl]
      exact ⟨fun _ => rfl, fun run h => (Option.some.inj h).symm⟩
  | succ c ih =>
    intro k n fuel w hk hsum
    have hlast : (if k = n then 0 else k + 1) = if n < k + 1 then 0 else k + 1 := by
      by_cases h : k = n
      · rw [if_pos h, if_pos (by omega)]
      · rw [if_neg h, if_neg (by omega)]
    rw [if_neg (by omega), PortIterator.next_of_le hk (by omega), hlast]
    cases fuel with
    | zero => exact ⟨fun h => absurd h (Nat.not_lt_zero _), fun run h => by cases h⟩
    | succ fuel =>
      rw [overPorts, if_neg (by dsimp only; omega), List.range'_succ, List.map_cons, seq]
      dsimp only
      cases body k resSize w with
      | error w₁ => exact ⟨fun _ => rfl, fun run h => (Option.some.inj h).symm⟩
      | ok w₁ =>
        rcases ih (k + 1) n fuel w₁ (Nat.succ_pos k) (by omega) with ⟨hfuel, hrun⟩
        exact ⟨fun h => hfuel (by omega), hrun⟩

/-! ## The answer -/

/-- A read of the real data of the device. -/
def AsksForDevice (q : ReadRequest) : Prop :=
  q.slotNumber = PNET_SLOT_DAP_IDENT ∧
    (q.subslotNumber = PNET_SUBSLOT_DAP_WHOLE_MODULE ∨ q.subslotNumber = PNET_SUBSLOT_DAP_IDENT)

instance (q : ReadRequest) : Decidable (AsksForDevice q) := inferInstanceAs (Decidable (_ ∧ _))

/-- A read of all the checks. -/
def AsksForAllChecks (q : ReadRequest) : Prop :=
  q.slotNumber = PNET_SLOT_DAP_IDENT ∧ q.subslotNumber = PNET_SUBSLOT_DAP_WHOLE_MODULE

instance (q : ReadRequest) : Decidable (AsksForAllChecks q) := inferInstanceAs (Decidable (_ ∧ _))

namespace Device
variable (d : Device)

/-- A read of one of the ports. -/
def AsksForPort (q : ReadRequest) : Prop :=
  q.slotNumber = PNET_SLOT_DAP_IDENT ∧
    subslotIsDapPortId d.numberOfPorts q.subslotNumber = true

instance (q : ReadRequest) : Decidable (d.AsksForPort q) := inferInstanceAs (Decidable (_ ∧ _))

/-- The blocks of a record about several ports: those of each port, in the order of the ports. -/
def severalPorts (q : ReadRequest) : Option (List (Stmt 0 0)) :=
  let ports := List.range' 1 d.numberOfPorts
  if q.index = PF_IDX_DEV_PDREAL_DATA ∧ AsksForDevice q then
    some (d.interfaceAndStatistics q.api :: ports.map (d.portAndStatistics q.api))
  else if q.index = PF_IDX_SUB_PDPORT_DATA_CHECK ∧ AsksForAllChecks q then
    some (ports.map (d.dataCheck q))
  else none

/-- The read comes to its end, and a record about several ports has the block of each of them. -/
def Answered (q : ReadRequest) (resSize : ℕ) (w : Writer) : Prop :=
  ∃ fuel ret w', readInd d q fuel resSize w = some (.ok (ret, w')) ∧
    ∀ blocks, d.severalPorts q = some blocks → w' = w.append ((Stmt.seq blocks).bytes w.pos)

/-- What a read needs, from the limit and the position. -/
def Ends (q : ReadRequest) (limit pos : ℕ) : Prop :=
  let port := d.port (dapSubslotToLocalPort d.numberOfPorts q.subslotNumber)
  if q.index = PF_IDX_SUB_PDPORT_DATA_REAL then
    d.AsksForPort q → port.isPeerInfoReceived = true → AlignsWithin limit pos 4
      (realEnd limit pos (getPeerStationName port.peerInfo) (getPeerPortName port.peerInfo) port)
  else if q.index = PF_IDX_SUB_PDPORT_DATA_CHECK then
    ¬ AsksForAllChecks q ∧ (d.AsksForPort q → port.check.active = true →
      AlignsWithin limit pos 4 (checkEnd limit pos port.check.peer))
  else if q.index = PF_IDX_DEV_PDREAL_DATA then
    ∀ blocks, d.severalPorts q = some blocks → pos + ((Stmt.seq blocks).bytes pos).length ≤ limit
  else if q.index = PF_IDX_SUB_PDINTF_ADJUST then
    q.slotNumber = PNET_SLOT_DAP_IDENT → q.subslotNumber = PNET_SUBSLOT_DAP_INTERFACE_1_IDENT →
      d.nameOfDevice.active = true → AlignsWithin limit pos 4 (cut limit 12 pos)
  else True

end Device

theorem done_iff {s : Stmt 0 0} {limit : ℕ} {w : Writer} :
    (∃ ret w', done s limit w = some (.ok (ret, w'))) ↔ (s.move limit w.pos).isSome = true := by
  rw [← s.put_ok_iff (Nat.zero_le _)]
  unfold done
  cases s.put limit w with
  | error w₁ =>
    constructor
    · rintro ⟨ret, w', h⟩
      cases h
    · rintro ⟨w', h⟩
      cases h
  | ok w₁ => exact ⟨fun _ => ⟨w₁, rfl⟩, fun _ => ⟨0, w₁, rfl⟩⟩

theorem move_ite {c : Bool} {s : Stmt 0 0} {limit pos : ℕ} :
    ((if c then s else .seq [] : Stmt 0 0).move limit pos).isSome = true ↔
      (c = true → (s.move limit pos).isSome = true) := by
  cases c with
  | false => exact ⟨fun _ h => absurd h Bool.false_ne_true, fun _ => rfl⟩
  | true => exact ⟨fun h _ => h, fun h => h rfl⟩

/-- The run of a read of one record, where the answer is not about several ports. -/
theorem answered_one {d : Device} {q : ReadRequest} {limit : ℕ} {w : Writer} {run : Run}
    (hseveral : d.severalPorts q = none) (hrun : ∀ fuel, readInd d q fuel limit w = run) :
    d.Answered q limit w ↔ ∃ ret w', run = some (.ok (ret, w')) := by
  constructor
  · rintro ⟨fuel, ret, w', h, _⟩
    exact ⟨ret, w', (hrun fuel).symm.trans h⟩
  · rintro ⟨ret, w', h⟩
    refine ⟨0, ret, w', (hrun 0).trans h, ?_⟩
    intro blocks hblocks
    rw [hseveral] at hblocks
    cases hblocks

theorem answered_refused {d : Device} {q : ReadRequest} {limit : ℕ} {w : Writer}
    (hseveral : d.severalPorts q = none) (hrun : ∀ fuel, readInd d q fuel limit w = refused w) :
    d.Answered q limit w :=
  (answered_one hseveral hrun).mpr ⟨-1, w, rfl⟩

theorem overPorts_init {body : ℕ → Put} {resSize n : ℕ} (hn : 0 < n) (fuel : ℕ) (w : Writer) :
    (n < fuel → overPorts body resSize fuel (PortIterator.init n).next w =
      some (seq ((List.range' 1 n).map body) resSize w)) ∧
    ∀ run, overPorts body resSize fuel (PortIterator.init n).next w = some run →
      run = seq ((List.range' 1 n).map body) resSize w := by
  have h := @overPorts_from body resSize n 1 n fuel w Nat.one_pos (Nat.add_comm 1 n)
  rwa [if_neg (by omega)] at h

/-- The blocks that `deviceRun` writes. -/
def deviceBlocks (d : Device) (api : BitVec 32) : List (Stmt 0 0) :=
  d.interfaceAndStatistics api :: (List.range' 1 d.numberOfPorts).map (d.portAndStatistics api)

theorem deviceRun_ok_iff {d : Device} {api : BitVec 32} {limit : ℕ} {w w' : Writer} :
    (∃ fuel ret, deviceRun d api fuel limit w = some (.ok (ret, w'))) ↔
      (Stmt.seq (deviceBlocks d api)).put limit w = .ok w' := by
  have hput : (Stmt.seq (deviceBlocks d api)).put limit w =
      ((d.interfaceAndStatistics api : Stmt 0 0).put limit w).bind
        (seq ((List.range' 1 d.numberOfPorts).map
          fun port => (d.portAndStatistics api port : Stmt 0 0).put) limit) := by
    show (Except.bind _ (seq (((List.range' 1 d.numberOfPorts).map
      (d.portAndStatistics api)).map Stmt.put) limit)) = _
    rw [List.map_map]
    rfl
  rw [hput]
  unfold deviceRun
  cases (d.interfaceAndStatistics api : Stmt 0 0).put limit w with
  | error w₁ =>
    constructor
    · rintro ⟨fuel, ret, h⟩
      cases h
    · intro h
      cases h
  | ok w₁ =>
    dsimp only [Except.bind]
    constructor
    · rintro ⟨fuel, ret, h⟩
      rcases Option.map_eq_some_iff.mp h with ⟨run, hover, hrun⟩
      rw [(overPorts_init d.ports_pos fuel w₁).2 run hover] at hrun
      cases hseq : seq ((List.range' 1 d.numberOfPorts).map
          fun port => (d.portAndStatistics api port : Stmt 0 0).put) limit w₁ with
      | error w₂ =>
        rw [hseq] at hrun
        cases hrun
      | ok w₂ =>
        rw [hseq] at hrun
        cases hrun
        rfl
    · intro h
      refine ⟨d.numberOfPorts + 1, 0, ?_⟩
      rw [(overPorts_init d.ports_pos _ w₁).1 (Nat.lt_succ_self _), h]
      rfl

/-- With all that it puts, a writer has come to no position behind the limit. -/
theorem room_iff {s : Stmt 0 0} {limit : ℕ} {w : Writer} (hsome : 0 < (s.bytes w.pos).length) :
    s.put limit w = .ok (w.append (s.bytes w.pos)) ↔ w.pos + (s.bytes w.pos).length ≤ limit := by
  constructor
  · intro h
    have hwithin := (@Stmt.put_kept 0 0 s limit w (Nat.zero_le w.pos)).within
    rw [h] at hwithin
    have hpos : w.pos + (s.bytes w.pos).length ≤ max w.pos limit := hwithin
    omega
  · intro h
    exact s.put_of_room (Nat.zero_le _) h

theorem deviceBlocks_pos (d : Device) (api : BitVec 32) (pos : ℕ) :
    0 < ((Stmt.seq (deviceBlocks d api)).bytes pos).length := by
  show 0 < (seqBytes (_ :: _) pos).length
  rw [seqBytes, List.length_append]
  have hblock : 6 ≤ ((d.interfaceAndStatistics api : Stmt 0 0).bytes pos).length := by
    show 6 ≤ (blockBytes _ _ _ _).length
    rw [blockBytes_length]
    omega
  omega

/-- A read of the real data of the device. -/
theorem answered_device {d : Device} {q : ReadRequest} {limit : ℕ} {w : Writer}
    (hseveral : d.severalPorts q = some (deviceBlocks d q.api))
    (hrun : ∀ fuel, readInd d q fuel limit w = deviceRun d q.api fuel limit w) :
    d.Answered q limit w ↔
      w.pos + ((Stmt.seq (deviceBlocks d q.api)).bytes w.pos).length ≤ limit := by
  rw [← room_iff (deviceBlocks_pos d q.api w.pos), ← deviceRun_ok_iff]
  constructor
  · rintro ⟨fuel, ret, w', h, hblocks⟩
    rw [← hblocks _ hseveral]
    exact ⟨fuel, ret, (hrun fuel).symm.trans h⟩
  · rintro ⟨fuel, ret, h⟩
    refine ⟨fuel, ret, _, (hrun fuel).trans h, ?_⟩
    intro blocks hblocks
    rw [hseveral] at hblocks
    rw [Option.some.inj hblocks]

/-! ## Index by index -/

theorem not_port_of_lt {n : ℕ} {subslot : BitVec 16}
    (h : subslot.toNat < PNET_SUBSLOT_DAP_INTERFACE_1_PORT_1_IDENT.toNat) :
    subslotIsDapPortId n subslot = false := by
  have hnot : ¬ portIsValid n (1 + (subslot.toNat : ℤ) -
      (PNET_SUBSLOT_DAP_INTERFACE_1_PORT_1_IDENT.toNat : ℤ)) = true := by
    unfold portIsValid
    rw [decide_eq_true_eq]
    omega
  unfold subslotIsDapPortId dapSubslotToLocalPort
  dsimp only
  rw [if_neg hnot]
  rfl

section
variable {d : Device} {q : ReadRequest} {fuel limit : ℕ} {w : Writer}

theorem readInd_dataReal (h : q.index = PF_IDX_SUB_PDPORT_DATA_REAL) :
    readInd d q fuel limit w = if d.AsksForPort q then
      done (d.dataReal (dapSubslotToLocalPort d.numberOfPorts q.subslotNumber) q.subslotNumber) limit w
    else refused w := by
  unfold readInd
  rw [h, if_pos rfl]
  rfl

theorem readInd_dataAdj (h : q.index = PF_IDX_SUB_PDPORT_DATA_ADJ) :
    readInd d q fuel limit w = if d.AsksForPort q then
      done (d.dataAdj q.subslotNumber (dapSubslotToLocalPort d.numberOfPorts q.subslotNumber)) limit w
    else refused w := by
  unfold readInd
  dsimp only
  rw [h, if_neg (by decide), if_pos rfl]
  rfl

theorem readInd_dataCheck (h : q.index = PF_IDX_SUB_PDPORT_DATA_CHECK) :
    readInd d q fuel limit w =
      if d.AsksForPort q then
        done (d.dataCheck q (dapSubslotToLocalPort d.numberOfPorts q.subslotNumber)) limit w
      else if AsksForAllChecks q then allChecksRun d q fuel limit w
      else refused w := by
  unfold readInd
  dsimp only
  rw [h, if_neg (by decide), if_neg (by decide), if_pos rfl]
  by_cases hslot : q.slotNumber = PNET_SLOT_DAP_IDENT
  · rw [if_pos hslot]
    simp only [Device.AsksForPort, AsksForAllChecks, hslot, true_and]
  · rw [if_neg hslot, if_neg (fun hport => hslot hport.1), if_neg (fun hall => hslot hall.1)]

theorem readInd_device (h : q.index = PF_IDX_DEV_PDREAL_DATA) :
    readInd d q fuel limit w =
      if AsksForDevice q then deviceRun d q.api fuel limit w else refused w := by
  unfold readInd
  dsimp only
  rw [h, if_neg (by decide), if_neg (by decide), if_neg (by decide), if_pos rfl]
  rfl

theorem readInd_interfaceAdj (h : q.index = PF_IDX_SUB_PDINTF_ADJUST) :
    readInd d q fuel limit w =
      if q.slotNumber = PNET_SLOT_DAP_IDENT ∧
        q.subslotNumber = PNET_SUBSLOT_DAP_INTERFACE_1_IDENT then done d.interfaceAdj limit w
      else refused w := by
  unfold readInd
  dsimp only
  rw [h, if_neg (by decide), if_neg (by decide), if_neg (by decide), if_neg (by decide),
    if_neg (by decide), if_neg (by decide), if_pos rfl]

/-- The other records have no loop. -/
theorem readInd_other (hreal : q.index ≠ PF_IDX_SUB_PDPORT_DATA_REAL)
    (hadj : q.index ≠ PF_IDX_SUB_PDPORT_DATA_ADJ) (hcheck : q.index ≠ PF_IDX_SUB_PDPORT_DATA_CHECK)
    (hdevice : q.index ≠ PF_IDX_DEV_PDREAL_DATA) (hintf : q.index ≠ PF_IDX_SUB_PDINTF_ADJUST) :
    ∃ ret w', ∀ fuel, readInd d q fuel limit w = some (.ok (ret, w')) := by
  have hrefused : ∃ ret w', ∀ _ : ℕ, refused w = some (.ok (ret, w')) := ⟨-1, w, fun _ => rfl⟩
  unfold readInd
  dsimp only
  simp only [if_neg hreal, if_neg hadj, if_neg hcheck, if_neg hdevice, if_neg hintf]
  split
  · exact ⟨0, w, fun _ => rfl⟩
  · split
    · split
      · cases d.statisticsOf (dapSubslotToLocalPort d.numberOfPorts q.subslotNumber) with
        | none => exact hrefused
        | some stats =>
          rcases done_iff.mpr (putPdportStatistics_total true stats limit w.pos) with ⟨ret, w', h⟩
          exact ⟨ret, w', fun _ => h⟩
      · exact hrefused
    · exact hrefused

end

/-- A read of all the checks never comes to its end. -/
theorem not_answered_allChecks {d : Device} {q : ReadRequest} {limit : ℕ} {w : Writer}
    (hindex : q.index = PF_IDX_SUB_PDPORT_DATA_CHECK) (hall : AsksForAllChecks q) :
    ¬ d.Answered q limit w := by
  rintro ⟨fuel, ret, w', h, _⟩
  have hnot : ¬ d.AsksForPort q := by
    intro hport
    rw [Device.AsksForPort, hall.2, not_port_of_lt (by decide)] at hport
    exact Bool.false_ne_true hport.2
  have hport : (PortIterator.init d.numberOfPorts).next.1 ≠ 0 := by
    rw [PortIterator.init, PortIterator.next_of_le Nat.one_pos d.ports_pos]
    exact Nat.one_ne_zero
  rw [readInd_dataCheck hindex, if_neg hnot, if_pos hall] at h
  rcases Option.map_eq_some_iff.mp h with ⟨run, hover, hrun⟩
  cases run with
  | error w₁ => cases hrun
  | ok w₁ => exact overOnePort_never hport fuel w w₁ hover

section
variable {d : Device} {q : ReadRequest} {limit : ℕ} {w : Writer}

theorem severalPorts_none (hdevice : ¬ (q.index = PF_IDX_DEV_PDREAL_DATA ∧ AsksForDevice q))
    (hcheck : ¬ (q.index = PF_IDX_SUB_PDPORT_DATA_CHECK ∧ AsksForAllChecks q)) :
    d.severalPorts q = none := by
  unfold Device.severalPorts
  dsimp only
  rw [if_neg hdevice, if_neg hcheck]

/-- The block of a statement that is put when it is asked for. -/
theorem answered_ite {c : Prop} [Decidable c] {s : Stmt 0 0} (hseveral : d.severalPorts q = none)
    (hrun : ∀ fuel, readInd d q fuel limit w = if c then done s limit w else refused w) :
    d.Answered q limit w ↔ (c → (s.move limit w.pos).isSome = true) := by
  by_cases h : c
  · have hdone : ∀ fuel, readInd d q fuel limit w = done s limit w := by
      intro fuel
      rw [hrun, if_pos h]
    rw [answered_one hseveral hdone, done_iff]
    exact ⟨fun hs _ => hs, fun hs => hs h⟩
  · have hrefused : ∀ fuel, readInd d q fuel limit w = refused w := by
      intro fuel
      rw [hrun, if_neg h]
    exact ⟨fun _ hc => absurd hc h, fun _ => answered_refused hseveral hrefused⟩

theorem answered_dataReal (h : q.index = PF_IDX_SUB_PDPORT_DATA_REAL) :
    d.Answered q limit w ↔ d.Ends q limit w.pos := by
  have hseveral : d.severalPorts q = none := by
    apply severalPorts_none
    · rw [h]
      exact fun hdevice => absurd hdevice.1 (by decide)
    · rw [h]
      exact fun hcheck => absurd hcheck.1 (by decide)
  rw [answered_ite hseveral fun _ => readInd_dataReal h]
  unfold Device.Ends Device.dataReal
  dsimp only
  rw [if_pos h, putPdportDataReal_ends]

theorem answered_dataAdj (h : q.index = PF_IDX_SUB_PDPORT_DATA_ADJ) :
    d.Answered q limit w ↔ d.Ends q limit w.pos := by
  have hseveral : d.severalPorts q = none := by
    apply severalPorts_none
    · rw [h]
      exact fun hdevice => absurd hdevice.1 (by decide)
    · rw [h]
      exact fun hcheck => absurd hcheck.1 (by decide)
  unfold Device.Ends
  dsimp only
  rw [h, if_neg (by decide), if_neg (by decide), if_neg (by decide), if_neg (by decide), iff_true,
    answered_ite hseveral fun _ => readInd_dataAdj h]
  intro _
  unfold Device.dataAdj
  rw [move_ite]
  intro _
  exact putPdportDataAdj_total true _ _ _ _

theorem answered_dataCheck (h : q.index = PF_IDX_SUB_PDPORT_DATA_CHECK) :
    d.Answered q limit w ↔ d.Ends q limit w.pos := by
  unfold Device.Ends
  dsimp only
  rw [h, if_neg (by decide), if_pos rfl]
  by_cases hall : AsksForAllChecks q
  · constructor
    · intro hanswered
      exact absurd hanswered (not_answered_allChecks h hall)
    · intro hends
      exact absurd hall hends.1
  · have hseveral : d.severalPorts q = none := by
      apply severalPorts_none
      · rw [h]
        exact fun hdevice => absurd hdevice.1 (by decide)
      · exact fun hcheck => hall hcheck.2
    have hrun : ∀ fuel, readInd d q fuel limit w = if d.AsksForPort q then
        done (d.dataCheck q (dapSubslotToLocalPort d.numberOfPorts q.subslotNumber)) limit w
        else refused w := by
      intro fuel
      rw [readInd_dataCheck h, if_neg hall]
    rw [answered_ite hseveral hrun]
    unfold Device.dataCheck
    rw [move_ite, putPdportDataCheck_ends]
    exact ⟨fun hs => ⟨hall, hs⟩, fun hs => hs.2⟩

theorem answered_deviceReal (h : q.index = PF_IDX_DEV_PDREAL_DATA) :
    d.Answered q limit w ↔ d.Ends q limit w.pos := by
  unfold Device.Ends
  dsimp only
  rw [h, if_neg (by decide), if_neg (by decide), if_pos rfl]
  by_cases hasks : AsksForDevice q
  · have hseveral : d.severalPorts q = some (deviceBlocks d q.api) := by
      unfold Device.severalPorts
      dsimp only
      rw [if_pos ⟨h, hasks⟩]
      rfl
    have hrun : ∀ fuel, readInd d q fuel limit w = deviceRun d q.api fuel limit w := by
      intro fuel
      rw [readInd_device h, if_pos hasks]
    rw [answered_device hseveral hrun, hseveral]
    constructor
    · rintro hroom blocks hblocks
      rwa [← Option.some.inj hblocks]
    · intro hroom
      exact hroom _ rfl
  · have hseveral : d.severalPorts q = none := by
      apply severalPorts_none
      · exact fun hdevice => hasks hdevice.2
      · rw [h]
        exact fun hcheck => absurd hcheck.1 (by decide)
    have hrefused : ∀ fuel, readInd d q fuel limit w = refused w := by
      intro fuel
      rw [readInd_device h, if_neg hasks]
    rw [hseveral]
    constructor
    · intro _ blocks hblocks
      cases hblocks
    · intro _
      exact answered_refused hseveral hrefused

theorem answered_interfaceAdj (h : q.index = PF_IDX_SUB_PDINTF_ADJUST) :
    d.Answered q limit w ↔ d.Ends q limit w.pos := by
  have hseveral : d.severalPorts q = none := by
    apply severalPorts_none
    · rw [h]
      exact fun hdevice => absurd hdevice.1 (by decide)
    · rw [h]
      exact fun hcheck => absurd hcheck.1 (by decide)
  unfold Device.Ends
  dsimp only
  rw [h, if_neg (by decide), if_neg (by decide), if_neg (by decide), if_pos rfl,
    answered_ite hseveral fun _ => readInd_interfaceAdj h]
  unfold Device.interfaceAdj
  rw [move_ite, putPdInterfaceAdj_ends, and_imp]

theorem answered_other (hreal : q.index ≠ PF_IDX_SUB_PDPORT_DATA_REAL)
    (hadj : q.index ≠ PF_IDX_SUB_PDPORT_DATA_ADJ) (hcheck : q.index ≠ PF_IDX_SUB_PDPORT_DATA_CHECK)
    (hdevice : q.index ≠ PF_IDX_DEV_PDREAL_DATA) (hintf : q.index ≠ PF_IDX_SUB_PDINTF_ADJUST) :
    d.Answered q limit w ↔ d.Ends q limit w.pos := by
  have hseveral : d.severalPorts q = none :=
    severalPorts_none (fun h => hdevice h.1) fun h => hcheck h.1
  rcases @readInd_other d q limit w hreal hadj hcheck hdevice hintf with ⟨ret, w', hrun⟩
  rw [answered_one hseveral hrun]
  unfold Device.Ends
  dsimp only
  rw [if_neg hreal, if_neg hcheck, if_neg hdevice, if_neg hintf, iff_true]
  exact ⟨ret, w', rfl⟩

end

/-- A read comes to its end, with the block of each port in a record about several ports, exactly
when it has what it needs. -/
theorem answered_iff (d : Device) (q : ReadRequest) (limit : ℕ) (w : Writer) :
    d.Answered q limit w ↔ d.Ends q limit w.pos := by
  by_cases hreal : q.index = PF_IDX_SUB_PDPORT_DATA_REAL
  · exact answered_dataReal hreal
  by_cases hadj : q.index = PF_IDX_SUB_PDPORT_DATA_ADJ
  · exact answered_dataAdj hadj
  by_cases hcheck : q.index = PF_IDX_SUB_PDPORT_DATA_CHECK
  · exact answered_dataCheck hcheck
  by_cases hdevice : q.index = PF_IDX_DEV_PDREAL_DATA
  · exact answered_deviceReal hdevice
  by_cases hintf : q.index = PF_IDX_SUB_PDINTF_ADJUST
  · exact answered_interfaceAdj hintf
  exact answered_other hreal hadj hcheck hdevice hintf

/-! ### A device with one port -/

theorem noName_lt : ([] : List Byte).length < 256 := Nat.succ_pos 255

/-- A port on which nothing has been set. -/
def examplePort : Port where
  portName := .nil 14
  check := ⟨false, ⟨[], [], noName_lt, noName_lt⟩⟩
  adjust := ⟨false, ⟨false, false, false, 0⟩⟩
  isPeerInfoReceived := false
  peerInfo := .zero
  lineDelay := 0
  ethStatus := ⟨true, 0x10⟩
  defaultMauType := 0x10

def exampleDevice : Device where
  numberOfPorts := 1
  ports_pos := Nat.one_pos
  port := fun _ => examplePort
  real := ⟨Vector.replicate 6 0, 0, 0, 0, .nil 240⟩
  nameOfDevice := ⟨false, .PF_LLDP_NAME_OF_DEVICE_MODE_LEGACY⟩
  mainStatistics := none
  statistics := fun _ => none

/-- A read of all the checks of the device. -/
def allChecksRequest : ReadRequest :=
  ⟨1, zeroUuid, 0, PNET_SLOT_DAP_IDENT, PNET_SUBSLOT_DAP_WHOLE_MODULE, PF_IDX_SUB_PDPORT_DATA_CHECK,
    4096, zeroUuid⟩

/-- With room for any answer, the read of all the checks does not come to its end. -/
theorem not_answered_example :
    ¬ exampleDevice.Answered allChecksRequest 4500 ⟨fun _ => 0, 164⟩ :=
  not_answered_allChecks rfl ⟨rfl, rfl⟩

end PNet.Pdport
