import PNet.Connect.Stored

/-! # What a check of the port stores

A record for the check of a port stores its peers, and in each of them two names behind their
lengths. No reader compares a length with the size of the array of the name.
-/

namespace PNet.Connect

open Block Rpc

/-! ## What the getters answer -/

/-- A value that is read without an error has the property. -/
def YieldsOk {α : Type} (P : α → Prop) (g : Get α) : Prop :=
  ∀ r, (g r).2.info.result = .PF_PARSE_OK → P (g r).1

theorem YieldsOk.pure {α : Type} {P : α → Prop} {v : α} (h : P v) : YieldsOk P (pure v) :=
  fun _ _ => h

/-- An error of a part stays, so that a part is read without an error too. -/
theorem YieldsOk.bind {α β : Type} {Q : α → Prop} {P : β → Prop} {g : Get α} {f : α → Get β}
    (hg : YieldsOk Q g) (hmoves : ∀ v, Moves (f v)) (hf : ∀ v, Q v → YieldsOk P (f v)) :
    YieldsOk P (g >>= f) := by
  intro r hok
  rcases hmoves (g r).1 (g r).2 with ⟨-, -, -, hback, -⟩
  exact hf _ (hg r (hback hok)) _ hok

theorem yieldsOk_true {α : Type} (g : Get α) : YieldsOk (fun _ => True) g := fun _ _ => trivial

theorem moves_getBytes (n : ℕ) : Moves (getBytes n) := by
  intro r
  rw [getBytes]
  split
  · exact ⟨rfl, le_rfl, le_max_left _ _, id, rfl⟩
  · rename_i hok
    rw [not_not] at hok
    split
    · exact ⟨rfl, le_rfl, le_max_left _ _, fun _ => hok, rfl⟩
    · have hpos : r.pos + n ≤ max r.pos r.info.len := by omega
      exact ⟨rfl, Nat.le_add_right _ _, hpos, id, rfl⟩

/-- All elements that a loop reads have the property. -/
theorem forall_mem_getTimes {α : Type} {P : α → Prop} {g : Get α} (hg : Yields P g) (n : ℕ) :
    Yields (fun vs => ∀ v ∈ vs, P v) (getTimes g n) := by
  induction n with
  | zero =>
    intro r v hv
    cases hv
  | succ n ih =>
    intro r v hv
    rcases List.mem_cons.mp hv with rfl | hv
    · exact hg r
    · exact ih (g r).2 v hv

theorem moves_getTimes {α : Type} {g : Get α} (hg : Moves g) (n : ℕ) : Moves (getTimes g n) := by
  induction n with
  | zero => exact Moves.pure _
  | succ n ih => exact hg.bind fun v => ih.map _

theorem yieldsOk_getBytes (n : ℕ) : YieldsOk (fun v => v.isSome = true) (getBytes n) := by
  intro r hok
  unfold getBytes at hok ⊢
  split
  · rename_i hbad
    rw [if_pos hbad] at hok
    exact absurd hok hbad
  · rename_i hgood
    rw [if_neg hgood] at hok
    split
    · rename_i hshort
      rw [if_pos hshort] at hok
      cases hok
    · rfl

theorem getBytes_length (n : ℕ) :
    Yields (fun v => ∀ bs, v = some bs → bs.length = n) (getBytes n) := by
  intro r bs hbs
  unfold getBytes at hbs
  split at hbs
  · cases hbs
  split at hbs
  · cases hbs
  · cases hbs
    exact Buffer.slice_length _ _ _

theorem yieldsOk_getTimes {α : Type} {P : α → Prop} {g : Get α} (hmoves : Moves g)
    (hg : YieldsOk P g) (n : ℕ) : YieldsOk (fun vs => ∀ v ∈ vs, P v) (getTimes g n) := by
  induction n with
  | zero =>
    apply YieldsOk.pure
    intro v hv
    cases hv
  | succ n ih =>
    refine hg.bind (fun v => (moves_getTimes hmoves n).map _) ?_
    intro v hv
    refine ih.bind (fun vs => Moves.pure _) ?_
    intro vs hvs
    apply YieldsOk.pure
    intro w hw
    rcases List.mem_cons.mp hw with rfl | hw
    · exact hv
    · exact hvs w hw

/-! ## Names -/

/-- What a name stores: its bytes, if they are there, and its terminator. -/
def nameEvents (a : ArrayRef) (length : Byte) (name : Option (List Byte)) : List Event :=
  .count a length.toNat :: (List.range (name.elim 0 List.length)).map (.store a) ++
    [.store a length.toNat]

/-- What a peer stores. -/
def peerEvents (i : ℕ) (p : CheckPeer) : List Event :=
  nameEvents (.peerPortName i) p.lengthPeerPortName p.peerPortName ++
    nameEvents (.peerStationName i) p.lengthPeerStationName p.peerStationName

/-- Both names have been copied. -/
def CheckPeer.Copied (p : CheckPeer) : Prop :=
  p.peerPortName.isSome = true ∧ p.peerStationName.isSome = true

/-- A name that has been copied has the length that is stored with it. -/
def CheckPeer.Measured (p : CheckPeer) : Prop :=
  (∀ bs, p.peerPortName = some bs → bs.length = p.lengthPeerPortName.toNat) ∧
    ∀ bs, p.peerStationName = some bs → bs.length = p.lengthPeerStationName.toNat

theorem moves_checkPeer : Moves getCheckPeer :=
  moves_byte.bind fun _ => (moves_getBytes _).bind fun _ => moves_byte.bind fun _ =>
    (moves_getBytes _).map _

theorem checkPeer_copied : YieldsOk CheckPeer.Copied getCheckPeer := by
  refine (yieldsOk_true getByte).bind (fun _ => (moves_getBytes _).bind fun _ =>
    moves_byte.bind fun _ => (moves_getBytes _).map _) ?_
  intro portLength _
  refine (yieldsOk_getBytes _).bind (fun _ => moves_byte.bind fun _ => (moves_getBytes _).map _) ?_
  intro portName hport
  refine (yieldsOk_true getByte).bind (fun _ => (moves_getBytes _).map _) ?_
  intro stationLength _
  refine (yieldsOk_getBytes _).bind (fun _ => Moves.pure _) ?_
  intro stationName hstation
  exact YieldsOk.pure ⟨hport, hstation⟩

theorem checkPeer_measured : Yields CheckPeer.Measured getCheckPeer := by
  apply Yields.bind
  intro portLength r
  have hport := getBytes_length portLength.toNat r
  have hstation := getBytes_length (getByte (getBytes portLength.toNat r).2).1.toNat
    (getByte (getBytes portLength.toNat r).2).2
  exact ⟨hport, hstation⟩

theorem fills_name (a : ArrayRef) :
    Fills (fillName a) (do
      let length ← getByte
      let name ← getBytes length.toNat
      return (length, name)) fun v u => u = nameEvents a v.1 v.2 := by
  refine ((fills_read _).bind fun length => Fills.note _ ((fills_read _).bind fun name =>
    Fills.note _ (Fills.note _ (fills_pure _)))).mono ?_
  rintro _ _ ⟨length, _, _, rfl, rfl, _, rfl, name, _, _, rfl, rfl, _, rfl, _, rfl, rfl, rfl⟩
  simp only [nameEvents, List.nil_append, List.append_nil, List.cons_append]

theorem fills_checkPeer (i : ℕ) :
    Fills (fillCheckPeer i) getCheckPeer fun p u => u = peerEvents i p := by
  refine ((fills_name _).bind fun port => (fills_name _).bind fun station => fills_pure _).mono ?_
  rintro _ _ ⟨port, _, _, rfl, rfl, station, _, _, rfl, rfl, rfl, rfl⟩
  rw [List.append_nil]
  rfl

/-- What the peers store. -/
def peersEvents (peers : List CheckPeer) : List Event :=
  .count .peers peers.length :: loopEvents .peers peerEvents 0 peers

theorem fills_checkPeers (maxPeers : ℕ) :
    Fills (fillCheckPeers maxPeers) (getCheckPeers maxPeers) fun peers u =>
      u = peersEvents peers ∧ peers.length ≤ maxPeers := by
  refine ((fills_read _).bind fun number => Fills.note _ (fills_times fills_checkPeer _ _)).mono ?_
  rintro peers _ ⟨number, _, _, rfl, rfl, _, rfl, hlen, rfl⟩
  refine ⟨?_, ?_⟩
  · rw [peersEvents, hlen]
    rfl
  · rw [hlen]
    exact min_le_right _ _

/-! ## The record -/

/-- The peers of a record; one that is not a check of the peers has none. -/
def peersOf (bytes : ℕ → Byte) (dataLength : ℕ) : List CheckPeer :=
  (getWriteDataCheck (recordReader bytes dataLength)).1.getD []

/-- What a record stores is what its peers store. -/
theorem recordTrace_eq (bytes : ℕ → Byte) (dataLength : ℕ) :
    (getWriteDataCheck (recordReader bytes dataLength)).1 = none ∧
        recordTrace bytes dataLength = [] ∨
      recordTrace bytes dataLength = peersEvents (peersOf bytes dataLength) ∧
        (peersOf bytes dataLength).length ≤ PF_CHECK_PEERS_PER_PORT := by
  unfold recordTrace peersOf
  have hfills : Fills fillWriteDataCheck getWriteDataCheck fun v u => v = none ∧ u = [] ∨
      u = peersEvents (v.getD []) ∧ (v.getD []).length ≤ PF_CHECK_PEERS_PER_PORT := by
    refine ((fills_read _).bind fun check => ?_ : Fills _ _ fun v u => ∃ check u1 u2,
      u = u1 ++ u2 ∧ u1 = [] ∧ (v = none ∧ u2 = [] ∨
        u2 = peersEvents (v.getD []) ∧ (v.getD []).length ≤ PF_CHECK_PEERS_PER_PORT)).mono ?_
    · split
      · refine ((fills_checkPeers _).bind fun peers => fills_pure _).mono ?_
        rintro _ _ ⟨peers, _, _, rfl, ⟨rfl, hlen⟩, rfl, rfl⟩
        rw [List.append_nil]
        exact .inr ⟨rfl, hlen⟩
      · refine (fills_pure _).mono ?_
        rintro _ _ ⟨rfl, rfl⟩
        exact .inl ⟨rfl, rfl⟩
    · rintro _ _ ⟨check, _, _, rfl, rfl, h⟩
      exact h
  rcases hfills ⟨recordReader bytes dataLength, []⟩ with ⟨u, heq, hu⟩
  rw [heq, List.nil_append]
  exact hu

/-! ## Stored in full -/

/-- The bytes of the name are stored, and its terminator behind them. -/
def Terminated (t : List Event) (a : ArrayRef) : Prop :=
  storesIn a t = List.range ((countsIn a t).getLastD 0 + 1)

theorem storesIn_map_store (a b : ArrayRef) (l : List ℕ) :
    storesIn a (l.map (.store b)) = if b = a then l else [] := by
  induction l with
  | nil =>
    rw [List.map_nil, storesIn_nil, ite_self]
  | cons x l ih =>
    rw [List.map_cons, storesIn_store, ih]
    split
    · rfl
    · rfl

theorem countsIn_map_store (a b : ArrayRef) (l : List ℕ) : countsIn a (l.map (.store b)) = [] := by
  induction l with
  | nil => rfl
  | cons x l ih =>
    rw [List.map_cons, countsIn_store, ih]

theorem storesIn_nameEvents (a b : ArrayRef) (length : Byte) (name : Option (List Byte)) :
    storesIn a (nameEvents b length name) =
      if b = a then List.range (name.elim 0 List.length) ++ [length.toNat] else [] := by
  rw [nameEvents, storesIn_append, storesIn_count, storesIn_map_store, storesIn_store, storesIn_nil]
  split
  · rfl
  · rfl

theorem countsIn_nameEvents (a b : ArrayRef) (length : Byte) (name : Option (List Byte)) :
    countsIn a (nameEvents b length name) = if b = a then [length.toNat] else [] := by
  rw [nameEvents, countsIn_append, countsIn_count, countsIn_map_store, countsIn_store, countsIn_nil,
    List.append_nil]

theorem storesIn_peers (peers : List CheckPeer) :
    storesIn .peers (peersEvents peers) = List.range peers.length := by
  rw [peersEvents, storesIn_count]
  apply storesIn_loop_self
  intro i p
  simp [peerEvents, storesIn_nameEvents]

theorem countsIn_peers (peers : List CheckPeer) :
    countsIn .peers (peersEvents peers) = [peers.length] := by
  rw [peersEvents, countsIn_count, if_pos rfl, countsIn_loop_none]
  intro i p
  simp [peerEvents, countsIn_nameEvents]

theorem peers_counted (peers : List CheckPeer) : Counted (peersEvents peers) .peers := by
  rw [Counted, storesIn_peers, countsIn_peers]
  rfl

/-- The stores of the two names of a peer, where `name` selects one of them. -/
theorem storesIn_name {a : ArrayRef} {i : ℕ} {name : CheckPeer → Byte × Option (List Byte)}
    (hne : .peers ≠ a) (ha : ∀ ix p, storesIn a (peerEvents ix p) =
      if ix = i then List.range ((name p).2.elim 0 List.length) ++ [(name p).1.toNat] else [])
    (peers : List CheckPeer) :
    storesIn a (peersEvents peers) = (peers[i]?).elim [] fun p =>
      List.range ((name p).2.elim 0 List.length) ++ [(name p).1.toNat] := by
  rw [peersEvents, storesIn_count]
  exact storesIn_loop_other hne ha peers

theorem countsIn_name {a : ArrayRef} {i : ℕ} {name : CheckPeer → Byte × Option (List Byte)}
    (hne : .peers ≠ a) (ha : ∀ ix p, countsIn a (peerEvents ix p) =
      if ix = i then [(name p).1.toNat] else []) (peers : List CheckPeer) :
    countsIn a (peersEvents peers) = (peers[i]?).elim [] fun p => [(name p).1.toNat] := by
  rw [peersEvents, countsIn_count, if_neg hne]
  exact countsIn_loop_at ha peers

theorem storesIn_portName (i : ℕ) (peers : List CheckPeer) :
    storesIn (.peerPortName i) (peersEvents peers) = (peers[i]?).elim [] fun p =>
      List.range (p.peerPortName.elim 0 List.length) ++ [p.lengthPeerPortName.toNat] := by
  apply @storesIn_name _ _ (fun p => (p.lengthPeerPortName, p.peerPortName)) (by simp)
  intro ix p
  simp [peerEvents, storesIn_nameEvents]

theorem countsIn_portName (i : ℕ) (peers : List CheckPeer) :
    countsIn (.peerPortName i) (peersEvents peers) =
      (peers[i]?).elim [] fun p => [p.lengthPeerPortName.toNat] := by
  apply @countsIn_name _ _ (fun p => (p.lengthPeerPortName, p.peerPortName)) (by simp)
  intro ix p
  simp [peerEvents, countsIn_nameEvents]

theorem storesIn_stationName (i : ℕ) (peers : List CheckPeer) :
    storesIn (.peerStationName i) (peersEvents peers) = (peers[i]?).elim [] fun p =>
      List.range (p.peerStationName.elim 0 List.length) ++ [p.lengthPeerStationName.toNat] := by
  apply @storesIn_name _ _ (fun p => (p.lengthPeerStationName, p.peerStationName)) (by simp)
  intro ix p
  simp [peerEvents, storesIn_nameEvents]

theorem countsIn_stationName (i : ℕ) (peers : List CheckPeer) :
    countsIn (.peerStationName i) (peersEvents peers) =
      (peers[i]?).elim [] fun p => [p.lengthPeerStationName.toNat] := by
  apply @countsIn_name _ _ (fun p => (p.lengthPeerStationName, p.peerStationName)) (by simp)
  intro ix p
  simp [peerEvents, countsIn_nameEvents]

/-- A name that is there is stored in full. -/
theorem range_name {name : Option (List Byte)} {length : Byte} (hname : name.isSome = true)
    (hlen : ∀ bs, name = some bs → bs.length = length.toNat) :
    List.range (name.elim 0 List.length) ++ [length.toNat] = List.range (length.toNat + 1) := by
  rcases Option.isSome_iff_exists.mp hname with ⟨bs, rfl⟩
  rw [List.range_succ, ← hlen bs rfl]
  rfl

/-- The names of peers that have been copied are stored in full. -/
theorem peers_terminated {peers : List CheckPeer} {i : ℕ} (hi : i < peers.length)
    (hcopied : ∀ p ∈ peers, p.Copied) (hmeasured : ∀ p ∈ peers, p.Measured) :
    Terminated (peersEvents peers) (.peerPortName i) ∧
      Terminated (peersEvents peers) (.peerStationName i) := by
  have hp : peers[i]? = some peers[i] := List.getElem?_eq_getElem hi
  have hmem : peers[i] ∈ peers := List.getElem_mem hi
  rcases hcopied _ hmem with ⟨hport, hstation⟩
  rcases hmeasured _ hmem with ⟨hportLen, hstationLen⟩
  constructor
  · rw [Terminated, storesIn_portName, countsIn_portName, hp]
    exact range_name hport hportLen
  · rw [Terminated, storesIn_stationName, countsIn_stationName, hp]
    exact range_name hstation hstationLen

/-! ## Inside the arrays -/

theorem staysInside_iff (t : List Event) :
    StaysInside t ↔ ∀ a, ∀ ix ∈ storesIn a t, ix < a.size := by
  constructor
  · intro h a ix hix
    rcases List.mem_filterMap.mp hix with ⟨e, he, hsome⟩
    rcases e with ⟨b, iy⟩ | ⟨b, n⟩
    · dsimp only at hsome
      split at hsome
      · rename_i hb
        subst hb
        cases hsome
        exact h _ he
      · cases hsome
    · cases hsome
  · intro h e he
    rcases e with ⟨b, iy⟩ | ⟨b, n⟩
    · refine h b iy (List.mem_filterMap.mpr ⟨_, he, ?_⟩)
      exact if_pos rfl
    · trivial

/-- The indices of a name are below the size of its array if its terminator's is. -/
theorem forall_name_lt {name : Option (List Byte)} {length : Byte} {n : ℕ}
    (hlen : ∀ bs, name = some bs → bs.length = length.toNat) :
    (∀ ix ∈ List.range (name.elim 0 List.length) ++ [length.toNat], ix < n) ↔
      length.toNat < n := by
  constructor
  · intro h
    exact h _ (List.mem_append_right _ (List.mem_singleton.mpr rfl))
  · intro h ix hix
    rcases List.mem_append.mp hix with hix | hix
    · rcases name with _ | bs
      · cases hix
      · have hbs : ix < bs.length := List.mem_range.mp hix
        rw [hlen bs rfl] at hbs
        exact hbs.trans h
    · rw [List.mem_singleton.mp hix]
      exact h

/-- Peers stay inside the arrays if their station names do. -/
theorem peers_staysInside_iff {peers : List CheckPeer}
    (hlen : peers.length ≤ PF_CHECK_PEERS_PER_PORT) (hmeasured : ∀ p ∈ peers, p.Measured) :
    (∀ a, ∀ ix ∈ storesIn a (peersEvents peers), ix < a.size) ↔
      ∀ p ∈ peers, p.lengthPeerStationName.toNat < PNET_STATION_NAME_MAX_SIZE := by
  constructor
  · intro h p hp
    rcases List.mem_iff_getElem?.mp hp with ⟨i, hi⟩
    have hname := h (.peerStationName i)
    rw [storesIn_stationName, hi] at hname
    exact (forall_name_lt (hmeasured p hp).2).mp hname
  · intro h a
    cases a with
    | peers =>
      intro ix hix
      rw [storesIn_peers] at hix
      exact (List.mem_range.mp hix).trans_le hlen
    | peerPortName i =>
      rw [storesIn_portName]
      rcases hi : peers[i]? with _ | p
      · intro ix hix
        cases hix
      · -- a byte is not larger than the array of a port name
        refine (forall_name_lt (hmeasured p (List.mem_of_getElem? hi)).1).mpr ?_
        exact p.lengthPeerPortName.isLt
    | peerStationName i =>
      rw [storesIn_stationName]
      rcases hi : peers[i]? with _ | p
      · intro ix hix
        cases hix
      · have hp := List.mem_of_getElem? hi
        exact (forall_name_lt (hmeasured p hp).2).mpr (h p hp)
    | _ =>
      intro ix hix
      exfalso
      rw [peersEvents, storesIn_count, storesIn_loop_none (by simp)
        (fun i p => by simp [peerEvents, storesIn_nameEvents])] at hix
      cases hix

/-! ## What the peers of a record are -/

theorem writeDataCheck_copied :
    YieldsOk (fun v => ∀ p ∈ v.getD [], p.Copied) getWriteDataCheck := by
  have hpeers : Moves (getCheckPeers PF_CHECK_PEERS_PER_PORT) :=
    moves_byte.bind fun _ => moves_getTimes moves_checkPeer _
  refine (yieldsOk_true getPortDataCheck).bind (fun check => ?_) fun check _ => ?_
  · split
    · exact hpeers.map _
    · exact Moves.pure _
  split
  · refine YieldsOk.bind (Q := fun peers => ∀ p ∈ peers, CheckPeer.Copied p) ?_ (fun _ => Moves.pure _) ?_
    · exact (yieldsOk_true getByte).bind (fun _ => moves_getTimes moves_checkPeer _) fun _ _ =>
        yieldsOk_getTimes moves_checkPeer checkPeer_copied _
    · intro peers h
      exact YieldsOk.pure h
  · apply YieldsOk.pure
    intro p hp
    cases hp

theorem writeDataCheck_measured :
    Yields (fun v => ∀ p ∈ v.getD [], p.Measured) getWriteDataCheck := by
  apply Yields.bind
  intro check
  split
  · intro r
    exact forall_mem_getTimes checkPeer_measured _ _
  · intro r p hp
    cases hp

/-- A record is stored as its counts say: the peers, and each name in full, unless the record ends
too early. -/
def RecordCounted (bytes : ℕ → Byte) (dataLength : ℕ) : Prop :=
  Counted (recordTrace bytes dataLength) .peers ∧
    ((getWriteDataCheck (recordReader bytes dataLength)).2.info.result = .PF_PARSE_OK →
      ∀ i < (peersOf bytes dataLength).length,
        Terminated (recordTrace bytes dataLength) (.peerPortName i) ∧
          Terminated (recordTrace bytes dataLength) (.peerStationName i))

/-- The station names of the peers, which no reader looks at. -/
def RecordFits (bytes : ℕ → Byte) (dataLength : ℕ) : Prop :=
  ∀ p ∈ peersOf bytes dataLength, p.lengthPeerStationName.toNat < PNET_STATION_NAME_MAX_SIZE

theorem recordCounted (bytes : ℕ → Byte) (dataLength : ℕ) : RecordCounted bytes dataLength := by
  unfold RecordCounted
  have hmeasured := writeDataCheck_measured (recordReader bytes dataLength)
  rcases recordTrace_eq bytes dataLength with ⟨hnone, heq⟩ | ⟨heq, -⟩
  · rw [heq]
    refine ⟨rfl, fun _ i hi => ?_⟩
    rw [peersOf, hnone] at hi
    exact absurd hi (Nat.not_lt_zero i)
  · rw [heq]
    refine ⟨?_, fun hok i hi => ?_⟩
    · exact peers_counted _
    · exact peers_terminated hi (writeDataCheck_copied _ hok) hmeasured

theorem recordTrace_staysInside_iff (bytes : ℕ → Byte) (dataLength : ℕ) :
    StaysInside (recordTrace bytes dataLength) ↔ RecordFits bytes dataLength := by
  rw [staysInside_iff]
  have hmeasured := writeDataCheck_measured (recordReader bytes dataLength)
  rcases recordTrace_eq bytes dataLength with ⟨hnone, heq⟩ | ⟨heq, hlen⟩
  · rw [heq]
    constructor
    · intro _ p hp
      rw [peersOf, hnone] at hp
      cases hp
    · intro _ a ix hix
      cases hix
  · rw [heq]
    exact peers_staysInside_iff hlen hmeasured

end PNet.Connect
