import Mathlib.Data.List.TakeWhile
import PNet.Lldp.Construct
import PNet.Lldp.Tracking

/-! # Alias names

A controller can ask for a device by an alias: the name of the port that the device is connected
to, a dot, and the name of the station there. `pf_lldp_is_alias_matching` compares it with a name
that is put together from the peer's port id and chassis id. For the check of the topology there are
functions of their own for the two parts, which go by the same ids.

* `aliasMatching_iff`: the peers whose alias is put together from these parts.
-/

namespace PNet.Lldp

open Block Scheduler

def PF_ALIAS_NAME_MAX_SIZE : ℕ := PNET_STATION_NAME_MAX_SIZE + PNET_PORT_NAME_MAX_SIZE

/-! ## Strings -/

def dot : Byte := charByte '.'

/-- A string in C ends in front of its first zero. -/
def cstr (s : List Byte) : List Byte := s.takeWhile (· != 0)

/-- The part of a name in front of its first dot. -/
def beforeDot (s : List Byte) : List Byte := s.takeWhile (· != dot)

/-- The part behind it. -/
def afterDot (s : List Byte) : List Byte := (s.dropWhile (· != dot)).tail

/-! ## The names of the peer -/

/-- The buffer of an id: its string with the terminator, and what stands behind that. -/
def Id.buffer (id : Id) (behind : ℕ → Byte) (i : ℕ) : Byte :=
  if i < id.string.length then id.string.getD i 0
  else if i = id.string.length then 0
  else behind i

/-- The first six bytes of the buffer, as a MAC address. -/
def Id.mac (id : Id) (behind : ℕ → Byte) : Vector Byte 6 := Vector.ofFn fun i => id.buffer behind i

/-- The text of it. -/
def Id.macText (id : Id) (behind : ℕ → Byte) : List Byte :=
  macAddressToString (id.mac behind) PNET_STATION_NAME_MAX_SIZE

/-- `pf_lldp_get_peer_station_name`, `none` for the answer -1. -/
def getPeerStationName (info : PeerInfo) (behind : ℕ → Byte) : Option (List Byte) :=
  let portId := cstr info.portId.string
  let name :=
    if info.portId.isValid && portId.contains dot then
      snprintf PNET_STATION_NAME_MAX_SIZE (afterDot portId)
    else if info.chassisId.isValid then
      if info.chassisId.subtype ≠ PF_LLDP_SUBTYPE_MAC then
        snprintf PNET_STATION_NAME_MAX_SIZE (cstr info.chassisId.string)
      else info.chassisId.macText behind
    else []
  if name = [] then none else some name

/-- `pf_lldp_get_peer_port_name`. -/
def getPeerPortName (info : PeerInfo) : Option (List Byte) :=
  if info.portId.isValid then
    let name := beforeDot
      ((cstr (info.portId.string.take info.portId.len)).take (PNET_PORT_NAME_MAX_SIZE - 1))
    if name = [] then none else some name
  else none

/-- `pf_lldp_generate_alias_name`, with a buffer of `len` bytes. -/
def generateAliasName (portId chassisId : List Byte) (len : ℕ) : Option (List Byte) :=
  let portId := cstr portId
  let chassisId := cstr chassisId
  if portId.contains dot then
    if len ≤ portId.length then none else some portId
  else if len ≤ portId.length + chassisId.length + 1 then none
  else
    let aliasName := portId ++ dot :: chassisId
    if len ≤ aliasName.length then none else some aliasName

def PeerInfo.generateAliasName (info : PeerInfo) : Option (List Byte) :=
  Lldp.generateAliasName info.portId.string info.chassisId.string PF_ALIAS_NAME_MAX_SIZE

namespace Peers

/-- `pf_lldp_is_alias_matching`. -/
def isAliasMatching (st : Peers) (aliasName : List Byte) : Bool :=
  (List.range st.numPhysicalPorts).any fun i =>
    (st.ports (i + 1)).isPeerInfoReceived &&
      (st.ports (i + 1)).peerInfo.generateAliasName == some (cstr aliasName)

/-- The alias is the name of the peer's port, a dot, and the name of the peer's station. -/
def NamedBy (st : Peers) (behind : ℕ → ℕ → Byte) (aliasName : List Byte) (port : ℕ) : Prop :=
  st.IsValid port ∧ (st.ports port).isPeerInfoReceived = true ∧
    ∃ portName stationName, getPeerPortName (st.ports port).peerInfo = some portName ∧
      getPeerStationName (st.ports port).peerInfo (behind port) = some stationName ∧
      cstr aliasName = portName ++ dot :: stationName

/-- The peers on some ports are lost. -/
def lose (lost : List ℕ) (st : Peers) : Peers := lost.foldl invalidatePeerInfo st

end Peers

/-- The ids from which the alias is put together as from the names. -/
structure PeerInfo.Agrees (info : PeerInfo) (behind : ℕ → Byte) : Prop where
  /-- The name of the station is in the port id: neither part is empty or too long. -/
  standard : dot ∈ cstr info.portId.string →
    beforeDot (cstr info.portId.string) ≠ [] ∧
    (beforeDot (cstr info.portId.string)).length < PNET_PORT_NAME_MAX_SIZE ∧
    afterDot (cstr info.portId.string) ≠ [] ∧
    (afterDot (cstr info.portId.string)).length < PNET_STATION_NAME_MAX_SIZE
  /-- It is the chassis id: neither id is empty, the port id is not too long, and the chassis id is
  no MAC address (or is its own text). Else there is no name, and no room for the alias. -/
  legacy : dot ∉ cstr info.portId.string →
    (cstr info.portId.string ≠ [] ∧
      (cstr info.portId.string).length < PNET_PORT_NAME_MAX_SIZE ∧
      cstr info.chassisId.string ≠ [] ∧
      (info.chassisId.subtype = PF_LLDP_SUBTYPE_MAC →
        info.chassisId.macText behind = cstr info.chassisId.string)) ∨
    ((cstr info.portId.string).length + 1 = PNET_LLDP_PORT_ID_MAX_SIZE ∧
      cstr info.chassisId.string = [] ∧
      (info.chassisId.isValid = true → info.chassisId.subtype ≠ PF_LLDP_SUBTYPE_MAC))

/-! ## What the parser stores -/

/-- An id that the parser has stored. -/
structure Id.Stored (maxLen : ℕ) (id : Id) : Prop where
  short : id.string.length ≤ maxLen
  within : id.string.length ≤ id.len
  empty : id.isValid = false → id.string = []

theorem Id.stored_zero (maxLen : ℕ) : Id.Stored maxLen .zero :=
  ⟨Nat.zero_le _, Nat.zero_le _, fun _ => rfl⟩

theorem Id.Stored.getId {maxLen tlvLen : ℕ} {id : Id} (h : id.Stored maxLen) :
    Yields (Id.Stored maxLen) (getId maxLen tlvLen id) := by
  unfold Lldp.getId
  split
  · intro r
    exact h
  · split
    · rename_i hlong
      apply Yields.bind
      intro _ r
      exact ⟨h.short, h.short.trans (Nat.le_of_lt hlong), h.empty⟩
    · rename_i hlong
      apply Yields.bind
      intro subtype
      apply Yields.bind
      intro string r
      have hlen : (string.take (tlvLen - 1)).length ≤ tlvLen - 1 := List.length_take_le _ _
      refine ⟨hlen.trans (Nat.not_lt.mp hlong), hlen, ?_⟩
      intro hvalid
      cases hvalid

/-- The ids of a peer. -/
def PeerInfo.Stored (info : PeerInfo) : Prop :=
  info.chassisId.Stored (PNET_LLDP_CHASSIS_ID_MAX_SIZE - 1) ∧
    info.portId.Stored (PNET_LLDP_PORT_ID_MAX_SIZE - 1)

theorem yields_pure {α : Type} {P : α → Prop} {v : α} (h : P v) : Yields P (pure v) := fun _ => h

/-- The other TLVs leave the ids alone. -/
theorem PeerInfo.Stored.handleOrg {info : PeerInfo} (h : info.Stored) (tlvLen : ℕ)
    (org : OrgHeader) : Yields PeerInfo.Stored (handleOrg tlvLen org info) := by
  unfold Lldp.handleOrg
  repeat' split
  all_goals exact Yields.bind fun _ => yields_pure h

theorem PeerInfo.Stored.handle {info : PeerInfo} (h : info.Stored) (tlv : Tlv) (org : OrgHeader) :
    Yields (fun out => PeerInfo.Stored out.2) (handle tlv org info) := by
  unfold Lldp.handle
  split
  · intro r
    exact ⟨h.1.getId r, h.2⟩
  · intro r
    exact ⟨h.1, h.2.getId r⟩
  · exact Yields.bind fun _ => yields_pure h
  · exact Yields.bind fun _ => yields_pure h
  · apply Yields.bind
    intro address
    apply yields_pure
    dsimp only
    split
    · exact h
    · exact h
  · apply Yields.bind
    intro org' r
    exact h.handleOrg tlv.len org' r
  · exact Yields.bind fun _ => yields_pure h

theorem Visits.stored {p : Packet} {org : OrgHeader} {s : Scan} (h : Visits p org s) :
    s.info.Stored := by
  induction h with
  | first => exact ⟨Id.stored_zero _, Id.stored_zero _⟩
  | @next s _ _ ih => exact ih.handle s.tlv s.org s.reader

theorem stored_of_parsed {packet : Packet} {org : OrgHeader} {info : PeerInfo}
    (h : parsed packet org = some info) : info.Stored := by
  rcases Option.bind_eq_some_iff.mp h with ⟨out, hout, hok⟩
  rcases Option.map_eq_some_iff.mp hout with ⟨s, hs, rfl⟩
  split at hok
  · obtain rfl := Option.some.inj hok
    exact (loop_visits .first hs).1.stored
  · cases hok

/-! ## The strings -/

section

variable {s t : List Byte}

theorem cstr_length_le (s : List Byte) : (cstr s).length ≤ s.length :=
  (List.takeWhile_prefix _).length_le

theorem cstr_ne_zero {c : Byte} (h : c ∈ cstr s) : c ≠ 0 := by
  have hc := List.mem_takeWhile_imp (p := (· != 0)) h
  exact bne_iff_ne.mp hc

theorem cstr_eq_self (h : ∀ c ∈ s, c ≠ 0) : cstr s = s :=
  List.takeWhile_eq_self_iff.mpr fun c hc => bne_iff_ne.mpr (h c hc)

theorem beforeDot_eq_self (h : dot ∉ s) : beforeDot s = s := by
  apply List.takeWhile_eq_self_iff.mpr
  intro c hc
  apply bne_iff_ne.mpr
  rintro rfl
  exact h hc

/-- A name with a dot. -/
theorem beforeDot_append_afterDot (h : dot ∈ s) : beforeDot s ++ dot :: afterDot s = s := by
  have hne : s.dropWhile (· != dot) ≠ [] := by
    intro hnil
    have hall := List.dropWhile_eq_nil_iff.mp hnil dot h
    exact bne_iff_ne.mp hall rfl
  have hhead : (s.dropWhile (· != dot)).head hne = dot := by
    have hnot := List.head_dropWhile_not (· != dot) hne
    simpa using hnot
  have hcons : s.dropWhile (· != dot) = dot :: afterDot s := by
    unfold afterDot
    conv_lhs => rw [← List.cons_head_tail hne, hhead]
  unfold beforeDot
  rw [← hcons]
  exact List.takeWhile_append_dropWhile

theorem beforeDot_take (n : ℕ) (s : List Byte) : beforeDot (s.take n) = (beforeDot s).take n :=
  List.take_takeWhile.symm

/-- The part in front of a dot is known by the dot. -/
theorem append_dot_inj {u : List Byte} (hs : dot ∉ s) (ht : dot ∉ t) {v : List Byte}
    (h : s ++ dot :: u = t ++ dot :: v) : s = t ∧ u = v := by
  have hbefore : ∀ {a b : List Byte}, dot ∉ a → beforeDot (a ++ dot :: b) = a := by
    intro a b ha
    unfold beforeDot
    rw [List.takeWhile_append_of_pos]
    · rw [List.takeWhile_cons]
      exact List.append_nil a
    · intro c hc
      apply bne_iff_ne.mpr
      rintro rfl
      exact ha hc
  have heq : s = t := by
    rw [← hbefore (b := u) hs, h, hbefore ht]
  subst heq
  exact ⟨rfl, (List.cons.inj (List.append_cancel_left h)).2⟩

theorem hexDigit_ne_zero {n : ℕ} (h : n < 16) : charByte (Nat.digitChar n).toUpper ≠ 0 := by
  revert n
  decide

theorem hexByte_ne_zero {b c : Byte} (hc : c ∈ hexByte b) : c ≠ 0 := by
  have hb := b.isLt
  rcases List.mem_cons.mp hc with rfl | hc
  · exact hexDigit_ne_zero (by omega)
  · rw [List.mem_singleton.mp hc]
    exact hexDigit_ne_zero (by omega)

theorem macAddressToString_ne_zero (mac : Vector Byte 6) (size : ℕ) :
    ∀ c ∈ macAddressToString mac size, c ≠ 0 := by
  have hjoin : ∀ {b : Byte} {rest : List Byte}, (∀ c ∈ rest, c ≠ 0) →
      ∀ c ∈ hexByte b ++ charByte '-' :: rest, c ≠ 0 := by
    intro b rest hrest c hc
    rcases List.mem_append.mp hc with hc | hc
    · exact hexByte_ne_zero hc
    · rcases List.mem_cons.mp hc with rfl | hc
      · decide
      · exact hrest c hc
  intro c hc
  exact hjoin (hjoin (hjoin (hjoin (hjoin fun c hc => hexByte_ne_zero hc)))) c
    (List.mem_of_mem_take hc)

theorem macAddressToString_length (mac : Vector Byte 6) :
    (macAddressToString mac PNET_STATION_NAME_MAX_SIZE).length = 17 := rfl

end

/-! ## One peer -/

/-- The alias that is put together from the names of the port and the station. -/
def PeerInfo.builtName (info : PeerInfo) (behind : ℕ → Byte) : Option (List Byte) :=
  (getPeerPortName info).bind fun portName =>
    (getPeerStationName info behind).map fun stationName => portName ++ dot :: stationName

namespace PeerInfo.Stored

variable {info : PeerInfo} {behind : ℕ → Byte}

theorem chassis_length (h : info.Stored) : (cstr info.chassisId.string).length ≤ 240 :=
  (cstr_length_le _).trans h.1.short

theorem port_length (h : info.Stored) : (cstr info.portId.string).length ≤ 255 :=
  (cstr_length_le _).trans h.2.short

/-- An id with a text is valid. -/
theorem valid_of_ne {maxLen : ℕ} {id : Id} (h : id.Stored maxLen) (hne : cstr id.string ≠ []) :
    id.isValid = true := by
  cases hvalid : id.isValid with
  | true => rfl
  | false =>
    rw [h.empty hvalid] at hne
    exact absurd rfl hne

theorem portName_eq (h : info.Stored) : getPeerPortName info =
    if (beforeDot (cstr info.portId.string)).take 14 = [] then none
    else some ((beforeDot (cstr info.portId.string)).take 14) := by
  unfold getPeerPortName
  rw [List.take_of_length_le h.2.within, beforeDot_take]
  cases hvalid : info.portId.isValid with
  | true => rfl
  | false =>
    rw [h.2.empty hvalid]
    rfl

/-- The name of the station in the port id. -/
theorem stationName_standard (h : info.Stored) (hdot : dot ∈ cstr info.portId.string) :
    getPeerStationName info behind =
      if (afterDot (cstr info.portId.string)).take 240 = [] then none
      else some ((afterDot (cstr info.portId.string)).take 240) := by
  have hvalid : info.portId.isValid = true := valid_of_ne h.2 (List.ne_nil_of_mem hdot)
  have hcontains : (cstr info.portId.string).contains dot = true := List.contains_iff_mem.mpr hdot
  unfold getPeerStationName
  dsimp only
  rw [hvalid, hcontains]
  rfl

/-- The chassis id as the name of a station. -/
def chassisName (info : PeerInfo) (behind : ℕ → Byte) : List Byte :=
  if info.chassisId.isValid = true ∧ info.chassisId.subtype = PF_LLDP_SUBTYPE_MAC then
    info.chassisId.macText behind
  else cstr info.chassisId.string

theorem stationName_legacy (h : info.Stored) (hdot : dot ∉ cstr info.portId.string) :
    getPeerStationName info behind =
      if chassisName info behind = [] then none else some (chassisName info behind) := by
  have hcontains : (cstr info.portId.string).contains dot = false := by
    rw [Bool.eq_false_iff]
    intro hcontains
    exact hdot (List.contains_iff_mem.mp hcontains)
  have hname : (if info.chassisId.isValid = true then
        if info.chassisId.subtype ≠ PF_LLDP_SUBTYPE_MAC then
          snprintf PNET_STATION_NAME_MAX_SIZE (cstr info.chassisId.string)
        else info.chassisId.macText behind
      else []) = chassisName info behind := by
    unfold chassisName
    by_cases hvalid : info.chassisId.isValid = true
    · rw [if_pos hvalid]
      by_cases hmac : info.chassisId.subtype = PF_LLDP_SUBTYPE_MAC
      · rw [if_neg (not_not_intro hmac), if_pos ⟨hvalid, hmac⟩]
      · rw [if_pos hmac, if_neg fun hboth => hmac hboth.2]
        exact List.take_of_length_le h.chassis_length
    · rw [if_neg hvalid, if_neg fun hboth => hvalid hboth.1,
        h.1.empty (Bool.eq_false_iff.mpr hvalid)]
      rfl
  unfold getPeerStationName
  dsimp only
  rw [hcontains, Bool.and_false, if_neg Bool.false_ne_true, hname]

/-- The port id is the alias. -/
theorem generate_standard (h : info.Stored) (hdot : dot ∈ cstr info.portId.string) :
    info.generateAliasName = some (cstr info.portId.string) := by
  have hcontains : (cstr info.portId.string).contains dot = true := List.contains_iff_mem.mpr hdot
  have hlen : ¬ PF_ALIAS_NAME_MAX_SIZE ≤ (cstr info.portId.string).length :=
    Nat.not_le.mpr (Nat.lt_succ_of_le h.port_length)
  unfold PeerInfo.generateAliasName Lldp.generateAliasName
  dsimp only
  rw [if_pos hcontains, if_neg hlen]

theorem generate_legacy (hdot : dot ∉ cstr info.portId.string) : info.generateAliasName =
    if PF_ALIAS_NAME_MAX_SIZE ≤
        (cstr info.portId.string).length + (cstr info.chassisId.string).length + 1 then none
    else some (cstr info.portId.string ++ dot :: cstr info.chassisId.string) := by
  have hcontains : ¬ (cstr info.portId.string).contains dot = true :=
    fun hcontains => hdot (List.contains_iff_mem.mp hcontains)
  unfold PeerInfo.generateAliasName Lldp.generateAliasName
  dsimp only
  rw [if_neg hcontains]
  split
  · rfl
  · rename_i hlen
    -- The text of `snprintf` has the length that has been checked.
    rw [if_neg]
    rw [List.length_append, List.length_cons]
    exact hlen

/-- A name in two parts, both cut to their buffers. -/
theorem built_eq {portName stationName : List Byte}
    (hport : getPeerPortName info = if portName = [] then none else some portName)
    (hstation : getPeerStationName info behind =
      if stationName = [] then none else some stationName) :
    info.builtName behind =
      if portName = [] ∨ stationName = [] then none else some (portName ++ dot :: stationName) := by
  unfold PeerInfo.builtName
  rw [hport, hstation]
  by_cases hp : portName = []
  · rw [if_pos hp, if_pos (show portName = [] ∨ stationName = [] from .inl hp)]
    rfl
  by_cases hs : stationName = []
  · rw [if_neg hp, if_pos hs, if_pos (show portName = [] ∨ stationName = [] from .inr hs)]
    rfl
  · rw [if_neg hp, if_neg hs, if_neg (not_or.mpr ⟨hp, hs⟩)]
    rfl

theorem standard_iff (h : info.Stored) (hdot : dot ∈ cstr info.portId.string) :
    info.generateAliasName = info.builtName behind ↔
      beforeDot (cstr info.portId.string) ≠ [] ∧
      (beforeDot (cstr info.portId.string)).length < PNET_PORT_NAME_MAX_SIZE ∧
      afterDot (cstr info.portId.string) ≠ [] ∧
      (afterDot (cstr info.portId.string)).length < PNET_STATION_NAME_MAX_SIZE := by
  rw [h.generate_standard hdot, built_eq h.portName_eq (h.stationName_standard hdot)]
  have hsplit := beforeDot_append_afterDot hdot
  generalize beforeDot (cstr info.portId.string) = b at hsplit ⊢
  generalize afterDot (cstr info.portId.string) = a at hsplit ⊢
  rw [← hsplit]
  show _ ↔ b ≠ [] ∧ b.length < 15 ∧ a ≠ [] ∧ a.length < 241
  constructor
  · intro heq
    by_cases hnone : b.take 14 = [] ∨ a.take 240 = []
    · rw [if_pos hnone] at heq
      cases heq
    rw [if_neg hnone] at heq
    rcases not_or.mp hnone with ⟨hb, ha⟩
    -- Nothing has been cut off, since the name has its whole length.
    have hlen := congrArg List.length (Option.some.inj heq)
    rw [List.length_append, List.length_append, List.length_cons, List.length_cons,
      List.length_take, List.length_take] at hlen
    refine ⟨?_, by omega, ?_, by omega⟩
    · rintro rfl
      exact hb rfl
    · rintro rfl
      exact ha rfl
  · rintro ⟨hb, hblen, ha, halen⟩
    rw [List.take_of_length_le (by omega), List.take_of_length_le (by omega),
      if_neg (not_or.mpr ⟨hb, ha⟩)]

theorem legacy_iff (h : info.Stored) (hdot : dot ∉ cstr info.portId.string) :
    info.generateAliasName = info.builtName behind ↔
      (cstr info.portId.string ≠ [] ∧
        (cstr info.portId.string).length < PNET_PORT_NAME_MAX_SIZE ∧
        cstr info.chassisId.string ≠ [] ∧
        (info.chassisId.subtype = PF_LLDP_SUBTYPE_MAC →
          info.chassisId.macText behind = cstr info.chassisId.string)) ∨
      ((cstr info.portId.string).length + 1 = PNET_LLDP_PORT_ID_MAX_SIZE ∧
        cstr info.chassisId.string = [] ∧
        (info.chassisId.isValid = true → info.chassisId.subtype ≠ PF_LLDP_SUBTYPE_MAC)) := by
  have hport := h.portName_eq
  rw [beforeDot_eq_self hdot] at hport
  rw [generate_legacy hdot, built_eq hport (h.stationName_legacy hdot)]
  have hplen := h.port_length
  have hclen := h.chassis_length
  have hvalid := fun hne => valid_of_ne h.1 hne
  have hname : chassisName info behind =
      if info.chassisId.isValid = true ∧ info.chassisId.subtype = PF_LLDP_SUBTYPE_MAC then
        info.chassisId.macText behind
      else cstr info.chassisId.string := rfl
  have hmac : (info.chassisId.macText behind).length = 17 := macAddressToString_length _
  generalize info.chassisId.macText behind = m at hname hmac ⊢
  generalize chassisName info behind = n at hname ⊢
  generalize cstr info.portId.string = p at hdot hplen ⊢
  generalize cstr info.chassisId.string = c at hclen hvalid hname ⊢
  show (if 256 ≤ p.length + c.length + 1 then none else some (p ++ dot :: c)) = _ ↔
    (p ≠ [] ∧ p.length < 15 ∧ c ≠ [] ∧ (info.chassisId.subtype = PF_LLDP_SUBTYPE_MAC → m = c)) ∨
      (p.length + 1 = 256 ∧ c = [] ∧
        (info.chassisId.isValid = true → info.chassisId.subtype ≠ PF_LLDP_SUBTYPE_MAC))
  by_cases hlong : 256 ≤ p.length + c.length + 1
  · -- There is no room for the alias.
    rw [if_pos hlong]
    have htake : p.take 14 ≠ [] := by
      intro hnil
      have hlen := congrArg List.length hnil
      rw [List.length_take, List.length_nil] at hlen
      omega
    constructor
    · intro heq
      right
      by_cases hn : n = []
      swap
      · rw [if_neg (not_or.mpr ⟨htake, hn⟩)] at heq
        cases heq
      by_cases hboth : info.chassisId.isValid = true ∧
          info.chassisId.subtype = PF_LLDP_SUBTYPE_MAC
      · rw [if_pos hboth] at hname
        rw [← hname, hn] at hmac
        cases hmac
      · rw [if_neg hboth, hn] at hname
        subst hname
        exact ⟨by rw [List.length_nil] at hlong; omega, rfl, fun hv hm => hboth ⟨hv, hm⟩⟩
    · rintro (⟨-, hshort, -, -⟩ | ⟨-, rfl, hno⟩)
      · omega
      · rw [if_neg fun hboth => hno hboth.1 hboth.2] at hname
        rw [if_pos (.inr hname)]
  rw [if_neg hlong]
  constructor
  · intro heq
    left
    by_cases hnone : p.take 14 = [] ∨ n = []
    · rw [if_pos hnone] at heq
      cases heq
    rw [if_neg hnone] at heq
    rcases not_or.mp hnone with ⟨hp, hn⟩
    have htake : dot ∉ p.take 14 := fun hmem => hdot (List.mem_of_mem_take hmem)
    rcases append_dot_inj hdot htake (Option.some.inj heq) with ⟨hpn, hcn⟩
    have hlen := congrArg List.length hpn
    rw [List.length_take] at hlen
    refine ⟨?_, by omega, ?_, ?_⟩
    · rw [hpn]
      exact hp
    · rw [hcn]
      exact hn
    · intro hsub
      have hc : c ≠ [] := by
        rw [hcn]
        exact hn
      rw [if_pos ⟨hvalid hc, hsub⟩] at hname
      rw [hcn, hname]
  · rintro (⟨hp, hshort, hc, hm⟩ | ⟨hfull, rfl, -⟩)
    · have hn : n = c := by
        rw [hname]
        split
        · rename_i hboth
          exact hm hboth.2
        · rfl
      rw [List.take_of_length_le (by omega), hn, if_neg (not_or.mpr ⟨hp, hc⟩)]
    · rw [List.length_nil] at hlong
      omega

/-- The alias is the name that is put together from the two parts. -/
theorem agrees_iff (h : info.Stored) :
    info.Agrees behind ↔ info.generateAliasName = info.builtName behind := by
  by_cases hdot : dot ∈ cstr info.portId.string
  · rw [h.standard_iff hdot]
    exact ⟨fun hagrees => hagrees.standard hdot,
      fun hstandard => ⟨fun _ => hstandard, fun hno => absurd hdot hno⟩⟩
  · rw [h.legacy_iff hdot]
    exact ⟨fun hagrees => hagrees.legacy hdot,
      fun hlegacy => ⟨fun hyes => absurd hyes hdot, fun _ => hlegacy⟩⟩

theorem chassisName_ne_zero (info : PeerInfo) (behind : ℕ → Byte) :
    ∀ c ∈ chassisName info behind, c ≠ 0 := by
  unfold chassisName
  split
  · exact macAddressToString_ne_zero _ _
  · intro c hc
    exact cstr_ne_zero hc

/-- Neither name has a zero in it. -/
theorem name_ne_zero (h : info.Stored) (behind : ℕ → Byte) {name : List Byte}
    (hname : info.generateAliasName = some name ∨ info.builtName behind = some name) :
    ∀ c ∈ name, c ≠ 0 := by
  have hdotne : dot ≠ 0 := by decide
  have hparts : ∀ {a b : List Byte}, (∀ c ∈ a, c ≠ 0) → (∀ c ∈ b, c ≠ 0) →
      ∀ c ∈ a ++ dot :: b, c ≠ 0 := by
    intro a b ha hb c hc
    rcases List.mem_append.mp hc with hc | hc
    · exact ha c hc
    · rcases List.mem_cons.mp hc with rfl | hc
      · exact hdotne
      · exact hb c hc
  have hbefore : ∀ c ∈ (beforeDot (cstr info.portId.string)).take 14, c ≠ 0 := by
    intro c hc
    exact cstr_ne_zero ((List.takeWhile_prefix _).mem (List.mem_of_mem_take hc))
  have hafter : ∀ c ∈ (afterDot (cstr info.portId.string)).take 240, c ≠ 0 := by
    intro c hc
    have hin := List.mem_of_mem_tail (List.mem_of_mem_take hc)
    exact cstr_ne_zero ((List.dropWhile_suffix _).mem hin)
  have hbuilt : ∀ {n : List Byte}, (∀ c ∈ n, c ≠ 0) → getPeerStationName info behind =
      (if n = [] then none else some n) → info.builtName behind = some name →
      ∀ c ∈ name, c ≠ 0 := by
    intro n hn hstation hname
    rw [built_eq h.portName_eq hstation] at hname
    split at hname
    · cases hname
    · obtain rfl := Option.some.inj hname
      exact hparts hbefore hn
  by_cases hdot : dot ∈ cstr info.portId.string
  · rcases hname with hname | hname
    · rw [h.generate_standard hdot] at hname
      obtain rfl := Option.some.inj hname
      intro c hc
      exact cstr_ne_zero hc
    · exact hbuilt hafter (h.stationName_standard hdot) hname
  · rcases hname with hname | hname
    · rw [generate_legacy hdot] at hname
      split at hname
      · cases hname
      · obtain rfl := Option.some.inj hname
        exact hparts (fun c hc => cstr_ne_zero hc) fun c hc => cstr_ne_zero hc
    · exact hbuilt (chassisName_ne_zero info behind) (h.stationName_legacy hdot) hname

/-- The two names are the same when no alias tells them apart. -/
theorem agrees_of_aliases (h : info.Stored)
    (hsame : ∀ aliasName, info.generateAliasName = some (cstr aliasName) ↔
      info.builtName behind = some (cstr aliasName)) : info.Agrees behind := by
  apply h.agrees_iff.mpr
  apply Option.ext
  intro name
  constructor
  · intro hname
    have hself := cstr_eq_self (h.name_ne_zero behind (.inl hname))
    rw [← hself]
    apply (hsame name).mp
    rw [hself]
    exact hname
  · intro hname
    have hself := cstr_eq_self (h.name_ne_zero behind (.inr hname))
    rw [← hself]
    apply (hsame name).mpr
    rw [hself]
    exact hname

end PeerInfo.Stored

/-! ## The ports -/

namespace Peers

variable {st st' : Peers}

/-- The ids of the peers that are known have come through the parser. -/
def Known (st : Peers) : Prop :=
  ∀ port, (st.ports port).isPeerInfoReceived = true → (st.ports port).peerInfo.Stored

theorem Known.setPort (h : st.Known) {port : ℕ} {p : PeerPort}
    (hp : p.isPeerInfoReceived = true → p.peerInfo.Stored) : (st.setPort port p).Known := by
  intro i hi
  unfold Peers.setPort at hi ⊢
  dsimp only at hi ⊢
  by_cases heq : i = port
  · subst heq
    rw [Function.update_self] at hi ⊢
    exact hp hi
  · rw [Function.update_of_ne heq] at hi ⊢
    exact h i hi

theorem restartPeerTimeout_ports {port : ℕ} {ttl : BitVec 16} {now : Time} {r : ℤ × Peers}
    (hr : st.restartPeerTimeout port ttl now = some r) : r.2.ports = st.ports := by
  rcases Option.bind_eq_some_iff.mp hr with ⟨sched, -, hr⟩
  split at hr
  · obtain rfl := Option.some.inj hr
    rfl
  · rcases Option.map_eq_some_iff.mp hr with ⟨r', -, rfl⟩
    rfl

theorem Known.of_ports (h : st.Known) (heq : st'.ports = st.ports) : st'.Known := by
  intro port
  rw [heq]
  exact h port

theorem Known.invalidate (h : st.Known) (port : ℕ) : (st.invalidatePeerInfo port).Known := by
  apply h.setPort
  intro hno
  cases hno

theorem Known.step (h : st.Known) {e : PeerEvent} (hs : st.step e = some st') : st'.Known := by
  cases e with
  | recv port packet org differs now =>
    change st.recv port packet org differs now = some st' at hs
    unfold Peers.recv at hs
    split at hs
    · rename_i info hparsed
      split at hs
      · rcases Option.map_eq_some_iff.mp hs with ⟨r, hr, rfl⟩
        have hkept := h.of_ports (restartPeerTimeout_ports hr)
        split
        · exact hkept
        · apply hkept.setPort
          intro _
          exact stored_of_parsed hparsed
      · obtain rfl := Option.some.inj hs
        exact h
    · obtain rfl := Option.some.inj hs
      exact h
  | monitorLink port running =>
    have hup : ∀ st1 : Peers, st1.Known → (st1.setPort port
        { st1.ports port with previousIsLinkUp := running }).Known := by
      intro st1 hst1
      apply hst1.setPort
      exact hst1 port
    change st.monitorLink port running = some st' at hs
    unfold Peers.monitorLink at hs
    split at hs
    · dsimp only at hs
      split at hs
      · rcases Option.map_eq_some_iff.mp hs with ⟨st1, hst1, rfl⟩
        rcases Option.map_eq_some_iff.mp hst1 with ⟨sched, -, rfl⟩
        apply hup
        exact Known.invalidate (Known.of_ports h rfl) port
      · obtain rfl := Option.some.inj hs
        exact hup st h
    · obtain rfl := Option.some.inj hs
      exact h
  | call c hforeign =>
    rcases Option.map_eq_some_iff.mp hs with ⟨sched, -, rfl⟩
    exact h.of_ports rfl
  | round now =>
    change st.round now = some st' at hs
    unfold Peers.round at hs
    split at hs
    · rcases Option.map_eq_some_iff.mp hs with ⟨sched, -, rfl⟩
      dsimp only
      split
      · exact Known.invalidate (Known.of_ports h rfl) _
      · exact h.of_ports rfl
    · obtain rfl := Option.some.inj hs
      exact h

theorem known_run {tickInterval now : Time} {n : ℕ} {checked : ℕ → Bool} {st0 : Peers}
    {events : List PeerEvent} (hstart : Peers.start tickInterval n checked now = some st0)
    (hrun : Runs.run Peers.step st0 events = some st) : st.Known := by
  refine Runs.invariant_of_step (I := Known) (fun _ _ _ h hs => h.step hs) ?_ hrun
  intro port hport
  rw [(start_starting hstart).ports port] at hport
  cases hport

/-! ## Peers that are lost -/

theorem lose_spec (lost : List ℕ) (st : Peers) :
    (lose lost st).numPhysicalPorts = st.numPhysicalPorts ∧
      (∀ port ∈ lost, ((lose lost st).ports port).isPeerInfoReceived = false) ∧
      ∀ port ∉ lost, (lose lost st).ports port = st.ports port := by
  induction lost generalizing st with
  | nil =>
    refine ⟨rfl, ?_, fun _ _ => rfl⟩
    intro port hport
    cases hport
  | cons i lost ih =>
    rcases ih (st.invalidatePeerInfo i) with ⟨hnum, hlost, hother⟩
    refine ⟨hnum, ?_, ?_⟩
    · intro port hport
      by_cases hin : port ∈ lost
      · exact hlost port hin
      · obtain rfl := (List.mem_cons.mp hport).resolve_right hin
        show ((lose lost (st.invalidatePeerInfo port)).ports port).isPeerInfoReceived = false
        rw [hother port hin]
        unfold invalidatePeerInfo Peers.setPort
        dsimp only
        rw [Function.update_self]
    · intro port hport
      rw [List.mem_cons, not_or] at hport
      show (lose lost (st.invalidatePeerInfo i)).ports port = _
      rw [hother port hport.2]
      unfold invalidatePeerInfo Peers.setPort
      dsimp only
      rw [Function.update_of_ne hport.1]

/-- A peer is known on the port. -/
def HasPeer (st : Peers) (port : ℕ) : Prop :=
  st.IsValid port ∧ (st.ports port).isPeerInfoReceived = true

theorem lose_hasPeer {lost : List ℕ} {port : ℕ} : (lose lost st).HasPeer port ↔
    port ∉ lost ∧ st.HasPeer port := by
  rcases lose_spec lost st with ⟨hnum, hlost, hother⟩
  have hvalid : (lose lost st).IsValid port ↔ st.IsValid port := by
    unfold IsValid
    rw [hnum]
  unfold HasPeer
  rw [hvalid]
  by_cases hin : port ∈ lost
  · rw [hlost port hin]
    exact iff_of_false (fun h => Bool.false_ne_true h.2) fun h => h.1 hin
  · rw [hother port hin]
    exact (and_iff_right hin).symm

/-- All ports but one. -/
def others (st : Peers) (port : ℕ) : List ℕ :=
  (List.range (st.numPhysicalPorts + 1)).filter (· ≠ port)

/-- When all other peers are lost, there is one left. -/
theorem exists_lose_others {port : ℕ} (h : st.HasPeer port) (p : PeerPort → ℕ → Prop) :
    (∃ i, (lose (others st port) st).HasPeer i ∧ p ((lose (others st port) st).ports i) i) ↔
      p (st.ports port) port := by
  have hself : port ∉ others st port := by
    intro hin
    exact of_decide_eq_true (List.mem_filter.mp hin).2 rfl
  have hsame := (lose_spec (others st port) st).2.2 port hself
  constructor
  · rintro ⟨i, hi, hp⟩
    rcases lose_hasPeer.mp hi with ⟨hin, ⟨-, hle⟩, -⟩
    have heq : i = port := by
      by_contra hne
      apply hin
      exact List.mem_filter.mpr ⟨List.mem_range.mpr (Nat.lt_succ_of_le hle), decide_eq_true hne⟩
    subst heq
    rw [hsame] at hp
    exact hp
  · intro hp
    refine ⟨port, lose_hasPeer.mpr ⟨hself, h⟩, ?_⟩
    rw [hsame]
    exact hp

/-! ## The match -/

theorem isAliasMatching_iff (st : Peers) (aliasName : List Byte) :
    st.isAliasMatching aliasName = true ↔ ∃ port, st.HasPeer port ∧
      (st.ports port).peerInfo.generateAliasName = some (cstr aliasName) := by
  unfold isAliasMatching
  simp only [List.any_eq_true, List.mem_range, Bool.and_eq_true, beq_iff_eq]
  constructor
  · rintro ⟨i, hi, hknown, hname⟩
    exact ⟨i + 1, ⟨⟨Nat.le_add_left _ _, hi⟩, hknown⟩, hname⟩
  · rintro ⟨port, ⟨⟨hpos, hle⟩, hknown⟩, hname⟩
    obtain ⟨i, rfl⟩ := Nat.exists_eq_add_of_le' hpos
    exact ⟨i, hle, hknown, hname⟩

theorem namedBy_iff (st : Peers) (behind : ℕ → ℕ → Byte) (aliasName : List Byte) (port : ℕ) :
    st.NamedBy behind aliasName port ↔ st.HasPeer port ∧
      (st.ports port).peerInfo.builtName (behind port) = some (cstr aliasName) := by
  unfold NamedBy HasPeer PeerInfo.builtName
  rw [and_assoc, Option.bind_eq_some_iff]
  constructor
  · rintro ⟨hvalid, hknown, portName, stationName, hport, hstation, hname⟩
    exact ⟨hvalid, hknown, portName, hport, by rw [hstation, hname]; rfl⟩
  · rintro ⟨hvalid, hknown, portName, hport, hrest⟩
    rcases Option.map_eq_some_iff.mp hrest with ⟨stationName, hstation, hname⟩
    exact ⟨hvalid, hknown, portName, stationName, hport, hstation, hname.symm⟩

/-- In a state of any run, whichever peers are lost next, the aliases that match are the names that
are put together from those of the port and the station: this is so if and only if the ids of all
peers agree. -/
theorem aliasMatching_iff {tickInterval now : Time} {numPhysicalPorts : ℕ} {checked : ℕ → Bool}
    {st0 : Peers} {events : List PeerEvent}
    (hstart : Peers.start tickInterval numPhysicalPorts checked now = some st0)
    (hrun : Runs.run Peers.step st0 events = some st) (behind : ℕ → ℕ → Byte) :
    (∀ (lost : List ℕ) (aliasName : List Byte), (lose lost st).isAliasMatching aliasName = true ↔
      ∃ port, (lose lost st).NamedBy behind aliasName port) ↔
    ∀ port, st.HasPeer port → (st.ports port).peerInfo.Agrees (behind port) := by
  have hknown := known_run hstart hrun
  constructor
  · intro h port hport
    apply (hknown port hport.2).agrees_of_aliases
    intro aliasName
    have hsame := h (others st port) aliasName
    rw [isAliasMatching_iff, exists_congr (namedBy_iff _ behind aliasName)] at hsame
    rw [← exists_lose_others hport fun p _ => p.peerInfo.generateAliasName = some (cstr aliasName),
      ← exists_lose_others hport fun p i => p.peerInfo.builtName (behind i) = some (cstr aliasName)]
    exact hsame
  · intro h lost aliasName
    rw [isAliasMatching_iff]
    apply exists_congr
    intro port
    rw [namedBy_iff]
    apply and_congr_right
    intro hport
    rcases lose_hasPeer.mp hport with ⟨hin, hhas⟩
    rw [(lose_spec lost st).2.2 port hin,
      (hknown port hhas.2).agrees_iff.mp (h port hhas)]

end Peers

/-! ## Two peers -/

namespace PeerRun

theorem aliasSize_le : 26 ≤ PNAL_BUF_MAX_SIZE := by decide

/-- A peer with the chassis id `dut` and the port id `port-001`. -/
def namedPacket : Packet where
  buf i := [0x02, 0x04, 0x07, 0x64, 0x75, 0x74, 0x04, 0x09, 0x07, 0x70, 0x6f, 0x72, 0x74, 0x2d,
    0x30, 0x30, 0x31, 0x06, 0x02, 0x00, 0x14, 0x00, 0x00].getD i 0
  len := 23
  len_le := (show 23 ≤ 26 by decide).trans aliasSize_le

/-- A peer with the same port id and the MAC address 00-11-22-33-44-55 as chassis id. -/
def macPacket : Packet where
  buf i := [0x02, 0x07, 0x04, 0x00, 0x11, 0x22, 0x33, 0x44, 0x55, 0x04, 0x09, 0x07, 0x70, 0x6f,
    0x72, 0x74, 0x2d, 0x30, 0x30, 0x31, 0x06, 0x02, 0x00, 0x14, 0x00, 0x00].getD i 0
  len := 26
  len_le := aliasSize_le

/-- The text `port-001`. -/
def portText : List Byte := [0x70, 0x6f, 0x72, 0x74, 0x2d, 0x30, 0x30, 0x31]

/-- The text `00-11-22-33-44-55`. -/
def macText : List Byte := [0x30, 0x30, 0x2d, 0x31, 0x31, 0x2d, 0x32, 0x32, 0x2d, 0x33, 0x33, 0x2d,
  0x34, 0x34, 0x2d, 0x35, 0x35]

end PeerRun

open PeerRun in
/-- The alias of a peer that has a name. -/
theorem aliasMatching_named : ∃ st0 st, Peers.start 1000#32 1 (fun _ => false) 0#32 = some st0 ∧
    Runs.run Peers.step st0 [event namedPacket] = some st ∧
    ∀ (lost : List ℕ) (aliasName : List Byte),
      (Peers.lose lost st).isAliasMatching aliasName = true ↔
        ∃ port, (Peers.lose lost st).NamedBy (fun _ _ => 0) aliasName port := by
  rcases start_some with ⟨st0, hst0⟩
  have hall : (start.bind fun st => Runs.run Peers.step st [event namedPacket]).map
      (fun st => (st.numPhysicalPorts, (st.ports 1).peerInfo.portId.string,
        (st.ports 1).peerInfo.chassisId)) =
      some (1, portText, ⟨[0x64, 0x75, 0x74], 7, true, 3⟩) := by decide +kernel
  rw [hst0] at hall
  rcases Option.map_eq_some_iff.mp hall with ⟨st, hst, hids⟩
  rcases Prod.mk.inj hids with ⟨hnum, hrest⟩
  rcases Prod.mk.inj hrest with ⟨hport, hchassis⟩
  refine ⟨st0, st, hst0, hst, (Peers.aliasMatching_iff hst0 hst _).mpr ?_⟩
  rintro port ⟨⟨hpos, hle⟩, -⟩
  obtain rfl : port = 1 := by omega
  constructor
  · rw [hport]
    intro hdot
    exact absurd hdot (by decide)
  · rw [hport, hchassis]
    intro _
    exact .inl ⟨by decide, by decide, by decide, fun hmac => absurd hmac (by decide)⟩

open PeerRun in
/-- The alias of a peer that is known by its MAC address does not match. -/
theorem not_aliasMatching_mac : ∃ st0 st, Peers.start 1000#32 1 (fun _ => false) 0#32 = some st0 ∧
    Runs.run Peers.step st0 [event macPacket] = some st ∧
    st.isAliasMatching (portText ++ dot :: macText) = false ∧
    st.NamedBy (fun _ _ => 0) (portText ++ dot :: macText) 1 := by
  rcases start_some with ⟨st0, hst0⟩
  have hstate : (start.bind fun st => Runs.run Peers.step st [event macPacket]).map
      (fun st => (st.numPhysicalPorts, (st.ports 1).isPeerInfoReceived,
        st.isAliasMatching (portText ++ dot :: macText))) =
      some (1, true, false) := by decide +kernel
  have hnames : (start.bind fun st => Runs.run Peers.step st [event macPacket]).map
      (fun st => (getPeerPortName (st.ports 1).peerInfo,
        getPeerStationName (st.ports 1).peerInfo fun _ => 0)) =
      some (some portText, some macText) := by decide +kernel
  rw [hst0] at hstate hnames
  rcases Option.map_eq_some_iff.mp hstate with ⟨st, hst, hshows⟩
  rw [show (some st0).bind (fun st => Runs.run Peers.step st [event macPacket]) = some st from hst]
    at hnames
  rcases Prod.mk.inj hshows with ⟨hnum, hshows⟩
  rcases Prod.mk.inj hshows with ⟨hknown, hmatch⟩
  rcases Prod.mk.inj (Option.some.inj hnames) with ⟨hport, hstation⟩
  exact ⟨st0, st, hst0, hst, hmatch, ⟨le_rfl, hnum.ge⟩, hknown, portText, macText, hport, hstation,
    by decide⟩

end PNet.Lldp
