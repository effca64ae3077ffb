import PNet.Lldp.Walk

/-! # Packets that are framed by their TLVs

Parsing a packet ends, reads nothing behind it, and takes every TLV by its length and stores only
what a TLV of the right type says, if and only if the packet has the right sizes in two places:
a management address is as long as its TLV, and an id that is too long is not the last one behind
an id that was stored.
-/

namespace PNet.Lldp

open Block

/-! ## The packets with the right sizes -/

def byLength : Tlv → ℕ → ℕ := fun tlv _ => tlv.len

/-- A TLV starts at `pos` when every TLV is as long as its header says, and none before it is
rejected. -/
def Packet.HasTlv (p : Packet) (pos : ℕ) : Prop := (∃ n, Walk p byLength n pos) ∧ pos + 2 ≤ p.len

/-- All TLVs are accepted, up to the end marker. -/
def Packet.Complete (p : Packet) : Prop :=
  ∃ pos, p.HasTlv pos ∧ (p.tlvAt pos).type = LLDP_TYPE_END

/-- A chassis id or a port id, of a length that is stored. -/
structure Packet.GoodId (p : Packet) (type maxLen pos : ℕ) : Prop where
  hasTlv : p.HasTlv pos
  type : (p.tlvAt pos).type = type
  nonempty : 0 < (p.tlvAt pos).len
  le : (p.tlvAt pos).len - 1 ≤ maxLen

structure Packet.LongId (p : Packet) (type maxLen pos : ℕ) : Prop where
  hasTlv : p.HasTlv pos
  type : (p.tlvAt pos).type = type
  lt : maxLen < (p.tlvAt pos).len - 1

/-- With an id of the right length, one that is too long has another of the right length behind
it. -/
def Packet.LastIdFits (p : Packet) (type maxLen : ℕ) : Prop :=
  ∀ good long, p.GoodId type maxLen good → p.LongId type maxLen long →
    ∃ later, p.GoodId type maxLen later ∧ long < later

structure Packet.WellSized (p : Packet) : Prop where
  /-- A management address with its object identifier fills its TLV. -/
  addresses : ∀ pos, p.HasTlv pos → (p.tlvAt pos).type = LLDP_TYPE_MANAGEMENT_ADDRESS →
    p.Accepts (p.tlvAt pos) (pos + 2) → addressFits (p.buf (pos + 2)) →
    (p.tlvAt pos).len = 7 + (p.buf (pos + 2)).toNat +
      (p.buf (pos + 2 + 6 + (p.buf (pos + 2)).toNat)).toNat
  chassisIds : p.Complete → p.LastIdFits LLDP_TYPE_CHASSIS_ID (PNET_LLDP_CHASSIS_ID_MAX_SIZE - 1)
  portIds : p.Complete → p.LastIdFits LLDP_TYPE_PORT_ID (PNET_LLDP_PORT_ID_MAX_SIZE - 1)

/-! ## What parsing should do -/

/-- A TLV of the packet that the parser has seen holds `value`. -/
def Packet.HasValue (p : Packet) (org : OrgHeader) (type : ℕ) (value : List Byte) : Prop :=
  ∃ s, Visits p org s ∧ s.tlv.type = type ∧
    value = Buffer.slice p.buf s.reader.pos s.tlv.len ∧ s.reader.pos + s.tlv.len ≤ p.len

/-- What is stored beside the ids comes from the values of TLVs. -/
structure Plain (p : Packet) (org : OrgHeader) (info : PeerInfo) : Prop where
  ttl : info.ttl = 0 ∨ p.HasValue org LLDP_TYPE_TTL (bytes16 true info.ttl)
  portDescription : info.portDescription.isValid →
    info.portDescription.len = info.portDescription.string.length ∧
      p.HasValue org LLDP_TYPE_PORT_DESCRIPTION info.portDescription.string
  managementAddress : info.managementAddress.isValid →
    info.managementAddress.len = info.managementAddress.value.length ∧
      ∃ oid, p.HasValue org LLDP_TYPE_MANAGEMENT_ADDRESS (info.managementAddress.bytes oid)
  portDelay : info.portDelay.isValid → p.HasValue org LLDP_TYPE_ORG_SPEC
    (orgIdPnio.toList ++ LLDP_PNIO_SUBTYPE_MEAS_DELAY_VALUES :: info.portDelay.bytes)
  portStatus : info.portStatus = Vector.replicate 4 0 ∨ p.HasValue org LLDP_TYPE_ORG_SPEC
    (orgIdPnio.toList ++ LLDP_PNIO_SUBTYPE_PORT_STATUS :: info.portStatus.toList)
  macAddress : info.macAddress = Vector.replicate 6 0 ∨ p.HasValue org LLDP_TYPE_ORG_SPEC
    (orgIdPnio.toList ++ LLDP_PNIO_SUBTYPE_CHASSIS_MAC :: info.macAddress.toList)
  phyConfig : info.phyConfig.isValid → ∃ flags capabilities mauType,
    info.phyConfig = .ofFlags flags capabilities mauType ∧ p.HasValue org LLDP_TYPE_ORG_SPEC
      (orgIdIeee8023.toList ++ LLDP_IEEE_SUBTYPE_MAC_PHY :: flags ::
        (bytes16 true capabilities ++ bytes16 true mauType))

/-- An id with its length comes from the value of one TLV. -/
def Id.FromTlv (id : Id) (p : Packet) (org : OrgHeader) (type : ℕ) : Prop :=
  id.len = id.string.length ∧ p.HasValue org type (id.subtype :: id.string)

/-- What is stored comes from the values of TLVs. -/
structure Decoded (p : Packet) (org : OrgHeader) (info : PeerInfo) : Prop extends
    Plain p org info where
  chassisId : info.chassisId.isValid → info.chassisId.FromTlv p org LLDP_TYPE_CHASSIS_ID
  portId : info.portId.isValid → info.portId.FromTlv p org LLDP_TYPE_PORT_ID

structure FramedByTlvs (p : Packet) (org : OrgHeader) : Prop where
  ends : ∃ out, ∀ fuel, p.len < fuel → parsePacket fuel p org = some out
  inside : ∀ p' : Packet, p'.len = p.len → (∀ i < p.len, p'.buf i = p.buf i) →
    ∀ fuel, parsePacket fuel p' org = parsePacket fuel p org
  /-- Without an error the parser moves from the value of a TLV to the end of that value. -/
  exact : ∀ s, Visits p org s → s.tlv.type ≠ LLDP_TYPE_END →
    s.handled.2.info.result = .PF_PARSE_OK → s.handled.2.pos = s.reader.pos + s.tlv.len
  decoded : ∀ fuel info, parsePacket fuel p org = some (0, info) → Decoded p org info

variable {p : Packet} {org : OrgHeader} {pos : ℕ} {info info' : PeerInfo}

/-! ## The values that are stored -/

theorem Stores.chassisId_eq {type : ℕ} {value : List Byte} (h : Stores info type value info') :
    info'.chassisId = if type = LLDP_TYPE_CHASSIS_ID then
      storeId (PNET_LLDP_CHASSIS_ID_MAX_SIZE - 1) info.chassisId value else info.chassisId := by
  cases h with
  | nothing _ hchassis _ => rw [if_neg hchassis]
  | _ => rfl

theorem Stores.portId_eq {type : ℕ} {value : List Byte} (h : Stores info type value info') :
    info'.portId = if type = LLDP_TYPE_PORT_ID then
      storeId (PNET_LLDP_PORT_ID_MAX_SIZE - 1) info.portId value else info.portId := by
  cases h with
  | nothing _ _ hport => rw [if_neg hport]
  | _ => rfl

theorem Plain.zero (p : Packet) (org : OrgHeader) : Plain p org .zero where
  ttl := .inl rfl
  portDescription h := nomatch h
  managementAddress h := nomatch h
  portDelay h := nomatch h
  portStatus := .inl rfl
  macAddress := .inl rfl
  phyConfig h := nomatch h

theorem Plain.stores {type : ℕ} {value : List Byte} (h : Plain p org info)
    (hstores : Stores info type value info') (hvalue : p.HasValue org type value) :
    Plain p org info' := by
  cases hstores with
  | chassisId => exact ⟨h.1, h.2, h.3, h.4, h.5, h.6, h.7⟩
  | portId => exact ⟨h.1, h.2, h.3, h.4, h.5, h.6, h.7⟩
  | ttl ttl => exact { h with ttl := .inr hvalue }
  | portDescription string => exact { h with portDescription := fun _ => ⟨rfl, hvalue⟩ }
  | managementAddress m oid hm hlen =>
    exact { h with managementAddress := fun _ => ⟨hlen, oid, hvalue⟩ }
  | portDelay d hd => exact { h with portDelay := fun _ => hvalue }
  | portStatus status => exact { h with portStatus := .inr hvalue }
  | macAddress mac => exact { h with macAddress := .inr hvalue }
  | phyConfig flags capabilities mauType =>
    exact { h with phyConfig := fun _ => ⟨flags, capabilities, mauType, rfl, hvalue⟩ }
  | nothing => exact h

/-! ## The ids -/

/-- The stored id when the walk has come to `pos`: there is one behind the first of the right
length, and it has its own length if no later one was too long. -/
structure IdInv (p : Packet) (type maxLen pos : ℕ) (id : Id) : Prop where
  valid : id.isValid = true ↔ ∃ g, p.GoodId type maxLen g ∧ g < pos
  source : id.isValid = true → ∃ g, p.GoodId type maxLen g ∧
    Buffer.slice p.buf (g + 2) (p.tlvAt g).len = id.subtype :: id.string ∧
      g + 2 + (p.tlvAt g).len ≤ p.len
  len : id.isValid = true → (id.len = id.string.length ↔ ∀ l, p.LongId type maxLen l → l < pos →
    ∃ g, p.GoodId type maxLen g ∧ l < g ∧ g < pos)

section
variable {type maxLen n : ℕ} {id : Id}

theorem IdInv.zero : IdInv p type maxLen 0 .zero where
  valid := ⟨fun h => (nomatch h), fun h => absurd h.choose_spec.2 (Nat.not_lt_zero _)⟩
  source h := nomatch h
  len h := nomatch h

theorem IdInv.string_le (h : IdInv p type maxLen pos id) (hvalid : id.isValid = true) :
    id.string.length ≤ maxLen := by
  rcases h.source hvalid with ⟨g, hgood, hbytes, -⟩
  have hlen : (p.tlvAt g).len = id.string.length + 1 := by
    simpa using congrArg List.length hbytes
  have hle := hgood.le
  omega

/-- Below the end of the value at `pos` are the TLVs below `pos` and the one at `pos`. -/
theorem Packet.HasTlv.lt_iff {g : ℕ} (hg : p.HasTlv g) (h : Walk p byLength n pos) :
    g < pos + 2 + (p.tlvAt pos).len ↔ g < pos ∨ g = pos := by
  rcases hg with ⟨⟨m, hwalk⟩, -⟩
  rcases h.le_or_ge hwalk with hle | hge
  · omega
  · change pos + 2 + (p.tlvAt pos).len ≤ g at hge
    omega

theorem storeId_good (id : Id) {value : List Byte} (hpos : 0 < value.length)
    (hle : value.length - 1 ≤ maxLen) :
    ∃ subtype string, value = subtype :: string ∧
      storeId maxLen id value = ⟨string, subtype, true, string.length⟩ := by
  rcases value with _ | ⟨subtype, string⟩
  · exact absurd hpos (Nat.lt_irrefl 0)
  · exact ⟨subtype, string, rfl, if_neg (not_lt.mpr hle)⟩

theorem storeId_long {value : List Byte} (hlt : maxLen < value.length - 1) :
    storeId maxLen id value = { id with len := value.length - 1 } := by
  rcases value with _ | ⟨subtype, string⟩
  · exact absurd hlt (Nat.not_lt_zero _)
  · exact if_pos hlt

/-- A TLV that is no id, or is empty: nothing changes. -/
theorem IdInv.other (h : IdInv p type maxLen pos id) (hwalk : Walk p byLength n pos)
    (hgood : ¬p.GoodId type maxLen pos) (hlong : ¬p.LongId type maxLen pos) :
    IdInv p type maxLen (pos + 2 + (p.tlvAt pos).len) id := by
  have hgoods : ∀ g, p.GoodId type maxLen g →
      (g < pos + 2 + (p.tlvAt pos).len ↔ g < pos) := by
    intro g hg
    rw [hg.hasTlv.lt_iff hwalk]
    refine or_iff_left ?_
    rintro rfl
    exact hgood hg
  constructor
  · rw [h.valid]
    exact exists_congr fun g => and_congr_right fun hg => (hgoods g hg).symm
  · exact h.source
  · intro hvalid
    rw [h.len hvalid]
    refine forall_congr' fun l => forall_congr' fun hl => ?_
    have hne : l ≠ pos := by
      rintro rfl
      exact hlong hl
    rw [hl.hasTlv.lt_iff hwalk, or_iff_left hne]
    refine forall_congr' fun _ => exists_congr fun g => and_congr_right fun hg => ?_
    rw [hgoods g hg]

/-- An id of the right length replaces what was stored. -/
theorem IdInv.good (hwalk : Walk p byLength n pos) (hgood : p.GoodId type maxLen pos)
    (hfits : pos + 2 + (p.tlvAt pos).len ≤ p.len) :
    IdInv p type maxLen (pos + 2 + (p.tlvAt pos).len)
      (storeId maxLen id (Buffer.slice p.buf (pos + 2) (p.tlvAt pos).len)) := by
  have hslice := Buffer.slice_length p.buf (pos + 2) (p.tlvAt pos).len
  rcases storeId_good id (hslice ▸ hgood.nonempty) (hslice ▸ hgood.le) with
    ⟨subtype, string, hbytes, hstore⟩
  rw [hstore]
  have hlt : pos < pos + 2 + (p.tlvAt pos).len := by omega
  constructor
  · exact iff_of_true rfl ⟨pos, hgood, hlt⟩
  · exact fun _ => ⟨pos, hgood, hbytes, hfits⟩
  · refine fun _ => iff_of_true rfl fun l hl hllt => ⟨pos, hgood, ?_, hlt⟩
    rcases (hl.hasTlv.lt_iff hwalk).mp hllt with hllt | rfl
    · exact hllt
    · exact absurd hgood.le (not_le.mpr hl.lt)

/-- Of an id that is too long the length is stored. -/
theorem IdInv.long (h : IdInv p type maxLen pos id) (hwalk : Walk p byLength n pos)
    (hlong : p.LongId type maxLen pos) :
    IdInv p type maxLen (pos + 2 + (p.tlvAt pos).len)
      (storeId maxLen id (Buffer.slice p.buf (pos + 2) (p.tlvAt pos).len)) := by
  rw [storeId_long (by simpa using hlong.lt), Buffer.slice_length]
  have hgoods : ∀ g, p.GoodId type maxLen g →
      (g < pos + 2 + (p.tlvAt pos).len ↔ g < pos) := by
    intro g hg
    rw [hg.hasTlv.lt_iff hwalk]
    refine or_iff_left ?_
    rintro rfl
    exact absurd hg.le (not_le.mpr hlong.lt)
  constructor
  · rw [h.valid]
    exact exists_congr fun g => and_congr_right fun hg => (hgoods g hg).symm
  · exact h.source
  · intro hvalid
    have hle := h.string_le hvalid
    have hlt := hlong.lt
    refine iff_of_false (fun heq => ?_) fun hall => ?_
    · change (p.tlvAt pos).len - 1 = id.string.length at heq
      omega
    · rcases hall pos hlong (by omega) with ⟨g, hg, hgt, hglt⟩
      exact absurd ((hgoods g hg).mp hglt) (by omega)

theorem IdInv.next (h : IdInv p type maxLen pos id) (hwalk : Walk p byLength n pos)
    (hfits : pos + 2 + (p.tlvAt pos).len ≤ p.len) :
    IdInv p type maxLen (pos + 2 + (p.tlvAt pos).len)
      (if (p.tlvAt pos).type = type then
        storeId maxLen id (Buffer.slice p.buf (pos + 2) (p.tlvAt pos).len) else id) := by
  have htlv : p.HasTlv pos := ⟨⟨n, hwalk⟩, by omega⟩
  by_cases htype : (p.tlvAt pos).type = type
  · rw [if_pos htype]
    by_cases hempty : (p.tlvAt pos).len = 0
    · -- an empty value is ignored
      have hother := h.other hwalk (fun hg => hg.nonempty.ne' hempty)
        fun hl => absurd hl.lt (by omega)
      rw [hempty] at hother ⊢
      rw [Buffer.slice_zero]
      exact hother
    · rcases Nat.lt_or_ge maxLen ((p.tlvAt pos).len - 1) with hlt | hle
      · exact h.long hwalk ⟨htlv, htype, hlt⟩
      · exact IdInv.good hwalk ⟨htlv, htype, by omega, hle⟩ hfits
  · rw [if_neg htype]
    exact h.other hwalk (fun hg => htype hg.type) fun hl => htype hl.type

/-- At the end marker: the stored id has its own length if and only if the last one fits. -/
theorem IdInv.end_iff (h : IdInv p type maxLen pos id) (hwalk : Walk p byLength n pos)
    (hend : (p.tlvAt pos).type = LLDP_TYPE_END) (htype : type ≠ LLDP_TYPE_END) :
    (id.isValid = true → id.len = id.string.length) ↔ p.LastIdFits type maxLen := by
  have hbelow : ∀ g, p.HasTlv g → (p.tlvAt g).type = type → g < pos := by
    intro g hg hgtype
    rcases hg with ⟨⟨m, hm⟩, -⟩
    refine lt_of_le_of_ne (hwalk.le_end hend hm) ?_
    rintro rfl
    exact htype (hgtype.symm.trans hend)
  constructor
  · intro hlen good long hgood hlong
    have hvalid := h.valid.mpr ⟨good, hgood, hbelow good hgood.hasTlv hgood.type⟩
    rcases (h.len hvalid).mp (hlen hvalid) long hlong (hbelow long hlong.hasTlv hlong.type) with
      ⟨later, hlater, hlt, -⟩
    exact ⟨later, hlater, hlt⟩
  · intro hfits hvalid
    rw [h.len hvalid]
    intro long hlong _
    rcases h.valid.mp hvalid with ⟨good, hgood, -⟩
    rcases hfits good long hgood hlong with ⟨later, hlater, hlt⟩
    exact ⟨later, hlater, hlt, hbelow later hlater.hasTlv hlater.type⟩

end

/-! ## The parser on a packet that is framed -/

/-- What is stored when the walk has come to `pos`. -/
structure Inv (p : Packet) (org : OrgHeader) (pos : ℕ) (info : PeerInfo) : Prop where
  plain : Plain p org info
  chassisId : IdInv p LLDP_TYPE_CHASSIS_ID (PNET_LLDP_CHASSIS_ID_MAX_SIZE - 1) pos info.chassisId
  portId : IdInv p LLDP_TYPE_PORT_ID (PNET_LLDP_PORT_ID_MAX_SIZE - 1) pos info.portId

/-- Each TLV that is accepted fills its length. -/
def Packet.Fills (p : Packet) : Prop :=
  ∀ pos, p.HasTlv pos → p.Accepts (p.tlvAt pos) (pos + 2) →
    p.consumed (p.tlvAt pos) (pos + 2) = (p.tlvAt pos).len

theorem Packet.WellSized.fills (h : p.WellSized) : p.Fills := by
  intro pos htlv hacc
  rw [Packet.consumed]
  split
  · rename_i hmanagement
    exact (h.addresses pos htlv hmanagement.1 hacc hmanagement.2).symm
  · rfl

/-- When each TLV fills its length, the parser walks by the lengths. -/
theorem Packet.Fills.visits (hfills : p.Fills) {s : Scan} (h : Visits p org s) :
    (∃ n pos, Walk p byLength n pos ∧ s.At p pos ∧ Inv p org pos s.info) ∨ s.Failed := by
  induction h with
  | first =>
    rcases first_cases p org with ⟨hinfo, hat | ⟨-, hfailed⟩⟩
    · refine .inl ⟨0, 0, .first, hat, ?_⟩
      rw [hinfo]
      exact ⟨Plain.zero p org, IdInv.zero, IdInv.zero⟩
    · exact .inr hfailed
  | @next s hvisits hne ih =>
    rcases ih with ⟨n, pos, hwalk, hat, hinv⟩ | hfailed
    · rcases next_cases hat with ⟨hacc, -, hstores, hnext | ⟨-, hfailed⟩⟩ | ⟨-, -, hfailed⟩
      · have hne' : (p.tlvAt pos).type ≠ LLDP_TYPE_END := hat.tlv ▸ hne
        have hsize := hfills pos ⟨⟨n, hwalk⟩, hat.header⟩ hacc
        rw [hsize] at hstores hnext
        refine .inl ⟨n + 1, _, hwalk.next hat.header hne' hacc, hnext, ?_⟩
        have hfits : pos + 2 + (p.tlvAt pos).len ≤ p.len := by
          have hin := hnext.header
          omega
        have hvalue : p.HasValue org (p.tlvAt pos).type
            (Buffer.slice p.buf (pos + 2) (p.tlvAt pos).len) := by
          refine ⟨s, hvisits, by rw [hat.tlv], ?_, ?_⟩
          · rw [hat.tlv, hat.reader]
            rfl
          · rw [hat.tlv, hat.reader]
            exact hfits
        constructor
        · exact hinv.plain.stores hstores hvalue
        · rw [hstores.chassisId_eq]
          exact hinv.chassisId.next hwalk hfits
        · rw [hstores.portId_eq]
          exact hinv.portId.next hwalk hfits
      · exact .inr hfailed
      · exact .inr hfailed
    · exact absurd hfailed.type hne

/-- A packet that is framed and parsed is at the end marker of its walk. -/
theorem Packet.Fills.parsed (hfills : p.Fills) {fuel : ℕ}
    (h : parsePacket fuel p org = some (0, info)) :
    ∃ n pos, Walk p byLength n pos ∧ pos + 2 ≤ p.len ∧ (p.tlvAt pos).type = LLDP_TYPE_END ∧
      Inv p org pos info := by
  rcases Option.map_eq_some_iff.mp h with ⟨s, hloop, hanswer⟩
  rcases loop_visits .first hloop with ⟨hvisits, hend⟩
  rcases hfills.visits hvisits with ⟨n, pos, hwalk, hat, hinv⟩ | hfailed
  · refine ⟨n, pos, hwalk, hat.header, hat.tlv ▸ hend, ?_⟩
    obtain rfl : s.info = info := congrArg Prod.snd hanswer
    exact hinv
  · rw [Scan.answer, if_pos hfailed.result] at hanswer
    exact nomatch hanswer

theorem Packet.Fills.walk (hfills : p.Fills) {n : ℕ} (h : Walk p byLength n pos) :
    Walk p p.consumed n pos := by
  induction h with
  | first => exact .first
  | @next n q hwalk hin hne hacc ih =>
    have hnext := ih.next hin hne hacc
    rw [hfills q ⟨⟨n, hwalk⟩, hin⟩ hacc] at hnext
    exact hnext

/-- A TLV of the walk is seen by the parser. -/
theorem Packet.Fills.hasValue (hfills : p.Fills) (org : OrgHeader) (htlv : p.HasTlv pos)
    (hfits : pos + 2 + (p.tlvAt pos).len ≤ p.len) :
    p.HasValue org (p.tlvAt pos).type (Buffer.slice p.buf (pos + 2) (p.tlvAt pos).len) := by
  rcases htlv with ⟨⟨n, hwalk⟩, hin⟩
  rcases visits_of_walk org (hfills.walk hwalk) hin with ⟨s, hvisits, hat⟩
  refine ⟨s, hvisits, by rw [hat.tlv], ?_, ?_⟩
  · rw [hat.tlv, hat.reader]
    rfl
  · rw [hat.tlv, hat.reader]
    exact hfits

theorem IdInv.fromTlv {type maxLen : ℕ} {id : Id} (h : IdInv p type maxLen pos id)
    (hfills : p.Fills) (hlen : id.len = id.string.length) (hvalid : id.isValid = true) :
    id.FromTlv p org type := by
  rcases h.source hvalid with ⟨g, hgood, hbytes, hfits⟩
  have hvalue := hfills.hasValue org hgood.hasTlv hfits
  rw [hbytes, hgood.type] at hvalue
  exact ⟨hlen, hvalue⟩

theorem Packet.WellSized.framed (h : p.WellSized) (org : OrgHeader) : FramedByTlvs p org where
  ends := parsePacket_ends p org
  inside _ hlen hbuf fuel := parsePacket_inside hlen hbuf fuel
  exact := by
    intro s hvisits hne hok
    rcases h.fills.visits hvisits with ⟨n, pos, hwalk, hat, -⟩ | hfailed
    · rcases next_cases hat with ⟨hacc, hhandled, -⟩ | ⟨-, herr, -⟩
      · rw [hhandled, hat.reader, hat.tlv, ← h.fills pos ⟨⟨n, hwalk⟩, hat.header⟩ hacc]
        rfl
      · exact absurd hok herr
    · exact absurd hfailed.type hne
  decoded := by
    intro fuel info hparse
    rcases h.fills.parsed hparse with ⟨n, pos, hwalk, hin, hend, hinv⟩
    have hcomplete : p.Complete := ⟨pos, ⟨⟨n, hwalk⟩, hin⟩, hend⟩
    have hchassis := (hinv.chassisId.end_iff hwalk hend (by decide)).mpr (h.chassisIds hcomplete)
    have hport := (hinv.portId.end_iff hwalk hend (by decide)).mpr (h.portIds hcomplete)
    exact {
      toPlain := hinv.plain
      chassisId := fun hvalid => hinv.chassisId.fromTlv h.fills (hchassis hvalid) hvalid
      portId := fun hvalid => hinv.portId.fromTlv h.fills (hport hvalid) hvalid }

/-! ## The other direction -/

theorem visits_loop {s : Scan} (h : Visits p org s) :
    ∃ k, ∀ fuel, loop (fuel + k) (p.first org) = loop fuel s := by
  induction h with
  | first => exact ⟨0, fun _ => rfl⟩
  | @next s _ hne ih =>
    rcases ih with ⟨k, hk⟩
    refine ⟨k + 1, fun fuel => ?_⟩
    rw [show fuel + (k + 1) = fuel + 1 + k by omega, hk, loop, if_neg hne]

/-- Where the parser has come by the lengths, the next TLV fills its length, too. -/
theorem FramedByTlvs.consumed {n : ℕ} (h : FramedByTlvs p org) (hwalk : Walk p p.consumed n pos)
    (hin : pos + 2 ≤ p.len) (hne : (p.tlvAt pos).type ≠ LLDP_TYPE_END)
    (hacc : p.Accepts (p.tlvAt pos) (pos + 2)) :
    p.consumed (p.tlvAt pos) (pos + 2) = (p.tlvAt pos).len := by
  rcases visits_of_walk org hwalk hin with ⟨s, hvisits, hat⟩
  rcases next_cases hat with ⟨-, hhandled, -⟩ | ⟨hrej, -⟩
  · have hpos := h.exact s hvisits (hat.tlv ▸ hne) (by rw [hhandled]; rfl)
    rw [hhandled, hat.reader, hat.tlv] at hpos
    change pos + 2 + _ = pos + 2 + _ at hpos
    omega
  · exact absurd hacc hrej

theorem FramedByTlvs.walk {n : ℕ} (h : FramedByTlvs p org) (hwalk : Walk p byLength n pos) :
    Walk p p.consumed n pos := by
  induction hwalk with
  | first => exact .first
  | @next n q _ hin hne hacc ih =>
    have hnext := ih.next hin hne hacc
    rw [h.consumed ih hin hne hacc] at hnext
    exact hnext

theorem FramedByTlvs.fills (h : FramedByTlvs p org) : p.Fills := by
  intro pos htlv hacc
  rcases htlv with ⟨⟨n, hwalk⟩, hin⟩
  by_cases hend : (p.tlvAt pos).type = LLDP_TYPE_END
  · exact if_neg fun hmanagement => absurd (hend.symm.trans hmanagement.1) (by decide)
  · exact h.consumed (h.walk hwalk) hin hend hacc

/-- A complete packet is parsed. -/
theorem Packet.Fills.success (hfills : p.Fills) (h : p.Complete) (org : OrgHeader) :
    ∃ fuel info, parsePacket fuel p org = some (0, info) := by
  rcases h with ⟨pos, ⟨⟨n, hwalk⟩, hin⟩, hend⟩
  rcases visits_of_walk org (hfills.walk hwalk) hin with ⟨s, hvisits, hat⟩
  rcases visits_loop hvisits with ⟨k, hk⟩
  refine ⟨1 + k, s.info, ?_⟩
  rw [parsePacket, hk, loop, if_pos (by rw [hat.tlv]; exact hend), Option.map_some, Scan.answer,
    hat.reader]
  rfl

theorem FramedByTlvs.wellSized (h : FramedByTlvs p org) : p.WellSized := by
  have hids : p.Complete →
      p.LastIdFits LLDP_TYPE_CHASSIS_ID (PNET_LLDP_CHASSIS_ID_MAX_SIZE - 1) ∧
        p.LastIdFits LLDP_TYPE_PORT_ID (PNET_LLDP_PORT_ID_MAX_SIZE - 1) := by
    intro hcomplete
    rcases h.fills.success hcomplete org with ⟨fuel, info, hparse⟩
    have hdecoded := h.decoded fuel info hparse
    rcases h.fills.parsed hparse with ⟨n, pos, hwalk, -, hend, hinv⟩
    exact ⟨(hinv.chassisId.end_iff hwalk hend (by decide)).mp fun hvalid =>
        (hdecoded.chassisId hvalid).1,
      (hinv.portId.end_iff hwalk hend (by decide)).mp fun hvalid => (hdecoded.portId hvalid).1⟩
  constructor
  · intro pos htlv htype hacc hfits
    rw [← h.fills pos htlv hacc, Packet.consumed, if_pos ⟨htype, hfits⟩]
  · exact fun hcomplete => (hids hcomplete).1
  · exact fun hcomplete => (hids hcomplete).2

/-- A packet is framed by its TLVs if and only if its management addresses and its ids have the
right sizes. -/
theorem framedByTlvs_iff_wellSized (p : Packet) (org : OrgHeader) :
    FramedByTlvs p org ↔ p.WellSized := by
  constructor
  · exact FramedByTlvs.wellSized
  · exact fun h => h.framed org

/-- The bytes of a packet as a list. -/
def Packet.ofBytes (bs : List Byte) (h : bs.length ≤ PNAL_BUF_MAX_SIZE) : Packet :=
  ⟨fun i => (bs[i]?).getD 0, bs.length, h⟩

/-- A management address whose object identifier is said to be four bytes long, and is missing. -/
def longAddress : List Byte :=
  [0x10, 0x0c, 5, 1, 192, 168, 0, 1, 2, 0, 0, 0, 1, 4, 0, 0, 0, 0, 0, 0]

theorem longAddress_length_le : longAddress.length ≤ PNAL_BUF_MAX_SIZE := by decide

/-- The parser takes the four bytes from behind the TLV. -/
theorem not_framedByTlvs_longAddress :
    ¬FramedByTlvs (.ofBytes longAddress longAddress_length_le) ⟨Vector.replicate 3 0, 0⟩ := by
  intro h
  have hexact := h.exact _ .first (by decide) (by decide)
  exact absurd hexact (by decide)

end PNet.Lldp
