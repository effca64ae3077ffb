import PNet.Lldp.Parse

/-! # What the parser does with a TLV

Between the TLVs the parser of a packet is `p.reader pos`, until the first error. `handle_reader`
says what the switch does with one TLV there: whether it is accepted, how many bytes are consumed
and what is stored, all in terms of the bytes of the packet.
-/

namespace PNet.Lldp

open Block

variable {p : Packet} {pos : ℕ}

/-! ## The parser without an error -/

def Packet.reader (p : Packet) (pos : ℕ) : Reader := ⟨⟨.PF_PARSE_OK, true, p.buf, p.len⟩, pos⟩

theorem Packet.run_reads {α : Type} {g : Get α} {bs : List Byte} {v : α}
    (hg : Reads true g bs v true) (hs : Buffer.slice p.buf pos bs.length = bs)
    (hlen : pos + bs.length ≤ p.len) : g (p.reader pos) = (v, p.reader (pos + bs.length)) :=
  hg (p.reader pos) rfl rfl hs hlen

theorem Packet.run_errs {α : Type} {g : Get α} {n : ℕ} (hg : Exact n g) (hpos : pos ≤ p.len)
    (hlen : ¬pos + n ≤ p.len) : (g (p.reader pos)).2.info.result ≠ .PF_PARSE_OK :=
  hg.errs _ (.inr ⟨hpos, not_le.mp hlen⟩)

theorem skip_reader {n : ℤ} (stop : ℕ) (hstop : (pos + n : ℤ) = stop) (hlt : stop < 2 ^ 16) :
    skip n (p.reader pos) = ((), p.reader stop) := by
  have hpos : ((pos + n : ℤ) % 65536).toNat = stop := by omega
  rw [skip]
  show ((), (⟨_, ((pos + n : ℤ) % 65536).toNat⟩ : Reader)) = _
  rw [hpos]
  rfl

theorem parseError_ne_ok (r : Reader) : (parseError r).2.info.result ≠ .PF_PARSE_OK :=
  fun h => nomatch h

/-! ## What a value says -/

/-- The header of the TLV at `pos`. -/
def Packet.tlvAt (p : Packet) (pos : ℕ) : Tlv := .ofHead (join2 (p.buf pos) (p.buf (pos + 1)))

/-- The length of the management address string with its subtype is one that is allowed. -/
def addressFits (stringLen : Byte) : Prop := 2 ≤ stringLen.toNat ∧ stringLen.toNat ≤ 32

instance (stringLen : Byte) : Decidable (addressFits stringLen) :=
  inferInstanceAs (Decidable (_ ∧ _))

/-- The length that an organizational TLV must have, by its identifier and its subtype. -/
def orgWanted (id : Vector Byte 3) (subtype : Byte) : Option ℕ :=
  if orgIdPnio = id then
    if subtype = LLDP_PNIO_SUBTYPE_MEAS_DELAY_VALUES then
      some LLDP_PNIO_SUBTYPE_MEAS_DELAY_VALUES_TLV_LEN
    else if subtype = LLDP_PNIO_SUBTYPE_PORT_STATUS then
      some LLDP_PNIO_SUBTYPE_PORT_STATUS_TLV_LEN
    else if subtype = LLDP_PNIO_SUBTYPE_CHASSIS_MAC then
      some LLDP_PNIO_SUBTYPE_CHASSIS_MAC_TLV_LEN
    else none
  else if orgIdIeee8023 = id ∧ subtype = LLDP_IEEE_SUBTYPE_MAC_PHY then
    some LLDP_IEEE_SUBTYPE_MAC_PHY_TLV_LEN
  else none

/-- The organizational header at `v`. -/
def Packet.orgAt (p : Packet) (v : ℕ) : OrgHeader :=
  ⟨Vector.ofFn fun i => p.buf (v + i), p.buf (v + 3)⟩

/-- The parser goes on behind a TLV whose value starts at `v`. -/
def Packet.Accepts (p : Packet) (tlv : Tlv) (v : ℕ) : Prop :=
  match tlv.type with
  | LLDP_TYPE_CHASSIS_ID =>
    tlv.len = 0 ∨ PNET_LLDP_CHASSIS_ID_MAX_SIZE - 1 < tlv.len - 1 ∨ v + tlv.len ≤ p.len
  | LLDP_TYPE_PORT_ID =>
    tlv.len = 0 ∨ PNET_LLDP_PORT_ID_MAX_SIZE - 1 < tlv.len - 1 ∨ v + tlv.len ≤ p.len
  | LLDP_TYPE_TTL => tlv.len = 2 ∧ v + tlv.len ≤ p.len
  | LLDP_TYPE_PORT_DESCRIPTION =>
    PNET_MAX_PORT_DESCRIPTION_SIZE - 1 < tlv.len ∨ v + tlv.len ≤ p.len
  | LLDP_TYPE_MANAGEMENT_ADDRESS =>
    v + 1 ≤ p.len ∧ (addressFits (p.buf v) → v + (7 + (p.buf v).toNat) ≤ p.len)
  | LLDP_TYPE_ORG_SPEC =>
    v + 4 ≤ p.len ∧ ∀ wanted ∈ orgWanted (p.orgAt v).id (p.orgAt v).subtype,
      tlv.len = wanted ∧ v + tlv.len ≤ p.len
  | _ => True

/-- The bytes that the parser consumes of a value that starts at `v`: a management address is as
long as its own lengths say. -/
def Packet.consumed (p : Packet) (tlv : Tlv) (v : ℕ) : ℕ :=
  if tlv.type = LLDP_TYPE_MANAGEMENT_ADDRESS ∧ addressFits (p.buf v) then
    7 + (p.buf v).toNat + (p.buf (v + 6 + (p.buf v).toNat)).toNat
  else tlv.len

/-- The bytes that a signal delay stands for. -/
def SignalDelay.bytes (d : SignalDelay) : List Byte :=
  bytes32 true d.rxDelayLocal ++ (bytes32 true d.rxDelayRemote ++
    (bytes32 true d.txDelayLocal ++ (bytes32 true d.txDelayRemote ++
      bytes32 true d.cableDelayLocal)))

/-- The value bytes of a management address, with the length and the text of its object
identifier. -/
def ManagementAddress.bytes (m : ManagementAddress) (oid : List Byte) : List Byte :=
  BitVec.ofNat 8 (m.value.length + 1) :: m.subtype :: (m.value ++
    m.interfaceNumber.subtype :: (bytes32 true m.interfaceNumber.value ++
      BitVec.ofNat 8 oid.length :: oid))

/-- The link status that a byte of flags and two numbers stand for. -/
def LinkStatus.ofFlags (anegSupportStatus : Byte) (capabilities mauType : BitVec 16) :
    LinkStatus :=
  ⟨anegSupportStatus &&& LLDP_AUTONEG_SUPPORTED != 0,
    anegSupportStatus &&& LLDP_AUTONEG_ENABLED != 0, capabilities, mauType, true⟩

/-- What is stored of an id: of one that is too long its length. -/
def storeId (maxLen : ℕ) (id : Id) : List Byte → Id
  | [] => id
  | subtype :: string =>
    if maxLen < string.length then { id with len := string.length }
    else ⟨string, subtype, true, string.length⟩

/-- What a TLV may store, given the bytes that are consumed of its value. -/
inductive Stores (info : PeerInfo) : ℕ → List Byte → PeerInfo → Prop
  | chassisId (value : List Byte) : Stores info LLDP_TYPE_CHASSIS_ID value
      { info with
        chassisId := storeId (PNET_LLDP_CHASSIS_ID_MAX_SIZE - 1) info.chassisId value }
  | portId (value : List Byte) : Stores info LLDP_TYPE_PORT_ID value
      { info with portId := storeId (PNET_LLDP_PORT_ID_MAX_SIZE - 1) info.portId value }
  | ttl (ttl : BitVec 16) : Stores info LLDP_TYPE_TTL (bytes16 true ttl) { info with ttl }
  | portDescription (string : List Byte) : Stores info LLDP_TYPE_PORT_DESCRIPTION string
      { info with portDescription := ⟨string, true, string.length⟩ }
  | managementAddress (m : ManagementAddress) (oid : List Byte) (hm : m.isIpv4)
      (hlen : m.len = m.value.length) :
      Stores info LLDP_TYPE_MANAGEMENT_ADDRESS (m.bytes oid) { info with managementAddress := m }
  | portDelay (d : SignalDelay) (hd : d.isValid) :
      Stores info LLDP_TYPE_ORG_SPEC
        (orgIdPnio.toList ++ LLDP_PNIO_SUBTYPE_MEAS_DELAY_VALUES :: d.bytes)
        { info with portDelay := d }
  | portStatus (status : Vector Byte 4) : Stores info LLDP_TYPE_ORG_SPEC
      (orgIdPnio.toList ++ LLDP_PNIO_SUBTYPE_PORT_STATUS :: status.toList)
      { info with portStatus := status }
  | macAddress (mac : Vector Byte 6) : Stores info LLDP_TYPE_ORG_SPEC
      (orgIdPnio.toList ++ LLDP_PNIO_SUBTYPE_CHASSIS_MAC :: mac.toList)
      { info with macAddress := mac }
  | phyConfig (flags : Byte) (capabilities mauType : BitVec 16) : Stores info LLDP_TYPE_ORG_SPEC
      (orgIdIeee8023.toList ++ LLDP_IEEE_SUBTYPE_MAC_PHY :: flags ::
        (bytes16 true capabilities ++ bytes16 true mauType))
      { info with phyConfig := .ofFlags flags capabilities mauType }
  | nothing {type : ℕ} (value : List Byte) (hchassis : type ≠ LLDP_TYPE_CHASSIS_ID)
      (hport : type ≠ LLDP_TYPE_PORT_ID) : Stores info type value info

/-! ## The parsers of the TLVs -/

/-- A list of bytes is cut where the getters of a parser meet. -/
theorem exists_vector {bs : List Byte} {n : ℕ} (h : bs.length = n) :
    ∃ v : Vector Byte n, bs = v.toList := by
  subst h
  exact ⟨⟨bs.toArray, by simp⟩, by simp⟩

section Id

variable {maxLen tlvLen : ℕ} {id : Id}

theorem reads_id {subtype : Byte} {string : List Byte} (h : string.length ≤ maxLen) :
    Reads true (getId maxLen (string.length + 1) id) (subtype :: string)
      ⟨string, subtype, true, string.length⟩ true := by
  rw [getId, if_neg (by omega), if_neg (by omega)]
  have hrest := (reads_bytes true id.string string).map fun v =>
    (⟨v.take string.length, subtype, true, string.length⟩ : Id)
  rw [List.take_length] at hrest
  exact (reads_byte true subtype).bind hrest

theorem exact_id (h0 : tlvLen ≠ 0) (h : tlvLen - 1 ≤ maxLen) :
    Exact tlvLen (getId maxLen tlvLen id) := by
  rw [getId, if_neg h0, if_neg (by omega)]
  have hlen : tlvLen = 1 + (tlvLen - 1) := by omega
  have hexact : Exact (1 + (tlvLen - 1)) (do
      let subtype ← getByte
      let string ← getBytes id.string (tlvLen - 1)
      return (⟨string.take (tlvLen - 1), subtype, true, tlvLen - 1⟩ : Id)) :=
    exact_byte.bind fun _ => (exact_bytes _ _).map _
  rw [← hlen] at hexact
  exact hexact

theorem getId_reader (hlt : pos + tlvLen < 2 ^ 16)
    (hacc : tlvLen = 0 ∨ maxLen < tlvLen - 1 ∨ pos + tlvLen ≤ p.len) :
    getId maxLen tlvLen id (p.reader pos) =
      (storeId maxLen id (Buffer.slice p.buf pos tlvLen), p.reader (pos + tlvLen)) := by
  by_cases h0 : tlvLen = 0
  · rw [h0, getId, if_pos rfl, Buffer.slice_zero]
    rfl
  · rcases hs : Buffer.slice p.buf pos tlvLen with _ | ⟨subtype, string⟩
    · exact absurd (congrArg List.length hs) (by simpa using h0)
    · have hlen : tlvLen = string.length + 1 := by simpa using congrArg List.length hs
      by_cases hmax : maxLen < tlvLen - 1
      · rw [getId, if_neg h0, if_pos hmax, storeId, if_pos (by omega)]
        show (_, (skip tlvLen (p.reader pos)).2) = _
        rw [skip_reader (pos + tlvLen) (by omega) hlt, hlen]
        rfl
      · have hfits := (hacc.resolve_left h0).resolve_left hmax
        rw [storeId, if_neg (by omega), hlen]
        rw [hlen] at hs hfits
        exact p.run_reads (reads_id (by omega)) hs hfits

theorem getId_errs (hpos : pos ≤ p.len)
    (hacc : ¬(tlvLen = 0 ∨ maxLen < tlvLen - 1 ∨ pos + tlvLen ≤ p.len)) :
    (getId maxLen tlvLen id (p.reader pos)).2.info.result ≠ .PF_PARSE_OK := by
  rw [not_or, not_or, not_lt] at hacc
  exact p.run_errs (exact_id hacc.1 hacc.2.1) hpos hacc.2.2

end Id

section
variable {tlvLen : ℕ}

theorem getTtl_reader {ttl : BitVec 16} (h2 : tlvLen = 2) (hfits : pos + tlvLen ≤ p.len) :
    ∃ v, Buffer.slice p.buf pos tlvLen = bytes16 true v ∧
      getTtl tlvLen ttl (p.reader pos) = (v, p.reader (pos + tlvLen)) := by
  subst h2
  rcases exists_bytes16 (Buffer.slice_length p.buf pos 2) with ⟨v, hv⟩
  refine ⟨v, hv, ?_⟩
  rw [getTtl, if_neg (by simp)]
  exact p.run_reads (reads_uint16 true v) hv hfits

theorem getTtl_errs {ttl : BitVec 16} (hpos : pos ≤ p.len)
    (hacc : ¬(tlvLen = 2 ∧ pos + tlvLen ≤ p.len)) :
    (getTtl tlvLen ttl (p.reader pos)).2.info.result ≠ .PF_PARSE_OK := by
  rw [getTtl]
  by_cases h2 : tlvLen = 2
  · rw [if_neg (by simp [h2])]
    exact p.run_errs exact_uint16 hpos fun h => hacc ⟨h2, h2 ▸ h⟩
  · rw [if_pos h2]
    exact parseError_ne_ok _

theorem getPortDescription_reader {d : PortDescription} (hlt : pos + tlvLen < 2 ^ 16)
    (hacc : PNET_MAX_PORT_DESCRIPTION_SIZE - 1 < tlvLen ∨ pos + tlvLen ≤ p.len) :
    getPortDescription tlvLen d (p.reader pos) =
      (if PNET_MAX_PORT_DESCRIPTION_SIZE - 1 < tlvLen then d
        else ⟨Buffer.slice p.buf pos tlvLen, true, tlvLen⟩, p.reader (pos + tlvLen)) := by
  by_cases hmax : PNET_MAX_PORT_DESCRIPTION_SIZE - 1 < tlvLen
  · rw [getPortDescription, if_pos hmax, if_pos hmax]
    show (_, (skip tlvLen (p.reader pos)).2) = _
    rw [skip_reader (pos + tlvLen) (by omega) hlt]
  · have hs := Buffer.slice_length p.buf pos tlvLen
    generalize hbs : Buffer.slice p.buf pos tlvLen = string at hs
    subst hs
    have hreads := (reads_bytes true d.string string).map fun v =>
      (⟨v.take string.length, true, string.length⟩ : PortDescription)
    rw [List.take_length] at hreads
    rw [getPortDescription, if_neg hmax, if_neg hmax]
    exact p.run_reads hreads hbs (hacc.resolve_left hmax)

theorem getPortDescription_errs {d : PortDescription} (hpos : pos ≤ p.len)
    (hacc : ¬(PNET_MAX_PORT_DESCRIPTION_SIZE - 1 < tlvLen ∨ pos + tlvLen ≤ p.len)) :
    (getPortDescription tlvLen d (p.reader pos)).2.info.result ≠ .PF_PARSE_OK := by
  rw [not_or] at hacc
  rw [getPortDescription, if_neg hacc.1]
  exact p.run_errs ((exact_bytes _ _).map _) hpos hacc.2

/-! ### The management address -/

/-- What is read of an address between its string length and its object identifier. -/
def addressFields (len : ℕ) : Get (ManagementAddress × Byte) := do
  let subtype ← getByte
  let value ← getBytes (List.replicate len 0) len
  let interfaceSubtype ← getByte
  let interfaceValue ← getUint32
  let oidLen ← getByte
  return (⟨value, subtype, len, ⟨interfaceValue, interfaceSubtype⟩, true⟩, oidLen)

theorem getByte_reader (hin : pos + 1 ≤ p.len) :
    getByte (p.reader pos) = (p.buf pos, p.reader (pos + 1)) :=
  p.run_reads (reads_byte true (p.buf pos)) (by simp [Buffer.slice]) hin

/-- The parser behind the string length. -/
def addressRest (tlvLen : ℕ) (stringLen : Byte) : Get ManagementAddress := do
  if stringLen.toNat < 2 ∨ 32 < stringLen.toNat then
    skip (tlvLen - 1)
    return { ManagementAddress.zero with len := (stringLen.setWidth 64 - 1#64).toNat }
  else
    let fields ← addressFields (stringLen.toNat - 1)
    skip fields.2.toNat
    return fields.1

theorem getManagementAddress_eq : getManagementAddress tlvLen = getByte >>= addressRest tlvLen := rfl

theorem getManagementAddress_run (hin : pos + 1 ≤ p.len) :
    getManagementAddress tlvLen (p.reader pos) =
      addressRest tlvLen (p.buf pos) (p.reader (pos + 1)) := by
  rw [getManagementAddress_eq]
  show addressRest tlvLen (getByte (p.reader pos)).1 (getByte (p.reader pos)).2 = _
  rw [getByte_reader hin]

theorem exact_addressFields (len : ℕ) : Exact (1 + (len + (1 + (4 + (1 + 0))))) (addressFields len) :=
  exact_byte.bind fun _ => (exact_bytes _ _).bind fun _ => exact_byte.bind fun _ =>
    exact_uint32.bind fun _ => exact_byte.bind fun _ => Exact.pure _

theorem reads_addressFields (m : ManagementAddress) (oidLen : Byte) (hm : m.isValid)
    (hlen : m.len = m.value.length) :
    Reads true (addressFields m.value.length)
      ([m.subtype] ++ (m.value ++ ([m.interfaceNumber.subtype] ++
        (bytes32 true m.interfaceNumber.value ++ ([oidLen] ++ []))))) (m, oidLen) true := by
  rcases m with ⟨value, subtype, len, ⟨number, interfaceSubtype⟩, isValid⟩
  obtain rfl : isValid = true := hm
  obtain rfl : len = value.length := hlen
  exact (reads_byte true subtype).bind ((reads_bytes true _ value).bind
    ((reads_byte true interfaceSubtype).bind ((reads_uint32 true number).bind
      ((reads_byte true oidLen).bind (Reads.pure true _)))))

/-- A string length that is not allowed: the TLV is skipped. -/
theorem getManagementAddress_skip (hlt : pos + tlvLen < 2 ^ 16) (hin : pos + 1 ≤ p.len)
    (hunfit : ¬addressFits (p.buf pos)) :
    ∃ m : ManagementAddress, m.isIpv4 = false ∧
      getManagementAddress tlvLen (p.reader pos) = (m, p.reader (pos + tlvLen)) := by
  rw [addressFits, not_and_or, not_le, not_le] at hunfit
  refine ⟨{ ManagementAddress.zero with len := ((p.buf pos).setWidth 64 - 1#64).toNat }, rfl, ?_⟩
  rw [getManagementAddress_run hin, addressRest, if_pos (by omega)]
  show (_, (skip (tlvLen - 1) (p.reader (pos + 1))).2) = _
  rw [skip_reader (pos + tlvLen) (by push_cast; omega) hlt]

theorem slice_cons (b : ℕ → Byte) (pos n : ℕ) :
    Buffer.slice b pos (n + 1) = b pos :: Buffer.slice b (pos + 1) n := by
  rw [Nat.add_comm, Buffer.slice_add]
  simp [Buffer.slice]

/-- The pieces of a management address of `n` bytes with an object identifier of `k`. -/
theorem slice_address (b : ℕ → Byte) (pos n k : ℕ) :
    Buffer.slice b pos (n + 8 + k) = b pos :: b (pos + 1) :: (Buffer.slice b (pos + 2) n ++
      b (pos + 2 + n) :: (Buffer.slice b (pos + 3 + n) 4 ++
        b (pos + 7 + n) :: Buffer.slice b (pos + 8 + n) k)) := by
  have hlen : n + 8 + k = n + (4 + (k + 1) + 1) + 1 + 1 := by omega
  rw [hlen, slice_cons, slice_cons, Buffer.slice_add, slice_cons, Buffer.slice_add, slice_cons _ _ k,
    show pos + 1 + 1 = pos + 2 from rfl, show pos + 2 + n + 1 = pos + 3 + n by omega,
    show pos + 3 + n + 4 = pos + 7 + n by omega, show pos + 7 + n + 1 = pos + 8 + n by omega]

/-- The fields are read, and the object identifier is skipped. -/
theorem getManagementAddress_fields (m : ManagementAddress) (oidLen : Byte) (hm : m.isValid)
    (hlen : m.len = m.value.length) (hfits : addressFits (p.buf pos))
    (hn : (p.buf pos).toNat = m.value.length + 1)
    (hbytes : Buffer.slice p.buf (pos + 1) (m.value.length + 7) =
      m.subtype :: (m.value ++ m.interfaceNumber.subtype ::
        (bytes32 true m.interfaceNumber.value ++ [oidLen])))
    (hin : pos + (m.value.length + 8) ≤ p.len) :
    getManagementAddress tlvLen (p.reader pos) =
      (m, p.reader (pos + (m.value.length + 8 + oidLen.toNat))) := by
  have hmax : p.len ≤ 1522 := p.len_le
  have hoid := oidLen.isLt
  have hfields := p.run_reads (reads_addressFields m oidLen hm hlen)
    (by simpa using hbytes) (by simp; omega)
  rw [addressFits, hn] at hfits
  rw [getManagementAddress_run (by omega), addressRest, hn, if_neg (by omega), Nat.add_sub_cancel]
  show ((addressFields m.value.length (p.reader (pos + 1))).1.1,
    (skip (addressFields m.value.length (p.reader (pos + 1))).1.2.toNat
      (addressFields m.value.length (p.reader (pos + 1))).2).2) = _
  rw [hfields, skip_reader (pos + (m.value.length + 8 + oidLen.toNat))]
  · simp
    omega
  · omega

/-- A string length that is allowed: the address is as long as its lengths say. -/
theorem getManagementAddress_reader (tlvLen : ℕ) (hfits : addressFits (p.buf pos))
    (hin : pos + (7 + (p.buf pos).toNat) ≤ p.len) :
    ∃ (m : ManagementAddress) (oid : List Byte), m.isValid ∧ m.len = m.value.length ∧
      Buffer.slice p.buf pos (7 + (p.buf pos).toNat +
        (p.buf (pos + 6 + (p.buf pos).toNat)).toNat) = m.bytes oid ∧
      getManagementAddress tlvLen (p.reader pos) = (m, p.reader (pos + (7 + (p.buf pos).toNat +
        (p.buf (pos + 6 + (p.buf pos).toNat)).toNat))) := by
  rcases Nat.exists_eq_add_of_le' hfits.1 with ⟨n', hn'⟩
  obtain ⟨n, hn⟩ : ∃ n, (p.buf pos).toNat = n + 1 := ⟨n' + 1, hn'⟩
  rw [hn, show pos + 6 + (n + 1) = pos + 7 + n by omega]
  rw [hn] at hin
  generalize hoid : p.buf (pos + 7 + n) = oidLen
  rcases exists_bytes32 (Buffer.slice_length p.buf (pos + 3 + n) 4) with ⟨number, hnumber⟩
  have hbytes := slice_address p.buf pos n oidLen.toNat
  rw [hnumber, hoid] at hbytes
  let m : ManagementAddress := ⟨Buffer.slice p.buf (pos + 2) n, p.buf (pos + 1), n,
    ⟨number, p.buf (pos + 2 + n)⟩, true⟩
  refine ⟨m, Buffer.slice p.buf (pos + 8 + n) oidLen.toNat, rfl, by simp [m], ?_, ?_⟩
  · rw [show 7 + (n + 1) = n + 8 by omega, hbytes, ManagementAddress.bytes]
    simp only [m, Buffer.slice_length, ← hn, BitVec.ofNat_toNat, BitVec.setWidth_eq]
  · have hslice := slice_address p.buf pos n 0
    rw [slice_cons _ _ (n + 7), hnumber, hoid, Buffer.slice_zero] at hslice
    rw [getManagementAddress_fields m oidLen rfl (by simp [m]) hfits (by simpa [m] using hn)
      (by simpa [m] using (List.cons.inj hslice).2) (by simp [m]; omega), show m.value.length = n by simp [m],
      show n + 8 + oidLen.toNat = 7 + (n + 1) + oidLen.toNat by omega]

theorem getManagementAddress_errs (hpos : pos ≤ p.len)
    (hacc : ¬(pos + 1 ≤ p.len ∧
      (addressFits (p.buf pos) → pos + (7 + (p.buf pos).toNat) ≤ p.len))) :
    (getManagementAddress tlvLen (p.reader pos)).2.info.result ≠ .PF_PARSE_OK := by
  by_cases hin : pos + 1 ≤ p.len
  · rw [not_and, Classical.not_imp] at hacc
    rcases hacc hin with ⟨hfits, hlen⟩
    rw [addressFits] at hfits
    rw [getManagementAddress_run hin, addressRest, if_neg (by omega)]
    apply errs_bind
    · exact p.run_errs (exact_addressFields ((p.buf pos).toNat - 1)) hin (by omega)
    · exact fun _ _ hr => hr
  · rw [getManagementAddress_eq]
    apply errs_bind
    · exact p.run_errs exact_byte hpos hin
    · intro stringLen
      rw [addressRest]
      split
      · exact fun _ hr => hr
      · exact (exact_addressFields _).keepsError.bind fun _ _ hr => hr

/-! ### Organizationally specific values -/

theorem exact_orgHeader (org : OrgHeader) : Exact (3 + (1 + 0)) (getOrgHeader org) :=
  (exact_mem _).bind fun _ => exact_byte.bind fun _ => Exact.pure _

theorem getOrgHeader_reader {org : OrgHeader} (hin : pos + 4 ≤ p.len) :
    getOrgHeader org (p.reader pos) = (p.orgAt pos, p.reader (pos + 4)) := by
  have hreads : Reads true (getOrgHeader org)
      ((p.orgAt pos).id.toList ++ ([(p.orgAt pos).subtype] ++ [])) (p.orgAt pos) true :=
    (reads_mem true org.id _).bind ((reads_byte true _).bind (Reads.pure true _))
  apply p.run_reads hreads
  · simp [Packet.orgAt, slice_cons, Vector.toList_ofFn, List.ofFn_succ]
  · simpa using hin

/-- The value of an organizationally specific TLV starts with its header. -/
theorem slice_org (n : ℕ) : Buffer.slice p.buf pos (n + 4) =
    (p.orgAt pos).id.toList ++ (p.orgAt pos).subtype :: Buffer.slice p.buf (pos + 4) n := by
  simp [Packet.orgAt, slice_cons, Vector.toList_ofFn, List.ofFn_succ]

theorem exists_signalDelay (b : ℕ → Byte) (v : ℕ) :
    ∃ d : SignalDelay, d.isValid ∧ Buffer.slice b v 20 = d.bytes := by
  rcases exists_bytes32 (Buffer.slice_length b v 4) with ⟨rxLocal, h0⟩
  rcases exists_bytes32 (Buffer.slice_length b (v + 4) 4) with ⟨rxRemote, h1⟩
  rcases exists_bytes32 (Buffer.slice_length b (v + 4 + 4) 4) with ⟨txLocal, h2⟩
  rcases exists_bytes32 (Buffer.slice_length b (v + 4 + 4 + 4) 4) with ⟨txRemote, h3⟩
  rcases exists_bytes32 (Buffer.slice_length b (v + 4 + 4 + 4 + 4) 4) with ⟨cable, h4⟩
  refine ⟨⟨rxLocal, rxRemote, txLocal, txRemote, cable, true⟩, rfl, ?_⟩
  rw [show 20 = 4 + (4 + (4 + (4 + 4))) from rfl, Buffer.slice_add, Buffer.slice_add,
    Buffer.slice_add, Buffer.slice_add, h0, h1, h2, h3, h4]
  rfl

theorem reads_signalDelay {d delay : SignalDelay} (hd : d.isValid) :
    Reads true (getSignalDelay LLDP_PNIO_SUBTYPE_MEAS_DELAY_VALUES_TLV_LEN delay) d.bytes d
      true := by
  rcases d with ⟨a, b, c, d, e, isValid⟩
  obtain rfl : isValid = true := hd
  rw [getSignalDelay, if_neg (by simp)]
  exact (reads_uint32 true a).bind ((reads_uint32 true b).bind ((reads_uint32 true c).bind
    ((reads_uint32 true d).bind ((reads_uint32 true e).map _))))

theorem exists_linkStatus (b : ℕ → Byte) (v : ℕ) :
    ∃ (flags : Byte) (capabilities mauType : BitVec 16), Buffer.slice b v 5 =
      flags :: (bytes16 true capabilities ++ bytes16 true mauType) := by
  rcases exists_bytes16 (Buffer.slice_length b (v + 1) 2) with ⟨capabilities, h0⟩
  rcases exists_bytes16 (Buffer.slice_length b (v + 1 + 2) 2) with ⟨mauType, h1⟩
  refine ⟨b v, capabilities, mauType, ?_⟩
  rw [slice_cons, show 4 = 2 + 2 from rfl, Buffer.slice_add, h0, h1]

theorem reads_linkStatus (flags : Byte) (capabilities mauType : BitVec 16) :
    Reads true (getLinkStatus LLDP_IEEE_SUBTYPE_MAC_PHY_TLV_LEN)
      (flags :: (bytes16 true capabilities ++ bytes16 true mauType))
      (.ofFlags flags capabilities mauType) true := by
  rw [getLinkStatus, if_neg (by simp)]
  exact (reads_byte true flags).bind ((reads_uint16 true capabilities).bind
    ((reads_uint16 true mauType).map _))

/-- A getter of the whole rest of the value, whose answer is stored. -/
theorem org_stores {α : Type} {n : ℕ} {g : Get α} {bs : List Byte} {v : α} {info : PeerInfo}
    (hg : Reads true g bs v true) (hn : bs.length = n)
    (hbytes : Buffer.slice p.buf (pos + 4) n = bs) (hfits : pos + (n + 4) ≤ p.len)
    (f : α → PeerInfo) (hstores : Stores info LLDP_TYPE_ORG_SPEC
      ((p.orgAt pos).id.toList ++ (p.orgAt pos).subtype :: bs) (f v)) :
    ∃ info', (do
        let x ← g
        return f x : Get PeerInfo) (p.reader (pos + 4)) = (info', p.reader (pos + (n + 4))) ∧
      Stores info LLDP_TYPE_ORG_SPEC (Buffer.slice p.buf pos (n + 4)) info' := by
  subst hn
  refine ⟨f v, ?_, ?_⟩
  · rw [p.run_reads (hg.map f) hbytes (by omega),
      show pos + 4 + bs.length = pos + (bs.length + 4) by omega]
  · rw [slice_org, hbytes]
    exact hstores

theorem reads_fixed {n : ℕ} (wanted : ℕ) (dest v : Vector Byte n) :
    Reads true (getFixed wanted wanted dest) v.toList v true := by
  rw [getFixed, if_neg (by simp)]
  exact reads_mem true dest v

theorem handleOrg_reader (info : PeerInfo) (hlt : pos + tlvLen < 2 ^ 16)
    (hacc : ∀ wanted ∈ orgWanted (p.orgAt pos).id (p.orgAt pos).subtype,
      tlvLen = wanted ∧ pos + tlvLen ≤ p.len) :
    ∃ info', handleOrg tlvLen (p.orgAt pos) info (p.reader (pos + 4)) =
        (info', p.reader (pos + tlvLen)) ∧
      Stores info LLDP_TYPE_ORG_SPEC (Buffer.slice p.buf pos tlvLen) info' := by
  have hnothing : ∃ info', (do
        skip (tlvLen - 4)
        return info : Get PeerInfo) (p.reader (pos + 4)) = (info', p.reader (pos + tlvLen)) ∧
      Stores info LLDP_TYPE_ORG_SPEC (Buffer.slice p.buf pos tlvLen) info' := by
    refine ⟨info, ?_, .nothing _ (by decide) (by decide)⟩
    show (info, (skip (tlvLen - 4) (p.reader (pos + 4))).2) = _
    rw [skip_reader (pos + tlvLen) (by push_cast; omega) hlt]
  rw [handleOrg]
  rw [orgWanted] at hacc
  split
  · rename_i hpnio
    rw [if_pos hpnio] at hacc
    split
    · rename_i hdelay
      rw [if_pos hdelay] at hacc
      rcases hacc _ rfl with ⟨rfl, hfits⟩
      rcases exists_signalDelay p.buf (pos + 4) with ⟨d, hd, hbytes⟩
      apply org_stores (reads_signalDelay hd) rfl hbytes hfits
      rw [← hpnio, hdelay]
      exact .portDelay d hd
    · rename_i hdelay
      rw [if_neg hdelay] at hacc
      split
      · rename_i hstatus
        rw [if_pos hstatus] at hacc
        rcases hacc _ rfl with ⟨rfl, hfits⟩
        rcases exists_vector (Buffer.slice_length p.buf (pos + 4) 4) with ⟨status, hbytes⟩
        apply org_stores (reads_fixed _ _ status) (by simp) hbytes hfits
        rw [← hpnio, hstatus]
        exact .portStatus status
      · rename_i hstatus
        rw [if_neg hstatus] at hacc
        split
        · rename_i hmac
          rw [if_pos hmac] at hacc
          rcases hacc _ rfl with ⟨rfl, hfits⟩
          rcases exists_vector (Buffer.slice_length p.buf (pos + 4) 6) with ⟨mac, hbytes⟩
          apply org_stores (reads_fixed _ _ mac) (by simp) hbytes hfits
          rw [← hpnio, hmac]
          exact .macAddress mac
        · exact hnothing
  · rename_i hpnio
    rw [if_neg hpnio] at hacc
    split
    · rename_i hieee
      split
      · rename_i hphy
        rw [if_pos ⟨hieee, hphy⟩] at hacc
        rcases hacc _ rfl with ⟨rfl, hfits⟩
        rcases exists_linkStatus p.buf (pos + 4) with ⟨flags, capabilities, mauType, hbytes⟩
        apply org_stores (reads_linkStatus flags capabilities mauType) rfl hbytes hfits
        rw [← hieee, hphy]
        exact .phyConfig flags capabilities mauType
      · exact hnothing
    · exact hnothing

/-- A value of another length than the one that is wanted is an error, and so is one that is not
inside the packet. -/
theorem org_errs {α : Type} {n wanted : ℕ} {g : Get α} {old : α} {f : α → PeerInfo}
    (hexact : Exact n g) (hwanted : wanted = n + 4) (hin : pos + 4 ≤ p.len)
    (hacc : ¬∀ w ∈ some wanted, tlvLen = w ∧ pos + tlvLen ≤ p.len) :
    (((if tlvLen ≠ wanted then (parseError >>= fun _ => pure old) else g) >>=
      fun x => pure (f x)) (p.reader (pos + 4))).2.info.result ≠ .PF_PARSE_OK := by
  have hlen : ¬(tlvLen = wanted ∧ pos + tlvLen ≤ p.len) := fun hok =>
    hacc fun w hw => Option.some.inj hw ▸ hok
  apply errs_bind
  · split
    · exact parseError_ne_ok _
    · exact p.run_errs hexact hin (by omega)
  · exact fun _ => KeepsError.pure _

theorem handleOrg_errs (info : PeerInfo) (hin : pos + 4 ≤ p.len)
    (hacc : ¬∀ wanted ∈ orgWanted (p.orgAt pos).id (p.orgAt pos).subtype,
      tlvLen = wanted ∧ pos + tlvLen ≤ p.len) :
    (handleOrg tlvLen (p.orgAt pos) info (p.reader (pos + 4))).2.info.result ≠ .PF_PARSE_OK := by
  rw [handleOrg]
  rw [orgWanted] at hacc
  have hnone : ∀ w ∈ (none : Option ℕ), tlvLen = w ∧ pos + tlvLen ≤ p.len := fun _ h => nomatch h
  split
  · rename_i hpnio
    rw [if_pos hpnio] at hacc
    split
    · rename_i hdelay
      rw [if_pos hdelay] at hacc
      exact org_errs (exact_uint32.bind fun _ => exact_uint32.bind fun _ =>
        exact_uint32.bind fun _ => exact_uint32.bind fun _ => exact_uint32.map _) rfl hin hacc
    · rename_i hdelay
      rw [if_neg hdelay] at hacc
      split
      · rename_i hstatus
        rw [if_pos hstatus] at hacc
        exact org_errs (exact_mem _) rfl hin hacc
      · rename_i hstatus
        rw [if_neg hstatus] at hacc
        split
        · rename_i hmac
          rw [if_pos hmac] at hacc
          exact org_errs (exact_mem _) rfl hin hacc
        · rename_i hmac
          rw [if_neg hmac] at hacc
          exact absurd hnone hacc
  · rename_i hpnio
    rw [if_neg hpnio] at hacc
    split
    · rename_i hieee
      split
      · rename_i hphy
        rw [if_pos ⟨hieee, hphy⟩] at hacc
        exact org_errs (exact_byte.bind fun _ => exact_uint16.bind fun _ => exact_uint16.map _)
          rfl hin hacc
      · rename_i hphy
        rw [if_neg fun h => hphy h.2] at hacc
        exact absurd hnone hacc
    · rename_i hieee
      rw [if_neg fun h => hieee h.1] at hacc
      exact absurd hnone hacc

theorem keepsError_checked {α : Type} {wanted : ℕ} {g : Get α} {old : α} {f : α → PeerInfo}
    (hg : KeepsError g) :
    KeepsError ((if tlvLen ≠ wanted then (parseError >>= fun _ => pure old) else g) >>=
      fun x => pure (f x)) := by
  refine KeepsError.bind ?_ fun _ => KeepsError.pure _
  split
  · exact fun r _ => parseError_ne_ok r
  · exact hg

theorem keepsError_handleOrg (org : OrgHeader) (info : PeerInfo) :
    KeepsError (handleOrg tlvLen org info) := by
  have hskip : KeepsError (do
      skip (tlvLen - 4)
      return info : Get PeerInfo) := fun _ hr => hr
  rw [handleOrg]
  split
  · split
    · exact keepsError_checked (exact_uint32.bind fun _ => exact_uint32.bind fun _ =>
        exact_uint32.bind fun _ => exact_uint32.bind fun _ => exact_uint32.map _).keepsError
    · split
      · exact keepsError_checked (exact_mem _).keepsError
      · split
        · exact keepsError_checked (exact_mem _).keepsError
        · exact hskip
  · split
    · split
      · exact keepsError_checked (exact_byte.bind fun _ => exact_uint16.bind fun _ =>
          exact_uint16.map _).keepsError
      · exact hskip
    · exact hskip

end

/-! ## The switch -/

theorem map_run {α β : Type} {g : Get α} {v : α} {r r' : Reader} (hrun : g r = (v, r'))
    (f : α → β) : (do
      let x ← g
      return f x : Get β) r = (f v, r') := by
  show (f (g r).1, (g r).2) = _
  rw [hrun]

theorem Packet.consumed_of_ne {tlv : Tlv} (hne : tlv.type ≠ LLDP_TYPE_MANAGEMENT_ADDRESS) :
    p.consumed tlv pos = tlv.len := if_neg fun h => hne h.1

/-- A TLV that is accepted: what is consumed and what is stored. -/
theorem handle_reader {tlv : Tlv} (org : OrgHeader) (info : PeerInfo) (hpos : pos ≤ p.len)
    (hlen : tlv.len < 512) (hacc : p.Accepts tlv pos) :
    ∃ org' info', handle tlv org info (p.reader pos) =
        ((org', info'), p.reader (pos + p.consumed tlv pos)) ∧
      Stores info tlv.type (Buffer.slice p.buf pos (p.consumed tlv pos)) info' := by
  have hmax : p.len ≤ 1522 := p.len_le
  rcases tlv with ⟨type, len⟩
  change len < 512 at hlen
  have hlt : pos + len < 2 ^ 16 := by omega
  rw [handle]
  dsimp only
  split
  · rw [p.consumed_of_ne (by simp)]
    refine ⟨org, _, ?_, .chassisId _⟩
    exact map_run (getId_reader hlt hacc) _
  · rw [p.consumed_of_ne (by simp)]
    refine ⟨org, _, ?_, .portId _⟩
    exact map_run (getId_reader hlt hacc) _
  · rw [p.consumed_of_ne (by simp)]
    rcases getTtl_reader hacc.1 hacc.2 with ⟨ttl, hbytes, hrun⟩
    dsimp only
    rw [hbytes]
    refine ⟨org, _, ?_, .ttl ttl⟩
    exact map_run hrun _
  · rw [p.consumed_of_ne (by simp)]
    have hrun := getPortDescription_reader (d := info.portDescription) hlt hacc
    by_cases hlong : PNET_MAX_PORT_DESCRIPTION_SIZE - 1 < len
    · rw [if_pos hlong] at hrun
      refine ⟨org, info, ?_, .nothing _ (by simp) (by simp)⟩
      exact map_run hrun _
    · rw [if_neg hlong] at hrun
      refine ⟨org, _, map_run hrun _, ?_⟩
      have hstores : Stores info LLDP_TYPE_PORT_DESCRIPTION (Buffer.slice p.buf pos len) _ :=
        .portDescription _
      rw [Buffer.slice_length] at hstores
      exact hstores
  · by_cases hfits : addressFits (p.buf pos)
    · have hconsumed : p.consumed ⟨LLDP_TYPE_MANAGEMENT_ADDRESS, len⟩ pos =
          7 + (p.buf pos).toNat + (p.buf (pos + 6 + (p.buf pos).toNat)).toNat :=
        if_pos ⟨rfl, hfits⟩
      rcases getManagementAddress_reader len hfits (hacc.2 hfits) with
        ⟨m, oid, -, hmlen, hbytes, hrun⟩
      rw [hconsumed]
      refine ⟨org, _, map_run hrun _, ?_⟩
      by_cases hipv4 : m.isIpv4
      · rw [if_pos hipv4, hbytes]
        exact .managementAddress m oid hipv4 hmlen
      · rw [if_neg hipv4]
        exact .nothing _ (by simp) (by simp)
    · have hconsumed : p.consumed ⟨LLDP_TYPE_MANAGEMENT_ADDRESS, len⟩ pos = len :=
        if_neg fun h => hfits h.2
      rcases getManagementAddress_skip hlt hacc.1 hfits with ⟨m, hipv4, hrun⟩
      rw [hconsumed]
      refine ⟨org, _, map_run hrun _, ?_⟩
      rw [hipv4]
      exact .nothing _ (by simp) (by simp)
  · rw [p.consumed_of_ne (by simp)]
    rcases handleOrg_reader info hlt hacc.2 with ⟨info', hrun, hstores⟩
    refine ⟨p.orgAt pos, info', ?_, hstores⟩
    show (((getOrgHeader org (p.reader pos)).1, (handleOrg len (getOrgHeader org (p.reader pos)).1
      info (getOrgHeader org (p.reader pos)).2).1), (handleOrg len
        (getOrgHeader org (p.reader pos)).1 info (getOrgHeader org (p.reader pos)).2).2) = _
    rw [getOrgHeader_reader hacc.1, hrun]
  · rename_i h1 h2 h3 h4 h8 h127
    rw [p.consumed_of_ne h8]
    refine ⟨org, info, ?_, .nothing _ h1 h2⟩
    show ((org, info), (skip len (p.reader pos)).2) = _
    rw [skip_reader (pos + len) (by push_cast; rfl) hlt]

/-- A TLV that is not accepted is an error. -/
theorem handle_errs {tlv : Tlv} (org : OrgHeader) (info : PeerInfo) (hpos : pos ≤ p.len)
    (hacc : ¬p.Accepts tlv pos) :
    (handle tlv org info (p.reader pos)).2.info.result ≠ .PF_PARSE_OK := by
  rcases tlv with ⟨type, len⟩
  rw [handle]
  dsimp only
  split
  · exact getId_errs hpos hacc
  · exact getId_errs hpos hacc
  · exact getTtl_errs hpos hacc
  · exact getPortDescription_errs hpos hacc
  · exact getManagementAddress_errs hpos hacc
  · by_cases hin : pos + 4 ≤ p.len
    · have herrs := handleOrg_errs info hin fun h => hacc ⟨hin, h⟩
      show (handleOrg len (getOrgHeader org (p.reader pos)).1 info
        (getOrgHeader org (p.reader pos)).2).2.info.result ≠ _
      rw [getOrgHeader_reader hin]
      exact herrs
    · -- the header cannot be read, and its old contents decide what is tried
      refine errs_bind (p.run_errs (exact_orgHeader org) hpos hin) fun org' => ?_
      exact (keepsError_handleOrg org' info).bind fun _ => KeepsError.pure _
  · rename_i h1 h2 h3 h4 h8 h127
    have haccepts : p.Accepts ⟨type, len⟩ pos := by
      rw [Packet.Accepts]
      split
      all_goals trivial
    exact absurd haccepts hacc

end PNet.Lldp
