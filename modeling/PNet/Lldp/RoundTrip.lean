import PNet.Lldp.Sequence

/-! # The own frame, parsed

The frame of a port is an Ethernet header and a packet of seven TLVs. Parsing that packet gives
back what the device has put in. There is no TLV for the port description among them.
-/

namespace PNet.Lldp

open Block

/-! ## The lengths of the texts -/

theorem decimal_length_le {n k : ℕ} (hk : 0 < k) (h : n < 10 ^ k) : (decimal n).length ≤ k := by
  rw [decimal, List.length_map]
  exact (Nat.length_toDigits_le_iff (by decide) hk).mpr h

theorem padLeft_length_le (fill : Char) {width : ℕ} {text : List Byte} (h : text.length ≤ width) :
    (padLeft width fill text).length = width := by
  rw [padLeft, List.length_append, List.length_replicate]
  omega

theorem padRight_length_le {width : ℕ} {text : List Byte} (h : text.length ≤ width) :
    (padRight width text).length = width := by
  rw [padRight, List.length_append, List.length_replicate]
  omega

/-- The system description has a fixed length. -/
theorem systemDescription_length (d : Device) : d.systemDescription.length = 80 := by
  have hname := padRight_length_le (Nat.le_of_lt_succ d.productName.fits)
  have horder := padRight_length_le (Nat.le_of_lt_succ d.imOrderId.fits)
  have hserial := padRight_length_le (Nat.le_of_lt_succ d.imSerialNumber.fits)
  have hrevision := padLeft_length_le ' '
    (decimal_length_le (k := 5) (by decide) (lt_trans d.imHardwareRevision.isLt (by decide)))
  have hbyte : ∀ b : Byte, (padLeft 3 ' ' (decimal b.toNat)).length = 3 := fun b =>
    padLeft_length_le ' ' (decimal_length_le (by decide) (lt_trans b.isLt (by decide)))
  simp only [Device.systemDescription, List.length_append, List.length_cons, hname, horder,
    hserial, hrevision, hbyte]
  rfl

theorem portName_length (port : Port) : port.portName.length = 8 := by
  have hnum : (padLeft 3 '0' (decimal port.portNum.toNat)).length = 3 :=
    padLeft_length_le '0' (decimal_length_le (by decide) (lt_trans port.portNum.isLt (by decide)))
  simp only [Port.portName, snprintf, List.length_take, List.length_append, List.length_map, hnum]
  rfl

theorem snprintf_of_lt {size : ℕ} {text : List Byte} (h : text.length < size) :
    snprintf size text = text := List.take_of_length_le (by omega)

/-- What an id that is sent looks like. -/
structure Id.Sendable (id : Id) (maxLen : ℕ) : Prop where
  isValid : id.isValid = true
  len : id.len = id.string.length
  le : id.string.length ≤ maxLen

theorem chassisId_sendable (d : Device) :
    (getOwnChassisId d).Sendable (PNET_LLDP_CHASSIS_ID_MAX_SIZE - 1) := by
  have hname := d.stationName.fits
  rw [getOwnChassisId]
  split
  · dsimp only
    split
    · exact ⟨rfl, by simp, by simp [PNET_LLDP_CHASSIS_ID_MAX_SIZE]⟩
    · exact ⟨rfl, rfl, Nat.le_of_lt_succ hname⟩
  · have hlen := systemDescription_length d
    have hprint : snprintf PNET_LLDP_CHASSIS_ID_MAX_SIZE d.systemDescription =
        d.systemDescription := snprintf_of_lt (by rw [hlen]; decide)
    rw [hprint]
    exact ⟨rfl, rfl, by rw [hlen]; decide⟩

theorem macAddressToString_length_le (mac : Vector Byte 6) (size : ℕ) :
    (macAddressToString mac size).length ≤ 17 := by
  rw [macAddressToString, snprintf, List.length_take]
  exact (min_le_right _ _).trans (by simp [hexByte])

/-- The name of a port is short, so that with the longest station name the id is not cut off and
its length, with the subtype, is one of a byte. -/
theorem portId_sendable (d : Device) (port : Port) : (getOwnPortId d port).Sendable 249 := by
  have hport := portName_length port
  have hname := d.stationName.fits
  have hmac := macAddressToString_length_le d.macAddress PNET_STATION_NAME_MAX_SIZE
  refine ⟨rfl, rfl, ?_⟩
  rw [getOwnPortId]
  dsimp only
  split
  · rw [snprintf, List.length_take]
    omega
  · rw [snprintf, List.length_take, List.length_append, List.length_cons]
    change d.stationName.chars.length < 241 at hname
    split
    · omega
    · omega

/-! ## What the TLVs mean -/

theorem means_chassisId {id : Id} (h : id.Sendable (PNET_LLDP_CHASSIS_ID_MAX_SIZE - 1)) :
    Means LLDP_TYPE_CHASSIS_ID (id.subtype :: id.string)
      (fun info => { info with chassisId := id }) := by
  apply means_of_reads
  intro org info
  rcases id with ⟨string, subtype, isValid, len⟩
  obtain rfl : isValid = true := h.isValid
  obtain rfl : len = string.length := h.len
  exact ⟨org, (reads_id h.le).map _⟩

theorem means_portId {id : Id} (h : id.Sendable 249) :
    Means LLDP_TYPE_PORT_ID (id.subtype :: id.string)
      (fun info => { info with portId := id }) := by
  apply means_of_reads
  intro org info
  rcases id with ⟨string, subtype, isValid, len⟩
  obtain rfl : isValid = true := h.isValid
  obtain rfl : len = string.length := h.len
  have hle : string.length ≤ PNET_LLDP_PORT_ID_MAX_SIZE - 1 := h.le.trans (by decide)
  exact ⟨org, (reads_id hle).map _⟩

theorem means_ttl (ttl : BitVec 16) :
    Means LLDP_TYPE_TTL (bytes16 true ttl) (fun info => { info with ttl }) := by
  apply means_of_reads
  intro org info
  have hreads : Reads true (getTtl (bytes16 true ttl).length info.ttl) (bytes16 true ttl) ttl
      true := by
    rw [getTtl, bytes16_length, if_neg (by simp)]
    exact reads_uint16 true ttl
  exact ⟨org, hreads.map _⟩

/-- An organizationally specific value, by what stands behind its header. -/
theorem means_org {id : Vector Byte 3} {subtype : Byte} {bs : List Byte}
    {f : PeerInfo → PeerInfo}
    (h : ∀ info, Reads true (handleOrg (bs.length + 4) ⟨id, subtype⟩ info) bs (f info) true) :
    Means LLDP_TYPE_ORG_SPEC (id.toList ++ subtype :: bs) f := by
  apply means_of_reads
  intro org info
  refine ⟨⟨id, subtype⟩, ?_⟩
  have hlen : (id.toList ++ subtype :: bs).length = bs.length + 4 := by
    rw [List.length_append, List.length_cons, Vector.length_toList]
    omega
  have hheader : Reads true (getOrgHeader org) (id.toList ++ ([subtype] ++ [])) ⟨id, subtype⟩
      true :=
    (reads_mem true org.id id).bind ((reads_byte true subtype).bind (Reads.pure true _))
  have hreads := Reads.bind (f := fun org' => do
    let info ← handleOrg (bs.length + 4) org' info
    return (org', info)) hheader ((h info).map _)
  rw [List.append_nil, List.append_assoc] at hreads
  rw [hlen]
  exact hreads

theorem means_portStatus (status : Vector Byte 4) :
    Means LLDP_TYPE_ORG_SPEC
      (orgIdPnio.toList ++ LLDP_PNIO_SUBTYPE_PORT_STATUS :: status.toList)
      (fun info => { info with portStatus := status }) := by
  apply means_org
  intro info
  rw [handleOrg, if_pos rfl, if_neg (by decide), if_pos rfl, Vector.length_toList]
  exact (reads_fixed _ _ status).map _

theorem means_chassisMac (mac : Vector Byte 6) :
    Means LLDP_TYPE_ORG_SPEC (orgIdPnio.toList ++ LLDP_PNIO_SUBTYPE_CHASSIS_MAC :: mac.toList)
      (fun info => { info with macAddress := mac }) := by
  apply means_org
  intro info
  rw [handleOrg, if_pos rfl, if_neg (by decide), if_neg (by decide), if_pos rfl,
    Vector.length_toList]
  exact (reads_fixed _ _ mac).map _

/-- The flags of a status are read back. -/
theorem autonegStatus_flags (status : LinkStatus) :
    (status.autonegStatus &&& LLDP_AUTONEG_SUPPORTED != 0) = status.isAutonegotiationSupported ∧
      (status.autonegStatus &&& LLDP_AUTONEG_ENABLED != 0) = status.isAutonegotiationEnabled := by
  rw [LinkStatus.autonegStatus]
  cases status.isAutonegotiationSupported with
  | true => cases status.isAutonegotiationEnabled <;> decide
  | false => cases status.isAutonegotiationEnabled <;> decide

theorem ofFlags_autonegStatus {status : LinkStatus} (h : status.isValid) :
    LinkStatus.ofFlags status.autonegStatus status.autonegotiationAdvertisedCapabilities
      status.operationalMauType = status := by
  rcases autonegStatus_flags status with ⟨hsupported, henabled⟩
  rw [LinkStatus.ofFlags, hsupported, henabled, ← h]

theorem means_linkStatus (status : LinkStatus) (h : status.isValid) :
    Means LLDP_TYPE_ORG_SPEC
      (orgIdIeee8023.toList ++ LLDP_IEEE_SUBTYPE_MAC_PHY :: status.autonegStatus ::
        (bytes16 true status.autonegotiationAdvertisedCapabilities ++
          bytes16 true status.operationalMauType))
      (fun info => { info with phyConfig := status }) := by
  apply means_org
  intro info
  rw [handleOrg, if_neg (by decide), if_pos rfl, if_pos rfl]
  have hreads := reads_linkStatus status.autonegStatus
    status.autonegotiationAdvertisedCapabilities status.operationalMauType
  rw [ofFlags_autonegStatus h] at hreads
  exact hreads.map _

theorem means_managementAddress (m : ManagementAddress) (h : m.isIpv4) (hlen : m.len = 4)
    (hvalue : m.value.length = 4) :
    Means LLDP_TYPE_MANAGEMENT_ADDRESS (m.bytes [])
      (fun info => { info with managementAddress := m }) := by
  intro p pos org info hholds
  refine ⟨org, ?_⟩
  have hvalid : m.isValid := by
    rw [ManagementAddress.isIpv4, Bool.and_eq_true, Bool.and_eq_true] at h
    exact h.1.1
  have hbytes : (m.bytes []).length = 12 := by
    simp [ManagementAddress.bytes, hvalue]
  have hslice := hholds.slice
  have hinside := hholds.inside
  rw [hbytes, slice_cons, ManagementAddress.bytes, hvalue] at hslice
  rw [hbytes] at hinside
  rcases List.cons.inj hslice with ⟨hfirst, hrest⟩
  have hrun : getManagementAddress (m.bytes []).length (p.reader pos) =
      (m, p.reader (pos + (m.value.length + 8 + (0#8).toNat))) := by
    apply getManagementAddress_fields m 0 hvalid (by rw [hlen, hvalue])
    · rw [hfirst]
      decide
    · rw [hfirst, hvalue]
      rfl
    · rw [hvalue]
      exact hrest
    · omega
  rw [hvalue] at hrun
  have hmap := map_run hrun fun managementAddress =>
    (org, if managementAddress.isIpv4 then { info with managementAddress } else info)
  rw [if_pos h] at hmap
  rw [hbytes]
  rw [hbytes] at hmap
  exact hmap

/-! ## The bytes of the frame -/

theorem appends_tlvHeader (typ len : Byte) :
    Appends PF_FRAME_BUFFER_SIZE (addTlvHeader typ len) (bytes16 true (tlvHead typ len)) :=
  appends_uint16 true _

theorem appends_idTlv (typ : ℕ) {id : Id} (hlen : id.len = id.string.length) :
    Appends PF_FRAME_BUFFER_SIZE (addIdTlv typ id) (tlvBytes typ (id.subtype :: id.string)) := by
  have happends := ((appends_tlvHeader (BitVec.ofNat 8 typ) (BitVec.ofNat 8 (1 + id.len))).comp
    (appends_byte id.subtype)).comp (appends_mem id.string)
  rw [hlen, Nat.add_comm, List.append_assoc] at happends
  intro w hw
  rw [addIdTlv, hlen, Nat.add_comm]
  exact happends w hw

theorem appends_ttlTlv : Appends PF_FRAME_BUFFER_SIZE addTtlTlv
    (tlvBytes LLDP_TYPE_TTL (bytes16 true PF_LLDP_TTL)) :=
  (appends_tlvHeader (BitVec.ofNat 8 LLDP_TYPE_TTL) 2).comp (appends_uint16 true PF_LLDP_TTL)

theorem appends_orgHeader (id : Vector Byte 3) (len : Byte) :
    Appends PF_FRAME_BUFFER_SIZE (addOrgHeader id len)
      (bytes16 true (tlvHead (BitVec.ofNat 8 LLDP_TYPE_ORG_SPEC) (len + 3)) ++ id.toList) := by
  have happends := (((appends_tlvHeader (BitVec.ofNat 8 LLDP_TYPE_ORG_SPEC) (len + 3)).comp
    (appends_byte id[0])).comp (appends_byte id[1])).comp (appends_byte id[2])
  have hid : id.toList = [id[0], id[1], id[2]] := by
    apply List.ext_getElem?
    intro i
    rcases i with _ | _ | _ | i
    · simp
    · simp
    · simp
    · simp
  rw [hid]
  simp only [List.append_assoc, List.cons_append, List.nil_append] at happends
  exact happends

theorem appends_portStatus : Appends PF_FRAME_BUFFER_SIZE (addPortStatus 0 0)
    (tlvBytes LLDP_TYPE_ORG_SPEC (orgIdPnio.toList ++
      LLDP_PNIO_SUBTYPE_PORT_STATUS :: (Vector.replicate 4 (0 : Byte)).toList)) := by
  have happends := (((appends_orgHeader orgIdPnio 5).comp
    (appends_byte LLDP_PNIO_SUBTYPE_PORT_STATUS)).comp (appends_uint16 true 0)).comp
      (appends_uint16 true 0)
  exact happends

theorem appends_chassisMac (mac : Vector Byte 6) : Appends PF_FRAME_BUFFER_SIZE (addChassisMac mac)
    (tlvBytes LLDP_TYPE_ORG_SPEC
      (orgIdPnio.toList ++ LLDP_PNIO_SUBTYPE_CHASSIS_MAC :: mac.toList)) := by
  have hcopy : Appends PF_FRAME_BUFFER_SIZE (fun w => w.append mac.toList) mac.toList :=
    fun _ _ => rfl
  have happends := ((appends_orgHeader orgIdPnio 7).comp
    (appends_byte LLDP_PNIO_SUBTYPE_CHASSIS_MAC)).comp hcopy
  have hlen : (orgIdPnio.toList ++ LLDP_PNIO_SUBTYPE_CHASSIS_MAC :: mac.toList).length = 10 := by
    simp
  rw [tlvBytes, hlen]
  simp only [List.append_assoc, List.cons_append, List.nil_append] at happends
  exact happends

theorem appends_ieeeMacPhy (status : LinkStatus) :
    Appends PF_FRAME_BUFFER_SIZE (addIeeeMacPhy status)
      (tlvBytes LLDP_TYPE_ORG_SPEC
        (orgIdIeee8023.toList ++ LLDP_IEEE_SUBTYPE_MAC_PHY :: status.autonegStatus ::
          (bytes16 true status.autonegotiationAdvertisedCapabilities ++
            bytes16 true status.operationalMauType))) := by
  have happends := ((((appends_orgHeader orgIdIeee8023 6).comp
    (appends_byte LLDP_IEEE_SUBTYPE_MAC_PHY)).comp (appends_byte status.autonegStatus)).comp
      (appends_uint16 true status.autonegotiationAdvertisedCapabilities)).comp
        (appends_uint16 true status.operationalMauType)
  have hlen : (orgIdIeee8023.toList ++ LLDP_IEEE_SUBTYPE_MAC_PHY :: status.autonegStatus ::
      (bytes16 true status.autonegotiationAdvertisedCapabilities ++
        bytes16 true status.operationalMauType)).length = 9 := by
    simp
  rw [tlvBytes, hlen]
  simp only [List.append_assoc, List.cons_append, List.nil_append] at happends
  exact happends

theorem appends_management (m : ManagementAddress) (hlen : m.len = 4)
    (hvalue : m.value.length = 4) : Appends PF_FRAME_BUFFER_SIZE (addManagement m)
      (tlvBytes LLDP_TYPE_MANAGEMENT_ADDRESS (m.bytes [])) := by
  have happends := ((((((appends_tlvHeader (BitVec.ofNat 8 LLDP_TYPE_MANAGEMENT_ADDRESS) 12).comp
    (appends_byte 5)).comp (appends_byte m.subtype)).comp (appends_mem m.value)).comp
      (appends_byte m.interfaceNumber.subtype)).comp
        (appends_uint32 true m.interfaceNumber.value)).comp (appends_byte 0)
  have hbytes : (m.bytes []).length = 12 := by
    simp [ManagementAddress.bytes, hvalue]
  have htake : m.value.take m.len = m.value := List.take_of_length_le (by rw [hlen, hvalue])
  intro w hw
  rw [addManagement, htake, hlen]
  rw [tlvBytes, hbytes, ManagementAddress.bytes, hvalue] at hw ⊢
  simp only [List.append_assoc, List.cons_append, List.nil_append] at happends
  exact happends w hw

theorem appends_end : Appends PF_FRAME_BUFFER_SIZE (addTlvHeader (BitVec.ofNat 8 LLDP_TYPE_END) 0)
    (tlvBytes LLDP_TYPE_END []) := by
  rw [tlvBytes, List.append_nil]
  exact appends_tlvHeader _ 0

theorem appends_ethernetHeader (dst src : Vector Byte 6) :
    Appends PF_FRAME_BUFFER_SIZE (addEthernetHeader dst src)
      (dst.toList ++ src.toList ++ bytes16 true PNAL_ETHTYPE_LLDP) :=
  ((appends_mem dst.toList).comp (appends_mem src.toList)).comp (appends_uint16 true _)

/-- The TLVs of the frame. -/
def frameParts (d : Device) (port : Port) : List Part :=
  have hchassis := chassisId_sendable d
  have hport := portId_sendable d port
  [⟨LLDP_TYPE_CHASSIS_ID, _, _, means_chassisId hchassis, by decide, by decide,
      Nat.lt_of_le_of_lt (Nat.succ_le_succ hchassis.le) (by decide)⟩,
    ⟨LLDP_TYPE_PORT_ID, _, _, means_portId hport, by decide, by decide,
      Nat.lt_of_le_of_lt (Nat.succ_le_succ hport.le) (by decide)⟩,
    ⟨LLDP_TYPE_TTL, _, _, means_ttl PF_LLDP_TTL, by decide, by decide, by decide⟩,
    ⟨LLDP_TYPE_ORG_SPEC, _, _, means_portStatus (Vector.replicate 4 0), by decide, by decide,
      by decide⟩,
    ⟨LLDP_TYPE_ORG_SPEC, _, _, means_chassisMac d.macAddress, by decide, by decide, by simp⟩,
    ⟨LLDP_TYPE_ORG_SPEC, _, _, means_linkStatus (getOwnLinkStatus port) rfl, by decide,
      by decide, by simp⟩,
    ⟨LLDP_TYPE_MANAGEMENT_ADDRESS, _, _,
      means_managementAddress (getOwnManagementAddress d) rfl rfl (bytes32_length true _),
      by decide, by decide, by simp [ManagementAddress.bytes, getOwnManagementAddress]⟩]

/-- The frame: the Ethernet header, and the packet. -/
theorem appends_frame (d : Device) (port : Port) :
    Appends PF_FRAME_BUFFER_SIZE (fun w => addTlvHeader (BitVec.ofNat 8 LLDP_TYPE_END) 0
      (addManagement (getOwnManagementAddress d) (addIeeeMacPhy (getOwnLinkStatus port)
        (addChassisMac d.macAddress (addPortStatus 0 0 (addTtlTlv
          (addPortIdTlv (getOwnPortId d port) (addChassisIdTlv (getOwnChassisId d) w))))))))
      (packetBytes (frameParts d port)) := by
  have happends := (((((((appends_idTlv LLDP_TYPE_CHASSIS_ID
    (chassisId_sendable d).len).comp
      (appends_idTlv LLDP_TYPE_PORT_ID (portId_sendable d port).len)).comp
        appends_ttlTlv).comp appends_portStatus).comp (appends_chassisMac d.macAddress)).comp
          (appends_ieeeMacPhy (getOwnLinkStatus port))).comp
            (appends_management (getOwnManagementAddress d) rfl (bytes32_length true _))).comp
              appends_end
  simp only [List.append_assoc] at happends
  simp only [packetBytes, frameParts, List.flatMap_cons, List.flatMap_nil, Part.bytes,
    List.append_assoc, List.nil_append]
  exact happends

theorem packetBytes_length_le (d : Device) (port : Port) :
    (packetBytes (frameParts d port)).length ≤ 548 := by
  have hchassis := (chassisId_sendable d).le
  have hport := (portId_sendable d port).le
  change (getOwnChassisId d).string.length ≤ 240 at hchassis
  simp [packetBytes, frameParts, Part.bytes, tlvBytes, ManagementAddress.bytes,
    getOwnManagementAddress]
  omega

/-- The frame header of a port. -/
def ethernetBytes (port : Port) : List Byte :=
  lldpDstAddr.toList ++ port.netifMacAddress.toList ++ bytes16 true PNAL_ETHTYPE_LLDP

theorem ethernetBytes_length (port : Port) : (ethernetBytes port).length = 14 := by
  simp [ethernetBytes]

theorem constructFrame_eq (d : Device) (port : Port) (buf : ℕ → Byte) :
    constructFrame d port buf = (⟨buf, 0⟩ : Writer).append
      (ethernetBytes port ++ packetBytes (frameParts d port)) := by
  have hframe := (appends_ethernetHeader lldpDstAddr port.netifMacAddress).comp
    (appends_frame d port)
  refine hframe ⟨buf, 0⟩ ?_
  have hlen := packetBytes_length_le d port
  have hhead := ethernetBytes_length port
  rw [List.length_append]
  change 0 + ((ethernetBytes port).length + _) ≤ 1500
  omega

/-! ## The round trip -/

theorem constructFrame_pos (d : Device) (port : Port) (buf : ℕ → Byte) :
    (constructFrame d port buf).pos = 14 + (packetBytes (frameParts d port)).length := by
  rw [constructFrame_eq]
  show 0 + (ethernetBytes port ++ _).length = _
  rw [List.length_append, ethernetBytes_length]
  omega

theorem ownPacket_len_le (d : Device) (port : Port) (buf : ℕ → Byte) :
    (constructFrame d port buf).pos - 14 ≤ PNAL_BUF_MAX_SIZE := by
  have hlen := packetBytes_length_le d port
  rw [constructFrame_pos]
  show _ ≤ 1522
  omega

/-- The frame without its Ethernet header. -/
def ownPacket (d : Device) (port : Port) (buf : ℕ → Byte) : Packet :=
  ⟨fun i => (constructFrame d port buf).bytes (14 + i), (constructFrame d port buf).pos - 14,
    ownPacket_len_le d port buf⟩

theorem ownPacket_holds (d : Device) (port : Port) (buf : ℕ → Byte) :
    (ownPacket d port buf).Holds 0 (packetBytes (frameParts d port)) := by
  have hbytes : (constructFrame d port buf).bytes = Buffer.write buf 0
      (ethernetBytes port ++ packetBytes (frameParts d port)) := by
    rw [constructFrame_eq]
    rfl
  have hslice := Buffer.slice_write_self buf 0
    (ethernetBytes port ++ packetBytes (frameParts d port))
  rw [← hbytes, List.length_append, Buffer.slice_add, ethernetBytes_length] at hslice
  constructor
  · have hpayload := (List.append_inj hslice (by rw [Buffer.slice_length, ethernetBytes_length])).2
    rw [← hpayload]
    simp [ownPacket, Buffer.slice]
  · show 0 + _ ≤ (constructFrame d port buf).pos - 14
    rw [constructFrame_pos]
    omega

theorem parsePacket_ownPacket (d : Device) (port : Port) (buf : ℕ → Byte) (org : OrgHeader)
    {fuel : ℕ} (hfuel : (ownPacket d port buf).len < fuel) :
    parsePacket fuel (ownPacket d port buf) org =
      some (0, changes (frameParts d port) .zero) := by
  apply parsePacket_parts (ownPacket_holds d port buf) org
  -- a TLV has two bytes at least
  have hlen : (ownPacket d port buf).len = (packetBytes (frameParts d port)).length := by
    show (constructFrame d port buf).pos - 14 = _
    rw [constructFrame_pos]
    omega
  have hparts : 7 ≤ (packetBytes (frameParts d port)).length := by
    simp [packetBytes, frameParts, Part.bytes, tlvBytes]
    omega
  show 7 < fuel
  omega

/-- The information about a peer is what the device has put into the frame. -/
structure GivesBack (d : Device) (port : Port) (info : PeerInfo) : Prop where
  chassisId : info.chassisId = getOwnChassisId d
  portId : info.portId = getOwnPortId d port
  ttl : info.ttl = PF_LLDP_TTL
  managementAddress : info.managementAddress = getOwnManagementAddress d
  phyConfig : info.phyConfig = getOwnLinkStatus port
  macAddress : info.macAddress = d.macAddress

/-- Parsing the own frame succeeds with information that fulfills `P`, and the frame fits in the
buffer. -/
structure RoundTrip (d : Device) (port : Port) (buf : ℕ → Byte) (org : OrgHeader)
    (P : PeerInfo → Prop) : Prop where
  parsed : ∃ info, P info ∧ ∀ fuel, (ownPacket d port buf).len < fuel →
    parsePacket fuel (ownPacket d port buf) org = some (0, info)
  fits : (constructFrame d port buf).pos ≤ PF_FRAME_BUFFER_SIZE
  inside : ∀ i, PF_FRAME_BUFFER_SIZE ≤ i → (constructFrame d port buf).bytes i = buf i

/-- The own frame gives back all that is in it. A port description is not. -/
theorem constructFrame_roundTrip (d : Device) (port : Port) (buf : ℕ → Byte) (org : OrgHeader) :
    RoundTrip d port buf org fun info =>
      GivesBack d port info ∧ info.portDescription = .zero := by
  have hlen := packetBytes_length_le d port
  have hpos := constructFrame_pos d port buf
  have hfits : (constructFrame d port buf).pos ≤ 1500 := by omega
  constructor
  · exact ⟨_, ⟨⟨rfl, rfl, rfl, rfl, rfl, rfl⟩, rfl⟩, fun _ hfuel =>
      parsePacket_ownPacket d port buf org hfuel⟩
  · exact hfits
  · intro i hi
    change 1500 ≤ i at hi
    rw [constructFrame_eq] at hfits ⊢
    exact Buffer.write_outside (.inr (hfits.trans hi))

/-- A device without a station name. -/
def exampleDevice : Device where
  mode := .PF_LLDP_NAME_OF_DEVICE_MODE_STANDARD
  stationName := .nil _
  macAddress := #v[1, 2, 3, 4, 5, 6]
  ipAddr := 0xC0A80001
  interfaceIndex := 3
  productName := .nil _
  imOrderId := .nil _
  imSerialNumber := .nil _
  imHardwareRevision := 1
  imSwRevisionPrefix := charByte 'V'
  imSwRevisionFunctionalEnhancement := 1
  imSwRevisionBugFix := 0
  imSwRevisionInternalChange := 0

def examplePort : Port where
  portNum := 1
  netifName := .nil _
  netifMacAddress := #v[1, 2, 3, 4, 5, 7]
  ethStatus := ⟨true, true, 0, 0x10⟩

/-- The description of the port is not given back. -/
theorem not_roundTrip_portDescription :
    ¬RoundTrip exampleDevice examplePort (fun _ => 0) ⟨Vector.replicate 3 0, 0⟩ fun info =>
      GivesBack exampleDevice examplePort info ∧
        info.portDescription = getOwnPortDescription examplePort := by
  intro h
  rcases h.parsed with ⟨info, ⟨-, hdescription⟩, hparse⟩
  have hown := parsePacket_ownPacket exampleDevice examplePort (fun _ => 0)
    ⟨Vector.replicate 3 0, 0⟩ (Nat.lt_succ_self _)
  rw [hparse _ (Nat.lt_succ_self _)] at hown
  obtain rfl : info = _ := congrArg Prod.snd (Option.some.inj hown)
  exact absurd (congrArg PortDescription.isValid hdescription) (by decide)

end PNet.Lldp
