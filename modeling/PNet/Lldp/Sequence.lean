import PNet.Lldp.Walk
import PNet.Lldp.Construct

/-! # Packets that are made of TLVs

A TLV whose value the parser takes as a whole `Means` what it changes in the information about the
peer. Parsing a packet that was put together from such TLVs gives what they mean, one after the
other.
-/

namespace PNet.Lldp

open Block

/-! ## The bytes of a TLV -/

/-- The header of a TLV. -/
def tlvHead (typ len : Byte) : BitVec 16 :=
  (typ.setWidth 16 <<< LLDP_TYPE_SHIFT) + (len.setWidth 16 &&& LLDP_LENGTH_MASK)

def tlvBytes (type : ℕ) (value : List Byte) : List Byte :=
  bytes16 true (tlvHead (BitVec.ofNat 8 type) (BitVec.ofNat 8 value.length)) ++ value

theorem toNat_tlvHead {type len : ℕ} (htype : type < 128) (hlen : len < 256) :
    (tlvHead (BitVec.ofNat 8 type) (BitVec.ofNat 8 len)).toNat = type * 512 + len := by
  have hmask : len &&& 511 = len := by
    rw [show 511 = 2 ^ 9 - 1 from rfl, Nat.and_two_pow_sub_one_eq_mod]
    omega
  simp only [tlvHead, LLDP_TYPE_SHIFT, LLDP_LENGTH_MASK, BitVec.toNat_add, BitVec.toNat_shiftLeft,
    BitVec.toNat_setWidth, BitVec.toNat_ofNat, BitVec.toNat_and, Nat.shiftLeft_eq]
  rw [Nat.mod_eq_of_lt (show type < 2 ^ 8 by omega), Nat.mod_eq_of_lt (show len < 2 ^ 8 by omega),
    Nat.mod_eq_of_lt (show len < 2 ^ 16 by omega)]
  rw [show 511 % 2 ^ 16 = 511 from rfl, hmask]
  omega

theorem ofHead_tlvHead {type len : ℕ} (htype : type < 128) (hlen : len < 256) :
    Tlv.ofHead (tlvHead (BitVec.ofNat 8 type) (BitVec.ofNat 8 len)) = ⟨type, len⟩ := by
  have hnat := toNat_tlvHead htype hlen
  have hmask : (type * 512 + len) &&& 511 = len := by
    rw [show 511 = 2 ^ 9 - 1 from rfl, Nat.and_two_pow_sub_one_eq_mod]
    omega
  have htop : ∀ n < 2 ^ 16, (n &&& 0xFE00) >>> 9 = n / 512 := by
    intro n hn
    rw [Nat.shiftRight_and_distrib, show 0xFE00 >>> 9 = 2 ^ 7 - 1 from rfl,
      Nat.and_two_pow_sub_one_eq_mod, Nat.shiftRight_eq_div_pow]
    omega
  rw [Tlv.ofHead, BitVec.toNat_ushiftRight, BitVec.toNat_and, BitVec.toNat_and, hnat]
  show (⟨(_ &&& 0xFE00) >>> 9, _ &&& 511⟩ : Tlv) = _
  rw [hmask, htop _ (by omega)]
  congr 1
  omega

/-! ## What a TLV means -/

/-- The packet holds `bs` at `pos`. -/
structure Packet.Holds (p : Packet) (pos : ℕ) (bs : List Byte) : Prop where
  slice : Buffer.slice p.buf pos bs.length = bs
  inside : pos + bs.length ≤ p.len

/-- The parser takes the whole value, and does `f` to the information. -/
def Means (type : ℕ) (value : List Byte) (f : PeerInfo → PeerInfo) : Prop :=
  ∀ (p : Packet) (pos : ℕ) (org : OrgHeader) (info : PeerInfo), p.Holds pos value →
    ∃ org', handle ⟨type, value.length⟩ org info (p.reader pos) =
      ((org', f info), p.reader (pos + value.length))

theorem means_of_reads {type : ℕ} {value : List Byte} {f : PeerInfo → PeerInfo}
    (h : ∀ org info, ∃ org',
      Reads true (handle ⟨type, value.length⟩ org info) value (org', f info) true) :
    Means type value f := by
  intro p pos org info hholds
  rcases h org info with ⟨org', hreads⟩
  exact ⟨org', p.run_reads hreads hholds.slice hholds.inside⟩

structure Part where
  type : ℕ
  value : List Byte
  change : PeerInfo → PeerInfo
  means : Means type value change
  type_ne : type ≠ LLDP_TYPE_END
  type_lt : type < 128
  length_lt : value.length < 256

def Part.bytes (t : Part) : List Byte := tlvBytes t.type t.value

/-- The TLVs with the end marker. -/
def packetBytes (ts : List Part) : List Byte := ts.flatMap Part.bytes ++ tlvBytes LLDP_TYPE_END []

def changes (ts : List Part) (info : PeerInfo) : PeerInfo :=
  ts.foldl (fun info t => t.change info) info

variable {p : Packet} {pos : ℕ} {bs cs : List Byte}

theorem Packet.Holds.left (h : p.Holds pos (bs ++ cs)) : p.Holds pos bs := by
  have hinside := h.inside
  have hslice := h.slice
  rw [List.length_append] at hinside hslice
  rw [Buffer.slice_add] at hslice
  exact ⟨(List.append_inj hslice (by simp)).1, by omega⟩

theorem Packet.Holds.right (h : p.Holds pos (bs ++ cs)) : p.Holds (pos + bs.length) cs := by
  have hinside := h.inside
  have hslice := h.slice
  rw [List.length_append] at hinside hslice
  rw [Buffer.slice_add] at hslice
  exact ⟨(List.append_inj hslice (by simp)).2, by omega⟩

theorem Packet.Holds.tlvAt {type : ℕ} {value : List Byte} (h : p.Holds pos (tlvBytes type value))
    (htype : type < 128) (hlen : value.length < 256) : p.tlvAt pos = ⟨type, value.length⟩ := by
  have hhead := h.left.slice
  rw [bytes16_length, slice_cons, slice_cons, Buffer.slice_zero, ← bytes16_join2] at hhead
  rw [Packet.tlvAt, bytes16_injective true hhead, ofHead_tlvHead htype hlen]

/-- One turn of the loop for one part. -/
theorem next_part {s : Scan} {t : Part} (hat : s.At p pos)
    (h : p.Holds pos (t.bytes ++ cs)) (hcs : 2 ≤ cs.length) :
    s.tlv.type = t.type ∧ s.next.At p (pos + t.bytes.length) ∧ s.next.info = t.change s.info := by
  have htlv := h.left.tlvAt t.type_lt t.length_lt
  rcases s with ⟨tlv, org, info, reader⟩
  obtain rfl : tlv = p.tlvAt pos := hat.tlv
  obtain rfl : reader = p.reader (pos + 2) := hat.reader
  have hvalue := h.left.right
  rw [bytes16_length] at hvalue
  rcases t.means p (pos + 2) org info hvalue with ⟨org', hrun⟩
  have hlen : pos + 2 + t.value.length = pos + t.bytes.length := by
    rw [Part.bytes, tlvBytes, List.length_append, bytes16_length]
    omega
  have hin : pos + t.bytes.length + 2 ≤ p.len := by
    have hinside := h.right.inside
    omega
  have hhandled : (⟨p.tlvAt pos, org, info, p.reader (pos + 2)⟩ : Scan).handled =
      ((org', t.change info), p.reader (pos + t.bytes.length)) := by
    rw [Scan.handled, htlv, hrun, hlen]
  refine ⟨by rw [htlv], ?_, ?_⟩
  · rw [Scan.next, hhandled]
    dsimp only
    rw [getTlv_reader hin]
    exact ⟨rfl, rfl, hin⟩
  · rw [Scan.next, hhandled]
    rfl

theorem loop_parts {ts : List Part} {s : Scan} (hat : s.At p pos)
    (h : p.Holds pos (packetBytes ts)) (fuel : ℕ) :
    ∃ out, loop (fuel + 1 + ts.length) s = some out ∧ out.reader.info.result = .PF_PARSE_OK ∧
      out.info = changes ts s.info := by
  induction ts generalizing pos s with
  | nil =>
    have htlv := h.tlvAt (by decide) (by decide)
    refine ⟨s, ?_, ?_, rfl⟩
    · rw [List.length_nil, Nat.add_zero, loop, if_pos]
      rw [hat.tlv, htlv]
    · rw [hat.reader]
      rfl
  | cons t ts ih =>
    have hholds : p.Holds pos (t.bytes ++ packetBytes ts) := by
      rw [packetBytes, ← List.append_assoc]
      exact h
    rcases next_part hat hholds (by simp [packetBytes, tlvBytes]) with ⟨htype, hnext, hinfo⟩
    rcases ih hnext hholds.right with ⟨out, hloop, hok, hout⟩
    refine ⟨out, ?_, hok, ?_⟩
    · rw [List.length_cons, ← Nat.add_assoc, loop, if_neg (htype ▸ t.type_ne), hloop]
    · rw [hout, hinfo]
      rfl

/-- A packet that starts with the TLVs is parsed as what they mean. -/
theorem parsePacket_parts {ts : List Part} (h : p.Holds 0 (packetBytes ts)) (org : OrgHeader)
    {fuel : ℕ} (hfuel : ts.length < fuel) :
    parsePacket fuel p org = some (0, changes ts .zero) := by
  have hin : 0 + 2 ≤ p.len := by
    have hinside := h.inside
    simp only [packetBytes, tlvBytes, List.length_append, bytes16_length] at hinside
    omega
  rcases first_cases p org with ⟨hinfo, hat | ⟨hout, -⟩⟩
  · obtain ⟨k, rfl⟩ : ∃ k, fuel = k + 1 + ts.length := ⟨fuel - 1 - ts.length, by omega⟩
    rcases loop_parts hat h k with ⟨out, hloop, hok, hout⟩
    rw [parsePacket, hloop, Option.map_some, Scan.answer, if_neg (by simp [hok]), hout, hinfo]
  · exact absurd hin hout

end PNet.Lldp
