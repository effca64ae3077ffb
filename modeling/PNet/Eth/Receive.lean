import Mathlib.Data.Nat.Find
import PNet.Connect.Param
import PNet.Lldp.Construct
import PNet.Options

/-! # Received Ethernet frames

`pf_eth_recv` skips the VLAN tags of a frame and hands the frame to the handler of its frame ID, or
to LLDP. It does not look at the length of the frame, and its position in the frame has 16 bits.

* `skipVlan_iff`: where the loop over the tags reads, and when it ends.
* `recv_inside_iff`: the frames of which only bytes of their own are read.
-/

namespace PNet.Eth

open Block Connect Lldp

/-! ## Dispatch -/

def PF_ETH_MAX_MAP : ℕ := PNET_MAX_API * PNET_MAX_AR * PNET_MAX_CR * 2 + 4 + 2

/-- `pf_eth_frame_id_map_t`; a handler stands for the function with its argument. -/
structure FrameIdMap (H : Type) where
  inUse : Bool
  frameId : BitVec 16
  frameHandler : H

/-- What a handler gets, except for the frame. -/
inductive Handed (H : Type) where
  | frame (frameHandler : H) (frameId framePos : BitVec 16)
  | lldp (framePos : BitVec 16)

def Handed.framePos {H : Type} : Handed H → BitVec 16
  | frame _ _ framePos => framePos
  | lldp framePos => framePos

/-- What `pf_eth_recv` does with a frame. -/
structure Received (H : Type) where
  /-- Where 16 bits have been read. -/
  reads : List (BitVec 16)
  handed : Option (Handed H)

/-- Two bytes in network byte order. -/
def getUint16At (payload : ℕ → Byte) (pos : ℕ) : BitVec 16 := payload pos ++ payload (pos + 1)

/-- The loop over the VLAN tags: the positions it has read, and the last one of them. -/
def skipVlan (payload : ℕ → Byte) : ℕ → BitVec 16 → Option (List (BitVec 16) × BitVec 16)
  | 0, _ => none
  | left + 1, ethTypePos =>
    if getUint16At payload ethTypePos.toNat = PNAL_ETHTYPE_VLAN then
      (skipVlan payload left (ethTypePos + 4#16)).map fun r => (ethTypePos :: r.1, r.2)
    else some ([ethTypePos], ethTypePos)

/-- The rest of `pf_eth_recv`, behind the loop. -/
def dispatch {H : Type} (ethIdMap : ℕ → FrameIdMap H) (payload : ℕ → Byte)
    (reads : List (BitVec 16)) (ethTypePos : BitVec 16) : Received H :=
  let ethType := getUint16At payload ethTypePos.toNat
  let framePos := ethTypePos + 2#16
  if ethType = PNAL_ETHTYPE_PROFINET then
    let frameId := getUint16At payload framePos.toNat
    let found := (List.range PF_ETH_MAX_MAP).find? fun ix =>
      (ethIdMap ix).inUse ∧ (ethIdMap ix).frameId = frameId
    ⟨reads ++ [framePos], found.map fun ix => .frame (ethIdMap ix).frameHandler frameId framePos⟩
  else if ethType = PNAL_ETHTYPE_LLDP then ⟨reads, some (.lldp framePos)⟩
  else ⟨reads, none⟩

/-- `pf_eth_recv`; `payload` is the memory from the first byte of the frame on, and `none` tells
that the loop has not ended after `fuel` rounds. -/
def pfEthRecv {H : Type} (ethIdMap : ℕ → FrameIdMap H) (payload : ℕ → Byte) (fuel : ℕ) :
    Option (Received H) :=
  (skipVlan payload fuel 12#16).map fun r => dispatch ethIdMap payload r.1 r.2

/-! ## Bytes of the frame -/

/-- All bytes read are bytes of the frame, and what is left of it behind the position that a handler
gets is not negative. -/
structure Received.Inside {H : Type} (r : Received H) (len : BitVec 16) : Prop where
  reads : ∀ pos ∈ r.reads, pos.toNat + 1 < len.toNat
  handed : ∀ h ∈ r.handed, h.framePos.toNat ≤ len.toNat ∧
    (len - h.framePos).toNat = len.toNat - h.framePos.toNat

/-- The ethertype behind `k` VLAN tags, and with Profinet the frame ID, is in the frame. -/
def Complete (payload : ℕ → Byte) (len : BitVec 16) : Prop :=
  ∃ k, (∀ j < k, getUint16At payload (12 + 4 * j) = PNAL_ETHTYPE_VLAN) ∧
    getUint16At payload (12 + 4 * k) ≠ PNAL_ETHTYPE_VLAN ∧ 12 + 4 * k + 2 ≤ len.toNat ∧
    (getUint16At payload (12 + 4 * k) = PNAL_ETHTYPE_PROFINET → 12 + 4 * k + 4 ≤ len.toNat)

/-- The frame is full of VLAN tags, so that the position wraps and the loop ends in the
destination address or at the first two bytes of the source address. -/
def Wrapped (payload : ℕ → Byte) (len : BitVec 16) : Prop :=
  65534 ≤ len.toNat ∧ (∀ j ≤ 16380, getUint16At payload (12 + 4 * j) = PNAL_ETHTYPE_VLAN) ∧
    ∃ i < 3, getUint16At payload (4 * i) ≠ PNAL_ETHTYPE_VLAN

/-! ## The loop -/

/-- The position behind `k` tags. -/
def posAt (pos : BitVec 16) (k : ℕ) : BitVec 16 := pos + BitVec.ofNat 16 (4 * k)

theorem posAt_zero (pos : BitVec 16) : posAt pos 0 = pos := BitVec.add_zero pos

theorem posAt_succ (pos : BitVec 16) (k : ℕ) : posAt (pos + 4#16) k = posAt pos (k + 1) := by
  unfold posAt
  rw [BitVec.add_assoc, BitVec.ofNat_add_ofNat, Nat.mul_succ, Nat.add_comm]

theorem posAt_toNat (k : ℕ) : (posAt 12#16 k).toNat = (12 + 4 * k) % 65536 := by
  unfold posAt
  rw [BitVec.toNat_add, BitVec.toNat_ofNat, BitVec.toNat_ofNat]
  omega

section
variable {payload : ℕ → Byte} {P Q : BitVec 16 → Prop}

/-- What is read when the loop ends, and where it ends. -/
theorem skipVlan_iff (pos : BitVec 16) :
    (∃ fuel r, skipVlan payload fuel pos = some r ∧ (∀ p ∈ r.1, P p) ∧ Q r.2) ↔
      ∃ k, (∀ j < k, getUint16At payload (posAt pos j).toNat = PNAL_ETHTYPE_VLAN) ∧
        getUint16At payload (posAt pos k).toNat ≠ PNAL_ETHTYPE_VLAN ∧
        (∀ j ≤ k, P (posAt pos j)) ∧ Q (posAt pos k) := by
  constructor
  · rintro ⟨fuel, r, hr, hP, hQ⟩
    induction fuel generalizing pos r with
    | zero => cases hr
    | succ left ih =>
      unfold skipVlan at hr
      by_cases hvlan : getUint16At payload pos.toNat = PNAL_ETHTYPE_VLAN
      · rw [if_pos hvlan] at hr
        rcases Option.map_eq_some_iff.mp hr with ⟨r', hr', rfl⟩
        rcases ih (pos + 4#16) r' hr' (fun p hp => hP p (List.mem_cons_of_mem pos hp)) hQ with
          ⟨k, htags, hend, hPk, hQk⟩
        simp only [posAt_succ] at htags hend hPk hQk
        refine ⟨k + 1, ?_, hend, ?_, hQk⟩
        · intro j hj
          cases j with
          | zero => rwa [posAt_zero]
          | succ j => exact htags j (Nat.lt_of_succ_lt_succ hj)
        · intro j hj
          cases j with
          | zero =>
            rw [posAt_zero]
            exact hP pos List.mem_cons_self
          | succ j => exact hPk j (Nat.le_of_succ_le_succ hj)
      · rw [if_neg hvlan] at hr
        obtain rfl := Option.some.inj hr
        refine ⟨0, fun j hj => absurd hj (Nat.not_lt_zero j), ?_, ?_, ?_⟩
        · rwa [posAt_zero]
        · intro j hj
          obtain rfl := Nat.le_zero.mp hj
          rw [posAt_zero]
          exact hP pos (List.mem_singleton_self pos)
        · rwa [posAt_zero]
  · rintro ⟨k, htags, hend, hPk, hQk⟩
    induction k generalizing pos with
    | zero =>
      rw [posAt_zero] at hend hQk
      refine ⟨1, ([pos], pos), ?_, ?_, hQk⟩
      · unfold skipVlan
        rw [if_neg hend]
      · intro p hp
        have hP := hPk 0 (Nat.le_refl 0)
        rw [posAt_zero] at hP
        rwa [List.mem_singleton.mp hp]
    | succ k ih =>
      have hvlan := htags 0 (Nat.zero_lt_succ k)
      have hP := hPk 0 (Nat.zero_le _)
      rw [posAt_zero] at hvlan hP
      have htags' : ∀ j < k,
          getUint16At payload (posAt (pos + 4#16) j).toNat = PNAL_ETHTYPE_VLAN := by
        intro j hj
        rw [posAt_succ]
        exact htags (j + 1) (Nat.succ_lt_succ hj)
      have hPk' : ∀ j ≤ k, P (posAt (pos + 4#16) j) := by
        intro j hj
        rw [posAt_succ]
        exact hPk (j + 1) (Nat.succ_le_succ hj)
      rcases ih (pos + 4#16) htags' (by rwa [posAt_succ]) hPk' (by rwa [posAt_succ]) with
        ⟨fuel, r, hr, hPr, hQr⟩
      refine ⟨fuel + 1, (pos :: r.1, r.2), ?_, ?_, hQr⟩
      · unfold skipVlan
        rw [if_pos hvlan, hr]
        rfl
      · intro p hp
        rcases List.mem_cons.mp hp with rfl | hp
        · exact hP
        · exact hPr p hp

end

/-! ## Dispatch inside the frame -/

section
variable {H : Type} (ethIdMap : ℕ → FrameIdMap H) (payload : ℕ → Byte)

theorem dispatch_inside_iff (reads : List (BitVec 16)) (pos len : BitVec 16) :
    (dispatch ethIdMap payload reads pos).Inside len ↔
      (∀ p ∈ reads, p.toNat + 1 < len.toNat) ∧ (dispatch ethIdMap payload [] pos).Inside len := by
  unfold dispatch
  dsimp only
  split_ifs
  · constructor
    · intro h
      refine ⟨fun p hp => h.reads p (List.mem_append_left _ hp), ⟨fun p hp => ?_, h.handed⟩⟩
      exact h.reads p (List.mem_append_right _ hp)
    · rintro ⟨hreads, h⟩
      refine ⟨fun p hp => ?_, h.handed⟩
      rcases List.mem_append.mp hp with hp | hp
      · exact hreads p hp
      · exact h.reads p hp
  all_goals
    constructor
    · intro h
      exact ⟨h.reads, fun p hp => absurd hp List.not_mem_nil, h.handed⟩
    · rintro ⟨hreads, h⟩
      exact ⟨hreads, h.handed⟩

/-- Of a position that is a multiple of four, the position of the data does not wrap. -/
theorem dispatch_nil_inside_iff {pos len : BitVec 16} (h4 : pos.toNat % 4 = 0)
    (hpos : pos.toNat + 1 < len.toNat) :
    (dispatch ethIdMap payload [] pos).Inside len ↔
      (getUint16At payload pos.toNat = PNAL_ETHTYPE_PROFINET → pos.toNat + 3 < len.toNat) := by
  have hframe : (pos + 2#16).toNat = pos.toNat + 2 := by
    have hlt := pos.isLt
    rw [BitVec.toNat_add, BitVec.toNat_ofNat]
    omega
  have hleft : (pos + 2#16).toNat ≤ len.toNat ∧
      (len - (pos + 2#16)).toNat = len.toNat - (pos + 2#16).toNat := by
    have hle : pos + 2#16 ≤ len := by
      rw [BitVec.le_def]
      omega
    exact ⟨BitVec.le_def.mp hle, BitVec.toNat_sub_of_le hle⟩
  constructor
  · intro h htype
    have hmem : pos + 2#16 ∈ (dispatch ethIdMap payload [] pos).reads := by
      unfold dispatch
      rw [if_pos htype]
      exact List.mem_singleton_self (pos + 2#16)
    have hread := h.reads (pos + 2#16) hmem
    omega
  · intro h
    unfold dispatch
    dsimp only
    split_ifs with htype
    · refine ⟨?_, ?_⟩
      · intro p hp
        rw [List.mem_singleton.mp hp, hframe]
        exact h htype
      · intro q hq
        rcases Option.map_eq_some_iff.mp hq with ⟨ix, -, rfl⟩
        exact hleft
    · refine ⟨fun p hp => absurd hp List.not_mem_nil, ?_⟩
      intro q hq
      obtain rfl := Option.some.inj hq
      exact hleft
    · exact ⟨fun p hp => absurd hp List.not_mem_nil, fun q hq => absurd hq (Option.not_mem_none q)⟩

/-- In terms of the number of tags. -/
theorem recv_iff_posAt (len : BitVec 16) :
    (∃ fuel r, pfEthRecv ethIdMap payload fuel = some r ∧ r.Inside len) ↔
      ∃ k, (∀ j < k, getUint16At payload (posAt 12#16 j).toNat = PNAL_ETHTYPE_VLAN) ∧
        getUint16At payload (posAt 12#16 k).toNat ≠ PNAL_ETHTYPE_VLAN ∧
        (∀ j ≤ k, (posAt 12#16 j).toNat + 1 < len.toNat) ∧
        (getUint16At payload (posAt 12#16 k).toNat = PNAL_ETHTYPE_PROFINET →
          (posAt 12#16 k).toNat + 3 < len.toNat) := by
  have hloop : (∃ fuel r, pfEthRecv ethIdMap payload fuel = some r ∧ r.Inside len) ↔
      ∃ fuel r, skipVlan payload fuel 12#16 = some r ∧ (∀ p ∈ r.1, p.toNat + 1 < len.toNat) ∧
        (dispatch ethIdMap payload [] r.2).Inside len := by
    unfold pfEthRecv
    constructor
    · rintro ⟨fuel, r, hr, hin⟩
      rcases Option.map_eq_some_iff.mp hr with ⟨r', hr', rfl⟩
      exact ⟨fuel, r', hr', (dispatch_inside_iff ethIdMap payload r'.1 r'.2 len).mp hin⟩
    · rintro ⟨fuel, r, hr, hin⟩
      exact ⟨fuel, _, Option.map_eq_some_iff.mpr ⟨r, hr, rfl⟩,
        (dispatch_inside_iff ethIdMap payload r.1 r.2 len).mpr hin⟩
  refine hloop.trans ((skipVlan_iff (P := fun p => p.toNat + 1 < len.toNat)
    (Q := fun p => (dispatch ethIdMap payload [] p).Inside len) 12#16).trans ?_)
  apply exists_congr
  intro k
  apply and_congr_right
  intro _
  apply and_congr_right
  intro _
  apply and_congr_right
  intro hreads
  refine dispatch_nil_inside_iff ethIdMap payload ?_ (hreads k (Nat.le_refl k))
  rw [posAt_toNat]
  omega

/-! ## Frames of which only their own bytes are read -/

/-- Positions up to the largest one with 16 bits. -/
theorem posAt_small {k : ℕ} (hk : k ≤ 16380) : (posAt 12#16 k).toNat = 12 + 4 * k := by
  rw [posAt_toNat]
  omega

/-- The position repeats after 16384 tags. -/
theorem posAt_repeats (k : ℕ) : (posAt 12#16 (k + 16384)).toNat = (posAt 12#16 k).toNat := by
  rw [posAt_toNat, posAt_toNat]
  omega

/-- `pf_eth_recv` ends and stays inside the frame exactly for the frames that are long enough for
their tags, their ethertype and with Profinet their frame ID; or that hold so many tags that the
position wraps. -/
theorem recv_inside_iff (len : BitVec 16) :
    (∃ fuel r, pfEthRecv ethIdMap payload fuel = some r ∧ r.Inside len) ↔
      Complete payload len ∨ Wrapped payload len := by
  rw [recv_iff_posAt]
  constructor
  · rintro ⟨k, htags, hend, hreads, htype⟩
    have hlen := len.isLt
    by_cases hk : k ≤ 16380
    · left
      have hread := hreads k (Nat.le_refl k)
      rw [posAt_small hk] at hend hread htype
      refine ⟨k, ?_, hend, hread, htype⟩
      intro j hj
      have htag := htags j hj
      rwa [posAt_small (by omega)] at htag
    · right
      -- The tag at the last position before the wrap is inside the frame.
      have hread := hreads 16380 (by omega)
      rw [posAt_small (Nat.le_refl 16380)] at hread
      refine ⟨by omega, ?_, ?_⟩
      · intro j hj
        have htag := htags j (by omega)
        rwa [posAt_small hj] at htag
      · -- Behind the third position the loop would be where it began.
        have hfew : k < 16384 := by
          by_contra hmany
          have htag := htags (k - 16384) (by omega)
          rw [← posAt_repeats, Nat.sub_add_cancel (Nat.not_lt.mp hmany)] at htag
          exact hend htag
        refine ⟨k - 16381, by omega, ?_⟩
        rw [posAt_toNat, show (12 + 4 * k) % 65536 = 4 * (k - 16381) by omega] at hend
        exact hend
  · rintro (⟨k, htags, hend, hlong, htype⟩ | ⟨hlong, htags, i, hi, hend⟩)
    · have hlen := len.isLt
      refine ⟨k, ?_, ?_, ?_, ?_⟩
      · intro j hj
        rw [posAt_small (by omega)]
        exact htags j hj
      · rw [posAt_small (by omega)]
        exact hend
      · intro j hj
        rw [posAt_small (by omega)]
        omega
      · rw [posAt_small (by omega)]
        exact htype
    · -- The first of the three positions behind the wrap with another type.
      have hfirst : ∃ k, 16381 ≤ k ∧ k < 16384 ∧
          getUint16At payload (4 * (k - 16381)) ≠ PNAL_ETHTYPE_VLAN ∧
          ∀ j, 16381 ≤ j → j < k → getUint16At payload (4 * (j - 16381)) = PNAL_ETHTYPE_VLAN := by
        have hex : ∃ i, getUint16At payload (4 * i) ≠ PNAL_ETHTYPE_VLAN := ⟨i, hend⟩
        have hle : Nat.find hex ≤ i := Nat.find_min' hex hend
        refine ⟨16381 + Nat.find hex, by omega, by omega, ?_, ?_⟩
        · rw [Nat.add_sub_cancel_left]
          exact Nat.find_spec hex
        · intro j hj hjk
          exact not_not.mp (Nat.find_min hex (by omega))
      rcases hfirst with ⟨k, hk1, hk2, hkend, hktags⟩
      refine ⟨k, ?_, ?_, ?_, ?_⟩
      · intro j hj
        rcases Nat.lt_or_ge j 16381 with hsmall | hwrapped
        · rw [posAt_small (by omega)]
          exact htags j (by omega)
        · rw [posAt_toNat, show (12 + 4 * j) % 65536 = 4 * (j - 16381) by omega]
          exact hktags j hwrapped hj
      · rw [posAt_toNat, show (12 + 4 * k) % 65536 = 4 * (k - 16381) by omega]
        exact hkend
      · intro j hj
        rw [posAt_toNat]
        omega
      · intro _
        rw [posAt_toNat]
        omega

/-- A frame of 60 bytes that holds nothing but VLAN tags is read beyond its end. -/
theorem vlanTags_not_inside :
    ¬ ∃ fuel r, pfEthRecv (fun _ : ℕ => (⟨false, 0#16, ()⟩ : FrameIdMap Unit))
      (fun pos => if pos < 60 then (if pos % 2 = 0 then 0x81 else 0x00) else 0x00) fuel = some r ∧
        r.Inside 60#16 := by
  rw [recv_iff_posAt]
  rintro ⟨k, htags, hend, hreads, -⟩
  -- The type at every position inside the frame is that of a tag.
  have hlt : 12 ≤ k := by
    by_contra hk
    apply hend
    rw [posAt_small (by omega)]
    unfold getUint16At
    dsimp only
    rw [if_pos (by omega), if_pos (by omega), if_pos (by omega), if_neg (by omega)]
    rfl
  have hread := hreads 12 hlt
  rw [posAt_small (by omega)] at hread
  exact absurd hread (by decide)

end

end PNet.Eth
