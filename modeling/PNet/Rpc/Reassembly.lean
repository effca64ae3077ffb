import PNet.Rpc.Receive

/-! # Putting a message together

A message that comes in fragments is put together in `inBuffer`. The fragments may be lost, repeated,
swapped and mixed with other packets of the session, between them the session is used for other
things.

* `message_of_run` - what has been put together is a message in the order of its numbers, and a
  fragment that does not go on with it is refused and changes nothing
* `message_inOrder` - a message whose fragments come in their order gets through from any state
-/

namespace PNet.Rpc

open Block

/-! ## Packets -/

namespace Packet

def header (p : Packet) : RpcHeader := (received p.toDatagram).1

/-- What a fragment adds to its message: as many bytes behind the header as the header tells. -/
def body (p : Packet) : List Byte :=
  Buffer.slice p.buf (received p.toDatagram).2.pos p.header.lengthOfBody.toNat

theorem body_length (p : Packet) : p.body.length = p.header.lengthOfBody.toNat :=
  Buffer.slice_length _ _ _

/-- The fragment goes on with a message of the fragments `parts`, and there is room for it. -/
def Follows (parts : List Packet) (p : Packet) : Prop :=
  p.header.fragmentNmb = BitVec.ofNat 16 parts.length ∧
    (parts.flatMap body).length + p.body.length ≤ PNET_MAX_SESSION_BUFFER_SIZE

instance (parts : List Packet) (p : Packet) : Decidable (p.Follows parts) :=
  inferInstanceAs (Decidable (_ ∧ _))

end Packet

open Packet

/-- The fragments of a message, in the order in which they are among the packets `ps`. -/
structure Message (parts ps : List Packet) : Prop where
  sublist : parts.Sublist ps
  fragments : ∀ p ∈ parts, p.header.flags.fragment = true
  numbered : parts.map (fun p => p.header.fragmentNmb) =
    (List.range parts.length).map (BitVec.ofNat 16)

/-- The session holds the fragments. -/
structure Holds (s : Session) (parts : List Packet) : Prop where
  inFragmentNbr : s.inFragmentNbr = BitVec.ofNat 16 parts.length
  inBufLen : s.inBufLen = (parts.flatMap body).length
  fits : s.inBufLen ≤ PNET_MAX_SESSION_BUFFER_SIZE
  inBuffer : Buffer.slice s.inBuffer 0 s.inBufLen = parts.flatMap body

/-- What a packet leaves, the session and the position of the parser, when it has been put behind
others and `parts` are all. -/
structure Taken (p : Packet) (parts : List Packet) (r : Session × ℕ) : Prop where
  holds : Holds r.1 parts
  /-- With the last fragment the parser gets the message. -/
  parsed : p.header.flags.lastFragment = true → r.2 = 0 ∧
    r.1.getInfo.len = (parts.flatMap body).length ∧
    Buffer.slice r.1.getInfo.buf 0 r.1.getInfo.len = parts.flatMap body

/-! ## Runs of a session -/

inductive SessionEvent where
  | packet (p : Packet)
  /-- The session is used: all but the input may change. -/
  | use (f : Session → Session)

def SessionEvent.step (s : Session) : SessionEvent → Session
  | packet p => (receivePacket p s).1
  | use f => { f s with
      inBuffer := s.inBuffer
      inBufLen := s.inBufLen
      inFragmentNbr := s.inFragmentNbr
      isBigEndian := s.isBigEndian }

def SessionEvent.packet? : SessionEvent → Option Packet
  | packet p => some p
  | use _ => none

def after (s : Session) (es : List SessionEvent) : Session := es.foldl SessionEvent.step s

def packets (es : List SessionEvent) : List Packet := es.filterMap SessionEvent.packet?

/-! ## One packet -/

/-- The fragments that a packet finds: a first fragment finds none. -/
def found (parts : List Packet) (p : Packet) : List Packet :=
  if p.header.fragmentNmb = 0 then [] else parts

section
variable {s : Session} {parts ps : List Packet} {p : Packet}

theorem stateConflict_ne_noError (s : Session) : (stateConflict s).rpcResult ≠ noError := by
  intro h
  have hcode := congrArg (fun r => r.pnioStatus.errorCode) h
  exact absurd hcode (show PNET_ERROR_CODE_CONNECT ≠ 0 by decide)

/-- The getter tells the byte order that the parser has behind it. -/
def TellsOrder (g : Get RpcHeader) : Prop :=
  ∀ r, (g r).2.info.isBigEndian = (g r).1.isBigEndian

theorem TellsOrder.bind {α : Type} {g : Get α} {f : α → Get RpcHeader} (h : ∀ v, TellsOrder (f v)) :
    TellsOrder (g >>= f) := fun _ => h _ _

theorem tells_bind {α : Type} {e : Bool} {g : Get α} {f : α → Get RpcHeader}
    (h : ∀ v r, (f v r).1.isBigEndian = e) (r : Reader) : ((g >>= f) r).1.isBigEndian = e :=
  h _ _

theorem TellsOrder.set {e : Bool} {g : Get RpcHeader} (hg : Moves g)
    (he : ∀ r, (g r).1.isBigEndian = e) : TellsOrder (setBigEndian e >>= fun _ => g) :=
  fun _ => (hg _).2.2.2.2.trans (he _).symm

/-- The parser goes on in the byte order of the header. -/
theorem tellsOrder_header (dest : RpcHeader) : TellsOrder (getDceRpcHeader dest) := by
  have huuid (dest : Uuid) : Moves (getUuid dest) :=
    moves_uint32.bind fun _ => moves_uint16.bind fun _ => moves_uint16.bind fun _ =>
      (moves_mem dest.data4).map _
  rw [getDceRpcHeader]
  iterate 5 refine TellsOrder.bind fun _ => ?_
  refine TellsOrder.set ?_ ?_
  rotate_left
  · iterate 16 refine tells_bind fun _ => ?_
    exact fun _ => rfl
  iterate 3 refine moves_byte.bind fun _ => ?_
  iterate 3 refine (huuid _).bind fun _ => ?_
  iterate 3 refine moves_uint32.bind fun _ => ?_
  iterate 5 refine moves_uint16.bind fun _ => ?_
  iterate 2 refine moves_byte.bind fun _ => ?_
  exact .pure _

/-- The session before the validation of a fragment. -/
def beforeFragment (p : Packet) (s : Session) : Session :=
  let s := { s with getInfo := (received p.toDatagram).2.info, rpcResult := noError }
  if p.header.fragmentNmb = 0 then startMessage p p.header s else checkEndian p.header s

theorem receivePacket_fragment (h : p.header.flags.fragment = true) (s : Session) :
    receivePacket p s = ({ (addFragment p p.header (received p.toDatagram).2.pos
        (beforeFragment p s)).1 with resendTimeout := false },
      (addFragment p p.header (received p.toDatagram).2.pos (beforeFragment p s)).2) := by
  have hne : ¬ p.header.flags.fragment = false := by
    rw [h]
    exact Bool.noConfusion
  unfold receivePacket
  dsimp only
  rw [show (received p.toDatagram).1 = p.header from rfl, if_neg hne]
  rfl

theorem holds_first (hfirst : p.header.fragmentNmb = 0) (s : Session) :
    Holds (beforeFragment p s) [] ∧ (beforeFragment p s).rpcResult = noError ∧
      (beforeFragment p s).isBigEndian = p.header.isBigEndian := by
  unfold beforeFragment
  dsimp only
  rw [if_pos hfirst]
  refine ⟨⟨rfl, rfl, Nat.zero_le _, Buffer.slice_zero _ _⟩, rfl, ?_⟩
  show (received p.toDatagram).2.info.isBigEndian = (received p.toDatagram).1.isBigEndian
  rw [received]
  exact tellsOrder_header _ _

theorem holds_next (hnext : p.header.fragmentNmb ≠ 0) (h : Holds s parts) :
    Holds (beforeFragment p s) parts ∧ (s.isBigEndian = p.header.isBigEndian →
      (beforeFragment p s).rpcResult = noError ∧
        (beforeFragment p s).isBigEndian = s.isBigEndian) := by
  unfold beforeFragment checkEndian
  dsimp only
  rw [if_neg hnext]
  constructor
  · split
    · exact ⟨h.inFragmentNbr, h.inBufLen, h.fits, h.inBuffer⟩
    · exact ⟨h.inFragmentNbr, h.inBufLen, h.fits, h.inBuffer⟩
  · intro hendian
    rw [if_neg (not_not_intro hendian)]
    exact ⟨rfl, rfl⟩

theorem holds_beforeFragment (h : Holds s parts) : Holds (beforeFragment p s) (found parts p) := by
  unfold found
  by_cases hfirst : p.header.fragmentNmb = 0
  · rw [if_pos hfirst]
    exact (holds_first hfirst s).1
  · rw [if_neg hfirst]
    exact (holds_next hfirst h).1

/-- A fragment that goes on with the message is put behind it. -/
theorem Holds.add (h : Holds (beforeFragment p s) parts) (hfollows : p.Follows parts)
    (hfragment : p.header.flags.fragment = true) :
    let r := receivePacket p s
    Taken p (parts ++ [p]) r ∧ r.1.rpcResult = (beforeFragment p s).rpcResult ∧
      r.1.isBigEndian = (beforeFragment p s).isBigEndian := by
  dsimp only
  rw [receivePacket_fragment hfragment]
  generalize beforeFragment p s = s at h
  rcases hfollows with ⟨hnumber, hroom⟩
  rw [← h.inBufLen, body_length] at hroom
  have hsame : ¬ s.inFragmentNbr ≠ p.header.fragmentNmb := by
    rw [h.inFragmentNbr, hnumber]
    exact not_not_intro rfl
  have hlen : uint16 (s.inBufLen + p.header.lengthOfBody.toNat) =
      ((parts ++ [p]).flatMap body).length := by
    rw [uint16_of_lt (by simp only [PNET_MAX_SESSION_BUFFER_SIZE] at hroom; omega), h.inBufLen,
      List.flatMap_append, List.length_append, List.flatMap_singleton, body_length]
  have hbytes : Buffer.slice (Buffer.write s.inBuffer s.inBufLen p.body) 0
      ((parts ++ [p]).flatMap body).length = (parts ++ [p]).flatMap body := by
    rw [List.flatMap_append, List.flatMap_singleton, List.length_append, ← h.inBufLen,
      Buffer.slice_add, Buffer.slice_write_disjoint (.inl (by omega)), h.inBuffer, Nat.zero_add,
      Buffer.slice_write_self]
  have hholds (s' : Session)
      (hbuf : s'.inBuffer = Buffer.write s.inBuffer s.inBufLen p.body)
      (hlen' : s'.inBufLen = uint16 (s.inBufLen + p.header.lengthOfBody.toNat))
      (hnbr : s'.inFragmentNbr = s.inFragmentNbr + 1) : Holds s' (parts ++ [p]) := by
    constructor
    · rw [hnbr, h.inFragmentNbr, List.length_append, BitVec.ofNat_add]
      rfl
    · rw [hlen', hlen]
    · rw [hlen', uint16_of_lt (by simp only [PNET_MAX_SESSION_BUFFER_SIZE] at hroom; omega)]
      exact hroom
    · rw [hbuf, hlen', hlen]
      exact hbytes
  unfold addFragment
  rw [if_neg hsame, if_neg (by omega)]
  dsimp only
  by_cases hlast : p.header.flags.lastFragment = true
  · rw [if_pos hlast]
    refine ⟨⟨hholds _ rfl rfl rfl, fun _ => ⟨rfl, hlen, ?_⟩⟩, rfl, rfl⟩
    dsimp only
    rw [hlen]
    exact hbytes
  · rw [if_neg hlast]
    exact ⟨⟨hholds _ rfl rfl rfl, fun hyes => absurd hyes hlast⟩, rfl, rfl⟩

/-- Any other one is refused. -/
theorem Holds.refuse (h : Holds (beforeFragment p s) parts) (hnot : ¬ p.Follows parts)
    (hfragment : p.header.flags.fragment = true) :
    Holds (receivePacket p s).1 parts ∧ (receivePacket p s).1.rpcResult ≠ noError := by
  rw [receivePacket_fragment hfragment]
  generalize beforeFragment p s = s at h
  have hconflict : Holds { stateConflict s with resendTimeout := false } parts :=
    ⟨h.inFragmentNbr, h.inBufLen, h.fits, h.inBuffer⟩
  unfold addFragment
  by_cases hnumber : s.inFragmentNbr ≠ p.header.fragmentNmb
  · rw [if_pos hnumber]
    exact ⟨hconflict, stateConflict_ne_noError s⟩
  · have hroom : PNET_MAX_SESSION_BUFFER_SIZE < s.inBufLen + p.header.lengthOfBody.toNat := by
      by_contra hle
      apply hnot
      constructor
      · rw [← h.inFragmentNbr, not_not.mp hnumber]
      · rw [← h.inBufLen, body_length]
        omega
    rw [if_neg hnumber, if_pos hroom]
    exact ⟨hconflict, stateConflict_ne_noError s⟩

/-- The fragments that the session holds after a packet. -/
def collect (parts : List Packet) (p : Packet) : List Packet :=
  if p.header.flags.fragment = false then []
  else if p.Follows (found parts p) then found parts p ++ [p] else found parts p

theorem holds_receivePacket (h : Holds s parts) (p : Packet) :
    Holds (receivePacket p s).1 (collect parts p) := by
  unfold collect
  by_cases hfragment : p.header.flags.fragment = false
  · rw [if_pos hfragment]
    unfold receivePacket
    dsimp only
    rw [show (received p.toDatagram).1 = p.header from rfl, if_pos hfragment]
    exact ⟨rfl, rfl, Nat.zero_le _, Buffer.slice_zero _ _⟩
  · rw [if_neg hfragment]
    have hfound : Holds (beforeFragment p s) (found parts p) := holds_beforeFragment h
    by_cases hfollows : p.Follows (found parts p)
    · rw [if_pos hfollows]
      exact (hfound.add hfollows (eq_true_of_ne_false hfragment)).1.holds
    · rw [if_neg hfollows]
      exact (hfound.refuse hfollows (eq_true_of_ne_false hfragment)).1

theorem message_nil (ps : List Packet) : Message [] ps :=
  ⟨List.nil_sublist ps, fun _ hp => absurd hp List.not_mem_nil, rfl⟩

theorem message_found (h : Message parts ps) : Message (found parts p) ps := by
  unfold found
  split
  · exact message_nil ps
  · exact h

theorem Message.add (h : Message parts ps) (hfragment : p.header.flags.fragment = true)
    (hfollows : p.Follows parts) : Message (parts ++ [p]) (ps ++ [p]) := by
  refine ⟨h.sublist.append (List.Sublist.refl [p]), ?_, ?_⟩
  · intro q hq
    rcases List.mem_append.mp hq with hq | hq
    · exact h.fragments q hq
    · rw [List.mem_singleton.mp hq]
      exact hfragment
  · rw [List.map_append, h.numbered, List.length_append, List.length_singleton, List.range_succ,
      List.map_append, List.map_singleton, List.map_singleton, hfollows.1]

theorem message_collect (h : Message parts ps) (p : Packet) :
    Message (collect parts p) (ps ++ [p]) := by
  unfold collect
  by_cases hfragment : p.header.flags.fragment = false
  · rw [if_pos hfragment]
    exact message_nil _
  · rw [if_neg hfragment]
    have hfound : Message (found parts p) ps := message_found h
    by_cases hfollows : p.Follows (found parts p)
    · rw [if_pos hfollows]
      exact hfound.add (eq_true_of_ne_false hfragment) hfollows
    · rw [if_neg hfollows]
      exact ⟨hfound.sublist.trans (List.sublist_append_left ps [p]), hfound.fragments,
        hfound.numbered⟩

end

/-! ## Runs -/

theorem holds_step {s : Session} {parts ps : List Packet} (hs : Holds s parts)
    (hm : Message parts ps) (e : SessionEvent) :
    ∃ parts', Holds (e.step s) parts' ∧ Message parts' (ps ++ e.packet?.toList) := by
  cases e with
  | packet p => exact ⟨collect parts p, holds_receivePacket hs p, message_collect hm p⟩
  | use f =>
    refine ⟨parts, ⟨hs.inFragmentNbr, hs.inBufLen, hs.fits, hs.inBuffer⟩, ?_⟩
    rw [show SessionEvent.packet? (.use f) = none from rfl, Option.toList_none, List.append_nil]
    exact hm

theorem packets_snoc (es : List SessionEvent) (e : SessionEvent) :
    packets (es ++ [e]) = packets es ++ e.packet?.toList := by
  unfold packets
  rw [List.filterMap_append, List.filterMap_cons, List.filterMap_nil]
  cases e.packet? <;> rfl

/-- The session always holds the beginning of a message that has come in this order. -/
theorem holds_of_run {s : Session} (hlen : s.inBufLen = 0) (hnbr : s.inFragmentNbr = 0)
    (es : List SessionEvent) :
    ∃ parts, Holds (after s es) parts ∧ Message parts (packets es) := by
  induction es using List.reverseRecOn with
  | nil =>
    refine ⟨[], ⟨hnbr, hlen, ?_, ?_⟩, message_nil _⟩
    · show s.inBufLen ≤ _
      rw [hlen]
      exact Nat.zero_le _
    · show Buffer.slice s.inBuffer 0 s.inBufLen = []
      rw [hlen, Buffer.slice_zero]
  | append_singleton es e ih =>
    rcases ih with ⟨parts, hs, hm⟩
    rw [packets_snoc, after, List.foldl_append]
    exact holds_step hs hm e

/-- The packets are a message in the order of its numbers, that fits and has one endianness. -/
structure WholeMessage (ps : List Packet) : Prop where
  message : Message ps ps
  count : ps.length ≤ 2 ^ 16
  fits : (ps.flatMap body).length ≤ PNET_MAX_SESSION_BUFFER_SIZE
  endian : ∀ p ∈ ps, ∀ q ∈ ps, p.header.isBigEndian = q.header.isBigEndian

/-- The session holds the fragments `parts`, and knows their endianness. -/
structure Collects (s : Session) (parts : List Packet) : Prop where
  holds : Holds s parts
  endian : ∀ q ∈ parts.head?, s.isBigEndian = q.header.isBigEndian

section
variable {s : Session} {parts rest : List Packet} {p : Packet}

theorem WholeMessage.follows (h : WholeMessage (parts ++ p :: rest)) :
    p.Follows parts ∧ (p.header.fragmentNmb = 0 ↔ parts = []) := by
  have hnumber : p.header.fragmentNmb = BitVec.ofNat 16 parts.length := by
    have hget := congrArg (fun l => l[parts.length]?) h.message.numbered
    simp only [List.getElem?_map, List.length_append, List.length_cons] at hget
    rw [List.getElem?_append_right (Nat.le_refl _), Nat.sub_self, List.getElem?_cons_zero,
      List.getElem?_range (by omega)] at hget
    exact Option.some.inj hget
  have hroom := h.fits
  rw [List.flatMap_append, List.flatMap_cons, List.length_append, List.length_append] at hroom
  refine ⟨⟨hnumber, by omega⟩, ?_⟩
  have hcount := h.count
  rw [List.length_append, List.length_cons] at hcount
  rw [hnumber, ← List.length_eq_zero_iff, ← BitVec.toNat_inj, BitVec.toNat_ofNat,
    Nat.mod_eq_of_lt (by omega)]
  exact Iff.rfl

/-- The next fragment of a message is taken without an error. -/
theorem collects_step (h : WholeMessage (parts ++ p :: rest)) (hs : parts ≠ [] → Collects s parts) :
    let r := receivePacket p s
    Taken p (parts ++ [p]) r ∧ r.1.rpcResult = noError ∧
      ∀ q ∈ (parts ++ [p]).head?, r.1.isBigEndian = q.header.isBigEndian := by
  rcases h.follows with ⟨hfollows, hzero⟩
  have hfragment := h.message.fragments p (List.mem_append_right _ List.mem_cons_self)
  have hbefore : Holds (beforeFragment p s) parts ∧ (beforeFragment p s).rpcResult = noError ∧
      ∀ q ∈ (parts ++ [p]).head?, (beforeFragment p s).isBigEndian = q.header.isBigEndian := by
    cases parts with
    | nil =>
      rcases holds_first (hzero.mpr rfl) s with ⟨hholds, hresult, hendian⟩
      refine ⟨hholds, hresult, ?_⟩
      rintro q ⟨⟩
      exact hendian
    | cons first parts =>
      rcases hs (List.cons_ne_nil _ _) with ⟨hholds, hendian⟩
      rcases holds_next (fun h0 => List.cons_ne_nil _ _ (hzero.mp h0)) hholds with ⟨hnext, hsame⟩
      have hp := h.endian p (List.mem_append_right _ List.mem_cons_self) first List.mem_cons_self
      have hfirst := hendian first rfl
      rcases hsame (hfirst.trans hp.symm) with ⟨hresult, hkept⟩
      refine ⟨hnext, hresult, ?_⟩
      rintro q ⟨⟩
      rw [hkept, hfirst]
  rcases hbefore with ⟨hholds, hresult, hendian⟩
  rcases hholds.add hfollows hfragment with ⟨htaken, hresult', hendian'⟩
  exact ⟨htaken, hresult'.trans hresult, fun q hq => hendian'.trans (hendian q hq)⟩

theorem collects_of_run (s : Session) (es : List SessionEvent) :
    ∀ rest, WholeMessage (packets es ++ rest) → packets es ≠ [] → Collects (after s es) (packets es) := by
  induction es using List.reverseRecOn with
  | nil => exact fun _ _ hne => absurd rfl hne
  | append_singleton es e ih =>
    intro rest h hne
    rw [packets_snoc] at h hne ⊢
    rw [after, List.foldl_append]
    cases e with
    | packet p =>
      rw [List.append_assoc] at h
      rcases collects_step h (ih (p :: rest) h) with ⟨htaken, -, hendian⟩
      exact ⟨htaken.holds, hendian⟩
    | use f =>
      rw [show SessionEvent.packet? (.use f) = none from rfl, Option.toList_none,
        List.append_nil] at h hne ⊢
      rcases ih rest h hne with ⟨hs, hendian⟩
      exact ⟨⟨hs.inFragmentNbr, hs.inBufLen, hs.fits, hs.inBuffer⟩, hendian⟩

/-- When the packets of a run are a message in its order, each of them is taken without an error,
whatever the session has held before and is used for in between; and the parser gets the whole
message with the last one. -/
theorem message_inOrder (s : Session) {es es' : List SessionEvent}
    (h : WholeMessage (packets (es ++ .packet p :: es'))) :
    let r := receivePacket p (after s es)
    r.1.rpcResult = noError ∧ Taken p (packets es ++ [p]) r := by
  have hsplit : packets (es ++ .packet p :: es') = packets es ++ p :: packets es' :=
    List.filterMap_append
  rw [hsplit] at h
  rcases collects_step h (collects_of_run s es _ h) with ⟨htaken, hresult, -⟩
  exact ⟨hresult, htaken⟩

end

/-! ### Two fragments -/

namespace TwoFragments

/-- A request in fragments, of which this is one. -/
def header (fragmentNmb : BitVec 16) (lastFragment : Bool) : RpcHeader :=
  { blankHeader with
    version := 4
    flags := ⟨lastFragment, true, false, false, false, false⟩
    isBigEndian := true
    lengthOfBody := 3
    fragmentNmb }

def fragment (fragmentNmb : BitVec 16) (lastFragment : Bool) : Packet :=
  ⟨datagramOf (header fragmentNmb lastFragment) [1, 2, 3], 0, 0⟩

def first : SessionEvent := .packet (fragment 0 false)

theorem fragment_header (fragmentNmb : BitVec 16) (lastFragment : Bool) :
    (fragment fragmentNmb lastFragment).header = header fragmentNmb lastFragment :=
  received_datagramOf ⟨show (0 : Byte).toNat < 32 by decide, rfl, rfl⟩ _

theorem inOrder : WholeMessage (packets ([first] ++ .packet (fragment 1 true) :: [])) := by
  have hpackets : packets ([first] ++ .packet (fragment 1 true) :: []) =
      [fragment 0 false, fragment 1 true] := rfl
  rw [hpackets]
  refine ⟨⟨List.Sublist.refl _, ?_, ?_⟩, by decide, ?_, ?_⟩
  · simp [fragment_header, header]
  · simp [fragment_header, header, List.range_succ]
  · simp [body_length, fragment_header, header, PNET_MAX_SESSION_BUFFER_SIZE]
  · simp [fragment_header, header]

end TwoFragments

open TwoFragments in
theorem message_inOrder_second :
    (receivePacket (fragment 1 true) (after clearedSession [first])).1.rpcResult = noError :=
  (message_inOrder clearedSession inOrder).1

end PNet.Rpc
