import PNet.Lldp.Framing

/-! # The walk over the TLVs of a packet

The heads of the loop are the TLVs of a packet, each behind the bytes that the parser consumed of
the one before it, up to the first that is not accepted or has no header. `Walk` is that sequence
of positions, for any rule that says how long a value is: `visits_cases` puts the parser on the
walk by what it consumes.
-/

namespace PNet.Lldp

open Block

variable {p : Packet} {org : OrgHeader} {pos : ℕ}

/-! ## The walk -/

/-- The `n`th TLV starts at `pos`, when a value that starts at `v` is taken to be `size tlv v` bytes
long. -/
inductive Walk (p : Packet) (size : Tlv → ℕ → ℕ) : ℕ → ℕ → Prop
  | first : Walk p size 0 0
  | next {n pos : ℕ} (h : Walk p size n pos) (hin : pos + 2 ≤ p.len)
    (hne : (p.tlvAt pos).type ≠ LLDP_TYPE_END) (hacc : p.Accepts (p.tlvAt pos) (pos + 2)) :
    Walk p size (n + 1) (pos + 2 + size (p.tlvAt pos) (pos + 2))

section
variable {size : Tlv → ℕ → ℕ} {m n pos' : ℕ}

theorem Walk.unique (h : Walk p size n pos) (h' : Walk p size n pos') : pos = pos' := by
  induction h generalizing pos' with
  | first =>
    cases h'
    rfl
  | next _ _ _ _ ih =>
    cases h' with
    | next h' => rw [ih h']

/-- A later TLV is behind the value of an earlier one. -/
theorem Walk.lt (h : Walk p size m pos) (h' : Walk p size n pos') (hlt : m < n) :
    pos + 2 + size (p.tlvAt pos) (pos + 2) ≤ pos' := by
  induction h' with
  | first => exact absurd hlt (Nat.not_lt_zero m)
  | @next n q h' _ _ _ ih =>
    rcases Nat.lt_succ_iff_lt_or_eq.mp hlt with hlt | rfl
    · exact (ih hlt).trans (by omega)
    · rw [h.unique h']

theorem Walk.le (h : Walk p size m pos) (h' : Walk p size n pos') (hle : m ≤ n) : pos ≤ pos' := by
  rcases Nat.lt_or_eq_of_le hle with hlt | rfl
  · exact (by omega : pos ≤ _).trans (h.lt h' hlt)
  · exact (h.unique h').le

/-- Behind the TLV at `pos` the walk goes on where its value ends. -/
theorem Walk.le_or_ge (h : Walk p size n pos) (h' : Walk p size m pos') :
    pos' ≤ pos ∨ pos + 2 + size (p.tlvAt pos) (pos + 2) ≤ pos' := by
  rcases Nat.lt_or_ge n m with hlt | hge
  · exact .inr (h.lt h' hlt)
  · exact .inl (h'.le h hge)

/-- Nothing follows the end of the packet data. -/
theorem Walk.le_end (h : Walk p size n pos) (hend : (p.tlvAt pos).type = LLDP_TYPE_END)
    (h' : Walk p size m pos') : pos' ≤ pos := by
  rcases Nat.lt_or_ge n m with hlt | hge
  · exfalso
    induction h' with
    | first => exact absurd hlt (Nat.not_lt_zero n)
    | @next k q h' _ hne _ ih =>
      rcases Nat.lt_succ_iff_lt_or_eq.mp hlt with hlt | rfl
      · exact ih hlt
      · exact hne (h'.unique h ▸ hend)
  · exact h'.le h hge

end

/-! ## The header of a TLV -/

theorem Packet.tlvAt_len_lt : (p.tlvAt pos).len < 512 := by
  have hand : ∀ head : BitVec 16, (head &&& LLDP_LENGTH_MASK).toNat < 512 := by
    intro head
    rw [BitVec.toNat_and]
    exact lt_of_le_of_lt Nat.and_le_right (by decide)
  exact hand (join2 (p.buf pos) (p.buf (pos + 1)))

theorem getTlv_run (r : Reader) : getTlv r =
    (if (getUint16 r).2.info.result = .PF_PARSE_OK then pure (.ofHead (getUint16 r).1)
      else pure ⟨LLDP_TYPE_END, 0⟩ : Get Tlv) (getUint16 r).2 := rfl

theorem getTlv_reader (hin : pos + 2 ≤ p.len) :
    getTlv (p.reader pos) = (p.tlvAt pos, p.reader (pos + 2)) := by
  have hreads := reads_uint16 true (join2 (p.buf pos) (p.buf (pos + 1)))
  rw [bytes16_join2] at hreads
  rw [getTlv_run, p.run_reads hreads (by simp [slice_cons]) hin]
  rfl

/-- Without a header there is nothing more to handle, and an error. -/
theorem getTlv_errs {r : Reader} (h : (getUint16 r).2.info.result ≠ .PF_PARSE_OK) :
    (getTlv r).1.type = LLDP_TYPE_END ∧ (getTlv r).2.info.result ≠ .PF_PARSE_OK := by
  rw [getTlv_run, if_neg h]
  exact ⟨rfl, h⟩

theorem getUint16_errs (hout : ¬pos + 2 ≤ p.len) :
    (getUint16 (p.reader pos)).2.info.result ≠ .PF_PARSE_OK := by
  by_cases hpos : pos ≤ p.len
  · exact p.run_errs exact_uint16 hpos hout
  · -- the value before went past the end of the packet
    have hbyte : (getByte (p.reader pos)).2.info.result ≠ .PF_PARSE_OK := by
      rw [getByte, if_neg (by simp [Packet.reader]), if_pos (by exact (not_le.mp hpos).le)]
      exact endOfInput_ne_ok
    have hrun : getUint16 (p.reader pos) = get2 (fun a b => join2 a b) (p.reader pos) := by
      rw [getUint16, if_neg (by simp [Packet.reader])]
      rfl
    rw [hrun]
    exact errs_bind hbyte fun _ => (exact_byte.map _).keepsError

/-! ## The parser on the walk -/

/-- The parser is at the value of the TLV that starts at `pos`. -/
structure Scan.At (s : Scan) (p : Packet) (pos : ℕ) : Prop where
  tlv : s.tlv = p.tlvAt pos
  reader : s.reader = p.reader (pos + 2)
  header : pos + 2 ≤ p.len

/-- The parser has stopped because of an error. -/
structure Scan.Failed (s : Scan) : Prop where
  type : s.tlv.type = LLDP_TYPE_END
  result : s.reader.info.result ≠ .PF_PARSE_OK

/-- What the loop does behind a TLV that has been handled without an error. -/
theorem scan_reader {info : PeerInfo} (pos : ℕ) :
    (⟨(getTlv (p.reader pos)).1, org, info, (getTlv (p.reader pos)).2⟩ : Scan).At p pos ∨
      ¬pos + 2 ≤ p.len ∧
        (⟨(getTlv (p.reader pos)).1, org, info, (getTlv (p.reader pos)).2⟩ : Scan).Failed := by
  by_cases hin : pos + 2 ≤ p.len
  · rw [getTlv_reader hin]
    exact .inl ⟨rfl, rfl, hin⟩
  · rcases getTlv_errs (getUint16_errs hin) with ⟨htype, hresult⟩
    exact .inr ⟨hin, htype, hresult⟩

theorem first_cases (p : Packet) (org : OrgHeader) :
    (p.first org).info = .zero ∧
      ((p.first org).At p 0 ∨ ¬0 + 2 ≤ p.len ∧ (p.first org).Failed) :=
  ⟨rfl, scan_reader 0⟩

/-- One turn of the loop. -/
theorem next_cases {s : Scan} (h : s.At p pos) :
    (p.Accepts (p.tlvAt pos) (pos + 2) ∧
      s.handled.2 = p.reader (pos + 2 + p.consumed (p.tlvAt pos) (pos + 2)) ∧
      Stores s.info (p.tlvAt pos).type
        (Buffer.slice p.buf (pos + 2) (p.consumed (p.tlvAt pos) (pos + 2))) s.next.info ∧
      (s.next.At p (pos + 2 + p.consumed (p.tlvAt pos) (pos + 2)) ∨
        ¬pos + 2 + p.consumed (p.tlvAt pos) (pos + 2) + 2 ≤ p.len ∧ s.next.Failed)) ∨
    (¬p.Accepts (p.tlvAt pos) (pos + 2) ∧ s.handled.2.info.result ≠ .PF_PARSE_OK ∧
      s.next.Failed) := by
  rcases s with ⟨tlv, org, info, reader⟩
  obtain rfl : tlv = p.tlvAt pos := h.tlv
  obtain rfl : reader = p.reader (pos + 2) := h.reader
  by_cases hacc : p.Accepts (p.tlvAt pos) (pos + 2)
  · left
    rcases handle_reader org info h.header p.tlvAt_len_lt hacc with
      ⟨org', info', hrun, hstores⟩
    have hhandled : (⟨p.tlvAt pos, org, info, p.reader (pos + 2)⟩ : Scan).handled =
      ((org', info'), p.reader (pos + 2 + p.consumed (p.tlvAt pos) (pos + 2))) := hrun
    refine ⟨hacc, ?_, ?_, ?_⟩
    · rw [hhandled]
    · rw [Scan.next, hhandled]
      exact hstores
    · rw [Scan.next, hhandled]
      exact scan_reader _
  · right
    have herrs := handle_errs org info h.header hacc
    refine ⟨hacc, herrs, ?_⟩
    rcases getTlv_errs (exact_uint16.keepsError _ herrs) with ⟨htype, hresult⟩
    exact ⟨htype, hresult⟩

theorem visits_of_walk (org : OrgHeader) {n : ℕ} (h : Walk p p.consumed n pos) (hin : pos + 2 ≤ p.len) :
    ∃ s, Visits p org s ∧ s.At p pos := by
  induction h with
  | first => exact ⟨_, .first, (first_cases p org).2.resolve_right fun h => h.1 hin⟩
  | @next n q _ hin' hne hacc ih =>
    rcases ih hin' with ⟨s, hvisits, hat⟩
    rcases next_cases hat with ⟨-, -, -, hnext⟩ | ⟨hrej, -⟩
    · exact ⟨s.next, hvisits.next (hat.tlv ▸ hne), hnext.resolve_right fun h => h.1 hin⟩
    · exact absurd hacc hrej

/-! ## The loop ends -/

theorem loop_ends {fuel : ℕ} {s : Scan} (h : (∃ pos, s.At p pos ∧ p.len < pos + fuel) ∨ s.Failed)
    (hfuel : 0 < fuel) : ∃ out, loop fuel s = some out := by
  induction fuel generalizing s with
  | zero => exact absurd hfuel (Nat.lt_irrefl 0)
  | succ fuel ih =>
    by_cases hend : s.tlv.type = LLDP_TYPE_END
    · exact ⟨s, if_pos hend⟩
    · rcases h with ⟨pos, hat, hlt⟩ | hfailed
      · have hin := hat.header
        have hnext : (∃ pos', s.next.At p pos' ∧ p.len < pos' + fuel) ∨ s.next.Failed := by
          rcases next_cases hat with ⟨-, -, -, hnext | ⟨-, hfailed⟩⟩ | ⟨-, -, hfailed⟩
          · exact .inl ⟨_, hnext, by omega⟩
          · exact .inr hfailed
          · exact .inr hfailed
        rcases ih hnext (by omega) with ⟨out, hout⟩
        exact ⟨out, (if_neg hend).trans hout⟩
      · exact absurd hfailed.type hend

theorem loop_mono {fuel fuel' : ℕ} {s out : Scan} (h : loop fuel s = some out)
    (hle : fuel ≤ fuel') : loop fuel' s = some out := by
  induction fuel generalizing s fuel' with
  | zero => exact nomatch h
  | succ fuel ih =>
    rcases Nat.exists_eq_add_of_le' (Nat.one_le_of_lt hle) with ⟨k, rfl⟩
    rw [loop] at h ⊢
    split
    · rename_i hend
      rwa [if_pos hend] at h
    · rename_i hend
      rw [if_neg hend] at h
      exact ih h (Nat.le_of_succ_le_succ hle)

/-- The loop is left at an end that it visits. -/
theorem loop_visits {fuel : ℕ} {s out : Scan} (hs : Visits p org s) (h : loop fuel s = some out) :
    Visits p org out ∧ out.tlv.type = LLDP_TYPE_END := by
  induction fuel generalizing s with
  | zero => exact nomatch h
  | succ fuel ih =>
    rw [loop] at h
    by_cases hend : s.tlv.type = LLDP_TYPE_END
    · rw [if_pos hend] at h
      obtain rfl := Option.some.inj h
      exact ⟨hs, hend⟩
    · rw [if_neg hend] at h
      exact ih (hs.next hend) h

/-- It ends on every packet, after at most as many turns as there are bytes. -/
theorem parsePacket_ends (p : Packet) (org : OrgHeader) :
    ∃ out, ∀ fuel, p.len < fuel → parsePacket fuel p org = some out := by
  have hfirst : (∃ pos, (p.first org).At p pos ∧ p.len < pos + (p.len + 1)) ∨
      (p.first org).Failed := by
    rcases (first_cases p org).2 with hat | ⟨-, hfailed⟩
    · exact .inl ⟨0, hat, by omega⟩
    · exact .inr hfailed
  rcases loop_ends hfirst (Nat.succ_pos _) with ⟨out, hout⟩
  refine ⟨out.answer, fun fuel hfuel => ?_⟩
  rw [parsePacket, loop_mono hout hfuel]
  rfl

/-! ## Nothing behind the packet is read -/

theorem inside_skip (n : ℤ) : Inside (skip n) := fun _ _ _ => ⟨rfl, rfl, rfl⟩

theorem inside_parseError : Inside parseError := fun _ _ _ => ⟨rfl, rfl, rfl⟩

theorem inside_getTlv : Inside getTlv := by
  intro r b hb
  rcases inside_uint16 r b hb with ⟨hrun, hbuf, hlen⟩
  rw [getTlv_run, getTlv_run, hrun]
  by_cases hok : (getUint16 r).2.info.result = .PF_PARSE_OK
  · rw [if_pos hok, if_pos (by exact hok)]
    exact ⟨rfl, hbuf, hlen⟩
  · rw [if_neg hok, if_neg (by exact hok)]
    exact ⟨rfl, hbuf, hlen⟩

theorem inside_id (maxLen tlvLen : ℕ) (id : Id) : Inside (getId maxLen tlvLen id) :=
  Inside.ite (Inside.pure _) (Inside.ite ((inside_skip _).bind fun _ => Inside.pure _)
    (inside_byte.bind fun _ => (inside_bytes _ _).bind fun _ => Inside.pure _))

/-- A value that is read only when the length is right. -/
theorem inside_checked {α : Type} {tlvLen wanted : ℕ} {old : α} {g : Get α} (hg : Inside g) :
    Inside (if tlvLen ≠ wanted then (parseError >>= fun _ => pure old) else g) :=
  Inside.ite (inside_parseError.bind fun _ => Inside.pure _) hg

theorem inside_managementAddress (tlvLen : ℕ) : Inside (getManagementAddress tlvLen) :=
  inside_byte.bind fun _ => Inside.ite ((inside_skip _).bind fun _ => Inside.pure _)
    (inside_byte.bind fun _ => (inside_bytes _ _).bind fun _ => inside_byte.bind fun _ =>
      inside_uint32.bind fun _ => inside_byte.bind fun _ => (inside_skip _).bind fun _ =>
        Inside.pure _)

theorem inside_handleOrg (tlvLen : ℕ) (org : OrgHeader) (info : PeerInfo) :
    Inside (handleOrg tlvLen org info) := by
  have hskip : Inside (do
      skip (tlvLen - 4)
      return info : Get PeerInfo) := (inside_skip _).bind fun _ => Inside.pure _
  have hdelay : Inside (getSignalDelay tlvLen info.portDelay) :=
    inside_checked (inside_uint32.bind fun _ => inside_uint32.bind fun _ =>
      inside_uint32.bind fun _ => inside_uint32.bind fun _ => inside_uint32.map _)
  have hphy : Inside (getLinkStatus tlvLen) :=
    inside_checked (inside_byte.bind fun _ => inside_uint16.bind fun _ => inside_uint16.map _)
  exact Inside.ite (Inside.ite (hdelay.map _) (Inside.ite ((inside_checked (inside_mem _)).map _)
    (Inside.ite ((inside_checked (inside_mem _)).map _) hskip)))
    (Inside.ite (Inside.ite (hphy.map _) hskip) hskip)

theorem inside_handle (tlv : Tlv) (org : OrgHeader) (info : PeerInfo) :
    Inside (handle tlv org info) := by
  rw [handle]
  split
  · exact (inside_id _ _ _).map _
  · exact (inside_id _ _ _).map _
  · exact (inside_checked inside_uint16).map _
  · exact Inside.map (Inside.ite ((inside_skip _).bind fun _ => Inside.pure _)
      ((inside_bytes _ _).map _)) _
  · exact (inside_managementAddress _).map _
  · exact Inside.bind ((inside_mem _).bind fun _ => inside_byte.map _) fun org' =>
      (inside_handleOrg _ org' info).map _
  · exact (inside_skip _).bind fun _ => Inside.pure _

/-- The head of the loop on other bytes. -/
def Scan.onto (s : Scan) (b : ℕ → Byte) : Scan := { s with reader := s.reader.onto b }

theorem next_onto {s : Scan} {b : ℕ → Byte}
    (hb : ∀ i < s.reader.info.len, b i = s.reader.info.buf i) :
    (s.onto b).next = s.next.onto b ∧ s.next.reader.info.buf = s.reader.info.buf ∧
      s.next.reader.info.len = s.reader.info.len := by
  rcases inside_handle s.tlv s.org s.info s.reader b hb with ⟨hrun, hbuf, hlen⟩
  rcases inside_getTlv s.handled.2 b (by rwa [Scan.handled, hbuf, hlen]) with ⟨hrun', hbuf', hlen'⟩
  refine ⟨?_, hbuf'.trans hbuf, hlen'.trans hlen⟩
  have hhandled : (s.onto b).handled = (s.handled.1, s.handled.2.onto b) := hrun
  rw [Scan.next, hhandled]
  show (⟨(getTlv (s.handled.2.onto b)).1, _, _, (getTlv (s.handled.2.onto b)).2⟩ : Scan) = _
  rw [hrun']
  rfl

theorem loop_onto {fuel : ℕ} {s : Scan} {b : ℕ → Byte}
    (hb : ∀ i < s.reader.info.len, b i = s.reader.info.buf i) :
    loop fuel (s.onto b) = (loop fuel s).map fun out => out.onto b := by
  induction fuel generalizing s with
  | zero => rfl
  | succ fuel ih =>
    rcases next_onto hb with ⟨hnext, hbuf, hlen⟩
    rw [loop, loop, hnext, ih (by rwa [hbuf, hlen])]
    split
    · rw [if_pos (by assumption)]
      rfl
    · rw [if_neg (by assumption)]

theorem parsePacket_inside {p' : Packet} (hlen : p'.len = p.len)
    (hbuf : ∀ i < p.len, p'.buf i = p.buf i) (fuel : ℕ) :
    parsePacket fuel p' org = parsePacket fuel p org := by
  have hstart : p'.reader 0 = (p.reader 0).onto p'.buf := by
    rw [Packet.reader, hlen]
    rfl
  rcases inside_getTlv (p.reader 0) p'.buf hbuf with ⟨hrun, hbuf', hlen'⟩
  have hfirst : p'.first org = (p.first org).onto p'.buf := by
    show (⟨(getTlv (p'.reader 0)).1, _, _, (getTlv (p'.reader 0)).2⟩ : Scan) = _
    rw [hstart, hrun]
    rfl
  have hagree : ∀ i < (p.first org).reader.info.len,
      p'.buf i = (p.first org).reader.info.buf i := by
    show ∀ i < (getTlv (p.reader 0)).2.info.len, p'.buf i = (getTlv (p.reader 0)).2.info.buf i
    rwa [hbuf', hlen']
  rw [parsePacket, parsePacket, hfirst, loop_onto hagree, Option.map_map]
  rfl

end PNet.Lldp
