import PNet.Rpc.Write

/-! # The data of a record

Which bytes of a write request are handed on, and under whose name. A record is inside the
request when its length is not one that wraps around, and not shorter than the block header
that is skipped.
-/

namespace PNet.Rpc

open Block

/-- What is handed on are bytes of the request behind the header of the write, for the AR, the
place and the index that the header names. -/
def Performed.Inside (net : Net) (len : ℕ) (w : Performed) : Prop :=
  ∀ h, w.written.handed = some h →
    ∃ q, ownHeader w.start = some q ∧
      w.start.pos + (blockHeaderSize + writeRequestSize) ≤ h.pos ∧ h.pos + h.length ≤ len ∧
      net.arFindByUuid q.arUuid = some h.ar ∧
      h = handedOf h.receiver h.ar (net.ars h.ar).arep q h.pos h.length

/-- A write that hands on data has a header of its own, with a length that the rest of the
request has and that covers the block header. -/
def Performed.Careful (net : Net) (env : WriteEnv) (w : Performed) : Prop :=
  (handsOn net env w.request w.reader).isSome = true →
    (ownHeader w.start).isSome = true ∧
      w.reader.pos + w.request.recordDataLength.toNat ≤ w.reader.info.len ∧
      (w.request.index ≤ PF_IDX_USER_MAX ∨ blockHeaderSize ≤ w.request.recordDataLength.toNat)

/-! ## Lengths -/

theorem handsOn_some {net : Net} {env : WriteEnv} {q : WriteRequest} {r : Reader} {h : Handed}
    (hh : handsOn net env q r = some h) :
    (BitVec.ofNat 32 r.pos + q.recordDataLength).toNat ≤ r.info.len ∧
      net.arFindByUuid q.arUuid = some h.ar ∧
      h = handedOf h.receiver h.ar (net.ars h.ar).arep q (dataPos q r) (dataLength q) := by
  unfold handsOn at hh
  cases hreach : reachedAr net env q r with
  | none =>
    rw [hreach] at hh
    cases hh
  | some ar =>
    rw [hreach, Option.bind_some] at hh
    split at hh
    · rcases Option.map_eq_some_iff.mp hh with ⟨receiver, -, rfl⟩
      unfold reachedAr at hreach
      split at hreach
      · cases hreach
      · rename_i hno
        rw [not_or, not_lt] at hno
        exact ⟨hno.2, hreach, rfl⟩
    · cases hh

/-- What passes the check of the length is inside the request unless one of the narrow sums
has wrapped around. -/
theorem data_inside_iff {q : WriteRequest} {r : Reader}
    (hcheck : (BitVec.ofNat 32 r.pos + q.recordDataLength).toNat ≤ r.info.len)
    (hok : r.info.result = .PF_PARSE_OK) (hpos : blockHeaderSize ≤ r.pos)
    (hle : r.pos ≤ r.info.len)
    (hlen : r.info.len ≤ PNET_MAX_SESSION_BUFFER_SIZE) :
    dataPos q r + dataLength q ≤ r.info.len ↔
      r.pos + q.recordDataLength.toNat ≤ r.info.len ∧
        (q.index ≤ PF_IDX_USER_MAX ∨ blockHeaderSize ≤ q.recordDataLength.toNat) := by
  have hlt := q.recordDataLength.isLt
  have hlen' : r.info.len ≤ 4500 := hlen
  have hsize : blockHeaderSize = 6 := rfl
  rw [BitVec.toNat_add, BitVec.toNat_ofNat] at hcheck
  unfold dataPos dataLength
  by_cases hidx : q.index ≤ PF_IDX_USER_MAX
  · -- all of the record is data
    rw [if_pos hidx, if_pos hidx, BitVec.toNat_setWidth]
    constructor
    · intro h
      exact ⟨by omega, .inl hidx⟩
    · rintro ⟨h, -⟩
      omega
  · -- the block header in front of the data is skipped
    rcases moves_blockHeader r with ⟨-, hge, -⟩
    have htakes := takes_blockHeader r hok
    rw [if_neg hidx, if_neg hidx, BitVec.toNat_sub, BitVec.toNat_setWidth, BitVec.toNat_ofNat,
      hsize]
    constructor
    · intro h
      have h6 : 6 ≤ q.recordDataLength.toNat := by omega
      exact ⟨by omega, .inr h6⟩
    · rintro ⟨h, hno | h6⟩
      · exact absurd hno hidx
      · have hpos' : (getBlockHeader r).2.pos = r.pos + 6 := by rw [htakes (by omega), hsize]
        omega

/-- One write hands on bytes of the request if and only if it is careful. -/
theorem inside_iff {net : Net} {env : WriteEnv} {len : ℕ} {w : Performed}
    (h : IsTurn net env len w) (hlen : len ≤ PNET_MAX_SESSION_BUFFER_SIZE) :
    w.Inside net len ↔ w.Careful net env := by
  rcases h with ⟨hlen', hown, stat, hwritten⟩
  have hhanded : w.written.handed = handsOn net env w.request w.reader := by
    rw [hwritten]
    exact performOneWrite_spec.1
  unfold Performed.Inside Performed.Careful
  rw [hhanded]
  cases hh : handsOn net env w.request w.reader with
  | none => simp
  | some handed =>
    rcases handsOn_some hh with ⟨hcheck, hfind, heq⟩
    have hpos : handed.pos = dataPos w.request w.reader := by rw [heq]; rfl
    have hlength : handed.length = dataLength w.request := by rw [heq]; rfl
    cases hq : ownHeader w.start with
    | none => simp
    | some q =>
      rcases hown q hq with ⟨rfl, hok, hreader⟩
      have hroom : w.start.pos + (blockHeaderSize + writeRequestSize) ≤ w.start.info.len := by
        unfold ownHeader at hq
        split at hq
        · assumption
        · cases hq
      have hlen'' : w.reader.info.len = len := by rw [hreader]; exact hlen'
      have hrpos : w.reader.pos = w.start.pos + (blockHeaderSize + writeRequestSize) := by
        rw [hreader]
      have hdata := data_inside_iff hcheck (by rw [hreader]; exact hok) (by omega) (by omega)
        (by omega)
      rw [hlen''] at hdata ⊢
      constructor
      · intro hin _
        rcases hin handed rfl with ⟨q', hq', -, hinside, -⟩
        rw [hpos, hlength] at hinside
        exact ⟨rfl, hdata.mp hinside⟩
      · intro hcareful h' hh'
        cases hh'
        refine ⟨w.request, rfl, ?_, ?_, hfind, ?_⟩
        · rw [hpos, ← hrpos]
          unfold dataPos
          split
          · exact le_rfl
          · exact (moves_blockHeader w.reader).2.1
        · rw [hpos, hlength]
          exact hdata.mpr (hcareful rfl).2
        · rw [hpos, hlength]
          exact heq

/-! ## The records of a request -/

/-- Every record that a request writes is inside it, when the writes are careful. A request has
been received into a buffer of the stack. -/
theorem records_inside_iff (net : Net) (env : WriteEnv) (fuel : ℕ) (ndr : NdrData)
    (stat : PnetResult) (start : Reader) (resLen : ℕ) (response : Writer)
    (hlen : start.info.len ≤ PNET_MAX_SESSION_BUFFER_SIZE) :
    (∀ w ∈ (rmWriteInd net env fuel ndr stat start resLen response).performed,
        w.Inside net start.info.len) ↔
      ∀ w ∈ (rmWriteInd net env fuel ndr stat start resLen response).performed,
        w.Careful net env := by
  apply forall₂_congr
  intro w hw
  exact inside_iff (rmWriteInd_isTurn net env fuel ndr stat start resLen response w hw) hlen

/-! ## An example -/

/-- A header of a write to the AR `writableNet`, with an index and a length of the record. -/
def writeHeaderBytes (index : BitVec 16) (recordDataLength : BitVec 32) : List Byte :=
  [0x00, 0x08, 0, 60, 1, 0] ++
    [0, 1, 0, 0, 0, 1, 0, 2, 0, 3, 4, 4, 4, 4, 4, 4, 4, 4, 0, 0, 0, 0, 0, 0, 0x80, 0x01, 0, 0] ++
    bytes16 true index ++ bytes32 true recordDataLength ++ List.replicate 24 0

/-- A request behind the RPC header and the NDR header. -/
def requestOf (bytes : List Byte) : Reader where
  info := ⟨.PF_PARSE_OK, true, Buffer.write (fun _ => 0) 100 bytes, 100 + bytes.length⟩
  pos := 100

/-- An AR that is being parameterised. -/
def writableNet : Net where
  sessions := fun _ => clearedSession
  ars := Function.update (fun _ => clearedAr) 0
    { clearedAr with
      inUse := true, arep := 1, arUuid := ⟨1, 2, 3, Vector.replicate 8 4⟩
      cmdevState := .PF_CMDEV_STATE_W_PEIND, cmwrrState := .PF_CMWRR_STATE_STARTUP }

def acceptingEnv : WriteEnv where
  writeCb := true
  answer := fun _ stat => (0, stat)
  apiKnown := fun api => api = 0

/-- A request of 64 bytes. -/
theorem records_inside_iff_one :
    (requestOf (writeHeaderBytes 1 0)).info.len ≤ PNET_MAX_SESSION_BUFFER_SIZE ∧
      ((∀ w ∈ (rmWriteInd writableNet acceptingEnv 0 ⟨0, 64, 64, 0, 64⟩ noError
          (requestOf (writeHeaderBytes 1 0)) 1000 ⟨fun _ => 0, 80⟩).performed,
          w.Inside writableNet (requestOf (writeHeaderBytes 1 0)).info.len) ↔
        ∀ w ∈ (rmWriteInd writableNet acceptingEnv 0 ⟨0, 64, 64, 0, 64⟩ noError
          (requestOf (writeHeaderBytes 1 0)) 1000 ⟨fun _ => 0, 80⟩).performed,
          w.Careful writableNet acceptingEnv) :=
  ⟨by decide, records_inside_iff _ _ _ _ _ _ _ _ (by decide)⟩

/-- An empty record of the port is handed on as one of 65530 bytes. -/
theorem record_not_inside :
    ¬ ∀ w ∈ (rmWriteInd writableNet acceptingEnv 0 ⟨0, 64, 64, 0, 64⟩ noError
        (requestOf (writeHeaderBytes PF_IDX_SUB_PDPORT_DATA_CHECK 0)) 1000
        ⟨fun _ => 0, 80⟩).performed,
      w.Inside writableNet
        (requestOf (writeHeaderBytes PF_IDX_SUB_PDPORT_DATA_CHECK 0)).info.len := by
  intro h
  have hhanded : (rmWriteInd writableNet acceptingEnv 0 ⟨0, 64, 64, 0, 64⟩ noError
        (requestOf (writeHeaderBytes PF_IDX_SUB_PDPORT_DATA_CHECK 0)) 1000
        ⟨fun _ => 0, 80⟩).performed.map (fun w => w.written.handed) =
      [some ⟨.pdport, 0, 1, 1, 0, 0, 0x8001, PF_IDX_SUB_PDPORT_DATA_CHECK, 164, 65530⟩] := by
    decide +kernel
  rcases List.map_eq_singleton_iff.mp hhanded with ⟨w, hw, hw'⟩
  rcases h w (by rw [hw]; exact List.mem_singleton_self w) _ hw' with ⟨q, -, -, hle, -⟩
  revert hle
  decide

end PNet.Rpc
