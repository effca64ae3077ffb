import PNet.Lib.Ring
import PNet.Rpc.Write

/-! # The log book

`pf_fspm_create_log_book_entry` puts an entry into a ring, and `pf_put_log_book_data` writes the
ring into the response of a read. The block counts all cells of a ring that is full, and has one
entry less.

* `createLogBookEntries_holds`: the ring after any number of calls.
* `readsRecent_iff`: when a read yields the most recent entries.
-/

namespace PNet.Fspm

open Block Rpc Ring

/-! ## Entries -/

def PF_TS_STATUS_LOCAL_ARB : BitVec 16 := 2
def PF_BT_LOG_BOOK_DATA : BitVec 16 := 0x0019

/-- `pf_log_book_ts_t`. -/
structure LogBookTs where
  status : BitVec 16
  secHi : BitVec 16
  secLo : BitVec 32
  nanoSec : BitVec 32
deriving DecidableEq, Repr

/-- `pf_log_book_entry_t`. -/
structure LogBookEntry where
  timeTs : LogBookTs
  arUuid : Uuid
  pnioStatus : PnioStatus
  entryDetail : BitVec 32
deriving DecidableEq, Repr

/-- `pf_log_book_t`. -/
structure LogBook extends Ring LogBookEntry where
  timeTs : LogBookTs

def clearedTs : LogBookTs := ⟨0, 0, 0, 0⟩

/-- The log book of a new stack. -/
def clearedLogBook : LogBook :=
  ⟨⟨fun _ => ⟨clearedTs, zeroUuid, ⟨0, 0, 0, 0⟩, 0⟩, 0, false⟩, clearedTs⟩

/-- A call of `pf_fspm_create_log_book_entry`: what it gets, and what it finds. -/
structure Creation where
  /-- The UUID of the AR that `pf_ar_find_by_arep` finds. -/
  arUuid : Option Uuid
  pnioStatus : PnioStatus
  entryDetail : BitVec 32
  /-- The system time in microseconds. -/
  time : BitVec 32

/-- The entry of a call that finds its AR. -/
def Creation.entry (c : Creation) (arUuid : Uuid) : LogBookEntry where
  timeTs := ⟨PF_TS_STATUS_LOCAL_ARB, 0, c.time / 1000000, (c.time % 1000000) * 1000⟩
  arUuid
  pnioStatus := c.pnioStatus
  entryDetail := c.entryDetail

/-- `pf_fspm_create_log_book_entry`. -/
def createLogBookEntry (c : Creation) (book : LogBook) : LogBook :=
  c.arUuid.elim book fun arUuid =>
    { book with toRing := book.push PNET_MAX_LOG_BOOK_ENTRIES (c.entry arUuid) }

/-- The log book after some calls. -/
def createLogBookEntries (cs : List Creation) : LogBook :=
  cs.foldl (fun book c => createLogBookEntry c book) clearedLogBook

/-- The entries that the calls have created, the oldest first. -/
def created (cs : List Creation) : List LogBookEntry := cs.filterMap fun c => c.arUuid.map c.entry

/-! ## The block -/

/-- `pf_put_time_timestamp`. -/
def putTimeTimestamp (e : Bool) (ts : LogBookTs) (resLen : ℕ) (w : Writer) : Writer :=
  let w := putUint16 e ts.secHi resLen w
  let w := putUint16 e (ts.secLo.setWidth 16) resLen w
  putUint32 e ts.nanoSec resLen w

def putLogBookEntry (e : Bool) (entry : LogBookEntry) (resLen : ℕ) (w : Writer) : Writer :=
  let w := putTimeTimestamp e entry.timeTs resLen w
  let w := putUuid e entry.arUuid resLen w
  let w := putPnetStatus e entry.pnioStatus resLen w
  putUint32 e entry.entryDetail resLen w

/-- The loop of `pf_put_log_book_data`, `fuel` turns of it. -/
def putEntriesFrom (e : Bool) (book : LogBook) (resLen : ℕ) : ℕ → ℕ → Writer → Writer
  | 0, _, w => w
  | fuel + 1, ix, w =>
    if ix = book.put then w
    else
      putEntriesFrom e book resLen fuel (next PNET_MAX_LOG_BOOK_ENTRIES ix)
        (putLogBookEntry e (book.entries ix) resLen w)

/-- The index at which the loop starts, and the count of the block. -/
def logBookStart (book : LogBook) : ℕ × ℕ :=
  if book.wrap then (next PNET_MAX_LOG_BOOK_ENTRIES book.put, PNET_MAX_LOG_BOOK_ENTRIES)
  else (0, book.put)

/-- `pf_put_log_book_data`. The indices of the ring do not repeat, so that there are not more turns
than cells. -/
def putLogBookData (e : Bool) (book : LogBook) (resLen : ℕ) (w : Writer) : Writer :=
  let blockPos := w.pos
  let w := putBlockHeader e PF_BT_LOG_BOOK_DATA 0 PNET_BLOCK_VERSION_HIGH PNET_BLOCK_VERSION_LOW
    resLen w
  let (ix, cnt) := logBookStart book
  let w := putTimeTimestamp e book.timeTs resLen w
  let w := putUint16 e (BitVec.ofNat 16 cnt) resLen w
  let w := putEntriesFrom e book resLen PNET_MAX_LOG_BOOK_ENTRIES ix w
  let blockLen := BitVec.ofNat 16 w.pos - BitVec.ofNat 16 (blockPos + 4)
  ⟨(putUint16 e blockLen resLen ⟨w.bytes, blockPos + 2⟩).bytes, w.pos⟩

/-! ## The bytes of a block -/

def timestampBytes (e : Bool) (ts : LogBookTs) : List Byte :=
  bytes16 e ts.secHi ++ bytes16 e (ts.secLo.setWidth 16) ++ bytes32 e ts.nanoSec

def statusBytes (e : Bool) (st : PnioStatus) : List Byte :=
  bytes32 e (join4 st.errorCode st.errorDecode st.errorCode1 st.errorCode2)

def entryBytes (e : Bool) (entry : LogBookEntry) : List Byte :=
  timestampBytes e entry.timeTs ++ uuidBytes e entry.arUuid ++ statusBytes e entry.pnioStatus ++
    bytes32 e entry.entryDetail

/-- A block of the log book behind its length, with a count. -/
def logBookBody (e : Bool) (ts : LogBookTs) (cnt : ℕ) (entries : List LogBookEntry) : List Byte :=
  [PNET_BLOCK_VERSION_HIGH, PNET_BLOCK_VERSION_LOW] ++ timestampBytes e ts ++
    bytes16 e (BitVec.ofNat 16 cnt) ++ entries.flatMap (entryBytes e)

/-- A block of the log book. -/
def logBookBlock (e : Bool) (ts : LogBookTs) (cnt : ℕ) (entries : List LogBookEntry) : List Byte :=
  bytes16 e PF_BT_LOG_BOOK_DATA ++
    bytes16 e (BitVec.ofNat 16 (logBookBody e ts cnt entries).length) ++
    logBookBody e ts cnt entries

theorem timestampBytes_length (e : Bool) (ts : LogBookTs) : (timestampBytes e ts).length = 8 := by
  simp [timestampBytes]

theorem entryBytes_length (e : Bool) (entry : LogBookEntry) : (entryBytes e entry).length = 32 := by
  simp [entryBytes, statusBytes, timestampBytes_length]

theorem entriesBytes_length (e : Bool) (entries : List LogBookEntry) :
    (entries.flatMap (entryBytes e)).length = 32 * entries.length := by
  induction entries with
  | nil => rfl
  | cons x entries ih =>
    rw [List.flatMap_cons, List.length_append, entryBytes_length, ih, List.length_cons]
    omega

theorem logBookBody_length (e : Bool) (ts : LogBookTs) (cnt : ℕ) (entries : List LogBookEntry) :
    (logBookBody e ts cnt entries).length = 12 + 32 * entries.length := by
  simp only [logBookBody, List.length_append, timestampBytes_length, bytes16_length,
    entriesBytes_length, List.length_cons, List.length_nil]

theorem logBookBlock_length (e : Bool) (ts : LogBookTs) (cnt : ℕ) (entries : List LogBookEntry) :
    (logBookBlock e ts cnt entries).length = 16 + 32 * entries.length := by
  simp only [logBookBlock, List.length_append, bytes16_length, logBookBody_length]
  omega

/-! ## What is written -/

variable {resLen : ℕ}

theorem appends_timestamp (e : Bool) (ts : LogBookTs) :
    Appends resLen (putTimeTimestamp e ts resLen) (timestampBytes e ts) :=
  ((appends_uint16 e _).comp (appends_uint16 e _)).comp (appends_uint32 e _)

theorem appends_entry (e : Bool) (entry : LogBookEntry) :
    Appends resLen (putLogBookEntry e entry resLen) (entryBytes e entry) :=
  (((appends_timestamp e _).comp (appends_uuid e _)).comp (appends_uint32 e _)).comp
    (appends_uint32 e _)

theorem stays_timestamp (e : Bool) (ts : LogBookTs) :
    Stays resLen (putTimeTimestamp e ts resLen) :=
  ((stays_uint16 e _).comp (stays_uint16 e _)).comp (stays_uint32 e _)

theorem stays_uuid (e : Bool) (u : Uuid) : Stays resLen (putUuid e u resLen) :=
  (((stays_uint32 e _).comp (stays_uint16 e _)).comp (stays_uint16 e _)).comp (stays_mem _)

theorem stays_entry (e : Bool) (entry : LogBookEntry) :
    Stays resLen (putLogBookEntry e entry resLen) :=
  (((stays_timestamp e _).comp (stays_uuid e _)).comp (stays_uint32 e _)).comp (stays_uint32 e _)

/-- The loop writes the entries of a walk. -/
theorem putEntriesFrom_eq (e : Bool) (book : LogBook) (fuel ix : ℕ) (w : Writer) :
    putEntriesFrom e book resLen fuel ix w =
      (walk PNET_MAX_LOG_BOOK_ENTRIES book.entries book.put fuel ix).foldl
        (fun w x => putLogBookEntry e x resLen w) w := by
  induction fuel generalizing ix w with
  | zero => rfl
  | succ fuel ih =>
    rw [putEntriesFrom, walk]
    split
    · rfl
    · rw [List.foldl_cons]
      exact ih _ _

theorem appends_entries (e : Bool) (entries : List LogBookEntry) :
    Appends resLen (fun w => entries.foldl (fun w x => putLogBookEntry e x resLen w) w)
      (entries.flatMap (entryBytes e)) := by
  induction entries with
  | nil =>
    intro w _
    simp [Writer.append]
  | cons x entries ih => exact (appends_entry e x).comp ih

theorem stays_entries (e : Bool) (entries : List LogBookEntry) :
    Stays resLen fun w => entries.foldl (fun w x => putLogBookEntry e x resLen w) w := by
  induction entries with
  | nil =>
    intro w
    exact le_max_left _ _
  | cons x entries ih => exact (stays_entry e x).comp ih

/-- The block before its length is known. -/
def putLogBookFields (e : Bool) (ts : LogBookTs) (cnt : ℕ) (entries : List LogBookEntry)
    (resLen : ℕ) (w : Writer) : Writer :=
  entries.foldl (fun w x => putLogBookEntry e x resLen w)
    (putUint16 e (BitVec.ofNat 16 cnt) resLen (putTimeTimestamp e ts resLen
      (putBlockHeader e PF_BT_LOG_BOOK_DATA 0 PNET_BLOCK_VERSION_HIGH PNET_BLOCK_VERSION_LOW resLen
        w)))

/-- The entries and the count that are written. -/
def written (book : LogBook) : List LogBookEntry :=
  walk PNET_MAX_LOG_BOOK_ENTRIES book.entries book.put PNET_MAX_LOG_BOOK_ENTRIES
    (logBookStart book).1

theorem putLogBookData_eq (e : Bool) (book : LogBook) (w : Writer) :
    putLogBookData e book resLen w =
      let fields := putLogBookFields e book.timeTs (logBookStart book).2 (written book) resLen w
      ⟨(putUint16 e (BitVec.ofNat 16 fields.pos - BitVec.ofNat 16 (w.pos + 4)) resLen
        ⟨fields.bytes, w.pos + 2⟩).bytes, fields.pos⟩ := by
  unfold putLogBookData putLogBookFields written
  rw [← putEntriesFrom_eq]

theorem appends_fields (e : Bool) (ts : LogBookTs) (cnt : ℕ) (entries : List LogBookEntry) :
    Appends resLen (putLogBookFields e ts cnt entries resLen)
      (bytes16 e PF_BT_LOG_BOOK_DATA ++ bytes16 e (0 + BitVec.ofNat 16 blockHeaderSize - 4) ++
        logBookBody e ts cnt entries) := by
  have h := ((((((@appends_uint16 resLen e PF_BT_LOG_BOOK_DATA).comp
    (appends_uint16 e (0 + BitVec.ofNat 16 blockHeaderSize - 4))).comp
    (appends_byte PNET_BLOCK_VERSION_HIGH)).comp (appends_byte PNET_BLOCK_VERSION_LOW)).comp
    (appends_timestamp e ts)).comp (appends_uint16 e (BitVec.ofNat 16 cnt))).comp
    (appends_entries e entries)
  have hbytes : bytes16 e PF_BT_LOG_BOOK_DATA ++
      bytes16 e (0 + BitVec.ofNat 16 blockHeaderSize - 4) ++ [PNET_BLOCK_VERSION_HIGH] ++
      [PNET_BLOCK_VERSION_LOW] ++ timestampBytes e ts ++ bytes16 e (BitVec.ofNat 16 cnt) ++
      entries.flatMap (entryBytes e) =
      bytes16 e PF_BT_LOG_BOOK_DATA ++ bytes16 e (0 + BitVec.ofNat 16 blockHeaderSize - 4) ++
        logBookBody e ts cnt entries := by
    simp only [logBookBody, List.append_assoc, List.cons_append, List.nil_append]
  rw [← hbytes]
  exact h

theorem stays_fields (e : Bool) (ts : LogBookTs) (cnt : ℕ) (entries : List LogBookEntry) :
    Stays resLen (putLogBookFields e ts cnt entries resLen) :=
  ((((((stays_uint16 e _).comp (stays_uint16 e _)).comp (stays_byte _)).comp (stays_byte _)).comp
    (stays_timestamp e _)).comp (stays_uint16 e _)).comp (stays_entries e _)

theorem ofNat_add_sub (a b : ℕ) :
    BitVec.ofNat 16 (a + b) - BitVec.ofNat 16 a = BitVec.ofNat 16 b := by
  rw [BitVec.ofNat_add, BitVec.add_comm, BitVec.add_sub_cancel]

/-- With room for it, a whole block is written. -/
theorem putLogBookData_of_room (e : Bool) {book : LogBook} {w : Writer}
    (hroom : w.pos + (16 + 32 * (written book).length) ≤ resLen) :
    putLogBookData e book resLen w =
      w.append (logBookBlock e book.timeTs (logBookStart book).2 (written book)) := by
  have hlen : (bytes16 e PF_BT_LOG_BOOK_DATA ++
      bytes16 e (0 + BitVec.ofNat 16 blockHeaderSize - 4) ++
      logBookBody e book.timeTs (logBookStart book).2 (written book)).length =
      16 + 32 * (written book).length := by
    simp only [List.length_append, bytes16_length, logBookBody_length]
    omega
  have hfields := @appends_fields resLen e book.timeTs (logBookStart book).2 (written book) w
    (hlen ▸ hroom)
  have hpos : w.pos + (16 + 32 * (written book).length) =
      w.pos + 4 + (logBookBody e book.timeTs (logBookStart book).2 (written book)).length := by
    rw [logBookBody_length]
    omega
  have hpatch := @appends_uint16 resLen e (BitVec.ofNat 16
    (logBookBody e book.timeTs (logBookStart book).2 (written book)).length)
  rw [putLogBookData_eq]
  dsimp only
  rw [hfields]
  simp only [Writer.append, hlen]
  rw [hpos, ofNat_add_sub, hpatch _ (by rw [bytes16_length]; dsimp only; omega)]
  simp only [Writer.append]
  have hlen2 : (bytes16 e PF_BT_LOG_BOOK_DATA).length = 2 := bytes16_length e _
  rw [← hlen2, Buffer.write_write_inside _ _ _ _ _ _ (by simp), logBookBlock]
  congr 1
  simp only [List.length_append, bytes16_length]
  omega

/-! ## After any calls -/

theorem createLogBookEntries_holds (cs : List Creation) :
    Holds PNET_MAX_LOG_BOOK_ENTRIES (createLogBookEntries cs).toRing (created cs) ∧
      (createLogBookEntries cs).timeTs = clearedTs := by
  induction cs using List.reverseRecOn with
  | nil => exact ⟨Holds.empty (by decide) _, rfl⟩
  | append_singleton cs c ih =>
    rcases ih with ⟨hholds, htime⟩
    rw [createLogBookEntries, List.foldl_append, created, List.filterMap_append]
    rcases h : c.arUuid with _ | arUuid
    · have hsame : createLogBookEntry c (createLogBookEntries cs) = createLogBookEntries cs := by
        rw [createLogBookEntry, h]
        rfl
      have hnone : [c].filterMap (fun c => c.arUuid.map c.entry) = [] := by
        simp [h]
      rw [hnone, List.append_nil]
      show Holds _ (createLogBookEntry c (createLogBookEntries cs)).toRing _ ∧
        (createLogBookEntry c (createLogBookEntries cs)).timeTs = _
      rw [hsame]
      exact ⟨hholds, htime⟩
    · have hone : [c].filterMap (fun c => c.arUuid.map c.entry) = [c.entry arUuid] := by
        simp [h]
      have hpush : createLogBookEntry c (createLogBookEntries cs) =
          { createLogBookEntries cs with
            toRing := (createLogBookEntries cs).push PNET_MAX_LOG_BOOK_ENTRIES
              (c.entry arUuid) } := by
        rw [createLogBookEntry, h]
        rfl
      rw [hone]
      show Holds _ (createLogBookEntry c (createLogBookEntries cs)).toRing _ ∧
        (createLogBookEntry c (createLogBookEntries cs)).timeTs = _
      rw [hpush]
      exact ⟨hholds.push (by decide) _, htime⟩

/-- Before the ring is full, all entries are written, with their number. -/
theorem written_all {cs : List Creation} (h : (created cs).length < PNET_MAX_LOG_BOOK_ENTRIES) :
    written (createLogBookEntries cs) = created cs ∧
      (logBookStart (createLogBookEntries cs)).2 = (created cs).length := by
  rcases createLogBookEntries_holds cs with ⟨hholds, -⟩
  have hwrap : (createLogBookEntries cs).wrap ≠ true := by
    rw [Ne, hholds.wrap_iff]
    exact Nat.not_le.mpr h
  rw [written, logBookStart, if_neg hwrap]
  refine ⟨hholds.walk_all (by decide) h le_rfl, ?_⟩
  exact hholds.put_eq.trans (Nat.mod_eq_of_lt h)

/-- The oldest entry of a ring that is full is not written. -/
theorem written_full {cs : List Creation} (h : PNET_MAX_LOG_BOOK_ENTRIES ≤ (created cs).length) :
    written (createLogBookEntries cs) = recent (PNET_MAX_LOG_BOOK_ENTRIES - 1) (created cs) := by
  rcases createLogBookEntries_holds cs with ⟨hholds, -⟩
  have hwrap : (createLogBookEntries cs).wrap = true := hholds.wrap_iff.mpr h
  rw [written, logBookStart, if_pos hwrap]
  exact hholds.walk_behind (by decide) h le_rfl

theorem written_length (cs : List Creation) :
    (written (createLogBookEntries cs)).length =
      min (created cs).length (PNET_MAX_LOG_BOOK_ENTRIES - 1) := by
  by_cases h : (created cs).length < PNET_MAX_LOG_BOOK_ENTRIES
  · rw [(written_all h).1]
    omega
  · rw [written_full (Nat.not_lt.mp h), recent_length]

/-- What a read yields: the block of the most recent entries, as many as there are, or as the ring
has cells. -/
def ReadsRecent (e : Bool) (cs : List Creation) (resLen : ℕ) (w : Writer) : Prop :=
  let out := putLogBookData e (createLogBookEntries cs) resLen w
  Buffer.slice out.bytes w.pos (out.pos - w.pos) =
    logBookBlock e clearedTs (min (created cs).length PNET_MAX_LOG_BOOK_ENTRIES)
      (recent PNET_MAX_LOG_BOOK_ENTRIES (created cs))

/-- A block without room for it is shorter. -/
theorem putLogBookData_short (e : Bool) {book : LogBook} {w : Writer}
    (hshort : resLen < w.pos + (16 + 32 * (written book).length)) :
    (putLogBookData e book resLen w).pos - w.pos < 16 + 32 * (written book).length := by
  have hstays := @stays_fields resLen e book.timeTs (logBookStart book).2 (written book) w
  rw [putLogBookData_eq]
  dsimp only
  omega

/-- A read yields the most recent entries if and only if the ring is not full yet, and the block
has room. -/
theorem readsRecent_iff (e : Bool) (cs : List Creation) (resLen : ℕ) (w : Writer) :
    ReadsRecent e cs resLen w ↔
      (created cs).length < PNET_MAX_LOG_BOOK_ENTRIES ∧
        w.pos + (16 + 32 * (created cs).length) ≤ resLen := by
  have htime := (createLogBookEntries_holds cs).2
  have hlen := written_length cs
  constructor
  · intro hreads
    have hbytes := congrArg List.length hreads
    rw [Buffer.slice_length, logBookBlock_length, recent_length] at hbytes
    by_cases hroom : w.pos + (16 + 32 * (written (createLogBookEntries cs)).length) ≤ resLen
    · rw [putLogBookData_of_room e hroom] at hbytes
      simp only [Writer.append, logBookBlock_length, Nat.add_sub_cancel_left] at hbytes
      have hnotFull : (created cs).length < PNET_MAX_LOG_BOOK_ENTRIES := by
        unfold PNET_MAX_LOG_BOOK_ENTRIES at *
        omega
      rw [(written_all hnotFull).1] at hroom
      exact ⟨hnotFull, hroom⟩
    · have hshort := putLogBookData_short e (Nat.not_le.mp hroom)
      unfold PNET_MAX_LOG_BOOK_ENTRIES at *
      omega
  · rintro ⟨hnotFull, hroom⟩
    rcases written_all hnotFull with ⟨hall, hcnt⟩
    have hput := @putLogBookData_of_room resLen e (createLogBookEntries cs) w (hall ▸ hroom)
    rw [ReadsRecent, hput, hall, hcnt, htime, min_eq_left hnotFull.le, recent_all hnotFull.le]
    simp only [Writer.append, Nat.add_sub_cancel_left]
    exact Buffer.slice_write_self _ _ _

/-- Sixteen entries, of which the last fifteen are read. -/
theorem not_readsRecent_full :
    ¬ ReadsRecent true (List.replicate 16 ⟨some zeroUuid, ⟨0, 0, 0, 0⟩, 1, 0⟩) 4500
      ⟨fun _ => 0, 0⟩ := by
  intro h
  have hbytes := congrArg List.length h
  rw [Buffer.slice_length, logBookBlock_length] at hbytes
  revert hbytes
  decide +kernel

end PNet.Fspm
