import PNet.Eth.Receive
import PNet.Lib.Table
import Mathlib.Data.Multiset.ZeroCons

/-! # Handlers of frame IDs

DCP, the alarms and the consumers register a handler for each of their frame IDs, and remove it. A
handler goes to the first free row of `eth_id_map`, and a frame to the first row with its frame ID.

* `handed_of_run` - the map refines a bounded multiset of handlers
-/

namespace PNet.Eth

open Block Connect

variable {H : Type} {map : ℕ → FrameIdMap H} {k : BitVec 16}

/-! ## The map -/

/-- `pf_eth_frame_id_map_add` -/
def frameIdMapAdd (map : ℕ → FrameIdMap H) (frameId : BitVec 16) (frameHandler : H) :
    ℕ → FrameIdMap H :=
  match (List.range PF_ETH_MAX_MAP).find? fun ix => !(map ix).inUse with
  | some ix => Function.update map ix ⟨true, frameId, frameHandler⟩
  | none => map

/-- The row that `dispatch` finds. -/
def rowOf (map : ℕ → FrameIdMap H) (frameId : BitVec 16) : Option ℕ :=
  Table.lookup PF_ETH_MAX_MAP (fun ix => (map ix).inUse) (fun ix => (map ix).frameId) frameId

/-- `pf_eth_frame_id_map_remove` -/
def frameIdMapRemove (map : ℕ → FrameIdMap H) (frameId : BitVec 16) : ℕ → FrameIdMap H :=
  match rowOf map frameId with
  | some ix => Function.update map ix { map ix with inUse := false }
  | none => map

inductive IdMapEvent (H : Type) where
  | add (frameId : BitVec 16) (frameHandler : H)
  | remove (frameId : BitVec 16)

namespace IdMapEvent

def step (map : ℕ → FrameIdMap H) : IdMapEvent H → ℕ → FrameIdMap H
  | add frameId frameHandler => frameIdMapAdd map frameId frameHandler
  | remove frameId => frameIdMapRemove map frameId

/-- The same for the registered handlers, of which there may be as many as there are rows. From
several handlers of one frame ID, which two ARs have for their alarms, any one is removed. -/
inductive Turns : IdMapEvent H → Multiset (BitVec 16 × H) → Multiset (BitVec 16 × H) → Prop
  | added {k l frameHandler} (hroom : l.card < PF_ETH_MAX_MAP) :
    Turns (add k frameHandler) l ((k, frameHandler) ::ₘ l)
  | full {k l frameHandler} (hfull : PF_ETH_MAX_MAP ≤ l.card) : Turns (add k frameHandler) l l
  | removed {k l frameHandler} : Turns (remove k) ((k, frameHandler) ::ₘ l) l
  | absent {k l} (hnone : ∀ q ∈ l, q.1 ≠ k) : Turns (remove k) l l

def Run : List (IdMapEvent H) → Multiset (BitVec 16 × H) → Multiset (BitVec 16 × H) → Prop
  | [], l, l' => l = l'
  | e :: es, l, l' => ∃ mid, e.Turns l mid ∧ Run es mid l'

end IdMapEvent

open IdMapEvent

/-! ## Refinement -/

def FrameIdMap.entry (row : FrameIdMap H) : Option (BitVec 16 × H) :=
  if row.inUse then some (row.frameId, row.frameHandler) else none

def registered (map : ℕ → FrameIdMap H) : Multiset (BitVec 16 × H) :=
  Table.entries PF_ETH_MAX_MAP (FrameIdMap.entry ∘ map)

theorem mem_registered {q : BitVec 16 × H} : q ∈ registered map ↔ ∃ ix < PF_ETH_MAX_MAP,
    (map ix).inUse = true ∧ (map ix).frameId = q.1 ∧ (map ix).frameHandler = q.2 := by
  rw [registered, Multiset.mem_coe, Table.mem_entries]
  simp [FrameIdMap.entry, Prod.ext_iff]

/-- A row is put into use. -/
theorem registered_put {ix : ℕ} (hix : ix < PF_ETH_MAX_MAP) (hfree : (map ix).inUse = false)
    {row : FrameIdMap H} (hused : row.inUse = true) :
    registered (Function.update map ix row) =
      (row.frameId, row.frameHandler) ::ₘ registered map := by
  have hentry : (map ix).entry = none := by simp [FrameIdMap.entry, hfree]
  have hrow : row.entry = some (row.frameId, row.frameHandler) := by simp [FrameIdMap.entry, hused]
  unfold registered
  rw [Function.comp_update, hrow]
  exact Multiset.coe_eq_coe.mpr (Table.entries_put hix hentry _)

theorem turns_add (map : ℕ → FrameIdMap H) (k : BitVec 16) (frameHandler : H) :
    Turns (add k frameHandler) (registered map)
      (registered (frameIdMapAdd map k frameHandler)) := by
  have hroom : (registered map).card < PF_ETH_MAX_MAP ↔
      ∃ ix < PF_ETH_MAX_MAP, (map ix).inUse = false := by
    rw [registered, Multiset.coe_card, Table.entries_room]
    simp [FrameIdMap.entry]
  unfold frameIdMapAdd
  split
  next ix hfound =>
    have hix := List.mem_range.mp (List.mem_of_find?_eq_some hfound)
    have hfree : (map ix).inUse = false := by simpa using List.find?_some hfound
    rw [registered_put hix hfree rfl]
    exact .added (hroom.mpr ⟨ix, hix, hfree⟩)
  next hnone =>
    refine .full (not_lt.mp fun h => ?_)
    rcases hroom.mp h with ⟨ix, hix, hfree⟩
    simpa [hfree] using List.find?_eq_none.mp hnone ix (List.mem_range.mpr hix)

/-- The search for a frame ID finds one of its handlers. -/
theorem rowOf_cases (map : ℕ → FrameIdMap H) (k : BitVec 16) :
    (rowOf map k = none ∧ ∀ q ∈ registered map, q.1 ≠ k) ∨
      ∃ ix, rowOf map k = some ix ∧ ix < PF_ETH_MAX_MAP ∧ (map ix).inUse = true ∧
        (map ix).frameId = k := by
  cases hfound : rowOf map k with
  | none =>
    refine .inl ⟨rfl, fun q hq hid => ?_⟩
    rcases mem_registered.mp hq with ⟨ix, hix, hused, hrow, -⟩
    exact Table.lookup_none.mp hfound ix hix hused (hrow.trans hid)
  | some ix => exact .inr ⟨ix, rfl, Table.lookup_some hfound⟩

theorem turns_remove (map : ℕ → FrameIdMap H) (k : BitVec 16) :
    Turns (remove k) (registered map) (registered (frameIdMapRemove map k)) := by
  unfold frameIdMapRemove
  rcases rowOf_cases map k with ⟨hnone, habsent⟩ | ⟨ix, hfound, hix, hused, rfl⟩
  · rw [hnone]
    exact .absent habsent
  · rw [hfound]
    -- with the row put back, the map is as before
    have hput := @registered_put H (Function.update map ix { map ix with inUse := false }) ix hix
      (by rw [Function.update_self]) (map ix) hused
    rw [Function.update_idem, Function.update_eq_self] at hput
    rw [hput]
    exact .removed

theorem turns_step (map : ℕ → FrameIdMap H) (e : IdMapEvent H) :
    e.Turns (registered map) (registered (e.step map)) := by
  cases e with
  | add frameId frameHandler => exact turns_add map frameId frameHandler
  | remove frameId => exact turns_remove map frameId

theorem run_foldl (map : ℕ → FrameIdMap H) (es : List (IdMapEvent H)) :
    Run es (registered map) (registered (es.foldl step map)) := by
  induction es generalizing map with
  | nil => rfl
  | cons e es ih => exact ⟨_, turns_step map e, ih (e.step map)⟩

/-! ## Frames -/

/-- In every run, a Profinet frame is handed to a handler that is registered for its frame ID, and
to none only if there is none. -/
theorem handed_of_run (hinit : ∀ ix, (map ix).inUse = false) (es : List (IdMapEvent H)) :
    Run es 0 (registered (es.foldl step map)) ∧
    ∀ payload : ℕ → Byte, ∀ reads : List (BitVec 16), ∀ pos : BitVec 16,
      getUint16At payload pos.toNat = PNAL_ETHTYPE_PROFINET →
      let frameId := getUint16At payload (pos + 2#16).toNat
      let handed := (dispatch (es.foldl step map) payload reads pos).handed
      (handed = none ∧ ∀ q ∈ registered (es.foldl step map), q.1 ≠ frameId) ∨
        ∃ q ∈ registered (es.foldl step map), q.1 = frameId ∧
          handed = some (.frame q.2 frameId (pos + 2#16)) := by
  constructor
  · have hstart : registered map = 0 := by
      refine Multiset.eq_zero_of_forall_notMem fun q hq => ?_
      rcases mem_registered.mp hq with ⟨ix, -, hused, -⟩
      exact Bool.noConfusion ((hinit ix).symm.trans hused)
    exact hstart ▸ run_foldl map es
  · intro payload reads pos htype frameId handed
    have hhanded : handed = (rowOf (es.foldl step map) frameId).map fun ix =>
        .frame ((es.foldl step map) ix).frameHandler frameId (pos + 2#16) := by
      simp only [handed, dispatch]
      rw [if_pos htype]
      rfl
    rw [hhanded]
    rcases rowOf_cases (es.foldl step map) frameId with
      ⟨hnone, habsent⟩ | ⟨ix, hfound, hix, hused, hid⟩
    · rw [hnone]
      exact .inl ⟨rfl, habsent⟩
    · refine .inr ⟨(frameId, _), mem_registered.mpr ⟨ix, hix, hused, hid, rfl⟩, rfl, ?_⟩
      rw [hfound]
      rfl

/-- The alarms of two ARs, of which one is closed. -/
theorem handed_of_run_twice :
    Run [.add 0xFC01 false, .add 0xFC01 true, .remove 0xFC01] 0 {(0xFC01, true)} :=
  (@handed_of_run Bool (fun _ => ⟨false, 0, false⟩) (fun _ => rfl)
    [.add 0xFC01 false, .add 0xFC01 true, .remove 0xFC01]).1

end PNet.Eth
