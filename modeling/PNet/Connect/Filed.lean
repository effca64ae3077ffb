import Mathlib.Data.List.Dedup
import PNet.Connect.Inside

/-! # Modules under their APIs

An entry of a block of the expected configuration states an API and a module. Here is what the
blocks of a request declare (`declared`), and when the expected configuration is that:

- the reader keeps the API of an earlier entry of the block for an entry whose API is new;
- so the modules are filed as declared if and only if no block goes on with another API.
-/

namespace PNet.Connect

open Block Rpc

/-! ## What the blocks declare -/

/-- A module, under the API that is stated with it. -/
structure ExpEntry where
  api : BitVec 32
  module : ExpModule
deriving DecidableEq, Repr

def getEntry : Get ExpEntry := do
  let api ← getUint32
  let slotNumber ← getUint16
  let module ← getExpModule slotNumber
  return ⟨api, module⟩

/-- The entries of a block. -/
def getEntries : Get (List ExpEntry) := do
  let nbrExpApi ← getUint16
  getTimes getEntry nbrExpApi.toNat

/-- What the blocks declare, each of them behind its header. -/
def declared (readers : List Reader) : List (List ExpEntry) := readers.map fun r => (getEntries r).1

/-- No block ends too early. -/
def Complete (readers : List Reader) : Prop :=
  ∀ r ∈ readers, (getEntries r).2.info.result = .PF_PARSE_OK

/-- The blocks of a request one after the other, until one has an error. -/
def parseExpBlocks (expApis : List ExpApi) : List Reader → List ExpApi × GetResult
  | [] => (expApis, .PF_PARSE_OK)
  | r :: readers =>
    if (getExpApiModule expApis r).2.info.result = .PF_PARSE_OK then
      parseExpBlocks (getExpApiModule expApis r).1 readers
    else ((getExpApiModule expApis r).1, (getExpApiModule expApis r).2.info.result)

/-- The modules of an API. -/
def modulesUnder (expApis : List ExpApi) (api : BitVec 32) : List ExpModule :=
  (expApis.filter (·.api = api)).flatMap (·.modules)

/-- The configuration is what the entries declare: every module under its API, in order. -/
def FiledAs (expApis : List ExpApi) (entries : List ExpEntry) : Prop :=
  (expApis.map (·.api)).Nodup ∧
    ∀ api, modulesUnder expApis api = (entries.filter (·.api = api)).map (·.module)

/-- There is room for all APIs, modules and submodules. -/
def HasRoom (entries : List ExpEntry) : Prop :=
  (entries.map (·.api)).dedup.length ≤ PNET_MAX_API ∧
    (∀ api, (entries.filter (·.api = api)).length ≤ PNET_MAX_SLOTS) ∧
    ∀ e ∈ entries, e.module.submodules.length ≤ PNET_MAX_SUBSLOTS

/-- Blocks that are complete and have room are read without an error, and only these; and then the
configuration is what they declare. -/
def FiledRight (readers : List Reader) : Prop :=
  ((parseExpBlocks [] readers).2 = .PF_PARSE_OK ↔
      Complete readers ∧ HasRoom (declared readers).flatten) ∧
    ((parseExpBlocks [] readers).2 = .PF_PARSE_OK →
      FiledAs (parseExpBlocks [] readers).1 (declared readers).flatten)

/-! ## An entry -/

/-- An entry behind its API, if there is room for its module. -/
def fileModule (placed : ExpState) (m : ExpModule) : Option ExpState :=
  placed.pApi.bind fun i =>
    if modulesAt placed.expApis i < PNET_MAX_SLOTS then
      some { placed with expApis := addModule placed.expApis i m }
    else none

def fileEntry (st : ExpState) (e : ExpEntry) : Option ExpState :=
  fileModule (placeExpApi st e.api) e.module

/-- The entries of a block. -/
def fileEntries : ExpState → List ExpEntry → Option ExpState
  | st, [] => some st
  | st, e :: es => (fileEntry st e).bind fun st' => fileEntries st' es

def fileBlock (expApis : List ExpApi) (es : List ExpEntry) : Option (List ExpApi) :=
  (fileEntries ⟨expApis, none⟩ es).map (·.expApis)

def fileBlocks : List ExpApi → List (List ExpEntry) → Option (List ExpApi)
  | expApis, [] => some expApis
  | expApis, es :: blocks => (fileBlock expApis es).bind fun expApis' => fileBlocks expApis' blocks

/-- The reader comes to what is to be filed, and to the end of the entries, or it has an error. -/
def Files (out : ExpState × Reader) (filed : Option ExpState) (reader : Reader) : Prop :=
  (∃ st', filed = some st' ∧ out = (st', reader)) ∨
    filed = none ∧ out.2.info.result ≠ .PF_PARSE_OK

theorem files_entry (st : ExpState) (r : Reader) :
    Files (getExpEntry st r) (fileEntry st (getEntry r).1) (getEntry r).2 := by
  show Files (getExpSlot (placeExpApi st (getUint32 r).1) (getUint32 r).2)
    (fileModule (placeExpApi st (getUint32 r).1) (getEntry r).1.module) (getEntry r).2
  generalize placeExpApi st (getUint32 r).1 = placed
  rcases placed with ⟨expApis, _ | i⟩
  · right
    refine ⟨rfl, ?_⟩
    intro hok
    cases hok
  by_cases hroom : modulesAt expApis i < PNET_MAX_SLOTS
  · left
    refine ⟨⟨addModule expApis i (getEntry r).1.module, some i⟩, if_pos hroom, ?_⟩
    show (if _ then _ else _ : Get ExpState) _ = _
    rw [if_pos hroom]
    rfl
  · right
    refine ⟨if_neg hroom, ?_⟩
    show ((if _ then _ else _ : Get ExpState) _).2.info.result ≠ _
    rw [if_neg hroom]
    intro hok
    cases hok

/-! ## An error stays -/

theorem moves_failWith {e : GetResult} (he : e ≠ .PF_PARSE_OK) : Moves (failWith e) := by
  intro r
  exact ⟨rfl, le_rfl, le_max_left _ _, fun h => absurd h he, rfl⟩

theorem moves_dataDescriptor : Moves getDataDescriptor :=
  moves_uint16.bind fun _ => moves_uint16.bind fun _ => moves_byte.bind fun _ => moves_byte.map _

theorem moves_expSubmodule : Moves getExpSubmodule := by
  refine moves_uint16.bind fun subslotNumber => moves_uint32.bind fun ident =>
    moves_uint16.bind fun properties => moves_dataDescriptor.bind fun first => ?_
  split
  · exact moves_dataDescriptor.map _
  · exact Moves.pure _

theorem moves_expModule (slotNumber : BitVec 16) : Moves (getExpModule slotNumber) :=
  (moves_uint32.bind fun _ => moves_uint16.bind fun _ => moves_uint16.map _).bind fun _ =>
    (moves_getTimes moves_expSubmodule _).map _

theorem moves_expEntry (st : ExpState) : Moves (getExpEntry st) := by
  refine moves_uint32.bind fun api => ?_
  generalize placeExpApi st api = placed
  rcases placed with ⟨expApis, _ | i⟩
  · exact (moves_failWith (by simp)).bind fun _ => Moves.pure _
  · refine moves_uint16.bind fun slotNumber => ?_
    dsimp only
    split
    · exact (moves_expModule slotNumber).map _
    · exact (moves_failWith (by simp)).bind fun _ => Moves.pure _

theorem moves_expEntries (n : ℕ) (st : ExpState) : Moves (getExpEntries n st) := by
  induction n generalizing st with
  | zero => exact Moves.pure _
  | succ n ih => exact (moves_expEntry st).bind fun st' => ih st'

theorem not_ok_of_moves {α : Type} {g : Get α} (hg : Moves g) {r : Reader}
    (h : r.info.result ≠ .PF_PARSE_OK) : (g r).2.info.result ≠ .PF_PARSE_OK := by
  intro hok
  rcases hg r with ⟨-, -, -, hback, -⟩
  exact h (hback hok)

/-! ## The blocks -/

theorem getTimes_succ {α : Type} (g : Get α) (n : ℕ) (r : Reader) :
    getTimes g (n + 1) r =
      ((g r).1 :: (getTimes g n (g r).2).1, (getTimes g n (g r).2).2) := rfl

theorem getExpEntries_succ (n : ℕ) (st : ExpState) (r : Reader) :
    getExpEntries (n + 1) st r = getExpEntries n (getExpEntry st r).1 (getExpEntry st r).2 := rfl

theorem files_entries (n : ℕ) (st : ExpState) (r : Reader) :
    Files (getExpEntries n st r) (fileEntries st (getTimes getEntry n r).1)
      (getTimes getEntry n r).2 := by
  induction n generalizing st r with
  | zero => exact .inl ⟨st, rfl, rfl⟩
  | succ n ih =>
    rw [getTimes_succ, getExpEntries_succ, fileEntries]
    rcases files_entry st r with ⟨st', hfile, heq⟩ | ⟨hfile, hbad⟩
    · rw [hfile, heq]
      exact ih st' _
    · right
      rw [hfile]
      exact ⟨rfl, not_ok_of_moves (moves_expEntries n _) hbad⟩

/-- A block is read without an error if it is complete and its entries can be filed. -/
theorem files_block (expApis : List ExpApi) (r : Reader) :
    (∃ expApis', fileBlock expApis (getEntries r).1 = some expApis' ∧
        getExpApiModule expApis r = (expApis', (getEntries r).2)) ∨
      fileBlock expApis (getEntries r).1 = none ∧
        (getExpApiModule expApis r).2.info.result ≠ .PF_PARSE_OK := by
  have hfiles := files_entries (getUint16 r).1.toNat ⟨expApis, none⟩ (getUint16 r).2
  have hblock : getExpApiModule expApis r =
      ((getExpEntries (getUint16 r).1.toNat ⟨expApis, none⟩ (getUint16 r).2).1.expApis,
        (getExpEntries (getUint16 r).1.toNat ⟨expApis, none⟩ (getUint16 r).2).2) := rfl
  have hentries : getEntries r = getTimes getEntry (getUint16 r).1.toNat (getUint16 r).2 := rfl
  rw [hblock, hentries]
  unfold fileBlock
  rcases hfiles with ⟨st', hfile, heq⟩ | ⟨hfile, hbad⟩
  · left
    rw [hfile, heq]
    exact ⟨st'.expApis, rfl, rfl⟩
  · right
    rw [hfile]
    exact ⟨rfl, hbad⟩

/-- The blocks are read without an error if and only if they are complete and can be filed; then
the configuration is that. -/
theorem parseExpBlocks_ok (expApis : List ExpApi) (readers : List Reader) :
    ((parseExpBlocks expApis readers).2 = .PF_PARSE_OK ↔
        Complete readers ∧ (fileBlocks expApis (declared readers)).isSome = true) ∧
      ((parseExpBlocks expApis readers).2 = .PF_PARSE_OK →
        fileBlocks expApis (declared readers) = some (parseExpBlocks expApis readers).1) := by
  induction readers generalizing expApis with
  | nil =>
    refine ⟨⟨fun _ => ⟨?_, rfl⟩, fun _ => rfl⟩, fun _ => rfl⟩
    intro r hr
    cases hr
  | cons r readers ih =>
    rw [parseExpBlocks, show declared (r :: readers) = (getEntries r).1 :: declared readers from rfl,
      fileBlocks, Complete, List.forall_mem_cons]
    rcases files_block expApis r with ⟨expApis', hfile, heq⟩ | ⟨hfile, hbad⟩
    · rw [hfile, heq]
      by_cases hok : (getEntries r).2.info.result = .PF_PARSE_OK
      · rw [if_pos hok]
        rcases ih expApis' with ⟨hiff, heq'⟩
        refine ⟨hiff.trans ⟨?_, ?_⟩, heq'⟩
        · rintro ⟨hcomplete, hsome⟩
          exact ⟨⟨hok, hcomplete⟩, hsome⟩
        · rintro ⟨⟨-, hcomplete⟩, hsome⟩
          exact ⟨hcomplete, hsome⟩
      · rw [if_neg hok]
        refine ⟨⟨fun h => absurd h hok, ?_⟩, fun h => absurd h hok⟩
        rintro ⟨⟨h, -⟩, -⟩
        exact absurd h hok
    · rw [hfile, if_neg hbad]
      refine ⟨⟨fun h => absurd h hbad, ?_⟩, fun h => absurd h hbad⟩
      rintro ⟨-, hsome⟩
      cases hsome

/-! ## One API -/

/-- The configuration with one API; there is no room for a second one. -/
def oneApi (api : BitVec 32) (modules : List ExpModule) : List ExpApi := [⟨api, modules⟩]

theorem fileModule_oneApi (api : BitVec 32) (modules : List ExpModule) (m : ExpModule) :
    fileModule ⟨oneApi api modules, some 0⟩ m =
      if modules.length < PNET_MAX_SLOTS then some ⟨oneApi api (modules ++ [m]), some 0⟩
      else none := rfl

/-- An entry behind another one of its block: its API does not matter. -/
theorem fileEntry_next (api : BitVec 32) (modules : List ExpModule) (e : ExpEntry) :
    fileEntry ⟨oneApi api modules, some 0⟩ e =
      if modules.length < PNET_MAX_SLOTS then some ⟨oneApi api (modules ++ [e.module]), some 0⟩
      else none := by
  have hplace : placeExpApi ⟨oneApi api modules, some 0⟩ e.api = ⟨oneApi api modules, some 0⟩ := by
    by_cases hapi : api = e.api
    · simp [placeExpApi, findExpApi, oneApi, hapi]
    · simp [placeExpApi, findExpApi, oneApi, hapi]
  rw [fileEntry, hplace, fileModule_oneApi]

/-- The first entry of a block. -/
theorem fileEntry_first (api : BitVec 32) (modules : List ExpModule) (e : ExpEntry) :
    fileEntry ⟨oneApi api modules, none⟩ e =
      if e.api = api ∧ modules.length < PNET_MAX_SLOTS then
        some ⟨oneApi api (modules ++ [e.module]), some 0⟩
      else none := by
  by_cases hapi : e.api = api
  · have hplace : placeExpApi ⟨oneApi api modules, none⟩ e.api = ⟨oneApi api modules, some 0⟩ := by
      simp [placeExpApi, findExpApi, oneApi, hapi]
    rw [fileEntry, hplace, fileModule_oneApi]
    simp only [hapi, true_and]
  · have hplace : placeExpApi ⟨oneApi api modules, none⟩ e.api = ⟨oneApi api modules, none⟩ := by
      simp [placeExpApi, findExpApi, oneApi, Ne.symm hapi, PNET_MAX_API]
    rw [fileEntry, hplace, if_neg fun h => hapi h.1]
    rfl

/-- The first entry of all. -/
theorem fileEntry_new (e : ExpEntry) :
    fileEntry ⟨[], none⟩ e = some ⟨oneApi e.api [e.module], some 0⟩ := rfl

theorem fileEntries_next (api : BitVec 32) {modules : List ExpModule}
    (hlen : modules.length ≤ PNET_MAX_SLOTS) (es : List ExpEntry) :
    fileEntries ⟨oneApi api modules, some 0⟩ es =
      if modules.length + es.length ≤ PNET_MAX_SLOTS then
        some ⟨oneApi api (modules ++ es.map (·.module)), some 0⟩
      else none := by
  induction es generalizing modules with
  | nil =>
    rw [List.length_nil, Nat.add_zero, if_pos hlen, List.map_nil, List.append_nil]
    rfl
  | cons e es ih =>
    rw [fileEntries, fileEntry_next]
    by_cases hroom : modules.length < PNET_MAX_SLOTS
    · have hlen' : (modules ++ [e.module]).length ≤ PNET_MAX_SLOTS := by
        rw [List.length_append]
        exact hroom
      rw [if_pos hroom, Option.bind_some, ih hlen', List.length_append, List.length_singleton,
        List.length_cons, List.append_assoc, List.map_cons, List.singleton_append,
        Nat.add_right_comm, Nat.add_assoc]
    · rw [if_neg hroom, if_neg (by rw [List.length_cons]; omega)]
      rfl

theorem fileBlock_oneApi (api : BitVec 32) {modules : List ExpModule}
    (hlen : modules.length ≤ PNET_MAX_SLOTS) (es : List ExpEntry) :
    fileBlock (oneApi api modules) es =
      if (∀ e ∈ es.head?, e.api = api) ∧ modules.length + es.length ≤ PNET_MAX_SLOTS then
        some (oneApi api (modules ++ es.map (·.module)))
      else none := by
  rcases es with _ | ⟨e, es⟩
  · have hcond : (∀ e ∈ ([] : List ExpEntry).head?, e.api = api) ∧
        modules.length + ([] : List ExpEntry).length ≤ PNET_MAX_SLOTS := by
      refine ⟨?_, hlen⟩
      intro e he
      cases he
    rw [if_pos hcond, List.map_nil, List.append_nil]
    rfl
  · rw [fileBlock, fileEntries, fileEntry_first]
    by_cases hfirst : e.api = api ∧ modules.length < PNET_MAX_SLOTS
    · have hlen' : (modules ++ [e.module]).length ≤ PNET_MAX_SLOTS := by
        rw [List.length_append]
        exact hfirst.2
      rw [if_pos hfirst, Option.bind_some, fileEntries_next api hlen']
      simp only [List.head?_cons, Option.mem_some_iff, forall_eq', hfirst.1, true_and,
        List.length_append, List.length_cons, List.length_nil, List.map_cons, List.append_assoc,
        List.cons_append, List.nil_append, Nat.zero_add, Nat.add_assoc, Nat.add_comm 1]
      split
      · rfl
      · rfl
    · rw [if_neg hfirst, if_neg]
      · rfl
      · rintro ⟨hhead, hle⟩
        rw [List.length_cons] at hle
        exact hfirst ⟨hhead e rfl, by omega⟩

/-- The first block that has an entry. -/
theorem fileBlock_new (e : ExpEntry) (es : List ExpEntry) :
    fileBlock [] (e :: es) =
      if (e :: es).length ≤ PNET_MAX_SLOTS then some (oneApi e.api ((e :: es).map (·.module)))
      else none := by
  have hone : [e.module].length ≤ PNET_MAX_SLOTS := by
    rw [List.length_singleton]
    decide
  rw [fileBlock, fileEntries, fileEntry_new, Option.bind_some, fileEntries_next e.api hone,
    List.length_singleton, Nat.add_comm 1, List.length_cons]
  split
  · rfl
  · rfl

theorem fileBlocks_oneApi (api : BitVec 32) {modules : List ExpModule}
    (hlen : modules.length ≤ PNET_MAX_SLOTS) (blocks : List (List ExpEntry)) :
    fileBlocks (oneApi api modules) blocks =
      if (∀ es ∈ blocks, ∀ e ∈ es.head?, e.api = api) ∧
          modules.length + blocks.flatten.length ≤ PNET_MAX_SLOTS then
        some (oneApi api (modules ++ blocks.flatten.map (·.module)))
      else none := by
  induction blocks generalizing modules with
  | nil =>
    have hcond : (∀ es ∈ ([] : List (List ExpEntry)), ∀ e ∈ es.head?, e.api = api) ∧
        modules.length + ([] : List (List ExpEntry)).flatten.length ≤ PNET_MAX_SLOTS := by
      refine ⟨?_, hlen⟩
      intro es hes
      cases hes
    rw [if_pos hcond, List.flatten_nil, List.map_nil, List.append_nil]
    rfl
  | cons es blocks ih =>
    rw [fileBlocks, fileBlock_oneApi api hlen, List.flatten_cons, List.length_append]
    simp only [List.forall_mem_cons]
    by_cases hblock : (∀ e ∈ es.head?, e.api = api) ∧ modules.length + es.length ≤ PNET_MAX_SLOTS
    · have hlen' : (modules ++ es.map (·.module)).length ≤ PNET_MAX_SLOTS := by
        rw [List.length_append, List.length_map]
        exact hblock.2
      rw [if_pos hblock, Option.bind_some, ih hlen', List.length_append, List.length_map,
        List.map_append, List.append_assoc, Nat.add_assoc]
      simp only [eq_true hblock.1, true_and]
    · rw [if_neg hblock, if_neg]
      · rfl
      · rintro ⟨⟨hhead, -⟩, hle⟩
        exact hblock ⟨hhead, by omega⟩

/-- Blocks before the first entry leave the configuration empty. -/
theorem fileBlocks_empty {blocks : List (List ExpEntry)} (h : blocks.flatten = []) :
    fileBlocks [] blocks = some [] := by
  induction blocks with
  | nil => rfl
  | cons es blocks ih =>
    rw [List.flatten_cons, List.append_eq_nil_iff] at h
    rw [fileBlocks, h.1]
    exact ih h.2

theorem fileBlocks_new {blocks : List (List ExpEntry)} {e : ExpEntry} {rest : List ExpEntry}
    (h : blocks.flatten = e :: rest) :
    fileBlocks [] blocks =
      if (∀ es ∈ blocks, ∀ e' ∈ es.head?, e'.api = e.api) ∧
          blocks.flatten.length ≤ PNET_MAX_SLOTS then
        some (oneApi e.api (blocks.flatten.map (·.module)))
      else none := by
  induction blocks with
  | nil => cases h
  | cons es blocks ih =>
    rcases es with _ | ⟨e', es⟩
    · rw [List.flatten_cons, List.nil_append] at h
      have hskip : (∀ es ∈ [] :: blocks, ∀ e' ∈ es.head?, e'.api = e.api) ↔
          ∀ es ∈ blocks, ∀ e' ∈ es.head?, e'.api = e.api := by
        rw [List.forall_mem_cons]
        simp
      rw [List.flatten_cons, List.nil_append]
      simp only [hskip]
      exact ih h
    · rw [List.flatten_cons, List.cons_append] at h
      rcases List.cons.inj h with ⟨rfl, rfl⟩
      rw [fileBlocks, fileBlock_new, List.flatten_cons, List.length_append]
      simp only [List.forall_mem_cons]
      by_cases hroom : (e' :: es).length ≤ PNET_MAX_SLOTS
      · have hlen : ((e' :: es).map (·.module)).length ≤ PNET_MAX_SLOTS := by
          rw [List.length_map]
          exact hroom
        have hhead : ∀ e ∈ (e' :: es).head?, e.api = e'.api := by
          intro e he
          rw [← Option.mem_some_iff.mp he]
        rw [if_pos hroom, Option.bind_some, fileBlocks_oneApi e'.api hlen, List.length_map,
          List.map_append]
        simp only [eq_true hhead, true_and]
      · rw [if_neg hroom, if_neg]
        · rfl
        · rintro ⟨-, hle⟩
          omega

/-! ## When the modules are filed as declared -/

/-- Blocks that the reader takes for those of one API: it looks at the first entries only. -/
def SameStart (blocks : List (List ExpEntry)) : Prop :=
  ∀ es ∈ blocks, ∀ e ∈ es.head?, ∀ es' ∈ blocks, ∀ e' ∈ es'.head?, e.api = e'.api

/-- Blocks that the reader takes have entries of one API, with room for their submodules. -/
def NothingUnnoticed (readers : List Reader) : Prop :=
  Complete readers → SameStart (declared readers) →
    (declared readers).flatten.length ≤ PNET_MAX_SLOTS →
      (∀ e ∈ (declared readers).flatten, ∀ e' ∈ (declared readers).flatten, e.api = e'.api) ∧
        ∀ e ∈ (declared readers).flatten, e.module.submodules.length ≤ PNET_MAX_SUBSLOTS

theorem mem_of_head? {blocks : List (List ExpEntry)} {es : List ExpEntry} {e : ExpEntry}
    (hes : es ∈ blocks) (he : e ∈ es.head?) : e ∈ blocks.flatten :=
  List.mem_flatten.mpr ⟨es, hes, List.mem_of_mem_head? he⟩

/-- The first entry of all is the first one of its block. -/
theorem head?_of_flatten {blocks : List (List ExpEntry)} {e : ExpEntry} {rest : List ExpEntry}
    (h : blocks.flatten = e :: rest) : ∃ es ∈ blocks, e ∈ es.head? := by
  induction blocks with
  | nil => cases h
  | cons es blocks ih =>
    rcases es with _ | ⟨e', es⟩
    · rcases ih h with ⟨es, hes, he⟩
      exact ⟨es, List.mem_cons_of_mem _ hes, he⟩
    · rw [List.flatten_cons, List.cons_append] at h
      rw [(List.cons.inj h).1]
      exact ⟨_, List.mem_cons_self, rfl⟩

/-- Blocks can be filed if they start with one API and there is room for the modules. -/
theorem fileBlocks_isSome_iff (blocks : List (List ExpEntry)) :
    (fileBlocks [] blocks).isSome = true ↔
      SameStart blocks ∧ blocks.flatten.length ≤ PNET_MAX_SLOTS := by
  rcases h : blocks.flatten with _ | ⟨e, rest⟩
  · rw [fileBlocks_empty h]
    refine ⟨fun _ => ⟨?_, Nat.zero_le _⟩, fun _ => rfl⟩
    intro es hes e he
    have hmem := mem_of_head? hes he
    rw [h] at hmem
    cases hmem
  · rw [fileBlocks_new h, ← h]
    constructor
    · intro hsome
      by_cases hcond : (∀ es ∈ blocks, ∀ e' ∈ es.head?, e'.api = e.api) ∧
          blocks.flatten.length ≤ PNET_MAX_SLOTS
      · refine ⟨?_, hcond.2⟩
        intro es hes e1 he1 es' hes' e2 he2
        rw [hcond.1 es hes e1 he1, hcond.1 es' hes' e2 he2]
      · rw [if_neg hcond] at hsome
        cases hsome
    · rintro ⟨hstart, hlen⟩
      rcases head?_of_flatten h with ⟨es, hes, he⟩
      rw [if_pos ⟨fun es' hes' e' he' => hstart es' hes' e' he' es hes e he, hlen⟩]
      rfl

theorem dedup_length_le_one {α : Type} [DecidableEq α] (l : List α) :
    l.dedup.length ≤ 1 ↔ ∀ x ∈ l, ∀ y ∈ l, x = y := by
  constructor
  · intro h x hx y hy
    rw [← List.mem_dedup] at hx hy
    rcases hd : l.dedup with _ | ⟨z, _ | ⟨w, rest⟩⟩
    · rw [hd] at hx
      cases hx
    · rw [hd, List.mem_singleton] at hx hy
      rw [hx, hy]
    · rw [hd] at h
      simp only [List.length_cons] at h
      omega
  · intro h
    have hnodup := List.nodup_dedup l
    rcases hd : l.dedup with _ | ⟨z, _ | ⟨w, rest⟩⟩
    · exact Nat.zero_le _
    · exact le_rfl
    · -- two different ones
      have hz : z ∈ l := List.mem_dedup.mp (by simp [hd])
      have hw : w ∈ l := List.mem_dedup.mp (by simp [hd])
      rw [hd, h z hz w hw] at hnodup
      simp at hnodup

theorem hasRoom_iff (entries : List ExpEntry) :
    HasRoom entries ↔ (∀ e ∈ entries, ∀ e' ∈ entries, e.api = e'.api) ∧
      entries.length ≤ PNET_MAX_SLOTS ∧
        ∀ e ∈ entries, e.module.submodules.length ≤ PNET_MAX_SUBSLOTS := by
  have hapis : (entries.map (·.api)).dedup.length ≤ PNET_MAX_API ↔
      ∀ e ∈ entries, ∀ e' ∈ entries, e.api = e'.api := by
    rw [PNET_MAX_API, dedup_length_le_one]
    simp only [List.forall_mem_map]
  rw [HasRoom, hapis]
  refine and_congr_right fun hsame => and_congr_left fun _ => ?_
  rcases entries with _ | ⟨e, es⟩
  · simp
  · have hall : (e :: es).filter (·.api = e.api) = e :: es := by
      rw [List.filter_eq_self]
      intro e' he'
      exact decide_eq_true (hsame e' he' e List.mem_cons_self)
    constructor
    · intro h
      have hone := h e.api
      rw [hall] at hone
      exact hone
    · intro h api
      exact (List.length_filter_le _ _).trans h

/-- A configuration with one API, which is that of all entries. -/
theorem filedAs_oneApi {api : BitVec 32} {entries : List ExpEntry}
    (h : ∀ e ∈ entries, e.api = api) :
    FiledAs (oneApi api (entries.map (·.module))) entries := by
  constructor
  · exact List.nodup_singleton api
  · intro api'
    by_cases hapi : api = api'
    · subst hapi
      have hall : entries.filter (·.api = api) = entries := by
        rw [List.filter_eq_self]
        intro e he
        exact decide_eq_true (h e he)
      rw [hall]
      simp [modulesUnder, oneApi]
    · have hnone : entries.filter (·.api = api') = [] := by
        rw [List.filter_eq_nil_iff]
        intro e he heq
        exact hapi ((h e he).symm.trans (of_decide_eq_true heq))
      rw [hnone]
      simp [modulesUnder, oneApi, hapi]

/-- Blocks are read without an error if they are complete, start with one API, and there is room
for the modules. -/
theorem parse_ok_iff (readers : List Reader) :
    (parseExpBlocks [] readers).2 = .PF_PARSE_OK ↔
      Complete readers ∧ SameStart (declared readers) ∧
        (declared readers).flatten.length ≤ PNET_MAX_SLOTS := by
  rw [(parseExpBlocks_ok [] readers).1, fileBlocks_isSome_iff]

/-- What has been read is filed right if it is of one API. -/
theorem filedAs_of_parse_ok {readers : List Reader}
    (hok : (parseExpBlocks [] readers).2 = .PF_PARSE_OK)
    (hsame : ∀ e ∈ (declared readers).flatten, ∀ e' ∈ (declared readers).flatten, e.api = e'.api) :
    FiledAs (parseExpBlocks [] readers).1 (declared readers).flatten := by
  have hfile := (parseExpBlocks_ok [] readers).2 hok
  rcases h : (declared readers).flatten with _ | ⟨e, rest⟩
  · rw [fileBlocks_empty h] at hfile
    rw [← Option.some.inj hfile]
    exact ⟨List.nodup_nil, fun _ => rfl⟩
  · rw [fileBlocks_new h] at hfile
    split at hfile
    · rw [← Option.some.inj hfile, ← h]
      apply filedAs_oneApi
      intro e' he'
      exact hsame e' he' e (h ▸ List.mem_cons_self)
    · cases hfile

theorem filedRight_iff (readers : List Reader) :
    FiledRight readers ↔ NothingUnnoticed readers := by
  unfold FiledRight NothingUnnoticed
  rw [hasRoom_iff, parse_ok_iff]
  constructor
  · rintro ⟨hiff, -⟩ hcomplete hstart hlen
    rcases hiff.mp ⟨hcomplete, hstart, hlen⟩ with ⟨-, hsame, -, hsub⟩
    exact ⟨hsame, hsub⟩
  · intro h
    constructor
    · constructor
      · rintro ⟨hcomplete, hstart, hlen⟩
        rcases h hcomplete hstart hlen with ⟨hsame, hsub⟩
        exact ⟨hcomplete, hsame, hlen, hsub⟩
      · rintro ⟨hcomplete, hsame, hlen, -⟩
        refine ⟨hcomplete, ?_, hlen⟩
        intro es hes e he es' hes' e' he'
        exact hsame e (mem_of_head? hes he) e' (mem_of_head? hes' he')
    · rintro ⟨hcomplete, hstart, hlen⟩
      apply filedAs_of_parse_ok
      · exact (parse_ok_iff readers).mpr ⟨hcomplete, hstart, hlen⟩
      · exact (h hcomplete hstart hlen).1

/-! ## The blocks of a request -/

/-- The blocks of the expected configuration of a request. -/
def expReaders (blocks : List BlockRead) : List Reader :=
  (blocks.filter (·.header.blockType = PF_BT_EXPECTED_SUBMODULE_BLOCK)).map (·.state.reader)

theorem expReaders_cons (b : BlockRead) (blocks : List BlockRead) :
    expReaders (b :: blocks) =
      if b.header.blockType = PF_BT_EXPECTED_SUBMODULE_BLOCK then b.state.reader :: expReaders blocks
      else expReaders blocks := by
  by_cases h : b.header.blockType = PF_BT_EXPECTED_SUBMODULE_BLOCK
  · rw [if_pos h, expReaders, List.filter_cons_of_pos (by simp [h])]
    rfl
  · rw [if_neg h, expReaders, List.filter_cons_of_neg (by simp [h])]
    rfl

/-- A block with an error is refused. -/
theorem readExpBlock_ok {header : BlockHeader} {st : ConnectState}
    (h : (readExpBlock header st).ok = true) :
    (getExpApiModule st.ar.expApis st.reader).2.info.result = .PF_PARSE_OK := by
  unfold readExpBlock at h
  generalize getExpApiModule st.ar.expApis st.reader = result at h
  rcases result with ⟨expApis, reader⟩
  dsimp only at h
  by_contra hbad
  rcases hres : reader.info.result
  all_goals rw [hres] at h hbad
  all_goals first | exact hbad rfl | cases h

theorem readBlock_exp {header : BlockHeader} {st : ConnectState}
    (hexp : header.blockType = PF_BT_EXPECTED_SUBMODULE_BLOCK) :
    (readBlock header st).ar.expApis = (getExpApiModule st.ar.expApis st.reader).1 ∧
      ((readBlock header st).ok = true →
        (getExpApiModule st.ar.expApis st.reader).2.info.result = .PF_PARSE_OK) := by
  have har : header.blockType ≠ PF_BT_AR_BLOCK_REQ := by
    rw [hexp]
    decide
  have hiocr : header.blockType ≠ PF_BT_IOCR_BLOCK_REQ := by
    rw [hexp]
    decide
  have hafter : (readBlock header st).ar.expApis = (arraysAfter header st).2 :=
    congrArg Prod.snd (readBlock_arrays header st).1
  rw [arraysAfter, if_neg hiocr, if_pos hexp] at hafter
  refine ⟨hafter, ?_⟩
  rw [readBlock, if_neg har, if_neg hiocr, if_pos hexp]
  exact readExpBlock_ok

theorem readBlock_other {header : BlockHeader} {st : ConnectState}
    (hexp : header.blockType ≠ PF_BT_EXPECTED_SUBMODULE_BLOCK) :
    (readBlock header st).ar.expApis = st.ar.expApis := by
  have hafter : (readBlock header st).ar.expApis = (arraysAfter header st).2 :=
    congrArg Prod.snd (readBlock_arrays header st).1
  rw [hafter, arraysAfter]
  split
  · split
    · rfl
    · rfl
  · rfl

/-- After a block that has been refused no other one is read. -/
theorem connectBlocks_refused (fuel : ℕ) {st : ConnectState} (h : st.ok = false) :
    (connectBlocks fuel st).1 = [] ∧ (connectBlocks fuel st).2.1 = st := by
  rcases fuel with _ | fuel
  · exact ⟨rfl, rfl⟩
  · rw [connectBlocks, if_neg (by simp [h])]
    exact ⟨rfl, rfl⟩

/-- The configuration is that of the blocks that have been read, and has been read without an
error if the request has not been refused. -/
def ConfigOf (expApis : List ExpApi) (blocks : List BlockRead) (out : ConnectState) : Prop :=
  out.ar.expApis = (parseExpBlocks expApis (expReaders blocks)).1 ∧
    (out.ok = true → (parseExpBlocks expApis (expReaders blocks)).2 = .PF_PARSE_OK)

/-- A block in front of the others. -/
theorem configOf_cons {header : BlockHeader} {st next out : ConnectState} {blocks : List BlockRead}
    (hnext : next = { readBlock header st with firstBlock := false })
    (hrest : ConfigOf next.ar.expApis blocks out)
    (hstop : next.ok = false → blocks = [] ∧ out = next) :
    ConfigOf st.ar.expApis (⟨header, st⟩ :: blocks) out := by
  unfold ConfigOf
  rw [expReaders_cons]
  by_cases hexp : header.blockType = PF_BT_EXPECTED_SUBMODULE_BLOCK
  · rcases @readBlock_exp header st hexp with ⟨hafter, hexpOk⟩
    have hafter' : next.ar.expApis = (getExpApiModule st.ar.expApis st.reader).1 := by
      rw [hnext]
      exact hafter
    rw [if_pos hexp, parseExpBlocks]
    by_cases hok : (getExpApiModule st.ar.expApis st.reader).2.info.result = .PF_PARSE_OK
    · rw [if_pos hok, ← hafter']
      exact hrest
    · -- the request is refused, and this was its last block
      have hrefused : next.ok = false := by
        rw [hnext]
        exact Bool.eq_false_iff.mpr fun h => hok (hexpOk h)
      rcases hstop hrefused with ⟨-, rfl⟩
      rw [if_neg hok]
      refine ⟨hafter', fun h => ?_⟩
      rw [hrefused] at h
      cases h
  · have hkeeps : next.ar.expApis = st.ar.expApis := by
      rw [hnext]
      exact readBlock_other hexp
    rw [if_neg hexp, ← hkeeps]
    exact hrest

theorem connectBlocks_expApis (fuel : ℕ) (st : ConnectState) :
    ConfigOf st.ar.expApis (connectBlocks fuel st).1 (connectBlocks fuel st).2.1 := by
  induction fuel generalizing st with
  | zero => exact ⟨rfl, fun _ => rfl⟩
  | succ fuel ih =>
    unfold connectBlocks
    by_cases hloop : st.ok ∧ st.reader.info.result = .PF_PARSE_OK ∧
        st.reader.pos + blockHeaderSize ≤ st.reader.info.len
    · rw [if_pos hloop]
      generalize getBlockHeader st.reader = result
      rcases result with ⟨header, reader⟩
      dsimp only
      by_cases hfits : blockFits header reader = true
      · rw [if_pos hfits]
        exact @configOf_cons header { st with reader } _ _ _ rfl (ih _)
          fun h => connectBlocks_refused fuel h
      · rw [if_neg hfits]
        exact ⟨rfl, fun _ => rfl⟩
    · rw [if_neg hloop]
      exact ⟨rfl, fun _ => rfl⟩

/-! ## Requests -/

/-- The AR has the configuration of the blocks. -/
theorem request_expApis (argsLength : BitVec 32) (stat : PnetResult) (start : Reader) :
    ConfigOf [] (rmConnectInterpretInd argsLength stat start).1
      (rmConnectInterpretInd argsLength stat start).2 := by
  have hloop := connectBlocks_expApis (start.info.len + 1) ⟨allocatedAr, stat, start, true, true⟩
  unfold rmConnectInterpretInd
  generalize connectBlocks (start.info.len + 1) ⟨allocatedAr, stat, start, true, true⟩ = loop at *
  rcases loop with ⟨blocks, st, returned⟩
  dsimp only at hloop ⊢
  have hrefuse : ∀ code1 code2, ConfigOf [] blocks (st.refuse code1 code2) := by
    intro code1 code2
    refine ⟨hloop.1, fun h => ?_⟩
    cases h
  split
  · exact hloop
  split
  · exact hrefuse _ _
  split
  · exact hrefuse _ _
  split
  · exact hrefuse _ _
  · exact hloop

/-- The expected configuration is as declared, or the blocks have an error, if and only if no block
that the reader takes goes on with another API or with too many submodules. It is that of the AR,
where the blocks are those of a request. -/
theorem expected_filed_iff (readers : List Reader) (argsLength : BitVec 32) (stat : PnetResult)
    (start : Reader) :
    (FiledRight readers ↔ NothingUnnoticed readers) ∧
      ConfigOf [] (rmConnectInterpretInd argsLength stat start).1
        (rmConnectInterpretInd argsLength stat start).2 :=
  ⟨filedRight_iff readers, request_expApis argsLength stat start⟩

/-- A block with a module of API 0 in slot 0 and one of API 1 in slot 1. -/
def twoApisBlock : List Byte :=
  [0, 2] ++ [0, 0, 0, 0, 0, 0, 0, 0, 0, 1, 0, 0, 0, 0] ++ [0, 0, 0, 1, 0, 1, 0, 0, 0, 2, 0, 0, 0, 0]

/-- The module of API 1 is filed under API 0. -/
theorem expected_misfiled : ¬ FiledRight [recordReader (twoApisBlock.getD · 0) 30] := by
  rintro ⟨-, hfiled⟩
  have hok : (parseExpBlocks [] [recordReader (twoApisBlock.getD · 0) 30]).2 = .PF_PARSE_OK := by
    decide +kernel
  have hmodules : modulesUnder (parseExpBlocks [] [recordReader (twoApisBlock.getD · 0) 30]).1 1 =
      ((declared [recordReader (twoApisBlock.getD · 0) 30]).flatten.filter (·.api = 1)).map
        (·.module) := (hfiled hok).2 1
  revert hmodules
  decide +kernel

end PNet.Connect
