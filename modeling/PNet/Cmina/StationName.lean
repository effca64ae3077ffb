import PNet.Cmina.Model

/-! # Station names

The grammar in the comment of `pf_cmina_is_stationname_valid`, and how far the function keeps to it.

* `scan_iff`: what the loop over the characters tells about the labels.
* `isStationnameValid_iff`: the names that the function accepts.
* `stationname_agrees_iff`: for which names that is the grammar.
-/

namespace PNet.Cmina

open Block

/-- `pf_cmina_is_stationname_valid` as it is called. The pointer may be `NULL`, and what is behind
it may be shorter or longer than the length that is given. -/
def isStationnameValidAt (stationName : Option (ℕ → Byte)) (len : BitVec 16) : Bool :=
  if len = 0 then true
  else
    match stationName with
    | none => false
    | some stationName => isStationnameValid (Buffer.slice stationName 0 len.toNat)

/-! ## The grammar -/

def labels (name : List Byte) : List (List Byte) := name.splitOn dot

/-- "Labels consist of [a-z0-9-]". -/
def LabelChar (c : Byte) : Prop := isLower c ∨ isDigit c ∨ c = hyphen

/-- Hyphens follow each other somewhere else than in the third and fourth position. -/
def DoubledHyphen (label : List Byte) : Prop :=
  ∃ i, i ≠ 2 ∧ label[i]? = some hyphen ∧ label[i + 1]? = some hyphen

structure IsLabel (label : List Byte) : Prop where
  nonempty : 1 ≤ label.length
  length : label.length ≤ 63
  chars : ∀ c ∈ label, LabelChar c
  start : label.head? ≠ some hyphen
  stop : label.getLast? ≠ some hyphen
  hyphens : ¬ DoubledHyphen label

/-- The number that digits stand for. -/
def decimal (digits : List Byte) : ℕ := digits.foldl (fun n c => 10 * n + (c.toNat - 0x30)) 0

/-- One of the numbers 0 to 999. -/
def IsNumber (label : List Byte) : Prop :=
  1 ≤ label.length ∧ (∀ c ∈ label, isDigit c) ∧ decimal label ≤ 999

/-- `a.b.c.d` -/
def IpForm (name : List Byte) : Prop :=
  (labels name).length = 4 ∧ ∀ label ∈ labels name, IsNumber label

/-- `port-xyz` and `port-xyz-abcde` -/
def PortForm (label : List Byte) : Prop :=
  ∃ xyz : List Byte, xyz.length = 3 ∧ (∀ c ∈ xyz, isDigit c) ∧
    (label = portPrefix ++ xyz ∨ ∃ abcde : List Byte, abcde.length = 5 ∧
      (∀ c ∈ abcde, isDigit c) ∧ label = portPrefix ++ (xyz ++ hyphen :: abcde))

/-- The names of the grammar; the empty one tells that no name has been set. -/
def IsStationName (name : List Byte) : Prop :=
  name = [] ∨ name.length ≤ 240 ∧ (∀ label ∈ labels name, IsLabel label) ∧ ¬ IpForm name ∧
    ∀ label ∈ (labels name).head?, ¬ PortForm label

/-! ## What the function looks at -/

/-- What the loop requires of the part of a label that it has seen. -/
structure Begun (label : List Byte) : Prop where
  length : label.length ≤ 63
  chars : ∀ c ∈ label, LabelChar c
  start : label.head? ≠ some hyphen

/-- What the loop requires of a label; it may be empty. -/
structure Plain (label : List Byte) : Prop extends Begun label where
  stop : label.getLast? ≠ some hyphen

structure PlainName (name : List Byte) : Prop where
  nonempty : name ≠ []
  length : name.length ≤ 240
  plain : ∀ label ∈ labels name, Plain label

/-- Four labels without anything but digits; they may be empty. -/
def FourDigits (name : List Byte) : Prop :=
  (labels name).length = 4 ∧ ∀ label ∈ labels name, ∀ c ∈ label, isDigit c

/-- What the function takes for the forms of a port. -/
def LikePort (name : List Byte) : Prop :=
  name.take 5 = portPrefix ∧ (name.length = 8 ∨ name.length = 14) ∧
    ∀ c ∈ name.drop 5, isDigit c ∨ c = hyphen

/-! ## The loop -/

theorem Begun.of_append {seen rest : List Byte} (h : Begun (seen ++ rest)) : Begun seen := by
  refine ⟨?_, ?_, ?_⟩
  · have hlength := h.length
    rw [List.length_append] at hlength
    omega
  · intro c hc
    exact h.chars c (List.mem_append_left rest hc)
  · intro hstart
    apply h.start
    rw [List.head?_append, hstart]
    rfl

/-- The first of the labels begins with what has been seen of it. -/
theorem splitOnPPrepend_head (xs acc : List Byte) :
    ∃ rest, acc.reverse ++ rest ∈ xs.splitOnPPrepend (· == dot) acc := by
  rw [List.splitOnPPrepend_eq_modifyHead]
  rcases hlabels : xs.splitOnP (· == dot) with _ | ⟨rest, others⟩
  · exact absurd hlabels (List.splitOnP_ne_nil _ xs)
  · exact ⟨rest, List.mem_cons_self⟩

theorem labels_head (xs : List Byte) {c : Byte} (hc : c ≠ dot) :
    ∃ rest, c :: rest ∈ labels (c :: xs) := by
  rcases splitOnPPrepend_head xs [c] with ⟨rest, hrest⟩
  rw [← List.splitOnPPrepend_cons_neg (p := (· == dot)) (beq_eq_false_iff_ne.mpr hc)] at hrest
  exact ⟨rest, hrest⟩

/-- The variables in the middle of a label, of which `acc` is what has been seen, backwards.
`before` tells that the labels before it are made of digits. -/
structure Represents (st : NameScan) (acc : List Byte) (before : Prop) : Prop where
  begun : Begun acc.reverse
  labelOffset : st.labelOffset = acc.length
  prev : st.prev = hyphen ↔ acc.head? = some hyphen
  nonDigit : st.nonDigit = 0 ↔ before ∧ ∀ c ∈ acc, isDigit c

theorem Represents.stop_iff {st : NameScan} {acc : List Byte} {before : Prop}
    (h : Represents st acc before) : st.prev ≠ hyphen ↔ Plain acc.reverse := by
  rw [ne_eq, h.prev, ← List.getLast?_reverse]
  exact ⟨fun hstop => ⟨h.begun, hstop⟩, fun hplain => hplain.stop⟩

/-- A dot ends the label. -/
theorem scanChar_dot {st : NameScan} {acc : List Byte} {before : Prop}
    (h : Represents st acc before) :
    (Plain acc.reverse ∧ ∃ st', scanChar st dot = some st' ∧ st'.labels = st.labels + 1 ∧
      Represents st' [] (before ∧ ∀ c ∈ acc, isDigit c)) ∨
    (¬ Plain acc.reverse ∧ scanChar st dot = none) := by
  rw [← h.stop_iff]
  unfold scanChar
  rw [if_pos rfl]
  by_cases hprev : st.prev = hyphen
  · right
    exact ⟨not_not.mpr hprev, if_pos hprev⟩
  · left
    refine ⟨hprev, _, if_neg hprev, rfl, ⟨?_, ?_, ?_⟩, rfl, ?_, ?_⟩
    · exact Nat.zero_le 63
    · exact fun c hc => absurd hc List.not_mem_nil
    · intro hstart
      cases hstart
    · refine iff_of_false ?_ ?_
      · intro heq
        exact absurd heq (show dot ≠ hyphen by decide)
      · intro heq
        cases heq
    · rw [h.nonDigit]
      exact ⟨fun hall => ⟨hall, fun c hc => absurd hc List.not_mem_nil⟩, And.left⟩

/-- Another character belongs to the label. -/
theorem scanChar_other {st : NameScan} {acc : List Byte} {before : Prop} {c : Byte}
    (h : Represents st acc before) (hc : c ≠ dot) :
    (∃ st', scanChar st c = some st' ∧ st'.labels = st.labels ∧
      Represents st' (c :: acc) before) ∨
    (¬ Begun (c :: acc).reverse ∧ scanChar st c = none) := by
  unfold scanChar
  rw [if_neg hc]
  by_cases hchar : isLower c ∨ isDigit c ∨ c = hyphen
  · rw [if_neg (not_not.mpr hchar)]
    by_cases hstart : st.labelOffset = 0 ∧ c = hyphen
    · -- A hyphen in front of the label.
      right
      refine ⟨?_, if_pos hstart⟩
      intro hbegun
      have hnil : acc = [] := List.length_eq_zero_iff.mp (h.labelOffset ▸ hstart.1)
      apply hbegun.start
      rw [hnil, hstart.2]
      rfl
    · rw [if_neg hstart]
      by_cases hlong : 63 ≤ st.labelOffset
      · right
        refine ⟨?_, if_pos hlong⟩
        intro hbegun
        have hlength := hbegun.length
        rw [List.length_reverse, List.length_cons, ← h.labelOffset] at hlength
        omega
      · left
        refine ⟨_, if_neg hlong, rfl, ⟨?_, ?_, ?_⟩, ?_, ?_, ?_⟩
        · rw [List.length_reverse, List.length_cons, ← h.labelOffset]
          omega
        · intro d hd
          rcases List.mem_cons.mp (List.mem_reverse.mp hd) with rfl | hd
          · exact hchar
          · exact h.begun.chars d (List.mem_reverse.mpr hd)
        · rw [List.reverse_cons, List.head?_append]
          rcases hhead : acc.reverse.head? with _ | d
          · -- The label begins with this character.
            have hnil : acc = [] := List.reverse_eq_nil_iff.mp (List.head?_eq_none_iff.mp hhead)
            intro heq
            exact hstart ⟨by rw [h.labelOffset, hnil]; rfl, Option.some.inj heq⟩
          · have hbegun := h.begun.start
            rwa [hhead] at hbegun
        · exact congrArg (· + 1) h.labelOffset
        · exact ⟨fun heq => congrArg some heq, fun heq => Option.some.inj heq⟩
        · have hdigit := h.nonDigit
          show (if isDigit c = true then st.nonDigit else st.nonDigit + 1) = 0 ↔ _
          split_ifs with hd
          · rw [hdigit, List.forall_mem_cons, and_iff_right hd]
          · constructor
            · intro hzero
              exact hzero.elim
            · rintro ⟨-, hall⟩
              exact absurd (hall c List.mem_cons_self) hd
  · right
    refine ⟨?_, if_pos hchar⟩
    intro hbegun
    exact hchar (hbegun.chars c (List.mem_reverse.mpr List.mem_cons_self))

/-- The tests behind the loop. -/
def NameScan.Accepts (st : NameScan) : Prop :=
  ¬ (st.labels = 4 ∧ st.nonDigit = 0) ∧ st.prev ≠ hyphen

/-- The loop from the middle of a label on. -/
theorem scan_iff (xs : List Byte) {st : NameScan} {acc : List Byte} {before : Prop}
    (h : Represents st acc before) :
    (∃ st', xs.foldlM scanChar st = some st' ∧ st'.Accepts) ↔
      (∀ label ∈ xs.splitOnPPrepend (· == dot) acc, Plain label) ∧
      ¬ (st.labels + (xs.splitOnPPrepend (· == dot) acc).length = 5 ∧ before ∧
        ∀ label ∈ xs.splitOnPPrepend (· == dot) acc, ∀ c ∈ label, isDigit c) := by
  induction xs generalizing st acc before with
  | nil =>
    have hall : (∀ c ∈ acc.reverse, isDigit c) ↔ ∀ c ∈ acc, isDigit c := by
      simp only [List.mem_reverse]
    rw [List.splitOnPPrepend_nil, List.forall_mem_singleton, List.forall_mem_singleton,
      List.length_singleton, hall, ← h.nonDigit, ← h.stop_iff, and_comm, Nat.succ_inj]
    constructor
    · rintro ⟨st', hst', haccepts⟩
      obtain rfl := Option.some.inj hst'
      exact haccepts
    · intro haccepts
      exact ⟨st, rfl, haccepts⟩
  | cons c xs ih =>
    rw [List.foldlM_cons]
    by_cases hc : c = dot
    · subst hc
      rw [List.splitOnPPrepend_cons_pos (p := (· == dot)) (beq_self_eq_true dot),
        List.forall_mem_cons, List.forall_mem_cons, List.length_cons]
      rcases scanChar_dot h with ⟨hplain, st', hst', hlabels, h'⟩ | ⟨hnot, hnone⟩
      · have hall : (∀ c ∈ acc.reverse, isDigit c) ↔ ∀ c ∈ acc, isDigit c := by
          simp only [List.mem_reverse]
        rw [hst', Option.bind_eq_bind, Option.bind_some, ih h', hlabels, hall, and_iff_right hplain,
          List.splitOnPPrepend_nil_right, and_assoc, Nat.add_assoc, Nat.add_comm 1]
      · rw [hnone]
        constructor
        · rintro ⟨st', hst', -⟩
          cases hst'
        · rintro ⟨⟨hplain, -⟩, -⟩
          exact absurd hplain hnot
    · rw [List.splitOnPPrepend_cons_neg (p := (· == dot)) (beq_eq_false_iff_ne.mpr hc)]
      rcases scanChar_other h hc with ⟨st', hst', hlabels, h'⟩ | ⟨hnot, hnone⟩
      · rw [hst', Option.bind_eq_bind, Option.bind_some, ih h', hlabels]
      · rw [hnone]
        constructor
        · rintro ⟨st', hst', -⟩
          cases hst'
        · rintro ⟨hplain, -⟩
          rcases splitOnPPrepend_head xs (c :: acc) with ⟨rest, hrest⟩
          exact absurd (hplain _ hrest).toBegun.of_append hnot

theorem represents_start : Represents ⟨0, 0x61, 1, 0⟩ [] True := by
  refine ⟨⟨?_, ?_, ?_⟩, rfl, ?_, ?_⟩
  · exact Nat.zero_le 63
  · exact fun c hc => absurd hc List.not_mem_nil
  · intro hstart
    cases hstart
  · refine iff_of_false ?_ ?_
    · intro heq
      exact absurd heq (show (0x61 : Byte) ≠ hyphen by decide)
    · intro heq
      cases heq
  · exact iff_of_true rfl ⟨trivial, fun c hc => absurd hc List.not_mem_nil⟩

/-! ## The names that are accepted -/

theorem isStationnameValid_iff (name : List Byte) :
    isStationnameValid name = true ↔
      name = [] ∨ PlainName name ∧ ¬ FourDigits name ∧ ¬ LikePort name := by
  unfold isStationnameValid
  by_cases hname : name = []
  · rw [if_pos hname]
    exact iff_of_true rfl (.inl hname)
  rw [if_neg hname, or_iff_right hname]
  by_cases hedge : name.head? = some hyphen ∨ PNET_STATION_NAME_MAX_SIZE ≤ name.length
  · rw [if_pos hedge]
    refine iff_of_false Bool.false_ne_true ?_
    rintro ⟨hplain, -, -⟩
    rcases hedge with hstart | hlong
    · -- The hyphen begins the first label.
      rcases List.head?_eq_some_iff.mp hstart with ⟨xs, rfl⟩
      rcases labels_head xs (show hyphen ≠ dot by decide) with ⟨rest, hrest⟩
      exact (hplain.plain _ hrest).start rfl
    · have hlength := hplain.length
      unfold PNET_STATION_NAME_MAX_SIZE at hlong
      omega
  rw [if_neg hedge]
  have hport : (name.take 5 = portPrefix ∧ (name.length = 8 ∨ name.length = 14) ∧
      ((name.drop 5).all fun c => isDigit c ∨ c = hyphen) = true) ↔ LikePort name := by
    unfold LikePort
    simp only [List.all_eq_true, decide_eq_true_eq]
  by_cases hlike : LikePort name
  · rw [if_pos (hport.mpr hlike)]
    exact iff_of_false Bool.false_ne_true fun h => h.2.2 hlike
  rw [if_neg fun h => hlike (hport.mp h)]
  have hscan := scan_iff name represents_start
  rw [List.splitOnPPrepend_nil_right, ← List.splitOn_eq_splitOnP] at hscan
  refine Iff.trans ?_ (hscan.trans ?_)
  · -- The loop runs through, and the tests behind it are those of `Accepts`.
    rcases name.foldlM scanChar ⟨0, 0x61, 1, 0⟩ with _ | st
    · refine iff_of_false Bool.false_ne_true ?_
      rintro ⟨st', hst', -⟩
      cases hst'
    · constructor
      · intro haccepts
        have htests : ¬ (st.labels = 4 ∧ st.nonDigit = 0) ∧ st.prev ≠ hyphen :=
          of_decide_eq_true haccepts
        exact ⟨st, rfl, htests⟩
      · rintro ⟨st', hst', haccepts⟩
        obtain rfl := Option.some.inj hst'
        show decide (¬ (st.labels = 4 ∧ st.nonDigit = 0) ∧ st.prev ≠ hyphen) = true
        exact decide_eq_true haccepts
  constructor
  · rintro ⟨hplain, hnot⟩
    refine ⟨⟨hname, ?_, hplain⟩, ?_, hlike⟩
    · have hlong : ¬ PNET_STATION_NAME_MAX_SIZE ≤ name.length := fun hlong => hedge (.inr hlong)
      unfold PNET_STATION_NAME_MAX_SIZE at hlong
      omega
    · rintro ⟨hfour, hdigits⟩
      refine hnot ⟨?_, trivial, hdigits⟩
      rw [labels] at hfour
      rw [hfour]
  · rintro ⟨hplain, hfour, -⟩
    refine ⟨hplain.plain, ?_⟩
    rintro ⟨hlength, -, hdigits⟩
    have hlabels : 1 + (name.splitOn dot).length = 5 := hlength
    refine hfour ⟨?_, hdigits⟩
    rw [labels]
    omega

/-! ## The names on which the grammar and the function agree -/

/-- For a name without dots. -/
theorem labels_eq_singleton {name : List Byte} (h : dot ∉ name) : labels name = [name] :=
  List.splitOn_eq_singleton h

/-- A name with one label is that label. -/
theorem eq_of_labels_eq_singleton {name label : List Byte} (h : labels name = [label]) :
    name = label := by
  have hback : [dot].intercalate (name.splitOn dot) = name := List.intercalate_splitOn dot
  rw [← labels, h] at hback
  simpa using hback.symm

theorem LikePort.labels_eq {name : List Byte} (h : LikePort name) : labels name = [name] := by
  apply labels_eq_singleton
  intro hdot
  rw [← List.take_append_drop 5 name, List.mem_append, h.1] at hdot
  rcases hdot with hdot | hdot
  · exact absurd hdot (by decide)
  · exact absurd (h.2.2 dot hdot) (by decide)

/-- The names for which the answer is that of the grammar, among those that keep to the rules that
the loop enforces. -/
structure Agrees (name : List Byte) : Prop where
  /-- With an empty label there are four labels, all of digits. -/
  empty : [] ∈ labels name → FourDigits name
  /-- With doubled hyphens the name looks like that of a port. -/
  hyphens : (∃ label ∈ labels name, DoubledHyphen label) → LikePort name
  /-- With a port in front there is nothing behind it. -/
  port : (∃ label ∈ (labels name).head?, PortForm label) → (labels name).length = 1
  /-- Four labels of digits make an IP address, unless one is empty. -/
  fourDigits : FourDigits name → [] ∈ labels name ∨ IpForm name
  /-- What looks like a port is one, unless hyphens are doubled. -/
  likePort : LikePort name → PortForm name ∨ DoubledHyphen name

/-! ## Exclusions -/

theorem IpForm.fourDigits {name : List Byte} (h : IpForm name) : FourDigits name :=
  ⟨h.1, fun label hlabel => (h.2 label hlabel).2.1⟩

/-- Digits are no hyphens. -/
theorem FourDigits.not_doubled {name : List Byte} (h : FourDigits name) :
    ¬ ∃ label ∈ labels name, DoubledHyphen label := by
  rintro ⟨label, hlabel, i, -, hi, -⟩
  exact absurd (h.2 label hlabel hyphen (List.mem_of_getElem? hi)) (by decide)

theorem PortForm.letter_mem {label : List Byte} (h : PortForm label) : 0x70 ∈ label := by
  rcases h with ⟨xyz, -, -, rfl | ⟨abcde, -, -, rfl⟩⟩ <;>
    exact List.mem_append_left _ List.mem_cons_self

theorem FourDigits.not_portForm {name : List Byte} (h : FourDigits name) :
    ¬ ∃ label ∈ (labels name).head?, PortForm label := by
  rintro ⟨label, hlabel, hport⟩
  exact absurd (h.2 label (List.mem_of_mem_head? hlabel) _ hport.letter_mem) (by decide)

theorem LikePort.not_fourDigits {name : List Byte} (h : LikePort name) : ¬ FourDigits name := by
  intro hfour
  have hone := hfour.1
  rw [h.labels_eq, List.length_singleton] at hone
  omega

theorem LikePort.not_empty {name : List Byte} (h : LikePort name) : [] ∉ labels name := by
  rw [h.labels_eq]
  intro hempty
  have hlength := h.2.1
  rw [← List.mem_singleton.mp hempty] at hlength
  exact absurd hlength (by decide)

theorem PortForm.likePort {name : List Byte} (h : PortForm name) : LikePort name := by
  rcases h with ⟨xyz, hxyz, hdigits, rfl | ⟨abcde, habcde, hmore, rfl⟩⟩
  · refine ⟨rfl, .inl ?_, ?_⟩
    · rw [List.length_append, hxyz]
      rfl
    · intro c hc
      have hc : c ∈ xyz := hc
      exact .inl (hdigits c hc)
  · refine ⟨rfl, .inr ?_, ?_⟩
    · rw [List.length_append, List.length_append, List.length_cons, hxyz, habcde]
      rfl
    · intro c hc
      have hc : c ∈ xyz ++ hyphen :: abcde := hc
      rcases List.mem_append.mp hc with hc | hc
      · exact .inl (hdigits c hc)
      · rcases List.mem_cons.mp hc with rfl | hc
        · exact .inr rfl
        · exact .inl (hmore c hc)

/-- Of a name that keeps to the rules of the loop, the rest of the grammar. -/
theorem PlainName.isStationName_iff {name : List Byte} (h : PlainName name) :
    IsStationName name ↔ [] ∉ labels name ∧ (¬ ∃ label ∈ labels name, DoubledHyphen label) ∧
      ¬ IpForm name ∧ ¬ ∃ label ∈ (labels name).head?, PortForm label := by
  unfold IsStationName
  constructor
  · rintro (hempty | ⟨-, hlabels, hip, hport⟩)
    · exact absurd hempty h.nonempty
    · refine ⟨?_, ?_, hip, ?_⟩
      · intro hempty
        exact absurd (hlabels [] hempty).nonempty (by decide)
      · rintro ⟨label, hlabel, hdoubled⟩
        exact (hlabels label hlabel).hyphens hdoubled
      · rintro ⟨label, hlabel, hform⟩
        exact hport label hlabel hform
  · rintro ⟨hempty, hdoubled, hip, hport⟩
    refine .inr ⟨h.length, ?_, hip, fun label hlabel hform => hport ⟨label, hlabel, hform⟩⟩
    intro label hlabel
    have hplain := h.plain label hlabel
    refine ⟨?_, hplain.length, hplain.chars, hplain.start, hplain.stop, ?_⟩
    · by_contra hzero
      have hnil : label = [] := List.length_eq_zero_iff.mp (by omega)
      exact hempty (hnil ▸ hlabel)
    · exact fun hlabelDoubled => hdoubled ⟨label, hlabel, hlabelDoubled⟩

theorem IsStationName.plainName {name : List Byte} (h : IsStationName name) (hname : name ≠ []) :
    PlainName name := by
  rcases h with hempty | ⟨hlength, hlabels, -, -⟩
  · exact absurd hempty hname
  · refine ⟨hname, hlength, ?_⟩
    intro label hlabel
    have hl := hlabels label hlabel
    exact ⟨⟨hl.length, hl.chars, hl.start⟩, hl.stop⟩

/-- For names that keep to the rules of the loop. -/
theorem PlainName.agrees_iff {name : List Byte} (h : PlainName name) :
    (isStationnameValid name = true ↔ IsStationName name) ↔ Agrees name := by
  rw [isStationnameValid_iff, or_iff_right h.nonempty, and_iff_right h, h.isStationName_iff]
  constructor
  · intro hiff
    refine ⟨?_, ?_, ?_, ?_, ?_⟩
    · intro hempty
      by_contra hfour
      exact (hiff.mp ⟨hfour, fun hlike => hlike.not_empty hempty⟩).1 hempty
    · intro hdoubled
      by_contra hlike
      exact (hiff.mp ⟨fun hfour => hfour.not_doubled hdoubled, hlike⟩).2.1 hdoubled
    · intro hport
      by_contra hmore
      have hlike : ¬ LikePort name := by
        intro hlike
        rw [hlike.labels_eq] at hmore
        exact hmore rfl
      exact (hiff.mp ⟨fun hfour => hfour.not_portForm hport, hlike⟩).2.2.2 hport
    · intro hfour
      by_contra hneither
      rcases not_or.mp hneither with ⟨hempty, hip⟩
      exact (hiff.mpr ⟨hempty, hfour.not_doubled, hip, hfour.not_portForm⟩).1 hfour
    · intro hlike
      by_contra hneither
      rcases not_or.mp hneither with ⟨hport, hdoubled⟩
      refine (hiff.mpr ⟨hlike.not_empty, ?_, ?_, ?_⟩).2 hlike
      · rw [hlike.labels_eq]
        rintro ⟨label, hlabel, hlabelDoubled⟩
        rw [List.mem_singleton.mp hlabel] at hlabelDoubled
        exact hdoubled hlabelDoubled
      · exact fun hip => hlike.not_fourDigits hip.fourDigits
      · rw [hlike.labels_eq]
        rintro ⟨label, hlabel, hform⟩
        obtain rfl := Option.some.inj hlabel
        exact hport hform
  · intro hagrees
    constructor
    · rintro ⟨hfour, hlike⟩
      refine ⟨fun hempty => hfour (hagrees.empty hempty), fun hd => hlike (hagrees.hyphens hd),
        fun hip => hfour hip.fourDigits, ?_⟩
      intro hport
      rcases List.length_eq_one_iff.mp (hagrees.port hport) with ⟨only, honly⟩
      rcases hport with ⟨label, hlabel, hform⟩
      rw [honly] at hlabel
      obtain rfl := Option.some.inj hlabel
      rw [eq_of_labels_eq_singleton honly] at hlike
      exact hlike hform.likePort
    · rintro ⟨hempty, hdoubled, hip, hport⟩
      constructor
      · intro hfour
        rcases hagrees.fourDigits hfour with h' | h'
        · exact hempty h'
        · exact hip h'
      · intro hlike
        rcases hagrees.likePort hlike with h' | h'
        · apply hport
          rw [hlike.labels_eq]
          exact ⟨name, rfl, h'⟩
        · apply hdoubled
          rw [hlike.labels_eq]
          exact ⟨name, List.mem_singleton_self name, h'⟩

/-- The function accepts exactly the names of the grammar, as far as a name agrees with it. -/
theorem stationname_agrees_iff (stationName : ℕ → Byte) (len : BitVec 16) :
    (isStationnameValidAt (some stationName) len = true ↔
        IsStationName (Buffer.slice stationName 0 len.toNat)) ↔
      (PlainName (Buffer.slice stationName 0 len.toNat) →
        Agrees (Buffer.slice stationName 0 len.toNat)) := by
  have hat : isStationnameValidAt (some stationName) len =
      isStationnameValid (Buffer.slice stationName 0 len.toNat) := by
    unfold isStationnameValidAt
    by_cases hlen : len = 0
    · have hzero : len.toNat = 0 := congrArg BitVec.toNat hlen
      rw [if_pos hlen, hzero, Buffer.slice_zero]
      rfl
    · rw [if_neg hlen]
  rw [hat]
  generalize Buffer.slice stationName 0 len.toNat = name
  constructor
  · intro hiff hplain
    exact hplain.agrees_iff.mp hiff
  · intro hagrees
    by_cases hplain : PlainName name
    · exact hplain.agrees_iff.mpr (hagrees hplain)
    · rw [isStationnameValid_iff]
      constructor
      · rintro (hempty | ⟨hplain', -, -⟩)
        · exact .inl hempty
        · exact absurd hplain' hplain
      · intro hname
        by_contra hnot
        exact hplain (hname.plainName (not_or.mp hnot).1)

/-- `a..b` is accepted. -/
theorem emptyLabel_accepted :
    ¬ (isStationnameValidAt (some fun i => [0x61, 0x2E, 0x2E, 0x62].getD i 0) 4#16 = true ↔
      IsStationName (Buffer.slice (fun i => [0x61, 0x2E, 0x2E, 0x62].getD i 0) 0 4)) := by
  have hname : Buffer.slice (fun i => ([0x61, 0x2E, 0x2E, 0x62] : List Byte).getD i 0) 0 4 =
      [0x61, 0x2E, 0x2E, 0x62] := by decide +kernel
  rw [iff_true_left (by decide +kernel), hname]
  rintro (hempty | ⟨-, hlabels, -, -⟩)
  · cases hempty
  · have hempty : [] ∈ labels [0x61, 0x2E, 0x2E, 0x62] := by decide
    exact absurd (hlabels [] hempty).nonempty (by decide)

end PNet.Cmina
