import CodeGrading.Proofs.Json.Layout
import Mathlib.Data.List.Forall2

/-!
Reading back what was written. `ReadsAs` says that the text of one document is read as another, in
either layout and whatever follows it, and goes through arrays and objects (`readsAs_array`,
`readsAs_object`). A document without faults whose numbers are exact integers and whose nesting is
within the limit is read as itself (`read_write`).
-/

namespace CodeGrading.Json

/-- The text of the first document is read as the second one, where `depth` more levels may be
opened. -/
structure ReadsAs (depth : Nat) (v w : Json) : Prop where
  /-- The text begins with neither a blank nor a bracket that closes an array. -/
  opens : ∀ (l : Layout) indent, ∃ c cs, l.chars indent v = c :: cs ∧ isSpace c = false ∧ c ≠ ']'
  read : ∀ (l : Layout) indent fuel level rest, 2 * (l.chars indent v).length < fuel →
    level + depth ≤ depthLimit + 1 → Delimited rest →
    readValue fuel level (l.chars indent v ++ rest) = (w, some rest)

/-- A document whose text loses nothing: no faults, no doubles, integers that are kept exact, and
at most `depth` levels of arrays and objects. -/
inductive Legible : Nat → Json → Prop
  | null {depth : Nat} : Legible depth .null
  | bool {depth : Nat} (b : Bool) : Legible depth (.bool b)
  | integer {depth : Nat} {i : Int} (least : leastInteger ≤ i) (greatest : i ≤ greatestInteger) :
      Legible depth (.number (.integer i))
  | string {depth : Nat} (s : String) : Legible depth (.string s)
  | array {depth : Nat} {vs : List Json} (items : ∀ v ∈ vs, Legible depth v) :
      Legible (depth + 1) (.array vs)
  | object {depth : Nat} {ms : List (String × Json)} (members : ∀ m ∈ ms, Legible depth m.2) :
      Legible (depth + 1) (.object ms)

attribute [simp] Legible.null Legible.bool Legible.string

@[simp]
theorem legible_array {depth : Nat} {vs : List Json} :
    Legible (depth + 1) (.array vs) ↔ ∀ v ∈ vs, Legible depth v :=
  ⟨fun | .array items => items, .array⟩

@[simp]
theorem legible_object {depth : Nat} {ms : List (String × Json)} :
    Legible (depth + 1) (.object ms) ↔ ∀ m ∈ ms, Legible depth m.2 :=
  ⟨fun | .object members => members, .object⟩

/-! ## Scalars -/

theorem exists_fuel {n fuel : Nat} (enough : 2 * n < fuel) : ∃ f, fuel = f + 1 :=
  Nat.exists_eq_succ_of_ne_zero (by omega)

/-- Where no bracket, brace or quote opens, a scalar is read. -/
theorem readValue_of_scalar {fuel level : Nat} {c : Char} (solid : isSpace c = false)
    (other : c ∉ ['[', '\x7b', '"']) (cs : List Char) :
    readValue (fuel + 1) level (c :: cs) = readScalar (c :: cs) := by
  simp only [List.mem_cons, List.not_mem_nil, or_false, not_or] at other
  rw [readValue, skipSpaces_cons solid]
  split
  · exact absurd (List.cons.inj ‹_›).1 other.1
  · exact absurd (List.cons.inj ‹_›).1 other.2.1
  · exact absurd (List.cons.inj ‹_›).1 other.2.2
  · rfl

variable {depth : Nat}

/-- A scalar has one text, which takes a single step to read. -/
theorem readsAs_of_step {v w : Json} {c : Char} {cs : List Char}
    (text : ∀ (l : Layout) indent, l.chars indent v = c :: cs) (solid : isSpace c = false)
    (other : c ≠ ']')
    (step : ∀ fuel level rest, Delimited rest →
      readValue (fuel + 1) level (c :: cs ++ rest) = (w, some rest)) :
    ReadsAs depth v w where
  opens l indent := ⟨c, cs, text l indent, solid, other⟩
  read l indent fuel level rest enough _ delimited := by
    obtain ⟨f, rfl⟩ := exists_fuel enough
    rw [text]
    exact step f level rest delimited

theorem readsAs_null : ReadsAs depth .null .null := by
  have text : ∀ (l : Layout) indent, l.chars indent .null = ['n', 'u', 'l', 'l'] :=
    fun l _ => by cases l <;> rfl
  exact readsAs_of_step text rfl (by decide) fun _ _ _ _ => readValue_of_scalar rfl (by decide) _

theorem readsAs_bool (b : Bool) : ReadsAs depth (.bool b) (.bool b) := by
  cases b with
  | false =>
    have text : ∀ (l : Layout) indent, l.chars indent (.bool false) = ['f', 'a', 'l', 's', 'e'] :=
      fun l _ => by cases l <;> rfl
    exact readsAs_of_step text rfl (by decide) fun _ _ _ _ => readValue_of_scalar rfl (by decide) _
  | true =>
    have text : ∀ (l : Layout) indent, l.chars indent (.bool true) = ['t', 'r', 'u', 'e'] :=
      fun l _ => by cases l <;> rfl
    exact readsAs_of_step text rfl (by decide) fun _ _ _ _ => readValue_of_scalar rfl (by decide) _

theorem readsAs_string (s : String) : ReadsAs depth (.string s) (.string s) := by
  have text : ∀ (l : Layout) indent, l.chars indent (.string s) =
      '"' :: (s.toList.flatMap escapeChar ++ ['"']) :=
    fun l _ => by cases l <;> rfl
  refine readsAs_of_step text rfl (by decide) fun fuel level rest _ => ?_
  obtain ⟨ps, pieces, assembled⟩ := readPieces_escape s.toList rest
  have quoted : '"' :: (s.toList.flatMap escapeChar ++ ['"']) ++ rest =
      '"' :: (s.toList.flatMap escapeChar ++ '"' :: rest) := by
    simp
  rw [quoted, readValue, skipSpaces_cons rfl]
  simp only [pieces, assembled, String.ofList_toList]

/-- Where a character of a number stands, nothing but a number is read. -/
theorem readScalar_eq_number {c : Char} (number : NumberChar c) {cs rest : List Char} {n : Number} :
    readScalar (c :: cs) = (.number n, some rest) ↔
      readNumber (c :: cs) = some (some n, rest) := by
  rw [readScalar]
  · cases readNumber (c :: cs) with
    | none => simp
    | some r =>
      obtain ⟨n?, left⟩ := r
      cases n? <;> simp
  · rintro cs' eq
    exact number.ne (by decide) (List.cons.inj eq).1
  · rintro cs' eq
    exact number.ne (by decide) (List.cons.inj eq).1
  · rintro cs' eq
    exact number.ne (by decide) (List.cons.inj eq).1

/-- A number whose text is read as a number is read so wherever it stands. -/
theorem readsAs_number {m n : Number} (written : ∀ c ∈ writeNumber m, NumberChar c)
    (whole : readNumber (writeNumber m) = some (some n, [])) :
    ReadsAs depth (.number m) (.number n) := by
  cases chars : writeNumber m with
  | nil =>
    rw [chars] at whole
    cases whole
  | cons c cs =>
    rw [chars] at whole written
    have first := written c List.mem_cons_self
    have text : ∀ (l : Layout) indent, l.chars indent (.number m) = c :: cs :=
      fun l _ => by cases l <;> exact chars
    refine readsAs_of_step text first.solid (first.ne (by decide)) ?_
    intro fuel level rest delimited
    have read := (local_readNumber whole).2 delimited
    rw [List.cons_append] at read ⊢
    rw [readValue_of_scalar first.solid first.scalar]
    exact (readScalar_eq_number first).mpr read

/-- What a number is read as from its own text, it is read as wherever it stands. -/
theorem readsAs_of_read {m n : Number} (written : ∀ c ∈ writeNumber m, NumberChar c)
    {l : Layout} {rest : List Char}
    (read : Json.read (l.write (.number m)).toList = (.number n, some rest))
    (blank : skipSpaces rest = []) : ReadsAs depth (.number m) (.number n) := by
  refine readsAs_number written ?_
  have text : l.chars 0 (.number m) = writeNumber m := by
    cases l <;> rfl
  rw [l.write_eq, String.toList_ofList, text, Json.read] at read
  cases chars : writeNumber m with
  | nil =>
    rw [chars] at read
    cases read
  | cons c cs =>
    rw [chars] at read written
    have first := written c List.mem_cons_self
    rw [readValue_of_scalar first.solid first.scalar, readScalar_eq_number first] at read
    have suffix := (local_readNumber read).1
    cases rest with
    | nil => exact read
    | cons d ds =>
      have solid := (written d (suffix.mem List.mem_cons_self)).solid
      rw [skipSpaces_cons solid] at blank
      cases blank

theorem readsAs_integer {i : Int} (least : leastInteger ≤ i) (greatest : i ≤ greatestInteger) :
    ReadsAs depth (.number (.integer i)) (.number (.integer i)) :=
  readsAs_number (numberChar_writeInt i) (readNumber_writeInt least greatest)

/-! ## Arrays -/

theorem delimited_mark {c : Char} (mark : c ∈ [',', ']', '\x7d']) (rest : List Char) :
    Delimited (c :: rest) := by
  rintro d ⟨⟩
  simp only [List.mem_cons, List.not_mem_nil, or_false] at mark
  rcases mark with rfl | rfl | rfl <;> decide

variable {l : Layout} {indent fuel level : Nat} {gap : List Char}

section Items

variable {v w : Json}

theorem readItems_comma (reads : ReadsAs depth v w) (blank : Blank gap)
    (enough : 2 * (l.chars indent v).length < fuel)
    (within : level + 1 + depth ≤ depthLimit + 1) (rest : List Char) :
    readItems (fuel + 1) level (gap ++ (l.chars indent v ++ ',' :: rest)) =
      (w :: (readItems fuel level rest).1, (readItems fuel level rest).2) := by
  have item := reads.read l indent fuel (level + 1) (',' :: rest) enough within
    (delimited_mark (by decide) rest)
  rw [readItems, readValue_append blank, item]
  rfl

theorem readItems_last (reads : ReadsAs depth v w) (blank : Blank gap)
    (enough : 2 * (l.chars indent v).length < fuel)
    (within : level + 1 + depth ≤ depthLimit + 1) {close : List Char} (closing : Blank close)
    (rest : List Char) :
    readItems (fuel + 1) level (gap ++ (l.chars indent v ++ (close ++ ']' :: rest))) =
      ([w], some rest) := by
  have item := reads.read l indent fuel (level + 1) (close ++ ']' :: rest) enough within
    (delimited_append closing (delimited_mark (by decide) rest))
  rw [readItems, readValue_append blank, item]
  simp only [skipSpaces_append closing, skipSpaces_cons (show isSpace ']' = false from rfl)]

end Items

/-- Items are read one after the other up to the closing bracket. -/
theorem readItems_items {v : Json} {vs ws : List Json} (blank : Blank gap)
    (items : List.Forall₂ (ReadsAs depth) (v :: vs) ws) (fuel level : Nat) (rest : List Char)
    (enough : 2 * (l.chars (indent + 1) v ++ l.items indent vs).length ≤ fuel)
    (within : level + 1 + depth ≤ depthLimit + 1) :
    readItems fuel level (gap ++ (l.chars (indent + 1) v ++ (l.items indent vs ++ rest))) =
      (ws, some rest) := by
  induction vs generalizing v ws fuel gap with
  | nil =>
    obtain ⟨w, ws, reads, last, rfl⟩ := List.forall₂_cons_left_iff.mp items
    obtain rfl := List.forall₂_nil_left_iff.mp last
    rw [l.items_nil, List.length_append, List.length_append, List.length_singleton] at enough
    obtain ⟨f, rfl⟩ := exists_fuel (show 2 * (l.chars (indent + 1) v).length < fuel by omega)
    rw [l.items_nil, List.append_assoc, List.singleton_append,
      readItems_last reads blank (by omega) within (l.blank_gap indent)]
  | cons u us ih =>
    obtain ⟨w, ws, reads, more, rfl⟩ := List.forall₂_cons_left_iff.mp items
    rw [List.length_append, l.items_cons, List.length_cons, List.length_append] at enough
    obtain ⟨f, rfl⟩ := exists_fuel (show 2 * (l.chars (indent + 1) v).length < fuel by omega)
    rw [l.items_cons, List.cons_append, readItems_comma reads blank (by omega) within,
      List.append_assoc, List.append_assoc, ih (l.blank_gap _) more f (by omega)]

theorem readsAs_array {vs ws : List Json} (items : List.Forall₂ (ReadsAs depth) vs ws) :
    ReadsAs (depth + 1) (.array vs) (.array ws) where
  opens l indent := by
    cases vs with
    | nil => exact ⟨'[', _, l.chars_array_nil indent, rfl, by decide⟩
    | cons v vs => exact ⟨'[', _, l.chars_array_cons indent v vs, rfl, by decide⟩
  read l indent fuel level rest enough within _ := by
    obtain ⟨f, rfl⟩ := exists_fuel enough
    have shallow : level ≤ depthLimit := by omega
    cases vs with
    | nil =>
      obtain rfl := List.forall₂_nil_left_iff.mp items
      rw [l.chars_array_nil, readValue, List.cons_append, skipSpaces_cons rfl]
      simp [skipSpaces, isSpace, atLevel, shallow]
    | cons v vs =>
      rw [l.chars_array_cons, List.length_cons, List.length_append] at enough
      have read : readItems f level ([] ++ (l.chars (indent + 1) v ++ (l.items indent vs ++ rest))) =
          (ws, some rest) :=
        readItems_items blank_nil items f level rest (by omega) (by omega)
      obtain ⟨w, ws', reads, _, _⟩ := List.forall₂_cons_left_iff.mp items
      obtain ⟨c, cs, first, solid, other⟩ := reads.opens l (indent + 1)
      have start : skipSpaces (l.gap (indent + 1) ++
            (l.chars (indent + 1) v ++ (l.items indent vs ++ rest))) =
          l.chars (indent + 1) v ++ (l.items indent vs ++ rest) := by
        rw [skipSpaces_append (l.blank_gap _), first, List.cons_append, skipSpaces_cons solid]
      rw [l.chars_array_cons, readValue, List.cons_append, skipSpaces_cons rfl]
      simp only [List.append_assoc, start]
      split
      · rename_i eq
        rw [first] at eq
        exact absurd (List.cons.inj eq).1 other
      · rw [List.nil_append] at read
        simp only [read, atLevel, shallow, if_true]

/-! ## Objects -/

theorem readName_quote (name : String) (rest : List Char) :
    readName (quote name ++ rest) = some (some name, rest) := by
  obtain ⟨ps, pieces, text⟩ := readPieces_escape name.toList rest
  have quoted : quote name ++ rest = '"' :: (name.toList.flatMap escapeChar ++ '"' :: rest) := by
    simp [quote]
  rw [quoted, readName, skipSpaces_cons rfl]
  simp only [pieces, text, Option.map_some, String.ofList_toList]

/-- The first member is read as the second one. -/
structure MemberReadsAs (depth : Nat) (m n : String × Json) : Prop where
  name : m.1 = n.1
  value : ReadsAs depth m.2 n.2

section Members

variable {m n : String × Json}

theorem MemberReadsAs.read (reads : MemberReadsAs depth m n) (blank : Blank gap)
    (enough : 2 * (l.member indent m).length ≤ fuel + 1)
    (within : level + 1 + depth ≤ depthLimit + 1) {rest : List Char} (delimited : Delimited rest) :
    ∃ text, readName (gap ++ (l.member indent m ++ rest)) = some (some n.1, ':' :: text) ∧
      readValue fuel (level + 1) text = (n.2, some rest) := by
  rw [Layout.member, List.length_append, List.length_cons, List.length_append] at enough
  refine ⟨l.pad ++ (l.chars indent m.2 ++ rest), ?_, ?_⟩
  · rw [readName_append blank, Layout.member, List.append_assoc, readName_quote, reads.name,
      List.cons_append, List.append_assoc]
  · rw [readValue_append l.blank_pad]
    exact reads.value.read l indent fuel (level + 1) rest (by omega) within delimited

theorem readMembers_comma (reads : MemberReadsAs depth m n) (blank : Blank gap)
    (enough : 2 * (l.member indent m).length ≤ fuel + 1)
    (within : level + 1 + depth ≤ depthLimit + 1) (rest : List Char) :
    readMembers (fuel + 1) level (gap ++ (l.member indent m ++ ',' :: rest)) =
      (n :: (readMembers fuel level rest).1, (readMembers fuel level rest).2) := by
  have delimited : Delimited (',' :: rest) := delimited_mark (by decide) rest
  obtain ⟨text, name, value⟩ := reads.read blank enough within delimited
  rw [readMembers, name]
  simp only [skipSpaces_cons (show isSpace ':' = false from rfl), value]
  rfl

theorem readMembers_last (reads : MemberReadsAs depth m n) (blank : Blank gap)
    (enough : 2 * (l.member indent m).length ≤ fuel + 1)
    (within : level + 1 + depth ≤ depthLimit + 1) {close : List Char} (closing : Blank close)
    (rest : List Char) :
    readMembers (fuel + 1) level (gap ++ (l.member indent m ++ (close ++ '\x7d' :: rest))) =
      ([n], some rest) := by
  have delimited : Delimited (close ++ '\x7d' :: rest) :=
    delimited_append closing (delimited_mark (by decide) rest)
  obtain ⟨text, name, value⟩ := reads.read blank enough within delimited
  rw [readMembers, name]
  simp only [skipSpaces_cons (show isSpace ':' = false from rfl), value, skipSpaces_append closing,
    skipSpaces_cons (show isSpace '\x7d' = false from rfl)]
  rfl

end Members

/-- Members are read one after the other up to the closing brace. -/
theorem readMembers_members {m : String × Json} {ms ns : List (String × Json)} (blank : Blank gap)
    (members : List.Forall₂ (MemberReadsAs depth) (m :: ms) ns) (fuel level : Nat)
    (rest : List Char)
    (enough : 2 * (l.member (indent + 1) m ++ l.members indent ms).length ≤ fuel)
    (within : level + 1 + depth ≤ depthLimit + 1) :
    readMembers fuel level (gap ++ (l.member (indent + 1) m ++ (l.members indent ms ++ rest))) =
      (ns, some rest) := by
  induction ms generalizing m ns fuel gap with
  | nil =>
    obtain ⟨n, ns, reads, last, rfl⟩ := List.forall₂_cons_left_iff.mp members
    obtain rfl := List.forall₂_nil_left_iff.mp last
    rw [l.members_nil, List.length_append, List.length_append, List.length_singleton] at enough
    obtain ⟨f, rfl⟩ := exists_fuel (show 2 * (l.member (indent + 1) m).length < fuel by omega)
    rw [l.members_nil, List.append_assoc, List.singleton_append,
      readMembers_last reads blank (by omega) within (l.blank_gap indent)]
  | cons o os ih =>
    obtain ⟨n, ns, reads, more, rfl⟩ := List.forall₂_cons_left_iff.mp members
    rw [List.length_append, l.members_cons, List.length_cons, List.length_append] at enough
    obtain ⟨f, rfl⟩ := exists_fuel (show 2 * (l.member (indent + 1) m).length < fuel by omega)
    rw [l.members_cons, List.cons_append, readMembers_comma reads blank (by omega) within,
      List.append_assoc, List.append_assoc, ih (l.blank_gap _) more f (by omega)]

theorem readsAs_object {ms ns : List (String × Json)}
    (members : List.Forall₂ (MemberReadsAs depth) ms ns) :
    ReadsAs (depth + 1) (.object ms) (.object ns) where
  opens l indent := by
    cases ms with
    | nil => exact ⟨'\x7b', _, l.chars_object_nil indent, rfl, by decide⟩
    | cons m ms => exact ⟨'\x7b', _, l.chars_object_cons indent m ms, rfl, by decide⟩
  read l indent fuel level rest enough within _ := by
    obtain ⟨f, rfl⟩ := exists_fuel enough
    have shallow : level ≤ depthLimit := by omega
    cases ms with
    | nil =>
      obtain rfl := List.forall₂_nil_left_iff.mp members
      rw [l.chars_object_nil, readValue, List.cons_append, skipSpaces_cons rfl]
      simp [skipSpaces, isSpace, atLevel, shallow]
    | cons m ms =>
      rw [l.chars_object_cons, List.length_cons, List.length_append] at enough
      have read : readMembers f level
          ([] ++ (l.member (indent + 1) m ++ (l.members indent ms ++ rest))) = (ns, some rest) :=
        readMembers_members blank_nil members f level rest (by omega) (by omega)
      have opening : l.member (indent + 1) m ++ (l.members indent ms ++ rest) =
          '"' :: (l.member (indent + 1) m ++ (l.members indent ms ++ rest)).tail := rfl
      have start : skipSpaces (l.gap (indent + 1) ++
            (l.member (indent + 1) m ++ (l.members indent ms ++ rest))) =
          l.member (indent + 1) m ++ (l.members indent ms ++ rest) := by
        rw [skipSpaces_append (l.blank_gap _), opening, skipSpaces_cons rfl]
      rw [l.chars_object_cons, readValue, List.cons_append, skipSpaces_cons rfl]
      simp only [List.append_assoc, start]
      split
      · rename_i eq
        rw [opening] at eq
        exact absurd (List.cons.inj eq).1 (by decide)
      · rw [List.nil_append] at read
        simp only [read, atLevel, shallow, if_true]

/-! ## Whole documents -/

theorem Legible.readsAs {v : Json} (legible : Legible depth v) : ReadsAs depth v v := by
  induction legible with
  | null => exact readsAs_null
  | bool b => exact readsAs_bool b
  | integer least greatest => exact readsAs_integer least greatest
  | string s => exact readsAs_string s
  | array _ ih => exact readsAs_array (List.forall₂_same.mpr ih)
  | object _ ih => exact readsAs_object (List.forall₂_same.mpr fun m mem => ⟨rfl, ih m mem⟩)

theorem ReadsAs.read_write {v w : Json} (reads : ReadsAs depth v w) (within : depth ≤ depthLimit)
    (l : Layout) : Json.read (l.write v).toList = (w, some []) := by
  have value := reads.read l 0 (2 * (l.chars 0 v).length + 2) 1 [] (by omega) (by omega)
    delimited_nil
  rw [List.append_nil] at value
  rw [l.write_eq, String.toList_ofList]
  exact value

/-- A document that loses nothing in its text is read back. -/
theorem read_write {v : Json} (legible : Legible depth v) (within : depth ≤ depthLimit)
    (l : Layout) : Json.read (l.write v).toList = (v, some []) :=
  legible.readsAs.read_write within l

theorem itemsFaultsAre_iff {ok : Fault → Bool} {vs : List Json} :
    itemsFaultsAre ok vs = true ↔ ∀ v ∈ vs, v.faultsAre ok = true := by
  induction vs with
  | nil => simp [itemsFaultsAre]
  | cons v vs ih => simp [itemsFaultsAre, ih]

theorem membersFaultsAre_iff {ok : Fault → Bool} {ms : List (String × Json)} :
    membersFaultsAre ok ms = true ↔ ∀ m ∈ ms, m.2.faultsAre ok = true := by
  induction ms with
  | nil => simp [membersFaultsAre]
  | cons m ms ih =>
    obtain ⟨name, v⟩ := m
    simp [membersFaultsAre, ih]

theorem Legible.sound {v : Json} (legible : Legible depth v) : v.sound = true := by
  induction legible with
  | null | bool | integer | string => rfl
  | array _ ih =>
    rw [Json.sound, faultsAre]
    exact itemsFaultsAre_iff.mpr ih
  | object _ ih =>
    rw [Json.sound, faultsAre]
    exact membersFaultsAre_iff.mpr ih

end CodeGrading.Json
