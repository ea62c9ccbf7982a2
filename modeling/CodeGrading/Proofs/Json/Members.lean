import CodeGrading.Json.Variant
import Mathlib.Data.List.Forall2

/-!
What a record or a union reads from a document, without the order in which it is read. A field
takes the only member of its name, or is absent (`Field.Reads`); members of other names have to be
readable and no more. `decode_record_object`, `decode_tagged_object` and `decode_flattened_object`
say so of an object, `decode_record_array` and `decode_tagged_array` tell what is read from an
array.
-/

namespace CodeGrading

/-- The values of the members with a name. -/
def Json.named (name : String) (ms : List (String × Json)) : List Json :=
  (ms.filter (·.1 == name)).map (·.2)

/-- The members with none of the names. -/
def Json.others (names : List String) (ms : List (String × Json)) : List (String × Json) :=
  ms.filter (·.1 ∉ names)

/-! ## Results of steps -/

section Except

variable {ε α β : Type} {x : Except ε α} {b : β}

theorem bind_eq_ok {f : α → Except ε β} : x >>= f = .ok b ↔ ∃ a, x = .ok a ∧ f a = .ok b := by
  cases x <;> simp [bind, Except.bind]

theorem map_eq_ok {f : α → β} : x.map f = .ok b ↔ ∃ a, x = .ok a ∧ f a = b := by
  cases x <;> simp [Except.map]

/-- Of a result without decidable equality of its errors the value can still be compared. -/
theorem eq_ok_of_toOption {a : α} (value : x.toOption = some a) : x = .ok a := by
  cases x with
  | error => cases value
  | ok b => exact congrArg _ (Option.some.inj value)

end Except

/-! ## What is read -/

open Json (named others)

/-- What a slot becomes by the members of its name: the only one goes into an empty slot. -/
inductive Fills {α : Type} (decode : Json → Except DecodeError α) :
    List Json → Option α → Option α → Prop
  | absent (slot : Option α) : Fills decode [] slot slot
  | present {v : Json} {a : α} (decoded : decode v = .ok a) : Fills decode [v] none (some a)

/-- The value that a field has by the members of its name. -/
inductive Field.Reads {α : Type} (f : Field α) (delivery : Delivery) : List Json → α → Prop
  | absent {a : α} (default : f.absent = some a) : Reads f delivery [] a
  | present {v : Json} {a : α} (decoded : f.codec.decode delivery v = .ok a) :
      Reads f delivery [v] a

theorem Field.Reads.absent_or_decoded {α : Type} {f : Field α} {delivery : Delivery}
    {vs : List Json} {a : α} (reads : f.Reads delivery vs a) :
    f.absent = some a ∨ ∃ v, f.codec.decode delivery v = .ok a := by
  cases reads with
  | absent default => exact .inl default
  | present decoded => exact .inr ⟨_, decoded⟩

namespace Fields

def Fill (delivery : Delivery) (ms : List (String × Json)) :
    {αs : List Type} → Fields αs → Slots αs → Slots αs → Prop
  | _, .none, _, _ => True
  | _, .cons field more, (slot, slots), (slot', slots') =>
    Fills (field.codec.decode delivery) (named field.name ms) slot slot' ∧
      more.Fill delivery ms slots slots'

/-- The values that the fields have by the members of an object. -/
def Read (delivery : Delivery) (ms : List (String × Json)) :
    {αs : List Type} → Fields αs → Values αs → Prop
  | _, .none, _ => True
  | _, .cons field more, (a, values) =>
    field.Reads delivery (named field.name ms) a ∧ more.Read delivery ms values

/-- The values that the fields have by the items of an array. -/
def ReadItems (delivery : Delivery) :
    {αs : List Type} → Fields αs → List Json → Values αs → Prop
  | _, .none, vs, _ => vs = []
  | _, .cons field more, [], (a, values) =>
    field.omitted = some a ∧ more.ReadItems delivery [] values
  | _, .cons field more, v :: vs, (a, values) =>
    field.codec.decode delivery v = .ok a ∧ more.ReadItems delivery vs values

end Fields

/-- The variant of every kind decodes values of that kind. -/
def Codec.Sorted {ρ κ : Type} (body : κ → Codec ρ) (kindOf : ρ → κ) : Prop :=
  ∀ ⦃k delivery v r⦄, (body k).decode delivery v = .ok r → kindOf r = k

/-- There is nothing in the text but the document and blanks around it. -/
def Json.HasText (v : Json) (text : String) : Prop :=
  ∃ rest, Json.read text.toList = (v, some rest) ∧ Json.skipSpaces rest = []

/-! ## Members by name -/

namespace Json

variable {name other : String} {v : Json} {ms ns : List (String × Json)} {names : List String}

theorem named_cons_self : named name ((name, v) :: ms) = v :: named name ms := by
  simp [named]

theorem named_cons_of_ne (ne : other ≠ name) : named name ((other, v) :: ms) = named name ms := by
  simp [named, ne]

theorem named_eq_nil (none : ∀ m ∈ ms, m.1 ≠ name) : named name ms = [] := by
  rw [named, List.map_eq_nil_iff, List.filter_eq_nil_iff]
  intro m mem same
  exact none m mem (eq_of_beq same)

theorem mem_others {m : String × Json} : m ∈ others names ms ↔ m ∈ ms ∧ m.1 ∉ names := by
  simp [others]

theorem others_cons_of_mem (known : name ∈ names) :
    others names ((name, v) :: ms) = others names ms := by
  simp [others, known]

theorem others_cons_of_notMem (unknown : name ∉ names) :
    others names ((name, v) :: ms) = (name, v) :: others names ms := by
  simp [others, unknown]

theorem others_append :
    others names (ms ++ ns) = others names ms ++ others names ns :=
  List.filter_append ..

theorem others_eq_nil (known : ∀ m ∈ ms, m.1 ∈ names) : others names ms = [] := by
  rw [others, List.filter_eq_nil_iff]
  intro m mem unknown
  exact of_decide_eq_true unknown (known m mem)

theorem others_eq_self (unknown : ∀ m ∈ ms, m.1 ∉ names) : others names ms = ms := by
  rw [others, List.filter_eq_self]
  exact fun m mem => decide_eq_true (unknown m mem)

end Json

open Json (named_cons_self named_cons_of_ne mem_others others_cons_of_mem others_cons_of_notMem)

/-! ## Filling the slots -/

theorem fills_cons {α : Type} {decode : Json → Except DecodeError α} {v : Json} {vs : List Json}
    {before after : Option α} :
    Fills decode (v :: vs) before after ↔
      before = none ∧ ∃ a, decode v = .ok a ∧ Fills decode vs (some a) after := by
  constructor
  · rintro ⟨⟩
    exact ⟨rfl, _, ‹_›, .absent _⟩
  · rintro ⟨rfl, a, decoded, fills⟩
    cases fills with
    | absent => exact .present decoded

/-- A member that is kept stands in front of those that are left over. -/
theorem keep_eq_ok {α : Type} {x : Except DecodeError (α × List (String × Json))} {name : String}
    {v : Json} {a : α} {left : List (String × Json)} :
    (if v.sound then do
        let (a, rest) ← x
        return (a, (name, v) :: rest)
      else .error .notJson) = .ok (a, left) ↔
      v.sound = true ∧ ∃ rest, x = .ok (a, rest) ∧ left = (name, v) :: rest := by
  by_cases sound : v.sound = true
  · simp only [sound, if_true, bind_eq_ok, true_and]
    constructor
    · rintro ⟨⟨a, rest⟩, later, ⟨⟩⟩
      exact ⟨rest, later, rfl⟩
    · rintro ⟨rest, later, rfl⟩
      exact ⟨(a, rest), later, rfl⟩
  · simp [sound]

namespace Fields

variable {αs : List Type} {delivery : Delivery} {name : String} {v : Json}
  {ms : List (String × Json)}

theorem accept_eq_none {fs : Fields αs} {slots : Slots αs} :
    fs.accept delivery name v slots = .none ↔ name ∉ fs.names := by
  induction fs with
  | none => simp [accept, names]
  | cons field more ih =>
    obtain ⟨slot, slots⟩ := slots
    by_cases own : field.name = name
    · cases slot <;> simp [accept, names, own]
    · simp [accept, names, own, ih, Ne.symm own]

theorem fill_cons_of_notMem {fs : Fields αs} {before after : Slots αs} (unknown : name ∉ fs.names) :
    fs.Fill delivery ((name, v) :: ms) before after ↔ fs.Fill delivery ms before after := by
  induction fs with
  | none => rfl
  | cons field more ih =>
    obtain ⟨ne, unknown⟩ := List.ne_and_not_mem_of_not_mem_cons unknown
    rw [Fill, Fill, named_cons_of_ne ne, ih unknown]

/-- A member of a field goes into the empty slot of its field, and no other slot is touched. -/
theorem fill_cons_of_mem {fs : Fields αs} {before after : Slots αs} (distinct : fs.names.Nodup)
    (known : name ∈ fs.names) :
    fs.Fill delivery ((name, v) :: ms) before after ↔
      ∃ mid, fs.accept delivery name v before = some (.ok mid) ∧
        fs.Fill delivery ms mid after := by
  induction fs with
  | none => cases known
  | cons field more ih =>
    obtain ⟨slot, slots⟩ := before
    obtain ⟨slot', slots'⟩ := after
    obtain ⟨fresh, distinct⟩ := List.nodup_cons.mp distinct
    by_cases own : field.name = name
    · subst own
      rw [Fill, named_cons_self, fill_cons_of_notMem fresh, fills_cons]
      cases slot with
      | some b => simp [accept]
      | none =>
        simp only [accept, if_true, Option.some.injEq, map_eq_ok, true_and]
        constructor
        · rintro ⟨⟨a, decoded, fills⟩, rest⟩
          exact ⟨(some a, slots), ⟨a, decoded, rfl⟩, fills, rest⟩
        · rintro ⟨_, ⟨a, decoded, rfl⟩, fills, rest⟩
          exact ⟨⟨a, decoded, fills⟩, rest⟩
    · have later := (List.mem_cons.mp known).resolve_left (Ne.symm own)
      rw [Fill, named_cons_of_ne (Ne.symm own), ih distinct later]
      simp only [accept, own, if_false, Option.map_eq_some_iff, map_eq_ok]
      constructor
      · rintro ⟨first, mid, accepted, rest⟩
        exact ⟨(slot, mid), ⟨_, accepted, mid, rfl, rfl⟩, first, rest⟩
      · rintro ⟨_, ⟨_, accepted, mid, rfl, rfl⟩, first, rest⟩
        exact ⟨first, mid, accepted, rest⟩

theorem read_cons_of_notMem {fs : Fields αs} {values : Values αs} (unknown : name ∉ fs.names) :
    fs.Read delivery ((name, v) :: ms) values ↔ fs.Read delivery ms values := by
  induction fs with
  | none => rfl
  | cons field more ih =>
    obtain ⟨ne, unknown⟩ := List.ne_and_not_mem_of_not_mem_cons unknown
    rw [Read, Read, named_cons_of_ne ne, ih unknown]

theorem fill_nil {fs : Fields αs} {before after : Slots αs} :
    fs.Fill delivery [] before after ↔ after = before := by
  induction fs with
  | none => exact ⟨fun _ => rfl, fun _ => trivial⟩
  | cons field more ih =>
    obtain ⟨slot, slots⟩ := before
    obtain ⟨slot', slots'⟩ := after
    rw [Fill, ih, Prod.mk.injEq]
    refine and_congr_left' ⟨?_, ?_⟩
    · rintro ⟨⟩
      rfl
    · rintro rfl
      exact .absent _

/-- Members that are no field are passed over where they can be. -/
theorem fill_eq_ok {fs : Fields αs} {before after : Slots αs} (distinct : fs.names.Nodup) :
    fs.fill delivery ms before = .ok after ↔
      fs.Fill delivery ms before after ∧ ∀ m ∈ others fs.names ms, m.2.skippable = true := by
  induction ms generalizing before with
  | nil =>
    rw [fill, fill_nil, Except.ok.injEq]
    exact ⟨fun eq => ⟨eq.symm, nofun⟩, fun read => read.1.symm⟩
  | cons m ms ih =>
    obtain ⟨name, v⟩ := m
    rw [fill]
    by_cases known : name ∈ fs.names
    · rw [fill_cons_of_mem distinct known, others_cons_of_mem known]
      cases accepted : fs.accept delivery name v before with
      | none => exact absurd known (accept_eq_none.mp accepted)
      | some r =>
        cases r with
        | error e => simp
        | ok mid => simp [ih]
    · rw [fill_cons_of_notMem known, others_cons_of_notMem known, accept_eq_none.mpr known]
      by_cases skippable : v.skippable = true
      · simp [skippable, ih]
      · simp [skippable]

theorem splitMembers_eq_ok {fs : Fields αs} {before after : Slots αs}
    {rest : List (String × Json)} (distinct : fs.names.Nodup) :
    Codec.splitMembers fs delivery ms before = .ok (after, rest) ↔
      fs.Fill delivery ms before after ∧ rest = others fs.names ms ∧
        ∀ m ∈ rest, m.2.sound = true := by
  induction ms generalizing before rest with
  | nil =>
    simp only [Codec.splitMembers, fill_nil, others, List.filter_nil, Except.ok.injEq,
      Prod.mk.injEq]
    constructor
    · rintro ⟨rfl, rfl⟩
      exact ⟨rfl, rfl, nofun⟩
    · rintro ⟨rfl, rfl, -⟩
      exact ⟨rfl, rfl⟩
  | cons m ms ih =>
    obtain ⟨name, v⟩ := m
    rw [Codec.splitMembers]
    by_cases known : name ∈ fs.names
    · rw [fill_cons_of_mem distinct known, others_cons_of_mem known]
      cases accepted : fs.accept delivery name v before with
      | none => exact absurd known (accept_eq_none.mp accepted)
      | some r =>
        cases r with
        | error e => simp
        | ok mid => simp [ih]
    · rw [fill_cons_of_notMem known, others_cons_of_notMem known, accept_eq_none.mpr known]
      simp only [keep_eq_ok, ih]
      constructor
      · rintro ⟨sound, _, ⟨filled, rfl, each⟩, rfl⟩
        exact ⟨filled, rfl, List.forall_mem_cons.mpr ⟨sound, each⟩⟩
      · rintro ⟨filled, rfl, each⟩
        obtain ⟨sound, each⟩ := List.forall_mem_cons.mp each
        exact ⟨sound, _, ⟨filled, rfl, each⟩, rfl⟩

theorem close_cons_eq_ok {α : Type} {field : Field α} {more : Fields αs} {slot : Option α}
    {slots : Slots αs} {a : α} {values : Values αs} :
    (cons field more).close (slot, slots) = .ok (a, values) ↔
      (slot <|> field.absent) = some a ∧ more.close slots = .ok values := by
  rw [close]
  cases slot <|> field.absent with
  | none => simp
  | some b => simp [map_eq_ok, and_comm]

theorem exists_fills_close {α : Type} {field : Field α} {vs : List Json} {a : α} :
    (∃ slot, Fills (field.codec.decode delivery) vs .none slot ∧
      (slot <|> field.absent) = some a) ↔ field.Reads delivery vs a := by
  constructor
  · rintro ⟨slot, fills, present⟩
    cases fills with
    | absent => exact .absent present
    | present decoded =>
      obtain rfl := Option.some.inj present
      exact .present decoded
  · rintro (default | decoded)
    · exact ⟨.none, .absent _, default⟩
    · exact ⟨some a, .present decoded, rfl⟩

theorem exists_fill_close {fs : Fields αs} {values : Values αs} :
    (∃ slots, fs.Fill delivery ms fs.empty slots ∧ fs.close slots = .ok values) ↔
      fs.Read delivery ms values := by
  induction fs with
  | none => exact ⟨fun _ => trivial, fun _ => ⟨(), trivial, rfl⟩⟩
  | cons field more ih =>
    obtain ⟨a, values⟩ := values
    rw [Read, ← exists_fills_close, ← ih]
    constructor
    · rintro ⟨⟨slot, slots⟩, ⟨fills, rest⟩, closed⟩
      obtain ⟨present, closed⟩ := close_cons_eq_ok.mp closed
      exact ⟨⟨slot, fills, present⟩, slots, rest, closed⟩
    · rintro ⟨⟨slot, fills, present⟩, slots, rest, closed⟩
      exact ⟨(slot, slots), ⟨fills, rest⟩, close_cons_eq_ok.mpr ⟨present, closed⟩⟩

theorem ofItems_eq_ok {fs : Fields αs} (owed : Nat → DecodeError) (position : Nat)
    {vs : List Json} {values : Values αs} :
    fs.ofItems delivery owed position vs = .ok (values, []) ↔
      fs.ReadItems delivery vs values := by
  induction fs generalizing position vs with
  | none => simp [ofItems, ReadItems]
  | cons field more ih =>
    obtain ⟨a, values⟩ := values
    cases vs with
    | nil =>
      simp only [ofItems, ReadItems, ← ih (position + 1)]
      cases field.omitted with
      | none => simp
      | some b => simp [map_eq_ok, and_comm]
    | cons v vs =>
      simp only [ofItems, ReadItems, ← ih (position + 1)]
      cases field.codec.decode delivery v with
      | error e => simp
      | ok b => simp [map_eq_ok, and_comm]

end Fields

/-! ## Texts, lists, records and unions -/

namespace Codec

theorem decodeText_eq_ok {α : Type} {c : Codec α} {text : String} {a : α} :
    c.decodeText text = .ok a ↔ ∃ v : Json, v.HasText text ∧ c.decode .streamed v = .ok a := by
  simp only [Json.HasText]
  rw [decodeText, decodeStart]
  cases read : Json.read text.toList with
  | mk v rest? =>
    cases value : c.decode .streamed v with
    | error e => simp [value]
    | ok b =>
      cases rest? with
      | none => simp [value]
      | some rest =>
        by_cases blank : Json.skipSpaces rest = [] <;> simp [value, blank]

theorem decodeItems_eq_ok {α : Type} {decode : Json → Except DecodeError α} {vs : List Json}
    {as : List α} :
    decodeItems decode vs = .ok as ↔ List.Forall₂ (fun v a => decode v = .ok a) vs as := by
  induction vs generalizing as with
  | nil => simp [decodeItems, eq_comm]
  | cons v vs ih =>
    simp only [decodeItems, bind_eq_ok, ih, List.forall₂_cons_left_iff]
    constructor
    · rintro ⟨a, decoded, as, later, ⟨⟩⟩
      exact ⟨a, as, decoded, later, rfl⟩
    · rintro ⟨a, as, decoded, later, rfl⟩
      exact ⟨a, decoded, as, later, rfl⟩

theorem decode_list_eq_ok {α : Type} {c : Codec α} {delivery : Delivery} {v : Json}
    {as : List α} : (list c).decode delivery v = .ok as ↔
      ∃ vs, v = .array vs ∧ List.Forall₂ (fun v a => c.decode delivery v = .ok a) vs as := by
  cases v with
  | array vs => simp [list, decodeItems_eq_ok]
  | object | null | bool | number | string | fault => simp [list]

variable {αs : List Type} {β ρ κ : Type} {delivery : Delivery}

section Record

variable {name : String} {fs : Fields αs} {build : Values αs → ρ} {values : ρ → Values αs} {r : ρ}

theorem decode_record_object {ms : List (String × Json)} (distinct : fs.names.Nodup) :
    (record name fs build values).decode delivery (.object ms) = .ok r ↔
      ∃ found, fs.Read delivery ms found ∧ build found = r ∧
        ∀ m ∈ others fs.names ms, m.2.skippable = true := by
  simp only [record, bind_eq_ok, pure, Except.pure, Except.ok.injEq, Fields.fill_eq_ok distinct,
    ← Fields.exists_fill_close]
  constructor
  · rintro ⟨slots, ⟨filled, readable⟩, found, closed, built⟩
    exact ⟨found, ⟨slots, filled, closed⟩, built, readable⟩
  · rintro ⟨found, ⟨slots, filled, closed⟩, built, readable⟩
    exact ⟨slots, ⟨filled, readable⟩, found, closed, built⟩

theorem decode_record_array {vs : List Json} :
    (record name fs build values).decode delivery (.array vs) = .ok r ↔
      ∃ found, fs.ReadItems delivery vs found ∧ build found = r := by
  simp only [record, bind_eq_ok]
  constructor
  · rintro ⟨⟨found, rest⟩, items, built⟩
    cases rest with
    | nil => exact ⟨found, (Fields.ofItems_eq_ok _ _).mp items, Except.ok.inj built⟩
    | cons v vs => cases built
  · rintro ⟨found, items, rfl⟩
    exact ⟨(found, []), (Fields.ofItems_eq_ok _ _).mpr items, rfl⟩

/-- A record is read from an object or from an array. -/
theorem decode_record_eq_ok {v : Json}
    (decoded : (record name fs build values).decode delivery v = .ok r) :
    (∃ ms, v = .object ms) ∨ ∃ vs, v = .array vs := by
  cases v with
  | object ms => exact .inl ⟨ms, rfl⟩
  | array vs => exact .inr ⟨vs, rfl⟩
  | null | bool | number | string | fault => cases decoded

end Record

/-- What a variant of one kind decodes is of that kind. -/
theorem kind_of_decode_variant {α : Type} {c : Codec α} {toUnion : α → ρ}
    {content? : ρ → Option α} {kindOf : ρ → κ} {k : κ} {v : Json} {r : ρ}
    (decoded : (variant c toUnion content?).decode delivery v = .ok r)
    (sort : ∀ a, kindOf (toUnion a) = k) : kindOf r = k := by
  obtain ⟨a, -, rfl⟩ := map_eq_ok.mp decoded
  exact sort a

section Tagged

variable {name tag : String} {s : Spelling κ} {body : κ → Codec ρ} {kindOf : ρ → κ} {r : ρ}

theorem takeTag_eq_ok {ms rest : List (String × Json)} {before after : Option κ} :
    takeTag s tag delivery before ms = .ok (after, rest) ↔
      Fills (s.readTag delivery) (named tag ms) before after ∧ rest = others [tag] ms ∧
        ∀ m ∈ rest, m.2.sound = true := by
  induction ms generalizing before rest with
  | nil =>
    simp only [takeTag, Except.ok.injEq, Prod.mk.injEq]
    constructor
    · rintro ⟨rfl, rfl⟩
      exact ⟨.absent _, rfl, nofun⟩
    · rintro ⟨⟨⟩, rfl, -⟩
      exact ⟨rfl, rfl⟩
  | cons m ms ih =>
    obtain ⟨other, v⟩ := m
    unfold takeTag
    by_cases own : other = tag
    · subst own
      rw [named_cons_self, others_cons_of_mem List.mem_cons_self, fills_cons]
      cases before with
      | some k => simp
      | none =>
        simp only [if_true, bind_eq_ok, ih, true_and]
        constructor
        · rintro ⟨k, read, fills, rest⟩
          exact ⟨⟨k, read, fills⟩, rest⟩
        · rintro ⟨⟨k, read, fills⟩, rest⟩
          exact ⟨k, read, fills, rest⟩
    · have unknown : other ∉ [tag] := by simpa using own
      rw [named_cons_of_ne own, others_cons_of_notMem unknown]
      simp only [own, if_false, keep_eq_ok, ih]
      constructor
      · rintro ⟨sound, _, ⟨fills, rfl, each⟩, rfl⟩
        exact ⟨fills, rfl, List.forall_mem_cons.mpr ⟨sound, each⟩⟩
      · rintro ⟨fills, rfl, each⟩
        obtain ⟨sound, each⟩ := List.forall_mem_cons.mp each
        exact ⟨sound, _, ⟨fills, rfl, each⟩, rfl⟩

theorem decode_tagged_object {ms : List (String × Json)} :
    (tagged name tag s body kindOf).decode delivery (.object ms) = .ok r ↔
      ∃ k, Fills (s.readTag delivery) (named tag ms) none (some k) ∧
        (∀ m ∈ others [tag] ms, m.2.sound = true) ∧
        (body k).decode .buffered (.object (others [tag] ms)) = .ok r := by
  simp only [tagged, bind_eq_ok]
  constructor
  · rintro ⟨⟨_ | k, rest⟩, taken, decoded⟩
    · cases decoded
    · obtain ⟨fills, rfl, sound⟩ := takeTag_eq_ok.mp taken
      exact ⟨k, fills, sound, decoded⟩
  · rintro ⟨k, fills, sound, decoded⟩
    exact ⟨(some k, _), takeTag_eq_ok.mpr ⟨fills, rfl, sound⟩, decoded⟩

theorem decode_tagged_array {vs : List Json} :
    (tagged name tag s body kindOf).decode delivery (.array vs) = .ok r ↔
      ∃ v ws k, vs = v :: ws ∧ s.readTag delivery v = .ok k ∧ (∀ w ∈ ws, w.sound = true) ∧
        (body k).decode .buffered (.array ws) = .ok r := by
  cases vs with
  | nil => simp [tagged]
  | cons v ws =>
    simp only [tagged, bind_eq_ok]
    constructor
    · rintro ⟨k, read, decoded⟩
      by_cases sound : ws.all Json.sound = true
      · rw [if_pos sound] at decoded
        exact ⟨v, ws, k, rfl, read, List.all_eq_true.mp sound, decoded⟩
      · rw [if_neg sound] at decoded
        cases decoded
    · rintro ⟨v, ws, k, ⟨⟩, read, sound, decoded⟩
      refine ⟨k, read, ?_⟩
      rw [if_pos (List.all_eq_true.mpr sound)]
      exact decoded

/-- A tagged union is read from an object or from an array. -/
theorem decode_tagged_eq_ok {v : Json}
    (decoded : (tagged name tag s body kindOf).decode delivery v = .ok r) :
    (∃ ms, v = .object ms) ∨ ∃ vs, v = .array vs := by
  cases v with
  | object ms => exact .inl ⟨ms, rfl⟩
  | array vs => exact .inr ⟨vs, rfl⟩
  | null | bool | number | string | fault => cases decoded

end Tagged

section Flattened

variable {name : String} {fs : Fields αs} {inner : Codec β} {build : Values αs → β → ρ}
  {values : ρ → Values αs} {part : ρ → β} {r : ρ}

theorem decode_flattened_object {ms : List (String × Json)} (distinct : fs.names.Nodup) :
    (flattened name fs inner build values part).decode delivery (.object ms) = .ok r ↔
      ∃ found b, fs.Read delivery ms found ∧ (∀ m ∈ others fs.names ms, m.2.sound = true) ∧
        inner.decode .buffered (.object (others fs.names ms)) = .ok b ∧ build found b = r := by
  simp only [flattened, bind_eq_ok, pure, Except.pure, Except.ok.injEq,
    ← Fields.exists_fill_close]
  constructor
  · rintro ⟨⟨slots, rest⟩, split, found, closed, b, decoded, built⟩
    obtain ⟨filled, rfl, sound⟩ := (Fields.splitMembers_eq_ok distinct).mp split
    exact ⟨found, b, ⟨slots, filled, closed⟩, sound, decoded, built⟩
  · rintro ⟨found, b, ⟨slots, filled, closed⟩, sound, decoded, built⟩
    exact ⟨(slots, _), (Fields.splitMembers_eq_ok distinct).mpr ⟨filled, rfl, sound⟩, found, closed,
      b, decoded, built⟩

/-- A flattened record is read from an object only. -/
theorem decode_flattened_eq_ok {v : Json}
    (decoded : (flattened name fs inner build values part).decode delivery v = .ok r) :
    ∃ ms, v = .object ms := by
  cases v with
  | object ms => exact ⟨ms, rfl⟩
  | array | null | bool | number | string | fault => cases decoded

end Flattened

end Codec

end CodeGrading
