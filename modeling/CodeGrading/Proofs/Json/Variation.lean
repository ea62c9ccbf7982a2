import CodeGrading.Proofs.Json.Members
import CodeGrading.Proofs.Json.ReadBack
import Mathlib.Logic.Relation

/-!
Documents that mean the same. The order of members, members that nobody knows and whether an absent
optional part is written as null are of no account, anywhere in a document. A `Shape` tells which
names an object knows and which of them are optional, a `Step` changes a document in one of these
ways at one place, and `Varies` is any number of steps. A codec respects a shape if no step changes
what it decodes (`Codec.Respects`); records, lists, options, tagged unions and flattened records
respect the shapes that are made of those of their parts.
-/

namespace CodeGrading

namespace Json

/-- What the objects at a place of a document know. -/
inductive Shape where
  /-- A value without parts. -/
  | plain
  | list (item : Shape)
  /-- The parts of an object by name, each with whether it is optional. In an array they have the
  same order. -/
  | record (parts : List (String × Bool × Shape))

namespace Shape

def part (name : String) (value : Shape) : String × Bool × Shape :=
  (name, false, value)

def optionalPart (name : String) (value : Shape) : String × Bool × Shape :=
  (name, true, value)

/-- The shape of a member. Of a member that is not known nothing is known. -/
def member : Shape → String → Shape
  | record parts, name => ((parts.lookup name).map (·.2)).getD (record [])
  | list _, _ | plain, _ => plain

def item : Shape → Nat → Shape
  | record parts, i => (parts[i]?.map (·.2.2)).getD (record [])
  | list item, _ => item
  | plain, _ => plain

end Shape

/-- The document is changed at one place without a change of what it means. -/
inductive Step : Shape → Json → Json → Prop
  | reorder {S : Shape} {ms ns : List (String × Json)} (perm : ms.Perm ns) :
      Step S (.object ms) (.object ns)
  | add {parts : List (String × Bool × Shape)} {ms : List (String × Json)} {name : String}
      {v : Json} (unknown : parts.lookup name = none) (sound : v.sound = true) :
      Step (.record parts) (.object ms) (.object ((name, v) :: ms))
  | writeNull {parts : List (String × Bool × Shape)} {ms : List (String × Json)} {name : String}
      {S : Shape} (optional : parts.lookup name = some (true, S)) (absent : ∀ m ∈ ms, m.1 ≠ name) :
      Step (.record parts) (.object ms) (.object ((name, .null) :: ms))
  | leaveOut {parts : List (String × Bool × Shape)} {ms : List (String × Json)} {name : String}
      {S : Shape} (optional : parts.lookup name = some (true, S)) :
      Step (.record parts) (.object ((name, .null) :: ms)) (.object ms)
  | member {S : Shape} {front back : List (String × Json)} {name : String} {v w : Json}
      (inside : Step (S.member name) v w) :
      Step S (.object (front ++ (name, v) :: back)) (.object (front ++ (name, w) :: back))
  | item {S : Shape} {front back : List Json} {v w : Json}
      (inside : Step (S.item front.length) v w) :
      Step S (.array (front ++ v :: back)) (.array (front ++ w :: back))

/-- The second document is the first one up to the order of members, members that are not known,
and nulls of absent optional parts. -/
def Varies (S : Shape) : Json → Json → Prop :=
  Relation.ReflTransGen (Step S)

/-! ## Faults -/

variable {S : Shape} {v w : Json} {ms ns : List (String × Json)}

mutual

theorem faultsAre_of_sound {ok : Fault → Bool} : ∀ v : Json, v.sound = true → v.faultsAre ok = true
  | .array vs, sound => itemsFaultsAre_of_sound vs sound
  | .object ms, sound => membersFaultsAre_of_sound ms sound
  | .null, _ | .bool _, _ | .number _, _ | .string _, _ => rfl

theorem itemsFaultsAre_of_sound {ok : Fault → Bool} :
    ∀ vs, itemsFaultsAre (fun _ => false) vs = true → itemsFaultsAre ok vs = true
  | [], _ => rfl
  | v :: vs, sound => by
    obtain ⟨first, more⟩ := Bool.and_eq_true_iff.mp sound
    exact Bool.and_eq_true_iff.mpr ⟨faultsAre_of_sound v first, itemsFaultsAre_of_sound vs more⟩

theorem membersFaultsAre_of_sound {ok : Fault → Bool} :
    ∀ ms, membersFaultsAre (fun _ => false) ms = true → membersFaultsAre ok ms = true
  | [], _ => rfl
  | (_, v) :: ms, sound => by
    obtain ⟨first, more⟩ := Bool.and_eq_true_iff.mp sound
    exact Bool.and_eq_true_iff.mpr ⟨faultsAre_of_sound v first, membersFaultsAre_of_sound ms more⟩

end

theorem skippable_of_sound (sound : v.sound = true) : v.skippable = true := by
  cases v with
  | fault => cases sound
  | null | bool | number | string | array | object => exact faultsAre_of_sound _ sound

/-- No step brings a fault into a document. -/
theorem Step.faultsAre {ok : Fault → Bool} (step : Step S v w) (before : v.faultsAre ok = true) :
    w.faultsAre ok = true := by
  induction step with
  | reorder perm =>
    rw [Json.faultsAre, membersFaultsAre_iff] at before ⊢
    exact fun m mem => before m (perm.mem_iff.mpr mem)
  | add unknown sound =>
    rw [Json.faultsAre, membersFaultsAre_iff] at before ⊢
    exact List.forall_mem_cons.mpr ⟨faultsAre_of_sound _ sound, before⟩
  | writeNull =>
    rw [Json.faultsAre, membersFaultsAre_iff] at before ⊢
    exact List.forall_mem_cons.mpr ⟨rfl, before⟩
  | leaveOut =>
    rw [Json.faultsAre, membersFaultsAre_iff] at before ⊢
    exact (List.forall_mem_cons.mp before).2
  | member _ ih =>
    rw [Json.faultsAre, membersFaultsAre_iff, List.forall_mem_append, List.forall_mem_cons]
      at before ⊢
    exact ⟨before.1, ih before.2.1, before.2.2⟩
  | item _ ih =>
    rw [Json.faultsAre, itemsFaultsAre_iff, List.forall_mem_append, List.forall_mem_cons]
      at before ⊢
    exact ⟨before.1, ih before.2.1, before.2.2⟩

theorem Step.sound (step : Step S v w) (before : v.sound = true) : w.sound = true :=
  step.faultsAre before

theorem Step.skippable (step : Step S v w) (before : v.skippable = true) : w.skippable = true := by
  have wellFormed : v.skippable = v.wellFormed ∧ w.skippable = w.wellFormed := by
    cases step <;> exact ⟨rfl, rfl⟩
  rw [wellFormed.1] at before
  rw [wellFormed.2]
  exact step.faultsAre before

/-- What holds of sound values and is kept by every step is kept for all members. -/
theorem Step.forall_members {P : Json → Prop} (sound : ∀ v, v.sound = true → P v)
    (kept : ∀ {S v w}, Step S v w → P v → P w) (step : Step S (.object ms) (.object ns))
    (each : ∀ m ∈ ms, P m.2) : ∀ m ∈ ns, P m.2 := by
  cases step with
  | reorder perm => exact fun m mem => each m (perm.mem_iff.mpr mem)
  | add _ fresh => exact List.forall_mem_cons.mpr ⟨sound _ fresh, each⟩
  | writeNull => exact List.forall_mem_cons.mpr ⟨sound _ rfl, each⟩
  | leaveOut => exact (List.forall_mem_cons.mp each).2
  | member inside =>
    rw [List.forall_mem_append, List.forall_mem_cons] at each ⊢
    exact ⟨each.1, kept inside each.2.1, each.2.2⟩

theorem Step.exists_object (step : Step S (.object ms) w) : ∃ ns, w = .object ns := by
  cases step <;> exact ⟨_, rfl⟩

theorem Step.object_nil (step : Step .plain (.object []) w) : w = .object [] := by
  generalize empty : ([] : List (String × Json)) = ms at step
  cases step with
  | reorder perm =>
    subst empty
    rw [perm.nil_eq]
  | member => simp at empty

/-! ## Members that are taken out -/

/-- When the members of some parts are taken out, the others vary on their own. -/
theorem Step.others (front : List (String × Bool × Shape)) {parts : List (String × Bool × Shape)}
    (step : Step (.record (front ++ parts)) (.object ms) (.object ns)) :
    Step (.record parts) (.object (others (front.map (·.1)) ms))
      (.object (others (front.map (·.1)) ns)) := by
  have known : ∀ {name}, name ∉ front.map (·.1) →
      (front ++ parts).lookup name = parts.lookup name := by
    intro name apart
    have unknown : front.lookup name = none := by
      rw [List.lookup_eq_none_iff]
      intro p mem
      rw [bne_iff_ne]
      rintro rfl
      exact apart (List.mem_map_of_mem mem)
    rw [List.lookup_append, unknown, Option.none_or]
  cases step with
  | reorder perm => exact .reorder (perm.filter _)
  | @add _ _ name _ unknown sound =>
    by_cases taken : name ∈ front.map (·.1)
    · rw [others_cons_of_mem taken]
      exact .reorder .rfl
    · rw [known taken] at unknown
      rw [others_cons_of_notMem taken]
      exact .add unknown sound
  | @writeNull _ _ name _ optional absent =>
    by_cases taken : name ∈ front.map (·.1)
    · rw [others_cons_of_mem taken]
      exact .reorder .rfl
    · rw [known taken] at optional
      rw [others_cons_of_notMem taken]
      exact .writeNull optional fun m mem => absent m (mem_others.mp mem).1
  | @leaveOut _ _ name _ optional =>
    by_cases taken : name ∈ front.map (·.1)
    · rw [others_cons_of_mem taken]
      exact .reorder .rfl
    · rw [known taken] at optional
      rw [others_cons_of_notMem taken]
      exact .leaveOut optional
  | @member _ before after name v w inside =>
    rw [others_append, others_append]
    by_cases taken : name ∈ front.map (·.1)
    · rw [others_cons_of_mem taken, others_cons_of_mem taken]
      exact .reorder .rfl
    · have same : (Shape.record (front ++ parts)).member name = (Shape.record parts).member name := by
        rw [Shape.member, Shape.member, known taken]
      rw [same] at inside
      rw [others_cons_of_notMem taken, others_cons_of_notMem taken]
      exact .member inside

end Json

/-! ## What codecs make of it -/

open Json (Shape Step Varies named others named_cons_self named_cons_of_ne named_eq_nil)

/-- No step at the shape of a decoded value changes what is decoded. -/
def Codec.Respects {α : Type} (c : Codec α) (shape : α → Shape) : Prop :=
  ∀ ⦃delivery v a⦄, c.decode delivery v = .ok a →
    ∀ ⦃w⦄, Step (shape a) v w → c.decode delivery w = .ok a

/-- Absent or null is the same to the field. -/
def Field.Nullable {α : Type} (f : Field α) : Prop :=
  ∃ a, f.absent = some a ∧ ∀ delivery, f.codec.decode delivery .null = .ok a

/-- The parts tell the names of the fields in order, and each field respects the shape of its
part. -/
inductive Fields.Fit : {αs : List Type} → Fields αs → List (String × Bool × Shape) → Prop
  | none : Fit .none []
  | cons {α : Type} {αs : List Type} {field : Field α} {more : Fields αs} {optional : Bool}
      {S : Shape} {parts : List (String × Bool × Shape)}
      (respects : field.codec.Respects fun _ => S) (nullable : optional = true → field.Nullable)
      (rest : Fit more parts) : Fit (.cons field more) ((field.name, optional, S) :: parts)

variable {α β ρ κ : Type} {αs : List Type} {delivery : Delivery}

/-- The tag of a union as a field. -/
def Spelling.tagField (s : Spelling κ) (tag : String) : Field κ where
  name := tag
  codec := ⟨s.readTag, fun k => .string (s.spell k)⟩
  absent := none
  omitted := none

/-! ### Fields -/

theorem Field.reads_nil {f : Field α} {a : α} :
    f.Reads delivery [] a ↔ f.absent = some a := by
  constructor
  · rintro ⟨⟩
    assumption
  · exact .absent

theorem Field.reads_cons {f : Field α} {a : α} {v : Json} {vs : List Json} :
    f.Reads delivery (v :: vs) a ↔ vs = [] ∧ f.codec.decode delivery v = .ok a := by
  constructor
  · rintro ⟨⟩
    exact ⟨rfl, by assumption⟩
  · rintro ⟨rfl, decoded⟩
    exact .present decoded

theorem Json.named_append {name : String} {ms ns : List (String × Json)} :
    named name (ms ++ ns) = named name ms ++ named name ns := by
  rw [named, named, named, List.filter_append, List.map_append]

theorem Field.Reads.step {f : Field α} {parts : List (String × Bool × Shape)} {optional : Bool}
    {S : Shape} (known : parts.lookup f.name = some (optional, S))
    (respects : f.codec.Respects fun _ => S) (nullable : optional = true → f.Nullable)
    {ms ns : List (String × Json)} (step : Step (.record parts) (.object ms) (.object ns)) {a : α}
    (reads : f.Reads delivery (named f.name ms) a) : f.Reads delivery (named f.name ns) a := by
  cases step with
  | reorder perm =>
    have same : (named f.name ms).Perm (named f.name ns) := (perm.filter _).map _
    cases found : named f.name ms with
    | nil =>
      rw [found] at reads same
      rwa [← same.nil_eq]
    | cons v vs =>
      rw [found] at reads same
      obtain ⟨rfl, -⟩ := reads_cons.mp reads
      rwa [← List.singleton_perm.mp same]
  | @add _ _ name _ unknown _ =>
    have other : name ≠ f.name := by
      rintro rfl
      rw [known] at unknown
      cases unknown
    rwa [named_cons_of_ne other]
  | @writeNull _ _ name _ isOptional absent =>
    by_cases own : name = f.name
    · subst own
      obtain ⟨rfl, rfl⟩ := Prod.mk.inj (Option.some.inj (known.symm.trans isOptional))
      obtain ⟨b, default, null⟩ := nullable rfl
      rw [named_eq_nil absent, reads_nil, default] at reads
      obtain rfl := Option.some.inj reads
      rw [named_cons_self, named_eq_nil absent]
      exact .present (null delivery)
    · rwa [named_cons_of_ne own]
  | @leaveOut _ _ name _ isOptional =>
    by_cases own : name = f.name
    · subst own
      obtain ⟨rfl, rfl⟩ := Prod.mk.inj (Option.some.inj (known.symm.trans isOptional))
      obtain ⟨b, default, null⟩ := nullable rfl
      rw [named_cons_self, reads_cons, null] at reads
      obtain ⟨absent, eq⟩ := reads
      cases eq
      rw [absent]
      exact .absent default
    · rwa [named_cons_of_ne own] at reads
  | @member _ front back name v w inside =>
    rw [Json.named_append] at reads ⊢
    by_cases own : name = f.name
    · subst own
      rw [named_cons_self] at reads ⊢
      have shape : (Shape.record parts).member f.name = S := by
        rw [Shape.member, known]
        rfl
      rw [shape] at inside
      cases before : named f.name front with
      | nil =>
        rw [before, List.nil_append, reads_cons] at reads
        rw [List.nil_append, reads_cons]
        exact ⟨reads.1, respects reads.2 inside⟩
      | cons u us =>
        rw [before, List.cons_append, reads_cons] at reads
        exact absurd reads.1 (by simp)
    · rwa [named_cons_of_ne own] at reads ⊢

namespace Fields

variable {fs : Fields αs} {parts : List (String × Bool × Shape)}

theorem Fit.names (fits : fs.Fit parts) : parts.map (·.1) = fs.names := by
  induction fits with
  | none => rfl
  | cons _ _ _ ih => rw [List.map_cons, ih, Fields.names]

theorem Fit.required {name : String} {c : Codec α} {S : Shape} {more : Fields αs}
    (respects : c.Respects fun _ => S) (rest : more.Fit parts) :
    (Fields.required name c more).Fit (Shape.part name S :: parts) :=
  .cons respects nofun rest

theorem Fit.default {name : String} {c : Codec α} {value : α} {S : Shape} {more : Fields αs}
    (respects : c.Respects fun _ => S) (rest : more.Fit parts) :
    (Fields.default name c value more).Fit (Shape.part name S :: parts) :=
  .cons respects nofun rest

theorem Read.step {all : List (String × Bool × Shape)} (fits : fs.Fit parts)
    (known : ∀ p ∈ parts, all.lookup p.1 = some p.2) {ms ns : List (String × Json)}
    (step : Step (.record all) (.object ms) (.object ns)) {values : Values αs}
    (read : fs.Read delivery ms values) : fs.Read delivery ns values := by
  induction fits with
  | none => trivial
  | cons respects nullable _ ih =>
    obtain ⟨a, values⟩ := values
    obtain ⟨own, known⟩ := List.forall_mem_cons.mp known
    exact ⟨read.1.step own respects nullable step, ih known read.2⟩

theorem ReadItems.step (fits : fs.Fit parts) {front back : List Json} {v w : Json}
    (inside : Step ((Shape.record parts).item front.length) v w) {values : Values αs}
    (read : fs.ReadItems delivery (front ++ v :: back) values) :
    fs.ReadItems delivery (front ++ w :: back) values := by
  induction fits generalizing front with
  | none =>
    rw [ReadItems] at read
    exact absurd read (by simp)
  | cons respects _ _ ih =>
    obtain ⟨a, values⟩ := values
    cases front with
    | nil => exact ⟨respects read.1 inside, read.2⟩
    | cons u us => exact ⟨read.1, ih inside read.2⟩

end Fields

theorem Json.lookup_of_nodup {parts : List (String × Bool × Shape)}
    (distinct : (parts.map (·.1)).Nodup) : ∀ p ∈ parts, parts.lookup p.1 = some p.2 := by
  induction parts with
  | nil => nofun
  | cons q parts ih =>
    obtain ⟨name, about⟩ := q
    obtain ⟨fresh, distinct⟩ := List.nodup_cons.mp distinct
    intro p mem
    rcases List.mem_cons.mp mem with rfl | later
    · rw [List.lookup_cons_self]
    · have other : p.1 ≠ name := fun same => fresh (List.mem_map.mpr ⟨p, later, same⟩)
      rw [List.lookup_cons, beq_false_of_ne other]
      exact ih distinct p later

namespace Codec

/-! ### Scalars, lists and options -/

theorem respects_text : text.Respects fun _ => .plain := by
  intro delivery v s decoded w step
  cases step <;> cases decoded

theorem respects_flag : flag.Respects fun _ => .plain := by
  intro delivery v b decoded w step
  cases step <;> cases decoded

theorem respects_int32 : int32.Respects fun _ => .plain := by
  intro delivery v i decoded w step
  cases step <;> cases decoded

theorem readMember_eq_ok {s : Spelling κ} {name : String} {v : Json} {k : κ}
    (read : s.readMember delivery name v = .ok k) : v = .null ∨ v = .object [] := by
  obtain ⟨_, -, read⟩ := bind_eq_ok.mp read
  split at read
  · exact .inl rfl
  · exact .inr rfl
  · cases read

/-- A word that is an object has no member but itself. -/
theorem decode_word_eq_ok {s : Spelling κ} {v : Json} {k : κ}
    (decoded : (word s).decode delivery v = .ok k) :
    (∃ word, v = .string word) ∨
      ∃ name w, v = .object [(name, w)] ∧ (w = .null ∨ w = .object []) := by
  simp only [word] at decoded
  split at decoded
  · exact .inl ⟨_, rfl⟩
  · cases decoded
  · cases decoded
  · rename_i name w ms _ _
    obtain ⟨_, read, alone⟩ := bind_eq_ok.mp decoded
    cases ms with
    | nil => exact .inr ⟨name, w, rfl, readMember_eq_ok read⟩
    | cons => cases alone
  · cases decoded
  · exact .inr ⟨_, _, rfl, readMember_eq_ok decoded⟩
  · cases decoded
  · cases decoded

theorem respects_word (s : Spelling κ) : (word s).Respects fun _ => .plain := by
  intro delivery v k decoded w step
  rcases decode_word_eq_ok decoded with ⟨word, rfl⟩ | ⟨name, inner, rfl, empty⟩
  · cases step
  · generalize only : [(name, inner)] = ms at step decoded
    cases step with
    | reorder perm =>
      subst only
      rwa [← List.singleton_perm.mp perm]
    | @member _ front back other v w inside =>
      have mem : (other, v) ∈ [(name, inner)] := by
        rw [only]
        exact List.mem_append_right _ List.mem_cons_self
      obtain ⟨rfl, rfl⟩ := Prod.mk.inj (List.mem_singleton.mp mem)
      -- nor is there anything to change where the member has its empty value
      have same : w = v := by
        rcases empty with rfl | rfl
        · cases inside
        · exact inside.object_nil
      rwa [same]

theorem forall₂_append_cons {R : α → β → Prop} {front back : List α} {v w : α} {bs : List β}
    (kept : ∀ b, R v b → R w b) (all : List.Forall₂ R (front ++ v :: back) bs) :
    List.Forall₂ R (front ++ w :: back) bs := by
  induction front generalizing bs with
  | nil =>
    obtain ⟨b, bs, first, more, rfl⟩ := List.forall₂_cons_left_iff.mp all
    exact .cons (kept b first) more
  | cons u us ih =>
    obtain ⟨b, bs, first, more, rfl⟩ := List.forall₂_cons_left_iff.mp all
    exact .cons first (ih more)

theorem Respects.list {c : Codec α} {S : Shape} (item : c.Respects fun _ => S) :
    (list c).Respects fun _ => .list S := by
  intro delivery v as decoded w step
  obtain ⟨vs, rfl, items⟩ := decode_list_eq_ok.mp decoded
  cases step with
  | item inside =>
    refine decode_list_eq_ok.mpr ⟨_, rfl, forall₂_append_cons ?_ items⟩
    exact fun a decoded => item decoded inside

theorem Respects.option {c : Codec α} {S : Shape} (value : c.Respects fun _ => S) :
    (Codec.option c).Respects fun _ => S := by
  intro delivery v a? decoded w step
  have present : ∀ u, u ≠ .null →
      (Codec.option c).decode delivery u = (c.decode delivery u).map some := by
    intro u other
    cases u with
    | null => exact absurd rfl other
    | bool | number | string | array | object | fault => rfl
  have before : v ≠ .null := by cases step <;> nofun
  have after : w ≠ .null := by cases step <;> nofun
  rw [present v before] at decoded
  obtain ⟨a, content, rfl⟩ := map_eq_ok.mp decoded
  rw [present w after]
  exact map_eq_ok.mpr ⟨a, value content step, rfl⟩

theorem Respects.variant {c : Codec α} {toUnion : α → ρ} {content? : ρ → Option α} {S : Shape}
    (codec : c.Respects fun _ => S) : (variant c toUnion content?).Respects fun _ => S := by
  intro delivery v r decoded w step
  obtain ⟨a, content, rfl⟩ := map_eq_ok.mp decoded
  exact map_eq_ok.mpr ⟨a, codec content step, rfl⟩

end Codec

theorem Fields.Fit.optional {name : String} {c : Codec α} {S : Shape} {more : Fields αs}
    {parts : List (String × Bool × Shape)} (respects : c.Respects fun _ => S)
    (rest : more.Fit parts) :
    (Fields.optional name c more).Fit (Shape.optionalPart name S :: parts) :=
  .cons respects.option (fun _ => ⟨Option.none, rfl, fun _ => rfl⟩) rest

namespace Codec

/-! ### Records and unions -/

theorem Respects.record {name : String} {fs : Fields αs} {build : Values αs → ρ}
    {values : ρ → Values αs} {parts : List (String × Bool × Shape)} (fits : fs.Fit parts)
    (distinct : fs.names.Nodup) :
    (record name fs build values).Respects fun _ => .record parts := by
  intro delivery v r decoded w step
  have known := Json.lookup_of_nodup (fits.names ▸ distinct)
  cases v with
  | object ms =>
    obtain ⟨found, read, built, skippable⟩ := (decode_record_object distinct).mp decoded
    obtain ⟨ns, rfl⟩ := step.exists_object
    have rest : Step (.record []) (.object (others fs.names ms)) (.object (others fs.names ns)) := by
      rw [← fits.names]
      refine Step.others parts ?_
      rw [List.append_nil]
      exact step
    exact (decode_record_object distinct).mpr ⟨found, read.step fits known step, built,
      rest.forall_members (fun _ => Json.skippable_of_sound) Step.skippable skippable⟩
  | array vs =>
    obtain ⟨found, read, built⟩ := decode_record_array.mp decoded
    cases step with
    | item inside => exact decode_record_array.mpr ⟨found, read.step fits inside, built⟩
  | null | bool | number | string | fault => cases decoded

theorem respects_readTag (s : Spelling κ) (tag : String) :
    (s.tagField tag).codec.Respects fun _ => .plain := by
  intro delivery v k decoded w step
  cases v with
  | string | number | null | bool | fault => cases step
  | array | object => cases delivery <;> cases decoded

theorem fills_iff_reads {s : Spelling κ} {tag : String} {vs : List Json} {k : κ} :
    Fills (s.readTag delivery) vs none (some k) ↔ (s.tagField tag).Reads delivery vs k := by
  constructor
  · rintro (_ | decoded)
    exact .present decoded
  · rintro (default | decoded)
    · cases default
    · exact .present decoded

theorem Respects.tagged {name tag : String} {s : Spelling κ} {body : κ → Codec ρ} {kindOf : ρ → κ}
    {parts : κ → List (String × Bool × Shape)} (sorted : Sorted body kindOf)
    (bodies : ∀ k, (body k).Respects fun _ => .record (parts k)) :
    (tagged name tag s body kindOf).Respects fun r =>
      .record (Shape.part tag .plain :: parts (kindOf r)) := by
  intro delivery v r decoded w
    (step : Step (.record (Shape.part tag .plain :: parts (kindOf r))) v w)
  rcases decode_tagged_eq_ok decoded with ⟨ms, rfl⟩ | ⟨vs, rfl⟩
  · obtain ⟨k, fills, sound, content⟩ := decode_tagged_object.mp decoded
    obtain rfl := sorted content
    obtain ⟨ns, rfl⟩ := step.exists_object
    have rest : Step (.record (parts (kindOf r))) (.object (others [tag] ms))
        (.object (others [tag] ns)) :=
      Step.others [Shape.part tag .plain] step
    have known : (Shape.part tag .plain :: parts (kindOf r)).lookup tag = some (false, .plain) :=
      List.lookup_cons_self
    have reads : (s.tagField tag).Reads delivery (named tag ns) (kindOf r) :=
      (fills_iff_reads.mp fills).step known (respects_readTag s tag) nofun step
    exact decode_tagged_object.mpr ⟨kindOf r, fills_iff_reads.mpr reads,
      rest.forall_members (fun _ => id) Step.sound sound, bodies _ content rest⟩
  · obtain ⟨first, vs, k, rfl, read, sound, content⟩ := decode_tagged_array.mp decoded
    obtain rfl := sorted content
    generalize whole : first :: vs = us at step
    cases step with
    | @item _ front back v w inside =>
      cases front with
      | nil =>
        obtain ⟨rfl, rfl⟩ := List.cons.inj whole
        have again : s.readTag delivery w = .ok (kindOf r) := respects_readTag s tag read inside
        exact decode_tagged_array.mpr ⟨w, vs, kindOf r, rfl, again, sound, content⟩
      | cons u us =>
        obtain ⟨rfl, rfl⟩ := List.cons.inj whole
        have rest : Step (.record (parts (kindOf r))) (.array (us ++ v :: back))
            (.array (us ++ w :: back)) := .item inside
        refine decode_tagged_array.mpr ⟨first, _, kindOf r, rfl, read, ?_, bodies _ content rest⟩
        obtain ⟨before, later⟩ := List.forall_mem_append.mp sound
        obtain ⟨here, after⟩ := List.forall_mem_cons.mp later
        exact List.forall_mem_append.mpr
          ⟨before, List.forall_mem_cons.mpr ⟨inside.sound here, after⟩⟩

theorem Respects.flattened {name : String} {fs : Fields αs} {inner : Codec β}
    {build : Values αs → β → ρ} {values : ρ → Values αs} {part : ρ → β}
    {own : List (String × Bool × Shape)} {parts : β → List (String × Bool × Shape)}
    (fits : fs.Fit own) (distinct : fs.names.Nodup)
    (respects : inner.Respects fun b => .record (parts b))
    (built : ∀ found b, part (build found b) = b) :
    (flattened name fs inner build values part).Respects fun r =>
      .record (own ++ parts (part r)) := by
  intro delivery v r decoded w (step : Step (.record (own ++ parts (part r))) v w)
  obtain ⟨ms, rfl⟩ := decode_flattened_eq_ok decoded
  obtain ⟨found, b, read, sound, content, rfl⟩ := (decode_flattened_object distinct).mp decoded
  obtain ⟨ns, rfl⟩ := step.exists_object
  rw [built] at step
  have rest : Step (.record (parts b)) (.object (others fs.names ms))
      (.object (others fs.names ns)) := by
    rw [← fits.names]
    exact Step.others own step
  have known : ∀ p ∈ own, (own ++ parts b).lookup p.1 = some p.2 := by
    intro p mem
    rw [List.lookup_append, Json.lookup_of_nodup (fits.names ▸ distinct) p mem, Option.some_or]
  exact (decode_flattened_object distinct).mpr ⟨found, b, read.step fits known step,
    rest.forall_members (fun _ => id) Step.sound sound, respects content rest, rfl⟩

/-! ### Any number of steps -/

theorem Respects.decode_of_varies {c : Codec α} {shape : α → Shape} (respects : c.Respects shape)
    {v w : Json} {a : α} (decoded : c.decode delivery v = .ok a) (varies : Varies (shape a) v w) :
    c.decode delivery w = .ok a := by
  induction varies with
  | refl => exact decoded
  | tail _ step ih => exact respects ih step

/-- A text of a varied document is decoded to the same value. -/
theorem Respects.decodeText_of_varies {c : Codec α} {shape : α → Shape}
    (respects : c.Respects shape) {text text' : String} {v w : Json} {a : α}
    (decoded : c.decodeText text = .ok a) (before : v.HasText text) (after : w.HasText text')
    (varies : Varies (shape a) v w) : c.decodeText text' = .ok a := by
  obtain ⟨u, ⟨rest, read, -⟩, value⟩ := decodeText_eq_ok.mp decoded
  obtain ⟨rest', read', -⟩ := before
  obtain rfl : u = v := congrArg Prod.fst (read.symm.trans read')
  exact decodeText_eq_ok.mpr ⟨w, after, respects.decode_of_varies value varies⟩

end Codec

end CodeGrading
