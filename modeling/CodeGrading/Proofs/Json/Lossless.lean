import CodeGrading.Proofs.Json.Members
import CodeGrading.Proofs.Json.ReadBack

/-!
Codecs that lose nothing. A codec keeps a value if the value is decoded from its document, however
the document is delivered, and the document can be read back from its text (`Codec.Keeps`). Lists,
options, records, tagged and labelled unions and flattened records of such codecs keep their values
(`Codec.keeps_record`, `Codec.keeps_tagged`, `Codec.keeps_flattened`), and then the text of a value
decodes to it (`Codec.Keeps.decodeText_encodeText`).
-/

namespace CodeGrading

open Json (Legible)

/-- The value is decoded from its document, and the document survives its text. -/
structure Codec.Keeps {α : Type} (c : Codec α) (depth : Nat) (a : α) : Prop where
  decode : ∀ delivery, c.decode delivery (c.encode a) = .ok a
  legible : Legible depth (c.encode a)

def Codec.Lossless {α : Type} (c : Codec α) (depth : Nat) : Prop :=
  ∀ a, c.Keeps depth a

/-- No value is written as null. -/
def Codec.Definite {α : Type} (c : Codec α) : Prop :=
  ∀ a, c.encode a ≠ .null

/-- Every field keeps its value, or the value is not written and stands for an absent field. -/
def Fields.Keep (depth : Nat) : {αs : List Type} → Fields αs → Values αs → Prop
  | _, .none, _ => True
  | _, .cons field more, (a, values) =>
    (field.codec.Keeps depth a ∧ field.silent a = false ∨
      field.silent a = true ∧ field.absent = some a) ∧ more.Keep depth values

def Fields.Lossless {αs : List Type} (depth : Nat) (fs : Fields αs) : Prop :=
  ∀ values, fs.Keep depth values

/-- The value is written as an object, and its members have some of the names. -/
def Codec.Members {α : Type} (c : Codec α) (names : List String) (a : α) : Prop :=
  ∃ ms, c.encode a = .object ms ∧ ∀ m ∈ ms, m.1 ∈ names

/-- Every variant is read from its spelling. -/
def Spelling.Faithful {κ : Type} (s : Spelling κ) : Prop :=
  ∀ k, s.read (s.spell k) = .ok k

theorem Json.Legible.hasText {depth : Nat} {v : Json} (legible : Legible depth v)
    (within : depth ≤ Json.depthLimit) (l : Json.Layout) : v.HasText (l.write v) :=
  ⟨[], Json.read_write legible within l, rfl⟩

namespace Codec

variable {α β ρ κ : Type} {αs : List Type} {depth : Nat}

/-- From a written text the document is decoded that the text is read as. -/
theorem decodeText_write (c : Codec α) {v w : Json} (reads : Json.ReadsAs depth v w)
    (within : depth ≤ Json.depthLimit) (l : Json.Layout) :
    c.decodeText (l.write v) = c.decode .streamed w := by
  have read := reads.read_write within l
  cases value : c.decode .streamed w with
  | error e => simp only [decodeText, decodeStart, read, value]
  | ok a => exact decodeText_eq_ok.mpr ⟨w, ⟨[], read, rfl⟩, value⟩

/-- What the text of a kept value decodes to. -/
theorem Keeps.decodeText_write {c : Codec α} {a : α} (keeps : c.Keeps depth a)
    (within : depth ≤ Json.depthLimit) (l : Json.Layout) :
    c.decodeText (l.write (c.encode a)) = .ok a :=
  (Codec.decodeText_write c keeps.legible.readsAs within l).trans (keeps.decode _)

theorem Keeps.decodeText_encodeText {c : Codec α} {a : α} (keeps : c.Keeps depth a)
    (within : depth ≤ Json.depthLimit) : c.decodeText (c.encodeText a) = .ok a :=
  keeps.decodeText_write within .compact

/-! ## Scalars, lists and options -/

theorem lossless_text : Lossless text depth :=
  fun s => ⟨fun _ => rfl, .string s⟩

theorem definite_text : Definite text :=
  fun _ => nofun

theorem lossless_flag : Lossless flag depth :=
  fun b => ⟨fun _ => rfl, .bool b⟩

theorem lossless_int32 : Lossless int32 depth := by
  intro i
  have least := Int32.minValue_le_toInt i
  have greatest := Int32.toInt_le i
  have lower : Json.leastInteger ≤ Int32.minValue.toInt := by decide
  have upper : Int32.maxValue.toInt ≤ Json.greatestInteger := by decide
  constructor
  · intro delivery
    simp only [int32, least, greatest, and_self, if_true, Int32.ofInt_toInt]
  · exact .integer (Int.le_trans lower least) (Int.le_trans greatest upper)

theorem keeps_size {n : Nat} (fits : n < UInt64.size) : size.Keeps depth n := by
  have least : Json.leastInteger ≤ 0 := by decide
  have greatest : (n : Int) ≤ Json.greatestInteger := by
    rw [Json.greatestInteger]
    omega
  constructor
  · intro delivery
    have below : (n : Int) < UInt64.size := Int.ofNat_lt.mpr fits
    simp only [size, Int.natCast_nonneg, below, and_self, if_true, Int.toNat_natCast]
  · exact .integer (Int.le_trans least (Int.natCast_nonneg n)) greatest

theorem decodeItems_map {decode : Json → Except DecodeError α} {encode : α → Json} {as : List α}
    (items : ∀ a ∈ as, decode (encode a) = .ok a) :
    decodeItems decode (as.map encode) = .ok as := by
  induction as with
  | nil => rfl
  | cons a as ih =>
    have first := items a List.mem_cons_self
    have later := ih fun b mem => items b (List.mem_cons_of_mem a mem)
    rw [List.map_cons, decodeItems, first, later]
    rfl

theorem keeps_list {c : Codec α} {as : List α} (items : ∀ a ∈ as, c.Keeps depth a) :
    (list c).Keeps (depth + 1) as where
  decode delivery := decodeItems_map fun a mem => (items a mem).decode delivery
  legible := by
    apply Legible.array
    intro v mem
    obtain ⟨a, inside, rfl⟩ := List.mem_map.mp mem
    exact (items a inside).legible

theorem Lossless.list {c : Codec α} (item : c.Lossless depth) : (list c).Lossless (depth + 1) :=
  fun _ => keeps_list fun a _ => item a

theorem definite_list (c : Codec α) : Definite (list c) :=
  fun _ => nofun

theorem keeps_option {c : Codec α} (definite : c.Definite) {a? : Option α}
    (value : ∀ a ∈ a?, c.Keeps depth a) : (option c).Keeps depth a? := by
  cases a? with
  | none => exact ⟨fun _ => rfl, .null⟩
  | some a =>
    have keeps := value a rfl
    refine ⟨fun delivery => ?_, keeps.legible⟩
    have present : (option c).decode delivery (c.encode a) =
        (c.decode delivery (c.encode a)).map some := by
      simp only [option]
      split
      · exact absurd ‹_› (definite a)
      · rfl
    calc (option c).decode delivery ((option c).encode (some a))
        = (c.decode delivery (c.encode a)).map some := present
      _ = .ok (some a) := by rw [keeps.decode]; rfl

theorem Lossless.option {c : Codec α} (definite : c.Definite) (value : c.Lossless depth) :
    (option c).Lossless depth :=
  fun _ => keeps_option definite fun a _ => value a

end Codec

/-! ## The fields of a record -/

namespace Fields

open Json (named_cons_self named_eq_nil others others_append others_eq_nil others_eq_self)

variable {α : Type} {αs : List Type} {depth : Nat} {delivery : Delivery}

theorem lossless_none : Fields.none.Lossless depth :=
  fun _ => trivial

theorem Lossless.required {name : String} {c : Codec α} {more : Fields αs}
    (codec : c.Lossless depth) (rest : more.Lossless depth) :
    (Fields.required name c more).Lossless depth :=
  fun (a, values) => ⟨Or.inl ⟨codec a, rfl⟩, rest values⟩

theorem Lossless.default {name : String} {c : Codec α} {value : α} {more : Fields αs}
    (codec : c.Lossless depth) (rest : more.Lossless depth) :
    (Fields.default name c value more).Lossless depth :=
  fun (a, values) => ⟨Or.inl ⟨codec a, rfl⟩, rest values⟩

theorem Lossless.optional {name : String} {c : Codec α} {more : Fields αs}
    (definite : c.Definite) (codec : c.Lossless depth) (rest : more.Lossless depth) :
    (Fields.optional name c more).Lossless depth :=
  Lossless.default (codec.option definite) rest

theorem Lossless.nullable {name : String} {c : Codec α} {more : Fields αs}
    (definite : c.Definite) (codec : c.Lossless depth) (rest : more.Lossless depth) :
    (Fields.nullable name c more).Lossless depth :=
  fun (a, values) => ⟨Or.inl ⟨codec.option definite a, rfl⟩, rest values⟩

theorem Lossless.unwritten {name : String} {c : Codec α} {more : Fields αs}
    (definite : c.Definite) (codec : c.Lossless depth) (rest : more.Lossless depth) :
    (Fields.unwritten name c more).Lossless depth := by
  rintro ⟨a?, values⟩
  refine ⟨?_, rest values⟩
  cases a? with
  | none => exact .inr ⟨rfl, rfl⟩
  | some a => exact .inl ⟨codec.option definite (some a), rfl⟩

theorem fst_mem_names {fs : Fields αs} {values : Values αs} {m : String × Json}
    (mem : m ∈ fs.members values) : m.1 ∈ fs.names := by
  induction fs with
  | none => cases mem
  | cons field more ih =>
    obtain ⟨a, values⟩ := values
    rw [members] at mem
    split at mem
    · exact List.mem_cons_of_mem _ (ih mem)
    · rcases List.mem_cons.mp mem with rfl | later
      · exact List.mem_cons_self
      · exact List.mem_cons_of_mem _ (ih later)

theorem Keep.legible {fs : Fields αs} {values : Values αs} (keep : fs.Keep depth values)
    {m : String × Json} (mem : m ∈ fs.members values) : Legible depth m.2 := by
  induction fs with
  | none => cases mem
  | cons field more ih =>
    obtain ⟨a, values⟩ := values
    obtain ⟨first, rest⟩ := keep
    rw [members] at mem
    split at mem
    · exact ih rest mem
    · rcases List.mem_cons.mp mem with rfl | later
      · exact (first.resolve_right fun silent => ‹¬ _› silent.1).1.legible
      · exact ih rest later

/-- Every field has its value in the members that are written for it, whatever stands after
them. -/
theorem Keep.read {fs : Fields αs} {values : Values αs} (keep : fs.Keep depth values)
    (delivery : Delivery) (distinct : fs.names.Nodup) {rest : List (String × Json)}
    (foreign : ∀ m ∈ rest, m.1 ∉ fs.names) :
    fs.Read delivery (fs.members values ++ rest) values := by
  induction fs with
  | none => trivial
  | cons field more ih =>
    obtain ⟨a, values⟩ := values
    obtain ⟨first, keep⟩ := keep
    obtain ⟨fresh, distinct⟩ := List.nodup_cons.mp distinct
    have later := ih keep distinct fun m mem known => foreign m mem (List.mem_cons_of_mem _ known)
    have absent : Json.named field.name (more.members values ++ rest) = [] := by
      apply named_eq_nil
      intro m mem same
      rcases List.mem_append.mp mem with own | other
      · exact fresh (same ▸ fst_mem_names own)
      · exact foreign m other (same ▸ List.mem_cons_self)
    rcases first with ⟨keeps, written⟩ | ⟨silent, default⟩
    · simp only [members, written, Bool.false_eq_true, if_false, List.cons_append]
      refine ⟨?_, (read_cons_of_notMem fresh).mpr later⟩
      rw [named_cons_self, absent]
      exact .present (keeps.decode delivery)
    · simp only [members, silent, if_true]
      refine ⟨?_, later⟩
      rw [absent]
      exact .absent default

theorem others_members (fs : Fields αs) (values : Values αs) {rest : List (String × Json)}
    (foreign : ∀ m ∈ rest, m.1 ∉ fs.names) :
    others fs.names (fs.members values ++ rest) = rest := by
  rw [others_append, others_eq_nil fun m => fst_mem_names, others_eq_self foreign, List.nil_append]

end Fields

/-! ## Records and unions -/

namespace Codec

open Fields (fst_mem_names others_members)
open Json (named_cons_self named_eq_nil others_cons_of_mem others_eq_self)

variable {α β ρ κ : Type} {αs : List Type} {depth : Nat}

theorem keeps_record {name : String} {fs : Fields αs} {build : Values αs → ρ}
    {values : ρ → Values αs} {r : ρ} (keep : fs.Keep depth (values r)) (distinct : fs.names.Nodup)
    (rebuilt : build (values r) = r) : (record name fs build values).Keeps (depth + 1) r where
  decode delivery := by
    have read : fs.Read delivery (fs.members (values r) ++ []) (values r) :=
      keep.read delivery distinct nofun
    have none : Json.others fs.names (fs.members (values r) ++ []) = [] :=
      others_members fs (values r) nofun
    rw [List.append_nil] at read none
    refine (decode_record_object distinct).mpr ⟨values r, read, rebuilt, ?_⟩
    rw [none]
    nofun
  legible := .object fun _ mem => keep.legible mem

theorem Lossless.record {name : String} {fs : Fields αs} {build : Values αs → ρ}
    {values : ρ → Values αs} (fields : fs.Lossless depth) (distinct : fs.names.Nodup)
    (rebuilt : ∀ r, build (values r) = r) : (record name fs build values).Lossless (depth + 1) :=
  fun r => keeps_record (fields (values r)) distinct (rebuilt r)

theorem definite_record (name : String) (fs : Fields αs) (build : Values αs → ρ)
    (values : ρ → Values αs) : Definite (record name fs build values) :=
  fun _ => nofun

theorem members_record (name : String) (fs : Fields αs) (build : Values αs → ρ)
    (values : ρ → Values αs) (r : ρ) : (record name fs build values).Members fs.names r :=
  ⟨_, rfl, fun _ => fst_mem_names⟩

theorem Keeps.legible_members {c : Codec α} {a : α} {ms : List (String × Json)}
    (keeps : c.Keeps (depth + 1) a) (written : c.encode a = .object ms) :
    ∀ m ∈ ms, Legible depth m.2 := by
  have whole := keeps.legible
  rw [written] at whole
  cases whole with
  | object each => exact each

theorem lossless_word {s : Spelling κ} (faithful : s.Faithful) : (word s).Lossless depth :=
  fun k => ⟨fun _ => faithful k, .string (s.spell k)⟩

section Variant

variable {c : Codec α} {toUnion : α → ρ} {content? : ρ → Option α} {a : α}

theorem encode_variant (own : content? (toUnion a) = some a) :
    (variant c toUnion content?).encode (toUnion a) = c.encode a := by
  simp only [variant, own]

theorem keeps_variant (own : content? (toUnion a) = some a) (keeps : c.Keeps depth a) :
    (variant c toUnion content?).Keeps depth (toUnion a) where
  decode delivery := by
    calc (variant c toUnion content?).decode delivery
          ((variant c toUnion content?).encode (toUnion a))
        = (c.decode delivery (c.encode a)).map toUnion := by rw [encode_variant own]; rfl
      _ = .ok (toUnion a) := by rw [keeps.decode]; rfl
  legible := encode_variant (c := c) own ▸ keeps.legible

theorem members_variant {names : List String} (own : content? (toUnion a) = some a)
    (members : c.Members names a) : (variant c toUnion content?).Members names (toUnion a) := by
  obtain ⟨ms, written, named⟩ := members
  exact ⟨ms, (encode_variant own).trans written, named⟩

end Variant

theorem encode_tagged {name tag : String} {s : Spelling κ} {body : κ → Codec ρ} {kindOf : ρ → κ}
    {r : ρ} {ms : List (String × Json)} (written : (body (kindOf r)).encode r = .object ms) :
    (tagged name tag s body kindOf).encode r =
      .object ((tag, .string (s.spell (kindOf r))) :: ms) := by
  simp only [tagged, written]

/-- A tagged union keeps a value that its variant keeps, where the tag is no field of the
variant. -/
theorem keeps_tagged {name tag : String} {s : Spelling κ} {body : κ → Codec ρ} {kindOf : ρ → κ}
    {r : ρ} {names : List String} (faithful : s.Faithful)
    (keeps : (body (kindOf r)).Keeps (depth + 1) r)
    (members : (body (kindOf r)).Members names r) (fresh : tag ∉ names) :
    (tagged name tag s body kindOf).Keeps (depth + 1) r := by
  obtain ⟨ms, written, named⟩ := members
  have legible := keeps.legible_members written
  have untagged : ∀ m ∈ ms, m.1 ≠ tag := fun m mem same => fresh (same ▸ named m mem)
  constructor
  · intro delivery
    have spelled : s.readTag delivery (.string (s.spell (kindOf r))) = .ok (kindOf r) :=
      faithful (kindOf r)
    have decoded := keeps.decode .buffered
    rw [written] at decoded
    have rest : Json.others [tag] ms = ms := by
      apply others_eq_self
      intro m mem
      rw [List.mem_singleton]
      exact untagged m mem
    rw [encode_tagged written, decode_tagged_object, named_cons_self, named_eq_nil untagged,
      others_cons_of_mem List.mem_cons_self, rest]
    exact ⟨kindOf r, .present spelled, fun m mem => (legible m mem).sound, decoded⟩
  · rw [encode_tagged written]
    refine .object fun m mem => ?_
    rcases List.mem_cons.mp mem with rfl | own
    · exact .string _
    · exact legible m own

theorem members_tagged {name tag : String} {s : Spelling κ} {body : κ → Codec ρ} {kindOf : ρ → κ}
    {r : ρ} {names : List String} (members : (body (kindOf r)).Members names r) :
    (tagged name tag s body kindOf).Members (tag :: names) r := by
  obtain ⟨ms, written, named⟩ := members
  refine ⟨_, encode_tagged written, fun m mem => ?_⟩
  rcases List.mem_cons.mp mem with rfl | own
  · exact List.mem_cons_self
  · exact List.mem_cons_of_mem _ (named m own)

/-- A labelled union keeps a value whose content is kept. -/
theorem keeps_labelled {name label content : String} {s : Spelling κ} {body : κ → Codec ρ}
    {kindOf : ρ → κ} {r : ρ} (faithful : s.Faithful) (apart : label ≠ content)
    (keeps : (body (kindOf r)).Keeps depth r) :
    (labelled name label content s body kindOf).Keeps (depth + 1) r where
  decode delivery := by
    have first : nextLabelled label content
        [(label, .string (s.spell (kindOf r))), (content, (body (kindOf r)).encode r)] =
          .ok (some (true, .string (s.spell (kindOf r)),
            [(content, (body (kindOf r)).encode r)])) := by
      simp [nextLabelled]
    have second : nextLabelled label content [(content, (body (kindOf r)).encode r)] =
        .ok (some (false, (body (kindOf r)).encode r, [])) := by
      simp [nextLabelled, apart.symm]
    have last : noneLabelled label content [] = .ok () := rfl
    have spelled : (word s).decode delivery (.string (s.spell (kindOf r))) = .ok (kindOf r) :=
      faithful (kindOf r)
    simp only [labelled, first, second, last, spelled, keeps.decode, bind, Except.bind, pure,
      Except.pure]
  legible := by
    refine .object fun m mem => ?_
    simp only [List.mem_cons, List.not_mem_nil, or_false] at mem
    rcases mem with rfl | rfl
    · exact .string _
    · exact keeps.legible

/-- A flattened record keeps a value whose last part is kept, where no member of that part has the
name of a field. -/
theorem keeps_flattened {name : String} {fs : Fields αs} {inner : Codec β}
    {build : Values αs → β → ρ} {values : ρ → Values αs} {part : ρ → β} {r : ρ}
    {names : List String} (fields : fs.Lossless depth) (distinct : fs.names.Nodup)
    (keeps : inner.Keeps (depth + 1) (part r)) (members : inner.Members names (part r))
    (apart : ∀ n ∈ names, n ∉ fs.names) (rebuilt : build (values r) (part r) = r) :
    (flattened name fs inner build values part).Keeps (depth + 1) r := by
  obtain ⟨ms, written, named⟩ := members
  have legible := keeps.legible_members written
  have encoded : (flattened name fs inner build values part).encode r =
      .object (fs.members (values r) ++ ms) := by
    simp only [flattened, written]
  constructor
  · intro delivery
    have foreign : ∀ m ∈ ms, m.1 ∉ fs.names := fun m mem => apart m.1 (named m mem)
    have decoded := keeps.decode .buffered
    rw [written] at decoded
    rw [encoded, decode_flattened_object distinct, others_members fs _ foreign]
    exact ⟨values r, part r, (fields (values r)).read delivery distinct foreign,
      fun m mem => (legible m mem).sound, decoded, rebuilt⟩
  · rw [encoded]
    refine .object fun m mem => ?_
    rcases List.mem_append.mp mem with own | other
    · exact (fields (values r)).legible own
    · exact legible m other

end Codec

end CodeGrading
