import CodeGrading.Proofs.Json.Lossless

/-!
Codecs that keep what they decode. A codec may lose values that it never decodes and still be
stable (`Codec.Stable`): then a document may change when its value is written for the first time,
and never again (`Codec.Stable.resaved`). Lists, records and tagged unions of stable codecs are
stable.
-/

namespace CodeGrading

/-- Every decoded value is kept. -/
def Codec.Stable {α : Type} (c : Codec α) (depth : Nat) : Prop :=
  ∀ ⦃delivery : Delivery⦄ ⦃v : Json⦄ ⦃a : α⦄, c.decode delivery v = .ok a → c.Keeps depth a

/-- The values that the fields have by any members or items are kept. -/
structure Fields.Stable {αs : List Type} (depth : Nat) (fs : Fields αs) : Prop where
  members : ∀ {delivery ms values}, fs.Read delivery ms values → fs.Keep depth values
  items : ∀ {delivery vs values}, fs.ReadItems delivery vs values → fs.Keep depth values

namespace Fields

variable {α : Type} {αs : List Type} {depth : Nat}

theorem Lossless.stable {fs : Fields αs} (fields : fs.Lossless depth) : fs.Stable depth :=
  ⟨fun _ => fields _, fun _ => fields _⟩

theorem Stable.cons {field : Field α} {more : Fields αs} (codec : field.codec.Stable depth)
    (written : ∀ a, field.silent a = false)
    (absent : ∀ a ∈ field.absent, field.codec.Keeps depth a)
    (omitted : ∀ a ∈ field.omitted, field.codec.Keeps depth a) (rest : more.Stable depth) :
    (Fields.cons field more).Stable depth where
  members := by
    rintro delivery ms ⟨a, values⟩ ⟨reads, later⟩
    refine ⟨.inl ⟨?_, written a⟩, rest.members later⟩
    rcases reads.absent_or_decoded with default | ⟨v, decoded⟩
    · exact absent a default
    · exact codec decoded
  items := by
    rintro delivery (_ | ⟨v, vs⟩) ⟨a, values⟩ ⟨first, later⟩
    · exact ⟨.inl ⟨omitted a first, written a⟩, rest.items later⟩
    · exact ⟨.inl ⟨codec first, written a⟩, rest.items later⟩

theorem Stable.required {name : String} {c : Codec α} {more : Fields αs}
    (codec : c.Stable depth) (rest : more.Stable depth) :
    (Fields.required name c more).Stable depth :=
  .cons codec (fun _ => rfl) nofun nofun rest

theorem Stable.default {name : String} {c : Codec α} {value : α} {more : Fields αs}
    (codec : c.Stable depth) (kept : c.Keeps depth value) (rest : more.Stable depth) :
    (Fields.default name c value more).Stable depth :=
  .cons codec (fun _ => rfl) (fun _ eq => Option.some.inj eq ▸ kept)
    (fun _ eq => Option.some.inj eq ▸ kept) rest

end Fields

namespace Codec

variable {α ρ κ : Type} {αs : List Type} {depth : Nat}

theorem Lossless.stable {c : Codec α} (lossless : c.Lossless depth) : c.Stable depth :=
  fun _ _ _ _ => lossless _

theorem Stable.list {c : Codec α} (item : c.Stable depth) : (list c).Stable (depth + 1) := by
  intro delivery v as decoded
  obtain ⟨vs, rfl, items⟩ := decode_list_eq_ok.mp decoded
  have kept : List.Forall₂ (fun a v => c.Keeps depth a ∧ c.decode delivery v = .ok a) as vs :=
    items.flip.imp fun a v decoded => ⟨item decoded, decoded⟩
  exact keeps_list ((List.forall₂_and_left as vs).mp kept).1

theorem Stable.record {name : String} {fs : Fields αs} {build : Values αs → ρ}
    {values : ρ → Values αs} (fields : fs.Stable depth) (distinct : fs.names.Nodup)
    (rebuilt : ∀ r, build (values r) = r) (taken : ∀ found, values (build found) = found) :
    (record name fs build values).Stable (depth + 1) := by
  intro delivery v r decoded
  rcases decode_record_eq_ok decoded with ⟨ms, rfl⟩ | ⟨vs, rfl⟩
  · obtain ⟨found, read, rfl, -⟩ := (decode_record_object distinct).mp decoded
    refine keeps_record ?_ distinct (rebuilt _)
    rw [taken]
    exact fields.members read
  · obtain ⟨found, read, rfl⟩ := decode_record_array.mp decoded
    refine keeps_record ?_ distinct (rebuilt _)
    rw [taken]
    exact fields.items read

theorem Stable.variant {c : Codec α} {toUnion : α → ρ} {content? : ρ → Option α}
    (own : ∀ a, content? (toUnion a) = some a) (codec : c.Stable depth) :
    (variant c toUnion content?).Stable depth := by
  intro delivery v r decoded
  obtain ⟨a, content, rfl⟩ := map_eq_ok.mp decoded
  exact keeps_variant (own a) (codec content)

theorem Stable.tagged {name tag : String} {s : Spelling κ} {body : κ → Codec ρ} {kindOf : ρ → κ}
    {names : κ → List String} (faithful : s.Faithful) (sorted : Sorted body kindOf)
    (variants : ∀ k, (body k).Stable (depth + 1))
    (members : ∀ r, (body (kindOf r)).Members (names (kindOf r)) r)
    (fresh : ∀ k, tag ∉ names k) : (tagged name tag s body kindOf).Stable (depth + 1) := by
  intro delivery v r decoded
  have content : ∃ k v, (body k).decode .buffered v = .ok r := by
    rcases decode_tagged_eq_ok decoded with ⟨ms, rfl⟩ | ⟨vs, rfl⟩
    · obtain ⟨k, -, -, content⟩ := decode_tagged_object.mp decoded
      exact ⟨k, _, content⟩
    · obtain ⟨w, ws, k, -, -, -, content⟩ := decode_tagged_array.mp decoded
      exact ⟨k, _, content⟩
  obtain ⟨k, v, content⟩ := content
  have kind := sorted content
  subst kind
  exact keeps_tagged faithful (variants _ content) (members r) (fresh _)

/-! ## Saving again -/

/-- A text is decoded, and the text of its value is written in its place. -/
def resave (c : Codec α) (l : Json.Layout) (text : String) : Except DecodeError String :=
  (c.decodeText text).map fun a => l.write (c.encode a)

/-- A text after it was saved a number of times. -/
def resaved (c : Codec α) (l : Json.Layout) : Nat → String → Except DecodeError String
  | 0, text => .ok text
  | times + 1, text => do c.resaved l times (← c.resave l text)

/-- What a stable codec decodes is decoded again from its own text. -/
theorem Stable.decodeText_write {c : Codec α} (stable : c.Stable depth)
    (within : depth ≤ Json.depthLimit) {text : String} {a : α} (decoded : c.decodeText text = .ok a)
    (l : Json.Layout) : c.decodeText (l.write (c.encode a)) = .ok a := by
  obtain ⟨v, -, value⟩ := decodeText_eq_ok.mp decoded
  exact (stable value).decodeText_write within l

theorem Stable.resaved {c : Codec α} (stable : c.Stable depth) (within : depth ≤ Json.depthLimit)
    (l : Json.Layout) (times : Nat) {text : String} {a : α} (decoded : c.decodeText text = .ok a) :
    c.resaved l (times + 1) text = .ok (l.write (c.encode a)) := by
  induction times generalizing text with
  | zero => simp [Codec.resaved, resave, decoded, Except.map, bind, Except.bind]
  | succ times ih =>
    have first : c.resave l text = .ok (l.write (c.encode a)) := by
      rw [resave, decoded]
      rfl
    rw [Codec.resaved, first]
    exact ih (stable.decodeText_write within decoded l)

end Codec

end CodeGrading
