import CodeGrading.Json.Codec

/-!
Codecs of records.

A record is written as an object with its fields in order. It is read from an object with its
members in any order, names that are no field passed over, or from an array of its fields. A field
may have a value for when it is absent; what an absent field means in an object and at the end of
an array is said apart, because an optional field may still be owed in an array.
-/

namespace CodeGrading

/-- A field of a record. -/
structure Field (α : Type) where
  name : String
  codec : Codec α
  /-- The value when an object has no member of the name. -/
  absent : Option α
  /-- The value when an array ends before the field. -/
  omitted : Option α
  /-- The values that are not written. -/
  silent : α → Bool := fun _ => false

/-- The fields of a record in order, by the list of their types. -/
inductive Fields : List Type → Type 1 where
  | none : Fields []
  | cons {α : Type} {αs : List Type} (field : Field α) (more : Fields αs) : Fields (α :: αs)

/-- One value for each type. -/
@[reducible] def Values : List Type → Type
  | [] => Unit
  | α :: αs => α × Values αs

/-- A value, or none yet, for each type. -/
@[reducible] def Slots : List Type → Type
  | [] => Unit
  | α :: αs => Option α × Slots αs

namespace Fields

variable {α : Type} {αs : List Type}

/-- A field that must be there. -/
def required (name : String) (codec : Codec α) (more : Fields αs) : Fields (α :: αs) :=
  cons { name, codec, absent := .none, omitted := .none } more

/-- A field with a default. -/
def default (name : String) (codec : Codec α) (value : α) (more : Fields αs) : Fields (α :: αs) :=
  cons { name, codec, absent := some value, omitted := some value } more

/-- A field whose absence is a value of its own. -/
def optional (name : String) (codec : Codec α) (more : Fields αs) : Fields (Option α :: αs) :=
  default name codec.option .none more

/-- An optional field that is owed in an array. -/
def nullable (name : String) (codec : Codec α) (more : Fields αs) : Fields (Option α :: αs) :=
  cons { name, codec := codec.option, absent := some .none, omitted := .none } more

/-- An optional field that is not written when it is absent. -/
def unwritten (name : String) (codec : Codec α) (more : Fields αs) : Fields (Option α :: αs) :=
  cons
    { name, codec := codec.option, absent := some .none, omitted := some .none
      silent := Option.isNone }
    more

def names : {αs : List Type} → Fields αs → List String
  | _, none => []
  | _, cons field more => field.name :: more.names

def count {αs : List Type} (fs : Fields αs) : Nat :=
  fs.names.length

def empty : {αs : List Type} → Fields αs → Slots αs
  | _, none => ()
  | _, cons _ more => (.none, more.empty)

/-- Decodes a member into the slot of its field; none when no field has its name. -/
def accept (delivery : Delivery) (name : String) (v : Json) :
    {αs : List Type} → Fields αs → Slots αs → Option (Except DecodeError (Slots αs))
  | _, none, _ => .none
  | _, cons field more, (slot, slots) =>
    if field.name = name then
      match slot with
      | some _ => some (.error (.mismatch (.duplicateField name)))
      | .none => some ((field.codec.decode delivery v).map fun a => (some a, slots))
    else (more.accept delivery name v slots).map fun r => r.map fun slots => (slot, slots)

/-- Decodes the members of an object in order, passing over those that are no field. -/
def fill (delivery : Delivery) {αs : List Type} (fs : Fields αs) :
    List (String × Json) → Slots αs → Except DecodeError (Slots αs)
  | [], slots => .ok slots
  | (name, v) :: ms, slots =>
    match fs.accept delivery name v slots with
    | some (.error e) => .error e
    | some (.ok slots) => fs.fill delivery ms slots
    | .none => if v.skippable then fs.fill delivery ms slots else .error .notJson

/-- The values of the slots, the empty ones taken for absent. -/
def close : {αs : List Type} → Fields αs → Slots αs → Except DecodeError (Values αs)
  | _, none, _ => .ok ()
  | _, cons field more, (slot, slots) =>
    match slot <|> field.absent with
    | .none => .error (.mismatch (.missingField field.name))
    | some a => (more.close slots).map fun values => (a, values)

/-- Decodes the items of an array field by field, from the field at `position` on, and gives back
the items left over. -/
def ofItems (delivery : Delivery) (owed : Nat → DecodeError) :
    {αs : List Type} → Fields αs → Nat → List Json → Except DecodeError (Values αs × List Json)
  | _, none, _, vs => .ok ((), vs)
  | _, cons field more, position, [] =>
    match field.omitted with
    | .none => .error (owed position)
    | some a => (more.ofItems delivery owed (position + 1) []).map fun r => ((a, r.1), r.2)
  | _, cons field more, position, v :: vs =>
    match field.codec.decode delivery v with
    | .error e => .error e
    | .ok a => (more.ofItems delivery owed (position + 1) vs).map fun r => ((a, r.1), r.2)

/-- The members of an object for the values. -/
def members : {αs : List Type} → Fields αs → Values αs → List (String × Json)
  | _, none, _ => []
  | _, cons field more, (a, values) =>
    if field.silent a then more.members values
    else (field.name, field.codec.encode a) :: more.members values

end Fields

/-- The error for items beyond the fields of a record. While a text is read they are where its
closing bracket should be. -/
def surplusItems (delivery : Delivery) (fields surplus : Nat) : DecodeError :=
  match delivery with
  | .streamed => .notJson
  | .buffered => .mismatch (.invalidLength (fields + surplus) (.items fields))

namespace Codec

/-- The record named `name` with the given fields. -/
def record {αs : List Type} {ρ : Type} (name : String) (fs : Fields αs) (build : Values αs → ρ)
    (values : ρ → Values αs) : Codec ρ where
  decode
    | delivery, .object ms => do
      let slots ← fs.fill delivery ms fs.empty
      return build (← fs.close slots)
    | delivery, .array vs => do
      let owed position := .mismatch (.invalidLength position (.recordOf name fs.count))
      let (found, rest) ← fs.ofItems delivery owed 0 vs
      if rest.isEmpty then return build found
      else throw (surplusItems delivery fs.count rest.length)
    | _, v => .error (v.unlike (.record name))
  encode r := .object (fs.members (values r))

end Codec

end CodeGrading
