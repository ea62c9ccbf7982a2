import CodeGrading.Json.Record

/-!
Codecs of enumerations and unions.

A word is an enumeration written as a string. A tagged union is a record with one more member, the
tag, that says which variant it is; the tag is looked for before anything else is decoded. A
labelled union is an object of two members, the label of the variant and its content. A flattened
record has the members of a tagged union beside its own.
-/

namespace CodeGrading

/-- The variants of an enumeration and their spellings. -/
structure Spelling (κ : Type) where
  all : List κ
  spell : κ → String

namespace Spelling

variable {κ : Type} (s : Spelling κ)

def words : List String :=
  s.all.map s.spell

/-- The variant of a spelling. -/
def read (word : String) : Except DecodeError κ :=
  match s.all.find? (fun k => s.spell k == word) with
  | some k => .ok k
  | none => .error (.mismatch (.unknownVariant word s.words))

/-- The variant that a tag names. In a buffered part its position is a name too. -/
def readTag : Delivery → Json → Except DecodeError κ
  | _, .string word => s.read word
  | .buffered, .number (.integer (.ofNat i)) =>
    match s.all[i]? with
    | some k => .ok k
    | none => .error (.mismatch
        (.invalidValue (.number (.integer (.ofNat i))) (.variantIndex s.all.length)))
  | _, v => .error (v.unlike .variantName)

/-- The variant that the member of an object names; it must be null. In a buffered part an object
without members is as good as null. -/
def readMember (delivery : Delivery) (name : String) (v : Json) : Except DecodeError κ := do
  let k ← s.read name
  match delivery, v with
  | _, .null | .buffered, .object [] => return k
  | _, v => throw (v.unlike .unit)

end Spelling

namespace Codec

/-- A variant without content: a string, or an object whose only member has that name and is
null. A text that has anything else in its place is given up, but the object's first token is
taken for the name of a variant, whatever it is. -/
def word {κ : Type} (s : Spelling κ) : Codec κ where
  decode
    | _, .string word => s.read word
    | .streamed, .object ((_, .fault (.misnamed found)) :: _) =>
      .error (Expected.variantName.refuse found)
    | .streamed, .object ((_, .fault .unreadableName) :: _) => .error .notJson
    | .streamed, .object ((name, v) :: ms) => do
      let k ← s.readMember .streamed name v
      if ms.isEmpty then return k else throw .notJson
    | .streamed, _ => .error .notJson
    | .buffered, .object [(name, v)] => s.readMember .buffered name v
    | .buffered, .object _ => .error (.mismatch (.invalidValue .map .singleMember))
    | .buffered, v => .error (v.unlike .wordOrMap)
  encode k := .string (s.spell k)

/-- The variant of a union seen as a type of its own. -/
def variant {α ρ : Type} (c : Codec α) (toUnion : α → ρ) (content? : ρ → Option α) : Codec ρ where
  decode delivery v := (c.decode delivery v).map toUnion
  encode r :=
    match content? r with
    | some a => c.encode a
    | none => .null

/-- Takes the tag out of the members of an object. The other members are read to their ends. -/
def takeTag {κ : Type} (s : Spelling κ) (tag : String) (delivery : Delivery) :
    Option κ → List (String × Json) → Except DecodeError (Option κ × List (String × Json))
  | found, [] => .ok (found, [])
  | found, (name, v) :: ms =>
    if name = tag then
      match found with
      | some _ => .error (.mismatch (.duplicateField tag))
      | none => do
        let k ← s.readTag delivery v
        takeTag s tag delivery (some k) ms
    else if v.sound then do
      let (found, ms) ← takeTag s tag delivery found ms
      return (found, (name, v) :: ms)
    else .error .notJson

/-- The union named `name` whose variants are told apart by the member `tag`. -/
def tagged {κ ρ : Type} (name tag : String) (s : Spelling κ) (body : κ → Codec ρ)
    (kindOf : ρ → κ) : Codec ρ where
  decode
    | delivery, .object ms => do
      match ← takeTag s tag delivery none ms with
      | (none, _) => throw (.mismatch (.missingField tag))
      | (some k, ms) => (body k).decode .buffered (.object ms)
    | _, .array [] => .error (.mismatch (.missingField tag))
    | delivery, .array (v :: vs) => do
      let k ← s.readTag delivery v
      if vs.all Json.sound then (body k).decode .buffered (.array vs)
      else throw .notJson
    | _, v => .error (v.unlike (.taggedUnion name))
  encode r :=
    match (body (kindOf r)).encode r with
    | .object ms => .object ((tag, .string (s.spell (kindOf r))) :: ms)
    | v => v

/-- The member of a labelled union that stands first, with the members after it. Other members are
passed over. -/
def nextLabelled (label content : String) :
    List (String × Json) → Except DecodeError (Option (Bool × Json × List (String × Json)))
  | [] => .ok none
  | (name, v) :: ms =>
    if name = label then .ok (some (true, v, ms))
    else if name = content then .ok (some (false, v, ms))
    else if v.skippable then nextLabelled label content ms
    else .error .notJson

/-- No member of a labelled union stands a second time. -/
def noneLabelled (label content : String) (ms : List (String × Json)) :
    Except DecodeError Unit := do
  match ← nextLabelled label content ms with
  | none => return ()
  | some (true, _) => throw (.mismatch (.duplicateField label))
  | some (false, _) => throw (.mismatch (.duplicateField content))

/-- The union named `name` with the variant in the member `label` and its value in `content`. A
content that stands before its label is buffered. -/
def labelled {κ ρ : Type} (name label content : String) (s : Spelling κ) (body : κ → Codec ρ)
    (kindOf : ρ → κ) : Codec ρ where
  decode
    | delivery, .object ms => do
      match ← nextLabelled label content ms with
      | none => throw (.mismatch (.missingField label))
      | some (true, v, ms) =>
        let k ← (word s).decode delivery v
        match ← nextLabelled label content ms with
        | none => throw (.mismatch (.missingField content))
        | some (true, _) => throw (.mismatch (.duplicateField label))
        | some (false, v, ms) =>
          let r ← (body k).decode delivery v
          noneLabelled label content ms
          return r
      | some (false, v, ms) =>
        if v.sound then
          match ← nextLabelled label content ms with
          | none => throw (.mismatch (.missingField label))
          | some (false, _) => throw (.mismatch (.duplicateField content))
          | some (true, w, ms) =>
            let k ← (word s).decode delivery w
            let r ← (body k).decode .buffered v
            noneLabelled label content ms
            return r
        else throw .notJson
    | _, .array [] => .error (.mismatch (.invalidLength 0 (.labelledUnion name)))
    | delivery, .array [v] => do
      let _ ← s.readTag delivery v
      throw (.mismatch (.invalidLength 1 (.labelledUnion name)))
    | delivery, .array (v :: w :: vs) => do
      let k ← s.readTag delivery v
      let r ← (body k).decode delivery w
      if vs.isEmpty then return r
      else throw (surplusItems delivery 2 vs.length)
    | _, v => .error (v.unlike (.labelledUnion name))
  encode r :=
    .object [(label, .string (s.spell (kindOf r))), (content, (body (kindOf r)).encode r)]

/-- Decodes the members that are fields and keeps the others, which are read to their ends. -/
def splitMembers {αs : List Type} (fs : Fields αs) (delivery : Delivery) :
    List (String × Json) → Slots αs → Except DecodeError (Slots αs × List (String × Json))
  | [], slots => .ok (slots, [])
  | (name, v) :: ms, slots =>
    match fs.accept delivery name v slots with
    | some (.error e) => .error e
    | some (.ok slots) => splitMembers fs delivery ms slots
    | none =>
      if v.sound then do
        let (slots, rest) ← splitMembers fs delivery ms slots
        return (slots, (name, v) :: rest)
      else .error .notJson

/-- The record named `name` whose last part is written among its own members. It is never an
array. -/
def flattened {αs : List Type} {β ρ : Type} (name : String) (fs : Fields αs) (inner : Codec β)
    (build : Values αs → β → ρ) (values : ρ → Values αs) (part : ρ → β) : Codec ρ where
  decode
    | delivery, .object ms => do
      let (slots, rest) ← splitMembers fs delivery ms fs.empty
      let found ← fs.close slots
      return build found (← inner.decode .buffered (.object rest))
    | _, v => .error (v.unlike (.record name))
  encode r :=
    match inner.encode (part r) with
    | .object ms => .object (fs.members (values r) ++ ms)
    | v => v

end Codec

end CodeGrading
