import CodeGrading.Number.Binary64

/-!
JSON documents as they are read.

A document is a tree. Where its text stops being JSON, or denotes no value, the tree has a fault
instead of a value, so what stands before the fault can still be looked at. Objects keep their
members in the order of the text, repeated names included.
-/

namespace CodeGrading

/-- A number: an integer of 64 bits with or without a sign, or else a double. -/
inductive Number where
  | integer (i : Int)
  | double (x : Binary64)
  deriving DecidableEq, Repr

/-- What a document holds at a place, as far as its first token tells. -/
inductive Found where
  | null
  | flag (b : Bool)
  | number (n : Number)
  | text (s : String)
  | list
  | map
  deriving DecidableEq, Repr

/-- Why a place of a document holds no value. -/
inductive Fault where
  /-- The text stops being JSON here. -/
  | broken
  /-- The text is well formed but denotes no value: a number beyond the doubles, half of a
  surrogate pair, or nesting beyond the limit. -/
  | unreadable
  /-- The name of this member is unreadable. -/
  | unreadableName
  /-- The text stops being JSON where this member should have its name. What is found there may
  begin a value. -/
  | misnamed (found : Option Found)
  deriving DecidableEq, Repr

inductive Json where
  | null
  | bool (b : Bool)
  | number (n : Number)
  | string (s : String)
  | array (items : List Json)
  | object (members : List (String × Json))
  | fault (f : Fault)
  deriving Repr

namespace Json

mutual

/-- Every fault in the document satisfies `ok`. -/
def faultsAre (ok : Fault → Bool) : Json → Bool
  | .array items => itemsFaultsAre ok items
  | .object members => membersFaultsAre ok members
  | .fault f => ok f
  | .null | .bool _ | .number _ | .string _ => true

def itemsFaultsAre (ok : Fault → Bool) : List Json → Bool
  | [] => true
  | v :: vs => faultsAre ok v && itemsFaultsAre ok vs

def membersFaultsAre (ok : Fault → Bool) : List (String × Json) → Bool
  | [] => true
  | (_, v) :: ms => faultsAre ok v && membersFaultsAre ok ms

end

/-- The document has no fault. -/
def sound (v : Json) : Bool :=
  v.faultsAre fun _ => false

/-- The document is well formed, though parts of it may denote no value. -/
def wellFormed (v : Json) : Bool :=
  v.faultsAre fun f => f == .unreadable || f == .unreadableName

/-- The value of a member may be passed over: its name is readable and its text well formed. -/
def skippable : Json → Bool
  | .fault f => f == .unreadable
  | v => v.wellFormed

/-- What a document holds; nothing at a fault. -/
def found? : Json → Option Found
  | .null => some .null
  | .bool b => some (.flag b)
  | .number n => some (.number n)
  | .string s => some (.text s)
  | .array _ => some .list
  | .object _ => some .map
  | .fault _ => none

/-- The value of the first member with a name. -/
def get? (v : Json) (name : String) : Option Json :=
  match v with
  | .object members => (members.find? (·.1 == name)).map (·.2)
  | _ => none

end Json

end CodeGrading
