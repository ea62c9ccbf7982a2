import CodeGrading.Json.Value
import CodeGrading.Number.Shortest
import CodeGrading.Text.Quoted

/-!
What can be wrong with a document that should hold a value of some type, and the words for it.
-/

namespace CodeGrading

/-- What a document was expected to hold. -/
inductive Expected where
  | text
  | flag
  | list
  | int32
  | size
  | double
  | unit
  | record (name : String)
  | taggedUnion (name : String)
  | labelledUnion (name : String)
  | variantName
  | variantIndex (count : Nat)
  | wordOrMap
  | singleMember
  | recordOf (name : String) (fields : Nat)
  | items (count : Nat)
  deriving DecidableEq, Repr

/-- A disagreement between a document and the type it should hold. -/
inductive Mismatch where
  | missingField (name : String)
  | duplicateField (name : String)
  | unknownVariant (word : String) (known : List String)
  | invalidType (found : Found) (expected : Expected)
  | invalidValue (found : Found) (expected : Expected)
  | invalidLength (length : Nat) (expected : Expected)
  | noVariant (union : String)
  deriving DecidableEq, Repr

/-- Why a text could not be decoded. -/
inductive DecodeError where
  | notJson
  | mismatch (m : Mismatch)
  deriving DecidableEq, Repr

/-- A count with its noun. -/
def counted (n : Nat) (singular plural : String) : String :=
  toString n ++ " " ++ if n = 1 then singular else plural

def Expected.message : Expected → String
  | .text => "a string"
  | .flag => "a boolean"
  | .list => "a sequence"
  | .int32 => "i32"
  | .size => "usize"
  | .double => "f64"
  | .unit => "unit"
  | .record name => "struct " ++ name
  | .taggedUnion name => "internally tagged enum " ++ name
  | .labelledUnion name => "adjacently tagged enum " ++ name
  | .variantName => "variant identifier"
  | .variantIndex count => "variant index 0 <= i < " ++ toString count
  | .wordOrMap => "string or map"
  | .singleMember => "map with a single key"
  | .recordOf name fields => "struct " ++ name ++ " with " ++ counted fields "element" "elements"
  | .items count => counted count "element" "elements" ++ " in sequence"

/-- A name or a value between backquotes. -/
def ticked (s : String) : String :=
  "`" ++ s ++ "`"

def Found.message : Found → String
  | .null => "null"
  | .flag b => "boolean " ++ ticked (if b then "true" else "false")
  | .number (.integer i) => "integer " ++ ticked (toString i)
  | .number (.double x) => "floating point " ++ ticked (String.ofList x.toChars)
  | .text s => "string " ++ Text.quoted s
  | .list => "sequence"
  | .map => "map"

def Mismatch.message : Mismatch → String
  | .missingField name => "missing field " ++ ticked name
  | .duplicateField name => "duplicate field " ++ ticked name
  | .unknownVariant word known =>
    "unknown variant " ++ ticked word ++ ", expected one of " ++
      ", ".intercalate (known.map ticked)
  | .invalidType found expected =>
    "invalid type: " ++ found.message ++ ", expected " ++ expected.message
  | .invalidValue found expected =>
    "invalid value: " ++ found.message ++ ", expected " ++ expected.message
  | .invalidLength length expected =>
    "invalid length " ++ toString length ++ ", expected " ++ expected.message
  | .noVariant union => "data did not match any variant of untagged enum " ++ union

/-- The error where something else is expected than what is found. That nothing is found is found
out before its type matters. -/
def Expected.refuse (expected : Expected) : Option Found → DecodeError
  | some found => .mismatch (.invalidType found expected)
  | none => .notJson

/-- The error for a document of the wrong type. -/
def Json.unlike (v : Json) (expected : Expected) : DecodeError :=
  expected.refuse v.found?

end CodeGrading
