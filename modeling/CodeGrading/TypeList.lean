import CodeGrading.Json.Codec
import CodeGrading.Text.Blank

/-!
Lists of types in one text.

The types are separated by commas; a comma inside angle brackets belongs to its type. `split` and
`join` go between the text and the list, and `codec` reads either form and writes the list.
-/

namespace CodeGrading.TypeList

/-- The number of open brackets after a character; a surplus closing bracket closes nothing. -/
def depthAfter (depth : Nat) (c : Char) : Nat :=
  if c = '<' then depth + 1
  else if c = '>' then depth - 1
  else depth

/-- The text up to the first comma outside brackets, and the texts between the commas after it. -/
def pieces : Nat → List Char → List Char × List (List Char)
  | _, [] => ([], [])
  | depth, c :: cs =>
    if c = ',' ∧ depth = 0 then
      let (first, more) := pieces 0 cs
      ([], first :: more)
    else
      let (first, more) := pieces (depthAfter depth c) cs
      (c :: first, more)

/-- The types of a text, trimmed. A blank text has none. -/
def split (s : String) : List String :=
  if s.toList.all Text.isBlank then []
  else
    let (first, more) := pieces 0 s.toList
    (first :: more).map fun piece => String.ofList (Text.trimChars piece)

def join (types : List String) : String :=
  ", ".intercalate types

def strings? : List Json → Option (List String)
  | [] => some []
  | .string s :: vs => (strings? vs).map (s :: ·)
  | _ => none

/-- Written as an array of types; read from an array, whose items are trimmed, or from one text. -/
def codec : Codec (List String) where
  decode _ v :=
    if v.sound then
      match v with
      | .string s => .ok (split s)
      | .array vs =>
        match strings? vs with
        | some types => .ok (types.map Text.trim)
        | none => .error (.mismatch (.noVariant "TypeListRepr"))
      | _ => .error (.mismatch (.noVariant "TypeListRepr"))
    else .error .notJson
  encode types := .array (types.map .string)

end CodeGrading.TypeList
