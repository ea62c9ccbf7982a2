/-!
File templates with a place for the submission.

A template is split at the first marker in it. The submission takes the marker's place with every
percent sign doubled, because the runner formats the file before it compiles it, and the number of
lines before the marker tells how far compiler positions are off.
-/

namespace CodeGrading.Template

/-- What stands in a template where the submission goes. -/
def marker : List Char :=
  "%SUBMISSION%".toList

/-- The text before the first marker and the text after it. -/
def split : List Char → Option (List Char × List Char)
  | [] => none
  | c :: cs =>
    if marker.isPrefixOf (c :: cs) then some ([], (c :: cs).drop marker.length)
    else (split cs).map fun (before, after) => (c :: before, after)

def hasMarker (template : String) : Bool :=
  (split template.toList).isSome

def escapeChar (c : Char) : List Char :=
  if c = '%' then ['%', '%'] else [c]

/-- A submission with every percent sign doubled. -/
def escape (submission : String) : String :=
  String.ofList (submission.toList.flatMap escapeChar)

/-- The template with the escaped submission in the place of its first marker. -/
def fill (template submission : String) : String :=
  match split template.toList with
  | some (before, after) => String.ofList (before ++ (escape submission).toList ++ after)
  | none => template

/-- The number that added to a line of the filled template gives the line of the submission. -/
def lineOffset (template : String) : Int32 :=
  match split template.toList with
  | some (before, _) => -Int32.ofNat (before.count '\n')
  | none => 0

end CodeGrading.Template
