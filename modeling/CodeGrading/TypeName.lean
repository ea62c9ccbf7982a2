import CodeGrading.Text.Blank

/-!
Type names up to their type arguments.

A compiler reports `ArrayList<Integer>` as `ArrayList`, so two names agree when they are the same
once everything between angle brackets is erased. Agreement of parameter lists and of return types
is agreement of the erased lists and of the erased options, hence an equivalence.
-/

namespace CodeGrading.TypeName

/-- Drops what stands inside angle brackets, `depth` of which are open. A closing bracket that
closes nothing stays. -/
def eraseChars : Nat → List Char → List Char
  | _, [] => []
  | depth, c :: cs =>
    if c = '<' then eraseChars (depth + 1) cs
    else if depth = 0 then c :: eraseChars 0 cs
    else if c = '>' then eraseChars (depth - 1) cs
    else eraseChars depth cs

/-- A type name without its type arguments and without blanks at its ends. -/
def erase (name : String) : String :=
  String.ofList (Text.trimChars (eraseChars 0 name.toList))

/-- Two type names agree. -/
@[reducible] def Same (a b : String) : Prop :=
  erase a = erase b

/-- Two parameter lists agree: as many types, each the same in order. -/
@[reducible] def SameParameters (as bs : List String) : Prop :=
  as.map erase = bs.map erase

/-- Two return types agree; the absent one of a constructor only with another absent one. -/
@[reducible] def SameReturn (a b : Option String) : Prop :=
  a.map erase = b.map erase

end CodeGrading.TypeName
