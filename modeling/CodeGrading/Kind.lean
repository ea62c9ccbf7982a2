import CodeGrading.Json.Variant

/-!
The three kinds of question. A job and its result are of the kind of the question they are for.
-/

namespace CodeGrading

inductive Kind where
  | wholeClass
  | singleMethod
  | wholeProgram
  deriving DecidableEq, Repr

namespace Kind

def word : Kind → String
  | .wholeClass => "class"
  | .singleMethod => "method"
  | .wholeProgram => "program"

def spelling : Spelling Kind where
  all := [.wholeClass, .singleMethod, .wholeProgram]
  spell := word

end Kind

end CodeGrading
