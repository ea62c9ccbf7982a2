import CodeGrading.GradedResult.Codec

/-!
The report on a graded submission: the graded result in an envelope, with each diagnostic put into
words and the time of grading.
-/

namespace CodeGrading

/-- A diagnostic in words. -/
structure Feedback where
  category : Category
  message : String
  deriving DecidableEq, Repr

def Diagnostic.feedback (d : Diagnostic) : Feedback :=
  ⟨d.category, d.message⟩

structure Report where
  success : Bool
  message : String
  gradedAt : String
  /-- One entry for each diagnostic, in order. -/
  feedback : List Feedback
  data : GradedResult
  deriving DecidableEq, Repr

/-- The report on a result graded at a time. Only a finished grading is reported, so it always
tells of success. -/
def GradedResult.report (g : GradedResult) (gradedAt : String) : Report where
  success := true
  message := "Grading complete."
  gradedAt := gradedAt
  feedback := g.errors.map (·.feedback)
  data := g

def Feedback.toJson (f : Feedback) : Json :=
  .object [("category", .string f.category.word), ("message", .string f.message)]

def Report.toJson (r : Report) : Json :=
  .object
    [("success", .bool r.success),
      ("message", .string r.message),
      ("gradedAt", .string r.gradedAt),
      ("feedback", .array (r.feedback.map (·.toJson))),
      ("data", GradedResult.codec.encode r.data)]

end CodeGrading
