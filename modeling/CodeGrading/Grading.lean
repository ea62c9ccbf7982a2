import CodeGrading.GradedResult
import CodeGrading.Job
import CodeGrading.Runner
import CodeGrading.Structure

/-!
Grading a submission.

The submission is sent to the code runner as a job of the question's kind, once, and the result is
judged. A flawed submission still has a grade; only a runner that fails and a result that cannot be
used are errors.
-/

namespace CodeGrading

/-- Why a completed result cannot be graded. -/
inductive ResultFault where
  | breach (kind : Kind) (b : Breach)
  | wrongKind (expected actual : Kind)
  /-- A program compiled and its tests did not run. -/
  | noTestResults
  deriving DecidableEq, Repr

def ResultFault.message : ResultFault → String
  | .breach kind b => (RunnerError.malformed (.breach kind b)).message
  | .wrongKind expected actual =>
    "expected a " ++ expected.word ++ " job result, got a " ++ actual.word ++ " job result"
  | .noTestResults => "program compiled but the runner reported no test results"

/-- Why there is no grade. -/
inductive GradingError where
  | runner (e : RunnerError)
  /-- The job ended otherwise than completed. -/
  | notCompleted (status : Status) (diagnostic : Option String)
  | malformedResult (fault : ResultFault)
  | invalidQuestion (fault : QuestionFault)
  | undecodable (e : DecodeError)
  deriving DecidableEq, Repr

def GradingError.message : GradingError → String
  | .runner e => e.message
  | .notCompleted status _ => "code runner finished the job with status " ++ status.word
  | .malformedResult fault => "unexpected job result: " ++ fault.message
  | .invalidQuestion fault => "invalid question: " ++ fault.message
  | .undecodable e => "invalid JSON: " ++ e.message

/-- A question can be graded as configured. -/
def Question.validate (q : Question) : Except GradingError Unit :=
  match q.fault? with
  | some fault => .error (.invalidQuestion fault)
  | none => .ok ()

namespace ClassQuestion

def judge (q : ClassQuestion) (r : JobResult) (p : ClassPayload) : GradedResult :=
  score (q.tests.map (·.expectation)) r ((q.compare p).map .structural)

end ClassQuestion

namespace MethodQuestion

def judge (q : MethodQuestion) (r : JobResult) (p : MethodPayload) : GradedResult :=
  score (q.tests.map (·.expectation)) r (q.compare p)

end MethodQuestion

namespace ProgramQuestion

/-- A program that compiled owes test results. -/
def judge (q : ProgramQuestion) (r : JobResult) (p : ProgramPayload) :
    Except GradingError GradedResult :=
  if !p.compilation.success then
    .ok (.failed [.compilation (.submission .wholeProgram) p.compilation.errors])
  else if r.testResults.isNone then .error (.malformedResult .noTestResults)
  else .ok (score (q.tests.map (·.expectation)) r [])

end ProgramQuestion

/-- The grade of a result that keeps the availability rules. -/
def Question.judgePayload (q : Question) (r : JobResult) : Except GradingError GradedResult :=
  match q, r.payload with
  | .wholeClass q, .wholeClass p => .ok (q.judge r p)
  | .singleMethod q, .singleMethod p => .ok (q.judge r p)
  | .wholeProgram q, .wholeProgram p => q.judge r p
  | q, p => .error (.malformedResult (.wrongKind q.kind p.kind))

/-- The grade of a job result. -/
def Question.judge (q : Question) (r : JobResult) : Except GradingError GradedResult :=
  match r.status with
  | .completed =>
    match r.breach? with
    | some b => .error (.malformedResult (.breach r.payload.kind b))
    | none => q.judgePayload r
  | .timeout | .error => .error (.notCompleted r.status r.diagnosticOutput)

/-- The grade of what came of a job. -/
def Question.judgeReply (q : Question) (reply : Except RunnerError JobResult) :
    Except GradingError GradedResult :=
  match reply with
  | .ok r => q.judge r
  | .error e => .error (.runner e)

/-- Sends a submission to the runner and grades what comes of it. -/
def grade {m : Type → Type} [Monad m] (runner : Job → m (Except RunnerError JobResult))
    (q : Question) (submission : String) : m (Except GradingError GradedResult) := do
  let reply ← runner (q.job submission)
  return q.judgeReply reply

end CodeGrading
