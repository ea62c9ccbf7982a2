import CodeGrading.Diagnostic
import CodeGrading.Question

/-!
Graded results.

A submission that has any diagnostic scores zero and no test of it is shown. Otherwise every
declared test has an outcome, found by its name among the reported results, and the score is the
share of the tests that passed.
-/

namespace CodeGrading

/-- A score: a share of the tests, kept as a fraction, or a number from a stored result. A share of
no tests is zero. -/
inductive Score where
  | share (passed total : Nat)
  | stored (x : Binary64)
  deriving DecidableEq, Repr

namespace Score

def zero : Score :=
  .share 0 1

/-- The double nearest to the score. -/
def toDouble : Score → Binary64
  | .share _ 0 => Binary64.zero false
  | .share passed total => (Binary64.ofRatio false passed total).getD (Binary64.zero false)
  | .stored x => x

end Score

/-- What became of a declared test, beside what it expected. -/
structure TestOutcome where
  name : String
  description : String
  passed : Bool
  /-- False also when there is no result of the test. -/
  completed : Bool
  expectedOutput : String
  actualOutput : Option String
  expectedReturnValue : Option String
  actualReturnValue : Option String
  exception : Option String
  deriving DecidableEq, Repr

structure GradedResult where
  score : Score
  errors : List Diagnostic
  /-- One outcome for each declared test; none when the tests did not run. -/
  testResults : List TestOutcome
  deriving DecidableEq, Repr

namespace GradedResult

/-- The result of a submission whose tests are not looked at. -/
def failed (errors : List Diagnostic) : GradedResult where
  score := .zero
  errors := errors
  testResults := []

def isPerfect (g : GradedResult) : Bool :=
  g.errors.isEmpty && g.score.toDouble.atLeastOne

end GradedResult

namespace Expectation

/-- The test ran to its end with exactly the expected output, and with the expected return value
where there is one. -/
def isMetBy (e : Expectation) (r : TestResult) : Bool :=
  r.completed && r.output == e.output && e.returnValue.all (r.returnValue == some ·)

/-- The first reported result of the test. -/
def resultIn (e : Expectation) (results : List TestResult) : Option TestResult :=
  results.find? (·.name == e.name)

/-- The outcome of the test whose result is `result`. -/
def outcome (e : Expectation) (result : Option TestResult) : TestOutcome where
  name := e.name
  description := e.description
  passed := result.any e.isMetBy
  completed := result.any (·.completed)
  expectedOutput := e.output
  actualOutput := result.map (·.output)
  expectedReturnValue := e.returnValue
  actualReturnValue := result.bind (·.returnValue)
  exception := result.bind (·.exception)

end Expectation

/-- The outcomes of all declared tests and the share of them that passed. -/
def scoreTests (tests : List Expectation) (results : List TestResult) : GradedResult :=
  let outcomes := tests.map fun e => e.outcome (e.resultIn results)
  { score := .share (outcomes.countP (·.passed)) outcomes.length
    errors := []
    testResults := outcomes }

/-- The grade of a job result, given the diagnostics already made. -/
def score (tests : List Expectation) (r : JobResult) (errors : List Diagnostic) : GradedResult :=
  if errors.isEmpty then
    match r.testsCompilation with
    | some c =>
      if c.success then scoreTests tests (r.testResults.getD [])
      else .failed [.compilation .tests c.errors]
    | none => scoreTests tests (r.testResults.getD [])
  else .failed errors

end CodeGrading
