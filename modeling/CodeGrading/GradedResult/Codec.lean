import CodeGrading.Diagnostic.Codec
import CodeGrading.GradedResult

/-!
Graded results in JSON, as they are stored.
-/

namespace CodeGrading

def Score.codec : Codec Score :=
  .map .double .stored toDouble

def TestOutcome.codec : Codec TestOutcome :=
  .record "TestOutcome"
    (.required "name" .text <|
      .required "description" .text <|
      .required "passed" .flag <|
      .required "completed" .flag <|
      .required "expectedOutput" .text <|
      .nullable "actualOutput" .text <|
      .nullable "expectedReturnValue" .text <|
      .nullable "actualReturnValue" .text <|
      .unwritten "exception" .text .none)
    (fun (name, description, passed, completed, expectedOutput, actualOutput, expectedReturnValue,
        actualReturnValue, exception, ()) =>
      { name, description, passed, completed, expectedOutput, actualOutput, expectedReturnValue
        actualReturnValue, exception })
    (fun t => (t.name, t.description, t.passed, t.completed, t.expectedOutput, t.actualOutput,
      t.expectedReturnValue, t.actualReturnValue, t.exception, ()))

def GradedResult.codec : Codec GradedResult :=
  .record "GradedResult"
    (.required "score" Score.codec <|
      .required "errors" (.list Diagnostic.codec) <|
      .required "testResults" (.list TestOutcome.codec) .none)
    (fun (score, errors, testResults, ()) => { score, errors, testResults })
    (fun g => (g.score, g.errors, g.testResults, ()))

end CodeGrading
