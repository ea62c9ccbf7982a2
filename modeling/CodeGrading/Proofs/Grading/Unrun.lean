import CodeGrading.Proofs.Grading.Shape
import CodeGrading.Proofs.Structure.Verdict

/-!
Results without test results. A program that compiled owes them, so that even the failed compilation
of its tests is an error, where for the other kinds it is a diagnostic (`failed_tests_compilation`).
A result of another kind may lack them without a word: then every test is graded as failed and
nothing says why. `zero_explained_iff`: this is the only way to a zero that is not explained.
-/

namespace CodeGrading

/-- A completed result of the question's kind that keeps the availability rules. -/
structure Regular (q : Question) (r : JobResult) : Prop where
  completed : r.status = .completed
  kind : r.payload.kind = q.kind
  valid : r.validate = .ok ()

/-- A regular result of a submission that is as it should be. Its tests did not compile and so did
not run. -/
structure TestsUncompiled (q : Question) (r : JobResult) (c : Compilation) : Prop
    extends Regular q r where
  compiled : r.compiled = true
  agrees : q.comparison r.payload = []
  reported : r.testsCompilation = some c
  failed : c.success = false
  unrun : r.testResults = none

/-- A regular result of a class or a method that is as it should be, without a word of anything
wrong with the tests. -/
structure Unremarked (q : Question) (r : JobResult) : Prop extends Regular q r where
  notProgram : q.kind ≠ .wholeProgram
  compiled : r.compiled = true
  agrees : q.comparison r.payload = []
  testsNotFailed : ∀ c, r.testsCompilation = some c → c.success = true

variable {q : Question} {r : JobResult}

theorem Regular.judge_eq_score (regular : Regular q r) (notProgram : q.kind ≠ .wholeProgram) :
    q.judge r = .ok (score q.expectations r (q.findings r)) := by
  apply judge_of_usable regular.completed
  exact not_unusable_iff.mpr ⟨regular.valid, regular.kind, fun program => absurd program notProgram⟩

/-- A program that compiled owes the results of its tests. -/
theorem Regular.judge_of_unrun_program (regular : Regular q r) (program : q.kind = .wholeProgram)
    (compiled : r.compiled = true) (unrun : r.testResults = none) :
    q.judge r = .error (.malformedResult .noTestResults) := by
  rw [judge_of_completed regular.completed, JobResult.validate_eq_ok.mp regular.valid]
  obtain ⟨q, p, rfl, payload⟩ | ⟨q, p, rfl, payload⟩ | ⟨q, p, rfl, payload⟩ :=
    of_same_kind regular.kind
  · cases program
  · cases program
  · have success : p.compilation.success = true := by
      simpa [JobResult.compiled, payload, Payload.compilation] using compiled
    simp [Question.judgePayload, payload, ProgramQuestion.judge, success, unrun]

/-! ## Tests that did not compile -/

/-- **The failed compilation of tests.** For a class or a method it is handed on as it was reported,
and nothing else is said. A program without test results is an error whatever is said of its
tests. -/
theorem failed_tests_compilation {run : Job → Except RunnerError JobResult} {submission : String}
    {c : Compilation} (reply : run (q.job submission) = .ok r) (tests : TestsUncompiled q r c) :
    (q.kind ≠ .wholeProgram →
      (attempt run q submission).1 =
        .ok { score := .zero, errors := [.compilation .tests c.errors], testResults := [] }) ∧
    (q.kind = .wholeProgram →
      (attempt run q submission).1 = .error (.malformedResult .noTestResults)) := by
  rw [attempt_of_reply reply]
  constructor
  · intro notProgram
    have clean : q.findings r = [] := findings_eq_nil.mpr ⟨tests.compiled, tests.agrees⟩
    rw [tests.judge_eq_score notProgram, clean,
      score_of_failed_tests _ tests.reported tests.failed]
    rfl
  · intro program
    exact tests.judge_of_unrun_program program tests.compiled tests.unrun

/-- A class as it should be, with what is said of the compilation of its tests. -/
def untested (tests : Compilation) : JobResult where
  status := .completed
  diagnosticOutput := none
  testsCompilation := some tests
  testResults := none
  payload := .wholeClass ClassQuestion.overloadedPayload

/-- What is said of tests that call a method by a wrong name. -/
def wrongCall : Compilation :=
  ⟨false, [⟨"cannot find symbol", "Tests.java:4: cannot find symbol"⟩]⟩

theorem untested_wrongCall : TestsUncompiled (.wholeClass .overloaded) (untested wrongCall)
    wrongCall where
  completed := rfl
  kind := rfl
  valid := rfl
  compiled := rfl
  agrees := by decide
  reported := rfl
  failed := rfl
  unrun := rfl

theorem overloaded_wrongCall_passed_through :
    TestsUncompiled (.wholeClass .overloaded) (untested wrongCall) wrongCall ∧
      (attempt (fun _ => .ok (untested wrongCall)) (.wholeClass .overloaded) "class Shape {}").1 =
        .ok
          { score := .zero
            errors := [.compilation .tests wrongCall.errors]
            testResults := [] } :=
  ⟨untested_wrongCall, (failed_tests_compilation rfl untested_wrongCall).1 (by decide)⟩

/-- A program that compiled, with what is said of the compilation of its tests. -/
def untestedProgram (tests : Compilation) : JobResult where
  status := .completed
  diagnosticOutput := none
  testsCompilation := some tests
  testResults := none
  payload := .wholeProgram ⟨⟨true, []⟩⟩

/-- Of a program the failed compilation is not handed on. -/
theorem sums_wrongCall_not_graded :
    TestsUncompiled (.wholeProgram sums) (untestedProgram wrongCall) wrongCall ∧
      ¬ ∃ g, (attempt (fun _ => .ok (untestedProgram wrongCall)) (.wholeProgram sums) "").1 =
        .ok g := by
  refine ⟨⟨⟨rfl, rfl, rfl⟩, rfl, rfl, rfl, rfl, rfl⟩, ?_⟩
  rintro ⟨g, graded⟩
  cases graded

/-! ## Nothing said of the tests -/

/-- Every declared test is shown as one that did not complete. -/
theorem Unremarked.judge (unremarked : Unremarked q r) (unrun : r.testResults = none) :
    ∃ g, q.judge r = .ok g ∧ g.errors = [] ∧ g.score.value = 0 ∧
      g.testResults = q.expectations.map fun e => e.outcome none := by
  have clean : q.findings r = [] := findings_eq_nil.mpr ⟨unremarked.compiled, unremarked.agrees⟩
  refine ⟨scoreTests q.expectations [], ?_, rfl, ?_, rfl⟩
  · rw [unremarked.judge_eq_score unremarked.notProgram, clean,
      score_of_clean _ unremarked.testsNotFailed, unrun]
    rfl
  · rw [scoreTests_value]
    have none_passed : (scoreTests q.expectations []).testResults.countP (·.passed) = 0 := by
      apply List.countP_eq_zero.mpr
      intro o mem
      obtain ⟨e, _, rfl⟩ := List.mem_map.mp mem
      simp [Expectation.outcome, Expectation.resultIn]
    simp [none_passed]

theorem unremarked_of_tested {g : GradedResult} (completed : r.status = .completed)
    (usable : ¬ Unusable q r) (unrun : r.testResults = none) (tested : Tested q r g) :
    Unremarked q r := by
  obtain ⟨valid, kind, ran⟩ := not_unusable_iff.mp usable
  exact
    { completed := completed
      kind := kind
      valid := valid
      notProgram := fun program => ran program tested.compiled unrun
      compiled := tested.compiled
      agrees := tested.compared
      testsNotFailed := tested.testsCompiled }

/-- **Explained zeros.** Where the reply holds no test results, the attempt ends in an error or in
a grade that says what is wrong and shows no test, except when the reply is `Unremarked`. -/
theorem zero_explained_iff {run : Job → Except RunnerError JobResult} {submission : String}
    (unrun : ∀ r, run (q.job submission) = .ok r → r.testResults = none) :
    ((∃ e, (attempt run q submission).1 = .error e) ∨
        ∃ g, (attempt run q submission).1 = .ok g ∧ g.errors ≠ [] ∧ g.testResults = []) ↔
      ∀ r, run (q.job submission) = .ok r → ¬ Unremarked q r := by
  rw [attempt_eq]
  cases reply : run (q.job submission) with
  | error e => simp [Question.judgeReply]
  | ok r =>
    have unrun := unrun r reply
    simp only [Question.judgeReply, Except.ok.injEq, forall_eq']
    constructor
    · intro explained unremarked
      obtain ⟨g, graded, silent, _⟩ := unremarked.judge unrun
      rw [graded] at explained
      rcases explained with ⟨e, failed⟩ | ⟨h, same, errors, _⟩
      · cases failed
      · obtain rfl := Except.ok.inj same
        exact errors silent
    · intro remarked
      cases judged : q.judge r with
      | error e => exact Or.inl ⟨e, rfl⟩
      | ok g =>
        obtain ⟨completed, usable, rfl⟩ := judge_eq_ok.mp judged
        rcases score_findings_shape q r with flawed | tested
        · exact Or.inr ⟨_, rfl, flawed.nonempty, flawed.untested⟩
        · exact absurd (unremarked_of_tested completed usable unrun tested) remarked

theorem overloaded_wrongCall_explained :
    (∀ r, (.ok (untested wrongCall) : Except RunnerError JobResult) = .ok r →
        r.testResults = none) ∧
      ((∃ e, (attempt (fun _ => .ok (untested wrongCall)) (.wholeClass .overloaded) "").1 =
          .error e) ∨
        ∃ g, (attempt (fun _ => .ok (untested wrongCall)) (.wholeClass .overloaded) "").1 = .ok g ∧
          g.errors ≠ [] ∧ g.testResults = []) := by
  have unrun : ∀ r, (.ok (untested wrongCall) : Except RunnerError JobResult) = .ok r →
      r.testResults = none := by
    rintro r ⟨⟩
    rfl
  refine ⟨unrun, (zero_explained_iff unrun).mpr ?_⟩
  rintro r ⟨⟩ unremarked
  cases unremarked.testsNotFailed wrongCall rfl

/-- The tests of a class compiled, and nothing is said of their runs. -/
theorem overloaded_zero_unexplained :
    (Question.wholeClass .overloaded).validate = .ok () ∧
      (untested ⟨true, []⟩).testResults = none ∧
      ∃ g, (attempt (fun _ => .ok (untested ⟨true, []⟩)) (.wholeClass .overloaded) "").1 = .ok g ∧
        g.errors = [] ∧ g.score.value = 0 ∧ g.testResults.map (·.passed) = [false, false] := by
  refine ⟨by decide, rfl, ?_⟩
  have unremarked : Unremarked (.wholeClass .overloaded) (untested ⟨true, []⟩) :=
    ⟨⟨rfl, rfl, rfl⟩, by decide, rfl, by decide, fun c reported => by cases reported; rfl⟩
  obtain ⟨g, graded, silent, zero, shown⟩ := unremarked.judge rfl
  exact ⟨g, graded, silent, zero, by rw [shown]; rfl⟩

end CodeGrading
