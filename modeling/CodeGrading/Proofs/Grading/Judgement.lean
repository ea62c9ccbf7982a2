import CodeGrading.Grading
import CodeGrading.Proofs.Availability
import CodeGrading.Proofs.Score

/-!
What judging a job result does, for all three kinds at once. A result that is not completed, or
that is `Unusable`, has no grade (`judge_of_not_completed`, `judge_of_unusable`). Every other one
has the score of the question's tests under the `findings` (`judge_of_usable`). `attempt_eq_ok`
says the same of a whole attempt.
-/

namespace CodeGrading

/-- Why a completed result cannot be graded. -/
inductive Unusable (q : Question) (r : JobResult) : Prop where
  | rejected (e : RunnerError) (invalid : r.validate = .error e)
  | otherKind (ne : r.payload.kind ≠ q.kind)
  | testsMissing (program : r.payload.kind = .wholeProgram) (compiled : r.compiled = true)
      (missing : r.testResults = none)

namespace Unusable

variable {q : Question} {r : JobResult}

theorem kind_eq_of_usable (usable : ¬ Unusable q r) : r.payload.kind = q.kind := by
  by_contra ne
  exact usable (.otherKind ne)

theorem breach?_eq_none_of_usable (usable : ¬ Unusable q r) : r.breach? = none := by
  rw [← Option.not_isSome_iff_eq_none, ← JobResult.exists_validate_eq_error]
  rintro ⟨e, invalid⟩
  exact usable (.rejected e invalid)

theorem available_of_usable (completed : r.status = .completed) (usable : ¬ Unusable q r) :
    r.Available := by
  have valid := breach?_eq_none_of_usable usable
  rw [JobResult.breach?, completed] at valid
  exact JobResult.partsBreach?_eq_none.mp valid

end Unusable

/-- What can be graded keeps the rules and is of the question's kind, and a program that compiled
has results of its tests. -/
theorem not_unusable_iff {q : Question} {r : JobResult} :
    ¬ Unusable q r ↔ r.validate = .ok () ∧ r.payload.kind = q.kind ∧
      (q.kind = .wholeProgram → r.compiled = true → r.testResults ≠ none) := by
  constructor
  · intro usable
    have kind := Unusable.kind_eq_of_usable usable
    refine ⟨JobResult.validate_eq_ok.mpr (Unusable.breach?_eq_none_of_usable usable), kind, ?_⟩
    intro program compiled missing
    exact usable (.testsMissing (kind.trans program) compiled missing)
  · rintro ⟨valid, kind, ran⟩ unusable
    cases unusable with
    | rejected e invalid => rw [valid] at invalid; cases invalid
    | otherKind ne => exact ne kind
    | testsMissing program compiled missing =>
      exact ran (kind.symm.trans program) compiled missing

namespace Question

/-- What comparing a compiled submission with the question reports. Nothing is required of the
structure of a program. -/
def comparison : Question → Payload → List Diagnostic
  | .wholeClass q, .wholeClass p => (q.compare p).map .structural
  | .singleMethod q, .singleMethod p => q.compare p
  | _, _ => []

/-- The diagnostic for a submission that did not compile. -/
def uncompiled (errors : List CompileError) : Question → Diagnostic
  | .wholeClass q => .structural (.missingRequiredClass q.className)
  | .singleMethod _ => .compilation (.submission .singleMethod) errors
  | .wholeProgram _ => .compilation (.submission .wholeProgram) errors

/-- What is found before the tests are looked at. -/
def findings (q : Question) (r : JobResult) : List Diagnostic :=
  if r.compiled then q.comparison r.payload else [q.uncompiled r.payload.compilation.errors]

end Question

theorem ClassQuestion.compare_of_uncompiled {q : ClassQuestion} {p : ClassPayload}
    (h : p.compilation.success = false) : q.compare p = [.missingRequiredClass q.className] := by
  cases definition : p.definition <;> simp [compare, h, definition]

theorem MethodQuestion.compare_of_uncompiled {q : MethodQuestion} {p : MethodPayload}
    (h : p.compilation.success = false) :
    q.compare p = [.compilation (.submission .singleMethod) p.compilation.errors] := by
  simp [compare, h]

variable {q : Question} {r : JobResult}

theorem judge_of_not_completed (h : r.status ≠ .completed) :
    q.judge r = .error (.notCompleted r.status r.diagnosticOutput) := by
  cases status : r.status with
  | completed => exact absurd status h
  | timeout | error => simp [Question.judge, status]

theorem judge_of_completed (h : r.status = .completed) :
    q.judge r = match r.breach? with
      | some b => .error (.malformedResult (.breach r.payload.kind b))
      | none => q.judgePayload r := by
  cases breach : r.breach? <;> simp [Question.judge, h, breach]

theorem judgePayload_of_otherKind (ne : r.payload.kind ≠ q.kind) :
    q.judgePayload r = .error (.malformedResult (.wrongKind q.kind r.payload.kind)) := by
  cases q <;> cases payload : r.payload <;>
    simp_all [Question.judgePayload, Question.kind, Payload.kind]

theorem judgePayload_of_testsMissing (program : r.payload.kind = .wholeProgram)
    (compiled : r.compiled = true) (missing : r.testResults = none) :
    ∃ fault, q.judgePayload r = .error (.malformedResult fault) := by
  by_cases kind : r.payload.kind = q.kind
  · refine ⟨.noTestResults, ?_⟩
    cases q <;> cases payload : r.payload <;>
      simp_all [Question.judgePayload, ProgramQuestion.judge, Question.kind, Payload.kind,
        JobResult.compiled, Payload.compilation]
  · exact ⟨_, judgePayload_of_otherKind kind⟩

theorem judge_of_unusable (completed : r.status = .completed) (unusable : Unusable q r) :
    ∃ fault, q.judge r = .error (.malformedResult fault) := by
  rw [judge_of_completed completed]
  cases breach : r.breach? with
  | some b => exact ⟨_, rfl⟩
  | none =>
    cases unusable with
    | rejected e invalid => simp [JobResult.validate, breach] at invalid
    | otherKind ne => exact ⟨_, judgePayload_of_otherKind ne⟩
    | testsMissing program compiled missing =>
      exact judgePayload_of_testsMissing program compiled missing

theorem ClassQuestion.judge_eq_score {q : ClassQuestion} {p : ClassPayload}
    (payload : r.payload = .wholeClass p) :
    q.judge r p = score (Question.wholeClass q).expectations r
      ((Question.wholeClass q).findings r) := by
  cases compiled : p.compilation.success <;>
    simp [judge, Question.expectations, Question.findings, Question.comparison, Question.uncompiled,
      JobResult.compiled, payload, Payload.compilation, compiled, compare_of_uncompiled]

theorem MethodQuestion.judge_eq_score {q : MethodQuestion} {p : MethodPayload}
    (payload : r.payload = .singleMethod p) :
    q.judge r p = score (Question.singleMethod q).expectations r
      ((Question.singleMethod q).findings r) := by
  cases compiled : p.compilation.success <;>
    simp [judge, Question.expectations, Question.findings, Question.comparison, Question.uncompiled,
      JobResult.compiled, payload, Payload.compilation, compiled, compare_of_uncompiled]

/-- A program that did not compile is judged by its one diagnostic without the scorer; the scorer
would say the same. -/
theorem ProgramQuestion.judge_eq_score {q : ProgramQuestion} {p : ProgramPayload}
    (payload : r.payload = .wholeProgram p) (ran : r.compiled = true → r.testResults ≠ none) :
    q.judge r p = .ok (score (Question.wholeProgram q).expectations r
      ((Question.wholeProgram q).findings r)) := by
  have same : r.compiled = p.compilation.success := by
    simp [JobResult.compiled, payload, Payload.compilation]
  cases compiled : p.compilation.success with
  | false =>
    simp [judge, Question.findings, Question.uncompiled, same, payload, Payload.compilation,
      compiled, score_of_errors]
  | true =>
    have ran := ran (same.trans compiled)
    simp [judge, Question.expectations, Question.findings, Question.comparison, same, compiled, ran]

/-- A question and a payload of one kind are both of a class, of a method or of a program. -/
theorem of_same_kind {p : Payload} (kind : p.kind = q.kind) :
    (∃ cq cp, q = .wholeClass cq ∧ p = .wholeClass cp) ∨
      (∃ mq mp, q = .singleMethod mq ∧ p = .singleMethod mp) ∨
      ∃ pq pp, q = .wholeProgram pq ∧ p = .wholeProgram pp := by
  cases q <;> cases p <;> simp_all [Payload.kind, Question.kind]

theorem judgePayload_of_usable (kind : r.payload.kind = q.kind)
    (ran : r.payload.kind = .wholeProgram → r.compiled = true → r.testResults ≠ none) :
    q.judgePayload r = .ok (score q.expectations r (q.findings r)) := by
  obtain ⟨q, p, rfl, payload⟩ | ⟨q, p, rfl, payload⟩ | ⟨q, p, rfl, payload⟩ := of_same_kind kind
  · simp [Question.judgePayload, payload, ClassQuestion.judge_eq_score payload]
  · simp [Question.judgePayload, payload, MethodQuestion.judge_eq_score payload]
  · have ran := ran (by simp [payload, Payload.kind])
    simp [Question.judgePayload, payload, ProgramQuestion.judge_eq_score payload ran]

theorem judge_of_usable (completed : r.status = .completed) (usable : ¬ Unusable q r) :
    q.judge r = .ok (score q.expectations r (q.findings r)) := by
  rw [judge_of_completed completed, Unusable.breach?_eq_none_of_usable usable]
  exact judgePayload_of_usable (Unusable.kind_eq_of_usable usable) fun program compiled missing =>
    usable (.testsMissing program compiled missing)

theorem judge_eq_ok {g : GradedResult} :
    q.judge r = .ok g ↔ r.status = .completed ∧ ¬ Unusable q r ∧
      g = score q.expectations r (q.findings r) := by
  by_cases completed : r.status = .completed
  · by_cases unusable : Unusable q r
    · obtain ⟨fault, h⟩ := judge_of_unusable completed unusable
      simp [h, unusable]
    · simp [judge_of_usable completed unusable, completed, unusable, eq_comm]
  · simp [judge_of_not_completed completed, completed]

/-! ## A whole attempt -/

/-- A runner that notes every job it is given. -/
def recording (run : Job → Except RunnerError JobResult) (j : Job) :
    StateM (List Job) (Except RunnerError JobResult) := do
  modify (· ++ [j])
  return run j

/-- A grading attempt: what comes of it, and the jobs that the runner was given. -/
def attempt (run : Job → Except RunnerError JobResult) (q : Question) (submission : String) :
    Except GradingError GradedResult × List Job :=
  (grade (recording run) q submission).run []

variable {run : Job → Except RunnerError JobResult} {submission : String}

theorem attempt_eq : attempt run q submission =
    (q.judgeReply (run (q.job submission)), [q.job submission]) := rfl

theorem attempt_of_reply (reply : run (q.job submission) = .ok r) :
    (attempt run q submission).1 = q.judge r := by
  rw [attempt_eq, reply]
  rfl

/-- Everything that a grade says comes from the reply to the one job. -/
theorem attempt_eq_ok {g : GradedResult} :
    (attempt run q submission).1 = .ok g ↔ ∃ r, run (q.job submission) = .ok r ∧
      r.status = .completed ∧ ¬ Unusable q r ∧ g = score q.expectations r (q.findings r) := by
  rw [attempt_eq]
  cases reply : run (q.job submission) with
  | error e => simp [Question.judgeReply]
  | ok r => simp [Question.judgeReply, judge_eq_ok]

end CodeGrading
