import CodeGrading.Proofs.Grading.Judgement

/-!
When grading fails. `grading_fails_exactly`: an attempt sends one job, and whether it ends in a
grade or in which kind of error depends on the `Outline` of the reply alone, in the order in which
`Settles` lists the cases.
-/

namespace CodeGrading

/-- The job for a submission: of the question's kind, made as that kind makes its jobs. -/
inductive BuiltFor (submission : String) : Question → Job → Prop where
  | wholeClass (q : ClassQuestion) :
      BuiltFor submission (.wholeClass q) (.wholeClass (q.job submission))
  | singleMethod (q : MethodQuestion) :
      BuiltFor submission (.singleMethod q) (.singleMethod (q.job submission))
  | wholeProgram (q : ProgramQuestion) :
      BuiltFor submission (.wholeProgram q) (.wholeProgram (q.job submission))

/-- What comes of an attempt, by the reply of the runner. -/
inductive Settles (q : Question) :
    Except RunnerError JobResult → Except GradingError GradedResult → Prop where
  | runner (e : RunnerError) : Settles q (.error e) (.error (.runner e))
  | notCompleted (r : JobResult) (ended : r.status ≠ .completed) :
      Settles q (.ok r) (.error (.notCompleted r.status r.diagnosticOutput))
  | malformed (r : JobResult) (fault : ResultFault) (completed : r.status = .completed)
      (unusable : Unusable q r) : Settles q (.ok r) (.error (.malformedResult fault))
  | graded (r : JobResult) (g : GradedResult) (completed : r.status = .completed)
      (usable : ¬ Unusable q r) : Settles q (.ok r) (.ok g)

/-- What decides whether a job result can be graded: its flags and which of its parts are there. -/
structure Outline where
  status : Status
  kind : Kind
  compiled : Bool
  /-- Whether the tests compiled, where that is reported. -/
  testsCompiled : Option Bool
  hasDefinition : Bool
  hasTestResults : Bool
  deriving DecidableEq, Repr

def Payload.hasDefinition : Payload → Bool
  | .wholeClass p => p.definition.isSome
  | .singleMethod p => p.definitions.isSome
  | .wholeProgram _ => false

def JobResult.outline (r : JobResult) : Outline where
  status := r.status
  kind := r.payload.kind
  compiled := r.compiled
  testsCompiled := r.testsCompilation.map (·.success)
  hasDefinition := r.payload.hasDefinition
  hasTestResults := r.testResults.isSome

/-- How an attempt ends. -/
inductive Ending where
  | graded
  | runnerFailed
  | notCompleted
  | malformedResult
  | invalidQuestion
  | undecodable
  deriving DecidableEq, Repr

def ending : Except GradingError GradedResult → Ending
  | .ok _ => .graded
  | .error (.runner _) => .runnerFailed
  | .error (.notCompleted _ _) => .notCompleted
  | .error (.malformedResult _) => .malformedResult
  | .error (.invalidQuestion _) => .invalidQuestion
  | .error (.undecodable _) => .undecodable

variable {q : Question} {submission : String} {run : Job → Except RunnerError JobResult}

theorem builtFor_iff {j : Job} : BuiltFor submission q j ↔ j = q.job submission := by
  constructor
  · rintro ⟨⟩ <;> rfl
  · rintro rfl
    cases q <;> constructor

theorem settles_judgeReply (reply : Except RunnerError JobResult) :
    Settles q reply (q.judgeReply reply) := by
  cases reply with
  | error e => exact .runner e
  | ok r =>
    simp only [Question.judgeReply]
    by_cases completed : r.status = .completed
    · by_cases unusable : Unusable q r
      · obtain ⟨fault, h⟩ := judge_of_unusable completed unusable
        rw [h]
        exact .malformed r fault completed unusable
      · rw [judge_of_usable completed unusable]
        exact .graded r _ completed unusable
    · rw [judge_of_not_completed completed]
      exact .notCompleted r completed

/-! ## The outline decides -/

theorem JobResult.partsBreach?_eq_of_outline {r s : JobResult} (same : r.outline = s.outline) :
    r.partsBreach? = s.partsBreach? := by
  simp only [outline, Outline.mk.injEq] at same
  obtain ⟨-, kind, compiled, tests, definition, results⟩ := same
  have reported : r.testsCompilation.isSome = s.testsCompilation.isSome := by
    simpa using congrArg Option.isSome tests
  have testsCompiled : r.testsCompiled = s.testsCompiled := by
    simpa [JobResult.testsCompiled, Option.any_map] using congrArg (Option.any id) tests
  -- the other rules are on the definitions, which payloads of one kind have both or neither
  simp only [partsBreach?, compiled, reported, testsCompiled, results]
  cases left : r.payload <;> cases right : s.payload <;>
    simp_all [Payload.kind, Payload.hasDefinition]

theorem unusable_of_outline {r s : JobResult} (same : r.outline = s.outline)
    (unusable : Unusable q r) : Unusable q s := by
  have status : r.status = s.status := congrArg Outline.status same
  have kind : r.payload.kind = s.payload.kind := congrArg Outline.kind same
  have compiled : r.compiled = s.compiled := congrArg Outline.compiled same
  have results : r.testResults.isSome = s.testResults.isSome := congrArg Outline.hasTestResults same
  cases unusable with
  | rejected e invalid =>
    have breach : s.breach? = r.breach? := by
      simp only [JobResult.breach?, status, JobResult.partsBreach?_eq_of_outline same]
    have found := JobResult.exists_validate_eq_error.mp ⟨e, invalid⟩
    rw [← breach] at found
    obtain ⟨e, invalid⟩ := JobResult.exists_validate_eq_error.mpr found
    exact .rejected e invalid
  | otherKind ne => exact .otherKind (kind ▸ ne)
  | testsMissing program hc missing =>
    refine .testsMissing (kind ▸ program) (compiled ▸ hc) ?_
    rw [missing] at results
    simpa using results.symm

theorem ending_eq_of_outline {r s : JobResult} (same : r.outline = s.outline) :
    ending (q.judge r) = ending (q.judge s) := by
  have status : r.status = s.status := congrArg Outline.status same
  by_cases completed : r.status = .completed
  · by_cases unusable : Unusable q r
    · obtain ⟨_, hr⟩ := judge_of_unusable completed unusable
      obtain ⟨_, hs⟩ := judge_of_unusable (status ▸ completed) (unusable_of_outline same unusable)
      rw [hr, hs]
      rfl
    · have usable : ¬ Unusable q s := fun h => unusable (unusable_of_outline same.symm h)
      rw [judge_of_usable completed unusable, judge_of_usable (status ▸ completed) usable]
      rfl
  · rw [judge_of_not_completed completed, judge_of_not_completed (status ▸ completed)]
    rfl

/-- **When grading fails.** The runner is given one job, of the question's kind. Its reply settles
the attempt as `Settles` says, and replies of one outline end it in the same way, whatever was
submitted, compiled or said. -/
theorem grading_fails_exactly (run : Job → Except RunnerError JobResult) (q : Question)
    (submission : String) :
    ∃ j, BuiltFor submission q j ∧ (attempt run q submission).2 = [j] ∧
      Settles q (run j) (attempt run q submission).1 ∧
      ∀ run' submission' j' r r', BuiltFor submission' q j' → run j = .ok r → run' j' = .ok r' →
        r.outline = r'.outline →
        ending (attempt run q submission).1 = ending (attempt run' q submission').1 := by
  refine ⟨q.job submission, builtFor_iff.mpr rfl, rfl, settles_judgeReply _, ?_⟩
  intro run' submission' j' r r' built reply reply' same
  rw [builtFor_iff.mp built] at reply'
  simp only [attempt_eq, reply, reply', Question.judgeReply]
  exact ending_eq_of_outline same

/-- The result of a program that was stopped. Its parts contradict each other: the tests compiled
and ran, the program did not compile. -/
def overdue (said : Option String) (results : List TestResult) : JobResult where
  status := .timeout
  diagnosticOutput := said
  testsCompilation := some ⟨true, []⟩
  testResults := some results
  payload := .wholeProgram ⟨⟨false, []⟩⟩

def doubling : MethodQuestion where
  methodName := "twice"
  parameterTypes := ["int"]
  returnType := "int"
  isPublic := true
  isStatic := true
  importedClasses := []
  tests := []

/-- The status is reported first, before the kind and the parts are looked at. -/
theorem overdue_alike :
    (attempt (fun _ => .ok (overdue (some "60 s") [])) (.singleMethod doubling) "").1 =
        .error (.notCompleted .timeout (some "60 s")) ∧
      ending (attempt (fun _ => .ok (overdue (some "60 s") [])) (.singleMethod doubling) "").1 =
        ending (attempt (fun _ => .ok (overdue none [⟨"one", true, "2", none, none⟩]))
          (.singleMethod doubling) "return 2 * n;").1 := by
  obtain ⟨_, _, _, _, alike⟩ := grading_fails_exactly (fun _ => .ok (overdue (some "60 s") []))
    (.singleMethod doubling) ""
  refine ⟨rfl, ?_⟩
  exact alike _ _ _ _ _ (.singleMethod doubling) rfl rfl rfl

end CodeGrading
