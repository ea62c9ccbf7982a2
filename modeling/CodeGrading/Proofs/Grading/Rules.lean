import CodeGrading.Proofs.Grading.Unrun
import CodeGrading.Proofs.Structure.OneMethod

/-!
Results that break the rules. What is documented of a result is more than what is checked of it:
tests that did not compile do not run, and of a method or a program nobody looks at that. Such a
result is `Overlooked` and has a grade like any other. Every other one that breaks a rule is
malformed (`malformed_iff_not_overlooked`).
-/

namespace CodeGrading

namespace JobResult

/-- A result that breaks one of the documented rules: something is reported of a step that could
not run, or the definitions of what compiled are missing. -/
inductive BreaksRule (r : JobResult) : Prop where
  | classDefinition (p : ClassPayload) (payload : r.payload = .wholeClass p)
      (ne : p.definition.isSome ≠ r.compiled)
  | methodDefinitions (p : MethodPayload) (payload : r.payload = .singleMethod p)
      (ne : p.definitions.isSome ≠ r.compiled)
  | testsCompilation (uncompiled : r.compiled = false) (reported : r.testsCompilation.isSome = true)
  | testResults (uncompiled : r.compiled = false) (reported : r.testResults.isSome = true)
  | failedTestsRan (c : Compilation) (reported : r.testsCompilation = some c)
      (failed : c.success = false) (ran : r.testResults.isSome = true)

/-- The tests of a method or a program ran though they did not compile. Nothing else is amiss. -/
structure Overlooked (r : JobResult) : Prop where
  notClass : r.payload.kind ≠ .wholeClass
  compiled : r.compiled = true
  methodDefinitions : ∀ p, r.payload = .singleMethod p → p.definitions.isSome = true
  testsFailed : ∃ c, r.testsCompilation = some c ∧ c.success = false
  ran : r.testResults.isSome = true

variable {r : JobResult}

theorem testsCompiled_of_failed {c : Compilation} (reported : r.testsCompilation = some c)
    (failed : c.success = false) : r.testsCompiled = false := by
  simp [testsCompiled, reported, failed]

theorem Overlooked.breaksRule (overlooked : r.Overlooked) : r.BreaksRule := by
  obtain ⟨c, reported, failed⟩ := overlooked.testsFailed
  exact .failedTestsRan c reported failed overlooked.ran

theorem Overlooked.available (overlooked : r.Overlooked) : r.Available where
  testsCompilation _ := overlooked.compiled
  classDefinition p payload := absurd (by rw [payload]; rfl) overlooked.notClass
  methodDefinitions p payload := by rw [overlooked.methodDefinitions p payload, overlooked.compiled]
  testResults _ := overlooked.compiled
  classTestResults p payload := absurd (by rw [payload]; rfl) overlooked.notClass

theorem Available.overlooked (available : r.Available) (broken : r.BreaksRule) : r.Overlooked := by
  cases broken with
  | classDefinition p payload ne => exact absurd (available.classDefinition p payload) ne
  | methodDefinitions p payload ne => exact absurd (available.methodDefinitions p payload) ne
  | testsCompilation uncompiled reported =>
    rw [available.testsCompilation reported] at uncompiled
    cases uncompiled
  | testResults uncompiled reported =>
    rw [available.testResults reported] at uncompiled
    cases uncompiled
  | failedTestsRan c reported failed ran =>
    have compiled := available.testResults ran
    refine ⟨?_, compiled, ?_, ⟨c, reported, failed⟩, ran⟩
    · intro kind
      -- of a class alone the tests must have been reported as compiled
      cases payload : r.payload with
      | singleMethod p | wholeProgram p => rw [payload] at kind; cases kind
      | wholeClass p =>
        have testsCompiled := available.classTestResults p payload ran
        rw [testsCompiled_of_failed reported failed] at testsCompiled
        cases testsCompiled
    · intro p payload
      rw [available.methodDefinitions p payload, compiled]

/-- Overlooked is all that breaks a rule and passes the check. -/
theorem overlooked_iff : r.Overlooked ↔ r.BreaksRule ∧ r.Available :=
  ⟨fun overlooked => ⟨overlooked.breaksRule, overlooked.available⟩,
    fun ⟨broken, available⟩ => available.overlooked broken⟩

end JobResult

variable {q : Question} {r : JobResult}

theorem judge_of_unavailable (completed : r.status = .completed) (unavailable : ¬ r.Available) :
    ∃ b, q.judge r = .error (.malformedResult (.breach r.payload.kind b)) := by
  cases breach : r.partsBreach? with
  | none => exact absurd (JobResult.partsBreach?_eq_none.mp breach) unavailable
  | some b =>
    refine ⟨b, ?_⟩
    simp [judge_of_completed completed, JobResult.breach?, completed, breach]

theorem judge_of_overlooked (completed : r.status = .completed) (kind : r.payload.kind = q.kind)
    (overlooked : r.Overlooked) : ∃ g, q.judge r = .ok g ∧ Flawed q r g := by
  have valid : r.validate = .ok () := by
    rw [JobResult.validate_eq_ok, JobResult.breach?, completed]
    exact JobResult.partsBreach?_eq_none.mpr overlooked.available
  have usable : ¬ Unusable q r := by
    refine not_unusable_iff.mpr ⟨valid, kind, ?_⟩
    intro _ _ missing
    simpa [missing] using overlooked.ran
  refine ⟨_, judge_of_usable completed usable, ?_⟩
  rcases score_findings_shape q r with flawed | tested
  · exact flawed
  · obtain ⟨c, reported, failed⟩ := overlooked.testsFailed
    rw [tested.testsCompiled c reported] at failed
    cases failed

/-- **Broken rules.** A completed result of the question's kind that breaks a rule is malformed,
unless it is `Overlooked`. Then it is graded, with a diagnostic and without the tests that ran. -/
theorem malformed_iff_not_overlooked {run : Job → Except RunnerError JobResult}
    {submission : String} (reply : run (q.job submission) = .ok r)
    (completed : r.status = .completed) (kind : r.payload.kind = q.kind) (broken : r.BreaksRule) :
    ((∃ b, (attempt run q submission).1 = .error (.malformedResult (.breach q.kind b))) ↔
        ¬ r.Overlooked) ∧
      (r.Overlooked → ∃ g, (attempt run q submission).1 = .ok g ∧ Flawed q r g) := by
  rw [attempt_of_reply reply]
  refine ⟨?_, judge_of_overlooked completed kind⟩
  constructor
  · rintro ⟨b, malformed⟩ overlooked
    obtain ⟨g, graded, _⟩ := judge_of_overlooked completed kind overlooked
    rw [graded] at malformed
    cases malformed
  · intro notOverlooked
    rw [← kind]
    apply judge_of_unavailable completed
    intro available
    exact notOverlooked (JobResult.overlooked_iff.mpr ⟨broken, available⟩)

/-- The tests did not compile, and still there is a run of one. -/
def ranUncompiled (p : Payload) : JobResult where
  status := .completed
  diagnosticOutput := none
  testsCompilation := some wrongCall
  testResults := some [⟨"empty", true, "[]", none, none⟩]
  payload := p

theorem ranUncompiled_breaksRule (p : Payload) : (ranUncompiled p).BreaksRule :=
  .failedTestsRan wrongCall rfl rfl rfl

/-- A class as it should be. Its tests must have compiled. -/
def overloadedRanUncompiled : JobResult :=
  ranUncompiled (.wholeClass ClassQuestion.overloadedPayload)

theorem overloadedRanUncompiled_malformed :
    overloadedRanUncompiled.BreaksRule ∧
      ∃ b, (attempt (fun _ => .ok overloadedRanUncompiled) (.wholeClass .overloaded)
        "class Shape {}").1 = .error (.malformedResult (.breach .wholeClass b)) := by
  have broken : overloadedRanUncompiled.BreaksRule := ranUncompiled_breaksRule _
  refine ⟨broken, (malformed_iff_not_overlooked rfl rfl rfl broken).1.mpr ?_⟩
  intro overlooked
  exact overlooked.notClass rfl

/-- A method as it should be. -/
def mergedRanUncompiled : JobResult :=
  ranUncompiled (.singleMethod ⟨⟨true, []⟩, some MethodQuestion.merged⟩)

/-- Of the method nobody looks at the compilation of its tests before they are graded. -/
theorem mergedRanUncompiled_graded :
    (Question.singleMethod .merging).validate = .ok () ∧
      mergedRanUncompiled.status = .completed ∧
      mergedRanUncompiled.payload.kind = .singleMethod ∧
      mergedRanUncompiled.BreaksRule ∧
      (attempt (fun _ => .ok mergedRanUncompiled) (.singleMethod .merging)
        "static List<Integer>[] merge() {}").1 =
          .ok
            { score := .zero
              errors := [.compilation .tests wrongCall.errors]
              testResults := [] } :=
  ⟨by decide, rfl, rfl, ranUncompiled_breaksRule _, by decide⟩

end CodeGrading
