import CodeGrading.Proofs.Grading.Judgement

/-!
What a grade can look like. `graded_result_shape`: it reports what is wrong, and then scores zero
and shows no test, or it reports nothing and shows every declared test with its share of the score.
Of several things that are wrong only the first kind is reported.
-/

namespace CodeGrading

/-- The grade of a submission that has something wrong with it: it did not compile, or it is not
what the question asks for, or its tests did not compile, in this order. -/
structure Flawed (q : Question) (r : JobResult) (g : GradedResult) : Prop where
  nonempty : g.errors ≠ []
  score : g.score.value = 0
  untested : g.testResults = []
  uncompiled : r.compiled = false → g.errors = [q.uncompiled r.payload.compilation.errors]
  compared : r.compiled = true → q.comparison r.payload ≠ [] → g.errors = q.comparison r.payload
  testsFailed : r.compiled = true → q.comparison r.payload = [] →
    ∃ c, r.testsCompilation = some c ∧ c.success = false ∧
      g.errors = [.compilation .tests c.errors]

/-- The grade of a submission that has nothing wrong with it: the share of the declared tests that
passed. A share of no tests is zero. -/
structure Tested (q : Question) (r : JobResult) (g : GradedResult) : Prop where
  errors : g.errors = []
  compiled : r.compiled = true
  compared : q.comparison r.payload = []
  testsCompiled : ∀ c, r.testsCompilation = some c → c.success = true
  declared : g.testResults.map (·.expectation) = q.expectations
  reported : ∀ o ∈ g.testResults,
    o.Shows ((r.testResults.getD []).find? (·.name == o.name))
  passed : ∀ o ∈ g.testResults, o.passed = true ↔
    o.completed = true ∧ o.actualOutput = some o.expectedOutput ∧
      ∀ v, o.expectedReturnValue = some v → o.actualReturnValue = some v
  score : g.score.value = (g.testResults.countP (·.passed) : ℚ) / q.expectations.length
  noTests : q.expectations = [] → g.score.value = 0
  range : 0 ≤ g.score.value ∧ g.score.value ≤ 1

variable {q : Question} {r : JobResult}

theorem findings_eq_nil :
    q.findings r = [] ↔ r.compiled = true ∧ q.comparison r.payload = [] := by
  cases compiled : r.compiled <;> simp [Question.findings, compiled]

theorem findings_of_uncompiled (h : r.compiled = false) :
    q.findings r = [q.uncompiled r.payload.compilation.errors] := by
  simp [Question.findings, h]

theorem findings_of_compiled (h : r.compiled = true) : q.findings r = q.comparison r.payload := by
  simp [Question.findings, h]

theorem flawed_of_findings (found : q.findings r ≠ []) : Flawed q r (.failed (q.findings r)) where
  nonempty := found
  score := Score.value_zero
  untested := rfl
  uncompiled := findings_of_uncompiled
  compared h _ := findings_of_compiled h
  testsFailed compiled clean := absurd (findings_eq_nil.mpr ⟨compiled, clean⟩) found

theorem flawed_of_failed_tests (clean : q.findings r = []) {c : Compilation}
    (reported : r.testsCompilation = some c) (failed : c.success = false) :
    Flawed q r (.failed [.compilation .tests c.errors]) where
  nonempty := List.cons_ne_nil _ _
  score := Score.value_zero
  untested := rfl
  uncompiled h := by
    rw [(findings_eq_nil.mp clean).1] at h
    cases h
  compared _ h := absurd (findings_eq_nil.mp clean).2 h
  testsFailed _ _ := ⟨c, reported, failed, rfl⟩

theorem tested_of_clean (clean : q.findings r = [])
    (compiled : ∀ c, r.testsCompilation = some c → c.success = true) :
    Tested q r (scoreTests q.expectations (r.testResults.getD [])) where
  errors := rfl
  compiled := (findings_eq_nil.mp clean).1
  compared := (findings_eq_nil.mp clean).2
  testsCompiled := compiled
  declared := scoreTests_declared _ _
  reported o mem := by
    obtain ⟨e, _, rfl⟩ := List.mem_map.mp mem
    exact e.outcome_shows _
  passed o mem := by
    obtain ⟨e, _, rfl⟩ := List.mem_map.mp mem
    exact e.outcome_passed_iff_shown _
  score := scoreTests_value _ _
  noTests h := by
    rw [scoreTests_value, h]
    simp
  range := scoreTests_mem_unit _ _

theorem score_findings_shape (q : Question) (r : JobResult) :
    Flawed q r (score q.expectations r (q.findings r)) ∨
      Tested q r (score q.expectations r (q.findings r)) := by
  by_cases clean : q.findings r = []
  · by_cases failed : ∃ c, r.testsCompilation = some c ∧ c.success = false
    · obtain ⟨c, reported, failed⟩ := failed
      rw [clean, score_of_failed_tests _ reported failed]
      exact Or.inl (flawed_of_failed_tests clean reported failed)
    · have compiled : ∀ c, r.testsCompilation = some c → c.success = true := by
        intro c reported
        by_contra h
        exact failed ⟨c, reported, by simpa using h⟩
      rw [clean, score_of_clean _ compiled]
      exact Or.inr (tested_of_clean clean compiled)
  · rw [score_of_errors _ clean]
    exact Or.inl (flawed_of_findings clean)

/-- Two tests of one name and one of another. -/
def sums : ProgramQuestion where
  programClassName := "Main"
  tests := [⟨"sum", 1, "", "", "3"⟩, ⟨"sum", 2, "", "", "4"⟩, ⟨"product", 3, "", "", ""⟩]

/-- One run is reported of the name that two tests have, and none of the other name. -/
def sumsReply : JobResult where
  status := .completed
  diagnosticOutput := none
  testsCompilation := none
  testResults := some [⟨"sum", true, "3", none, none⟩]
  payload := .wholeProgram ⟨⟨true, []⟩⟩

end CodeGrading
