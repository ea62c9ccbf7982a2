import CodeGrading.Proofs.Grading.Shape
import CodeGrading.Proofs.Structure.Verdict
import Mathlib.Data.Nat.Find

/-!
The run that a test is graded on. Jobs carry their tests in the order of declaration, but outcomes
find their runs by name: `graded_on_first_namesake` says that where the runner reports every test of
the job in order, a test is graded on the run of the first test of its name.
-/

namespace CodeGrading

/-- Of a list of names, the one at `j` is the first that is the same as the one at `i`. -/
structure FirstNamesake (names : List String) (i j : Nat) : Prop where
  le : j ≤ i
  same : names[j]? = names[i]?
  first : ∀ k < j, names[k]? ≠ names[i]?

/-- Everything compiled as it should, and one run is reported for each of the names, in their
order. A class has to say that its tests compiled. -/
structure RanInOrder (q : Question) (names : List String) (r : JobResult)
    (results : List TestResult) : Prop where
  completed : r.status = .completed
  kind : r.payload.kind = q.kind
  compiled : r.compiled = true
  testsCompiled : r.testsCompiled = true ∨ r.testsCompilation = none ∧ q.kind ≠ .wholeClass
  agrees : q.comparison r.payload = []
  reported : r.testResults = some results
  named : results.map (·.name) = names

theorem exists_firstNamesake (names : List String) (i : Nat) : ∃ j, FirstNamesake names i j := by
  have exists_same : ∃ j, names[j]? = names[i]? := ⟨i, rfl⟩
  exact ⟨Nat.find exists_same, Nat.find_min' exists_same rfl, Nat.find_spec exists_same,
    fun k before => Nat.find_min exists_same before⟩

theorem Question.testNames_job (q : Question) (submission : String) :
    (q.job submission).testNames = q.expectations.map (·.name) := by
  cases q <;>
    simp [Question.job, Job.testNames, ClassQuestion.job, MethodQuestion.job, ProgramQuestion.job,
      Question.expectations, ClassQuestion.Test.expectation, MethodQuestion.Test.expectation,
      ProgramQuestion.Test.expectation]

variable {q : Question} {names : List String} {r : JobResult} {results : List TestResult}

namespace RanInOrder

theorem tests_not_failed (ran : RanInOrder q names r results) (c : Compilation)
    (reported : r.testsCompilation = some c) : c.success = true := by
  rcases ran.testsCompiled with success | ⟨missing, _⟩
  · simpa [JobResult.testsCompiled, reported] using success
  · rw [missing] at reported
    cases reported

/-- A comparison that finds nothing wrong has seen the definitions of what compiled. -/
theorem available (ran : RanInOrder q names r results) : r.Available where
  testsCompilation _ := ran.compiled
  testResults _ := ran.compiled
  classDefinition p payload := by
    have kind := ran.kind
    have agrees := ran.agrees
    cases q with
    | singleMethod q | wholeProgram q => simp [payload, Payload.kind, Question.kind] at kind
    | wholeClass q =>
      have accepted : q.compare p = [] := by simpa [payload, Question.comparison] using agrees
      obtain ⟨_, d, definition, _⟩ := ClassQuestion.compare_eq_nil.mp accepted
      simp [definition, ran.compiled]
  methodDefinitions p payload := by
    have kind := ran.kind
    have agrees := ran.agrees
    cases q with
    | wholeClass q | wholeProgram q => simp [payload, Payload.kind, Question.kind] at kind
    | singleMethod q =>
      have accepted : q.compare p = [] := by simpa [payload, Question.comparison] using agrees
      obtain ⟨_, ds, _, definitions, _⟩ := MethodQuestion.compare_eq_nil.mp accepted
      simp [definitions, ran.compiled]
  classTestResults p payload _ := by
    have kind : q.kind = .wholeClass := by rw [← ran.kind, payload]; rfl
    exact ran.testsCompiled.resolve_right fun missing => missing.2 kind

theorem judge (ran : RanInOrder q names r results) :
    q.judge r = .ok (scoreTests q.expectations results) := by
  have valid : r.validate = .ok () := by
    rw [JobResult.validate_eq_ok, JobResult.breach?, ran.completed]
    exact JobResult.partsBreach?_eq_none.mpr ran.available
  have usable : ¬ Unusable q r := by
    refine not_unusable_iff.mpr ⟨valid, ran.kind, ?_⟩
    intro _ _ missing
    rw [ran.reported] at missing
    cases missing
  have clean : q.findings r = [] := findings_eq_nil.mpr ⟨ran.compiled, ran.agrees⟩
  rw [judge_of_usable ran.completed usable, clean, score_of_clean _ ran.tests_not_failed,
    ran.reported]
  rfl

end RanInOrder

/-- The run that is found for a name is the one of the first test of the name. -/
theorem find?_eq_getElem?_of_firstNamesake {i j : Nat} {name : String}
    (named : results.map (·.name) = names) (at_i : names[i]? = some name)
    (h : FirstNamesake names i j) :
    ∃ t, results[j]? = some t ∧ results.find? (·.name == name) = some t := by
  have at_j : (results.map (·.name))[j]? = some name := by rw [named, h.same, at_i]
  rw [List.getElem?_map, Option.map_eq_some_iff] at at_j
  obtain ⟨t, found, t_name⟩ := at_j
  refine ⟨t, found, List.find?_eq_some_iff_getElem.mpr ⟨by simpa using t_name, j, ?_⟩⟩
  obtain ⟨bound, rfl⟩ := List.getElem?_eq_some_iff.mp found
  refine ⟨bound, rfl, ?_⟩
  intro k before
  have other := h.first k before
  have in_range : k < results.length := Nat.lt_trans before bound
  rw [at_i, ← named, List.getElem?_map, List.getElem?_eq_getElem in_range] at other
  simpa using other

/-- **Outcomes and runs.** Where the runner reports a run for every test of its job, in order, there
is a grade, and each of its outcomes shows the run of the first test that has its name. The test
passed exactly if that run is what it expects. -/
theorem graded_on_first_namesake {run : Job → Except RunnerError JobResult} {submission : String}
    (reply : run (q.job submission) = .ok r)
    (ran : RanInOrder q (q.job submission).testNames r results) :
    ∃ g, (attempt run q submission).1 = .ok g ∧ g.errors = [] ∧
      g.testResults.length = q.expectations.length ∧
      ∀ i e, q.expectations[i]? = some e →
        ∃ j t o, FirstNamesake (q.expectations.map (·.name)) i j ∧ results[j]? = some t ∧
          g.testResults[i]? = some o ∧ o.expectation = e ∧ o.Shows (some t) ∧
          (o.passed = true ↔ e.Met t) := by
  refine ⟨scoreTests q.expectations results, (attempt_of_reply reply).trans ran.judge, rfl,
    by simp [scoreTests], ?_⟩
  intro i e declared
  have named := ran.named
  rw [q.testNames_job] at named
  obtain ⟨j, first⟩ := exists_firstNamesake (q.expectations.map (·.name)) i
  have at_i : (q.expectations.map (·.name))[i]? = some e.name := by simp [declared]
  obtain ⟨t, found, looked_up⟩ := find?_eq_getElem?_of_firstNamesake named at_i first
  refine ⟨j, t, e.outcome (some t), first, found, ?_, rfl, e.outcome_shows _, ?_⟩
  · rw [scoreTests_testResults, List.getElem?_map, declared, Option.map_some, Expectation.resultIn,
      looked_up]
  · simp [Expectation.outcome_passed]

/-- The runs of the tests of `sums`: each of them printed what it should. -/
def sumsRuns : List TestResult :=
  [⟨"sum", true, "3", none, none⟩, ⟨"sum", true, "4", none, none⟩,
    ⟨"product", true, "", none, none⟩]

def sumsRanReply : JobResult :=
  { sumsReply with testResults := some sumsRuns }

theorem sums_ranInOrder : RanInOrder (.wholeProgram sums)
    ((Question.wholeProgram sums).job "").testNames sumsRanReply sumsRuns where
  completed := rfl
  kind := rfl
  compiled := rfl
  testsCompiled := Or.inr ⟨rfl, by decide⟩
  agrees := rfl
  reported := rfl
  named := rfl

theorem sums_second_shows_first_run :
    RanInOrder (.wholeProgram sums) ((Question.wholeProgram sums).job "").testNames sumsRanReply
        sumsRuns ∧
      ∃ g o, (attempt (fun _ => .ok sumsRanReply) (.wholeProgram sums) "").1 = .ok g ∧
        g.testResults[1]? = some o ∧ o.Shows sumsRuns[0]? := by
  obtain ⟨g, graded, _, _, outcomes⟩ :=
    @graded_on_first_namesake _ _ _ (fun _ => .ok sumsRanReply) _ rfl sums_ranInOrder
  obtain ⟨j, t, o, first, found, shown, _, shows, _⟩ := outcomes 1 _ rfl
  have zero : j = 0 := by
    by_contra ne
    exact first.first 0 (Nat.pos_of_ne_zero ne) rfl
  rw [zero] at found
  exact ⟨sums_ranInOrder, g, o, graded, shown, found ▸ shows⟩

/-- The second sum was right, and the grade says that it failed. -/
theorem sums_second_misjudged :
    (Question.wholeProgram sums).validate = .ok () ∧
      RanInOrder (.wholeProgram sums) ((Question.wholeProgram sums).job "").testNames sumsRanReply
        sumsRuns ∧
      ∃ g o t e, (attempt (fun _ => .ok sumsRanReply) (.wholeProgram sums) "").1 = .ok g ∧
        (Question.wholeProgram sums).expectations[1]? = some e ∧ sumsRuns[1]? = some t ∧
        g.testResults[1]? = some o ∧ e.Met t ∧ o.passed = false :=
  ⟨rfl, sums_ranInOrder, _, _, _, _, rfl, rfl, rfl, rfl, Expectation.isMetBy_iff.mp rfl, rfl⟩

end CodeGrading
