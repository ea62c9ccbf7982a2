import CodeGrading.Proofs.Grading.Shape
import CodeGrading.Proofs.Structure.Verdict

/-!
What a positive score guarantees. `positive_score_deserved`: nothing was found wrong, a declared
test was met by a reported run of its name, and what compiled is what the question asks for.
-/

namespace CodeGrading

/-- A submission that may have a positive score. -/
structure Deserving (q : Question) (r : JobResult) (g : GradedResult) : Prop where
  errors : g.errors = []
  completed : r.status = .completed
  kind : r.payload.kind = q.kind
  compiled : r.compiled = true
  testsNotFailed : ∀ c, r.testsCompilation = some c → c.success = true
  met : ∃ e ∈ q.expectations, ∃ results, r.testResults = some results ∧
    ∃ t ∈ results, t.name = e.name ∧ e.Met t
  wholeClass : ∀ cq, q = .wholeClass cq →
    (∃ c, r.testsCompilation = some c ∧ c.success = true) ∧
      ∃ p, r.payload = .wholeClass p ∧ cq.Matching p
  singleMethod : ∀ mq, q = .singleMethod mq → ∃ p, r.payload = .singleMethod p ∧ mq.Matching p

variable {q : Question} {r : JobResult} {g : GradedResult}

theorem Tested.exists_met (tested : Tested q r g) (positive : 0 < g.score.value) :
    ∃ e ∈ q.expectations, ∃ results, r.testResults = some results ∧
      ∃ t ∈ results, t.name = e.name ∧ e.Met t := by
  have some_passed : 0 < g.testResults.countP (·.passed) := by
    apply Nat.pos_of_ne_zero
    intro none
    rw [tested.score, none] at positive
    simp at positive
  obtain ⟨o, mem, passed⟩ := List.countP_pos_iff.mp some_passed
  obtain ⟨completed, output, returnValue⟩ := (tested.passed o mem).mp passed
  have shows := tested.reported o mem
  cases found : (r.testResults.getD []).find? (·.name == o.name) with
  | none => simp [shows.completed, found] at completed
  | some t =>
    rw [found] at shows
    have name : t.name = o.name := by simpa using List.find?_some found
    have mem_results := List.mem_of_find?_eq_some found
    refine ⟨o.expectation, tested.declared ▸ List.mem_map_of_mem mem, ?_⟩
    cases results : r.testResults with
    | none => simp [results] at mem_results
    | some ts =>
      rw [results] at mem_results
      refine ⟨ts, rfl, t, mem_results, name, ?_, ?_, ?_⟩
      · simpa [shows.completed] using completed
      · simpa [shows.output, TestOutcome.expectation] using output
      · intro v expected
        simpa [shows.returnValue] using returnValue v expected

theorem deserving_of_tested (completed : r.status = .completed) (usable : ¬ Unusable q r)
    (tested : Tested q r g) (positive : 0 < g.score.value) : Deserving q r g where
  errors := tested.errors
  completed := completed
  kind := Unusable.kind_eq_of_usable usable
  compiled := tested.compiled
  testsNotFailed := tested.testsCompiled
  met := tested.exists_met positive
  wholeClass := by
    rintro cq rfl
    have kind := Unusable.kind_eq_of_usable usable
    cases payload : r.payload with
    | singleMethod p | wholeProgram p => simp [payload, Payload.kind, Question.kind] at kind
    | wholeClass p =>
      obtain ⟨_, _, results, ran, _⟩ := tested.exists_met positive
      have available := Unusable.available_of_usable completed usable
      have testsCompiled := available.classTestResults p payload (by simp [ran])
      have accepted : cq.compare p = [] := by
        simpa [Question.comparison, payload] using tested.compared
      exact ⟨JobResult.testsCompiled_iff.mp testsCompiled, p, rfl,
        ClassQuestion.matching_of_compare_eq_nil accepted⟩
  singleMethod := by
    rintro mq rfl
    have kind := Unusable.kind_eq_of_usable usable
    cases payload : r.payload with
    | wholeClass p | wholeProgram p => simp [payload, Payload.kind, Question.kind] at kind
    | singleMethod p =>
      have accepted : mq.compare p = [] := by
        simpa [Question.comparison, payload] using tested.compared
      exact ⟨p, rfl, MethodQuestion.compare_eq_nil.mp accepted⟩

/-- **No undeserved marks.** -/
theorem positive_score_deserved {run : Job → Except RunnerError JobResult} {q : Question}
    {submission : String} {g : GradedResult} (graded : (attempt run q submission).1 = .ok g)
    (positive : 0 < g.score.value) :
    ∃ r, run (q.job submission) = .ok r ∧ Deserving q r g := by
  obtain ⟨r, reply, completed, usable, rfl⟩ := attempt_eq_ok.mp graded
  refine ⟨r, reply, ?_⟩
  rcases score_findings_shape q r with flawed | tested
  · rw [flawed.score] at positive
    cases positive.false
  · exact deserving_of_tested completed usable tested positive

/-- One of two tests passes: the other ran twice, and its first run did not end. -/
def overloadedReply : JobResult where
  status := .completed
  diagnosticOutput := none
  testsCompilation := some ⟨true, []⟩
  testResults := some
    [⟨"scale", false, "ok", none, some "Timeout"⟩, ⟨"area", true, "ok", some "4", none⟩,
      ⟨"scale", true, "ok", none, none⟩]
  payload := .wholeClass ClassQuestion.overloadedPayload

theorem overloaded_half_deserved :
    ∃ g, (attempt (fun _ => .ok overloadedReply) (.wholeClass .overloaded) "class Shape {}").1 =
        .ok g ∧ g.score = .share 1 2 ∧ 0 < g.score.value ∧
      ∃ r, .ok overloadedReply = (.ok r : Except RunnerError JobResult) ∧
        Deserving (.wholeClass .overloaded) r g := by
  let g := ClassQuestion.overloaded.judge overloadedReply ClassQuestion.overloadedPayload
  have graded : (attempt (fun _ => .ok overloadedReply) (.wholeClass .overloaded)
      "class Shape {}").1 = .ok g := rfl
  have half : g.score = .share 1 2 := by decide
  have positive : 0 < g.score.value := by
    rw [half]
    exact Score.value_share_pos.mpr ⟨by decide, by decide⟩
  exact ⟨g, graded, half, positive, positive_score_deserved graded positive⟩

end CodeGrading
