import CodeGrading.GradedResult
import Mathlib.Algebra.Order.Field.Basic
import Mathlib.Algebra.Order.Ring.Rat

/-!
Scores as exact fractions, and what a test needs to pass.

`score` has three outcomes, by its arguments alone: the diagnostics already made
(`score_of_errors`), the failed compilation of the tests (`score_of_failed_tests`), or one outcome
for each declared test (`score_of_clean`). Whether a test passed can be read off its outcome
(`outcome_passed_iff_shown`), and the share of the passed ones is in the unit interval.
-/

namespace CodeGrading

/-! ## The value of a score -/

/-- The number that a double stands for. -/
def Binary64.value (x : Binary64) : ℚ :=
  (if x.negative then -1 else 1) * x.significand * 2 ^ x.exponent

namespace Score

def value : Score → ℚ
  | .share passed total => passed / total
  | .stored x => x.value

@[simp] theorem value_zero : zero.value = 0 := by
  simp [zero, value]

theorem value_share_pos {passed total : Nat} :
    0 < (share passed total).value ↔ 0 < passed ∧ 0 < total := by
  constructor
  · intro h
    refine ⟨Nat.pos_of_ne_zero ?_, Nat.pos_of_ne_zero ?_⟩ <;> rintro rfl <;> simp [value] at h
  · rintro ⟨hp, ht⟩
    exact div_pos (by exact_mod_cast hp) (by exact_mod_cast ht)

theorem value_share_mem_unit {passed total : Nat} (le : passed ≤ total) :
    0 ≤ (share passed total).value ∧ (share passed total).value ≤ 1 := by
  refine ⟨div_nonneg (Nat.cast_nonneg _) (Nat.cast_nonneg _), ?_⟩
  exact div_le_one_of_le₀ (by exact_mod_cast le) (Nat.cast_nonneg _)

/-- A score that is positive as a double is positive as a fraction. -/
theorem value_pos_of_toDouble {s : Score} (h : 0 < s.toDouble.value) : 0 < s.value := by
  cases s with
  | stored x => exact h
  | share passed total =>
    refine value_share_pos.mpr ⟨Nat.pos_of_ne_zero ?_, Nat.pos_of_ne_zero ?_⟩
    · rintro rfl
      cases total <;> simp [toDouble, Binary64.ofRatio, Binary64.zero, Binary64.value] at h
    · rintro rfl
      simp [toDouble, Binary64.zero, Binary64.value] at h

end Score

/-! ## One test -/

/-- A run is what the test expects: it ended, with the expected output, and with the expected
return value where there is one. -/
structure Expectation.Met (e : Expectation) (t : TestResult) : Prop where
  completed : t.completed = true
  output : t.output = e.output
  returnValue : ∀ v, e.returnValue = some v → t.returnValue = some v

/-- The declared part of an outcome. -/
def TestOutcome.expectation (o : TestOutcome) : Expectation :=
  ⟨o.name, o.description, o.expectedOutput, o.expectedReturnValue⟩

/-- What an outcome shows of the run is what was reported of it. -/
structure TestOutcome.Shows (o : TestOutcome) (t : Option TestResult) : Prop where
  completed : o.completed = t.any (·.completed)
  output : o.actualOutput = t.map (·.output)
  returnValue : o.actualReturnValue = t.bind (·.returnValue)
  exception : o.exception = t.bind (·.exception)

namespace Expectation

theorem isMetBy_iff {e : Expectation} {t : TestResult} : e.isMetBy t = true ↔ e.Met t := by
  simp only [isMetBy, Bool.and_eq_true, beq_iff_eq, Option.all_eq_true]
  constructor
  · rintro ⟨⟨completed, output⟩, returnValue⟩
    exact ⟨completed, output, returnValue⟩
  · rintro ⟨completed, output, returnValue⟩
    exact ⟨⟨completed, output⟩, returnValue⟩

@[simp] theorem expectation_outcome (e : Expectation) (t : Option TestResult) :
    (e.outcome t).expectation = e := rfl

theorem outcome_shows (e : Expectation) (t : Option TestResult) : (e.outcome t).Shows t :=
  ⟨rfl, rfl, rfl, rfl⟩

theorem outcome_passed {e : Expectation} {t : Option TestResult} :
    (e.outcome t).passed = true ↔ ∃ r, t = some r ∧ e.Met r := by
  cases t <;> simp [outcome, isMetBy_iff]

/-- Whether a test passed can be read off what its outcome shows. -/
theorem outcome_passed_iff_shown (e : Expectation) (t : Option TestResult) :
    (e.outcome t).passed = true ↔ (e.outcome t).completed = true ∧
      (e.outcome t).actualOutput = some (e.outcome t).expectedOutput ∧
      ∀ v, (e.outcome t).expectedReturnValue = some v →
        (e.outcome t).actualReturnValue = some v := by
  rw [outcome_passed]
  cases t with
  | none => simp [outcome]
  | some r =>
    simp only [outcome, Option.some.injEq, exists_eq_left', Option.any_some, Option.map_some,
      Option.bind_some]
    exact ⟨fun met => ⟨met.completed, met.output, met.returnValue⟩,
      fun shown => ⟨shown.1, shown.2.1, shown.2.2⟩⟩

end Expectation

/-! ## All tests -/

section Tests

variable (tests : List Expectation) (results : List TestResult)

theorem scoreTests_testResults :
    (scoreTests tests results).testResults = tests.map fun e => e.outcome (e.resultIn results) :=
  rfl

theorem scoreTests_declared :
    (scoreTests tests results).testResults.map (·.expectation) = tests := by
  rw [scoreTests_testResults, List.map_map]
  have kept : ∀ e ∈ tests, (e.outcome (e.resultIn results)).expectation = id e :=
    fun e _ => e.expectation_outcome _
  exact (List.map_congr_left kept).trans (List.map_id tests)

theorem scoreTests_value :
    (scoreTests tests results).score.value =
      ((scoreTests tests results).testResults.countP (·.passed) : ℚ) / tests.length := by
  simp [scoreTests, Score.value]

theorem scoreTests_mem_unit :
    0 ≤ (scoreTests tests results).score.value ∧ (scoreTests tests results).score.value ≤ 1 :=
  Score.value_share_mem_unit List.countP_le_length

end Tests

/-! ## A whole result -/

section Result

variable (tests : List Expectation) {r : JobResult}

theorem score_of_errors {errors : List Diagnostic} (flawed : errors ≠ []) :
    score tests r errors = .failed errors := by
  simp [score, flawed]

theorem score_of_failed_tests {c : Compilation} (reported : r.testsCompilation = some c)
    (failed : c.success = false) : score tests r [] = .failed [.compilation .tests c.errors] := by
  simp [score, reported, failed]

theorem score_of_clean (clean : ∀ c, r.testsCompilation = some c → c.success = true) :
    score tests r [] = scoreTests tests (r.testResults.getD []) := by
  cases reported : r.testsCompilation with
  | none => simp [score, reported]
  | some c => simp [score, reported, clean c reported]

end Result

end CodeGrading
