import CodeGrading.Runner
import Mathlib.Data.Option.Basic

/-!
The availability rules of a completed job result, as a predicate on its parts. A completed result
is accepted exactly when it keeps them (`partsBreach?_eq_none`).
-/

namespace CodeGrading.JobResult

/-- What the parts of a completed result owe each other. -/
structure Available (r : JobResult) : Prop where
  testsCompilation : r.testsCompilation.isSome = true → r.compiled = true
  classDefinition : ∀ p, r.payload = .wholeClass p → p.definition.isSome = r.compiled
  methodDefinitions : ∀ p, r.payload = .singleMethod p → p.definitions.isSome = r.compiled
  testResults : r.testResults.isSome = true → r.compiled = true
  classTestResults : ∀ p, r.payload = .wholeClass p → r.testResults.isSome = true →
    r.testsCompiled = true

theorem testsCompiled_iff {r : JobResult} :
    r.testsCompiled = true ↔ ∃ c, r.testsCompilation = some c ∧ c.success = true := by
  cases h : r.testsCompilation <;> simp [testsCompiled, h]

theorem partsBreach?_eq_none {r : JobResult} : r.partsBreach? = none ↔ r.Available := by
  -- tests that compiled were reported, so a class whose tests ran did compile
  have reported : r.testsCompiled = true → r.testsCompilation.isSome = true := by
    rintro h
    obtain ⟨c, h, _⟩ := testsCompiled_iff.mp h
    simp [h]
  constructor
  · intro valid
    cases payload : r.payload with
    | wholeClass p | singleMethod p | wholeProgram p =>
      simp only [partsBreach?, payload] at valid
      constructor <;> grind
  · rintro ⟨tests, classDefinition, methodDefinitions, results, classResults⟩
    cases payload : r.payload with
    | wholeClass p | singleMethod p | wholeProgram p =>
      simp only [partsBreach?, payload]
      grind

theorem validate_eq_ok {r : JobResult} : r.validate = .ok () ↔ r.breach? = none := by
  cases h : r.breach? <;> simp [validate, h]

theorem exists_validate_eq_error {r : JobResult} :
    (∃ e, r.validate = .error e) ↔ r.breach?.isSome = true := by
  cases h : r.breach? <;> simp [validate, h]

end CodeGrading.JobResult
