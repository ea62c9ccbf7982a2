import CodeGrading.Proofs.Score
import Mathlib.Data.List.Nodup

/-!
Looking up results by name. A grade depends on the reported results only through the first result
of each test (`score_congr`). So the order of results with different names does not matter, and
neither does a result that no test asks for or that comes after another of its name
(`score_reordered_and_padded`).
-/

namespace CodeGrading

/-- No look-up gets as far as the result where it stands after the others: no test has its name, or
one of the others has. -/
def TestResult.PassedOver (tests : List Expectation) (others : List TestResult) (t : TestResult) :
    Prop :=
  t.name ∉ tests.map (·.name) ∨ t.name ∈ others.map (·.name)

/-- The second list is the first with results put in that are passed over where they stand. -/
inductive Padded (tests : List Expectation) (results : List TestResult) : List TestResult → Prop
  | none : Padded tests results results
  | insert {before after : List TestResult} {t : TestResult}
      (padded : Padded tests results (before ++ after)) (passed : t.PassedOver tests before) :
      Padded tests results (before ++ t :: after)

section Lookup

variable {tests : List Expectation} {results reported : List TestResult}

/-! ## One look-up -/

theorem resultIn_eq_some_of_nodup (distinct : (results.map (·.name)).Nodup) {e : Expectation}
    {t : TestResult} : e.resultIn results = some t ↔ t ∈ results ∧ t.name = e.name := by
  constructor
  · intro found
    exact ⟨List.mem_of_find?_eq_some found, by simpa using List.find?_some found⟩
  · rintro ⟨mem, name⟩
    cases found : e.resultIn results with
    | none =>
      have missing := List.find?_eq_none.mp found t mem
      simp [name] at missing
    | some u =>
      have same : u.name = t.name := by
        rw [name]
        simpa using List.find?_some found
      have one : u = t :=
        List.inj_on_of_nodup_map distinct (List.mem_of_find?_eq_some found) mem same
      rw [one]

theorem resultIn_perm (distinct : (results.map (·.name)).Nodup) (perm : results.Perm reported)
    (e : Expectation) : e.resultIn results = e.resultIn reported := by
  have distinct' : (reported.map (·.name)).Nodup := (perm.map _).nodup_iff.mp distinct
  apply Option.ext
  intro t
  rw [resultIn_eq_some_of_nodup distinct, resultIn_eq_some_of_nodup distinct', perm.mem_iff]

theorem resultIn_insert {before after : List TestResult} {t : TestResult}
    (passed : t.PassedOver tests before) {e : Expectation} (declared : e ∈ tests) :
    e.resultIn (before ++ t :: after) = e.resultIn (before ++ after) := by
  rw [Expectation.resultIn, Expectation.resultIn, List.find?_append, List.find?_append]
  by_cases asked : t.name = e.name
  · -- the test has the name of the result, so a result before it has that name too
    have earlier : t.name ∈ before.map (·.name) :=
      passed.resolve_left fun unknown => unknown (asked ▸ List.mem_map_of_mem declared)
    obtain ⟨u, mem, name⟩ := List.mem_map.mp earlier
    have found : (before.find? (·.name == e.name)).isSome = true :=
      List.find?_isSome.mpr ⟨u, mem, by simp [name, asked]⟩
    rw [Option.or_of_isSome found, Option.or_of_isSome found]
  · rw [List.find?_cons_of_neg (by simpa using asked)]

theorem resultIn_padded (padded : Padded tests results reported) {e : Expectation}
    (declared : e ∈ tests) : e.resultIn reported = e.resultIn results := by
  induction padded with
  | none => rfl
  | insert _ passed ih => rw [resultIn_insert passed declared, ih]

/-! ## The whole grade -/

theorem scoreTests_congr (same : ∀ e ∈ tests, e.resultIn reported = e.resultIn results) :
    scoreTests tests reported = scoreTests tests results := by
  have outcomes : (tests.map fun e => e.outcome (e.resultIn reported)) =
      tests.map fun e => e.outcome (e.resultIn results) :=
    List.map_congr_left fun e declared => by rw [same e declared]
  rw [scoreTests, scoreTests, outcomes]

/-- A grade depends on the reported results only through what each test finds among them. -/
theorem score_congr (same : ∀ e ∈ tests, e.resultIn reported = e.resultIn results) (r : JobResult)
    (errors : List Diagnostic) :
    score tests { r with testResults := some reported } errors =
      score tests { r with testResults := some results } errors := by
  simp only [score, Option.getD_some, scoreTests_congr same]

/-- **Looking up by name.** Reported results with different names may stand in any order, and
results may be put in that no test asks for or that repeat the name of an earlier one: the grade
stays the same. -/
theorem score_reordered_and_padded (tests : List Expectation) (r : JobResult)
    (errors : List Diagnostic) :
    (∀ results reported, (results.map (·.name)).Nodup → results.Perm reported →
      score tests { r with testResults := some reported } errors =
        score tests { r with testResults := some results } errors) ∧
      ∀ results reported, Padded tests results reported →
        score tests { r with testResults := some reported } errors =
          score tests { r with testResults := some results } errors := by
  constructor
  · intro results reported distinct perm
    apply score_congr
    intro e _
    exact (resultIn_perm distinct perm e).symm
  · intro results reported padded
    apply score_congr
    intro e declared
    exact resultIn_padded padded declared

end Lookup

/-- Two tests of a program, and a reply that has their runs in the other order. -/
def echoes : List Expectation :=
  [⟨"echo", "", "hi", none⟩, ⟨"twice", "", "hi hi", none⟩]

def echoesReply : JobResult where
  status := .completed
  diagnosticOutput := none
  testsCompilation := none
  testResults := some [⟨"twice", true, "hi hi", none, none⟩, ⟨"echo", true, "ha", none, none⟩]
  payload := .wholeProgram ⟨⟨true, []⟩⟩

/-- The two runs in order, and again with the run of an unknown test and a better second run. -/
theorem echoes_reordered_and_padded :
    score echoes echoesReply [] =
        score echoes
          { echoesReply with
            testResults := some
              [⟨"echo", true, "ha", none, none⟩, ⟨"twice", true, "hi hi", none, none⟩] } [] ∧
      score echoes
          { echoesReply with
            testResults := some
              [⟨"thrice", true, "", none, none⟩, ⟨"echo", true, "ha", none, none⟩,
                ⟨"echo", true, "hi", none, none⟩, ⟨"twice", true, "hi hi", none, none⟩] } [] =
        score echoes
          { echoesReply with
            testResults := some
              [⟨"echo", true, "ha", none, none⟩, ⟨"twice", true, "hi hi", none, none⟩] } [] := by
  constructor
  · exact (score_reordered_and_padded echoes echoesReply []).1 _ _ (by decide) (.swap _ _ _)
  · refine (score_reordered_and_padded echoes echoesReply []).2 _ _ ?_
    have second : Padded echoes _ ([⟨"echo", true, "ha", none, none⟩] ++
        ⟨"echo", true, "hi", none, none⟩ :: [⟨"twice", true, "hi hi", none, none⟩]) :=
      .insert .none (Or.inr (by decide))
    exact @Padded.insert _ _ [] _ _ second (Or.inl (by decide))

end CodeGrading
