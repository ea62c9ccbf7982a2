import CodeGrading.Proofs.Overloads.Grouping
import CodeGrading.Proofs.Structure.Agreement

/-!
When a class or a method is accepted. `compare_decides_matching`: a class without a reported error
matches the question, and a class that matches is reported nothing unless the question asks for
two different methods of one name and one parameter list. A method is accepted exactly when it
matches (`MethodQuestion.compare_eq_nil`).
-/

namespace CodeGrading

namespace ClassQuestion

/-- The required methods that a class must declare under a name. -/
def requiredNamed (q : ClassQuestion) (name : String) : List RequiredMethod :=
  q.requiredMethods.filter (·.matchName q.className == name)

/-- A compiled class is what the question asks for. -/
structure Fits (q : ClassQuestion) (d : ClassDefinition) : Prop where
  fields : q.allowPublicFields = false → ∀ f ∈ d.fields, f.isPublic = false
  methods : ∀ name ∈ q.requiredMethods.map (·.matchName q.className),
    OneToOne RequiredMethod.Agrees (q.requiredNamed name) (d.methodsNamed name)

/-- The class compiled, its definition is there, and it is what the question asks for. -/
def Matching (q : ClassQuestion) (p : ClassPayload) : Prop :=
  p.compilation.success = true ∧ ∃ d, p.definition = some d ∧ q.Fits d

theorem fieldErrors_eq_nil {q : ClassQuestion} {d : ClassDefinition} :
    q.fieldErrors d = [] ↔ (q.allowPublicFields = false → ∀ f ∈ d.fields, f.isPublic = false) := by
  cases h : q.allowPublicFields <;> simp [fieldErrors, h]

theorem definitionError?_eq_none {q : ClassQuestion} {name : String} {r : RequiredMethod}
    {c : MethodDefinition} : q.definitionError? name r c = none ↔ r.Agrees c := by
  rw [← mismatches_eq_nil]
  cases h : mismatches r c <;> simp [definitionError?, h]

theorem overloadErrors_eq_nil {q : ClassQuestion} {name : String}
    {required : List RequiredMethod} {compiled : List MethodDefinition} :
    q.overloadErrors name required compiled = [] ↔
      compiled.length = required.length ∧
        ∀ r c, (r, c) ∈ pairOverloads required compiled → r.Agrees c := by
  by_cases length : compiled.length = required.length
  · simp only [overloadErrors, length, if_true, true_and, List.filterMap_eq_nil_iff]
    simp only [Prod.forall, definitionError?_eq_none]
  · simp [overloadErrors, length]

theorem definitionErrors_eq_nil {q : ClassQuestion} {d : ClassDefinition} :
    q.definitionErrors d = [] ↔
      (q.allowPublicFields = false → ∀ f ∈ d.fields, f.isPublic = false) ∧
        ∀ name ∈ q.requiredMethods.map (·.matchName q.className),
          q.overloadErrors name (q.requiredNamed name) (d.methodsNamed name) = [] := by
  rw [definitionErrors, List.append_eq_nil_iff, fieldErrors_eq_nil, List.flatMap_eq_nil_iff]
  simp only [Prod.forall, overloadSets, mem_groupByName, requiredNamed]
  constructor
  · rintro ⟨fields, sets⟩
    exact ⟨fields, fun name mem => sets name _ ⟨mem, rfl⟩⟩
  · rintro ⟨fields, sets⟩
    refine ⟨fields, ?_⟩
    rintro name _ ⟨mem, rfl⟩
    exact sets name mem

theorem compare_of_compiled {q : ClassQuestion} {p : ClassPayload} {d : ClassDefinition}
    (success : p.compilation.success = true) (definition : p.definition = some d) :
    q.compare p = q.definitionErrors d := by
  simp [compare, definition, success]

theorem compare_eq_nil {q : ClassQuestion} {p : ClassPayload} :
    q.compare p = [] ↔
      p.compilation.success = true ∧ ∃ d, p.definition = some d ∧ q.definitionErrors d = [] := by
  cases compiled : p.compilation.success <;> cases definition : p.definition <;>
    simp [compare, compiled, definition]

theorem matching_of_compare_eq_nil {q : ClassQuestion} {p : ClassPayload}
    (accepted : q.compare p = []) : q.Matching p := by
  obtain ⟨compiled, d, definition, errors⟩ := compare_eq_nil.mp accepted
  obtain ⟨fields, sets⟩ := definitionErrors_eq_nil.mp errors
  refine ⟨compiled, d, definition, fields, ?_⟩
  intro name mem
  obtain ⟨length, agrees⟩ := overloadErrors_eq_nil.mp (sets name mem)
  exact oneToOne_of_pairOverloads length agrees

theorem compare_eq_nil_of_matching {q : ClassQuestion} {p : ClassPayload} (matching : q.Matching p)
    (unambiguous : ∀ name, Unambiguous (q.requiredNamed name)) : q.compare p = [] := by
  obtain ⟨compiled, d, definition, fits⟩ := matching
  refine compare_eq_nil.mpr ⟨compiled, d, definition, ?_⟩
  refine definitionErrors_eq_nil.mpr ⟨fits.fields, ?_⟩
  intro name mem
  have matched := fits.methods name mem
  refine overloadErrors_eq_nil.mpr ⟨matched.length_eq.symm, ?_⟩
  intro r c pair
  exact agrees_of_mem_pairOverloads (unambiguous name) matched pair

/-- **The verdict on a class.** Where nothing is reported the class matches the question. The
converse asks that the question's overloads differ in their parameter types wherever they differ. -/
theorem compare_decides_matching (q : ClassQuestion) (p : ClassPayload) :
    (q.compare p = [] → q.Matching p) ∧
      (q.Matching p → (∀ name, Unambiguous (q.requiredNamed name)) → q.compare p = []) :=
  ⟨matching_of_compare_eq_nil, compare_eq_nil_of_matching⟩

/-- A class with a constructor and two overloads. -/
def overloaded : ClassQuestion where
  className := "Shape"
  fileTemplate := "%SUBMISSION%"
  allowPublicFields := false
  importedClasses := []
  requiredMethods :=
    [⟨"new", true, false, ["int"], none⟩,
      ⟨"scale", true, false, ["List<Integer>"], some "void"⟩,
      ⟨"scale", true, true, ["double"], some "Map<String, Integer>"⟩]
  tests := [⟨"area", 1, "", "", "int", some "4", "ok"⟩, ⟨"scale", 2, "", "", "int", none, "ok"⟩]

/-- What the compiler reports of a submission to it, in another order. -/
def overloadedPayload : ClassPayload where
  compilation := ⟨true, []⟩
  definition := some
    { name := "Shape"
      fields := [⟨"side", false, "int"⟩]
      methods :=
        [⟨"scale", true, true, ["double"], some "Map"⟩, ⟨"Shape", true, false, ["int"], none⟩,
          ⟨"scale", true, false, ["List"], some "void"⟩] }

theorem overloaded_unambiguous (name : String) : Unambiguous (overloaded.requiredNamed name) := by
  have all : ∀ r ∈ overloaded.requiredMethods, ∀ s ∈ overloaded.requiredMethods,
      TypeName.SameParameters r.paramTypes s.paramTypes → r = s := by decide
  intro r hr s hs same
  have eq := all r (List.mem_of_mem_filter hr) s (List.mem_of_mem_filter hs)
    (TypeName.sameParameters_iff.mpr same)
  subst eq
  exact ⟨rfl, rfl, TypeName.sameReturn_iff.mp rfl⟩

theorem overloaded_decided :
    overloaded.Matching overloadedPayload ∧
      (∀ name, Unambiguous (overloaded.requiredNamed name)) ∧
      overloaded.compare overloadedPayload = [] := by
  have matching := (compare_decides_matching overloaded overloadedPayload).1 (by decide)
  exact ⟨matching, overloaded_unambiguous,
    (compare_decides_matching overloaded overloadedPayload).2 matching overloaded_unambiguous⟩

end ClassQuestion

namespace MethodQuestion

/-- The question's method as one that a class could be required to declare. -/
def required (q : MethodQuestion) : RequiredMethod :=
  ⟨q.methodName, q.isPublic, q.isStatic, q.parameterTypes, some q.returnType⟩

/-- The submission compiled, and the only method of the name is what the question asks for. -/
def Matching (q : MethodQuestion) (p : MethodPayload) : Prop :=
  p.compilation.success = true ∧ ∃ ds c, p.definitions = some ds ∧
    ds.filter (·.name == q.methodName) = [c] ∧ q.required.Agrees c

theorem declares_iff {q : MethodQuestion} {c : MethodDefinition} :
    q.Declares c ↔ q.required.Agrees c := by
  rw [Declares, TypeName.sameParameters_iff, TypeName.sameReturn_iff]
  constructor
  · rintro ⟨visibility, staticness, parameters, returnType⟩
    exact ⟨visibility.symm, staticness.symm, parameters, returnType⟩
  · rintro ⟨visibility, staticness, parameters, returnType⟩
    exact ⟨visibility.symm, staticness.symm, parameters, returnType⟩

theorem compare_eq_nil {q : MethodQuestion} {p : MethodPayload} :
    q.compare p = [] ↔ q.Matching p := by
  cases compiled : p.compilation.success with
  | false => simp [compare, Matching, compiled]
  | true =>
    cases definitions : p.definitions with
    | none => simp [compare, Matching, compiled, definitions]
    | some ds =>
      rcases named : ds.filter (·.name == q.methodName) with _ | ⟨c, _ | ⟨d, more⟩⟩
      · simp [compare, Matching, compiled, definitions, named]
      · simp [compare, Matching, compiled, definitions, named, declares_iff]
      · simp [compare, Matching, compiled, definitions, named]

end MethodQuestion

end CodeGrading
