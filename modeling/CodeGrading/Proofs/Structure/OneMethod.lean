import CodeGrading.Proofs.Structure.Verdict

/-!
One required method. It can be asked for by itself, or as all that a class must declare, and two
different comparisons decide the two. `comparisons_agree`: both report nothing where the compiled
methods hold exactly one of the name and that one agrees, and both report one error otherwise.
-/

namespace CodeGrading

/-- The question's method asked for as the only one of a class, and the compiled methods as those of
a class without fields. -/
structure MethodQuestion.AskedOfClass (q : MethodQuestion) (p : MethodPayload)
    (classQuestion : ClassQuestion) (classPayload : ClassPayload) (d : ClassDefinition) :
    Prop where
  required : classQuestion.requiredMethods = [q.required]
  compiled : classPayload.compilation.success = true
  definition : classPayload.definition = some d
  fields : d.fields = []
  methods : d.methods = p.definitions.getD []

namespace ClassQuestion

variable {q : ClassQuestion} {d : ClassDefinition} {name : String} {r : RequiredMethod}
  {compiled : List MethodDefinition}

theorem mem_pairOverloads_singleton {c : MethodDefinition}
    {pair : RequiredMethod × MethodDefinition} :
    pair ∈ pairOverloads [r] [c] ↔ pair = (r, c) := by
  have left : (pairOverloads [r] [c]).map Prod.fst = [r] := pairOverloads_fst rfl
  have right : (pairOverloads [r] [c]).map Prod.snd = [c] :=
    List.perm_singleton.mp (pairOverloads_snd_perm rfl)
  obtain ⟨⟨r', c'⟩, eq⟩ : ∃ pair, pairOverloads [r] [c] = [pair] :=
    List.length_eq_one_iff.mp (by simpa using congrArg List.length left)
  rw [eq] at left right ⊢
  obtain rfl := List.singleton_inj.mp left
  obtain rfl := List.singleton_inj.mp right
  exact List.mem_singleton

/-- The only required method of a name needs the only compiled one. -/
theorem overloadErrors_singleton_eq_nil :
    q.overloadErrors name [r] compiled = [] ↔ ∃ c, compiled = [c] ∧ r.Agrees c := by
  rw [overloadErrors_eq_nil]
  constructor
  · rintro ⟨length, agrees⟩
    obtain ⟨c, rfl⟩ := List.length_eq_one_iff.mp length
    exact ⟨c, rfl, agrees r c (mem_pairOverloads_singleton.mpr rfl)⟩
  · rintro ⟨c, rfl, agrees⟩
    refine ⟨rfl, ?_⟩
    intro r' c' pair
    obtain ⟨rfl, rfl⟩ := Prod.mk.inj (mem_pairOverloads_singleton.mp pair)
    exact agrees

/-- There are at most as many errors of a name as methods are required of it. -/
theorem length_overloadErrors_le {required : List RequiredMethod} (nonempty : required ≠ []) :
    (q.overloadErrors name required compiled).length ≤ required.length := by
  by_cases length : compiled.length = required.length
  · simp only [overloadErrors, length, if_true]
    have paired : (pairOverloads required compiled).length = required.length := by
      simpa using congrArg List.length (pairOverloads_fst length)
    exact paired ▸ List.length_filterMap_le _ _
  · rw [overloadErrors, if_neg length]
    exact List.length_pos_iff.mpr nonempty

theorem definitionErrors_of_only (only : q.requiredMethods = [r]) (fields : d.fields = []) :
    q.definitionErrors d =
      q.overloadErrors (r.matchName q.className) [r]
        (d.methodsNamed (r.matchName q.className)) := by
  simp [definitionErrors, fieldErrors, fields, only, overloadSets, groupByName, addToGroup]

end ClassQuestion

namespace MethodQuestion

variable {q : MethodQuestion} {p : MethodPayload} {classQuestion : ClassQuestion}
  {classPayload : ClassPayload} {d : ClassDefinition}

theorem length_compare_le_one : (q.compare p).length ≤ 1 := by
  unfold compare
  split
  · split
    · split <;> simp
    · simp
  · simp

theorem matching_iff_of_compiled (compiled : p.compilation.success = true) :
    q.Matching p ↔
      ∃ c, (p.definitions.getD []).filter (·.name == q.methodName) = [c] ∧ q.required.Agrees c := by
  cases definitions : p.definitions <;> simp [Matching, compiled, definitions]

theorem AskedOfClass.compare_eq (asked : q.AskedOfClass p classQuestion classPayload d) :
    classQuestion.compare classPayload =
      classQuestion.overloadErrors q.methodName [q.required]
        ((p.definitions.getD []).filter (·.name == q.methodName)) := by
  -- a method with a return type is no constructor, so it is looked up under its own name
  have named : q.required.matchName classQuestion.className = q.methodName := rfl
  rw [ClassQuestion.compare_of_compiled asked.compiled asked.definition,
    ClassQuestion.definitionErrors_of_only asked.required asked.fields, named,
    ClassDefinition.methodsNamed, asked.methods]

/-- **Two comparisons of one method.** A method that compiled, asked for by itself and of a class,
has at most one error either way, and none exactly when it matches. -/
theorem comparisons_agree (compiled : p.compilation.success = true)
    (asked : q.AskedOfClass p classQuestion classPayload d) :
    (q.compare p).length = (classQuestion.compare classPayload).length ∧
      (q.compare p).length ≤ 1 ∧
      (q.compare p = [] ↔ q.Matching p) ∧
      (classQuestion.compare classPayload = [] ↔ q.Matching p) := by
  have accepted : classQuestion.compare classPayload = [] ↔ q.Matching p := by
    rw [asked.compare_eq, ClassQuestion.overloadErrors_singleton_eq_nil,
      matching_iff_of_compiled compiled]
  have atMostOne : (classQuestion.compare classPayload).length ≤ 1 := by
    rw [asked.compare_eq]
    exact ClassQuestion.length_overloadErrors_le (List.cons_ne_nil _ _)
  have same : (q.compare p).length = 0 ↔ (classQuestion.compare classPayload).length = 0 := by
    rw [List.length_eq_zero_iff, List.length_eq_zero_iff, compare_eq_nil, accepted]
  have atMostOne' : (q.compare p).length ≤ 1 := length_compare_le_one
  exact ⟨by omega, atMostOne', compare_eq_nil, accepted⟩

def merging : MethodQuestion where
  methodName := "merge"
  parameterTypes := ["List<Integer>", "Map<String, List<Integer>>"]
  returnType := "List<Integer>[]"
  isPublic := true
  isStatic := true
  importedClasses := ["java.util.List", "java.util.Map"]
  tests := [⟨"empty", 1, "", "new ArrayList<>(), new HashMap<>()", none, "[]"⟩]

/-- The method as the compiler reports it, between two others. -/
def merged : List MethodDefinition :=
  [⟨"concat", false, true, ["List", "List"], some "List"⟩,
    ⟨"merge", true, true, ["List", "Map"], some "List[]"⟩, ⟨"Main", true, false, [], none⟩]

/-- A class that is to declare the method and nothing else. -/
def mergingClass : ClassQuestion where
  className := "Main"
  fileTemplate := "class Main { %SUBMISSION% }"
  allowPublicFields := false
  importedClasses := []
  requiredMethods :=
    [⟨"merge", true, true, ["List<Integer>", "Map<String, List<Integer>>"], some "List<Integer>[]"⟩]
  tests := []

theorem merged_asked : merging.AskedOfClass ⟨⟨true, []⟩, some merged⟩ mergingClass
    ⟨⟨true, []⟩, some ⟨"Main", [], merged⟩⟩ ⟨"Main", [], merged⟩ where
  required := rfl
  compiled := rfl
  definition := rfl
  fields := rfl
  methods := rfl

theorem merged_accepted_both_ways :
    merging.AskedOfClass ⟨⟨true, []⟩, some merged⟩ mergingClass
        ⟨⟨true, []⟩, some ⟨"Main", [], merged⟩⟩ ⟨"Main", [], merged⟩ ∧
      merging.compare ⟨⟨true, []⟩, some merged⟩ = [] ∧
      mergingClass.compare ⟨⟨true, []⟩, some ⟨"Main", [], merged⟩⟩ = [] := by
  obtain ⟨_, _, alone, ofClass⟩ :=
    comparisons_agree (p := ⟨⟨true, []⟩, some merged⟩) rfl merged_asked
  have accepted : merging.compare ⟨⟨true, []⟩, some merged⟩ = [] := by decide
  exact ⟨merged_asked, accepted, ofClass.mpr (alone.mp accepted)⟩

end MethodQuestion

end CodeGrading
