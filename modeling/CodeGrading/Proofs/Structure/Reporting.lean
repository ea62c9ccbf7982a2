import CodeGrading.Proofs.Structure.Verdict

/-!
What is reported of a compiled class. `compare_reports`: first the errors of its public fields, then
for every required name, in the order of the first declarations, the errors of that name. Of a name
either the count is wrong, and nothing else is said of it, or there is one error for each required
method whose counterpart differs from it. These errors depend on the methods of the name alone.
-/

namespace CodeGrading

/-- The properties on which a compiled method is not what a required one asks for. -/
inductive RequiredMethod.DiffersOn (r : RequiredMethod) (c : MethodDefinition) :
    MethodProperty → Prop where
  | visibility (ne : r.isPublic ≠ c.isPublic) : DiffersOn r c .visibility
  | staticness (ne : r.isStatic ≠ c.isStatic) : DiffersOn r c .staticness
  | parameterTypes (ne : ¬ List.Forall₂ TypeName.Same r.paramTypes c.parameterTypes) :
      DiffersOn r c .parameterTypes
  | returnType (ne : ¬ Option.Rel TypeName.Same r.returnType c.returnType) :
      DiffersOn r c .returnType

/-- The error says of a required method of the name everything that was asked for, and on what its
counterpart differs from it. -/
structure DefinitionError.Reports (e : DefinitionError) (className name : String)
    (r : RequiredMethod) (c : MethodDefinition) : Prop where
  className : e.className = className
  name : e.expectedMethodName = name
  visibility : e.expectedPublic = r.isPublic
  staticness : e.expectedStatic = r.isStatic
  parameters : e.expectedParamTypes = TypeList.join r.paramTypes
  returnType : e.expectedReturnType = r.returnType
  nonempty : e.mismatches ≠ []
  nodup : e.mismatches.Nodup
  mismatches : ∀ property, property ∈ e.mismatches ↔ r.DiffersOn c property

/-- The errors of required methods and their counterparts, in order: none where the two agree and
one where they differ. -/
inductive PairErrors (className name : String) :
    List (RequiredMethod × MethodDefinition) → List StructuralError → Prop where
  | nil : PairErrors className name [] []
  | agrees {r c pairs errors} (agrees : r.Agrees c)
      (rest : PairErrors className name pairs errors) :
      PairErrors className name ((r, c) :: pairs) errors
  | differs {r c pairs errors} {e : DefinitionError} (reports : e.Reports className name r c)
      (rest : PairErrors className name pairs errors) :
      PairErrors className name ((r, c) :: pairs) (.methodDefinition e :: errors)

/-- The errors of one name: its count, or else those of its required methods, in their order, each
with a counterpart of its own. -/
inductive NameErrors (className name : String) (required : List RequiredMethod)
    (compiled : List MethodDefinition) : List StructuralError → Prop where
  | counted {first : RequiredMethod} (ne : compiled.length ≠ required.length)
      (head : required.head? = some first) :
      NameErrors className name required compiled
        [.methodCount className name required.length first.isStatic]
  | compared {pairs errors} (eq : compiled.length = required.length)
      (left : pairs.map Prod.fst = required) (right : (pairs.map Prod.snd).Perm compiled)
      (each : PairErrors className name pairs errors) :
      NameErrors className name required compiled errors

/-- The name of the required methods that an error is about. -/
def StructuralError.methodName? : StructuralError → Option String
  | .missingRequiredClass _ | .fieldVisibility _ _ => none
  | .methodCount _ name _ _ => some name
  | .methodDefinition e => some e.expectedMethodName

/-- The errors that are about methods of one name. -/
def errorsNamed (name : String) (errors : List StructuralError) : List StructuralError :=
  errors.filter (·.methodName? == some name)

/-- The errors that are about no method. -/
def errorsUnnamed (errors : List StructuralError) : List StructuralError :=
  errors.filter (·.methodName?.isNone)

/-! ## One pair -/

variable {r : RequiredMethod} {c : MethodDefinition}

theorem mem_mismatches {property : MethodProperty} :
    property ∈ mismatches r c ↔ r.DiffersOn c property := by
  have mem_ite (p : Prop) [Decidable p] (other : MethodProperty) :
      property ∈ (if p then [] else [other]) ↔ ¬ p ∧ property = other := by
    by_cases h : p <;> simp [h]
  simp only [mismatches, List.mem_append, mem_ite]
  rw [TypeName.sameParameters_iff, TypeName.sameReturn_iff]
  constructor
  · rintro (((⟨ne, rfl⟩ | ⟨ne, rfl⟩) | ⟨ne, rfl⟩) | ⟨ne, rfl⟩)
    · exact .visibility ne
    · exact .staticness ne
    · exact .parameterTypes ne
    · exact .returnType ne
  · rintro (ne | ne | ne | ne) <;> simp [ne]

/-- Mismatches come in one fixed order, none of them twice. -/
theorem mismatches_sublist :
    (mismatches r c).Sublist [.visibility, .staticness, .parameterTypes, .returnType] := by
  have sublist (p : Prop) [Decidable p] (property : MethodProperty) :
      (if p then [] else [property]).Sublist [property] := by
    by_cases h : p <;> simp [h]
  exact (((sublist _ _).append (sublist _ _)).append (sublist _ _)).append (sublist _ _)

theorem nodup_mismatches : (mismatches r c).Nodup :=
  mismatches_sublist.nodup (by decide)

namespace ClassQuestion

variable {q : ClassQuestion} {d : ClassDefinition} {name : String}
  {required : List RequiredMethod} {compiled : List MethodDefinition}

theorem definitionError?_of_differs (q : ClassQuestion) (name : String)
    (differs : ¬ r.Agrees c) :
    ∃ e, q.definitionError? name r c = some (.methodDefinition e) ∧
      e.Reports q.className name r c := by
  rw [← mismatches_eq_nil] at differs
  cases found : mismatches r c with
  | nil => exact absurd found differs
  | cons property more =>
    simp only [definitionError?, found]
    refine ⟨_, rfl, rfl, rfl, rfl, rfl, rfl, rfl, List.cons_ne_nil _ _, ?_, ?_⟩
    · exact found ▸ nodup_mismatches
    · exact fun property => found ▸ mem_mismatches

/-! ## One name -/

theorem pairErrors_filterMap (pairs : List (RequiredMethod × MethodDefinition)) :
    PairErrors q.className name pairs
      (pairs.filterMap fun (r, c) => q.definitionError? name r c) := by
  induction pairs with
  | nil => exact .nil
  | cons pair pairs ih =>
    obtain ⟨r, c⟩ := pair
    by_cases agrees : r.Agrees c
    · simp only [List.filterMap_cons, definitionError?_eq_none.mpr agrees]
      exact .agrees agrees ih
    · obtain ⟨e, found, reports⟩ := definitionError?_of_differs q name agrees
      simp only [List.filterMap_cons, found]
      exact .differs reports ih

theorem nameErrors_overloadErrors (nonempty : required ≠ []) :
    NameErrors q.className name required compiled (q.overloadErrors name required compiled) := by
  by_cases length : compiled.length = required.length
  · simp only [overloadErrors, length, if_true]
    exact .compared length (pairOverloads_fst length) (pairOverloads_snd_perm length)
      (pairErrors_filterMap _)
  · obtain ⟨first, rest, rfl⟩ := List.exists_cons_of_ne_nil nonempty
    simp only [overloadErrors, length, if_false]
    exact .counted length rfl

/-- An error of a name is about the count, or about one required method and a counterpart of it. -/
theorem eq_of_mem_overloadErrors {e : StructuralError}
    (mem : e ∈ q.overloadErrors name required compiled) :
    e = q.countError name required ∨
      ∃ r ∈ required, ∃ c e', e = .methodDefinition e' ∧ e'.Reports q.className name r c := by
  unfold overloadErrors at mem
  split at mem
  · rename_i length
    obtain ⟨⟨r, c⟩, paired, found⟩ := List.mem_filterMap.mp mem
    by_cases agrees : r.Agrees c
    · simp [definitionError?_eq_none.mpr agrees] at found
    · obtain ⟨e', shown, reports⟩ := definitionError?_of_differs q name agrees
      obtain rfl := Option.some.inj (shown.symm.trans found)
      exact Or.inr ⟨r, (mem_of_mem_pairOverloads length paired).1, c, e', rfl, reports⟩
  · exact Or.inl (List.mem_singleton.mp mem)

theorem methodName?_of_mem_overloadErrors {e : StructuralError}
    (mem : e ∈ q.overloadErrors name required compiled) : e.methodName? = some name := by
  rcases eq_of_mem_overloadErrors mem with rfl | ⟨_, _, _, e', rfl, reports⟩
  · rfl
  · exact congrArg some reports.name

theorem definitionError?_congr {q' : ClassQuestion} (className : q'.className = q.className)
    (r : RequiredMethod) (c : MethodDefinition) :
    q'.definitionError? name r c = q.definitionError? name r c := by
  simp only [definitionError?, className]

/-- The errors of a name are made of the name of the class, not of anything else in the question. -/
theorem overloadErrors_congr {q' : ClassQuestion} (className : q'.className = q.className) :
    q'.overloadErrors name required compiled = q.overloadErrors name required compiled := by
  simp only [overloadErrors, countError, className, definitionError?_congr className]

/-! ## The whole class -/

/-- The names of the methods that the question requires, each once, in the order in which they are
first declared. -/
def matchNames (q : ClassQuestion) : List String :=
  (q.requiredMethods.map (·.matchName q.className)).eraseDups

/-- What the errors of a compiled class are, and in which order they come. -/
structure Reported (q : ClassQuestion) (d : ClassDefinition) (errors : List StructuralError) :
    Prop where
  inOrder : errors = errorsUnnamed errors ++ q.matchNames.flatMap (errorsNamed · errors)
  fieldsAllowed : q.allowPublicFields = true → errorsUnnamed errors = []
  fieldsForbidden : q.allowPublicFields = false → errorsUnnamed errors =
    (d.fields.filter (·.isPublic)).map fun f => .fieldVisibility q.className f.name
  named : ∀ name ∈ q.matchNames,
    NameErrors q.className name (q.requiredNamed name) (d.methodsNamed name)
      (errorsNamed name errors)

theorem requiredNamed_ne_nil : q.requiredNamed name ≠ [] ↔ name ∈ q.matchNames := by
  rw [matchNames, List.mem_eraseDups, List.mem_map, requiredNamed, Ne, List.filter_eq_nil_iff]
  simp

theorem definitionErrors_eq (q : ClassQuestion) (d : ClassDefinition) :
    q.definitionErrors d = q.fieldErrors d ++ q.matchNames.flatMap fun name =>
      q.overloadErrors name (q.requiredNamed name) (d.methodsNamed name) := by
  rw [definitionErrors, overloadSets, groupByName_eq, List.flatMap_map]
  rfl

theorem methodName?_of_mem_fieldErrors {e : StructuralError} (mem : e ∈ q.fieldErrors d) :
    e.methodName? = none := by
  unfold fieldErrors at mem
  split at mem
  · cases mem
  · obtain ⟨f, _, rfl⟩ := List.mem_map.mp mem
    rfl

theorem errorsUnnamed_definitionErrors :
    errorsUnnamed (q.definitionErrors d) = q.fieldErrors d := by
  have fields : errorsUnnamed (q.fieldErrors d) = q.fieldErrors d :=
    List.filter_eq_self.mpr fun e mem => by simp [methodName?_of_mem_fieldErrors mem]
  have methods : errorsUnnamed (q.matchNames.flatMap fun name =>
      q.overloadErrors name (q.requiredNamed name) (d.methodsNamed name)) = [] := by
    apply List.filter_eq_nil_iff.mpr
    intro e mem
    obtain ⟨name, _, mem⟩ := List.mem_flatMap.mp mem
    simp [methodName?_of_mem_overloadErrors mem]
  rw [definitionErrors_eq, errorsUnnamed, List.filter_append]
  simpa [errorsUnnamed] using congrArg₂ (· ++ ·) fields methods

theorem errorsNamed_definitionErrors (name : String) :
    errorsNamed name (q.definitionErrors d) =
      if name ∈ q.matchNames then
        q.overloadErrors name (q.requiredNamed name) (d.methodsNamed name)
      else [] := by
  have fields : errorsNamed name (q.fieldErrors d) = [] :=
    List.filter_eq_nil_iff.mpr fun e mem => by simp [methodName?_of_mem_fieldErrors mem]
  have own : ∀ n ∈ q.matchNames,
      ∀ e ∈ q.overloadErrors n (q.requiredNamed n) (d.methodsNamed n), e.methodName? = some n :=
    fun _ _ _ mem => methodName?_of_mem_overloadErrors mem
  rw [errorsNamed] at fields
  rw [definitionErrors_eq, errorsNamed, List.filter_append, fields, List.nil_append]
  exact filter_flatMap_of_nodup (nodup_eraseDups _) own name

theorem reported_definitionErrors (q : ClassQuestion) (d : ClassDefinition) :
    q.Reported d (q.definitionErrors d) where
  inOrder := by
    conv_lhs => rw [definitionErrors_eq]
    rw [errorsUnnamed_definitionErrors]
    congr 1
    apply List.flatMap_congr
    intro name mem
    rw [errorsNamed_definitionErrors, if_pos mem]
  fieldsAllowed allowed := by simp [errorsUnnamed_definitionErrors, fieldErrors, allowed]
  fieldsForbidden forbidden := by simp [errorsUnnamed_definitionErrors, fieldErrors, forbidden]
  named name mem := by
    rw [errorsNamed_definitionErrors, if_pos mem]
    exact nameErrors_overloadErrors (requiredNamed_ne_nil.mpr mem)

theorem errorsNamed_definitionErrors_congr {q' : ClassQuestion} {d' : ClassDefinition}
    (className : q'.className = q.className)
    (required : q'.requiredNamed name = q.requiredNamed name)
    (compiled : d'.methodsNamed name = d.methodsNamed name) :
    errorsNamed name (q'.definitionErrors d') = errorsNamed name (q.definitionErrors d) := by
  rw [errorsNamed_definitionErrors, errorsNamed_definitionErrors, required, compiled,
    overloadErrors_congr className]
  simp only [← requiredNamed_ne_nil, required]

/-- **What is reported of a class.** The errors of a compiled class are those of `Reported`, and
the ones about a name are the same for all questions and classes that have the same methods of the
name, as long as the class has the same name. -/
theorem compare_reports {p : ClassPayload} (success : p.compilation.success = true)
    (definition : p.definition = some d) :
    q.Reported d (q.compare p) ∧
      ∀ (q' : ClassQuestion) (p' : ClassPayload) (d' : ClassDefinition) (name : String),
        q'.className = q.className → p'.compilation.success = true → p'.definition = some d' →
        q'.requiredNamed name = q.requiredNamed name →
        d'.methodsNamed name = d.methodsNamed name →
        errorsNamed name (q'.compare p') = errorsNamed name (q.compare p) := by
  rw [compare_of_compiled success definition]
  refine ⟨reported_definitionErrors q d, ?_⟩
  intro q' p' d' name className success' definition' required compiled
  rw [compare_of_compiled success' definition']
  exact errorsNamed_definitionErrors_congr className required compiled

/-- A submission to `overloaded` with two public fields of one name, a constructor too many, a
method that nobody asked for, and an overload that is not public. -/
def crowded : ClassDefinition where
  name := "Shape"
  fields := [⟨"side", true, "int"⟩, ⟨"name", false, "String"⟩, ⟨"side", true, "int"⟩]
  methods :=
    [⟨"scale", true, true, ["double"], some "Map"⟩, ⟨"Shape", true, false, ["int"], none⟩,
      ⟨"area", true, false, [], some "int"⟩, ⟨"scale", false, false, ["List"], some "void"⟩,
      ⟨"Shape", true, false, [], none⟩]

/-- The overloads of `overloaded` between other methods. -/
def rescaled : ClassQuestion :=
  { overloaded with
    allowPublicFields := true
    requiredMethods :=
      [⟨"scale", true, false, ["List<Integer>"], some "void"⟩,
        ⟨"area", true, false, [], some "int"⟩,
        ⟨"scale", true, true, ["double"], some "Map<String, Integer>"⟩] }

/-- The overloads of `crowded` alone. -/
def uncrowded : ClassDefinition :=
  { crowded with methods := crowded.methodsNamed "scale" }

theorem crowded_reported :
    overloaded.Reported crowded (overloaded.compare ⟨⟨true, []⟩, some crowded⟩) ∧
      (overloaded.compare ⟨⟨true, []⟩, some crowded⟩).map (·.methodName?) =
        [none, none, some "Shape", some "scale"] ∧
      errorsNamed "scale" (rescaled.compare ⟨⟨true, []⟩, some uncrowded⟩) =
        errorsNamed "scale" (overloaded.compare ⟨⟨true, []⟩, some crowded⟩) := by
  obtain ⟨reported, local_to_name⟩ :=
    compare_reports (q := overloaded) (p := ⟨⟨true, []⟩, some crowded⟩) rfl rfl
  refine ⟨reported, by decide, ?_⟩
  exact local_to_name rescaled ⟨⟨true, []⟩, some uncrowded⟩ uncrowded "scale" rfl rfl rfl
    (by decide) (by decide)

end ClassQuestion

end CodeGrading
