import CodeGrading.Proofs.Structure.Counterparts

/-!
Whom an error blames. A required method and a compiled one that have each other's parameter types,
which no other overload of the name has, are each other's counterparts
(`pairOverloadsAt_of_singledOut`). So what is reported of the required method depends on these two
alone, whatever is wrong with the other overloads (`blame_stays_local`).
-/

namespace CodeGrading

/-- Of a name a class has as many methods as required. Besides a required method, which stands
between others, and a compiled one, none of them has the parameter types of the former. -/
structure ClassQuestion.SingledOut (q : ClassQuestion) (d : ClassDefinition) (name : String)
    (front : List RequiredMethod) (e : RequiredMethod) (back : List RequiredMethod)
    (c : MethodDefinition) : Prop where
  counted : (d.methodsNamed name).length = (q.requiredNamed name).length
  required : q.requiredNamed name = front ++ e :: back
  alone : ∀ r ∈ front ++ back, r.parameters ≠ e.parameters
  only : ∃ front' back', d.methodsNamed name = front' ++ c :: back' ∧
    ∀ x ∈ front' ++ back', x.parameters ≠ e.parameters

/-- What is said of a required method and a counterpart with its parameter types: nothing if they
are the same otherwise, or else one error that lists just their differences. -/
inductive Blame (className name : String) (e : RequiredMethod) (c : MethodDefinition) :
    List StructuralError → Prop where
  | nothing (visibility : e.isPublic = c.isPublic) (staticness : e.isStatic = c.isStatic)
      (returnType : TypeName.SameReturn e.returnType c.returnType) : Blame className name e c []
  | difference {error : DefinitionError}
      (differ : e.isPublic ≠ c.isPublic ∨ e.isStatic ≠ c.isStatic ∨
        ¬ TypeName.SameReturn e.returnType c.returnType)
      (reports : error.Reports className name e c)
      (unlisted : .parameterTypes ∉ error.mismatches) :
      Blame className name e c [.methodDefinition error]

/-- The errors of some required methods of a name, each with some counterpart. -/
def ErrorsOf (className name : String) (required : List RequiredMethod)
    (errors : List StructuralError) : Prop :=
  ∃ pairs, pairs.map Prod.fst = required ∧ PairErrors className name pairs errors

/-! ## The counterpart -/

section Counterpart

variable {required : List RequiredMethod} {compiled : List MethodDefinition} {e : RequiredMethod}
  {c : MethodDefinition} {before after : List (RequiredMethod × MethodDefinition × Nat)}

/-- A required method whose parameter types no other required method has gets a counterpart that has
them, if there is any: another one with that counterpart would not agree with it, and the two would
have been exchanged. -/
theorem parameters_of_paired_alone {x : MethodDefinition} {i : Nat}
    (length : compiled.length = required.length)
    (paired : pairOverloadsAt required compiled = before ++ (e, x, i) :: after)
    (alone : ∀ r ∈ before.map Prod.fst ++ after.map Prod.fst, r.parameters ≠ e.parameters)
    (mem : c ∈ compiled) (same : e.parameters = c.parameters) : x.parameters = e.parameters := by
  by_contra other
  obtain ⟨r, j, held⟩ := exists_mem_pairOverloadsAt length mem
  have elsewhere : (r, c, j) ∈ before ++ after := by
    have ne : (r, c, j) ≠ (e, x, i) := by
      rintro ⟨⟩
      exact other same.symm
    simpa [paired, ne] using held
  have r_differs : r.parameters ≠ c.parameters := by
    rw [← same]
    apply alone r
    rw [← List.map_append]
    exact List.mem_map_of_mem elsewhere
  have e_held : (e, x, i) ∈ pairOverloadsAt required compiled := by simp [paired]
  have unfit : agreesOnParameters e c = false :=
    pairUp_unexchangeable e_held held (agreesOnParameters_eq_false.mpr (Ne.symm other))
      (agreesOnParameters_eq_false.mpr r_differs)
  exact agreesOnParameters_eq_false.mp unfit same

theorem pairOverloadsAt_of_singledOut {front back : List RequiredMethod}
    {front' back' : List MethodDefinition}
    (length : (front' ++ c :: back').length = (front ++ e :: back).length)
    (same : e.parameters = c.parameters)
    (alone : ∀ r ∈ front ++ back, r.parameters ≠ e.parameters)
    (only : ∀ x ∈ front' ++ back', x.parameters ≠ e.parameters) :
    ∃ before i after, pairOverloadsAt (front ++ e :: back) (front' ++ c :: back') =
        before ++ (e, c, i) :: after ∧
      before.map Prod.fst = front ∧ after.map Prod.fst = back := by
  obtain ⟨before, rest, paired, before_fst, rest_fst⟩ :=
    List.map_eq_append_iff.mp (pairOverloadsAt_fst length)
  obtain ⟨⟨r, x, i⟩, after, rfl, eq, after_fst⟩ := List.map_eq_cons_iff.mp rest_fst
  obtain rfl : e = r := eq.symm
  rw [← before_fst, ← after_fst] at alone
  have parameters := parameters_of_paired_alone length paired alone (by simp) same
  have pair : (e, x) ∈ pairOverloads (front ++ e :: back) (front' ++ c :: back') :=
    mem_pairOverloads.mpr ⟨i, by simp [paired]⟩
  have held := (mem_of_mem_pairOverloads length pair).2
  have eq : x = c := by
    by_contra ne
    exact only x (by simpa [ne] using held) parameters
  exact ⟨before, i, after, eq ▸ paired, before_fst, after_fst⟩

end Counterpart

/-! ## The report -/

namespace ClassQuestion

theorem blame_definitionError? (q : ClassQuestion) (name : String) {e : RequiredMethod}
    {c : MethodDefinition} (same : e.parameters = c.parameters) :
    Blame q.className name e c (q.definitionError? name e c).toList := by
  have parameters : List.Forall₂ TypeName.Same e.paramTypes c.parameterTypes :=
    TypeName.sameParameters_iff.mp same
  by_cases agrees : e.Agrees c
  · rw [definitionError?_eq_none.mpr agrees]
    exact .nothing agrees.visibility agrees.staticness
      (TypeName.sameReturn_iff.mpr agrees.returnType)
  · obtain ⟨error, found, reports⟩ := definitionError?_of_differs q name agrees
    rw [found]
    refine .difference ?_ reports ?_
    · by_contra alike
      simp only [not_or, not_not] at alike
      exact agrees ⟨alike.1, alike.2.1, parameters, TypeName.sameReturn_iff.mp alike.2.2⟩
    · intro listed
      cases (reports.mismatches _).mp listed with
      | parameterTypes ne => exact ne parameters

theorem errorsOf_counterpartErrors (q : ClassQuestion) (name : String)
    (pairs : List (RequiredMethod × MethodDefinition × Nat)) :
    ErrorsOf q.className name (pairs.map Prod.fst) (q.counterpartErrors name pairs) := by
  refine ⟨pairs.map fun x => (x.1, x.2.1), ?_, ?_⟩
  · rw [List.map_map]
    rfl
  · have errors := @pairErrors_filterMap q name (pairs.map fun x => (x.1, x.2.1))
    rw [List.filterMap_map] at errors
    exact errors

/-- **Blame stays local.** Whatever the other overloads of the name are, and in whatever order all
of them stand, the same is said of a required method that is singled out with a compiled one:
nothing, or one error that lists their differences. -/
theorem blame_stays_local (q : ClassQuestion) (name : String) {e : RequiredMethod}
    {c : MethodDefinition} (same : e.parameters = c.parameters) :
    ∃ outcome, Blame q.className name e c outcome ∧
      ∀ (q' : ClassQuestion) (p : ClassPayload) (d : ClassDefinition)
        (front back : List RequiredMethod), q'.className = q.className →
        p.compilation.success = true → p.definition = some d →
        q'.SingledOut d name front e back c →
        ∃ before after, errorsNamed name (q'.compare p) = before ++ outcome ++ after ∧
          ErrorsOf q.className name front before ∧ ErrorsOf q.className name back after := by
  refine ⟨_, q.blame_definitionError? name same, ?_⟩
  rintro q' p d front back className success definition ⟨counted, required, alone, only⟩
  obtain ⟨front', back', compiled, only⟩ := only
  rw [errorsNamed_compare success definition counted]
  rw [required, compiled] at counted ⊢
  obtain ⟨before, i, after, paired, rfl, rfl⟩ :=
    pairOverloadsAt_of_singledOut counted same alone only
  refine ⟨_, _, ?_, q.errorsOf_counterpartErrors name before,
    q.errorsOf_counterpartErrors name after⟩
  rw [counterpartErrors_congr className, paired, counterpartErrors_append, counterpartErrors_cons,
    List.append_assoc]

/-- A submission to `overloaded` with one overload that is not public and one with the wrong
parameter type, in the other order. -/
def misdeclared : ClassDefinition where
  name := "Shape"
  fields := []
  methods :=
    [⟨"scale", true, true, ["int"], some "Map"⟩, ⟨"Shape", true, false, ["int"], none⟩,
      ⟨"scale", false, false, ["List"], some "void"⟩]

/-- The overload that is not public is told so, and nothing of the other one's parameter type. -/
theorem misdeclared_blamed :
    overloaded.requiredMethods[1].parameters = misdeclared.methods[2].parameters ∧
      overloaded.SingledOut misdeclared "scale" [] overloaded.requiredMethods[1]
        [overloaded.requiredMethods[2]] misdeclared.methods[2] ∧
      ∃ error before after,
        errorsNamed "scale" (overloaded.compare ⟨⟨true, []⟩, some misdeclared⟩) =
          before ++ [.methodDefinition error] ++ after ∧
        .visibility ∈ error.mismatches ∧ .parameterTypes ∉ error.mismatches := by
  have same : overloaded.requiredMethods[1].parameters = misdeclared.methods[2].parameters := by
    decide
  have singledOut : overloaded.SingledOut misdeclared "scale" [] overloaded.requiredMethods[1]
      [overloaded.requiredMethods[2]] misdeclared.methods[2] :=
    ⟨by decide, by decide, by decide, [misdeclared.methods[0]], [], by decide, by decide⟩
  refine ⟨same, singledOut, ?_⟩
  obtain ⟨outcome, blame, always⟩ := blame_stays_local overloaded "scale" same
  obtain ⟨before, after, reported, _⟩ :=
    always overloaded ⟨⟨true, []⟩, some misdeclared⟩ misdeclared _ _ rfl rfl rfl singledOut
  cases blame with
  | nothing visibility => cases visibility
  | difference _ reports unlisted =>
    exact ⟨_, before, after, reported, (reports.mismatches _).mpr (.visibility (by decide)),
      unlisted⟩

end ClassQuestion

end CodeGrading
