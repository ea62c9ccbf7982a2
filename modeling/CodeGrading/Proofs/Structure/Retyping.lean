import CodeGrading.Proofs.Structure.OneMethod
import CodeGrading.Proofs.Structure.Reporting
import CodeGrading.Proofs.TypeName.Erasure

/-!
Types in another spelling. `types_compared_up_to_erasure`: where the types of a compiled class or
method are replaced by ones that agree with them, the same is reported, and where those of a
question are, the reports differ in the texts of the types alone. Whatever is replaced, the erased
forms stay (`erased_eq`), and comparing the erased forms reports the same
(`compare_erased_payload`, `compare_erased_question`).
-/

namespace CodeGrading

/-! ## Replacing types -/

/-- The same compiled method with other types that agree with its own. -/
structure MethodDefinition.Retyped (c c' : MethodDefinition) : Prop where
  name : c'.name = c.name
  visibility : c'.isPublic = c.isPublic
  staticness : c'.isStatic = c.isStatic
  parameters : List.Forall₂ TypeName.Same c'.parameterTypes c.parameterTypes
  returnType : Option.Rel TypeName.Same c'.returnType c.returnType

def ClassDefinition.Retyped (d d' : ClassDefinition) : Prop :=
  ∃ methods, List.Forall₂ MethodDefinition.Retyped d.methods methods ∧
    d' = { d with methods := methods }

def ClassPayload.Retyped (p p' : ClassPayload) : Prop :=
  ∃ definition, Option.Rel ClassDefinition.Retyped p.definition definition ∧
    p' = { p with definition := definition }

def MethodPayload.Retyped (p p' : MethodPayload) : Prop :=
  ∃ definitions, Option.Rel (List.Forall₂ MethodDefinition.Retyped) p.definitions definitions ∧
    p' = { p with definitions := definitions }

/-- The same required method with other types that agree with its own. -/
structure RequiredMethod.Retyped (r r' : RequiredMethod) : Prop where
  name : r'.name = r.name
  visibility : r'.isPublic = r.isPublic
  staticness : r'.isStatic = r.isStatic
  parameters : List.Forall₂ TypeName.Same r'.paramTypes r.paramTypes
  returnType : Option.Rel TypeName.Same r'.returnType r.returnType

def ClassQuestion.Retyped (q q' : ClassQuestion) : Prop :=
  ∃ methods, List.Forall₂ RequiredMethod.Retyped q.requiredMethods methods ∧
    q' = { q with requiredMethods := methods }

def MethodQuestion.Retyped (q q' : MethodQuestion) : Prop :=
  ∃ parameterTypes returnType, List.Forall₂ TypeName.Same parameterTypes q.parameterTypes ∧
    TypeName.Same returnType q.returnType ∧
    q' = { q with parameterTypes := parameterTypes, returnType := returnType }

/-- The error without the texts of its types. Whether there is a return type is still told. -/
def StructuralError.untyped : StructuralError → StructuralError
  | .methodDefinition e => .methodDefinition
      { e with
        expectedParamTypes := ""
        expectedReturnType := e.expectedReturnType.map fun _ => "" }
  | e => e

/-- The diagnostic without the texts of its types. -/
def Diagnostic.untyped : Diagnostic → Diagnostic
  | .structural e => .structural e.untyped
  | .methodSignature e => .methodSignature
      { e with expectedParamTypes := "", expectedReturnType := "" }
  | .compilation phase errors => .compilation phase errors

/-! ## Erased forms -/

def MethodDefinition.erased (c : MethodDefinition) : MethodDefinition :=
  { c with
    parameterTypes := c.parameterTypes.map TypeName.erase
    returnType := c.returnType.map TypeName.erase }

def ClassDefinition.erased (d : ClassDefinition) : ClassDefinition :=
  { d with methods := d.methods.map (·.erased) }

def ClassPayload.erased (p : ClassPayload) : ClassPayload :=
  { p with definition := p.definition.map (·.erased) }

def MethodPayload.erased (p : MethodPayload) : MethodPayload :=
  { p with definitions := p.definitions.map (·.map (·.erased)) }

def RequiredMethod.erased (r : RequiredMethod) : RequiredMethod :=
  { r with
    paramTypes := r.paramTypes.map TypeName.erase
    returnType := r.returnType.map TypeName.erase }

def ClassQuestion.erased (q : ClassQuestion) : ClassQuestion :=
  { q with requiredMethods := q.requiredMethods.map (·.erased) }

def MethodQuestion.erased (q : MethodQuestion) : MethodQuestion :=
  { q with
    parameterTypes := q.parameterTypes.map TypeName.erase
    returnType := TypeName.erase q.returnType }

section Replaced

variable {α β : Type} {R : α → α → Prop} {f : α → β}

/-- Where related elements have one image, related lists have one list of images. -/
theorem map_eq_of_forall₂ (image : ∀ a a', R a a' → f a' = f a) {as as' : List α}
    (related : List.Forall₂ R as as') : as'.map f = as.map f := by
  induction related with
  | nil => rfl
  | cons h _ ih => rw [List.map_cons, List.map_cons, image _ _ h, ih]

theorem map_eq_of_rel (image : ∀ a a', R a a' → f a' = f a) {a a' : Option α}
    (related : Option.Rel R a a') : a'.map f = a.map f := by
  cases related with
  | none => rfl
  | some h => exact congrArg some (image _ _ h)

end Replaced

theorem MethodDefinition.Retyped.erased_eq {c c' : MethodDefinition} (h : c.Retyped c') :
    c'.erased = c.erased := by
  have parameters := TypeName.sameParameters_iff.mpr h.parameters
  have returnType := TypeName.sameReturn_iff.mpr h.returnType
  simp only [erased, h.name, h.visibility, h.staticness, parameters, returnType]

theorem ClassDefinition.Retyped.erased_eq {d d' : ClassDefinition} (h : d.Retyped d') :
    d'.erased = d.erased := by
  obtain ⟨methods, related, rfl⟩ := h
  simp only [erased, map_eq_of_forall₂ (fun _ _ h => h.erased_eq) related]

theorem ClassPayload.Retyped.erased_eq {p p' : ClassPayload} (h : p.Retyped p') :
    p'.erased = p.erased := by
  obtain ⟨definition, related, rfl⟩ := h
  simp only [erased, map_eq_of_rel (fun _ _ h => h.erased_eq) related]

theorem MethodPayload.Retyped.erased_eq {p p' : MethodPayload} (h : p.Retyped p') :
    p'.erased = p.erased := by
  obtain ⟨definitions, related, rfl⟩ := h
  have methods (cs cs' : List MethodDefinition)
      (related : List.Forall₂ MethodDefinition.Retyped cs cs') :
      cs'.map (·.erased) = cs.map (·.erased) :=
    map_eq_of_forall₂ (fun _ _ h => h.erased_eq) related
  simp only [erased, map_eq_of_rel methods related]

theorem RequiredMethod.Retyped.erased_eq {r r' : RequiredMethod} (h : r.Retyped r') :
    r'.erased = r.erased := by
  have parameters := TypeName.sameParameters_iff.mpr h.parameters
  have returnType := TypeName.sameReturn_iff.mpr h.returnType
  simp only [erased, h.name, h.visibility, h.staticness, parameters, returnType]

theorem ClassQuestion.Retyped.erased_eq {q q' : ClassQuestion} (h : q.Retyped q') :
    q'.erased = q.erased := by
  obtain ⟨methods, related, rfl⟩ := h
  simp only [erased, map_eq_of_forall₂ (fun _ _ h => h.erased_eq) related]

theorem MethodQuestion.Retyped.erased_eq {q q' : MethodQuestion} (h : q.Retyped q') :
    q'.erased = q.erased := by
  obtain ⟨parameterTypes, returnType, parameters, same, rfl⟩ := h
  have parameters := TypeName.sameParameters_iff.mpr parameters
  simp only [erased, parameters, same]

/-! ## Erased forms are other spellings -/

theorem MethodDefinition.Retyped.refl (c : MethodDefinition) : c.Retyped c where
  name := rfl
  visibility := rfl
  staticness := rfl
  parameters := TypeName.sameParameters_iff.mp rfl
  returnType := TypeName.sameReturn_iff.mp rfl

theorem MethodDefinition.retyped_erased (c : MethodDefinition) : c.Retyped c.erased where
  name := rfl
  visibility := rfl
  staticness := rfl
  parameters := TypeName.sameParameters_iff.mp (TypeName.sameParameters_map_erase _)
  returnType := TypeName.sameReturn_iff.mp (TypeName.sameReturn_map_erase _)

theorem RequiredMethod.Retyped.refl (r : RequiredMethod) : r.Retyped r where
  name := rfl
  visibility := rfl
  staticness := rfl
  parameters := TypeName.sameParameters_iff.mp rfl
  returnType := TypeName.sameReturn_iff.mp rfl

theorem RequiredMethod.retyped_erased (r : RequiredMethod) : r.Retyped r.erased where
  name := rfl
  visibility := rfl
  staticness := rfl
  parameters := TypeName.sameParameters_iff.mp (TypeName.sameParameters_map_erase _)
  returnType := TypeName.sameReturn_iff.mp (TypeName.sameReturn_map_erase _)

theorem retyped_map_erased (cs : List MethodDefinition) :
    List.Forall₂ MethodDefinition.Retyped cs (cs.map (·.erased)) :=
  List.forall₂_map_right_iff.mpr (List.forall₂_same.mpr fun c _ => c.retyped_erased)

theorem ClassPayload.retyped_erased (p : ClassPayload) : p.Retyped p.erased := by
  refine ⟨_, ?_, rfl⟩
  cases p.definition with
  | none => exact .none
  | some d => exact .some ⟨_, retyped_map_erased d.methods, rfl⟩

theorem MethodPayload.retyped_erased (p : MethodPayload) : p.Retyped p.erased := by
  refine ⟨_, ?_, rfl⟩
  cases p.definitions with
  | none => exact .none
  | some cs => exact .some (retyped_map_erased cs)

theorem ClassQuestion.retyped_erased (q : ClassQuestion) : q.Retyped q.erased :=
  ⟨_, List.forall₂_map_right_iff.mpr (List.forall₂_same.mpr fun r _ => r.retyped_erased), rfl⟩

theorem MethodQuestion.retyped_erased (q : MethodQuestion) : q.Retyped q.erased :=
  ⟨_, _, TypeName.sameParameters_iff.mp (TypeName.sameParameters_map_erase _),
    TypeName.erase_erase _, rfl⟩

/-! ## Pairs of retyped methods -/

section Pairs

variable {r r' : RequiredMethod} {c c' : MethodDefinition} {required : List RequiredMethod}
  {compiled : List MethodDefinition}

theorem sameParameters_retyped (hr : r.Retyped r') (hc : c.Retyped c') :
    TypeName.SameParameters r'.paramTypes c'.parameterTypes ↔
      TypeName.SameParameters r.paramTypes c.parameterTypes := by
  have left := TypeName.sameParameters_iff.mpr hr.parameters
  have right := TypeName.sameParameters_iff.mpr hc.parameters
  rw [TypeName.SameParameters, left, right]

theorem sameReturn_retyped (hr : r.Retyped r') (hc : c.Retyped c') :
    TypeName.SameReturn r'.returnType c'.returnType ↔
      TypeName.SameReturn r.returnType c.returnType := by
  have left := TypeName.sameReturn_iff.mpr hr.returnType
  have right := TypeName.sameReturn_iff.mpr hc.returnType
  rw [TypeName.SameReturn, left, right]

theorem mismatches_retyped (hr : r.Retyped r') (hc : c.Retyped c') :
    mismatches r' c' = mismatches r c := by
  rw [mismatches, mismatches, hr.visibility, hc.visibility, hr.staticness, hc.staticness,
    if_congr (sameParameters_retyped hr hc) rfl rfl, if_congr (sameReturn_retyped hr hc) rfl rfl]

theorem agrees_retyped (hr : r.Retyped r') (hc : c.Retyped c') : r'.Agrees c' ↔ r.Agrees c := by
  rw [← mismatches_eq_nil, mismatches_retyped hr hc, mismatches_eq_nil]

/-- Methods are paired by what does not change when they are retyped. -/
theorem pairOverloads_map {f : RequiredMethod → RequiredMethod}
    {g : MethodDefinition → MethodDefinition} (hf : ∀ r : RequiredMethod, r.Retyped (f r))
    (hg : ∀ c : MethodDefinition, c.Retyped (g c)) :
    pairOverloads (required.map f) (compiled.map g) =
      (pairOverloads required compiled).map (Prod.map f g) := by
  have numbered : (compiled.map g).zipIdx = compiled.zipIdx.map (Prod.map g id) :=
    List.zipIdx_map
  have parameters (r : RequiredMethod) (c : MethodDefinition × Nat) :
      agreesOnParameters (f r) (Prod.map g id c).1 = agreesOnParameters r c.1 :=
    decide_eq_decide.mpr (sameParameters_retyped (hf r) (hg c.1))
  have arity (r : RequiredMethod) (c : MethodDefinition × Nat) :
      agreesOnArity (f r) (Prod.map g id c).1 = agreesOnArity r c.1 := by
    simp only [agreesOnArity, Prod.map_fst, (hf r).parameters.length_eq,
      (hg c.1).parameters.length_eq]
  have paired : pairOverloadsAt (required.map f) (compiled.map g) =
      (pairOverloadsAt required compiled).map (Prod.map f (Prod.map g id)) := by
    rw [pairOverloadsAt, numbered]
    apply pairUp_map
    · exact parameters
    · exact arity
  rw [pairOverloads, pairOverloads, paired, List.map_map, List.map_map]
  rfl

end Pairs

namespace ClassQuestion

variable {q : ClassQuestion} {d : ClassDefinition} {p : ClassPayload} {name : String}
  {required : List RequiredMethod} {compiled : List MethodDefinition}

/-! ## A class of erased types -/

theorem methodsNamed_erased (d : ClassDefinition) (name : String) :
    d.erased.methodsNamed name = (d.methodsNamed name).map (·.erased) := by
  rw [ClassDefinition.methodsNamed, ClassDefinition.erased, List.filter_map]
  rfl

theorem definitionError?_erased_compiled (r : RequiredMethod) (c : MethodDefinition) :
    q.definitionError? name r c.erased = q.definitionError? name r c := by
  simp only [definitionError?, mismatches_retyped (.refl r) c.retyped_erased]

theorem overloadErrors_erased_compiled :
    q.overloadErrors name required (compiled.map (·.erased)) =
      q.overloadErrors name required compiled := by
  have pairs : pairOverloads required (compiled.map (·.erased)) =
      (pairOverloads required compiled).map (Prod.map id (·.erased)) := by
    conv_lhs => rw [← List.map_id required]
    exact pairOverloads_map (f := id) .refl MethodDefinition.retyped_erased
  simp only [overloadErrors, List.length_map, pairs, List.filterMap_map]
  congr 2
  exact funext fun _ => definitionError?_erased_compiled _ _

theorem compare_erased_payload (q : ClassQuestion) (p : ClassPayload) :
    q.compare p.erased = q.compare p := by
  have whole (d : ClassDefinition) : q.definitionErrors d.erased = q.definitionErrors d := by
    simp only [definitionErrors, methodsNamed_erased, overloadErrors_erased_compiled]
    rfl
  cases definition : p.definition with
  | none => simp [compare, ClassPayload.erased, definition]
  | some d => simp [compare, ClassPayload.erased, definition, whole]

/-! ## A question of erased types -/

theorem definitionError?_erased_required (r : RequiredMethod) (c : MethodDefinition) :
    (q.erased.definitionError? name r.erased c).map (·.untyped) =
      (q.definitionError? name r c).map (·.untyped) := by
  simp only [definitionError?, mismatches_retyped r.retyped_erased (.refl c)]
  cases mismatches r c with
  | nil => rfl
  | cons property more =>
    simp [StructuralError.untyped, erased, RequiredMethod.erased, Function.comp_def]

theorem overloadErrors_erased_required :
    (q.erased.overloadErrors name (required.map (·.erased)) compiled).map (·.untyped) =
      (q.overloadErrors name required compiled).map (·.untyped) := by
  have pairs : pairOverloads (required.map (·.erased)) compiled =
      (pairOverloads required compiled).map (Prod.map (·.erased) id) := by
    conv_lhs => rw [← List.map_id compiled]
    exact pairOverloads_map (g := id) RequiredMethod.retyped_erased .refl
  by_cases length : compiled.length = required.length
  · simp only [overloadErrors, List.length_map, length, if_true, pairs, List.filterMap_map,
      List.map_filterMap]
    congr 1
    exact funext fun _ => definitionError?_erased_required _ _
  · have first : (required.map (·.erased)).head?.any (·.isStatic) =
        required.head?.any (·.isStatic) := by
      cases required <;> rfl
    simp only [overloadErrors, List.length_map, length, if_false, countError, first]
    rfl

/-- A constructor stays a constructor, so the sets keep their names. -/
theorem overloadSets_erased (className : String) (methods : List RequiredMethod) :
    overloadSets className (methods.map (·.erased)) =
      (overloadSets className methods).map fun (name, set) => (name, set.map (·.erased)) := by
  have named : (RequiredMethod.matchName className ∘ fun r => r.erased) =
      RequiredMethod.matchName className := by
    funext r
    simp [RequiredMethod.matchName, RequiredMethod.isConstructor, RequiredMethod.erased]
  rw [overloadSets, groupByName_map, named]
  rfl

theorem compare_erased_question (q : ClassQuestion) (p : ClassPayload) :
    (q.erased.compare p).map (·.untyped) = (q.compare p).map (·.untyped) := by
  have sets : overloadSets q.erased.className q.erased.requiredMethods =
      (overloadSets q.className q.requiredMethods).map fun (name, set) =>
        (name, set.map (·.erased)) := overloadSets_erased _ _
  have whole (d : ClassDefinition) :
      (q.erased.definitionErrors d).map (·.untyped) = (q.definitionErrors d).map (·.untyped) := by
    simp only [definitionErrors, List.map_append, sets, List.flatMap_map, List.map_flatMap,
      overloadErrors_erased_required]
    rfl
  unfold compare
  cases p.definition with
  | none => rfl
  | some d => cases success : p.compilation.success with
    | true => exact whole d
    | false => rfl

end ClassQuestion

/-! ## A method of erased types -/

namespace MethodQuestion

variable {q : MethodQuestion} {p : MethodPayload}

theorem matching_erased_payload (compiled : p.compilation.success = true) :
    q.Matching p.erased ↔ q.Matching p := by
  have agrees (c : MethodDefinition) : q.required.Agrees c.erased ↔ q.required.Agrees c :=
    agrees_retyped (.refl _) c.retyped_erased
  have named : (p.erased.definitions.getD []).filter (·.name == q.methodName) =
      ((p.definitions.getD []).filter (·.name == q.methodName)).map (·.erased) := by
    have methods : p.erased.definitions.getD [] = (p.definitions.getD []).map (·.erased) := by
      cases definitions : p.definitions <;> simp [MethodPayload.erased, definitions]
    rw [methods, List.filter_map]
    rfl
  rw [matching_iff_of_compiled (p := p.erased) compiled, matching_iff_of_compiled compiled, named]
  constructor
  · rintro ⟨_, erased, h⟩
    obtain ⟨c, only, rfl⟩ := List.map_eq_singleton_iff.mp erased
    exact ⟨c, only, (agrees c).mp h⟩
  · rintro ⟨c, only, h⟩
    exact ⟨c.erased, List.map_eq_singleton_iff.mpr ⟨c, only, rfl⟩, (agrees c).mpr h⟩

theorem matching_erased_question : q.erased.Matching p ↔ q.Matching p := by
  have agrees (c : MethodDefinition) : q.erased.required.Agrees c ↔ q.required.Agrees c :=
    agrees_retyped q.required.retyped_erased (.refl c)
  simp only [Matching, agrees]
  rfl

theorem compare_of_unmatched (compiled : p.compilation.success = true)
    (unmatched : ¬ q.Matching p) :
    q.compare p = [.methodSignature q.signatureError] := by
  rw [matching_iff_of_compiled compiled] at unmatched
  simp only [compare, compiled, if_true]
  split
  · rename_i c only
    exact if_neg fun declares => unmatched ⟨c, only, declares_iff.mp declares⟩
  · rfl

theorem compare_erased_payload (q : MethodQuestion) (p : MethodPayload) :
    q.compare p.erased = q.compare p := by
  cases compiled : p.compilation.success with
  | false => simp [compare, MethodPayload.erased, compiled]
  | true =>
    by_cases matching : q.Matching p
    · rw [compare_eq_nil.mpr matching,
        compare_eq_nil.mpr ((matching_erased_payload compiled).mpr matching)]
    · have unmatched : ¬ q.Matching p.erased := mt (matching_erased_payload compiled).mp matching
      rw [compare_of_unmatched compiled matching,
        compare_of_unmatched (p := p.erased) compiled unmatched]

theorem compare_erased_question (q : MethodQuestion) (p : MethodPayload) :
    (q.erased.compare p).map (·.untyped) = (q.compare p).map (·.untyped) := by
  cases compiled : p.compilation.success with
  | false => simp [compare, compiled]
  | true =>
    by_cases matching : q.Matching p
    · rw [compare_eq_nil.mpr matching, compare_eq_nil.mpr (matching_erased_question.mpr matching)]
    · rw [compare_of_unmatched compiled matching,
        compare_of_unmatched compiled (mt matching_erased_question.mp matching)]
      rfl

end MethodQuestion

/-! ## Any spelling -/

/-- **Types up to erasure.** Compiled types can be replaced by any that agree with them and the same
is reported. Where required types are replaced so, as many reports of the same kinds, names and
mismatches are made in the same order, and only the texts of the types change. A type agrees with
its erased form. -/
theorem types_compared_up_to_erasure :
    (∀ (q : ClassQuestion) (p p' : ClassPayload), p.Retyped p' → q.compare p' = q.compare p) ∧
      (∀ (q q' : ClassQuestion) (p : ClassPayload), q.Retyped q' →
        (q'.compare p).map (·.untyped) = (q.compare p).map (·.untyped)) ∧
      (∀ (q : MethodQuestion) (p p' : MethodPayload), p.Retyped p' →
        q.compare p' = q.compare p) ∧
      (∀ (q q' : MethodQuestion) (p : MethodPayload), q.Retyped q' →
        (q'.compare p).map (·.untyped) = (q.compare p).map (·.untyped)) ∧
      (∀ p : ClassPayload, p.Retyped p.erased) ∧ (∀ q : ClassQuestion, q.Retyped q.erased) ∧
      (∀ p : MethodPayload, p.Retyped p.erased) ∧ ∀ q : MethodQuestion, q.Retyped q.erased := by
  refine ⟨?_, ?_, ?_, ?_, ClassPayload.retyped_erased, ClassQuestion.retyped_erased,
    MethodPayload.retyped_erased, MethodQuestion.retyped_erased⟩
  · intro q p p' retyped
    rw [← q.compare_erased_payload p', retyped.erased_eq, q.compare_erased_payload]
  · intro q q' p retyped
    rw [← q'.compare_erased_question, retyped.erased_eq, q.compare_erased_question]
  · intro q p p' retyped
    rw [← q.compare_erased_payload p', retyped.erased_eq, q.compare_erased_payload]
  · intro q q' p retyped
    rw [← q'.compare_erased_question, retyped.erased_eq, q.compare_erased_question]

namespace ClassQuestion

/-- The class of `crowded` with type arguments and blanks. -/
def respelled : ClassDefinition :=
  { crowded with
    methods :=
      [⟨"scale", true, true, ["double "], some "Map<K, List<V>>"⟩,
        ⟨"Shape", true, false, ["int"], none⟩, ⟨"area", true, false, [], some "int"⟩,
        ⟨"scale", false, false, ["List<? extends Number>"], some "void"⟩,
        ⟨"Shape", true, false, [], none⟩] }

theorem crowded_retyped :
    ClassPayload.Retyped ⟨⟨true, []⟩, some crowded⟩ ⟨⟨true, []⟩, some respelled⟩ := by
  have parameters {as bs : List String} (same : TypeName.SameParameters as bs) :
      List.Forall₂ TypeName.Same as bs := TypeName.sameParameters_iff.mp same
  have returned {a b : Option String} (same : TypeName.SameReturn a b) :
      Option.Rel TypeName.Same a b := TypeName.sameReturn_iff.mp same
  refine ⟨_, .some ⟨_, ?_, rfl⟩, rfl⟩
  refine .cons ⟨rfl, rfl, rfl, parameters (by decide), returned (by decide)⟩ ?_
  refine .cons (.refl _) (.cons (.refl _) ?_)
  exact .cons ⟨rfl, rfl, rfl, parameters (by decide), returned (by decide)⟩
    (.cons (.refl _) .nil)

end ClassQuestion

/-- A method that has not the parameters asked for. -/
def MethodQuestion.unmerged : MethodPayload where
  compilation := ⟨true, []⟩
  definitions := some [⟨"merge", true, true, ["List<Integer>"], some "List<Integer>[]"⟩]

section Spellings

open ClassQuestion MethodQuestion

/-- The submissions can be spelled otherwise. Where the questions are, reports have other texts. -/
theorem crowded_and_unmerged_respelled :
    (ClassPayload.Retyped ⟨⟨true, []⟩, some crowded⟩ ⟨⟨true, []⟩, some respelled⟩ ∧
      overloaded.compare ⟨⟨true, []⟩, some respelled⟩ =
        overloaded.compare ⟨⟨true, []⟩, some crowded⟩) ∧
    (overloaded.Retyped overloaded.erased ∧
      overloaded.erased.compare ⟨⟨true, []⟩, some crowded⟩ ≠
        overloaded.compare ⟨⟨true, []⟩, some crowded⟩ ∧
      (overloaded.erased.compare ⟨⟨true, []⟩, some crowded⟩).map (·.untyped) =
        (overloaded.compare ⟨⟨true, []⟩, some crowded⟩).map (·.untyped)) ∧
    (unmerged.Retyped unmerged.erased ∧ unmerged.erased ≠ unmerged ∧
      merging.compare unmerged.erased = merging.compare unmerged) ∧
    (merging.Retyped merging.erased ∧ merging.erased.compare unmerged ≠ merging.compare unmerged ∧
      (merging.erased.compare unmerged).map (·.untyped) =
        (merging.compare unmerged).map (·.untyped)) := by
  obtain ⟨payload, question, payload', question', _, toErased, toErased', toErased''⟩ :=
    types_compared_up_to_erasure
  refine ⟨⟨crowded_retyped, payload _ _ _ crowded_retyped⟩, ?_, ?_, ?_⟩
  · exact ⟨toErased _, by decide, question _ _ _ (toErased _)⟩
  · exact ⟨toErased' _, by decide, payload' _ _ _ (toErased' _)⟩
  · exact ⟨toErased'' _, by decide, question' _ _ _ (toErased'' _)⟩

end Spellings

end CodeGrading
