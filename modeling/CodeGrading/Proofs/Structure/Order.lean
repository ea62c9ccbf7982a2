import CodeGrading.Proofs.Structure.Verdict

/-!
The order of declarations. Whether a class matches a question does not depend on the order of its
methods or of the required ones (`Matching.reordered`). The verdict on it is found by pairing with
the first method that has the parameter types, so it does depend on the order where a question asks
for two different methods of one name and one parameter list, and only there
(`order_irrelevant_iff_unambiguous`).
-/

namespace CodeGrading

/-- The same question with its required methods in another order. -/
def ClassQuestion.Reordered (q q' : ClassQuestion) : Prop :=
  ∃ methods, methods.Perm q.requiredMethods ∧ q' = { q with requiredMethods := methods }

/-- The same class with its methods in another order. -/
def ClassDefinition.Reordered (d d' : ClassDefinition) : Prop :=
  ∃ methods, methods.Perm d.methods ∧ d' = { d with methods := methods }

/-- The same outcome of a compilation with the methods of the class, if there is one, in another
order. -/
def ClassPayload.Reordered (p p' : ClassPayload) : Prop :=
  ∃ definition, Option.Rel ClassDefinition.Reordered p.definition definition ∧
    p' = { p with definition := definition }

theorem ClassDefinition.Reordered.refl (d : ClassDefinition) : d.Reordered d :=
  ⟨d.methods, .refl _, rfl⟩

theorem ClassDefinition.Reordered.symm {d d' : ClassDefinition} (h : d.Reordered d') :
    d'.Reordered d := by
  obtain ⟨methods, perm, rfl⟩ := h
  exact ⟨d.methods, perm.symm, rfl⟩

theorem ClassDefinition.Reordered.methodsNamed_perm {d d' : ClassDefinition}
    (h : d.Reordered d') (name : String) : (d.methodsNamed name).Perm (d'.methodsNamed name) := by
  obtain ⟨methods, perm, rfl⟩ := h
  exact perm.symm.filter _

theorem ClassPayload.Reordered.refl (p : ClassPayload) : p.Reordered p := by
  refine ⟨p.definition, ?_, rfl⟩
  cases p.definition with
  | none => exact .none
  | some d => exact .some (.refl d)

theorem ClassPayload.Reordered.symm {p p' : ClassPayload} (h : p.Reordered p') :
    p'.Reordered p := by
  obtain ⟨definition, related, rfl⟩ := h
  refine ⟨p.definition, ?_, rfl⟩
  cases p with
  | mk compilation definition =>
    cases related with
    | none => exact .none
    | some h => exact .some h.symm

theorem Unambiguous.perm {required required' : List RequiredMethod} (h : Unambiguous required)
    (perm : required'.Perm required) : Unambiguous required' :=
  fun r hr s hs => h r (perm.mem_iff.mp hr) s (perm.mem_iff.mp hs)

namespace ClassQuestion

variable {q q' : ClassQuestion} {d d' : ClassDefinition} {p p' : ClassPayload}

theorem Reordered.refl (q : ClassQuestion) : q.Reordered q :=
  ⟨q.requiredMethods, .refl _, rfl⟩

theorem Reordered.symm (h : q.Reordered q') : q'.Reordered q := by
  obtain ⟨methods, perm, rfl⟩ := h
  exact ⟨q.requiredMethods, perm.symm, rfl⟩

theorem Reordered.requiredNamed_perm (h : q.Reordered q') (name : String) :
    (q'.requiredNamed name).Perm (q.requiredNamed name) := by
  obtain ⟨methods, perm, rfl⟩ := h
  exact perm.filter _

theorem Reordered.unambiguous (h : q.Reordered q')
    (unambiguous : ∀ name, Unambiguous (q.requiredNamed name)) (name : String) :
    Unambiguous (q'.requiredNamed name) :=
  (unambiguous name).perm (h.requiredNamed_perm name)

/-! ## Matching -/

theorem mem_matchNames {name : String} {r : RequiredMethod} (h : r ∈ q.requiredNamed name) :
    name ∈ q.requiredMethods.map (·.matchName q.className) := by
  obtain ⟨mem, named⟩ := List.mem_filter.mp h
  exact List.mem_map.mpr ⟨r, mem, eq_of_beq named⟩

theorem Fits.reordered (fits : q.Fits d) (hq : q.Reordered q') (hd : d.Reordered d') :
    q'.Fits d' where
  fields := by
    obtain ⟨_, _, rfl⟩ := hq
    obtain ⟨_, _, rfl⟩ := hd
    exact fits.fields
  methods name mem := by
    have required : name ∈ q.requiredMethods.map (·.matchName q.className) := by
      obtain ⟨_, perm, rfl⟩ := hq
      exact (perm.map _).mem_iff.mp mem
    exact (fits.methods name required).perm (hq.requiredNamed_perm name) (hd.methodsNamed_perm name)

theorem Matching.reordered (matching : q.Matching p) (hq : q.Reordered q') (hp : p.Reordered p') :
    q'.Matching p' := by
  obtain ⟨compiled, d, definition, fits⟩ := matching
  obtain ⟨_, related, rfl⟩ := hp
  rw [definition] at related
  cases related with
  | some hd => exact ⟨compiled, _, rfl, fits.reordered hq hd⟩

/-! ## The verdict -/

theorem accepted_reordered (unambiguous : ∀ name, Unambiguous (q.requiredNamed name))
    (hq : q.Reordered q') (hp : p.Reordered p') (accepted : q.compare p = []) :
    q'.compare p' = [] :=
  compare_eq_nil_of_matching ((matching_of_compare_eq_nil accepted).reordered hq hp)
    (hq.unambiguous unambiguous)

/-- Of an accepted class whose first method has the name and the parameter types of the first
required one, these two agree. -/
theorem agrees_of_heads {r : RequiredMethod} {c : MethodDefinition}
    {required : List RequiredMethod} {methods : List MethodDefinition}
    (hq : q.requiredMethods = r :: required) (hd : d.methods = c :: methods)
    (named : c.name = r.matchName q.className)
    (same : TypeName.SameParameters r.paramTypes c.parameterTypes)
    (accepted : q.definitionErrors d = []) : r.Agrees c := by
  have clean := (definitionErrors_eq_nil.mp accepted).2 (r.matchName q.className) (by simp [hq])
  apply (overloadErrors_eq_nil.mp clean).2
  simp only [requiredNamed, hq, ClassDefinition.methodsNamed, hd, named, List.filter_cons,
    beq_self_eq_true, if_true]
  exact mem_pairOverloads_of_heads same

/-- Of two required methods with the same parameter types either can be given the counterpart of
the other, so a class that is accepted in every order shows that they ask for the same. -/
theorem unambiguous_of_accepted_in_every_order
    (accepted : ∀ q' p', q.Reordered q' → p.Reordered p' → q'.compare p' = []) (name : String) :
    Unambiguous (q.requiredNamed name) := by
  intro r hr s hs same
  obtain ⟨_, d, definition, fits⟩ :=
    matching_of_compare_eq_nil (accepted q p (.refl q) (.refl p))
  obtain ⟨c, hc, agrees⟩ := (fits.methods name (mem_matchNames hs)).exists_right hs
  obtain ⟨hr, hr_name⟩ := List.mem_filter.mp hr
  obtain ⟨hc, hc_name⟩ := List.mem_filter.mp hc
  have named : c.name = r.matchName q.className :=
    (eq_of_beq hc_name).trans (eq_of_beq hr_name).symm
  have same_c : TypeName.SameParameters r.paramTypes c.parameterTypes :=
    (TypeName.sameParameters_iff.mpr same).trans (TypeName.sameParameters_iff.mpr agrees.parameters)
  -- with both in front, `r` gets `c` at the first choice, before anything else is compared
  let q' : ClassQuestion := { q with requiredMethods := r :: q.requiredMethods.erase r }
  let d' : ClassDefinition := { d with methods := c :: d.methods.erase c }
  have hq : q.Reordered q' := ⟨_, (List.perm_cons_erase hr).symm, rfl⟩
  have hp : p.Reordered { p with definition := some d' } := by
    refine ⟨_, ?_, rfl⟩
    rw [definition]
    exact .some ⟨_, (List.perm_cons_erase hc).symm, rfl⟩
  obtain ⟨_, _, shown, errors⟩ := compare_eq_nil.mp (accepted _ _ hq hp)
  obtain rfl := Option.some.inj shown
  have agrees' : r.Agrees c := agrees_of_heads (q := q') rfl rfl named same_c errors
  exact agrees'.same agrees

/-! ## The class that is asked for -/

/-- The required method as it is compiled when it is declared just so. -/
def declared (q : ClassQuestion) (r : RequiredMethod) : MethodDefinition where
  name := r.matchName q.className
  isPublic := r.isPublic
  isStatic := r.isStatic
  parameterTypes := r.paramTypes
  returnType := r.returnType

/-- The class that declares the required methods, in their order, and nothing else. -/
def prescribed (q : ClassQuestion) : ClassDefinition where
  name := q.className
  fields := []
  methods := q.requiredMethods.map q.declared

theorem agrees_declared (q : ClassQuestion) (r : RequiredMethod) : r.Agrees (q.declared r) :=
  ⟨rfl, rfl, TypeName.sameParameters_iff.mp rfl, TypeName.sameReturn_iff.mp rfl⟩

theorem methodsNamed_prescribed (q : ClassQuestion) (name : String) :
    q.prescribed.methodsNamed name = (q.requiredNamed name).map q.declared := by
  rw [ClassDefinition.methodsNamed, prescribed, List.filter_map, requiredNamed]
  rfl

theorem definitionErrors_prescribed (q : ClassQuestion) : q.definitionErrors q.prescribed = [] := by
  refine definitionErrors_eq_nil.mpr ⟨fun _ _ h => (nomatch h), ?_⟩
  intro name _
  rw [methodsNamed_prescribed]
  refine overloadErrors_eq_nil.mpr ⟨by simp, ?_⟩
  have aligned : List.Forall₂
      (fun r c => TypeName.SameParameters r.paramTypes c.parameterTypes)
      (q.requiredNamed name) ((q.requiredNamed name).map q.declared) :=
    List.forall₂_map_right_iff.mpr (List.forall₂_same.mpr fun _ _ => rfl)
  rw [pairOverloads_of_forall₂ aligned, ← List.map_prod_left_eq_zip]
  intro r c pair
  obtain ⟨s, _, eq⟩ := List.mem_map.mp pair
  obtain ⟨rfl, rfl⟩ := Prod.mk.inj eq
  exact q.agrees_declared s

/-- **The order of declarations.** The verdicts on the submissions to a question never depend on
the order of the compiled methods or of the required ones exactly when the overloads that the
question asks for differ in their parameter types wherever they differ. -/
theorem order_irrelevant_iff_unambiguous (q : ClassQuestion) :
    (∀ p q' p', q.Reordered q' → p.Reordered p' → (q'.compare p' = [] ↔ q.compare p = [])) ↔
      ∀ name, Unambiguous (q.requiredNamed name) := by
  constructor
  · intro irrelevant
    have accepted : q.compare ⟨⟨true, []⟩, some q.prescribed⟩ = [] :=
      compare_eq_nil.mpr ⟨rfl, q.prescribed, rfl, q.definitionErrors_prescribed⟩
    apply unambiguous_of_accepted_in_every_order
    intro q' p' hq hp
    exact (irrelevant _ q' p' hq hp).mpr accepted
  · intro unambiguous p q' p' hq hp
    constructor
    · exact accepted_reordered (hq.unambiguous unambiguous) hq.symm hp.symm
    · exact accepted_reordered unambiguous hq hp

/-- A class with a constructor and a method of the same name, which has the same parameters. -/
def namesake : ClassQuestion where
  className := "Shape"
  fileTemplate := "%SUBMISSION%"
  allowPublicFields := false
  importedClasses := []
  requiredMethods :=
    [⟨"Shape", true, false, ["int"], none⟩, ⟨"Shape", true, false, ["int"], some "void"⟩]
  tests := [⟨"area", 1, "", "", "int", some "4", ""⟩]

/-- The same class as `namesake.prescribed` with the method before the constructor. -/
def methodFirst : ClassDefinition :=
  { namesake.prescribed with methods := namesake.prescribed.methods.reverse }

/-- The constructor is compared with the method, and the method with the constructor. -/
theorem namesake_rejected_in_other_order :
    namesake.compare ⟨⟨true, []⟩, some namesake.prescribed⟩ = [] ∧
      ClassPayload.Reordered ⟨⟨true, []⟩, some namesake.prescribed⟩ ⟨⟨true, []⟩, some methodFirst⟩ ∧
      namesake.compare ⟨⟨true, []⟩, some methodFirst⟩ ≠ [] :=
  ⟨by decide, ⟨_, .some ⟨_, List.reverse_perm _, rfl⟩, rfl⟩, by decide⟩

end ClassQuestion

end CodeGrading
