import CodeGrading.Structure
import CodeGrading.Proofs.Overloads.OneToOne
import CodeGrading.Proofs.Overloads.Pairing
import Mathlib.Data.List.Forall2
import Mathlib.Data.Option.Basic

/-!
Agreement of a required method with a compiled one, and of whole overload sets.

`mismatches_eq_nil` says what no mismatch means. A set whose pairs all agree corresponds one to
one to the compiled methods (`oneToOne_of_pairOverloads`), and if there is such a correspondence
and no two required methods differ although their parameter types agree, then all the pairs agree
(`agrees_of_mem_pairOverloads`). Without the last condition it is the order of the two lists that
decides (`mem_pairOverloads_of_heads`).
-/

namespace CodeGrading

namespace TypeName

theorem sameParameters_iff {as bs : List String} :
    SameParameters as bs ↔ List.Forall₂ Same as bs := by
  rw [SameParameters, ← List.forall₂_eq_eq_eq, List.forall₂_map_left_iff,
    List.forall₂_map_right_iff]

theorem sameReturn_iff {a b : Option String} : SameReturn a b ↔ Option.Rel Same a b := by
  cases a <;> cases b <;> simp [SameReturn]

end TypeName

/-- A compiled method is what a required one asks for, its name apart. -/
structure RequiredMethod.Agrees (r : RequiredMethod) (c : MethodDefinition) : Prop where
  visibility : r.isPublic = c.isPublic
  staticness : r.isStatic = c.isStatic
  parameters : List.Forall₂ TypeName.Same r.paramTypes c.parameterTypes
  returnType : Option.Rel TypeName.Same r.returnType c.returnType

theorem mismatches_eq_nil {r : RequiredMethod} {c : MethodDefinition} :
    mismatches r c = [] ↔ r.Agrees c := by
  have nil_iff (p : Prop) [Decidable p] (property : MethodProperty) :
      (if p then [] else [property]) = [] ↔ p := by
    by_cases h : p <;> simp [h]
  simp only [mismatches, List.append_eq_nil_iff, nil_iff]
  rw [TypeName.sameParameters_iff, TypeName.sameReturn_iff]
  constructor
  · rintro ⟨⟨⟨visibility, staticness⟩, parameters⟩, returnType⟩
    exact ⟨visibility, staticness, parameters, returnType⟩
  · rintro ⟨visibility, staticness, parameters, returnType⟩
    exact ⟨⟨⟨visibility, staticness⟩, parameters⟩, returnType⟩

/-- Required methods that agree with one compiled method ask for the same, their names apart. -/
theorem RequiredMethod.Agrees.same {r s : RequiredMethod} {c : MethodDefinition} (hr : r.Agrees c)
    (hs : s.Agrees c) : r.isPublic = s.isPublic ∧ r.isStatic = s.isStatic ∧
      Option.Rel TypeName.Same r.returnType s.returnType := by
  have returnType : TypeName.SameReturn r.returnType s.returnType :=
    (TypeName.sameReturn_iff.mpr hr.returnType).trans
      (TypeName.sameReturn_iff.mpr hs.returnType).symm
  exact ⟨hr.visibility.trans hs.visibility.symm, hr.staticness.trans hs.staticness.symm,
    TypeName.sameReturn_iff.mp returnType⟩

/-! ## Parameter types -/

/-- The parameter types as they are compared. -/
def RequiredMethod.parameters (r : RequiredMethod) : List String :=
  r.paramTypes.map TypeName.erase

def MethodDefinition.parameters (c : MethodDefinition) : List String :=
  c.parameterTypes.map TypeName.erase

theorem agreesOnParameters_iff {r : RequiredMethod} {c : MethodDefinition} :
    agreesOnParameters r c = true ↔ r.parameters = c.parameters := by
  simp [agreesOnParameters, RequiredMethod.parameters, MethodDefinition.parameters]

theorem agreesOnParameters_eq_false {r : RequiredMethod} {c : MethodDefinition} :
    agreesOnParameters r c = false ↔ r.parameters ≠ c.parameters := by
  rw [Ne, ← agreesOnParameters_iff, Bool.not_eq_true]

/-- What the pairing of methods with positions compares. -/
theorem agreesOnParameters_numbered (r : RequiredMethod) (c : MethodDefinition × Nat) :
    agreesOnParameters r c.1 = true ↔ r.parameters = c.1.parameters :=
  agreesOnParameters_iff

theorem map_parameters_zipIdx (compiled : List MethodDefinition) :
    (compiled.zipIdx.map fun c => c.1.parameters) = compiled.map (·.parameters) := by
  conv_rhs => rw [← List.zipIdx_map_fst 0 compiled, List.map_map]
  rfl

/-! ## Pairs of an overload set -/

variable {required : List RequiredMethod} {compiled : List MethodDefinition}

theorem mem_pairOverloads {r : RequiredMethod} {c : MethodDefinition} :
    (r, c) ∈ pairOverloads required compiled ↔
      ∃ i, (r, c, i) ∈ pairOverloadsAt required compiled := by
  simp [pairOverloads]

theorem pairOverloadsAt_fst (length : compiled.length = required.length) :
    (pairOverloadsAt required compiled).map Prod.fst = required :=
  pairUp_fst (by simp [length])

theorem pairOverloadsAt_snd_perm (length : compiled.length = required.length) :
    ((pairOverloadsAt required compiled).map Prod.snd).Perm compiled.zipIdx :=
  pairUp_snd_perm (by simp [length])

theorem pairOverloads_fst (length : compiled.length = required.length) :
    (pairOverloads required compiled).map Prod.fst = required := by
  rw [pairOverloads, List.map_map]
  exact pairOverloadsAt_fst length

theorem pairOverloads_snd_perm (length : compiled.length = required.length) :
    ((pairOverloads required compiled).map Prod.snd).Perm compiled := by
  have perm := (pairOverloadsAt_snd_perm length).map Prod.fst
  rw [List.zipIdx_map_fst, List.map_map] at perm
  rw [pairOverloads, List.map_map]
  exact perm

theorem oneToOne_of_pairOverloads {R : RequiredMethod → MethodDefinition → Prop}
    (length : compiled.length = required.length)
    (related : ∀ r c, (r, c) ∈ pairOverloads required compiled → R r c) :
    OneToOne R required compiled := by
  apply oneToOne_of_pairs (pairOverloadsAt_fst length) (pairOverloadsAt_snd_perm length)
  intro r c i mem
  exact related r c (mem_pairOverloads.mpr ⟨i, mem⟩)

theorem mem_of_mem_pairOverloads {r : RequiredMethod} {c : MethodDefinition}
    (length : compiled.length = required.length) (mem : (r, c) ∈ pairOverloads required compiled) :
    r ∈ required ∧ c ∈ compiled := by
  obtain ⟨i, mem⟩ := mem_pairOverloads.mp mem
  have left : r ∈ (pairOverloadsAt required compiled).map Prod.fst := List.mem_map_of_mem mem
  have right : (c, i) ∈ (pairOverloadsAt required compiled).map Prod.snd := List.mem_map_of_mem mem
  rw [pairOverloadsAt_fst length] at left
  exact ⟨left, List.fst_mem_of_mem_zipIdx ((pairOverloadsAt_snd_perm length).mem_iff.mp right)⟩

/-- Every compiled method is somebody's counterpart. -/
theorem exists_mem_pairOverloadsAt {c : MethodDefinition}
    (length : compiled.length = required.length) (mem : c ∈ compiled) :
    ∃ r i, (r, c, i) ∈ pairOverloadsAt required compiled := by
  have held := (pairOverloads_snd_perm length).mem_iff.mpr mem
  obtain ⟨⟨r, x⟩, pair, eq⟩ := List.mem_map.mp held
  obtain ⟨i, numbered⟩ := mem_pairOverloads.mp pair
  exact ⟨r, i, eq ▸ numbered⟩

/-- Where the parameter types can be matched up, every pair agrees on them. -/
theorem parameters_of_mem_pairOverloads {r : RequiredMethod} {c : MethodDefinition}
    (matched : OneToOne (fun r c => TypeName.SameParameters r.paramTypes c.parameterTypes)
      required compiled)
    (mem : (r, c) ∈ pairOverloads required compiled) :
    TypeName.SameParameters r.paramTypes c.parameterTypes := by
  obtain ⟨i, mem⟩ := mem_pairOverloads.mp mem
  have keys : (required.map (·.parameters)).Perm
      (compiled.zipIdx.map fun c => c.1.parameters) := by
    rw [map_parameters_zipIdx]
    exact matched.keys_perm fun _ _ same => same
  exact pairUp_fits agreesOnParameters_numbered keys mem

/-- The first members of the two sets are paired where they agree on the parameter types, whatever
else they differ in. -/
theorem mem_pairOverloads_of_heads {r : RequiredMethod} {c : MethodDefinition}
    (same : TypeName.SameParameters r.paramTypes c.parameterTypes) :
    (r, c) ∈ pairOverloads (r :: required) (c :: compiled) := by
  refine mem_pairOverloads.mpr ⟨0, ?_⟩
  rw [pairOverloadsAt, List.zipIdx_cons]
  exact mem_pairUp_of_heads (by simpa [agreesOnParameters] using same)

/-- Methods that stand in the order in which they are required are paired in this order. -/
theorem pairOverloads_of_forall₂
    (aligned : List.Forall₂ (fun r c => TypeName.SameParameters r.paramTypes c.parameterTypes)
      required compiled) : pairOverloads required compiled = required.zip compiled := by
  have numbered : List.Forall₂ (fun r c => agreesOnParameters r c.1 = true) required
      compiled.zipIdx := by
    rw [← List.zipIdx_map_fst 0 compiled, List.forall₂_map_right_iff] at aligned
    exact aligned.imp fun r c same => by simpa [agreesOnParameters] using same
  rw [pairOverloads, pairOverloadsAt, pairUp_of_forall₂ numbered]
  conv_rhs => rw [← List.zipIdx_map_fst 0 compiled, List.zip_map_right]
  rfl

/-- No two required methods differ although their parameter types agree. -/
def Unambiguous (required : List RequiredMethod) : Prop :=
  ∀ r ∈ required, ∀ s ∈ required, List.Forall₂ TypeName.Same r.paramTypes s.paramTypes →
    r.isPublic = s.isPublic ∧ r.isStatic = s.isStatic ∧
      Option.Rel TypeName.Same r.returnType s.returnType

/-- The counterpart that the pairing gives has the parameter types of the one that the
correspondence gives, so both ask for the same. -/
theorem agrees_of_mem_pairOverloads {r : RequiredMethod} {c : MethodDefinition}
    (unambiguous : Unambiguous required)
    (matched : OneToOne RequiredMethod.Agrees required compiled)
    (mem : (r, c) ∈ pairOverloads required compiled) : r.Agrees c := by
  have parameters : TypeName.SameParameters r.paramTypes c.parameterTypes := by
    apply parameters_of_mem_pairOverloads _ mem
    exact matched.imp fun _ _ _ _ h => TypeName.sameParameters_iff.mpr h.parameters
  obtain ⟨hr, hc⟩ := mem_of_mem_pairOverloads matched.length_eq.symm mem
  obtain ⟨s, hs, agrees⟩ := matched.exists_left hc
  have same : TypeName.SameParameters r.paramTypes s.paramTypes :=
    parameters.trans (TypeName.sameParameters_iff.mpr agrees.parameters).symm
  obtain ⟨visibility, staticness, returnType⟩ :=
    unambiguous r hr s hs (TypeName.sameParameters_iff.mp same)
  refine ⟨visibility.trans agrees.visibility, staticness.trans agrees.staticness,
    TypeName.sameParameters_iff.mp parameters, TypeName.sameReturn_iff.mp ?_⟩
  exact (TypeName.sameReturn_iff.mpr returnType).trans
    (TypeName.sameReturn_iff.mpr agrees.returnType)

end CodeGrading
