import CodeGrading.Proofs.Overloads.Remainder
import CodeGrading.Proofs.Structure.Reporting

/-!
Which counterparts the overloads of a name get. No other way to give every required method one of
its own finds more with the same parameter types, nor reports fewer errors about them
(`counterparts_optimal`). A required method without such a counterpart gets one with its number of
parameters, in the order of both lists, wherever what is left has the same numbers on both sides
(`leftover_counterparts_keep_arity`).
-/

namespace CodeGrading

def RequiredMethod.arity (r : RequiredMethod) : Nat :=
  r.paramTypes.length

def MethodDefinition.arity (c : MethodDefinition) : Nat :=
  c.parameterTypes.length

theorem agreesOnArity_iff {r : RequiredMethod} {c : MethodDefinition} :
    agreesOnArity r c = true ↔ r.arity = c.arity := by
  rw [agreesOnArity, beq_iff_eq]
  exact eq_comm

theorem RequiredMethod.length_parameters (r : RequiredMethod) : r.parameters.length = r.arity :=
  List.length_map _

theorem MethodDefinition.length_parameters (c : MethodDefinition) :
    c.parameters.length = c.arity :=
  List.length_map _

/-- How many required methods have a counterpart with their parameter types. -/
def agreements (pairs : List (RequiredMethod × MethodDefinition × Nat)) : Nat :=
  pairs.countP fun (r, c, _) => agreesOnParameters r c

/-- How many errors say that parameter types differ. -/
def parameterErrors (errors : List StructuralError) : Nat :=
  errors.countP fun
    | .methodDefinition e => e.mismatches.contains .parameterTypes
    | _ => false

/-- What is reported of a name whose required methods have these counterparts. -/
def ClassQuestion.counterpartErrors (q : ClassQuestion) (name : String)
    (pairs : List (RequiredMethod × MethodDefinition × Nat)) : List StructuralError :=
  pairs.filterMap fun (r, c, _) => q.definitionError? name r c

/-! ## Errors -/

theorem agreements_add_disagreements
    (pairs : List (RequiredMethod × MethodDefinition × Nat)) :
    agreements pairs + pairs.countP (fun x => !agreesOnParameters x.1 x.2.1) = pairs.length := by
  have split := List.length_eq_countP_add_countP
    (fun x : RequiredMethod × MethodDefinition × Nat => agreesOnParameters x.1 x.2.1) (l := pairs)
  simpa [agreements] using split.symm

namespace ClassQuestion

variable {q : ClassQuestion} {d : ClassDefinition} {p : ClassPayload} {name : String}

theorem counterpartErrors_cons (r : RequiredMethod) (c : MethodDefinition) (i : Nat)
    (pairs : List (RequiredMethod × MethodDefinition × Nat)) :
    q.counterpartErrors name ((r, c, i) :: pairs) =
      (q.definitionError? name r c).toList ++ q.counterpartErrors name pairs := by
  cases found : q.definitionError? name r c <;> simp [counterpartErrors, found]

theorem counterpartErrors_append (pairs pairs' : List (RequiredMethod × MethodDefinition × Nat)) :
    q.counterpartErrors name (pairs ++ pairs') =
      q.counterpartErrors name pairs ++ q.counterpartErrors name pairs' :=
  List.filterMap_append

theorem counterpartErrors_congr {q' : ClassQuestion} (className : q'.className = q.className)
    (pairs : List (RequiredMethod × MethodDefinition × Nat)) :
    q'.counterpartErrors name pairs = q.counterpartErrors name pairs := by
  simp only [counterpartErrors, definitionError?_congr className]

/-- A comparison reports of each name what its counterparts give rise to. -/
theorem errorsNamed_compare (success : p.compilation.success = true)
    (definition : p.definition = some d)
    (counted : (d.methodsNamed name).length = (q.requiredNamed name).length) :
    errorsNamed name (q.compare p) =
      q.counterpartErrors name (pairOverloadsAt (q.requiredNamed name) (d.methodsNamed name)) := by
  rw [compare_of_compiled success definition, errorsNamed_definitionErrors]
  split
  · rw [overloadErrors, if_pos counted, pairOverloads, List.filterMap_map]
    rfl
  · rename_i unasked
    have empty : q.requiredNamed name = [] := by simpa using mt requiredNamed_ne_nil.mp unasked
    simp [empty, counterpartErrors, pairOverloadsAt, pairUp, pairFitting, pairRest]

theorem parameterErrors_counterpartErrors (pairs : List (RequiredMethod × MethodDefinition × Nat)) :
    parameterErrors (q.counterpartErrors name pairs) =
      pairs.countP fun x => !agreesOnParameters x.1 x.2.1 := by
  rw [parameterErrors, counterpartErrors, List.countP_filterMap]
  congr 1
  funext ⟨r, c, _⟩
  have listed : (mismatches r c).contains .parameterTypes = !agreesOnParameters r c := by
    simp [mismatches, agreesOnParameters]
  cases found : mismatches r c with
  | nil => simpa [definitionError?, found] using listed
  | cons property more => simpa [definitionError?, found] using listed

end ClassQuestion

/-! ## Counterparts -/

variable {required : List RequiredMethod} {compiled : List MethodDefinition}

theorem exists_eq_pairOverloadsAt (length : compiled.length = required.length) :
    ∃ σ : Fin required.length ≃ Fin compiled.length,
      pairOverloadsAt required compiled = pairsAt required compiled σ :=
  exists_eq_pairsAt (pairOverloadsAt_fst length) (pairOverloadsAt_snd_perm length)

theorem disagreements_pairOverloadsAt_le (length : compiled.length = required.length)
    (τ : Fin required.length ≃ Fin compiled.length) :
    (pairOverloadsAt required compiled).countP (fun x => !agreesOnParameters x.1 x.2.1) ≤
      (pairsAt required compiled τ).countP fun x => !agreesOnParameters x.1 x.2.1 :=
  countP_unfit_pairUp_le agreesOnParameters_numbered (by simp [length]) (.of_eq (pairsAt_fst τ))
    (pairsAt_snd_perm τ)

theorem agreements_pairsAt_le (length : compiled.length = required.length)
    (τ : Fin required.length ≃ Fin compiled.length) :
    agreements (pairsAt required compiled τ) ≤ agreements (pairOverloadsAt required compiled) := by
  have all := congrArg List.length (pairOverloadsAt_fst length)
  have all_τ := congrArg List.length (pairsAt_fst τ)
  rw [List.length_map, ← agreements_add_disagreements] at all all_τ
  have fewer := disagreements_pairOverloadsAt_le length τ
  omega

/-- **No better counterparts.** The required methods of a set get their counterparts by a one-to-one
correspondence of positions. None other finds more counterparts with the required parameter types,
no exchange of two counterparts finds one, and none other reports fewer errors about parameter
types. -/
theorem counterparts_optimal (length : compiled.length = required.length) :
    ∃ σ : Fin required.length ≃ Fin compiled.length,
      pairOverloadsAt required compiled = pairsAt required compiled σ ∧
      (∀ τ, agreements (pairsAt required compiled τ) ≤ agreements (pairsAt required compiled σ)) ∧
      (∀ i j, required[i].parameters ≠ compiled[σ i].parameters →
        required[j].parameters ≠ compiled[σ j].parameters →
        required[i].parameters ≠ compiled[σ j].parameters) ∧
      ∀ (q : ClassQuestion) (p : ClassPayload) (d : ClassDefinition) (name : String),
        p.compilation.success = true → p.definition = some d →
        q.requiredNamed name = required → d.methodsNamed name = compiled →
        errorsNamed name (q.compare p) = q.counterpartErrors name (pairsAt required compiled σ) ∧
          ∀ τ, parameterErrors (q.counterpartErrors name (pairsAt required compiled σ)) ≤
            parameterErrors (q.counterpartErrors name (pairsAt required compiled τ)) := by
  obtain ⟨σ, paired⟩ := exists_eq_pairOverloadsAt length
  refine ⟨σ, paired, ?_, ?_, ?_⟩
  · intro τ
    rw [← paired]
    exact agreements_pairsAt_le length τ
  · intro i j differs_i differs_j
    have mem (k : Fin required.length) : (required[k], compiled[σ k], (σ k).val) ∈
        pairOverloadsAt required compiled := paired ▸ mem_pairsAt σ k
    rw [← agreesOnParameters_eq_false] at differs_i differs_j ⊢
    exact pairUp_unexchangeable (mem i) (mem j) differs_i differs_j
  · rintro q p d name success definition rfl rfl
    refine ⟨?_, fun τ => ?_⟩
    · rw [ClassQuestion.errorsNamed_compare success definition length, paired]
    · rw [ClassQuestion.parameterErrors_counterpartErrors,
        ClassQuestion.parameterErrors_counterpartErrors, ← paired]
      exact disagreements_pairOverloadsAt_le length τ

/-- Four methods that a class must declare under one name. -/
def crossedRequired : List RequiredMethod :=
  [["int"], ["int", "int"], ["List<String>"], ["long"]].map fun types =>
    ⟨"sum", true, false, types, some "int"⟩

/-- Four methods of the name of which only one has parameter types that are asked for. -/
def crossedCompiled : List MethodDefinition :=
  [["char", "char"], ["List"], ["float"], ["char"]].map fun types =>
    ⟨"sum", true, false, types, some "int"⟩

theorem crossed_agree_at_most_once :
    crossedCompiled.length = crossedRequired.length ∧
      ∀ τ, agreements (pairsAt crossedRequired crossedCompiled τ) ≤ 1 := by
  have length : crossedCompiled.length = crossedRequired.length := by decide
  obtain ⟨σ, paired, most, _⟩ := counterparts_optimal length
  have once : agreements (pairsAt crossedRequired crossedCompiled σ) = 1 := by
    rw [← paired]
    decide
  exact ⟨length, fun τ => once ▸ most τ⟩

/-! ## What is left over -/

/-- If taking out methods that agree, in any way, leaves the same numbers of parameters on both
sides, then so does the first pass of the pairing. -/
theorem arities_left {required' : List RequiredMethod} {compiled' : List MethodDefinition}
    (rest : Remainder agreesOnParameters required compiled required' compiled')
    (arities : (required'.map (·.arity)).Perm (compiled'.map (·.arity))) :
    ((alone (pairFitting (fun r c => agreesOnParameters r c.1) required compiled.zipIdx).1).map
      (·.arity)).Perm
    ((pairFitting (fun r c => agreesOnParameters r c.1) required compiled.zipIdx).2.map
      fun c : MethodDefinition × Nat => c.1.arity) := by
  have keys := rest.keys_left fun r c => @agreesOnParameters_iff r c
  have keys' :=
    (remainder_pairFitting required compiled.zipIdx).keys_left agreesOnParameters_numbered
  rw [map_parameters_zipIdx] at keys'
  have left := (Multiset.coe_eq_coe.mp (keys'.1.trans keys.1.symm)).map List.length
  have right := (Multiset.coe_eq_coe.mp (keys.2.trans keys'.2.symm)).map List.length
  simp only [List.map_map, Function.comp_def, RequiredMethod.length_parameters,
    MethodDefinition.length_parameters] at left right
  exact left.trans (arities.trans right)

/-- **Leftovers keep their arity.** Where what is left once methods that agree are taken out has the
same numbers of parameters on both sides, every required method gets a counterpart with its number
of parameters, and those without a counterpart that agrees get theirs in the order of both lists. -/
theorem leftover_counterparts_keep_arity (length : compiled.length = required.length)
    {required' : List RequiredMethod} {compiled' : List MethodDefinition}
    (rest : Remainder agreesOnParameters required compiled required' compiled')
    (arities : (required'.map (·.arity)).Perm (compiled'.map (·.arity))) :
    ∃ σ : Fin required.length ≃ Fin compiled.length,
      pairOverloadsAt required compiled = pairsAt required compiled σ ∧
      (∀ i, required[i].arity = compiled[σ i].arity) ∧
      ∀ i j, i < j → required[i].parameters ≠ compiled[σ i].parameters →
        required[j].parameters ≠ compiled[σ j].parameters →
        required[i].arity = required[j].arity → σ i < σ j := by
  obtain ⟨σ, paired⟩ := exists_eq_pairOverloadsAt length
  have nearness (r : RequiredMethod) (c : MethodDefinition × Nat) :
      agreesOnArity r c.1 = true ↔ r.arity = c.1.arity := agreesOnArity_iff
  have same := arities_left rest arities
  refine ⟨σ, paired, fun i => ?_, fun i j before differs_i differs_j sameArity => ?_⟩
  · have agreement (r : RequiredMethod) (c : MethodDefinition × Nat)
        (agrees : agreesOnParameters r c.1 = true) : r.arity = c.1.arity := by
      have parameters := congrArg List.length (agreesOnParameters_iff.mp agrees)
      rwa [r.length_parameters, c.1.length_parameters] at parameters
    exact pairUp_near agreement nearness same (paired ▸ mem_pairsAt σ i)
  · have sorted : compiled.zipIdx.Pairwise fun c c' => c.2 < c'.2 := by
      rw [← List.pairwise_map (f := Prod.snd), List.zipIdx_map_snd]
      exact List.pairwise_lt_range'
    have inOrder := pairUp_sorted nearness same sorted
    rw [← pairOverloadsAt, paired, List.pairwise_filter, pairwise_pairsAt] at inOrder
    simp only [Bool.not_eq_true', agreesOnParameters_eq_false] at inOrder
    exact inOrder i j before differs_i differs_j sameArity

theorem crossed_keep_arity :
    crossedCompiled.length = crossedRequired.length ∧
      Remainder agreesOnParameters crossedRequired crossedCompiled (crossedRequired.eraseIdx 2)
        (crossedCompiled.eraseIdx 1) ∧
      ((crossedRequired.eraseIdx 2).map (·.arity)).Perm
        ((crossedCompiled.eraseIdx 1).map (·.arity)) ∧
      ∃ σ, pairOverloadsAt crossedRequired crossedCompiled =
          pairsAt crossedRequired crossedCompiled σ ∧
        ∀ i, crossedRequired[i].arity = crossedCompiled[σ i].arity := by
  have length : crossedCompiled.length = crossedRequired.length := by decide
  have rest : Remainder agreesOnParameters crossedRequired crossedCompiled
      (crossedRequired.eraseIdx 2) (crossedCompiled.eraseIdx 1) :=
    ⟨⟨[(crossedRequired[2], crossedCompiled[1])], by decide, by decide, by decide⟩, by decide⟩
  have arities : ((crossedRequired.eraseIdx 2).map (·.arity)).Perm
      ((crossedCompiled.eraseIdx 1).map (·.arity)) := by decide
  obtain ⟨σ, paired, keep, _⟩ := leftover_counterparts_keep_arity length rest arities
  exact ⟨length, rest, arities, σ, paired, keep⟩

end CodeGrading
