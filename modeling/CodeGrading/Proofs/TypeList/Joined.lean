import CodeGrading.Proofs.Question.Stored
import CodeGrading.Proofs.Structure.OneMethod
import CodeGrading.Proofs.Structure.Reporting
import CodeGrading.Proofs.TypeList.Parts

/-!
Joined lists of types. What `split` makes of a text is fixed by its trimmed parts (`split_eq`), and
the trimmed parts of joined types are the types, as long as these can be told apart
(`trimmedTexts_intercalate`). Canonical lists can, and so can the types of any text, closed or not.
So nothing is lost on the way through one text, be it the text of a question or that of a diagnostic
(`joined_types_read_back`).
-/

namespace CodeGrading

namespace TypeList

/-- A list that can be told from its types joined in one text: it is not the empty type alone, and
every type is trimmed, has no comma outside its brackets and closes the ones that it opens. -/
structure Canonical (types : List String) : Prop where
  ne : types ≠ [""]
  trimmed : ∀ t ∈ types, Text.trim t = t
  noComma : ∀ t ∈ types, commasOutside 0 t.toList = []
  closed : ∀ t ∈ types, TypeName.openAfter 0 t.toList = 0

instance (types : List String) : Decidable (Canonical types) :=
  decidable_of_iff
    (types ≠ [""] ∧ (∀ t ∈ types, Text.trim t = t) ∧ (∀ t ∈ types, commasOutside 0 t.toList = []) ∧
      ∀ t ∈ types, TypeName.openAfter 0 t.toList = 0)
    ⟨fun ⟨ne, trimmed, noComma, closed⟩ => ⟨ne, trimmed, noComma, closed⟩,
      fun ⟨ne, trimmed, noComma, closed⟩ => ⟨ne, trimmed, noComma, closed⟩⟩

/-! ## Splitting -/

/-- The only part of a blank text is blank, and no other text is like that. -/
theorem all_isBlank_iff {cs : List Char} :
    cs.all Text.isBlank = true ↔ trimmedTexts 0 cs = [[]] := by
  rw [List.all_eq_true, trimmedTexts]
  constructor
  · intro blank
    rw [texts_blanks blank, List.map_singleton, Text.trimChars_eq_nil.mpr blank]
  · intro single
    obtain ⟨t, read, empty⟩ := List.map_eq_singleton_iff.mp single
    have joined := intercalate_texts 0 cs
    rw [read, List.intercalate_singleton] at joined
    exact Text.trimChars_eq_nil.mp (joined ▸ empty)

theorem split_eq (s : String) :
    split s =
      if trimmedTexts 0 s.toList = [[]] then []
      else (trimmedTexts 0 s.toList).map String.ofList := by
  rw [split]
  by_cases blank : trimmedTexts 0 s.toList = [[]]
  · rw [if_pos blank, if_pos (all_isBlank_iff.mpr blank)]
  · rw [if_neg blank, if_neg (mt all_isBlank_iff.mp blank), trimmedTexts, List.map_map]
    rfl

theorem split_eq_nil {s : String} : split s = [] ↔ ∀ c ∈ s.toList, Text.isBlank c = true := by
  rw [← List.all_eq_true, all_isBlank_iff, split_eq]
  by_cases blank : trimmedTexts 0 s.toList = [[]]
  · rw [if_pos blank]
    exact iff_of_true rfl blank
  · rw [if_neg blank]
    exact iff_of_false (by simp [trimmedTexts, texts]) blank

theorem split_eq_parts {s : String} (nonempty : split s ≠ []) :
    split s = (parts 0 s.toList).map fun part => String.ofList (Text.trimChars part) := by
  have notBlank : trimmedTexts 0 s.toList ≠ [[]] := by
    intro blank
    rw [split_eq, if_pos blank] at nonempty
    exact nonempty rfl
  rw [split_eq, if_neg notBlank, trimmedTexts, texts_eq_parts, List.map_map]
  rfl

/-! ## Joining -/

theorem toList_join (types : List String) :
    (join types).toList = [',', ' '].intercalate (types.map (·.toList)) :=
  String.toList_intercalate

theorem trimmedTexts_intercalate {depth : Nat} {ts : List (List Char)}
    (separable : Separable depth ts) (trimmed : ∀ t ∈ ts, Text.trimChars t = t) :
    trimmedTexts depth ([',', ' '].intercalate ts) = ts := by
  induction separable with
  | @last depth t single =>
    rw [List.intercalate_singleton, trimmedTexts, commasOutside_eq_nil.mp single,
      List.map_singleton, trimmed t List.mem_cons_self]
  | @cons depth t ts single closed rest ih =>
    obtain ⟨first, trimmed⟩ := List.forall_mem_cons.mp trimmed
    obtain ⟨next, more, rfl⟩ : ∃ next more, ts = next :: more := by
      cases rest <;> exact ⟨_, _, rfl⟩
    -- the blank behind the comma stands in front of the next part
    have behind : trimmedTexts 0 (' ' :: [',', ' '].intercalate (next :: more)) = next :: more := by
      rw [← ih trimmed]
      have blank : ∀ c ∈ [' '], Text.isBlank c = true := List.forall_mem_singleton.mpr rfl
      simpa [ih trimmed] using
        trimmedTexts_around blank (List.forall_mem_nil _) 0 ([',', ' '].intercalate (next :: more))
    rw [List.intercalate_cons_cons, List.append_assoc, trimmedTexts,
      texts_append_of_single (commasOutside_eq_nil.mp single), closed, List.cons_append,
      texts_comma, List.modifyHead_cons, List.append_nil, List.map_cons, first]
    exact congrArg (t :: ·) behind

theorem split_join_ofList {ts : List (List Char)} (separable : Separable 0 ts)
    (trimmed : ∀ t ∈ ts, Text.trimChars t = t) (ne : ts ≠ [[]]) :
    split (join (ts.map String.ofList)) = ts.map String.ofList := by
  have joined : (join (ts.map String.ofList)).toList = [',', ' '].intercalate ts := by
    rw [toList_join, List.map_map]
    simp [Function.comp_def]
  rw [split_eq, joined, trimmedTexts_intercalate separable trimmed, if_neg ne]

theorem Canonical.separable {types : List String} (canonical : Canonical types)
    (nonempty : types ≠ []) : Separable 0 (types.map (·.toList)) := by
  obtain ⟨-, -, noComma, closed⟩ := canonical
  induction types with
  | nil => exact absurd rfl nonempty
  | cons t types ih =>
    obtain ⟨single, noComma⟩ := List.forall_mem_cons.mp noComma
    obtain ⟨shut, closed⟩ := List.forall_mem_cons.mp closed
    cases types with
    | nil => exact .last single
    | cons next more => exact .cons single shut (ih (List.cons_ne_nil _ _) noComma closed)

theorem Canonical.split_join {types : List String} (canonical : Canonical types) :
    split (join types) = types := by
  obtain rfl | nonempty := eq_or_ne types []
  · rfl
  · have back : (types.map (·.toList)).map String.ofList = types := by simp
    have trimmed : ∀ t ∈ types.map (·.toList), Text.trimChars t = t := by
      intro t mem
      obtain ⟨name, listed, rfl⟩ := List.mem_map.mp mem
      rw [← canonical.trimmed name listed, Text.trim, String.toList_ofList,
        Text.trimChars_trimChars]
    have ne : types.map (·.toList) ≠ [[]] := by
      intro empty
      rw [empty] at back
      exact canonical.ne back.symm
    simpa only [back] using split_join_ofList (canonical.separable nonempty) trimmed ne

/-- The types of a text can be told apart, though the last one need not close its brackets. -/
theorem split_join_split (s : String) : split (join (split s)) = split s := by
  rw [split_eq s]
  by_cases blank : trimmedTexts 0 s.toList = [[]]
  · rw [if_pos blank]
    rfl
  · rw [if_neg blank]
    refine split_join_ofList (separable_texts 0 s.toList).trimmed ?_ blank
    intro t mem
    obtain ⟨part, -, rfl⟩ := List.mem_map.mp mem
    exact Text.trimChars_trimChars part

/-! ## Documents -/

theorem decode_array {types : List String} (trimmed : ∀ t ∈ types, Text.trim t = t)
    (delivery : Delivery) : codec.decode delivery (.array (types.map .string)) = .ok types :=
  (@keeps_trimmed 0 _ trimmed).decode delivery

theorem decode_string (delivery : Delivery) (s : String) :
    codec.decode delivery (.string s) = .ok (split s) := rfl

end TypeList

/-! ## Diagnostics -/

/-- An error about the declaration of a method is about one that the question requires. -/
theorem ClassQuestion.exists_reports {q : ClassQuestion} {p : ClassPayload} {e : DefinitionError}
    (mem : .methodDefinition e ∈ q.compare p) :
    ∃ r ∈ q.requiredMethods, ∃ c, e.Reports q.className (r.matchName q.className) r c := by
  unfold compare at mem
  split at mem
  · split at mem
    · rw [definitionErrors_eq, List.mem_append, List.mem_flatMap] at mem
      rcases mem with field | ⟨name, -, mem⟩
      · cases methodName?_of_mem_fieldErrors field
      · rcases eq_of_mem_overloadErrors mem with count | ⟨r, required, c, e', eq, reports⟩
        · cases count
        · obtain rfl := StructuralError.methodDefinition.inj eq
          obtain ⟨required, named⟩ := List.mem_filter.mp required
          exact ⟨r, required, c, beq_iff_eq.mp named ▸ reports⟩
    · cases List.mem_singleton.mp mem
  · cases List.mem_singleton.mp mem

theorem MethodQuestion.eq_signatureError {q : MethodQuestion} {p : MethodPayload}
    {e : SignatureError} (mem : .methodSignature e ∈ q.compare p) : e = q.signatureError := by
  unfold compare at mem
  split at mem
  · split at mem
    · split at mem
      · cases mem
      · exact Diagnostic.methodSignature.inj (List.mem_singleton.mp mem)
    · exact Diagnostic.methodSignature.inj (List.mem_singleton.mp mem)
  · cases List.mem_singleton.mp mem

/-- **Joined types are read back.** A canonical list is what splitting its joined text gives, so it
is decoded alike from an array and from one text. A text has no type exactly when it is blank, and
otherwise one more than it has commas outside brackets: what stands between these commas, trimmed.
Joining the types of a text and splitting again gives the same types, so the parameter types that a
diagnostic shows are those of the required method, if these were read from one text. -/
theorem TypeList.joined_types_read_back :
    (∀ types, Canonical types → split (join types) = types ∧ ∀ delivery,
      codec.decode delivery (.array (types.map .string)) = .ok types ∧
        codec.decode delivery (.string (join types)) = .ok types) ∧
      (∀ s, (split s = [] ↔ ∀ c ∈ s.toList, Text.isBlank c = true) ∧
        (split s ≠ [] → (split s).length = (commasOutside 0 s.toList).length + 1 ∧
          split s = (parts 0 s.toList).map fun part => String.ofList (Text.trimChars part)) ∧
        split (join (split s)) = split s) ∧
      (∀ (q : ClassQuestion) (p : ClassPayload) (e : DefinitionError),
        .methodDefinition e ∈ q.compare p →
          ∃ r ∈ q.requiredMethods, ∃ c, e.Reports q.className (r.matchName q.className) r c ∧
            ∀ delivery s, codec.decode delivery (.string s) = .ok r.paramTypes →
              split e.expectedParamTypes = r.paramTypes) ∧
      ∀ (q : MethodQuestion) (p : MethodPayload) (e : SignatureError),
        .methodSignature e ∈ q.compare p →
          ∀ delivery s, codec.decode delivery (.string s) = .ok q.parameterTypes →
            split e.expectedParamTypes = q.parameterTypes := by
  have shown {delivery : Delivery} {s : String} {types : List String}
      (decoded : codec.decode delivery (.string s) = .ok types) : split (join types) = types := by
    obtain rfl := Except.ok.inj (decode_string delivery s ▸ decoded)
    exact split_join_split s
  refine ⟨?_, ?_, ?_, ?_⟩
  · intro types canonical
    refine ⟨canonical.split_join, fun delivery => ⟨decode_array canonical.trimmed delivery, ?_⟩⟩
    rw [decode_string, canonical.split_join]
  · intro s
    refine ⟨split_eq_nil, fun nonempty => ⟨?_, split_eq_parts nonempty⟩, split_join_split s⟩
    rw [split_eq_parts nonempty, List.length_map, ← texts_eq_parts, length_texts]
  · intro q p e mem
    obtain ⟨r, required, c, reports⟩ := q.exists_reports mem
    refine ⟨r, required, c, reports, fun delivery s decoded => ?_⟩
    rw [reports.parameters, shown decoded]
  · intro q p e mem delivery s decoded
    rw [q.eq_signatureError mem]
    exact shown decoded

section ReadBack

open TypeList
open ClassQuestion (overloaded crowded)
open MethodQuestion (merging)

/-- What is said of the overload of `crowded` that is not public. -/
def hiddenScale : DefinitionError where
  className := "Shape"
  expectedMethodName := "scale"
  expectedPublic := true
  expectedStatic := false
  expectedParamTypes := "List<Integer>"
  expectedReturnType := some "void"
  mismatches := [.visibility]

theorem crowded_and_unmerged_read_back :
    (Canonical ["Map<K, List<V>>", "a>b", ""] ∧
      join ["Map<K, List<V>>", "a>b", ""] = "Map<K, List<V>>, a>b, " ∧
      codec.decode .buffered (.string "Map<K, List<V>>, a>b, ") =
        .ok ["Map<K, List<V>>", "a>b", ""]) ∧
    (split ",a> , b<c, d " ≠ [] ∧ commasOutside 0 ",a> , b<c, d ".toList = [0, 4] ∧
      (split ",a> , b<c, d ").length = 3 ∧
      split (join (split ",a> , b<c, d ")) = ["", "a>", "b<c, d"]) ∧
    (.methodDefinition hiddenScale ∈ overloaded.compare ⟨⟨true, []⟩, some crowded⟩ ∧
      ∃ r ∈ overloaded.requiredMethods,
        codec.decode .streamed (.string "List<Integer>") = .ok r.paramTypes ∧
          split hiddenScale.expectedParamTypes = r.paramTypes) ∧
    (.methodSignature merging.signatureError ∈ merging.compare ⟨⟨true, []⟩, none⟩ ∧
      codec.decode .buffered (.string "List<Integer>,Map<String, List<Integer>>") =
        .ok merging.parameterTypes ∧
      split merging.signatureError.expectedParamTypes = merging.parameterTypes) := by
  obtain ⟨ofTypes, ofText, ofClass, ofMethod⟩ := joined_types_read_back
  refine ⟨?_, ?_, ?_, ?_⟩
  · have canonical : Canonical ["Map<K, List<V>>", "a>b", ""] := by decide
    exact ⟨canonical, by decide, ((ofTypes _ canonical).2 .buffered).2⟩
  · obtain ⟨-, parted, again⟩ := ofText ",a> , b<c, d "
    have nonempty : split ",a> , b<c, d " ≠ [] := by decide
    have commas : commasOutside 0 ",a> , b<c, d ".toList = [0, 4] := by decide
    exact ⟨nonempty, commas, (parted nonempty).1.trans (congrArg (·.length + 1) commas),
      again.trans (by decide)⟩
  · have mem : .methodDefinition hiddenScale ∈ overloaded.compare ⟨⟨true, []⟩, some crowded⟩ := by
      decide
    obtain ⟨r, required, c, reports, readBack⟩ := ofClass _ _ _ mem
    have decoded : codec.decode .streamed (.string "List<Integer>") = .ok r.paramTypes := by
      have joined : ∀ r ∈ overloaded.requiredMethods, join r.paramTypes = "List<Integer>" →
          split "List<Integer>" = r.paramTypes := by decide
      rw [decode_string, joined r required reports.parameters.symm]
    exact ⟨mem, r, required, decoded, readBack _ _ decoded⟩
  · have mem : .methodSignature merging.signatureError ∈ merging.compare ⟨⟨true, []⟩, none⟩ := by
      decide
    have decoded : codec.decode .buffered (.string "List<Integer>,Map<String, List<Integer>>") =
        .ok merging.parameterTypes := congrArg Except.ok (by decide)
    exact ⟨mem, decoded, ofMethod _ _ _ mem _ _ decoded⟩

end ReadBack

end CodeGrading
