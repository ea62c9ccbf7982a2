import CodeGrading.Proofs.TypeList.Joined

/-!
Erasing and splitting. A comma stands outside brackets exactly when erasing keeps it, so the parts
of an erased text are the erased parts of the text (`texts_eraseChars`). It makes no difference
whether type arguments are erased before a list is split or after, with one exception: a single type
of which nothing is left when it is erased is no type any more (`split_erase_iff`).
-/

namespace CodeGrading.TypeList

open CodeGrading.TypeName

/-- The first part is inside the brackets that are open in front of the text, the others are inside
none. -/
theorem texts_eraseChars (depth : Nat) (cs : List Char) :
    texts 0 (eraseChars depth cs) =
      eraseChars depth (pieces depth cs).1 :: (pieces depth cs).2.map (eraseChars 0) := by
  fun_induction eraseChars depth cs with
  | case1 => rfl
  | case2 depth cs ih => simpa [pieces, eraseChars, depthAfter] using ih
  | case3 c cs other ih =>
    have depth : depthAfter 0 c = 0 := by simp [depthAfter, other]
    by_cases comma : c = ','
    · subst comma
      rw [texts_comma, ih]
      simp [pieces, eraseChars]
    · rw [texts_cons (by simp [comma]), depth, ih]
      simp [pieces, comma, depth, eraseChars, other]
  | case4 depth cs inside _ ih =>
    simpa [pieces, inside, eraseChars, depthAfter] using ih
  | case5 depth c cs other inside notClosing ih =>
    simpa [pieces, inside, eraseChars, other, notClosing, depthAfter] using ih

theorem trimmedTexts_erase (s : String) :
    trimmedTexts 0 (erase s).toList =
      (trimmedTexts 0 s.toList).map fun t => Text.trimChars (eraseChars 0 t) := by
  obtain ⟨front, back, blankFront, blankBack, eq⟩ := Text.exists_blanks (eraseChars 0 s.toList)
  have around := trimmedTexts_around blankFront blankBack 0 (Text.trimChars (eraseChars 0 s.toList))
  rw [← eq] at around
  have parts : texts 0 (eraseChars 0 s.toList) = (texts 0 s.toList).map (eraseChars 0) :=
    texts_eraseChars 0 s.toList
  rw [toList_erase, ← around, trimmedTexts, parts, trimmedTexts, List.map_map, List.map_map]
  exact List.map_congr_left fun t _ => (trimChars_eraseChars_trimChars t).symm

theorem erase_ofList (cs : List Char) :
    erase (String.ofList cs) = String.ofList (Text.trimChars (eraseChars 0 cs)) := by
  rw [erase, String.toList_ofList]

/-- What erasing makes of the types of a list. A single type of which nothing is left is dropped. -/
theorem split_erase (s : String) :
    split (erase s) = if (split s).map erase = [""] then [] else (split s).map erase := by
  rw [split_eq, split_eq s]
  by_cases blank : trimmedTexts 0 s.toList = [[]]
  · have blankErased : trimmedTexts 0 (erase s).toList = [[]] := by
      rw [trimmedTexts_erase, blank]
      rfl
    rw [if_pos blank, if_pos blankErased]
    rfl
  · have erased : ((trimmedTexts 0 s.toList).map String.ofList).map erase =
        (trimmedTexts 0 (erase s).toList).map String.ofList := by
      simp only [trimmedTexts_erase, List.map_map, Function.comp_def, erase_ofList]
    have nothingLeft : (trimmedTexts 0 (erase s).toList).map String.ofList = [""] ↔
        trimmedTexts 0 (erase s).toList = [[]] :=
      (List.map_injective_iff.mpr fun _ _ same => String.ofList_injective same).eq_iff' rfl
    rw [if_neg blank, erased]
    simp only [nothingLeft]

/-- **Erasing and splitting.** Erasing a list of types and then splitting it gives the erased types
of the list, unless it has a single type and nothing is left of that. Nothing is asked of the
brackets. So the number of types and the types up to their arguments are the same either way. -/
theorem split_erase_iff (s : String) :
    (split (erase s) = (split s).map erase ↔ ∀ t, split s = [t] → erase t ≠ "") ∧
      ((∀ t, split s = [t] → erase t ≠ "") →
        (split (erase s)).length = (split s).length ∧
          SameParameters (split (erase s)) (split s)) := by
  have commutes : split (erase s) = (split s).map erase ↔ (split s).map erase ≠ [""] := by
    rw [split_erase]
    by_cases lost : (split s).map erase = [""]
    · rw [if_pos lost, lost]
      exact iff_of_false nofun fun kept => kept rfl
    · rw [if_neg lost]
      exact iff_of_true rfl lost
  have kept_iff : (split s).map erase ≠ [""] ↔ ∀ t, split s = [t] → erase t ≠ "" := by
    rw [Ne, List.map_eq_singleton_iff, not_exists]
    exact forall_congr' fun t => not_and
  refine ⟨commutes.trans kept_iff, fun kept => ?_⟩
  rw [commutes.mpr (kept_iff.mpr kept)]
  exact ⟨List.length_map _, sameParameters_map_erase _⟩

/-- Brackets that are closed too often, that hold a comma, and that are never closed. -/
theorem split_erase_unbalanced :
    (∀ t, split "a>, b<c, d>, <e>, f<g, h" = [t] → erase t ≠ "") ∧
      split (erase "a>, b<c, d>, <e>, f<g, h") = ["a>", "b", "", "f"] ∧
      (split (erase "a>, b<c, d>, <e>, f<g, h")).length =
        (split "a>, b<c, d>, <e>, f<g, h").length := by
  have types : split "a>, b<c, d>, <e>, f<g, h" = ["a>", "b<c, d>", "<e>", "f<g, h"] := by decide
  have kept : ∀ t, split "a>, b<c, d>, <e>, f<g, h" = [t] → erase t ≠ "" := by
    intro t single
    rw [types] at single
    cases single
  obtain ⟨commutes, same⟩ := split_erase_iff "a>, b<c, d>, <e>, f<g, h"
  refine ⟨kept, (commutes.mpr kept).trans ?_, (same kept).1⟩
  rw [types]
  decide

end CodeGrading.TypeList
