import CodeGrading.TypeName
import CodeGrading.Proofs.Text.Trimming

/-!
Erasing type arguments. An erased name holds no opening bracket (`notMem_eraseChars`), and a name
without one has nothing to erase (`eraseChars_of_notMem`), so a name agrees with its erased form
(`erase_erase`).
-/

namespace CodeGrading.TypeName

theorem notMem_eraseChars (depth : Nat) (cs : List Char) : '<' ∉ eraseChars depth cs := by
  fun_induction eraseChars depth cs with
  | case1 => exact List.not_mem_nil
  | case2 _ _ ih => exact ih
  | case3 c _ other ih => simpa [Ne.symm other] using ih
  | case4 _ _ _ _ ih => exact ih
  | case5 _ _ _ _ _ _ ih => exact ih

theorem eraseChars_of_notMem {cs : List Char} (plain : '<' ∉ cs) : eraseChars 0 cs = cs := by
  induction cs with
  | nil => rfl
  | cons c cs ih =>
    obtain ⟨other, plain⟩ := List.ne_and_not_mem_of_not_mem_cons plain
    simp [eraseChars, other.symm, ih plain]

theorem toList_erase (name : String) :
    (erase name).toList = Text.trimChars (eraseChars 0 name.toList) :=
  String.toList_ofList

theorem notMem_erase (name : String) : '<' ∉ (erase name).toList := by
  rw [toList_erase]
  exact fun mem => notMem_eraseChars 0 name.toList ((Text.isInfix_trimChars _).subset mem)

/-- Erasing an erased name changes nothing. -/
@[simp] theorem erase_erase (name : String) : erase (erase name) = erase name := by
  rw [← String.toList_inj, toList_erase, eraseChars_of_notMem (notMem_erase name), toList_erase,
    Text.trimChars_trimChars]

theorem sameParameters_map_erase (names : List String) :
    SameParameters (names.map erase) names := by
  simp [SameParameters]

theorem sameReturn_map_erase (name : Option String) : SameReturn (name.map erase) name := by
  cases name <;> simp [SameReturn]

end CodeGrading.TypeName
