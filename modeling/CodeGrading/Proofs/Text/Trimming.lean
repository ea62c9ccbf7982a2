import CodeGrading.Text.Blank
import Mathlib.Data.List.DropRight

/-!
Trimming. What is left of a text stands in it in one piece (`isInfix_trimChars`), and neither of its
ends is blank (`trimChars_eq_self`), so trimming again changes nothing (`trimChars_trimChars`,
`trim_trim`). Only blanks are cut off (`exists_blanks`), and blanks at the ends make no difference
(`trimChars_blanks`).
-/

namespace CodeGrading.Text

theorem isSuffix_trimStart (cs : List Char) : trimStart cs <:+ cs :=
  List.dropWhile_suffix isBlank

theorem isPrefix_trimEnd (cs : List Char) : trimEnd cs <+: cs :=
  List.rdropWhile_prefix isBlank cs

theorem isInfix_trimChars (cs : List Char) : trimChars cs <:+: cs :=
  (isPrefix_trimEnd _).isInfix.trans (isSuffix_trimStart cs).isInfix

theorem trimStart_eq_self {cs : List Char} :
    trimStart cs = cs ↔ ∀ c, cs.head? = some c → isBlank c = false := by
  rw [trimStart, List.dropWhile_eq_self_iff]
  cases cs <;> simp

theorem trimEnd_eq_self {cs : List Char} :
    trimEnd cs = cs ↔ ∀ c, cs.getLast? = some c → isBlank c = false := by
  rw [trimEnd, List.reverse_eq_iff]
  exact trimStart_eq_self.trans (by rw [List.head?_reverse])

theorem trimStart_trimStart (cs : List Char) : trimStart (trimStart cs) = trimStart cs :=
  List.dropWhile_idempotent isBlank cs

theorem trimEnd_trimEnd (cs : List Char) : trimEnd (trimEnd cs) = trimEnd cs :=
  List.rdropWhile_idempotent isBlank cs

/-- Cutting off the end does not lay a blank bare at the start. -/
theorem trimStart_trimEnd {cs : List Char} (trimmed : trimStart cs = cs) :
    trimStart (trimEnd cs) = trimEnd cs := by
  rw [trimStart_eq_self] at trimmed ⊢
  intro c first
  obtain ⟨rest, eq⟩ := isPrefix_trimEnd cs
  apply trimmed
  rw [← eq, List.head?_append, first]
  rfl

theorem trimChars_trimChars (cs : List Char) : trimChars (trimChars cs) = trimChars cs := by
  have start : trimStart (trimChars cs) = trimChars cs := trimStart_trimEnd (trimStart_trimStart cs)
  rw [trimChars, start, trimChars, trimEnd_trimEnd]

/-- A text that trimming does not change has no blank at either end. -/
theorem trimChars_eq_self {cs : List Char} :
    trimChars cs = cs ↔ (∀ c, cs.head? = some c → isBlank c = false) ∧
      ∀ c, cs.getLast? = some c → isBlank c = false := by
  rw [← trimStart_eq_self, ← trimEnd_eq_self]
  constructor
  · intro trimmed
    have start : trimStart cs = cs := by
      rw [← trimmed]
      exact trimStart_trimEnd (trimStart_trimStart cs)
    rw [trimChars, start] at trimmed
    exact ⟨start, trimmed⟩
  · rintro ⟨start, stop⟩
    rw [trimChars, start, stop]

theorem exists_blanks (cs : List Char) :
    ∃ front back, (∀ c ∈ front, isBlank c = true) ∧ (∀ c ∈ back, isBlank c = true) ∧
      cs = front ++ trimChars cs ++ back := by
  refine ⟨cs.takeWhile isBlank, ((trimStart cs).reverse.takeWhile isBlank).reverse,
    fun c mem => List.mem_takeWhile_imp mem,
    fun c mem => List.mem_takeWhile_imp (List.mem_reverse.mp mem), ?_⟩
  have stop :
      trimChars cs ++ ((trimStart cs).reverse.takeWhile isBlank).reverse = trimStart cs := by
    rw [trimChars, trimEnd, ← List.reverse_append, List.takeWhile_append_dropWhile,
      List.reverse_reverse]
  rw [List.append_assoc, stop]
  exact List.takeWhile_append_dropWhile.symm

theorem trimChars_blanks {front back : List Char} (blankFront : ∀ c ∈ front, isBlank c = true)
    (blankBack : ∀ c ∈ back, isBlank c = true) (cs : List Char) :
    trimChars (front ++ cs ++ back) = trimChars cs := by
  have stop (ds : List Char) : trimEnd (ds ++ back) = trimEnd ds := by
    rw [trimEnd, List.reverse_append, List.dropWhile_append_of_pos, ← trimEnd]
    exact fun c mem => blankBack c (List.mem_reverse.mp mem)
  rw [trimChars, trimStart, List.append_assoc, List.dropWhile_append_of_pos blankFront,
    List.dropWhile_append, ← trimStart, ← trimStart]
  split
  · -- nothing is left of the text, so nothing is left of the blanks behind it
    rename_i empty
    rw [trimChars, List.isEmpty_iff.mp empty, trimStart,
      List.dropWhile_eq_nil_iff.mpr blankBack]
  · rw [trimChars, stop]

theorem trimChars_eq_nil {cs : List Char} :
    trimChars cs = [] ↔ ∀ c ∈ cs, isBlank c = true := by
  constructor
  · intro empty
    obtain ⟨front, back, blankFront, blankBack, eq⟩ := exists_blanks cs
    intro c mem
    rw [eq, empty, List.append_nil, List.mem_append] at mem
    exact mem.elim (blankFront c) (blankBack c)
  · intro blank
    have trimmed := trimChars_blanks blank (List.forall_mem_nil _) []
    rwa [List.append_nil, List.append_nil, trimChars_nil] at trimmed

theorem trim_trim (s : String) : trim (trim s) = trim s := by
  rw [trim, trim, String.toList_ofList, trimChars_trimChars]

end CodeGrading.Text
