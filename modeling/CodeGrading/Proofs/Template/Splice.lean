import CodeGrading.Grading
import Mathlib.Algebra.Group.Nat.Even

/-!
Filling a template. The submission stands between the text before the first marker and the text
after it (`FirstMarker`, `toList_fill`), and doubling its percent signs is undone by the formatting
that every file goes through (`unformat_escape`). Formatting a text in two pieces is safe where
percent signs stand in runs of even length (`unformat_append`), so of a template of that kind the
submission comes out as it was handed in (`submission_survives_splice`).
-/

namespace CodeGrading.Template

/-- The first marker of a template stands between the two texts. -/
structure FirstMarker (template before after : List Char) : Prop where
  eq : template = before ++ marker ++ after
  first : ∀ b a, template = b ++ marker ++ a → before.length ≤ b.length

/-- What becomes of a file before it is compiled: from left to right, two percent signs become
one. -/
def unformat : List Char → List Char
  | '%' :: '%' :: cs => '%' :: unformat cs
  | c :: cs => c :: unformat cs
  | [] => []

/-- Percent signs stand in the text in runs of even length only. -/
def PercentsPaired (cs : List Char) : Prop :=
  ∀ l n r, cs = l ++ List.replicate n '%' ++ r → l.getLast? ≠ some '%' → r.head? ≠ some '%' →
    Even n

/-! ## The first marker -/

theorem split_past_start {c : Char} {cs : List Char} (other : ¬ marker <+: c :: cs) :
    split (c :: cs) = (split cs).map fun (before, after) => (c :: before, after) := by
  have not_here : marker.isPrefixOf (c :: cs) = false := by
    rw [← Bool.not_eq_true, List.isPrefixOf_iff_prefix]
    exact other
  simp [split, not_here]

theorem split_at_start {cs : List Char} (here : marker <+: cs) :
    split cs = some ([], cs.drop marker.length) := by
  cases cs with
  | nil => exact absurd (List.prefix_nil.mp here) (by decide)
  | cons c cs => simp [split, List.isPrefixOf_iff_prefix.mpr here]

theorem firstMarker_of_split {template before after : List Char}
    (found : split template = some (before, after)) : FirstMarker template before after := by
  induction template generalizing before with
  | nil => cases found
  | cons c cs ih =>
    by_cases here : marker <+: c :: cs
    · rw [split_at_start here] at found
      obtain ⟨rfl, rfl⟩ := Prod.mk.inj (Option.some.inj found)
      refine ⟨(List.prefix_iff_eq_append.mp here).symm, fun b a _ => Nat.zero_le _⟩
    · rw [split_past_start here, Option.map_eq_some_iff] at found
      obtain ⟨⟨front, back⟩, found, same⟩ := found
      obtain ⟨rfl, rfl⟩ := Prod.mk.inj same
      have later := ih found
      refine ⟨congrArg (c :: ·) later.eq, ?_⟩
      intro b a eq
      cases b with
      | nil => exact absurd ⟨a, eq.symm⟩ here
      | cons d b =>
        have tail : cs = b ++ marker ++ a := (List.cons.inj eq).2
        exact Nat.succ_le_succ (later.first b a tail)

theorem exists_split (before after : List Char) :
    ∃ parts, split (before ++ marker ++ after) = some parts := by
  induction before with
  | nil => exact ⟨_, split_at_start ⟨after, rfl⟩⟩
  | cons c before ih =>
    obtain ⟨parts, found⟩ := ih
    by_cases here : marker <+: c :: (before ++ marker ++ after)
    · exact ⟨_, split_at_start here⟩
    · rw [List.cons_append, List.cons_append, split_past_start here, found]
      exact ⟨_, rfl⟩

/-- A template is split at its first marker and nowhere else. -/
theorem split_eq_some {template before after : List Char} :
    split template = some (before, after) ↔ FirstMarker template before after := by
  constructor
  · exact firstMarker_of_split
  · intro first
    obtain ⟨⟨front, back⟩, found⟩ := exists_split before after
    rw [← first.eq] at found
    have split_first := firstMarker_of_split found
    have same_length : front.length = before.length :=
      Nat.le_antisymm (split_first.first before after first.eq)
        (first.first front back split_first.eq)
    have texts := split_first.eq.symm.trans first.eq
    rw [List.append_assoc, List.append_assoc] at texts
    obtain ⟨rfl, rest⟩ := List.append_inj texts same_length
    rw [found, List.append_cancel_left rest]

theorem FirstMarker.unique {template before after before' after' : List Char}
    (first : FirstMarker template before after) (first' : FirstMarker template before' after') :
    before = before' ∧ after = after' := by
  have found := split_eq_some.mpr first
  rw [split_eq_some.mpr first'] at found
  exact Prod.mk.inj (Option.some.inj found.symm)

/-! ## Doubled percent signs -/

@[simp] theorem toList_escape (submission : String) :
    (escape submission).toList = submission.toList.flatMap escapeChar :=
  String.toList_ofList

theorem toList_fill {template : String} {before after : List Char}
    (found : split template.toList = some (before, after)) (submission : String) :
    (fill template submission).toList = before ++ (escape submission).toList ++ after := by
  simp [fill, found]

theorem unformat_cons {c : Char} (other : c ≠ '%') (cs : List Char) :
    unformat (c :: cs) = c :: unformat cs := by
  rw [unformat]
  rintro cs rfl
  exact absurd rfl other

/-- Whatever follows it, a text with its percent signs doubled is formatted to the text. -/
theorem unformat_escape (cs rest : List Char) :
    unformat (cs.flatMap escapeChar ++ rest) = cs ++ unformat rest := by
  induction cs with
  | nil => rfl
  | cons c cs ih =>
    by_cases percent : c = '%'
    · subst percent
      simp [escapeChar, unformat, ih]
    · simp [escapeChar, percent, unformat_cons, ih]

theorem escape_injective {s t : String} (same : escape s = escape t) : s = t := by
  have chars : s.toList.flatMap escapeChar = t.toList.flatMap escapeChar := by
    rw [← toList_escape, ← toList_escape, same]
  have formatted := congrArg (fun cs => unformat (cs ++ [])) chars
  rw [unformat_escape, unformat_escape] at formatted
  exact String.toList_inj.mp (List.append_cancel_right formatted)

/-! ## Runs of even length -/

theorem percentsPaired_nil : PercentsPaired [] := by
  intro l n r eq _ _
  have none : n = 0 := by
    have length := congrArg List.length eq
    simp only [List.length_nil, List.length_append, List.length_replicate] at length
    omega
  rw [none]
  exact Nat.even_iff.mpr rfl

theorem percentsPaired_cons {c : Char} {cs : List Char} (other : c ≠ '%') :
    PercentsPaired (c :: cs) ↔ PercentsPaired cs := by
  constructor
  · intro paired l n r eq last next
    apply paired (c :: l) n r (by rw [eq]; rfl) ?_ next
    cases l with
    | nil => simpa using other
    | cons d l => simpa using last
  · intro paired l n r eq last next
    cases l with
    | nil =>
      cases n with
      | zero => exact Nat.even_iff.mpr rfl
      | succ n => exact absurd (List.cons.inj eq).1 other
    | cons d l =>
      apply paired l n r (List.cons.inj eq).2 ?_ next
      cases l with
      | nil => simp
      | cons e l => simpa using last

/-- A text of such runs that begins with a percent sign begins with two of them. -/
theorem percentsPaired_percent {cs : List Char} :
    PercentsPaired ('%' :: cs) ↔ ∃ rest, cs = '%' :: rest ∧ PercentsPaired rest := by
  constructor
  · intro paired
    have second : cs.head? = some '%' := by
      by_contra other
      exact absurd (paired [] 1 cs rfl (by simp) other) (by decide)
    obtain ⟨rest, rfl⟩ := List.head?_eq_some_iff.mp second
    refine ⟨rest, rfl, ?_⟩
    intro l n r eq last next
    cases l with
    | nil =>
      have longer : '%' :: '%' :: rest = [] ++ List.replicate (n + 2) '%' ++ r := by
        rw [eq]
        rfl
      have even := paired [] (n + 2) r longer (by simp) next
      rw [Nat.even_iff] at even ⊢
      omega
    | cons d l =>
      apply paired ('%' :: '%' :: d :: l) n r (by rw [eq]; rfl) ?_ next
      simpa using last
  · rintro ⟨rest, rfl, paired⟩ l n r eq last next
    match l, n with
    | [], 0 => exact Nat.even_iff.mpr rfl
    | [], 1 =>
      obtain rfl : '%' :: rest = r := (List.cons.inj eq).2
      exact absurd rfl next
    | [], n + 2 =>
      have shorter : rest = [] ++ List.replicate n '%' ++ r :=
        (List.cons.inj (List.cons.inj eq).2).2
      have even := paired [] n r shorter (by simp) next
      rw [Nat.even_iff] at even ⊢
      omega
    | [d], n =>
      obtain rfl : '%' = d := (List.cons.inj eq).1
      exact absurd rfl last
    | d :: e :: l, n =>
      have tail := (List.cons.inj (List.cons.inj eq).2).2
      apply paired l n r tail ?_ next
      cases l with
      | nil => simp
      | cons f l => simpa using last

/-- Formatting does not reach over the end of a text whose runs are even. -/
theorem unformat_append {cs : List Char} (paired : PercentsPaired cs) (rest : List Char) :
    unformat (cs ++ rest) = unformat cs ++ unformat rest := by
  fun_induction unformat cs with
  | case1 cs ih =>
    obtain ⟨_, eq, paired⟩ := percentsPaired_percent.mp paired
    obtain rfl := (List.cons.inj eq).2
    simp only [List.cons_append, unformat, ih paired]
  | case2 c cs single ih =>
    have other : c ≠ '%' := by
      rintro rfl
      obtain ⟨rest, eq, _⟩ := percentsPaired_percent.mp paired
      exact single rest rfl eq
    have later := (percentsPaired_cons other).mp paired
    rw [List.cons_append, unformat_cons other, ih later, List.cons_append]
  | case3 => rfl

/-! ## The file of a job -/

theorem exists_split_of_valid {q : ClassQuestion}
    (valid : (Question.wholeClass q).validate = .ok ()) :
    ∃ before after, split q.fileTemplate.toList = some (before, after) := by
  have found : hasMarker q.fileTemplate = true := by
    by_contra missing
    rw [Bool.not_eq_true] at missing
    by_cases tests : (Question.wholeClass q).expectations.isEmpty
    · simp [Question.validate, Question.fault?, tests] at valid
    · by_cases name : (Text.trim q.className).isEmpty
      · simp [Question.validate, Question.fault?, tests, name] at valid
      · simp [Question.validate, Question.fault?, tests, name, missing] at valid
  obtain ⟨⟨before, after⟩, split⟩ := Option.isSome_iff_exists.mp found
  exact ⟨before, after, split⟩

/-- **The splice.** A class question that can be graded has a first marker. The file of a job is
the template with the escaped submission in the place of that marker, so it tells submissions
apart, and where percent signs before the marker stand in runs of even length formatting the file
gives the submission back between the formatted ends of the template. -/
theorem submission_survives_splice {q : ClassQuestion}
    (valid : (Question.wholeClass q).validate = .ok ()) :
    ∃ before after, FirstMarker q.fileTemplate.toList before after ∧
      (∀ submission, (q.job submission).fileContents.toList =
        before ++ (escape submission).toList ++ after) ∧
      (∀ s t, (q.job s).fileContents = (q.job t).fileContents → s = t) ∧
      (PercentsPaired before → ∀ submission, unformat (q.job submission).fileContents.toList =
        unformat before ++ submission.toList ++ unformat after) := by
  obtain ⟨before, after, found⟩ := exists_split_of_valid valid
  have filled := toList_fill found
  refine ⟨before, after, firstMarker_of_split found, filled, ?_, ?_⟩
  · intro s t same
    have contents : fill q.fileTemplate s = fill q.fileTemplate t := same
    have texts : before ++ (escape s).toList ++ after = before ++ (escape t).toList ++ after := by
      rw [← filled, ← filled, contents]
    have escaped := List.append_cancel_left (List.append_cancel_right texts)
    exact escape_injective (String.toList_inj.mp escaped)
  · intro paired submission
    calc unformat (q.job submission).fileContents.toList
        = unformat (before ++ (submission.toList.flatMap escapeChar ++ after)) := by
          rw [show (q.job submission).fileContents = fill q.fileTemplate submission from rfl,
            filled, toList_escape, List.append_assoc]
      _ = unformat before ++ submission.toList ++ unformat after := by
          rw [unformat_append paired, unformat_escape, List.append_assoc]

/-- A question whose template has percent signs of its own and a second marker inside the first. -/
def annotated : ClassQuestion where
  className := "Shape"
  fileTemplate := "// 100%% your own\n%SUBMISSION%SUBMISSION%"
  allowPublicFields := false
  importedClasses := []
  requiredMethods := []
  tests := [⟨"area", 1, "", "return new Shape(2).area();", "int", some "4", ""⟩]

theorem annotated_firstMarker : FirstMarker annotated.fileTemplate.toList
    "// 100%% your own\n".toList "SUBMISSION%".toList :=
  split_eq_some.mp (by decide)

theorem annotated_submission_survives :
    (Question.wholeClass annotated).validate = .ok () ∧
      PercentsPaired "// 100%% your own\n".toList ∧
      unformat (annotated.job "// 50% %SUBMISSION%\n").fileContents.toList =
        unformat "// 100%% your own\n".toList ++ "// 50% %SUBMISSION%\n".toList ++
          unformat "SUBMISSION%".toList := by
  have valid : (Question.wholeClass annotated).validate = .ok () := by decide
  have paired : PercentsPaired "// 100%% your own\n".toList := by
    simp [percentsPaired_cons, percentsPaired_percent, percentsPaired_nil]
  obtain ⟨before, after, first, _, _, survives⟩ := submission_survives_splice valid
  obtain ⟨rfl, rfl⟩ := first.unique annotated_firstMarker
  exact ⟨valid, paired, survives paired _⟩

end CodeGrading.Template
