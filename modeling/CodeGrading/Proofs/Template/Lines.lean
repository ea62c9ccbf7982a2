import CodeGrading.Proofs.Template.Splice

/-!
Lines of a filled template. Escaping moves the characters of a submission apart but adds no line
(`count_newline_escape`), so only the lines before the marker stand between a line of the file and
the line of the submission, and the offset of a job takes them off again
(`submission_lines_map_back`).
-/

namespace CodeGrading.Template

/-- The number of the line of a text that a position is on. A line feed is on the line it ends. -/
def lineAt (text : List Char) (position : Nat) : Nat :=
  1 + (text.take position).count '\n'

/-- Where the character at a position of the submission lands in the file, given the text before
the marker. A percent sign takes the next place too. -/
def landing (before submission : List Char) (position : Nat) : Nat :=
  before.length + ((submission.take position).flatMap escapeChar).length

/-! ## Escaping and lines -/

theorem eq_of_mem_escapeChar {c d : Char} (mem : d ∈ escapeChar c) : d = c := by
  by_cases percent : c = '%'
  · simpa [escapeChar, percent] using mem
  · simpa [escapeChar, percent] using mem

theorem getElem?_escapeChar {c : Char} {j : Nat} (bound : j < (escapeChar c).length) :
    (escapeChar c)[j]? = some c := by
  rw [List.getElem?_eq_getElem bound, eq_of_mem_escapeChar (List.getElem_mem bound)]

theorem count_newline_escape (cs : List Char) :
    (cs.flatMap escapeChar).count '\n' = cs.count '\n' := by
  induction cs with
  | nil => rfl
  | cons c cs ih =>
    rw [List.flatMap_cons, List.count_append, ih, List.count_cons]
    by_cases percent : c = '%'
    · simp [escapeChar, percent]
    · simp [escapeChar, percent, List.count_singleton, Nat.add_comm]

/-- Of a character that is written twice, the first copy ends no line. -/
theorem count_newline_take_escapeChar {c : Char} {j : Nat} (bound : j < (escapeChar c).length) :
    ((escapeChar c).take j).count '\n' = 0 := by
  rw [List.count_eq_zero]
  intro mem
  obtain rfl : '\n' = c := eq_of_mem_escapeChar (List.mem_of_mem_take mem)
  have first : j = 0 := Nat.lt_one_iff.mp bound
  simp [first] at mem

/-! ## The offset of a job -/

theorem toInt_lineOffset {template : String} {before after : List Char}
    (found : split template.toList = some (before, after)) (few : before.count '\n' < 2 ^ 31) :
    (lineOffset template).toInt = -(before.count '\n' : Int) := by
  have offset : lineOffset template = Int32.ofInt (-(before.count '\n' : Int)) := by
    rw [Int32.ofInt_neg, Int32.ofInt_eq_ofNat]
    simp [lineOffset, found]
  rw [offset]
  exact Int32.toInt_ofInt_of_le (by omega) (by omega)

/-! ## The place in the file -/

theorem landing_eq_length (before submission : List Char) (i : Nat) :
    landing before submission i = (before ++ (submission.take i).flatMap escapeChar).length := by
  rw [landing, List.length_append]

/-- A filled template around one character of the submission. -/
theorem exists_file_eq {submission : List Char} {i : Nat} {c : Char}
    (at_i : submission[i]? = some c) (before after : List Char) :
    ∃ rest, before ++ submission.flatMap escapeChar ++ after =
      before ++ (submission.take i).flatMap escapeChar ++ (escapeChar c ++ rest) := by
  obtain ⟨inside, at_i⟩ := List.getElem?_eq_some_iff.mp at_i
  have parts : submission = submission.take i ++ c :: submission.drop (i + 1) := by
    rw [← at_i, ← List.drop_eq_getElem_cons inside, List.take_append_drop]
  refine ⟨(submission.drop (i + 1)).flatMap escapeChar ++ after, ?_⟩
  conv_lhs => rw [parts]
  simp only [List.flatMap_append, List.flatMap_cons, List.append_assoc]

/-- **Lines map back.** Every character of a submission stands in the file of the job where it
lands, and the line of that place and the offset of the job add up to the line that the character
is on in the submission. The offset is never positive and the same for all submissions. -/
theorem submission_lines_map_back {q : ClassQuestion} {before after : List Char}
    (first : FirstMarker q.fileTemplate.toList before after) (few : before.count '\n' < 2 ^ 31) :
    (∀ (submission : String) (i : Nat) (c : Char), submission.toList[i]? = some c →
      ∀ j < (escapeChar c).length,
        let file := (q.job submission).fileContents.toList
        let place := landing before submission.toList i + j
        file[place]? = some c ∧
          (lineAt file place : Int) + (q.job submission).lineNumberOffset.toInt =
            lineAt submission.toList i) ∧
      (∀ submission, (q.job submission).lineNumberOffset.toInt ≤ 0) ∧
      ∀ s t, (q.job s).lineNumberOffset = (q.job t).lineNumberOffset := by
  have found := split_eq_some.mpr first
  have offset : ∀ submission,
      (q.job submission).lineNumberOffset.toInt = -(before.count '\n' : Int) :=
    fun _ => toInt_lineOffset found few
  refine ⟨?_, ?_, fun _ _ => rfl⟩
  · intro submission i c at_i j bound
    obtain ⟨rest, file⟩ := exists_file_eq at_i before after
    have filled : (q.job submission).fileContents.toList =
        before ++ (submission.toList.take i).flatMap escapeChar ++ (escapeChar c ++ rest) := by
      rw [← file, ← toList_escape]
      exact toList_fill found submission
    dsimp only
    rw [filled, landing_eq_length]
    constructor
    · rw [List.getElem?_append_right (Nat.le_add_right _ _), Nat.add_sub_cancel_left,
        List.getElem?_append_left bound, getElem?_escapeChar bound]
    · rw [offset, lineAt, lineAt, List.take_length_add_append,
        List.take_append_of_le_length (Nat.le_of_lt bound), List.count_append, List.count_append,
        count_newline_escape, count_newline_take_escapeChar bound]
      omega
  · intro submission
    rw [offset]
    omega

/-- A submission with percent signs at the ends of its lines. The place of its last character. -/
theorem annotated_lines_map_back :
    FirstMarker annotated.fileTemplate.toList "// 100%% your own\n".toList
        "SUBMISSION%".toList ∧
      "// 100%% your own\n".toList.count '\n' < 2 ^ 31 ∧
      "50%\n%\n\nx%".toList[8]? = some '%' ∧ 1 < (escapeChar '%').length ∧
      lineAt "50%\n%\n\nx%".toList 8 = 4 ∧
      (let file := (annotated.job "50%\n%\n\nx%").fileContents.toList
        let place := landing "// 100%% your own\n".toList "50%\n%\n\nx%".toList 8 + 1
        file[place]? = some '%' ∧
          (lineAt file place : Int) + (annotated.job "50%\n%\n\nx%").lineNumberOffset.toInt =
            lineAt "50%\n%\n\nx%".toList 8) := by
  have few : "// 100%% your own\n".toList.count '\n' < 2 ^ 31 := by decide
  exact ⟨annotated_firstMarker, few, rfl, by decide, by decide,
    (submission_lines_map_back annotated_firstMarker few).1 _ 8 '%' rfl 1 (by decide)⟩

end CodeGrading.Template
