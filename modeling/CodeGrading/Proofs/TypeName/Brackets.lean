import CodeGrading.TypeList
import CodeGrading.Proofs.TypeName.Erasure
import Mathlib.Logic.Relation

/-!
Brackets in type names. Erasing a text is erasing its parts, each with the brackets that are open in
front of it (`eraseChars_append`). A pair of brackets goes with everything between them, so deleting
an innermost pair does not change what is left in the end (`Deletes.eraseChars_eq`), and where every
bracket has its counterpart, erasing and deleting pair after pair come to the same
(`erasure_removes_segments`).
-/

namespace CodeGrading.TypeName

/-- The number of brackets that are open after a text, with `depth` of them open in front of it. A
surplus closing bracket closes nothing. -/
def openAfter (depth : Nat) (cs : List Char) : Nat :=
  cs.foldl TypeList.depthAfter depth

/-- The text holds no bracket. -/
def Plain (cs : List Char) : Prop :=
  '<' ∉ cs ∧ '>' ∉ cs

instance (cs : List Char) : Decidable (Plain cs) :=
  inferInstanceAs (Decidable (_ ∧ _))

theorem plain_nil : Plain [] := by
  decide

/-- Every bracket of the text has its counterpart in it. -/
inductive WellBracketed : List Char → Prop where
  | nil : WellBracketed []
  | other {c cs} (notOpening : c ≠ '<') (notClosing : c ≠ '>') (rest : WellBracketed cs) :
      WellBracketed (c :: cs)
  | pair {inner after} (inside : WellBracketed inner) (rest : WellBracketed after) :
      WellBracketed ('<' :: inner ++ '>' :: after)

/-- An innermost pair of brackets is deleted, with what stands between them. -/
inductive Deletes : List Char → List Char → Prop where
  | pair (before after) {inner} (plain : Plain inner) :
      Deletes (before ++ '<' :: inner ++ '>' :: after) (before ++ after)

/-- No pair of brackets is left to delete. -/
def Finished (cs : List Char) : Prop :=
  ∀ next, ¬ Deletes cs next

/-- A segment in brackets, with the text behind it up to the next one. -/
structure Segment where
  inner : List Char
  behind : List Char
  wellBracketed : WellBracketed inner
  plain : Plain behind

namespace Segment

def text (s : Segment) : List Char :=
  '<' :: s.inner ++ '>' :: s.behind

/-- A text that goes on with segments. -/
def texts (first : List Char) (segments : List Segment) : List Char :=
  first ++ segments.flatMap text

/-- What stands outside the brackets of such a text. -/
def outside (first : List Char) (segments : List Segment) : List Char :=
  first ++ segments.flatMap behind

end Segment

/-! ## Erasing the parts of a text -/

theorem eraseChars_append (depth : Nat) (cs ds : List Char) :
    eraseChars depth (cs ++ ds) = eraseChars depth cs ++ eraseChars (openAfter depth cs) ds := by
  fun_induction eraseChars depth cs with
  | case1 => rfl
  | case2 depth cs ih => simpa [eraseChars, openAfter, TypeList.depthAfter] using ih
  | case3 c cs other ih =>
    have depth : TypeList.depthAfter 0 c = 0 := by simp [TypeList.depthAfter, other]
    simpa [eraseChars, other, openAfter, depth] using ih
  | case4 depth cs inside _ ih =>
    simpa [eraseChars, inside, openAfter, TypeList.depthAfter] using ih
  | case5 depth c cs other inside notClosing ih =>
    simpa [eraseChars, other, inside, notClosing, openAfter, TypeList.depthAfter] using ih

theorem openAfter_of_notMem {cs : List Char} (unopened : '<' ∉ cs) : openAfter 0 cs = 0 := by
  induction cs with
  | nil => rfl
  | cons c cs ih =>
    obtain ⟨other, unopened⟩ := List.ne_and_not_mem_of_not_mem_cons unopened
    have depth : TypeList.depthAfter 0 c = 0 := by simp [TypeList.depthAfter, other.symm]
    rw [openAfter, List.foldl_cons, depth]
    exact ih unopened

/-- Nothing is erased before the first bracket is opened. -/
theorem eraseChars_append_of_notMem {cs : List Char} (unopened : '<' ∉ cs) (ds : List Char) :
    eraseChars 0 (cs ++ ds) = cs ++ eraseChars 0 ds := by
  rw [eraseChars_append, eraseChars_of_notMem unopened, openAfter_of_notMem unopened]

theorem eraseChars_sublist (depth : Nat) (cs : List Char) : (eraseChars depth cs).Sublist cs := by
  fun_induction eraseChars depth cs with
  | case1 => exact .slnil
  | case2 _ _ ih => exact ih.cons _
  | case3 _ _ _ ih => exact ih.cons_cons _
  | case4 _ _ _ _ ih => exact ih.cons _
  | case5 _ _ _ _ _ _ ih => exact ih.cons _

/-- Blanks at the ends of a text are blanks at the ends of what is left of it. -/
theorem trimChars_eraseChars_trimChars (cs : List Char) :
    Text.trimChars (eraseChars 0 (Text.trimChars cs)) = Text.trimChars (eraseChars 0 cs) := by
  obtain ⟨front, back, blankFront, blankBack, eq⟩ := Text.exists_blanks cs
  have unopened : '<' ∉ front := fun mem => by cases blankFront '<' mem
  have left (depth : Nat) : ∀ c ∈ eraseChars depth back, Text.isBlank c = true :=
    fun c mem => blankBack c ((eraseChars_sublist depth back).subset mem)
  calc Text.trimChars (eraseChars 0 (Text.trimChars cs))
      = Text.trimChars (front ++ eraseChars 0 (Text.trimChars cs) ++
          eraseChars (openAfter 0 (Text.trimChars cs)) back) :=
        (Text.trimChars_blanks blankFront (left _) _).symm
    _ = Text.trimChars (eraseChars 0 (front ++ Text.trimChars cs ++ back)) := by
        rw [List.append_assoc, List.append_assoc, eraseChars_append_of_notMem unopened,
          eraseChars_append]
    _ = Text.trimChars (eraseChars 0 cs) := by rw [← eq]

theorem eraseChars_inside {inner : List Char} (inside : WellBracketed inner) (depth : Nat)
    (after : List Char) :
    eraseChars (depth + 1) (inner ++ after) = eraseChars (depth + 1) after := by
  induction inside generalizing depth after with
  | nil => rfl
  | other notOpening notClosing _ ih =>
    simpa [eraseChars, notOpening, notClosing] using ih depth after
  | @pair inner rest _ _ inner_ih rest_ih =>
    calc eraseChars (depth + 1) ('<' :: inner ++ '>' :: rest ++ after)
        = eraseChars (depth + 2) (inner ++ ('>' :: (rest ++ after))) := by simp [eraseChars]
      _ = eraseChars (depth + 2) ('>' :: (rest ++ after)) := inner_ih _ _
      _ = eraseChars (depth + 1) (rest ++ after) := by simp [eraseChars]
      _ = eraseChars (depth + 1) after := rest_ih _ _

/-- A pair of brackets is erased with everything between them. -/
theorem eraseChars_pair {inner : List Char} (inside : WellBracketed inner) (depth : Nat)
    (after : List Char) :
    eraseChars depth ('<' :: inner ++ '>' :: after) = eraseChars depth after := by
  calc eraseChars depth ('<' :: inner ++ '>' :: after)
      = eraseChars (depth + 1) (inner ++ '>' :: after) := by simp [eraseChars]
    _ = eraseChars (depth + 1) ('>' :: after) := eraseChars_inside inside _ _
    _ = eraseChars depth after := by simp [eraseChars]

theorem eraseChars_texts {first : List Char} (plain : Plain first) (segments : List Segment) :
    eraseChars 0 (Segment.texts first segments) = Segment.outside first segments := by
  rw [Segment.texts, Segment.outside, eraseChars_append_of_notMem plain.1]
  congr 1
  induction segments with
  | nil => rfl
  | cons s segments ih =>
    calc eraseChars 0 (s.text ++ segments.flatMap Segment.text)
        = eraseChars 0 ('<' :: s.inner ++ '>' :: (s.behind ++ segments.flatMap Segment.text)) := by
          simp [Segment.text]
      _ = eraseChars 0 (s.behind ++ segments.flatMap Segment.text) :=
          eraseChars_pair s.wellBracketed _ _
      _ = s.behind ++ eraseChars 0 (segments.flatMap Segment.text) :=
          eraseChars_append_of_notMem s.plain.1 _
      _ = s.behind ++ segments.flatMap Segment.behind := by rw [ih]

/-! ## Deleting pair after pair -/

theorem WellBracketed.plain_append {cs ds : List Char} (plain : Plain cs)
    (balanced : WellBracketed ds) : WellBracketed (cs ++ ds) := by
  induction cs with
  | nil => exact balanced
  | cons c cs ih =>
    obtain ⟨notOpening, unopened⟩ := List.ne_and_not_mem_of_not_mem_cons plain.1
    obtain ⟨notClosing, unclosed⟩ := List.ne_and_not_mem_of_not_mem_cons plain.2
    exact .other notOpening.symm notClosing.symm (ih ⟨unopened, unclosed⟩)

theorem WellBracketed.of_plain {cs : List Char} (plain : Plain cs) : WellBracketed cs := by
  simpa using plain_append plain .nil

theorem Segment.wellBracketed_texts {first : List Char} (plain : Plain first)
    (segments : List Segment) : WellBracketed (texts first segments) := by
  refine .plain_append plain ?_
  induction segments with
  | nil => exact .nil
  | cons s segments ih =>
    have rest := WellBracketed.plain_append s.plain ih
    simpa [text] using WellBracketed.pair s.wellBracketed rest

theorem WellBracketed.count_eq {cs : List Char} (balanced : WellBracketed cs) :
    cs.count '<' = cs.count '>' := by
  induction balanced with
  | nil => rfl
  | other notOpening notClosing _ ih => simpa [notOpening, notClosing] using ih
  | pair _ _ inner_ih rest_ih =>
    simp only [List.cons_append, List.count_cons, List.count_append, inner_ih, rest_ih]
    simp
    omega

theorem Deletes.eraseChars_eq {cs ds : List Char} (deletes : Deletes cs ds) (depth : Nat) :
    eraseChars depth cs = eraseChars depth ds := by
  obtain ⟨before, after, plain⟩ := deletes
  rw [List.append_assoc, eraseChars_append, eraseChars_pair (.of_plain plain), ← eraseChars_append]

theorem Deletes.count_eq {cs ds : List Char} (deletes : Deletes cs ds)
    (balanced : cs.count '<' = cs.count '>') : ds.count '<' = ds.count '>' := by
  obtain ⟨before, after, plain⟩ := deletes
  simp only [List.append_assoc, List.cons_append, List.count_append, List.count_cons,
    List.count_eq_zero_of_not_mem plain.1, List.count_eq_zero_of_not_mem plain.2] at balanced
  simp at balanced
  simp only [List.count_append]
  omega

theorem Deletes.length_lt {cs ds : List Char} (deletes : Deletes cs ds) :
    ds.length < cs.length := by
  obtain ⟨before, after, plain⟩ := deletes
  simp only [List.length_append, List.length_cons]
  omega

/-- Where a bracket is opened and one is closed behind it, a pair of brackets can be deleted. -/
theorem exists_deletes (before : List Char) {inner rest : List Char} (plain : Plain inner)
    (closed : '>' ∈ rest) : ∃ next, Deletes (before ++ '<' :: inner ++ rest) next := by
  -- `inner` is what has been passed since the last bracket was opened
  induction rest generalizing before inner with
  | nil => cases closed
  | cons c rest ih =>
    by_cases closing : c = '>'
    · subst closing
      exact ⟨_, .pair before rest plain⟩
    · have later : '>' ∈ rest := (List.mem_cons.mp closed).resolve_left (Ne.symm closing)
      by_cases opening : c = '<'
      · subst opening
        have next := ih (before ++ '<' :: inner) plain_nil later
        simpa using next
      · have passed : Plain (inner ++ [c]) := by
          simpa [Plain, Ne.symm opening, Ne.symm closing] using plain
        simpa using ih before passed later

/-- As many brackets are opened as closed, none is closed that was not opened, and no pair can be
deleted: there are none. -/
theorem Finished.plain {cs : List Char} (finished : Finished cs)
    (balanced : cs.count '<' = cs.count '>') (noSurplus : '>' ∉ eraseChars 0 cs) : Plain cs := by
  have unopened : '<' ∉ cs := by
    intro opened
    obtain ⟨before, rest, rfl, unopened⟩ := List.eq_append_cons_of_mem opened
    have unclosed : '>' ∉ rest := by
      intro closed
      obtain ⟨next, deletes⟩ := exists_deletes before plain_nil closed
      exact finished next (by simpa using deletes)
    have surplus : '>' ∈ before := by
      rw [← List.count_pos_iff]
      simp [List.count_eq_zero_of_not_mem unclosed] at balanced
      omega
    rw [eraseChars_append_of_notMem unopened] at noSurplus
    exact noSurplus (List.mem_append_left _ surplus)
  rw [eraseChars_of_notMem unopened] at noSurplus
  exact ⟨unopened, noSurplus⟩

theorem exists_finished (cs : List Char) :
    ∃ rest, Relation.ReflTransGen Deletes cs rest ∧ Finished rest := by
  induction length : cs.length using Nat.strong_induction_on generalizing cs with
  | _ n ih =>
    by_cases finished : Finished cs
    · exact ⟨cs, .refl, finished⟩
    · obtain ⟨next, deletes⟩ := not_forall_not.mp finished
      obtain ⟨rest, later, finished⟩ := ih _ (length ▸ deletes.length_lt) next rfl
      exact ⟨rest, .head deletes later, finished⟩

section Reached

open Relation (ReflTransGen)

variable {cs ds : List Char}

theorem eraseChars_of_reached (reached : ReflTransGen Deletes cs ds) (depth : Nat) :
    eraseChars depth ds = eraseChars depth cs := by
  induction reached with
  | refl => rfl
  | tail _ deletes ih => rw [← deletes.eraseChars_eq, ih]

theorem count_of_reached (reached : ReflTransGen Deletes cs ds)
    (balanced : cs.count '<' = cs.count '>') : ds.count '<' = ds.count '>' := by
  induction reached with
  | refl => exact balanced
  | tail _ deletes ih => exact deletes.count_eq ih

/-- However the pairs are deleted, what is outside the segments is left. -/
theorem Finished.eq_outside {first : List Char} (plain : Plain first) {segments : List Segment}
    (reached : ReflTransGen Deletes (Segment.texts first segments) ds) (finished : Finished ds) :
    ds = Segment.outside first segments := by
  have erased : eraseChars 0 ds = Segment.outside first segments := by
    rw [eraseChars_of_reached reached, eraseChars_texts plain]
  have balanced := count_of_reached reached (Segment.wellBracketed_texts plain segments).count_eq
  have noSurplus : '>' ∉ eraseChars 0 ds := by
    rw [erased]
    intro mem
    rcases List.mem_append.mp mem with mem | mem
    · exact plain.2 mem
    · obtain ⟨s, -, mem⟩ := List.mem_flatMap.mp mem
      exact s.plain.2 mem
  rw [← erased, eraseChars_of_notMem (finished.plain balanced noSurplus).1]

end Reached

theorem erase_texts {first : List Char} (plain : Plain first) (segments : List Segment) :
    erase (String.ofList (Segment.texts first segments)) =
      String.ofList (Text.trimChars (Segment.outside first segments)) := by
  rw [erase, String.toList_ofList, eraseChars_texts plain]

/-- A name without brackets is only trimmed. -/
theorem erase_of_plain {name : String} (plain : Plain name.toList) :
    erase name = Text.trim name := by
  rw [erase, eraseChars_of_notMem plain.1, Text.trim]

/-- **Erasure removes the type arguments.** Of a text with well-bracketed segments what stands
outside them is left and trimmed, and that is what deleting one innermost pair of brackets after
another leaves, whichever is taken first. What is left of any text holds no opening bracket, has no
blank at its ends and is erased to itself. A name with arguments agrees with another one when it is
the same without them, up to blanks. -/
theorem erasure_removes_segments :
    (∀ (first : List Char) (segments : List Segment), Plain first →
      erase (String.ofList (Segment.texts first segments)) =
          String.ofList (Text.trimChars (Segment.outside first segments)) ∧
        ∀ partway, Relation.ReflTransGen Deletes (Segment.texts first segments) partway →
          (Finished partway → partway = Segment.outside first segments) ∧
            ∃ rest, Relation.ReflTransGen Deletes partway rest ∧ Finished rest) ∧
      (∀ name, '<' ∉ (erase name).toList ∧
        (∀ c, (erase name).toList.head? = some c → Text.isBlank c = false) ∧
        (∀ c, (erase name).toList.getLast? = some c → Text.isBlank c = false) ∧
        erase (erase name) = erase name) ∧
      ∀ a b arguments : String, Plain a.toList → Plain b.toList →
        WellBracketed arguments.toList →
          (Same (a ++ "<" ++ arguments ++ ">") b ↔ Text.trim a = Text.trim b) := by
  refine ⟨?_, ?_, ?_⟩
  · intro first segments plain
    exact ⟨erase_texts plain segments, fun partway reached =>
      ⟨Finished.eq_outside plain reached, exists_finished partway⟩⟩
  · intro name
    have trimmed : Text.trimChars (erase name).toList = (erase name).toList := by
      rw [toList_erase, Text.trimChars_trimChars]
    obtain ⟨start, stop⟩ := Text.trimChars_eq_self.mp trimmed
    exact ⟨notMem_erase name, start, stop, erase_erase name⟩
  · intro a b arguments plainA plainB wellBracketed
    let segment : Segment := ⟨arguments.toList, [], wellBracketed, plain_nil⟩
    have text : a ++ "<" ++ arguments ++ ">" =
        String.ofList (Segment.texts a.toList [segment]) := by
      rw [← String.toList_inj]
      simp [Segment.texts, Segment.text, segment]
    have erased : erase (a ++ "<" ++ arguments ++ ">") = Text.trim a := by
      rw [text, erase_texts plainA, Text.trim]
      simp [Segment.outside, segment]
    rw [Same, erased, erase_of_plain plainB]

/-- Arguments with arguments of their own. -/
theorem wellBracketed_nested :
    WellBracketed ("K, List".toList ++ ('<' :: "V".toList ++ '>' :: [])) :=
  .plain_append (by decide) (.pair (.of_plain (by decide)) .nil)

/-- The pairs of brackets in `Map<K, List<V>>[]<> `, without what is in front of them. -/
def mapSegments : List Segment :=
  [⟨_, "[]".toList, wellBracketed_nested, by decide⟩, ⟨[], " ".toList, .nil, by decide⟩]

theorem map_arguments_removed :
    (Plain "Map".toList ∧
      Segment.texts "Map".toList mapSegments = "Map<K, List<V>>[]<> ".toList ∧
      erase "Map<K, List<V>>[]<> " = "Map[]" ∧
      Relation.ReflTransGen Deletes "Map<K, List<V>>[]<> ".toList "Map[] ".toList ∧
      Finished "Map[] ".toList) ∧
    (Plain "Map".toList ∧ Plain " Map".toList ∧ WellBracketed "K, List<V>".toList ∧
      Same ("Map" ++ "<" ++ "K, List<V>" ++ ">") " Map") := by
  obtain ⟨removed, _, agrees⟩ := erasure_removes_segments
  have plain : Plain "Map".toList := by decide
  have text : Segment.texts "Map".toList mapSegments = "Map<K, List<V>>[]<> ".toList := by decide
  have outside : Segment.outside "Map".toList mapSegments = "Map[] ".toList := by decide
  have nested : WellBracketed "K, List<V>".toList := by
    have same : "K, List<V>".toList = "K, List".toList ++ ('<' :: "V".toList ++ '>' :: []) := by
      decide
    exact same ▸ wellBracketed_nested
  refine ⟨⟨plain, text, ?_, ?_⟩, plain, by decide, nested, ?_⟩
  · have erased := (removed "Map".toList mapSegments plain).1
    rw [text, outside] at erased
    exact erased.trans (by decide)
  · obtain ⟨rest, reached, finished⟩ := ((removed "Map".toList mapSegments plain).2 _ .refl).2
    obtain rfl := ((removed "Map".toList mapSegments plain).2 rest reached).1 finished
    rw [text, outside] at reached
    rw [outside] at finished
    exact ⟨reached, finished⟩
  · exact (agrees "Map" " Map" "K, List<V>" plain (by decide) nested).mpr (by decide)

end CodeGrading.TypeName
