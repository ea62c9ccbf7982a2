import CodeGrading.Proofs.TypeName.Brackets

/-!
The parts of a text between the commas outside brackets. Splitting reads them one after the other
(`texts`), and they are what stands between the places of these commas (`texts_eq_parts`). Put
together with commas they are the text again (`intercalate_texts`), and a text that goes on only
makes its last part longer (`exists_texts_append`).
-/

namespace CodeGrading.TypeList

open CodeGrading.TypeName (openAfter)

/-- The places of the commas outside brackets, in a text with `depth` brackets open in front of
it. -/
def commasOutside (depth : Nat) (cs : List Char) : List Nat :=
  (List.range cs.length).filter fun i => cs[i]? = some ',' ∧ openAfter depth (cs.take i) = 0

/-- What stands from one place of a text up to another. -/
def between (cs : List Char) (start stop : Nat) : List Char :=
  (cs.take stop).drop start

/-- What stands between the commas outside brackets, from the start of the text to its end. -/
def parts (depth : Nat) (cs : List Char) : List (List Char) :=
  let commas := commasOutside depth cs
  List.zipWith (between cs) (0 :: commas.map (· + 1)) (commas ++ [cs.length])

/-- The parts as they are read one after the other. -/
def texts (depth : Nat) (cs : List Char) : List (List Char) :=
  (pieces depth cs).1 :: (pieces depth cs).2

/-- The parts without the blanks at their ends. -/
def trimmedTexts (depth : Nat) (cs : List Char) : List (List Char) :=
  (texts depth cs).map Text.trimChars

variable {depth : Nat} {c : Char} {cs : List Char}

/-! ## Reading the parts -/

theorem texts_comma (cs : List Char) : texts 0 (',' :: cs) = [] :: texts 0 cs := by
  simp [texts, pieces]

theorem texts_cons (other : ¬ (c = ',' ∧ depth = 0)) (cs : List Char) :
    texts depth (c :: cs) = (texts (depthAfter depth c) cs).modifyHead (c :: ·) := by
  simp [texts, pieces, other]

theorem intercalate_texts (depth : Nat) (cs : List Char) :
    [','].intercalate (texts depth cs) = cs := by
  induction cs generalizing depth with
  | nil => rfl
  | cons c cs ih =>
    by_cases comma : c = ',' ∧ depth = 0
    · obtain ⟨rfl, rfl⟩ := comma
      have rest := ih 0
      rw [texts_comma]
      rw [texts] at rest ⊢
      simp [List.intercalate_cons_cons, rest]
    · have rest := ih (depthAfter depth c)
      rw [texts_cons comma]
      rw [texts] at rest ⊢
      cases later : (pieces (depthAfter depth c) cs).2 with
      | nil => simpa [later] using rest
      | cons next more => simpa [later, List.intercalate_cons_cons] using rest

/-- Where a text goes on, its last part does. -/
theorem exists_texts_append (depth : Nat) (cs : List Char) :
    ∃ init last, texts depth cs = init ++ [last] ∧ ∀ ds,
      texts depth (cs ++ ds) = init ++ (texts (openAfter depth cs) ds).modifyHead (last ++ ·) := by
  induction cs generalizing depth with
  | nil => exact ⟨[], [], rfl, fun ds => by simp [openAfter, texts]⟩
  | cons c cs ih =>
    by_cases comma : c = ',' ∧ depth = 0
    · obtain ⟨rfl, rfl⟩ := comma
      obtain ⟨init, last, read, goesOn⟩ := ih 0
      refine ⟨[] :: init, last, by rw [texts_comma, read]; rfl, fun ds => ?_⟩
      rw [List.cons_append, texts_comma, goesOn]
      rfl
    · obtain ⟨init, last, read, goesOn⟩ := ih (depthAfter depth c)
      cases init with
      | nil =>
        refine ⟨[], c :: last, by rw [texts_cons comma, read]; rfl, fun ds => ?_⟩
        rw [List.cons_append, texts_cons comma, goesOn]
        simp [openAfter, List.modifyHead_modifyHead, Function.comp_def]
      | cons first init =>
        refine ⟨(c :: first) :: init, last, by rw [texts_cons comma, read]; rfl, fun ds => ?_⟩
        rw [List.cons_append, texts_cons comma, goesOn]
        rfl

theorem texts_append_of_single (single : texts depth cs = [cs]) (ds : List Char) :
    texts depth (cs ++ ds) = (texts (openAfter depth cs) ds).modifyHead (cs ++ ·) := by
  obtain ⟨init, last, read, goesOn⟩ := exists_texts_append depth cs
  rw [single] at read
  obtain ⟨rfl, rfl⟩ : [] = init ∧ cs = last := by
    have := congrArg List.length read
    cases init <;> simp_all
  exact goesOn ds

/-! ## The places of the commas -/

theorem commasOutside_cons (depth : Nat) (c : Char) (cs : List Char) :
    commasOutside depth (c :: cs) =
      (if c = ',' ∧ depth = 0 then [0] else []) ++
        (commasOutside (depthAfter depth c) cs).map (· + 1) := by
  rw [commasOutside, List.length_cons, List.range_succ_eq_map, List.filter_cons, List.filter_map]
  have later : List.map Nat.succ ((List.range cs.length).filter
      ((fun i => decide ((c :: cs)[i]? = some ',' ∧ openAfter depth ((c :: cs).take i) = 0)) ∘
        Nat.succ)) = (commasOutside (depthAfter depth c) cs).map (· + 1) := by
    simp only [commasOutside, openAfter, Function.comp_def, List.getElem?_cons_succ,
      List.take_succ_cons, List.foldl_cons]
    rfl
  rw [later]
  by_cases comma : c = ',' ∧ depth = 0
  · simp [comma, openAfter]
  · simp [comma, openAfter]

/-- All places move on by one behind a character. -/
theorem zipWith_between_cons (c : Char) (cs : List Char) (starts stops : List Nat) :
    List.zipWith (between (c :: cs)) (starts.map (· + 1)) (stops.map (· + 1)) =
      List.zipWith (between cs) starts stops := by
  have moved (start stop : Nat) :
      between (c :: cs) (start + 1) (stop + 1) = between cs start stop := by simp [between]
  simp only [List.zipWith_map, moved]

theorem parts_comma (cs : List Char) : parts 0 (',' :: cs) = [] :: parts 0 cs := by
  have places : commasOutside 0 (',' :: cs) = 0 :: (commasOutside 0 cs).map (· + 1) :=
    commasOutside_cons 0 ',' cs
  have stops : (0 :: (commasOutside 0 cs).map (· + 1)) ++ [(',' :: cs).length] =
      0 :: (commasOutside 0 cs ++ [cs.length]).map (· + 1) := by simp
  simp only [parts, places, stops]
  rw [List.zipWith_cons_cons, zipWith_between_cons]
  rfl

theorem parts_cons (other : ¬ (c = ',' ∧ depth = 0)) (cs : List Char) :
    parts depth (c :: cs) = (parts (depthAfter depth c) cs).modifyHead (c :: ·) := by
  have places : commasOutside depth (c :: cs) =
      (commasOutside (depthAfter depth c) cs).map (· + 1) := by
    rw [commasOutside_cons, if_neg other, List.nil_append]
  have stops : (commasOutside (depthAfter depth c) cs).map (· + 1) ++ [(c :: cs).length] =
      (commasOutside (depthAfter depth c) cs ++ [cs.length]).map (· + 1) := by simp
  simp only [parts, places, stops]
  -- the first part starts where it did, in front of the character
  cases commasOutside (depthAfter depth c) cs ++ [cs.length] with
  | nil => rfl
  | cons stop stops =>
    rw [List.map_cons, List.zipWith_cons_cons, zipWith_between_cons]
    simp [between]

theorem texts_eq_parts (depth : Nat) (cs : List Char) : texts depth cs = parts depth cs := by
  induction cs generalizing depth with
  | nil => rfl
  | cons c cs ih =>
    by_cases comma : c = ',' ∧ depth = 0
    · obtain ⟨rfl, rfl⟩ := comma
      rw [texts_comma, parts_comma, ih]
    · rw [texts_cons comma, parts_cons comma, ih]

theorem length_texts (depth : Nat) (cs : List Char) :
    (texts depth cs).length = (commasOutside depth cs).length + 1 := by
  simp [texts_eq_parts, parts]

theorem commasOutside_eq_nil : commasOutside depth cs = [] ↔ texts depth cs = [cs] := by
  constructor
  · intro none
    have length := length_texts depth cs
    rw [none] at length
    obtain ⟨text, single⟩ := List.length_eq_one_iff.mp length
    have joined := intercalate_texts depth cs
    rw [single, List.intercalate_singleton] at joined
    rw [single, joined]
  · intro single
    have length := length_texts depth cs
    rw [single] at length
    exact List.eq_nil_of_length_eq_zero (Nat.succ.inj length).symm

/-! ## Blanks -/

theorem depthAfter_of_isBlank (blank : Text.isBlank c = true) (depth : Nat) :
    depthAfter depth c = depth := by
  have notOpening : c ≠ '<' := by rintro rfl; cases blank
  have notClosing : c ≠ '>' := by rintro rfl; cases blank
  simp [depthAfter, notOpening, notClosing]

theorem openAfter_blanks (blank : ∀ c ∈ cs, Text.isBlank c = true) (depth : Nat) :
    openAfter depth cs = depth := by
  induction cs with
  | nil => rfl
  | cons c cs ih =>
    obtain ⟨first, blank⟩ := List.forall_mem_cons.mp blank
    rw [openAfter, List.foldl_cons, depthAfter_of_isBlank first]
    exact ih blank

theorem texts_blanks (blank : ∀ c ∈ cs, Text.isBlank c = true) (depth : Nat) :
    texts depth cs = [cs] := by
  induction cs with
  | nil => rfl
  | cons c cs ih =>
    obtain ⟨first, blank⟩ := List.forall_mem_cons.mp blank
    have comma : ¬ (c = ',' ∧ depth = 0) := by
      rintro ⟨rfl, -⟩
      cases first
    rw [texts_cons comma, depthAfter_of_isBlank first, ih blank]
    rfl

theorem openAfter_around {front back : List Char} (blankFront : ∀ c ∈ front, Text.isBlank c = true)
    (blankBack : ∀ c ∈ back, Text.isBlank c = true) (depth : Nat) (cs : List Char) :
    openAfter depth (front ++ cs ++ back) = openAfter depth cs := by
  have append (depth : Nat) (cs ds : List Char) :
      openAfter depth (cs ++ ds) = openAfter (openAfter depth cs) ds := List.foldl_append
  rw [append, append, openAfter_blanks blankFront, openAfter_blanks blankBack]

/-- Blanks at the ends of a text are blanks at the ends of its parts. -/
theorem trimmedTexts_around {front back : List Char}
    (blankFront : ∀ c ∈ front, Text.isBlank c = true)
    (blankBack : ∀ c ∈ back, Text.isBlank c = true) (depth : Nat) (cs : List Char) :
    trimmedTexts depth (front ++ cs ++ back) = trimmedTexts depth cs := by
  obtain ⟨init, last, read, goesOn⟩ := exists_texts_append depth cs
  have trimFront (ds : List Char) : Text.trimChars (front ++ ds) = Text.trimChars ds := by
    simpa using Text.trimChars_blanks blankFront (List.forall_mem_nil _) ds
  have trimBack (ds : List Char) : Text.trimChars (ds ++ back) = Text.trimChars ds :=
    Text.trimChars_blanks (List.forall_mem_nil _) blankBack ds
  rw [trimmedTexts, trimmedTexts, List.append_assoc,
    texts_append_of_single (texts_blanks blankFront depth), openAfter_blanks blankFront, goesOn,
    texts_blanks blankBack, read]
  cases init with
  | nil => simp [trimFront, trimBack]
  | cons first init => simp [trimFront, trimBack]

/-! ## Parts that can be told apart -/

/-- Texts that are the parts of what they are put together to: each is one part, and every one that
is followed by another has its brackets closed. The first one is inside `depth` brackets. -/
inductive Separable : Nat → List (List Char) → Prop where
  | last {depth t} (single : commasOutside depth t = []) : Separable depth [t]
  | cons {depth t ts} (single : commasOutside depth t = []) (closed : openAfter depth t = 0)
      (rest : Separable 0 ts) : Separable depth (t :: ts)

theorem separable_texts (depth : Nat) (cs : List Char) : Separable depth (texts depth cs) := by
  induction cs generalizing depth with
  | nil => exact .last rfl
  | cons c cs ih =>
    by_cases comma : c = ',' ∧ depth = 0
    · obtain ⟨rfl, rfl⟩ := comma
      rw [texts_comma]
      exact .cons rfl rfl (ih 0)
    · have single {t : List Char} (single : commasOutside (depthAfter depth c) t = []) :
          commasOutside depth (c :: t) = [] := by
        rw [commasOutside_cons, if_neg comma, single]
        rfl
      have rest := ih (depthAfter depth c)
      rw [texts_cons comma]
      generalize texts (depthAfter depth c) cs = read at rest
      cases rest with
      | last alone => exact .last (single alone)
      | cons alone closed rest => exact .cons (single alone) closed rest

theorem single_around {front back : List Char} (blankFront : ∀ c ∈ front, Text.isBlank c = true)
    (blankBack : ∀ c ∈ back, Text.isBlank c = true) (depth : Nat) (cs : List Char) :
    commasOutside depth (front ++ cs ++ back) = [] ↔ commasOutside depth cs = [] := by
  have length := congrArg List.length (trimmedTexts_around blankFront blankBack depth cs)
  simp only [trimmedTexts, List.length_map, length_texts] at length
  rw [← List.length_eq_zero_iff, ← List.length_eq_zero_iff]
  omega

theorem Separable.trimmed {ts : List (List Char)} (separable : Separable depth ts) :
    Separable depth (ts.map Text.trimChars) := by
  have trim (depth : Nat) (t : List Char) :
      (commasOutside depth t = [] → commasOutside depth (Text.trimChars t) = []) ∧
        openAfter depth (Text.trimChars t) = openAfter depth t := by
    obtain ⟨front, back, blankFront, blankBack, eq⟩ := Text.exists_blanks t
    have single := single_around blankFront blankBack depth (Text.trimChars t)
    have closed := openAfter_around blankFront blankBack depth (Text.trimChars t)
    rw [← eq] at single closed
    exact ⟨single.mp, closed.symm⟩
  induction separable with
  | last single => exact .last ((trim _ _).1 single)
  | cons single closed _ ih => exact .cons ((trim _ _).1 single) ((trim _ _).2.trans closed) ih

end CodeGrading.TypeList
