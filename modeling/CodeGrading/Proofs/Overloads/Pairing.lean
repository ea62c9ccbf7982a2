import CodeGrading.Overloads
import Mathlib.Data.List.Perm.Basic

/-!
Pairing two lists. `pairUp` pairs every element of the one list, in order, and uses every element
of an equally long other list exactly once (`pairUp_fst`, `pairUp_snd_perm`). Where fitting is
agreement of a key and both lists have the same keys, every pair fits (`pairUp_fits`): no choice
of the first pass can take away a partner that a later element needs. Lists that fit as they stand
are paired as they stand (`pairUp_of_forall₂`). Nothing but fitting and nearness is looked at
(`pairUp_map`).
-/

namespace CodeGrading

open scoped List

variable {α β κ : Type}

/-! ## Taking the first that satisfies a test -/

theorem takeFirst?_eq_none {p : β → Bool} {bs : List β} :
    takeFirst? p bs = none ↔ ∀ b ∈ bs, p b = false := by
  induction bs with
  | nil => simp [takeFirst?]
  | cons b bs ih =>
    cases h : p b <;> simp [takeFirst?, h, ih]

/-- What is taken satisfies the test, nothing before it does, and the rest keeps its order. -/
theorem takeFirst?_eq_some {p : β → Bool} {bs left : List β} {b : β}
    (h : takeFirst? p bs = some (b, left)) :
    p b = true ∧ ∃ front back, bs = front ++ b :: back ∧ left = front ++ back ∧
      ∀ x ∈ front, p x = false := by
  induction bs generalizing left with
  | nil => cases h
  | cons x xs ih =>
    cases hx : p x with
    | true =>
      simp only [takeFirst?, hx, if_true, Option.some.injEq, Prod.mk.injEq] at h
      obtain ⟨rfl, rfl⟩ := h
      exact ⟨hx, [], xs, rfl, rfl, by simp⟩
    | false =>
      simp only [takeFirst?, hx, Bool.false_eq_true, if_false, Option.map_eq_some_iff,
        Prod.mk.injEq, Prod.exists] at h
      obtain ⟨found, rest, taken, rfl, rfl⟩ := h
      obtain ⟨fits, front, back, rfl, rfl, before⟩ := ih taken
      refine ⟨fits, x :: front, back, rfl, rfl, ?_⟩
      intro y hy
      rcases List.mem_cons.mp hy with rfl | hy
      · exact hx
      · exact before y hy

theorem takeFirst?_perm {p : β → Bool} {bs left : List β} {b : β}
    (h : takeFirst? p bs = some (b, left)) : (b :: left).Perm bs := by
  obtain ⟨_, front, back, rfl, rfl, _⟩ := takeFirst?_eq_some h
  exact List.perm_middle.symm

/-! ## The first pass -/

section Fitting

variable {fits : α → β → Bool}

theorem pairFitting_fst (as : List α) (bs : List β) :
    (pairFitting fits as bs).1.map Prod.fst = as := by
  induction as generalizing bs with
  | nil => rfl
  | cons a as ih =>
    cases h : takeFirst? (fits a) bs with
    | none => simp [pairFitting, h, ih]
    | some taken => simp [pairFitting, h, ih]

/-- The partners given and the elements left are those of the list. -/
theorem pairFitting_perm (as : List α) (bs : List β) :
    ((pairFitting fits as bs).1.filterMap Prod.snd ++ (pairFitting fits as bs).2).Perm bs := by
  induction as generalizing bs with
  | nil => exact .refl _
  | cons a as ih =>
    cases h : takeFirst? (fits a) bs with
    | none => simpa [pairFitting, h] using ih bs
    | some taken =>
      obtain ⟨b, left⟩ := taken
      simp only [pairFitting, h, List.filterMap_cons, List.cons_append]
      exact ((ih left).cons b).trans (takeFirst?_perm h)

theorem pairFitting_fits {as : List α} {bs : List β} {a : α} {b : β}
    (h : (a, some b) ∈ (pairFitting fits as bs).1) : fits a b = true := by
  induction as generalizing bs with
  | nil => cases h
  | cons x xs ih =>
    cases taken : takeFirst? (fits x) bs with
    | none =>
      simp only [pairFitting, taken, List.mem_cons, Prod.mk.injEq, reduceCtorEq, and_false,
        false_or] at h
      exact ih h
    | some found =>
      simp only [pairFitting, taken, List.mem_cons, Prod.mk.injEq, Option.some.injEq] at h
      rcases h with ⟨rfl, rfl⟩ | h
      · exact (takeFirst?_eq_some taken).1
      · exact ih h

/-- Where fitting is agreement of keys, a list with the same keys leaves nobody alone. -/
theorem pairFitting_isSome {keyA : α → κ} {keyB : β → κ}
    (agreement : ∀ a b, fits a b = true ↔ keyA a = keyB b) {as : List α} {bs : List β}
    (keys : (as.map keyA).Perm (bs.map keyB)) :
    ∀ pair ∈ (pairFitting fits as bs).1, pair.2.isSome = true := by
  induction as generalizing bs with
  | nil => simp [pairFitting]
  | cons a as ih =>
    cases taken : takeFirst? (fits a) bs with
    | none =>
      have mem : keyA a ∈ bs.map keyB := keys.mem_iff.mp (by simp)
      obtain ⟨b, hb, eq⟩ := List.mem_map.mp mem
      have unfit := takeFirst?_eq_none.mp taken b hb
      rw [(agreement a b).mpr eq.symm] at unfit
      cases unfit
    | some found =>
      obtain ⟨b, left⟩ := found
      have eq : keyA a = keyB b := (agreement a b).mp (takeFirst?_eq_some taken).1
      -- both lists lose the same key, so the others still have the same keys
      have rest : (keyB b :: as.map keyA).Perm (keyB b :: left.map keyB) := by
        have := keys.trans ((takeFirst?_perm taken).map keyB).symm
        simpa [eq] using this
      intro pair hp
      simp only [pairFitting, taken, List.mem_cons] at hp
      rcases hp with rfl | hp
      · rfl
      · exact ih (List.Perm.cons_inv rest) pair hp

end Fitting

/-! ## The second pass -/

section Rest

variable {near : α → β → Bool}

theorem takeFirst?_orElse_perm {p : β → Bool} {bs left : List β} {b : β}
    (h : (takeFirst? p bs <|> takeFirst? (fun _ => true) bs) = some (b, left)) :
    (b :: left).Perm bs := by
  cases near : takeFirst? p bs with
  | some taken =>
    rw [near] at h
    exact takeFirst?_perm (near.trans h)
  | none =>
    rw [near] at h
    exact takeFirst?_perm h

/-- As long as something is left, an element finds a partner. -/
theorem takeFirst?_orElse {p : β → Bool} {bs : List β} (nonempty : 0 < bs.length) :
    ∃ b left, (takeFirst? p bs <|> takeFirst? (fun _ => true) bs) = some (b, left) ∧
      (b :: left).Perm bs ∧ left.length + 1 = bs.length := by
  have found : ∃ taken, (takeFirst? p bs <|> takeFirst? (fun _ => true) bs) = some taken := by
    cases takeFirst? p bs with
    | some taken => exact ⟨taken, rfl⟩
    | none =>
      cases bs with
      | nil => cases nonempty
      | cons b bs => exact ⟨(b, bs), rfl⟩
  obtain ⟨⟨b, left⟩, taken⟩ := found
  have perm := takeFirst?_orElse_perm taken
  exact ⟨b, left, taken, perm, perm.length_eq⟩

theorem pairRest_fst {pairs : List (α × Option β)} {bs : List β}
    (enough : pairs.countP (·.2.isNone) ≤ bs.length) :
    (pairRest near pairs bs).map Prod.fst = pairs.map Prod.fst := by
  induction pairs generalizing bs with
  | nil => rfl
  | cons pair pairs ih =>
    obtain ⟨a, partner⟩ := pair
    cases partner with
    | some b =>
      have enough : pairs.countP (·.2.isNone) ≤ bs.length := by simpa using enough
      simp [pairRest, ih enough]
    | none =>
      have enough : pairs.countP (·.2.isNone) + 1 ≤ bs.length := by simpa using enough
      have nonempty : 0 < bs.length := by omega
      obtain ⟨b, left, taken, _, length⟩ := takeFirst?_orElse (p := near a) nonempty
      have enough : pairs.countP (·.2.isNone) ≤ left.length := by omega
      simp [pairRest, taken, ih enough]

theorem pairRest_snd_perm {pairs : List (α × Option β)} {bs : List β}
    (enough : pairs.countP (·.2.isNone) = bs.length) :
    ((pairRest near pairs bs).map Prod.snd).Perm (pairs.filterMap Prod.snd ++ bs) := by
  -- as many are left as elements are alone, so each of them finds one and in the end none is left
  induction pairs generalizing bs with
  | nil =>
    have empty : bs = [] := List.eq_nil_of_length_eq_zero enough.symm
    simp [pairRest, empty]
  | cons pair pairs ih =>
    obtain ⟨a, partner⟩ := pair
    cases partner with
    | some b =>
      have rest : pairs.countP (·.2.isNone) = bs.length := by simpa using enough
      simpa [pairRest] using ih rest
    | none =>
      have count : pairs.countP (·.2.isNone) + 1 = bs.length := by simpa using enough
      have nonempty : 0 < bs.length := by omega
      obtain ⟨b, left, taken, perm, length⟩ := takeFirst?_orElse (p := near a) nonempty
      have rest : pairs.countP (·.2.isNone) = left.length := by omega
      simp only [pairRest, taken, List.map_cons, List.filterMap_cons]
      calc b :: (pairRest near pairs left).map Prod.snd
        _ ~ b :: (pairs.filterMap Prod.snd ++ left) := (ih rest).cons b
        _ ~ pairs.filterMap Prod.snd ++ b :: left := List.perm_middle.symm
        _ ~ pairs.filterMap Prod.snd ++ bs := perm.append_left _

/-- A pair comes from the first pass, or its elements were both left by it. -/
theorem mem_pairRest {pairs : List (α × Option β)} {bs : List β} {a : α} {b : β}
    (h : (a, b) ∈ pairRest near pairs bs) : (a, some b) ∈ pairs ∨ (a, none) ∈ pairs ∧ b ∈ bs := by
  induction pairs generalizing bs with
  | nil => cases h
  | cons pair pairs ih =>
    obtain ⟨x, partner⟩ := pair
    have later {left : List β} (subset : left ⊆ bs) (h : (a, b) ∈ pairRest near pairs left) :
        (a, some b) ∈ (x, partner) :: pairs ∨ (a, none) ∈ (x, partner) :: pairs ∧ b ∈ bs :=
      (ih h).imp (List.mem_cons_of_mem _) fun ⟨alone, mem⟩ =>
        ⟨List.mem_cons_of_mem _ alone, subset mem⟩
    cases partner with
    | some y =>
      simp only [pairRest, List.mem_cons, Prod.mk.injEq] at h
      rcases h with ⟨rfl, rfl⟩ | h
      · exact Or.inl List.mem_cons_self
      · exact later (List.Subset.refl _) h
    | none =>
      cases taken : takeFirst? (near x) bs <|> takeFirst? (fun _ => true) bs with
      | none =>
        simp only [pairRest, taken] at h
        exact later (List.Subset.refl _) h
      | some found =>
        obtain ⟨y, left⟩ := found
        have perm := takeFirst?_orElse_perm taken
        simp only [pairRest, taken, List.mem_cons, Prod.mk.injEq] at h
        rcases h with ⟨rfl, rfl⟩ | h
        · exact Or.inr ⟨List.mem_cons_self, perm.subset List.mem_cons_self⟩
        · exact later (fun _ mem => perm.subset (List.mem_cons_of_mem _ mem)) h

end Rest

/-! ## Both passes -/

section Both

variable {fits near : α → β → Bool} {as : List α} {bs : List β}

/-- The elements without a partner after the first pass and the ones left are as many more or
fewer as the lists are. -/
theorem countP_pairFitting (as : List α) (bs : List β) :
    (pairFitting fits as bs).1.countP (·.2.isNone) + bs.length =
      as.length + (pairFitting fits as bs).2.length := by
  have total := congrArg List.length (@pairFitting_fst _ _ fits as bs)
  have used := (@pairFitting_perm _ _ fits as bs).length_eq
  have split := List.length_eq_countP_add_countP (fun pair : α × Option β => pair.2.isSome)
    (l := (pairFitting fits as bs).1)
  simp only [List.length_map, List.length_append, List.length_filterMap_eq_countP] at total used
  simp only [Option.not_isSome_iff_eq_none, ← Option.isNone_iff_eq_none,
    Bool.decide_eq_true] at split
  omega

theorem pairUp_fst (enough : as.length ≤ bs.length) :
    (pairUp fits near as bs).map Prod.fst = as := by
  have count := @countP_pairFitting _ _ fits as bs
  simp only [pairUp]
  rw [pairRest_fst (by omega), pairFitting_fst]

theorem pairUp_snd_perm (length : as.length = bs.length) :
    ((pairUp fits near as bs).map Prod.snd).Perm bs := by
  have count := @countP_pairFitting _ _ fits as bs
  exact (pairRest_snd_perm (by omega)).trans (pairFitting_perm as bs)

theorem pairUp_fits {keyA : α → κ} {keyB : β → κ}
    (agreement : ∀ a b, fits a b = true ↔ keyA a = keyB b)
    (keys : (as.map keyA).Perm (bs.map keyB)) {a : α} {b : β}
    (h : (a, b) ∈ pairUp fits near as bs) : keyA a = keyB b := by
  rcases mem_pairRest h with given | alone
  · exact (agreement a b).mp (pairFitting_fits given)
  · cases pairFitting_isSome agreement keys _ alone.1

/-- Of two lists whose first elements fit, these are paired. -/
theorem mem_pairUp_of_heads {a : α} {b : β} (h : fits a b = true) :
    (a, b) ∈ pairUp fits near (a :: as) (b :: bs) := by
  simp [pairUp, pairFitting, takeFirst?, h, pairRest]

/-- Where the elements fit as they stand, every choice of the first pass falls on the next one. -/
theorem pairFitting_of_forall₂ (aligned : List.Forall₂ (fits · · = true) as bs) :
    pairFitting fits as bs = ((as.zip bs).map fun (a, b) => (a, some b), []) := by
  induction aligned with
  | nil => rfl
  | cons h _ ih => simp [pairFitting, takeFirst?, h, ih]

theorem pairRest_of_given (pairs : List (α × β)) (bs : List β) :
    pairRest near (pairs.map fun (a, b) => (a, some b)) bs = pairs := by
  induction pairs with
  | nil => rfl
  | cons pair pairs ih => simp [pairRest, ih]

theorem pairUp_of_forall₂ (aligned : List.Forall₂ (fits · · = true) as bs) :
    pairUp fits near as bs = as.zip bs := by
  simp only [pairUp, pairFitting_of_forall₂ aligned]
  exact pairRest_of_given _ _

end Both

/-! ## Other elements -/

section Map

variable {α' β' : Type} {f : α → α'} {g : β → β'}

theorem takeFirst?_map (p : β' → Bool) (bs : List β) :
    takeFirst? p (bs.map g) = (takeFirst? (p ∘ g) bs).map (Prod.map g (List.map g)) := by
  induction bs with
  | nil => rfl
  | cons b bs ih =>
    cases h : p (g b) with
    | true => simp [takeFirst?, h]
    | false =>
      simp only [List.map_cons, takeFirst?, h, Function.comp_apply, Bool.false_eq_true, if_false,
        ih, Option.map_map]
      rfl

variable {fits near : α → β → Bool} {fits' near' : α' → β' → Bool}

theorem pairFitting_map (same : ∀ a b, fits' (f a) (g b) = fits a b) (as : List α) (bs : List β) :
    pairFitting fits' (as.map f) (bs.map g) =
      ((pairFitting fits as bs).1.map (Prod.map f (Option.map g)),
        (pairFitting fits as bs).2.map g) := by
  induction as generalizing bs with
  | nil => rfl
  | cons a as ih =>
    have taken : takeFirst? (fits' (f a)) (bs.map g) =
        (takeFirst? (fits a) bs).map (Prod.map g (List.map g)) := by
      rw [takeFirst?_map]
      congr 2
      exact funext (same a)
    cases h : takeFirst? (fits a) bs <;> simp [pairFitting, taken, h, ih]

theorem pairRest_map (same : ∀ a b, near' (f a) (g b) = near a b) (pairs : List (α × Option β))
    (bs : List β) :
    pairRest near' (pairs.map (Prod.map f (Option.map g))) (bs.map g) =
      (pairRest near pairs bs).map (Prod.map f g) := by
  induction pairs generalizing bs with
  | nil => rfl
  | cons pair pairs ih =>
    obtain ⟨a, partner⟩ := pair
    cases partner with
    | some b => simp [pairRest, ih]
    | none =>
      have near_same : near' (f a) ∘ g = near a := funext (same a)
      have any_same : (fun _ : β' => true) ∘ g = fun _ : β => true := rfl
      have taken :
          (takeFirst? (near' (f a)) (bs.map g) <|> takeFirst? (fun _ => true) (bs.map g)) =
            (takeFirst? (near a) bs <|> takeFirst? (fun _ => true) bs).map
              (Prod.map g (List.map g)) := by
        rw [takeFirst?_map, takeFirst?_map, near_same, any_same]
        cases takeFirst? (near a) bs <;> rfl
      cases h : takeFirst? (near a) bs <|> takeFirst? (fun _ => true) bs <;>
        simp [pairRest, taken, h, ih]

/-- Elements that fit and are near as others do are paired as those are. -/
theorem pairUp_map (same_fits : ∀ a b, fits' (f a) (g b) = fits a b)
    (same_near : ∀ a b, near' (f a) (g b) = near a b) (as : List α) (bs : List β) :
    pairUp fits' near' (as.map f) (bs.map g) = (pairUp fits near as bs).map (Prod.map f g) := by
  simp only [pairUp, pairFitting_map same_fits]
  exact pairRest_map same_near _ _

end Map

end CodeGrading
