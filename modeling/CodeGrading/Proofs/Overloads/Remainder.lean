import CodeGrading.Proofs.Overloads.Pairing
import Mathlib.Algebra.Order.Group.Multiset

/-!
What a pairing leaves over. After the first pass nothing that is left on one side fits anything
left on the other (`remainder_pairFitting`), and the second pass only pairs what is left
(`filter_pairUp`). So no two pairs that do not fit can exchange partners for a better fit
(`pairUp_unexchangeable`). Where fitting is agreement of a key, the keys left over are the
difference of the keys of the two lists (`Remainder.keys_left`), and no pairing of the lists has
fewer pairs that do not fit (`countP_unfit_pairUp_le`). Where nearness is agreement of another key,
and what is left has the same of these keys on both sides, near elements are paired in their order
(`pairUp_near`, `pairUp_sorted`).
-/

namespace CodeGrading

variable {α β κ : Type} {fits near : α → β → Bool} {as : List α} {bs : List β}

/-- The rest of two lists after some pairs that fit have been taken out of them, when nothing is
left that fits. -/
structure Remainder (fits : α → β → Bool) (as : List α) (bs : List β) (as' : List α)
    (bs' : List β) : Prop where
  taken : ∃ pairs : List (α × β), (∀ x ∈ pairs, fits x.1 x.2 = true) ∧
    as.Perm (pairs.map Prod.fst ++ as') ∧ bs.Perm (pairs.map Prod.snd ++ bs')
  unfit : ∀ a ∈ as', ∀ b ∈ bs', fits a b = false

/-- The elements that have been given no partner. -/
def alone (pairs : List (α × Option β)) : List α :=
  (pairs.filter (·.2.isNone)).map Prod.fst

/-- The pairs of those that have been given one. -/
def given (pairs : List (α × Option β)) : List (α × β) :=
  pairs.filterMap fun x => x.2.map (x.1, ·)

@[simp] theorem alone_cons_none (a : α) (pairs : List (α × Option β)) :
    alone ((a, none) :: pairs) = a :: alone pairs := rfl

@[simp] theorem alone_cons_some (a : α) (b : β) (pairs : List (α × Option β)) :
    alone ((a, some b) :: pairs) = alone pairs := rfl

theorem mem_alone {a : α} {pairs : List (α × Option β)} : a ∈ alone pairs ↔ (a, none) ∈ pairs := by
  simp [alone]

theorem mem_given {x : α × β} {pairs : List (α × Option β)} :
    x ∈ given pairs ↔ (x.1, some x.2) ∈ pairs := by
  obtain ⟨a, b⟩ := x
  simp [given]

theorem given_snd (pairs : List (α × Option β)) :
    (given pairs).map Prod.snd = pairs.filterMap Prod.snd := by
  rw [given, List.map_filterMap]
  congr 1
  funext x
  cases x.2 <;> rfl

theorem given_alone_perm (pairs : List (α × Option β)) :
    (pairs.map Prod.fst).Perm ((given pairs).map Prod.fst ++ alone pairs) := by
  induction pairs with
  | nil => exact .refl _
  | cons pair pairs ih =>
    obtain ⟨a, partner⟩ := pair
    cases partner with
    | some b => exact ih.cons a
    | none => exact (ih.cons a).trans List.perm_middle.symm

/-! ## The first pass -/

theorem takeFirst?_sublist {p : β → Bool} {left : List β} {b : β}
    (h : takeFirst? p bs = some (b, left)) : left.Sublist bs := by
  obtain ⟨_, front, back, rfl, rfl, _⟩ := takeFirst?_eq_some h
  exact (List.sublist_cons_self b back).append_left front

theorem pairFitting_sublist (as : List α) (bs : List β) :
    (pairFitting fits as bs).2.Sublist bs := by
  induction as generalizing bs with
  | nil => exact .refl _
  | cons a as ih =>
    cases taken : takeFirst? (fits a) bs with
    | none => simpa [pairFitting, taken] using ih bs
    | some found =>
      simpa [pairFitting, taken] using (ih found.2).trans (takeFirst?_sublist taken)

/-- An element is left alone only when nothing is left for it. -/
theorem pairFitting_unfit {a : α} {b : β} (lonely : (a, none) ∈ (pairFitting fits as bs).1)
    (left : b ∈ (pairFitting fits as bs).2) : fits a b = false := by
  induction as generalizing bs with
  | nil => cases lonely
  | cons x xs ih =>
    cases taken : takeFirst? (fits x) bs with
    | none =>
      simp only [pairFitting, taken, List.mem_cons, Prod.mk.injEq, and_true] at lonely left
      rcases lonely with rfl | lonely
      · exact takeFirst?_eq_none.mp taken b ((pairFitting_sublist xs bs).subset left)
      · exact ih lonely left
    | some found =>
      simp only [pairFitting, taken, List.mem_cons, Prod.mk.injEq, reduceCtorEq, and_false,
        false_or] at lonely left
      exact ih lonely left

theorem remainder_pairFitting (as : List α) (bs : List β) :
    Remainder fits as bs (alone (pairFitting fits as bs).1) (pairFitting fits as bs).2 where
  taken := by
    refine ⟨given (pairFitting fits as bs).1, ?_, ?_, ?_⟩
    · exact fun x mem => pairFitting_fits (mem_given.mp mem)
    · have perm := given_alone_perm (pairFitting fits as bs).1
      rwa [pairFitting_fst] at perm
    · rw [given_snd]
      exact (pairFitting_perm as bs).symm
  unfit _ lonely _ left := pairFitting_unfit (mem_alone.mp lonely) left

/-- Elements of one key get their partners in the order of these. -/
theorem pairFitting_sorted {keyA : α → κ} {keyB : β → κ} {R : β → β → Prop}
    (agreement : ∀ a b, fits a b = true ↔ keyA a = keyB b) (as : List α) (sorted : bs.Pairwise R) :
    (pairFitting fits as bs).1.Pairwise fun x y =>
      keyA x.1 = keyA y.1 → ∀ b c, x.2 = some b → y.2 = some c → R b c := by
  induction as generalizing bs with
  | nil => exact .nil
  | cons a as ih =>
    cases taken : takeFirst? (fits a) bs with
    | none =>
      simp only [pairFitting, taken]
      exact .cons (by simp) (ih sorted)
    | some found =>
      obtain ⟨b, left⟩ := found
      simp only [pairFitting, taken]
      refine .cons ?_ (ih (sorted.sublist (takeFirst?_sublist taken)))
      rintro ⟨a', _⟩ mem same _ c ⟨⟩ rfl
      have partner : c ∈ (pairFitting fits as left).1.filterMap Prod.snd :=
        List.mem_filterMap.mpr ⟨_, mem, rfl⟩
      have mem_left : c ∈ left :=
        (pairFitting_perm as left).subset (List.mem_append_left _ partner)
      have fit : fits a c = true :=
        (agreement a c).mpr (same.trans ((agreement a' c).mp (pairFitting_fits mem)))
      -- `c` would have been taken if it stood before `b`
      obtain ⟨_, front, back, rfl, rfl, before⟩ := takeFirst?_eq_some taken
      rcases List.mem_append.mp mem_left with mem | mem
      · simp [before c mem] at fit
      · exact (List.pairwise_cons.mp (List.pairwise_append.mp sorted).2.1).1 c mem

/-! ## The second pass -/

/-- Where the given pairs fit and nothing else does, the pairs that do not fit are those of the
second pass. -/
theorem filter_pairRest {pairs : List (α × Option β)}
    (fit : ∀ a b, (a, some b) ∈ pairs → fits a b = true)
    (unfit : ∀ a ∈ alone pairs, ∀ b ∈ bs, fits a b = false) :
    (pairRest near pairs bs).filter (fun x => !fits x.1 x.2) =
      pairRest near ((alone pairs).map (·, none)) bs := by
  induction pairs generalizing bs with
  | nil => rfl
  | cons pair pairs ih =>
    obtain ⟨a, partner⟩ := pair
    have fit' : ∀ a b, (a, some b) ∈ pairs → fits a b = true :=
      fun a b mem => fit a b (List.mem_cons_of_mem _ mem)
    cases partner with
    | some b =>
      have dropped : fits a b = true := fit a b List.mem_cons_self
      simp only [pairRest, List.filter_cons, dropped, Bool.not_true, Bool.false_eq_true, if_false,
        alone_cons_some]
      exact ih fit' unfit
    | none =>
      have unfit' (left : List β) (subset : left ⊆ bs) :
          ∀ a ∈ alone pairs, ∀ b ∈ left, fits a b = false :=
        fun a mem b left => unfit a (List.mem_cons_of_mem _ mem) b (subset left)
      rw [alone_cons_none, List.map_cons]
      cases taken : takeFirst? (near a) bs <|> takeFirst? (fun _ => true) bs with
      | none =>
        simp only [pairRest, taken]
        exact ih fit' (unfit' bs (List.Subset.refl _))
      | some found =>
        obtain ⟨b, left⟩ := found
        have perm := takeFirst?_orElse_perm taken
        have kept : fits a b = false :=
          unfit a List.mem_cons_self b (perm.subset List.mem_cons_self)
        simp only [pairRest, taken, List.filter_cons, kept, Bool.not_false, if_true]
        rw [ih fit' (unfit' left fun _ mem => perm.subset (List.mem_cons_of_mem _ mem))]

/-- The second pass over elements that all find a near one does what the first pass does with
nearness. -/
theorem pairRest_of_near (found : ∀ pair ∈ (pairFitting near as bs).1, pair.2.isSome = true) :
    (pairRest near (as.map (·, none)) bs).map (fun x => (x.1, some x.2)) =
      (pairFitting near as bs).1 := by
  induction as generalizing bs with
  | nil => rfl
  | cons a as ih =>
    cases taken : takeFirst? (near a) bs with
    | none => simp [pairFitting, taken] at found
    | some first =>
      obtain ⟨b, left⟩ := first
      have later : ∀ pair ∈ (pairFitting near as left).1, pair.2.isSome = true := by
        simp only [pairFitting, taken, List.mem_cons, forall_eq_or_imp] at found
        exact found.2
      simp [pairRest, pairFitting, taken, ih later]

/-! ## Both passes -/

/-- The pairs that do not fit are those of what the first pass leaves over. -/
theorem filter_pairUp (as : List α) (bs : List β) :
    (pairUp fits near as bs).filter (fun x => !fits x.1 x.2) =
      pairRest near ((alone (pairFitting fits as bs).1).map (·, none))
        (pairFitting fits as bs).2 :=
  filter_pairRest (fun _ _ => pairFitting_fits) (remainder_pairFitting as bs).unfit

theorem mem_remainder_of_unfit {x : α × β} (mem : x ∈ pairUp fits near as bs)
    (unfit : fits x.1 x.2 = false) :
    x.1 ∈ alone (pairFitting fits as bs).1 ∧ x.2 ∈ (pairFitting fits as bs).2 := by
  rcases mem_pairRest mem with given | ⟨lonely, left⟩
  · simp [pairFitting_fits given] at unfit
  · exact ⟨mem_alone.mpr lonely, left⟩

/-- Of two pairs that do not fit neither would fit after an exchange of partners. -/
theorem pairUp_unexchangeable {x y : α × β} (hx : x ∈ pairUp fits near as bs)
    (hy : y ∈ pairUp fits near as bs) (unfit_x : fits x.1 x.2 = false)
    (unfit_y : fits y.1 y.2 = false) : fits x.1 y.2 = false :=
  (remainder_pairFitting as bs).unfit _ (mem_remainder_of_unfit hx unfit_x).1 _
    (mem_remainder_of_unfit hy unfit_y).2

theorem length_alone_pairFitting (length : as.length = bs.length) :
    (alone (pairFitting fits as bs).1).length = (pairFitting fits as bs).2.length := by
  have count := @countP_pairFitting _ _ fits as bs
  rw [alone, List.length_map, ← List.countP_eq_length_filter]
  omega

theorem countP_unfit_pairUp (length : as.length = bs.length) :
    (pairUp fits near as bs).countP (fun x => !fits x.1 x.2) =
      (alone (pairFitting fits as bs).1).length := by
  have enough : ((alone (pairFitting fits as bs).1).map (·, (none : Option β))).countP
      (·.2.isNone) ≤ (pairFitting fits as bs).2.length := by
    rw [← length_alone_pairFitting length, List.countP_map]
    exact List.countP_le_length
  rw [List.countP_eq_length_filter, filter_pairUp, ← List.length_map Prod.fst,
    pairRest_fst enough, List.length_map, List.length_map]

section Keys

variable [DecidableEq κ] {keyA : α → κ} {keyB : β → κ}

theorem eq_sub_of_disjoint {A B M K L : Multiset κ} (left : A = M + K) (right : B = M + L)
    (disjoint : ∀ k ∈ K, k ∉ L) : K = A - B := by
  subst left right
  ext k
  have apart : K.count k = 0 ∨ L.count k = 0 := by
    by_cases mem : k ∈ K
    · exact Or.inr (Multiset.count_eq_zero.mpr (disjoint k mem))
    · exact Or.inl (Multiset.count_eq_zero.mpr mem)
  rw [Multiset.count_sub, Multiset.count_add, Multiset.count_add]
  omega

/-- Whatever pairs are taken out, the keys left over are the same. -/
theorem Remainder.keys_left (agreement : ∀ a b, fits a b = true ↔ keyA a = keyB b)
    {as' : List α} {bs' : List β} (h : Remainder fits as bs as' bs') :
    (as'.map keyA : Multiset κ) = as.map keyA - bs.map keyB ∧
      (bs'.map keyB : Multiset κ) = bs.map keyB - as.map keyA := by
  obtain ⟨⟨pairs, fit, left, right⟩, unfit⟩ := h
  have common : pairs.map (keyB ∘ Prod.snd) = pairs.map (keyA ∘ Prod.fst) :=
    List.map_congr_left fun x mem => ((agreement _ _).mp (fit x mem)).symm
  have keysA : (as.map keyA : Multiset κ) = pairs.map (keyA ∘ Prod.fst) + as'.map keyA := by
    have perm := left.map keyA
    rw [List.map_append, List.map_map] at perm
    exact Multiset.coe_eq_coe.mpr perm
  have keysB : (bs.map keyB : Multiset κ) = pairs.map (keyA ∘ Prod.fst) + bs'.map keyB := by
    have perm := right.map keyB
    rw [List.map_append, List.map_map, common] at perm
    exact Multiset.coe_eq_coe.mpr perm
  have apart : ∀ k ∈ as'.map keyA, k ∉ bs'.map keyB := by
    intro k memA memB
    obtain ⟨a, ha, rfl⟩ := List.mem_map.mp memA
    obtain ⟨b, hb, same⟩ := List.mem_map.mp memB
    have fit := (agreement a b).mpr same.symm
    rw [unfit a ha b hb] at fit
    cases fit
  exact ⟨eq_sub_of_disjoint keysA keysB apart,
    eq_sub_of_disjoint keysB keysA fun k memB memA => apart k memA memB⟩

/-- Every pairing leaves pairs that do not fit for all the keys that one list has and the other has
not. -/
theorem card_sub_le_countP_unfit (agreement : ∀ a b, fits a b = true ↔ keyA a = keyB b)
    {pairs : List (α × β)} (left : (pairs.map Prod.fst).Perm as)
    (right : (pairs.map Prod.snd).Perm bs) :
    (as.map keyA - bs.map keyB : Multiset κ).card ≤
      pairs.countP (fun x => !fits x.1 x.2) := by
  let fit := pairs.filter fun x => fits x.1 x.2
  let unfit := pairs.filter fun x => !fits x.1 x.2
  have keysA : (as.map keyA : Multiset κ) =
      unfit.map (keyA ∘ Prod.fst) + fit.map (keyA ∘ Prod.fst) := by
    have split := (List.filter_append_perm (fun x : α × β => fits x.1 x.2) pairs).map
      (keyA ∘ Prod.fst)
    have perm := left.map keyA
    rw [List.map_map] at perm
    rw [List.map_append] at split
    rw [add_comm]
    exact Multiset.coe_eq_coe.mpr (perm.symm.trans split.symm)
  have common : fit.map (keyA ∘ Prod.fst) = fit.map (keyB ∘ Prod.snd) :=
    List.map_congr_left fun x mem => (agreement _ _).mp (List.mem_filter.mp mem).2
  have within : (fit.map (keyB ∘ Prod.snd) : Multiset κ) ≤ bs.map keyB := by
    have perm := right.map keyB
    rw [List.map_map] at perm
    exact (List.filter_sublist.map _).subperm.trans perm.subperm
  have le : (as.map keyA - bs.map keyB : Multiset κ) ≤ unfit.map (keyA ∘ Prod.fst) := by
    rw [tsub_le_iff_right, keysA, common]
    exact add_le_add_right within _
  have card := Multiset.card_le_card le
  rwa [Multiset.coe_card, List.length_map, ← List.countP_eq_length_filter] at card

/-- No other pairing of the lists has fewer pairs that do not fit. -/
theorem countP_unfit_pairUp_le (agreement : ∀ a b, fits a b = true ↔ keyA a = keyB b)
    (length : as.length = bs.length) {pairs : List (α × β)} (left : (pairs.map Prod.fst).Perm as)
    (right : (pairs.map Prod.snd).Perm bs) :
    (pairUp fits near as bs).countP (fun x => !fits x.1 x.2) ≤
      pairs.countP (fun x => !fits x.1 x.2) := by
  calc (pairUp fits near as bs).countP (fun x => !fits x.1 x.2)
    _ = (alone (pairFitting fits as bs).1).length := countP_unfit_pairUp length
    _ = (as.map keyA - bs.map keyB : Multiset κ).card := by
      rw [← ((remainder_pairFitting as bs).keys_left agreement).1, Multiset.coe_card,
        List.length_map]
    _ ≤ pairs.countP (fun x => !fits x.1 x.2) := card_sub_le_countP_unfit agreement left right

end Keys

/-! ## Nearness -/

section Nearness

variable {nearA : α → κ} {nearB : β → κ} {R : β → β → Prop}

theorem pairUp_near (agreement : ∀ a b, fits a b = true → nearA a = nearB b)
    (nearness : ∀ a b, near a b = true ↔ nearA a = nearB b)
    (same : ((alone (pairFitting fits as bs).1).map nearA).Perm
      ((pairFitting fits as bs).2.map nearB))
    {x : α × β} (mem : x ∈ pairUp fits near as bs) : nearA x.1 = nearB x.2 := by
  cases fit : fits x.1 x.2 with
  | true => exact agreement _ _ fit
  | false =>
    have mem : x ∈ (pairUp fits near as bs).filter fun x => !fits x.1 x.2 :=
      List.mem_filter.mpr ⟨mem, by simp [fit]⟩
    rw [filter_pairUp] at mem
    have paired := List.mem_map_of_mem (f := fun x => (x.1, some x.2)) mem
    rw [pairRest_of_near (pairFitting_isSome nearness same)] at paired
    exact (nearness _ _).mp (pairFitting_fits paired)

theorem pairUp_sorted (nearness : ∀ a b, near a b = true ↔ nearA a = nearB b)
    (same : ((alone (pairFitting fits as bs).1).map nearA).Perm
      ((pairFitting fits as bs).2.map nearB)) (sorted : bs.Pairwise R) :
    ((pairUp fits near as bs).filter fun x => !fits x.1 x.2).Pairwise fun x y =>
      nearA x.1 = nearA y.1 → R x.2 y.2 := by
  rw [filter_pairUp]
  have inOrder := pairFitting_sorted nearness (alone (pairFitting fits as bs).1)
    (sorted.sublist (@pairFitting_sublist _ _ fits as bs))
  rw [← pairRest_of_near (pairFitting_isSome nearness same), List.pairwise_map] at inOrder
  exact inOrder.imp fun h key => h key _ _ rfl rfl

end Nearness

end CodeGrading
