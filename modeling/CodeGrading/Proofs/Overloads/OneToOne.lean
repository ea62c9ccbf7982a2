import CodeGrading.Overloads
import Mathlib.Data.Fintype.EquivFin
import Mathlib.Data.List.FinRange
import Mathlib.Data.List.Nodup

/-!
One-to-one correspondences of two lists: every element has a counterpart at a position of its own,
and every position is used. The order of the lists does not matter (`OneToOne.perm`). Pairs that
carry positions are those of a correspondence (`exists_eq_pairsAt`), and elements of equal keys
correspond only where the lists have the same keys (`OneToOne.keys_perm`).
-/

namespace CodeGrading

variable {α β κ : Type} {R : α → β → Prop} {as : List α} {bs : List β}

/-- A bijection between the positions of two lists that relates the elements there. -/
def OneToOne (R : α → β → Prop) (as : List α) (bs : List β) : Prop :=
  ∃ σ : Fin as.length ≃ Fin bs.length, ∀ i, R as[i] bs[σ i]

theorem OneToOne.length_eq (h : OneToOne R as bs) : as.length = bs.length := by
  obtain ⟨σ, _⟩ := h
  exact Fin.equiv_iff_eq.mp ⟨σ⟩

theorem OneToOne.imp {S : α → β → Prop} (h : OneToOne R as bs)
    (imp : ∀ a ∈ as, ∀ b ∈ bs, R a b → S a b) : OneToOne S as bs := by
  obtain ⟨σ, related⟩ := h
  exact ⟨σ, fun i => imp _ (List.getElem_mem _) _ (List.getElem_mem _) (related i)⟩

/-- Whatever the list on the right holds has a counterpart on the left. -/
theorem OneToOne.exists_left (h : OneToOne R as bs) {b : β} (hb : b ∈ bs) : ∃ a ∈ as, R a b := by
  obtain ⟨σ, related⟩ := h
  obtain ⟨j, bound, rfl⟩ := List.mem_iff_getElem.mp hb
  have at_j : R as[σ.symm ⟨j, bound⟩] bs[j] := by simpa using related (σ.symm ⟨j, bound⟩)
  exact ⟨_, List.getElem_mem _, at_j⟩

/-- Whatever the list on the left holds has a counterpart on the right. -/
theorem OneToOne.exists_right (h : OneToOne R as bs) {a : α} (ha : a ∈ as) : ∃ b ∈ bs, R a b := by
  obtain ⟨σ, related⟩ := h
  obtain ⟨i, bound, rfl⟩ := List.mem_iff_getElem.mp ha
  exact ⟨_, List.getElem_mem _, related ⟨i, bound⟩⟩

theorem OneToOne.trans {γ : Type} {S : β → γ → Prop} {T : α → γ → Prop} {cs : List γ}
    (left : OneToOne R as bs) (right : OneToOne S bs cs)
    (comp : ∀ a b c, R a b → S b c → T a c) : OneToOne T as cs := by
  obtain ⟨σ, related⟩ := left
  obtain ⟨τ, related'⟩ := right
  exact ⟨σ.trans τ, fun i => comp _ _ _ (related i) (related' (σ i))⟩

theorem oneToOne_of_perm {cs : List α} (perm : as.Perm cs) : OneToOne (· = ·) as cs := by
  classical
  let σ : Fin as.length ≃ Fin cs.length :=
    ⟨perm.idxBij, perm.symm.idxBij, perm.idxBij_rightInverse_idxBij_symm,
      perm.idxBij_leftInverse_idxBij_symm⟩
  exact ⟨σ, fun i => (perm.getElem_idxBij_eq_getElem i).symm⟩

/-- A correspondence does not depend on the order of either list. -/
theorem OneToOne.perm (h : OneToOne R as bs) {as' : List α} {bs' : List β} (left : as'.Perm as)
    (right : bs.Perm bs') : OneToOne R as' bs' := by
  have reordered : OneToOne R as' bs := (oneToOne_of_perm left).trans h fun _ _ _ eq h => eq ▸ h
  exact reordered.trans (oneToOne_of_perm right) fun _ _ _ h eq => eq ▸ h

theorem perm_of_equiv {n m : Nat} (σ : Fin n ≃ Fin m) (f : Fin m → κ) :
    (List.ofFn fun i => f (σ i)).Perm (List.ofFn f) := by
  obtain rfl : n = m := Fin.equiv_iff_eq.mp ⟨σ⟩
  exact Equiv.Perm.ofFn_comp_perm σ f

theorem OneToOne.keys_perm {keyA : α → κ} {keyB : β → κ} (h : OneToOne R as bs)
    (keys : ∀ a b, R a b → keyA a = keyB b) : (as.map keyA).Perm (bs.map keyB) := by
  obtain ⟨σ, related⟩ := h
  have left : as.map keyA = List.ofFn fun i => keyB bs[σ i] := by
    apply List.ext_getElem
    · simp
    · intro i hi hi'
      simpa using keys _ _ (related ⟨i, by simpa using hi'⟩)
  have right : bs.map keyB = List.ofFn fun j => keyB bs[j] := by
    apply List.ext_getElem <;> simp
  rw [left, right]
  exact perm_of_equiv σ fun j => keyB bs[j]

/-- What a one-to-one correspondence of positions pairs: every element on the left, in order, with
its counterpart and the position of that. -/
def pairsAt (as : List α) (bs : List β) (σ : Fin as.length ≃ Fin bs.length) :
    List (α × β × Nat) :=
  (List.finRange as.length).map fun i => (as[i], bs[σ i], (σ i).val)

theorem mem_pairsAt (σ : Fin as.length ≃ Fin bs.length) (i : Fin as.length) :
    (as[i], bs[σ i], (σ i).val) ∈ pairsAt as bs σ :=
  List.mem_map.mpr ⟨i, List.mem_finRange i, rfl⟩

theorem pairwise_pairsAt {σ : Fin as.length ≃ Fin bs.length}
    {S : α × β × Nat → α × β × Nat → Prop} :
    (pairsAt as bs σ).Pairwise S ↔
      ∀ i j, i < j → S (as[i], bs[σ i], (σ i).val) (as[j], bs[σ j], (σ j).val) := by
  rw [pairsAt, List.pairwise_map, List.pairwise_iff_getElem]
  simp only [List.getElem_finRange, List.length_finRange]
  exact ⟨fun h i j before => h i j i.isLt j.isLt before,
    fun h i j hi hj before => h ⟨i, hi⟩ ⟨j, hj⟩ before⟩

theorem pairsAt_fst (σ : Fin as.length ≃ Fin bs.length) :
    (pairsAt as bs σ).map Prod.fst = as := by
  apply List.ext_getElem <;> simp [pairsAt]

theorem pairsAt_snd_perm (σ : Fin as.length ≃ Fin bs.length) :
    ((pairsAt as bs σ).map Prod.snd).Perm bs.zipIdx := by
  have numbered : bs.zipIdx = List.ofFn fun j : Fin bs.length => (bs[j], j.val) := by
    apply List.ext_getElem <;> simp
  rw [numbered, pairsAt, List.map_map, ← List.ofFn_eq_map]
  exact perm_of_equiv σ fun j => (bs[j], j.val)

/-- Pairs of all elements of the one list with the elements and positions of the other are made by
a correspondence of positions. -/
theorem exists_eq_pairsAt {pairs : List (α × β × Nat)} (left : pairs.map Prod.fst = as)
    (right : (pairs.map Prod.snd).Perm bs.zipIdx) :
    ∃ σ : Fin as.length ≃ Fin bs.length, pairs = pairsAt as bs σ := by
  subst left
  have length : pairs.length = bs.length := by simpa using right.length_eq
  have found (i : Nat) (hi : i < pairs.length) :
      ∃ bound : pairs[i].2.2 < bs.length, bs[pairs[i].2.2] = pairs[i].2.1 := by
    have mem : pairs[i].2 ∈ bs.zipIdx :=
      right.mem_iff.mp (List.mem_map_of_mem (List.getElem_mem hi))
    exact List.getElem?_eq_some_iff.mp (List.mem_zipIdx_iff_getElem?.mp mem)
  -- the positions are those of the list, each of them once
  have distinct : Function.Injective (pairs.map (·.2.2)).get := by
    have perm := right.map Prod.snd
    rw [List.map_map, List.zipIdx_map_snd] at perm
    exact List.nodup_iff_injective_get.mp (perm.nodup_iff.mpr List.nodup_range')
  let position (i : Fin (pairs.map Prod.fst).length) : Fin bs.length :=
    ⟨pairs[i.val].2.2, (found i.val _).1⟩
  have injective : Function.Injective position := by
    intro i j eq
    have eq : (pairs.map (·.2.2)).get ⟨i.val, by simpa using i.isLt⟩ =
        (pairs.map (·.2.2)).get ⟨j.val, by simpa using j.isLt⟩ := by
      simpa [position] using eq
    exact Fin.ext (Fin.mk.inj (distinct eq))
  have bijective : Function.Bijective position :=
    (Fintype.bijective_iff_injective_and_card position).mpr ⟨injective, by simp [length]⟩
  refine ⟨Equiv.ofBijective position bijective, ?_⟩
  apply List.ext_getElem
  · simp [pairsAt]
  · intro i hi _
    simp [pairsAt, position, (found i hi).2]

theorem oneToOne_of_pairs {pairs : List (α × β × Nat)} (left : pairs.map Prod.fst = as)
    (right : (pairs.map Prod.snd).Perm bs.zipIdx)
    (related : ∀ a b i, (a, b, i) ∈ pairs → R a b) : OneToOne R as bs := by
  obtain ⟨σ, rfl⟩ := exists_eq_pairsAt left right
  exact ⟨σ, fun i => related _ _ _ (mem_pairsAt σ i)⟩

end CodeGrading
