import CodeGrading.Overloads
import Mathlib.Data.List.Induction
import Mathlib.Data.List.Nodup

/-!
Grouping by name. `groupByName_eq`: the groups are the distinct names in the order of their first
entries, each with exactly the entries of that name in their order.
-/

namespace CodeGrading

section Names

variable {α : Type} [DecidableEq α]

theorem eraseDups_concat (as : List α) (a : α) :
    (as ++ [a]).eraseDups = if a ∈ as then as.eraseDups else as.eraseDups ++ [a] := by
  rw [List.eraseDups_append]
  by_cases h : a ∈ as <;> simp [List.removeAll, h, List.eraseDups_cons]

theorem nodup_eraseDups (as : List α) : as.eraseDups.Nodup := by
  induction as using List.reverseRecOn with
  | nil => simp
  | append_singleton as a ih =>
    rw [eraseDups_concat]
    split
    · exact ih
    · rename_i absent
      refine List.nodup_append.mpr ⟨ih, List.nodup_singleton a, ?_⟩
      intro b hb c hc
      rw [List.mem_singleton.mp hc]
      rintro rfl
      exact absent (List.mem_eraseDups.mp hb)

/-- Of lists joined by distinct keys, the elements of one key are those of its list. -/
theorem filter_flatMap_of_nodup {β : Type} {keys : List α} {f : α → List β} {keyOf : β → Option α}
    (nodup : keys.Nodup) (own : ∀ k ∈ keys, ∀ b ∈ f k, keyOf b = some k) (key : α) :
    (keys.flatMap f).filter (keyOf · == some key) = if key ∈ keys then f key else [] := by
  induction keys with
  | nil => rfl
  | cons k ks ih =>
    obtain ⟨absent, nodup⟩ := List.nodup_cons.mp nodup
    have first : ∀ b ∈ f k, keyOf b = some k := own k List.mem_cons_self
    have later : ∀ k' ∈ ks, ∀ b ∈ f k', keyOf b = some k' := fun k' mem =>
      own k' (List.mem_cons_of_mem _ mem)
    rw [List.flatMap_cons, List.filter_append, ih nodup later]
    by_cases eq : key = k
    · subst eq
      have kept : (f key).filter (keyOf · == some key) = f key :=
        List.filter_eq_self.mpr fun b hb => by simp [first b hb]
      simp [kept, absent]
    · have dropped : (f k).filter (keyOf · == some key) = [] :=
        List.filter_eq_nil_iff.mpr fun b hb => by simp [first b hb, Ne.symm eq]
      simp [dropped, eq]

end Names

variable {α : Type} {name : String} {names : List String} (entries : String → List α) (a : α)

/-- An entry of a name that has no group makes one at the end. -/
theorem addToGroup_of_notMem (absent : name ∉ names) :
    addToGroup name a (names.map fun n => (n, entries n)) =
      (names.map fun n => (n, entries n)) ++ [(name, [a])] := by
  induction names with
  | nil => rfl
  | cons n ns ih =>
    obtain ⟨ne, absent⟩ := List.ne_and_not_mem_of_not_mem_cons absent
    simp only [List.map_cons, addToGroup, if_neg ne.symm, ih absent, List.cons_append]

/-- An entry of a name that has a group goes to the end of it, and no other group changes. -/
theorem addToGroup_of_mem (nodup : names.Nodup) (mem : name ∈ names) :
    addToGroup name a (names.map fun n => (n, entries n)) =
      names.map fun n => (n, if n = name then entries n ++ [a] else entries n) := by
  induction names with
  | nil => cases mem
  | cons n ns ih =>
    obtain ⟨absent, nodup⟩ := List.nodup_cons.mp nodup
    simp only [List.map_cons, addToGroup]
    by_cases eq : n = name
    · subst eq
      have others : ∀ m ∈ ns, m ≠ n := fun m hm h => absent (h ▸ hm)
      rw [if_pos rfl, if_pos rfl]
      congr 1
      exact List.map_congr_left fun m hm => by rw [if_neg (others m hm)]
    · have rest : name ∈ ns := (List.mem_cons.mp mem).resolve_left (Ne.symm eq)
      rw [if_neg eq, if_neg eq, ih nodup rest]

theorem groupByName_concat (nameOf : α → String) (as : List α) (a : α) :
    groupByName nameOf (as ++ [a]) = addToGroup (nameOf a) a (groupByName nameOf as) := by
  simp [groupByName]

/-- Grouping is a stable partition by name. -/
theorem groupByName_eq (nameOf : α → String) (as : List α) :
    groupByName nameOf as =
      (as.map nameOf).eraseDups.map fun n => (n, as.filter (nameOf · == n)) := by
  -- the groups are filled from the first entry on, so the induction takes the last one off
  induction as using List.reverseRecOn with
  | nil => rfl
  | append_singleton as a ih =>
    rw [groupByName_concat, ih, List.map_append, List.map_singleton, eraseDups_concat]
    split
    · rename_i mem
      rw [addToGroup_of_mem _ a (nodup_eraseDups _) (List.mem_eraseDups.mpr mem)]
      apply List.map_congr_left
      intro n _
      by_cases eq : n = nameOf a
      · simp [eq]
      · simp [eq, Ne.symm eq]
    · rename_i absent
      rw [addToGroup_of_notMem _ a (mt List.mem_eraseDups.mp absent), List.map_append]
      have own : as.filter (nameOf · == nameOf a) = [] := by
        apply List.filter_eq_nil_iff.mpr
        intro b hb eq
        exact absent (eq_of_beq eq ▸ List.mem_map_of_mem hb)
      congr 1
      · apply List.map_congr_left
        intro n hn
        have ne : nameOf a ≠ n := by
          rintro rfl
          exact absent (List.mem_eraseDups.mp hn)
        simp [ne]
      · simp [own]

/-- Entries are grouped by nothing but their names. -/
theorem groupByName_map {β : Type} {nameOf : β → String} {f : α → β} (as : List α) :
    groupByName nameOf (as.map f) =
      (groupByName (nameOf ∘ f) as).map fun (name, group) => (name, group.map f) := by
  simp only [groupByName_eq, List.map_map, List.filter_map]
  rfl

theorem mem_groupByName {nameOf : α → String} {as group : List α} :
    (name, group) ∈ groupByName nameOf as ↔
      name ∈ as.map nameOf ∧ group = as.filter (nameOf · == name) := by
  rw [groupByName_eq]
  simp only [List.mem_map, List.mem_eraseDups, Prod.mk.injEq]
  constructor
  · rintro ⟨n, hn, rfl, rfl⟩
    exact ⟨hn, rfl⟩
  · rintro ⟨hn, rfl⟩
    exact ⟨name, hn, rfl, rfl⟩

end CodeGrading
