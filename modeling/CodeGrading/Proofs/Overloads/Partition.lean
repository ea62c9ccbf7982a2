import CodeGrading.Proofs.Overloads.Grouping
import CodeGrading.Structure
import Mathlib.Logic.ExistsUnique

/-!
Overload sets as a partition. `overloadSets_partition`: the overload sets of a question hold each of
its required methods once, under the name that it must be declared under, and both the sets and the
methods of a set stand in the order of the declarations. No set is empty, so the error for the count
of a set finds a first method.
-/

namespace CodeGrading

open scoped List

variable {α : Type}

/-- Entries divided into groups by name, without a loss or a repetition. The groups stand in the
order of their first entries, and the entries of each group in their own order. -/
structure StablePartition (nameOf : α → String) (as : List α) (groups : List (String × List α)) :
    Prop where
  distinct : (groups.map Prod.fst).Nodup
  inOrder : groups.Pairwise fun g h =>
    as.findIdx (nameOf · == g.1) < as.findIdx (nameOf · == h.1)
  nonempty : ∀ g ∈ groups, g.2 ≠ []
  whole : ∀ g ∈ groups, g.2 = as.filter (nameOf · == g.1)
  placed : ∀ a ∈ as, ∃! g, g ∈ groups ∧ a ∈ g.2
  kept : (groups.flatMap Prod.snd).Perm as

/-! ## Grouping by name -/

theorem addToGroup_perm (name : String) (a : α) (groups : List (String × List α)) :
    ((addToGroup name a groups).flatMap Prod.snd).Perm (a :: groups.flatMap Prod.snd) := by
  induction groups with
  | nil => exact .refl _
  | cons group groups ih =>
    obtain ⟨n, as⟩ := group
    unfold addToGroup
    split
    · simp only [List.flatMap_cons, List.append_assoc, List.singleton_append]
      exact List.perm_middle
    · simp only [List.flatMap_cons]
      calc as ++ (addToGroup name a groups).flatMap Prod.snd
        _ ~ as ++ a :: groups.flatMap Prod.snd := ih.append_left as
        _ ~ a :: (as ++ groups.flatMap Prod.snd) := List.perm_middle

/-- No entry is lost, and none is put into two groups. -/
theorem groupByName_perm (nameOf : α → String) (as : List α) :
    ((groupByName nameOf as).flatMap Prod.snd).Perm as := by
  induction as using List.reverseRecOn with
  | nil => exact .refl _
  | append_singleton as a ih =>
    rw [groupByName_concat]
    calc (addToGroup (nameOf a) a (groupByName nameOf as)).flatMap Prod.snd
      _ ~ a :: (groupByName nameOf as).flatMap Prod.snd := addToGroup_perm _ a _
      _ ~ a :: as := ih.cons a
      _ ~ as ++ [a] := (List.perm_append_singleton a as).symm

theorem groupByName_names (nameOf : α → String) (as : List α) :
    (groupByName nameOf as).map Prod.fst = (as.map nameOf).eraseDups := by
  rw [groupByName_eq, List.map_map]
  exact List.map_id _

/-- Of the elements of a list, each is kept where it first occurs. -/
theorem eraseDups_inOrder [DecidableEq α] (as : List α) :
    as.eraseDups.Pairwise fun a b => as.idxOf a < as.idxOf b := by
  induction as using List.reverseRecOn with
  | nil => exact List.Pairwise.nil
  | append_singleton as a ih =>
    have earlier : as.eraseDups.Pairwise fun b c => (as ++ [a]).idxOf b < (as ++ [a]).idxOf c := by
      refine ih.imp_of_mem ?_
      intro b c hb hc lt
      rw [List.idxOf_append_of_mem (List.mem_eraseDups.mp hb),
        List.idxOf_append_of_mem (List.mem_eraseDups.mp hc)]
      exact lt
    rw [eraseDups_concat]
    split
    · exact earlier
    · rename_i absent
      refine List.pairwise_append.mpr ⟨earlier, List.pairwise_singleton _ _, ?_⟩
      intro b hb c hc
      have mem : b ∈ as := List.mem_eraseDups.mp hb
      rw [List.mem_singleton.mp hc, List.idxOf_append_of_mem mem,
        List.idxOf_append_of_notMem absent]
      have before : as.idxOf b < as.length := List.idxOf_lt_length_of_mem mem
      omega

theorem groupByName_inOrder (nameOf : α → String) (as : List α) :
    (groupByName nameOf as).Pairwise fun g h =>
      as.findIdx (nameOf · == g.1) < as.findIdx (nameOf · == h.1) := by
  have names := eraseDups_inOrder (as.map nameOf)
  rw [← groupByName_names, List.pairwise_map] at names
  simpa only [List.idxOf, List.findIdx_map, Function.comp_def] using names

theorem stablePartition_groupByName (nameOf : α → String) (as : List α) :
    StablePartition nameOf as (groupByName nameOf as) where
  distinct := by
    rw [groupByName_names]
    exact nodup_eraseDups _
  inOrder := groupByName_inOrder nameOf as
  nonempty := by
    rintro ⟨name, group⟩ mem
    obtain ⟨named, rfl⟩ := mem_groupByName.mp mem
    obtain ⟨a, ha, rfl⟩ := List.mem_map.mp named
    exact List.ne_nil_of_mem (List.mem_filter.mpr ⟨ha, beq_self_eq_true _⟩)
  whole := by
    rintro ⟨name, group⟩ mem
    exact (mem_groupByName.mp mem).2
  placed := by
    intro a ha
    refine ⟨(nameOf a, as.filter (nameOf · == nameOf a)), ⟨?_, ?_⟩, ?_⟩
    · exact mem_groupByName.mpr ⟨List.mem_map_of_mem ha, rfl⟩
    · exact List.mem_filter.mpr ⟨ha, beq_self_eq_true _⟩
    · rintro ⟨name, group⟩ ⟨mem, held⟩
      obtain ⟨_, rfl⟩ := mem_groupByName.mp mem
      obtain rfl : nameOf a = name := eq_of_beq (List.mem_filter.mp held).2
      rfl
  kept := groupByName_perm nameOf as

/-! ## Overload sets -/

namespace RequiredMethod

variable {m : RequiredMethod} {className : String}

theorem matchName_of_constructor (constructor : m.returnType = none) :
    m.matchName className = className := by
  simp [matchName, isConstructor, constructor]

/-- A method that has the name of the class is declared under the name of the constructors. -/
theorem matchName_of_namesake (namesake : m.name = className) :
    m.matchName className = className := by
  simp [matchName, namesake]

end RequiredMethod

namespace ClassQuestion

/-- **The overload sets of a question.** They divide its required methods by the names that these
must be declared under, in the order of the declarations. Every set has a first method, which the
error for its count is about, and the constructors are in one set with the methods that have the
name of the class. -/
theorem overloadSets_partition (q : ClassQuestion) :
    StablePartition (·.matchName q.className) q.requiredMethods
        (overloadSets q.className q.requiredMethods) ∧
      (∀ set ∈ overloadSets q.className q.requiredMethods, ∃ first rest, set.2 = first :: rest ∧
        q.countError set.1 set.2 =
          .methodCount q.className set.1 set.2.length first.isStatic) ∧
      ∀ c ∈ q.requiredMethods, ∀ m ∈ q.requiredMethods,
        c.returnType = none → m.name = q.className →
          ∃ set ∈ overloadSets q.className q.requiredMethods,
            set.1 = q.className ∧ c ∈ set.2 ∧ m ∈ set.2 := by
  have partition := stablePartition_groupByName (·.matchName q.className) q.requiredMethods
  refine ⟨partition, ?_, ?_⟩
  · rintro ⟨name, required⟩ mem
    obtain ⟨first, rest, rfl⟩ := List.exists_cons_of_ne_nil (partition.nonempty _ mem)
    exact ⟨first, rest, rfl, rfl⟩
  · intro c hc m hm constructor namesake
    have own : c.matchName q.className = q.className :=
      RequiredMethod.matchName_of_constructor constructor
    have same : m.matchName q.className = q.className :=
      RequiredMethod.matchName_of_namesake namesake
    refine ⟨(q.className, q.requiredMethods.filter (·.matchName q.className == q.className)),
      ?_, rfl, ?_, ?_⟩
    · exact mem_groupByName.mpr ⟨List.mem_map.mpr ⟨c, hc, own⟩, rfl⟩
    · exact List.mem_filter.mpr ⟨hc, beq_iff_eq.mpr own⟩
    · exact List.mem_filter.mpr ⟨hm, beq_iff_eq.mpr same⟩

/-- Two constructors, a method of their name between them, and an overload that is asked for twice
around all of these. -/
def interleaved : ClassQuestion where
  className := "Shape"
  fileTemplate := "%SUBMISSION%"
  allowPublicFields := false
  importedClasses := []
  requiredMethods :=
    [⟨"scale", true, true, ["int"], some "void"⟩, ⟨"new", true, false, ["int"], none⟩,
      ⟨"Shape", true, false, ["int"], some "void"⟩, ⟨"area", true, false, [], some "int"⟩,
      ⟨"new", true, false, [], none⟩, ⟨"scale", true, true, ["int"], some "void"⟩]
  tests := [⟨"area", 1, "", "", "int", some "4", ""⟩]

theorem interleaved_divided :
    (overloadSets "Shape" interleaved.requiredMethods).map Prod.fst = ["scale", "Shape", "area"] ∧
      StablePartition (·.matchName "Shape") interleaved.requiredMethods
        (overloadSets "Shape" interleaved.requiredMethods) ∧
      ∃ set ∈ overloadSets "Shape" interleaved.requiredMethods, set.1 = "Shape" ∧
        ⟨"new", true, false, [], none⟩ ∈ set.2 ∧
        ⟨"Shape", true, false, ["int"], some "void"⟩ ∈ set.2 := by
  obtain ⟨partition, _, together⟩ := overloadSets_partition interleaved
  exact ⟨by decide, partition, together _ (by decide) _ (by decide) rfl rfl⟩

end ClassQuestion

end CodeGrading
