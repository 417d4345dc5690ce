import CircuitDiagnosis.OrdSet.Basic
import CircuitDiagnosis.OrdSet.Combinations
import CircuitDiagnosis.Proofs.OrdSet.Minimality
import Mathlib.Data.List.Nodup
import Mathlib.Data.List.Perm.Basic
import Mathlib.Data.Nat.Choose.Sum

/-!
# Enumeration of subsets

The combinations of a list by increasing size, each read as a set, are exactly the non-empty sets of
members of the list (`mem_subsets_iff`). The list need not be ordered. If it has no repeats then
each of these sets is listed once (`nodup_subsets`), which is what counting them rests on: there are
`2 ^ n - 1` of them (`length_flatMap_combinations`). The combinations of one size follow the order
that the list itself is in (`pairwise_lex_combinations`), so those of the elements of a set come in
the order of sets (`enumerates_subsets`).
-/

namespace CircuitDiagnosis

open Std

universe u v

section Combinations

variable {α : Type u}

theorem mem_combinations_of_sublist {l c : List α} (h : c.Sublist l) :
    c ∈ combinations c.length l := by
  induction h with
  | slnil => simp [combinations]
  | @cons c l a h ih =>
      cases c with
      | nil => simp [combinations]
      | cons b c =>
          unfold combinations
          exact List.mem_append_right _ ih
  | cons_cons a h ih =>
      unfold combinations
      exact List.mem_append_left _ (List.mem_map_of_mem ih)

/-- The combinations of a list without repeats are pairwise different. -/
theorem nodup_combinations {l : List α} (h : l.Nodup) (k : Nat) : (combinations k l).Nodup := by
  induction l generalizing k with
  | nil => cases k <;> simp [combinations]
  | cons a rest ih =>
      obtain ⟨ha, hrest⟩ := List.nodup_cons.mp h
      cases k with
      | zero => simp [combinations]
      | succ k =>
          unfold combinations
          refine ((ih hrest k).map List.cons_injective).append (ih hrest (k + 1)) ?_
          intro c hwith hwithout
          obtain ⟨d, _, rfl⟩ := List.mem_map.mp hwith
          exact ha ((sublist_of_mem_combinations hwithout).subset List.mem_cons_self)

/-- Combinations of different sizes are different. -/
theorem nodup_flatMap_combinations {l : List α} (h : l.Nodup) {sizes : List Nat}
    (hsizes : sizes.Nodup) : (sizes.flatMap fun k => combinations k l).Nodup := by
  refine List.nodup_flatMap.mpr ⟨fun k _ => nodup_combinations h k, hsizes.imp ?_⟩
  intro j k hjk c hj hk
  exact hjk ((length_of_mem_combinations hj).symm.trans (length_of_mem_combinations hk))

/-- The combinations of a list that is in an order are in its lexicographic order. -/
theorem pairwise_lex_combinations {r : α → α → Prop} {l : List α} (h : l.Pairwise r) (k : Nat) :
    (combinations k l).Pairwise (List.Lex r) := by
  induction l generalizing k with
  | nil => cases k <;> simp [combinations]
  | cons a rest ih =>
      obtain ⟨ha, hrest⟩ := List.pairwise_cons.mp h
      cases k with
      | zero => simp [combinations]
      | succ k =>
          unfold combinations
          refine List.pairwise_append.mpr ⟨?_, ih hrest (k + 1), ?_⟩
          · exact List.pairwise_map.mpr ((ih hrest k).imp List.Lex.cons)
          · -- A combination with the first element comes before one without it.
            intro c hc d hd
            obtain ⟨c, _, rfl⟩ := List.mem_map.mp hc
            cases d with
            | nil => cases length_of_mem_combinations hd
            | cons b d =>
                refine List.Lex.rel (ha b ?_)
                exact (sublist_of_mem_combinations hd).subset List.mem_cons_self

theorem combinations_map {β : Type v} (f : α → β) (k : Nat) (l : List α) :
    combinations k (l.map f) = (combinations k l).map (List.map f) := by
  induction l generalizing k with
  | nil => cases k <;> rfl
  | cons a rest ih =>
      cases k with
      | zero => rfl
      | succ k =>
          rw [List.map_cons, combinations, combinations, ih, ih, List.map_append, List.map_map,
            List.map_map]
          rfl

theorem length_combinations (k : Nat) (l : List α) :
    (combinations k l).length = l.length.choose k := by
  induction l generalizing k with
  | nil => cases k <;> rfl
  | cons a rest ih =>
      cases k with
      | zero => rw [Nat.choose_zero_right]; rfl
      | succ k =>
          rw [combinations, List.length_append, List.length_map, ih, ih, List.length_cons,
            Nat.choose_succ_succ]

/-- A list of `n` elements has `2 ^ n - 1` combinations of at least one element. -/
theorem length_flatMap_combinations (l : List α) :
    ((List.range' 1 l.length).flatMap fun k => combinations k l).length = 2 ^ l.length - 1 := by
  have hsum : ((List.range (l.length + 1)).map fun k => l.length.choose k).sum = 2 ^ l.length :=
    Nat.sum_range_choose l.length
  rw [List.range_succ_eq_map, List.map_cons, List.sum_cons, Nat.choose_zero_right, List.map_map,
    Nat.add_comm] at hsum
  rw [List.length_flatMap, List.range'_eq_map_range, List.map_map]
  simp only [Function.comp_def, length_combinations, Nat.add_comm 1]
  exact Nat.eq_sub_of_add_eq hsum

end Combinations

namespace OrdSet

variable {α : Type u} [Ord α] [TransOrd α] [LawfulEqOrd α]

theorem ofList_eq_empty_iff {l : List α} : ofList l = ∅ ↔ l = [] := by
  constructor
  · intro h
    cases l with
    | nil => rfl
    | cons a rest =>
        have ha : a ∈ ofList (a :: rest) := mem_ofList.mpr List.mem_cons_self
        rw [h] at ha
        exact absurd ha not_mem_empty
  · rintro rfl
    rfl

theorem size_ofList {l : List α} (h : l.Nodup) : (ofList l).size = l.length :=
  ((List.perm_ext_iff_of_nodup (nodup_toList _) h).mpr fun _ => mem_ofList).length_eq

/-- Reading the combinations of a list by size gives its non-empty sets of members. -/
theorem mem_subsets_iff {l : List α} {s : OrdSet α} :
    s ∈ (List.range' 1 l.length).flatMap (fun k => (combinations k l).map ofList) ↔
      s ≠ ∅ ∧ ∀ a ∈ s, a ∈ l := by
  simp only [List.mem_flatMap, List.mem_map, List.mem_range'_1]
  constructor
  · rintro ⟨k, ⟨hk, _⟩, c, hc, rfl⟩
    have hlen := length_of_mem_combinations hc
    refine ⟨fun he => ?_, fun a ha => ?_⟩
    · rw [ofList_eq_empty_iff.mp he, List.length_nil] at hlen
      omega
    · exact (sublist_of_mem_combinations hc).subset (mem_ofList.mp ha)
  · rintro ⟨hne, hmem⟩
    -- The members of the set in the order of the list are a combination that reads as the set.
    let c := l.filter s.contains
    have hsub : c.Sublist l := List.filter_sublist
    have hofList : ofList c = s := by
      apply ext_mem
      intro a
      rw [mem_ofList, List.mem_filter, contains_iff]
      exact ⟨fun h => h.2, fun h => ⟨hmem a h, h⟩⟩
    have hpos : c ≠ [] := by
      intro hnil
      rw [hnil] at hofList
      exact hne hofList.symm
    have hlen := List.length_pos_iff.mpr hpos
    have hle := hsub.length_le
    exact ⟨c.length, ⟨by omega, by omega⟩, c, mem_combinations_of_sublist hsub, hofList⟩

/-- Parts of a list without repeats that read as the same set are the same part. -/
theorem eq_of_ofList_eq {l c d : List α} (h : l.Nodup) (hc : c.Sublist l) (hd : d.Sublist l)
    (he : ofList c = ofList d) : c = d := by
  refine (h.perm_iff_eq_of_sublist hc hd).mp ?_
  refine (List.perm_ext_iff_of_nodup (h.sublist hc) (h.sublist hd)).mpr fun a => ?_
  rw [← mem_ofList, he, mem_ofList]

/-- Each non-empty set of members of a list without repeats is read once. -/
theorem nodup_subsets {l : List α} (h : l.Nodup) :
    ((List.range' 1 l.length).flatMap fun k => (combinations k l).map ofList).Nodup := by
  have hpart : ∀ c ∈ (List.range' 1 l.length).flatMap (fun k => combinations k l), c.Sublist l := by
    intro c hc
    obtain ⟨k, _, hk⟩ := List.mem_flatMap.mp hc
    exact sublist_of_mem_combinations hk
  rw [← List.map_flatMap]
  refine List.Nodup.map_on (fun c hc d hd he => ?_) (nodup_flatMap_combinations h List.nodup_range')
  exact eq_of_ofList_eq h (hpart c hc) (hpart d hd) he

/-- An increasing list is the list of its set. -/
theorem toList_ofList {l : List α} (h : l.Pairwise fun a b => compare a b = .lt) :
    (ofList l).toList = l := by
  have he : ofList l = ⟨l, h⟩ := ext_mem fun a => mem_ofList
  rw [he]

/-- The sets of some of the elements of a set, read size by size, come in the order of sets. -/
theorem enumerates_subsets (s : OrdSet α) :
    Enumerates (fun t => t ≠ ∅ ∧ t ⊆ s)
      ((List.range' 1 s.size).flatMap fun k => (combinations k s.toList).map ofList) where
  ordered := by
    have hread : ∀ k, ∀ c ∈ combinations k s.toList,
        (ofList c).toList = c ∧ (ofList c).size = k := by
      intro k c hc
      have hlist := toList_ofList (s.increasing.sublist (sublist_of_mem_combinations hc))
      refine ⟨hlist, ?_⟩
      rw [← length_of_mem_combinations hc, ← congrArg List.length hlist]
      rfl
    refine List.pairwise_flatMap.mpr ⟨fun k _ => ?_, ?_⟩
    · -- Sets of one size are compared as the combinations that they are read from.
      refine List.pairwise_map.mpr ((pairwise_lex_combinations s.increasing k).imp_of_mem ?_)
      intro c d hc hd hlex
      obtain ⟨hc, hcsize⟩ := hread k c hc
      obtain ⟨hd, hdsize⟩ := hread k d hd
      rw [hc, hd, hcsize, hdsize]
      exact Or.inr ⟨rfl, compare_list_eq_lt_iff.mpr hlex⟩
    · refine (List.pairwise_lt_range' 1).imp fun {j k} hjk t ht u hu => Or.inl ?_
      obtain ⟨c, hc, rfl⟩ := List.mem_map.mp ht
      obtain ⟨d, hd, rfl⟩ := List.mem_map.mp hu
      rw [(hread j c hc).2, (hread k d hd).2]
      exact hjk
  mem_iff _ := mem_subsets_iff

end OrdSet

end CircuitDiagnosis
