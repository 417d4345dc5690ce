import CircuitDiagnosis.Proofs.OrdSet.Minimality
import Mathlib.Data.List.Pairwise

/-!
# The test for minimality

`isMinimal` compares every two places of a family (`isMinimal_iff_pairwise`): it asks for an
antichain without repeats. The filter looks at the family in another way, once through it in order
of size. Both agree on which families need no filtering: the test holds exactly of the families that
the filter only puts in order (`isMinimal_iff_perm_retainMinimal`).
-/

namespace CircuitDiagnosis.OrdSet

open Std

universe u

variable {α : Type u} [Ord α] [TransOrd α] [LawfulEqOrd α]

/-- Neither set lies within the other one. -/
def Incomparable (s t : OrdSet α) : Prop := ¬ s ⊆ t ∧ ¬ t ⊆ s

omit [TransOrd α] [LawfulEqOrd α] in
theorem Incomparable.symm {s t : OrdSet α} (h : Incomparable s t) : Incomparable t s :=
  ⟨h.2, h.1⟩

instance : Std.Symm (@Incomparable α _) := ⟨fun _ _ => Incomparable.symm⟩

omit [TransOrd α] [LawfulEqOrd α] in
theorem Incomparable.ne {s t : OrdSet α} (h : Incomparable s t) : s ≠ t := by
  rintro rfl
  exact h.1 (subset_refl s)

/-- The test holds exactly if the sets at any two places are incomparable. -/
theorem isMinimal_iff_pairwise {sets : List (OrdSet α)} :
    isMinimal sets = true ↔ sets.Pairwise Incomparable := by
  have hpair : ∀ s t : OrdSet α, (!s.subset t && !t.subset s) = true ↔ Incomparable s t := by
    intro s t
    rw [Bool.and_eq_true, Bool.not_eq_true', Bool.not_eq_true', ← Bool.not_eq_true,
      ← Bool.not_eq_true, subset_iff, subset_iff]
    exact Iff.rfl
  induction sets with
  | nil => exact ⟨fun _ => .nil, fun _ => rfl⟩
  | cons s rest ih =>
      unfold isMinimal
      rw [Bool.and_eq_true, List.all_eq_true, List.pairwise_cons]
      exact and_congr (forall₂_congr fun t _ => hpair s t) ih

/-- Of a family that passes the test no set is dropped. -/
theorem mem_retainMinimal_iff_of_pairwise {sets : List (OrdSet α)}
    (h : sets.Pairwise Incomparable) {s : OrdSet α} : s ∈ retainMinimal sets ↔ s ∈ sets := by
  rw [mem_retainMinimal_iff, minimalFor_iff]
  refine and_iff_left_of_imp fun hs t ht hts => ?_
  by_contra hne
  exact (h.forall ht hs hne).1 hts

/-- **The test agrees with the filter.** A family passes the test exactly if the filter gives the
same sets, each as often, in some order. So every result of the filter passes, and a family in which
a set is repeated does not. -/
theorem isMinimal_iff_perm_retainMinimal (sets : List (OrdSet α)) :
    (isMinimal sets = true ↔ sets.Perm (retainMinimal sets)) ∧
      isMinimal (retainMinimal sets) = true ∧
      (¬ sets.Nodup → isMinimal sets = false) := by
  have hretained : (retainMinimal sets).Pairwise Incomparable := pairwise_retainMinimal sets
  have hnodup : sets.Pairwise Incomparable → sets.Nodup := fun h => h.imp Incomparable.ne
  refine ⟨?_, isMinimal_iff_pairwise.mpr hretained, fun hrepeat => ?_⟩
  · rw [isMinimal_iff_pairwise]
    constructor
    · intro h
      refine (List.perm_ext_iff_of_nodup (hnodup h) (hretained.imp Incomparable.ne)).mpr ?_
      exact fun s => (mem_retainMinimal_iff_of_pairwise h).symm
    · intro hperm
      exact (hperm.pairwise_iff Incomparable.symm).mpr hretained
  · rw [← Bool.not_eq_true, isMinimal_iff_pairwise]
    exact fun h => hrepeat (hnodup h)

/-- A family with a repeat and with a chain; what the filter keeps of it, in another order, passes
the test. -/
theorem isMinimal_iff_perm_retainMinimal_repeated :
    let sets : List (OrdSet Nat) :=
      [ofList [2, 3], ofList [1], ofList [3, 2], ofList [2, 1], ofList [4]]
    ¬ sets.Nodup ∧ isMinimal sets = false ∧
      retainMinimal sets = [ofList [1], ofList [4], ofList [2, 3]] ∧
      isMinimal (retainMinimal sets) = true ∧
      isMinimal [ofList [2, 3], ofList [4], (ofList [1] : OrdSet Nat)] = true := by
  intro sets
  obtain ⟨_, hpasses, hrepeats⟩ := isMinimal_iff_perm_retainMinimal sets
  have hrepeat : ¬ sets.Nodup := by decide
  refine ⟨hrepeat, hrepeats hrepeat, by decide, hpasses, ?_⟩
  exact (isMinimal_iff_perm_retainMinimal _).1.mpr (by decide)

end CircuitDiagnosis.OrdSet
