import CircuitDiagnosis.Proofs.HittingSet.Exactness

/-!
# The elements of hitting sets

A path grows by elements of conflict sets only, so every hitting set that a search finds, complete
or not, consists of elements of conflict sets (`subset_union_of_mem_search`). The same holds of the
hitting sets that the test of all combinations finds (`subset_union_of_mem_bruteForce`). The minimal
hitting sets are among the hitting sets of each result.
-/

namespace CircuitDiagnosis

open Std OrdSet

universe u

variable {α : Type u} [Ord α] [TransOrd α] [LawfulEqOrd α] {σ τ : Type}

theorem OrdSet.subset_union {conflicts : List (OrdSet α)} {c : OrdSet α} (h : c ∈ conflicts) :
    c ⊆ union conflicts :=
  fun _ ha => mem_union.mpr ⟨c, h, ha⟩

namespace SearchState

/-- The pending paths and the solutions have elements of conflict sets only. -/
structure Supported (conflicts : List (OrdSet α)) (st : SearchState α σ) : Prop where
  pending : ∀ path ∈ st.pending, path ⊆ union conflicts
  solutions : ∀ s ∈ st.solutions, s ⊆ union conflicts

omit [LawfulEqOrd α] in
theorem supported_initial (conflicts : List (OrdSet α)) (choices : σ) :
    (initial choices).Supported conflicts where
  pending path hpath := by
    rw [List.mem_singleton.mp hpath]
    exact empty_subset _
  solutions s hs := absurd hs (Array.not_mem_empty s)

/-- A visit adds elements of the selected conflict set only. -/
theorem Supported.visit {conflicts : List (OrdSet α)} (selector : Selector α σ) {path : OrdSet α}
    {rest : List (OrdSet α)} {st : SearchState α σ} (hp : st.pending = path :: rest)
    (h : st.Supported conflicts) : (st.visit conflicts selector path rest).Supported conflicts := by
  have hpending := h.pending
  rw [hp] at hpending
  obtain ⟨hpath, hrest⟩ := List.forall_mem_cons.mp hpending
  rcases visit_cases conflicts selector path rest st with
    ⟨_, hv⟩ | ⟨_, _, hv⟩ | ⟨_, _, place, selected, _, hget, hv⟩
  · rw [hv]
    refine ⟨hrest, fun s hs => ?_⟩
    rcases Array.mem_push.mp hs with hs | rfl
    · exact h.solutions s hs
    · exact hpath
  · rw [hv]
    exact ⟨hrest, h.solutions⟩
  · rw [hv]
    refine ⟨fun t ht => ?_, h.solutions⟩
    rcases List.mem_append.mp ht with ht | ht
    · obtain ⟨a, ha, _, rfl⟩ := mem_extensions.mp ht
      have hselected := (mem_uncovered.mp (List.mem_of_getElem? hget)).1
      exact insert_subset (subset_union hselected a ha) hpath
    · exact hrest t ht

end SearchState

section Result

variable (conflicts : List (OrdSet α)) (selector : Selector α σ) (choices : σ)
  (rule : StopRule τ) (stop : τ)

/-- A search finds hitting sets of elements of conflict sets only. -/
theorem subset_union_of_mem_search {s : OrdSet α}
    (h : s ∈ (search conflicts selector choices rule stop).hittingSets) :
    s ⊆ union conflicts := by
  by_cases hnil : conflicts = []
  · subst hnil
    rw [search_nil] at h
    rw [List.mem_singleton.mp h]
    exact empty_subset _
  · rw [search_of_ne_nil conflicts selector choices rule stop hnil] at h
    have hsupported : ((SearchState.initial choices).run conflicts selector rule
        stop).state.Supported conflicts :=
      SearchState.run_preserves conflicts selector rule (fun _ _ _ hp h => h.visit selector hp) stop
        (SearchState.supported_initial conflicts choices)
    exact hsupported.solutions s (Array.mem_toList_iff.mp (mem_deduplicate.mp h))

theorem mem_hittingSets_of_mem_minimalHittingSets {s : OrdSet α}
    (h : s ∈ (search conflicts selector choices rule stop).minimalHittingSets) :
    s ∈ (search conflicts selector choices rule stop).hittingSets := by
  by_cases hnil : conflicts = []
  · subst hnil
    exact h
  · rw [search_of_ne_nil conflicts selector choices rule stop hnil] at h ⊢
    exact mem_deduplicate.mpr (mem_retainMinimal_iff.mp h).holds

end Result

section BruteForce

variable {conflicts : List (OrdSet α)} {s : OrdSet α}

/-- Only combinations of elements of conflict sets are tested. -/
theorem subset_union_of_mem_bruteForce (h : s ∈ (bruteForce conflicts).hittingSets) :
    s ⊆ union conflicts := by
  unfold bruteForce at h
  split at h
  · rw [List.mem_singleton.mp h]
    exact empty_subset _
  · exact (mem_nonemptySubsets.mp (List.mem_filter.mp h).1).2

theorem mem_hittingSets_of_mem_bruteForce (h : s ∈ (bruteForce conflicts).minimalHittingSets) :
    s ∈ (bruteForce conflicts).hittingSets := by
  unfold bruteForce at h ⊢
  split at h
  · next hnil =>
    rw [if_pos hnil]
    exact h
  · next hnil =>
    rw [if_neg hnil]
    exact (mem_retainMinimal_iff.mp h).holds

end BruteForce

end CircuitDiagnosis
