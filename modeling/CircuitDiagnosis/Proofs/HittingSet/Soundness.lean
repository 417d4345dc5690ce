import CircuitDiagnosis.Proofs.HittingSet.Exhaustion
import CircuitDiagnosis.Proofs.HittingSet.TreeSize

/-!
# Searches that were stopped

A search that is stopped before its end has only seen some of the paths, but what it reports is
right as far as it goes (`search_sound_wherever_stopped`). This rests on what each visit keeps, of
any selector and at any time: solutions hit every conflict set (`SearchState.Balanced`), they are
made of elements of conflict sets (`SearchState.Supported`), and each element of a path pays for a
conflict set that it hits (`SearchState.Bounded`). So each reported set is also found by the test of
all combinations, and it is no larger than the list of conflict sets is long.
-/

namespace CircuitDiagnosis

open Std (TransOrd LawfulEqOrd)
open OrdSet

universe u

variable {α : Type u} [Ord α] [TransOrd α] [LawfulEqOrd α] {σ τ : Type}

/-- Sorting a family and removing its repeats leaves no more sets. -/
theorem OrdSet.length_deduplicate_le (sets : List (OrdSet α)) :
    (deduplicate sets).length ≤ sets.length := by
  have hnodup : (deduplicate sets).Nodup := nodup_toList (ofList sets)
  exact (hnodup.subperm fun s hs => mem_deduplicate.mp hs).length_le

section Search

variable (conflicts : List (OrdSet α)) (selector : Selector α σ) (choices : σ)
  (rule : StopRule τ) (stop : τ)

/-- The sets that a search reports are listed in order. -/
theorem enumerates_members_search :
    Enumerates (· ∈ (search conflicts selector choices rule stop).hittingSets)
      (search conflicts selector choices rule stop).hittingSets := by
  refine ⟨?_, fun _ => Iff.rfl⟩
  by_cases hnil : conflicts = []
  · subst hnil
    exact List.pairwise_singleton _ _
  · exact (enumerates_hittingSets_search conflicts selector choices rule stop hnil).ordered

theorem minimalHittingSets_search_sublist :
    (search conflicts selector choices rule stop).minimalHittingSets.Sublist
      (search conflicts selector choices rule stop).hittingSets := by
  rw [minimalHittingSets_search]
  have hsublist := retainMinimal_sublist (search conflicts selector choices rule stop).hittingSets
  rw [(enumerates_members_search conflicts selector choices rule stop).deduplicate_eq] at hsublist
  exact hsublist

variable {conflicts selector choices rule stop} {s : OrdSet α}

theorem hits_of_mem_search
    (h : s ∈ (search conflicts selector choices rule stop).hittingSets) : s.Hits conflicts := by
  by_cases hnil : conflicts = []
  · subst hnil
    exact fun c hc => (by cases hc)
  · have hfound := enumerates_hittingSets_search conflicts selector choices rule stop hnil
    exact ((hfound.mem_iff s).mp h).1

/-- No path that a search visits has more elements than there are conflict sets, so no reported set
has. -/
theorem size_le_of_mem_search
    (h : s ∈ (search conflicts selector choices rule stop).hittingSets) :
    s.size ≤ conflicts.length := by
  by_cases hnil : conflicts = []
  · subst hnil
    rw [List.mem_singleton.mp h]
    exact Nat.le_refl 0
  · have hfound := enumerates_hittingSets_search conflicts selector choices rule stop hnil
    obtain ⟨_, v, hv, rfl⟩ := (hfound.mem_iff s).mp h
    obtain ⟨n, _, hvisits, _⟩ :=
      exists_endsAfter_search conflicts selector choices rule stop hnil
    rw [hvisits] at hv
    have hbounded := SearchState.bounded_after (b := totalSize conflicts)
      (fun c hc => size_le_totalSize hc) selector choices n
    exact hbounded.visited v (Array.mem_toList_iff.mp hv)

/-- What a search reports is among what the test of all combinations finds. -/
theorem mem_bruteForce_of_mem_search
    (h : s ∈ (search conflicts selector choices rule stop).hittingSets) :
    s ∈ (bruteForce conflicts).hittingSets := by
  by_cases hnil : conflicts = []
  · subst hnil
    exact h
  · refine ((enumerates_hittingSets_bruteForce hnil).mem_iff s).mpr ⟨?_, hits_of_mem_search h⟩
    exact subset_union_of_mem_search conflicts selector choices rule stop h

/-- Each reported set was recorded by some visit. -/
theorem length_hittingSets_search_le (hne : conflicts ≠ []) :
    (search conflicts selector choices rule stop).hittingSets.length ≤
      (search conflicts selector choices rule stop).statistics.numSolutionNodes := by
  obtain ⟨ended, _, hresult, _, _, hrecords, _⟩ :=
    exists_ofEnd_search conflicts selector choices rule stop hne
  rw [hresult]
  change (deduplicate ended.state.solutions.toList).length ≤
    ended.state.visits.toList.countP Visit.isSolution
  rw [hrecords.countP_isSolution, ← Array.length_toList]
  exact length_deduplicate_le _

end Search

/-- **A search is sound wherever it is stopped.** Whichever conflict sets are selected and whenever
the rule says stop, the hitting sets reported are listed by size and then lexicographically, without
repeats. Each of them shares an element with every conflict set, has elements of conflict sets only,
has no more of them than there are conflict sets, and is also found by the test of all combinations.
The minimal ones are reported in the same order; none of them lies within another, and every
reported set contains one of them. If there are conflict sets then at least as many paths were
recorded as sets are reported. -/
theorem search_sound_wherever_stopped (conflicts : List (OrdSet α)) (selector : Selector α σ)
    (choices : σ) (rule : StopRule τ) (stop : τ) :
    let result := search conflicts selector choices rule stop
    (result.hittingSets.Pairwise fun s t =>
        s.size < t.size ∨ s.size = t.size ∧ compare s.toList t.toList = .lt) ∧
      (∀ s ∈ result.hittingSets, (∀ c ∈ conflicts, ∃ a, a ∈ s ∧ a ∈ c) ∧
        (∀ a, a ∈ s → ∃ c ∈ conflicts, a ∈ c) ∧ s.size ≤ conflicts.length ∧
        s ∈ (bruteForce conflicts).hittingSets) ∧
      result.minimalHittingSets.Sublist result.hittingSets ∧
      (result.minimalHittingSets.Pairwise fun s t => ¬ s ⊆ t ∧ ¬ t ⊆ s) ∧
      (∀ s ∈ result.hittingSets, ∃ m ∈ result.minimalHittingSets, m ⊆ s) ∧
      (conflicts ≠ [] → result.hittingSets.length ≤ result.statistics.numSolutionNodes) := by
  intro result
  have hminimal : result.minimalHittingSets = retainMinimal result.hittingSets :=
    minimalHittingSets_search conflicts selector choices rule stop
  refine ⟨(enumerates_members_search conflicts selector choices rule stop).ordered, fun s hs => ?_,
    minimalHittingSets_search_sublist conflicts selector choices rule stop, ?_, fun s hs => ?_,
    fun hne => length_hittingSets_search_le hne⟩
  · have hunion := subset_union_of_mem_search conflicts selector choices rule stop hs
    exact ⟨hits_of_mem_search hs, fun a ha => mem_union.mp (hunion a ha), size_le_of_mem_search hs,
      mem_bruteForce_of_mem_search hs⟩
  · rw [hminimal]
    exact pairwise_retainMinimal _
  · rw [hminimal]
    exact exists_mem_retainMinimal_subset hs

/-- A search that is stopped one path before its end. Of the three sets that it reports it drops
one, and `A` with `B` is still taken for minimal, since `B` alone has not been seen. -/
theorem search_sound_wherever_stopped_six_paths :
    let conflicts : List ComponentSet :=
      [.ofList ["A", "B"], .ofList ["B", "C"], .ofList ["B", "D"]]
    let result := search conflicts Heuristic.smallest.selector (.ofSeed 7) (.timed frozenClock)
      ⟨.nodes 6, 0⟩
    let dropped : ComponentSet := .ofList ["A", "B", "C"]
    conflicts ≠ [] ∧ result.status = .incomplete ∧
      result.hittingSets = [.ofList ["A", "B"], dropped, .ofList ["A", "C", "D"]] ∧
      dropped.size ≤ 3 ∧ dropped ∈ (bruteForce conflicts).hittingSets ∧
      (∃ m ∈ result.minimalHittingSets, m ⊆ dropped) ∧
      result.hittingSets.length ≤ result.statistics.numSolutionNodes := by
  intro conflicts result dropped
  have hne : conflicts ≠ [] := List.cons_ne_nil _ _
  have hend : (result.status, result.hittingSets) =
      (.incomplete, [.ofList ["A", "B"], dropped, .ofList ["A", "C", "D"]]) := by
    decide +kernel
  obtain ⟨hstatus, hsets⟩ := Prod.mk.inj hend
  obtain ⟨_, hsound, _, _, habove, hcount⟩ := search_sound_wherever_stopped conflicts
    Heuristic.smallest.selector (.ofSeed 7) (.timed frozenClock) ⟨.nodes 6, 0⟩
  have hdropped : dropped ∈ result.hittingSets := by
    rw [hsets]
    exact List.mem_cons_of_mem _ List.mem_cons_self
  obtain ⟨_, _, hsize, hbrute⟩ := hsound dropped hdropped
  exact ⟨hne, hstatus, hsets, hsize, hbrute, habove dropped hdropped, hcount hne⟩

end CircuitDiagnosis
