import CircuitDiagnosis.Proofs.HittingSet.Exactness

/-!
# Duality of hitting sets

A family and the family of its minimal hitting sets hit each other. Every set that hits all minimal
hitting sets of a family contains a member of it: otherwise what the set leaves of the family's
elements would hit the family, and a minimal hitting set within would be missed
(`exists_mem_subset_of_hits`). So the minimal hitting sets of the minimal hitting sets are the
minimal members (`isMinimalHittingSet_of_enumerates_iff`), and two complete searches in a row give
back the family up to `retainMinimal` (`search_search_eq_retainMinimal`).
-/

namespace CircuitDiagnosis

open Std

universe u

variable {α : Type u} [Ord α] [TransOrd α] [LawfulEqOrd α]

namespace OrdSet

section Transversal

variable {conflicts hitting : List (OrdSet α)}
  (hhitting : Enumerates (IsMinimalHittingSet conflicts) hitting)

include hhitting

omit [TransOrd α] [LawfulEqOrd α] in
theorem hits_of_mem {c : OrdSet α} (hc : c ∈ conflicts) : c.Hits hitting := by
  intro m hm
  obtain ⟨a, ham, hac⟩ := ((hhitting.mem_iff m).mp hm).holds c hc
  exact ⟨a, hac, ham⟩

/-- A set that hits every minimal hitting set of a family contains a member of the family. -/
theorem exists_mem_subset_of_hits {s : OrdSet α} (hs : s.Hits hitting) :
    ∃ c, c ⊆ s ∧ c ∈ conflicts := by
  by_contra hnone
  have hrest : ((union conflicts).diff s).Hits conflicts := by
    intro c hc
    obtain ⟨a, hac, has⟩ := exists_mem_of_not_subset fun h => hnone ⟨c, h, hc⟩
    exact ⟨a, mem_diff.mpr ⟨mem_union.mpr ⟨c, hc, hac⟩, has⟩, hac⟩
  obtain ⟨m, hsub, hm⟩ := exists_minimalFor_subset (P := fun t => t.Hits conflicts) hrest
  obtain ⟨a, has, ham⟩ := hs m ((hhitting.mem_iff m).mpr hm)
  exact (mem_diff.mp (hsub a ham)).2 has

theorem isMinimalHittingSet_of_enumerates_iff (s : OrdSet α) :
    IsMinimalHittingSet hitting s ↔ MinimalFor (· ∈ conflicts) s :=
  (minimalFor_iff_of_cofinal (fun _ hc => hits_of_mem hhitting hc)
    (fun _ ht => exists_mem_subset_of_hits hhitting ht) s).symm

end Transversal

theorem retainMinimal_of_empty_mem {sets : List (OrdSet α)} (h : ∅ ∈ sets) :
    retainMinimal sets = [∅] := by
  refine (enumerates_minimal_members sets).unique ((enumerates_singleton ∅).congr fun s => ?_)
  constructor
  · rintro rfl
    exact ⟨h, fun t _ _ => empty_subset t⟩
  · intro hs
    exact (hs.eq_of_subset h (empty_subset s)).symm

end OrdSet

open OrdSet

variable {σ σ' τ τ' : Type}

/-- **Duality**: a complete search on the result of a complete search gives back the minimal members
of the first family, in order. Without conflict sets the results are the family of the empty set and
no set; with an empty conflict set it is the other way round. -/
theorem search_search_eq_retainMinimal (conflicts hitting : List (OrdSet α))
    (selector : Selector α σ) (choices : σ) (rule : StopRule τ) (stop : τ)
    (selector' : Selector α σ') (choices' : σ') (rule' : StopRule τ') (stop' : τ')
    (hhitting : hitting = (search conflicts selector choices rule stop).minimalHittingSets)
    (h : (search conflicts selector choices rule stop).status = .complete)
    (h' : (search hitting selector' choices' rule' stop').status = .complete) :
    (search hitting selector' choices' rule' stop').minimalHittingSets = retainMinimal conflicts ∧
      (conflicts = [] → hitting = [∅] ∧ retainMinimal conflicts = []) ∧
      (∅ ∈ conflicts → hitting = [] ∧ retainMinimal conflicts = [∅]) := by
  have hfirst := enumerates_search_of_complete conflicts selector choices rule stop h
  rw [← hhitting] at hfirst
  have hsecond := enumerates_search_of_complete hitting selector' choices' rule' stop' h'
  refine ⟨?_, ?_, fun hempty => ?_⟩
  · have hdual := hsecond.congr (isMinimalHittingSet_of_enumerates_iff hfirst)
    exact hdual.unique (enumerates_minimal_members conflicts)
  · rintro rfl
    exact ⟨hhitting, rfl⟩
  · refine ⟨hfirst.eq_nil fun s hs => not_hits_of_empty_mem hempty s hs.holds, ?_⟩
    exact retainMinimal_of_empty_mem hempty

/-- A family with a repeated set and a superset, searched twice under two heuristics. -/
theorem search_search_eq_retainMinimal_three_conflicts :
    (search
      (search [.ofList ["A", "B", "D"], .ofList ["A", "C"], .ofList ["A", "B"], .ofList ["A", "C"]]
        Heuristic.random.selector (Generator.ofSeed 3) .never ()).minimalHittingSets
      Heuristic.smallest.selector (Generator.ofSeed 5) .never ()).minimalHittingSets =
        [.ofList ["A", "B"], .ofList ["A", "C"]] := by
  have hdual := search_search_eq_retainMinimal
    [.ofList ["A", "B", "D"], .ofList ["A", "C"], .ofList ["A", "B"], .ofList ["A", "C"]] _
    Heuristic.random.selector (Generator.ofSeed 3) .never ()
    Heuristic.smallest.selector (Generator.ofSeed 5) .never () rfl
    (status_search_of_neverStops _ _ _ _ _ StopRule.neverStops_never)
    (status_search_of_neverStops _ _ _ _ _ StopRule.neverStops_never)
  refine hdual.1.trans ?_
  decide

end CircuitDiagnosis
