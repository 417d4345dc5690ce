import CircuitDiagnosis.Proofs.HittingSet.Support

/-!
# The test of all combinations

With a conflict set at hand the test of all combinations goes through the `2 ^ u - 1` non-empty sets
of the `u` elements that occur in conflict sets, in the order of sets
(`enumerates_nonemptySubsets`). So it enumerates the hitting sets among them
(`enumerates_hittingSets_bruteForce`): its list is in order as it was found, and it is closed under
taking in elements of conflict sets, since a set above a hitting set is one
(`bruteForce_lists_hitting_sets`).
-/

namespace CircuitDiagnosis

open Std OrdSet

universe u

variable {α : Type u} [Ord α] [TransOrd α] [LawfulEqOrd α]

namespace OrdSet

theorem enumerates_nonemptySubsets (s : OrdSet α) :
    Enumerates (fun t => t ≠ ∅ ∧ t ⊆ s) s.nonemptySubsets :=
  enumerates_subsets s

omit [LawfulEqOrd α] in
theorem length_nonemptySubsets (s : OrdSet α) : s.nonemptySubsets.length = 2 ^ s.size - 1 := by
  rw [size, ← length_flatMap_combinations s.toList]
  unfold nonemptySubsets size
  simp only [List.length_flatMap, List.length_map]

omit [TransOrd α] [LawfulEqOrd α] in
/-- A filter of an enumeration enumerates the sets that pass. -/
theorem Enumerates.filter {P : OrdSet α → Prop} {l : List (OrdSet α)} (h : Enumerates P l)
    (p : OrdSet α → Bool) : Enumerates (fun s => P s ∧ p s = true) (l.filter p) where
  ordered := h.ordered.filter p
  mem_iff s := List.mem_filter.trans (and_congr_left' (h.mem_iff s))

/-- An enumeration is in order and has no repeats, so nothing is changed in it. -/
theorem Enumerates.deduplicate_eq {P : OrdSet α → Prop} {l : List (OrdSet α)}
    (h : Enumerates P l) : deduplicate l = l := by
  refine Enumerates.unique (P := P) ⟨?_, fun s => mem_deduplicate.trans (h.mem_iff s)⟩ h
  exact (pairwise_deduplicate l).imp fun hlt => compare_eq_lt_iff.mp hlt

omit [TransOrd α] [LawfulEqOrd α] in
theorem Hits.ne_empty {conflicts : List (OrdSet α)} {s : OrdSet α} (h : s.Hits conflicts)
    (hne : conflicts ≠ []) : s ≠ ∅ := by
  obtain ⟨c, hc⟩ := List.exists_mem_of_ne_nil conflicts hne
  obtain ⟨a, ha, _⟩ := h c hc
  rintro rfl
  exact not_mem_empty ha

end OrdSet

section BruteForce

variable {conflicts : List (OrdSet α)} (hne : conflicts ≠ [])

include hne

omit [LawfulEqOrd α] in
theorem bruteForce_of_ne_nil :
    bruteForce conflicts =
      let hitting := (union conflicts).nonemptySubsets.filter fun s => s.hitsAll conflicts
      ⟨hitting, retainMinimal hitting, (union conflicts).nonemptySubsets.length⟩ := by
  unfold bruteForce
  rw [if_neg (by rw [List.isEmpty_iff]; exact hne)]

/-- If there are conflict sets, the test of all combinations lists the hitting sets of their
elements in order. -/
theorem enumerates_hittingSets_bruteForce :
    Enumerates (fun s => s ⊆ union conflicts ∧ s.Hits conflicts)
      (bruteForce conflicts).hittingSets := by
  rw [bruteForce_of_ne_nil hne]
  refine ((enumerates_nonemptySubsets _).filter _).congr fun s => ?_
  rw [hitsAll_iff]
  constructor
  · rintro ⟨⟨_, hsub⟩, hits⟩
    exact ⟨hsub, hits⟩
  · rintro ⟨hsub, hits⟩
    exact ⟨⟨hits.ne_empty hne, hsub⟩, hits⟩

end BruteForce

/-- **The test of all combinations lists all hitting sets in order.** Let there be conflict sets,
with `u` elements in all. Then `2 ^ u - 1` combinations are tested, and the hitting sets in the
order in which they are found are all the sets of these elements that share an element with each
conflict set, each once, by size and then lexicographically; so sorting them and removing repeats
changes nothing. A set found stays one with any further of these elements. -/
theorem bruteForce_lists_hitting_sets (conflicts : List (OrdSet α)) (hne : conflicts ≠ []) :
    let elements := union conflicts
    let result := bruteForce conflicts
    (∀ a, a ∈ elements ↔ ∃ c ∈ conflicts, a ∈ c) ∧
      result.combinationsTested = 2 ^ elements.size - 1 ∧
      Enumerates (fun s => s ⊆ elements ∧ ∀ c ∈ conflicts, ∃ a, a ∈ s ∧ a ∈ c)
        result.hittingSets ∧
      result.hittingSets.Nodup ∧
      deduplicate result.hittingSets = result.hittingSets ∧
      ∀ s ∈ result.hittingSets, ∀ a ∈ elements, s.insert a ∈ result.hittingSets := by
  intro elements result
  have henumerates : Enumerates (fun s => s ⊆ elements ∧ s.Hits conflicts) result.hittingSets :=
    enumerates_hittingSets_bruteForce hne
  refine ⟨fun a => mem_union, ?_, henumerates, henumerates.nodup, henumerates.deduplicate_eq, ?_⟩
  · rw [← length_nonemptySubsets]
    exact congrArg BruteForceResult.combinationsTested (bruteForce_of_ne_nil hne)
  · intro s hs a ha
    obtain ⟨hsub, hits⟩ := (henumerates.mem_iff s).mp hs
    refine (henumerates.mem_iff _).mpr ⟨insert_subset ha hsub, hits.mono fun b hb => ?_⟩
    exact mem_insert.mpr (Or.inr hb)

/-- Three components in two conflict sets, one of them given twice. -/
theorem bruteForce_lists_hitting_sets_repeated :
    let conflicts : List (OrdSet String) :=
      [ofList ["B", "A"], ofList ["A", "C"], ofList ["A", "B"]]
    let result := bruteForce conflicts
    conflicts ≠ [] ∧ result.combinationsTested = 7 ∧
      deduplicate result.hittingSets = [ofList ["A"], ofList ["A", "B"], ofList ["A", "C"],
        ofList ["B", "C"], ofList ["A", "B", "C"]] ∧
      ofList ["B", "C"] ∈ result.hittingSets ∧
      OrdSet.insert "A" (ofList ["B", "C"]) ∈ result.hittingSets := by
  intro conflicts result
  have hne : conflicts ≠ [] := List.cons_ne_nil _ _
  obtain ⟨_, htested, _, _, hordered, hclosed⟩ := bruteForce_lists_hitting_sets conflicts hne
  have hmem : ofList ["B", "C"] ∈ result.hittingSets := by decide +kernel
  have ha : "A" ∈ union conflicts := contains_iff.mp (by decide +kernel)
  exact ⟨hne, htested.trans (by decide +kernel), hordered.trans (by decide +kernel), hmem,
    hclosed _ hmem "A" ha⟩

end CircuitDiagnosis
