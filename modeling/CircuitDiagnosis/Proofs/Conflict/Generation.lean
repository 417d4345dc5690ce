import CircuitDiagnosis.Proofs.Conflict.Extraction
import Mathlib.Data.Set.Card

/-!
# The conflict sets generate all conflicts

A set of components that contains a conflict is a conflict (`IsConflict.mono`), and a conflict
contains a minimal one. So of any non-empty set of components the minimal conflicts within it decide
whether its members can all be healthy (`exists_conflict_subset_iff`), and an extraction that
succeeds has counted exactly the sets that contain one of its conflict sets
(`rejected_iff_contains_conflict`).
-/

namespace CircuitDiagnosis

open OrdSet

variable {circuit : Circuit} {observations : List Observation}

/-- Assuming more components healthy does not resolve a conflict. -/
theorem IsConflict.mono {c s : ComponentSet} (hc : IsConflict circuit observations c) (hcs : c ⊆ s)
    (hs : s ⊆ circuit.all) : IsConflict circuit observations s :=
  ⟨hs, fun hconsistent => hc.2 (hconsistent.assuming_mono fun i _ hi => hcs i hi)⟩

/-- The sets of components that contain a minimal non-empty conflict are the non-empty
conflicts. -/
theorem exists_conflict_subset_iff {conflicts : List ComponentSet}
    (hconflicts : Enumerates (IsMinimalConflict circuit observations) conflicts) {s : ComponentSet} :
    (s ⊆ circuit.all ∧ ∃ c ∈ conflicts, c ⊆ s) ↔ s ≠ ∅ ∧ IsConflict circuit observations s := by
  constructor
  · rintro ⟨hs, c, hc, hcs⟩
    obtain ⟨hne, hconflict⟩ := ((hconflicts.mem_iff c).mp hc).holds
    refine ⟨fun hempty => hne ?_, hconflict.mono hcs hs⟩
    rw [hempty] at hcs
    exact subset_antisymm hcs (empty_subset c)
  · rintro ⟨hne, hconflict⟩
    obtain ⟨m, hms, hm⟩ := hconflict.exists_minimal_subset hne
    exact ⟨hconflict.1, m, (hconflicts.mem_iff m).mpr hm, hms⟩

/-! ### The count of an extraction -/

theorem encard_rejectedCandidates (circuit : Circuit) (observations : List Observation) :
    {s | s ∈ rejectedCandidates circuit observations}.encard =
      (rejectedCandidates circuit observations).length := by
  have hnodup : (rejectedCandidates circuit observations).Nodup := circuit.nodup_candidates.filter _
  rw [← List.coe_toFinset, Set.encard_coe_eq_coe_finsetCard, List.toFinset_card_of_nodup hnodup]

/-- An extraction whose queries are closed counts the candidates that the solver rejects. -/
theorem numConflictingCandidates_extract (extractor : Extractor Unit)
    (h : ∀ c ∈ circuit.candidates, (Query.assuming circuit observations c).Closed) :
    (extractor.extract solverOracle circuit
        observations).extractor.statistics.numConflictingCandidates =
      extractor.statistics.numConflictingCandidates +
        (rejectedCandidates circuit observations).length := by
  have hcount : (extractor.extract solverOracle circuit observations).answers.countP
      Answer.conflicting = (rejectedCandidates circuit observations).length := by
    unfold rejectedCandidates
    rw [← candidate_conflicting_of_map_eq (map_answers_extract extractor h), List.length_map,
      List.countP_eq_length_filter]
  rw [← hcount]
  rfl

/-- **The conflict sets generate all conflicts.** After an extraction by the solver that succeeded,
the query that assumes exactly the members of a non-empty set of components to be healthy is
unsatisfiable if and only if the set contains a conflict set, and the extraction has counted exactly
the sets of components that contain one. -/
theorem rejected_iff_contains_conflict (circuit : Circuit) (observations : List Observation)
    (extractor : Extractor Unit) (conflicts : List ComponentSet)
    (h : (extractor.extract solverOracle circuit observations).outcome = .ok conflicts) :
    (∀ healthy : ComponentSet, healthy ≠ ∅ → healthy ⊆ circuit.all →
      ((solverOracle.ask (.assuming circuit observations healthy) ()).verdict =
        .ok .unsatisfiable ↔ ∃ c ∈ conflicts, c ⊆ healthy)) ∧
    ((extractor.extract solverOracle circuit
        observations).extractor.statistics.numConflictingCandidates : ℕ∞) =
      extractor.statistics.numConflictingCandidates +
        {healthy : ComponentSet | healthy ⊆ circuit.all ∧ ∃ c ∈ conflicts, c ⊆ healthy}.encard := by
  have hclosed := closed_of_outcome_extract h
  rw [outcome_extract_of_closed extractor hclosed] at h
  cases h
  have hconflicts := enumerates_rejectedCandidates circuit observations
  constructor
  · intro healthy hne hhealthy
    have hquery := hclosed healthy (Circuit.mem_candidates.mpr ⟨hne, hhealthy⟩)
    have hiff := exists_conflict_subset_iff (s := healthy) hconflicts
    rw [Query.ask_eq_unsatisfiable_iff hquery ()]
    constructor
    · exact fun hinconsistent => (hiff.mpr ⟨hne, hhealthy, hinconsistent⟩).2
    · exact fun hcontains => (hiff.mp ⟨hhealthy, hcontains⟩).2.2
  · have hset : {healthy : ComponentSet | healthy ⊆ circuit.all ∧
        ∃ c ∈ retainMinimal (rejectedCandidates circuit observations), c ⊆ healthy} =
          {s | s ∈ rejectedCandidates circuit observations} :=
      Set.ext fun s => (exists_conflict_subset_iff hconflicts).trans mem_rejectedCandidates.symm
    rw [hset, encard_rejectedCandidates, numConflictingCandidates_extract extractor hclosed,
      Nat.cast_add]

/-- Two gates in a row, seen with values that they cannot both have, and a gate that reads its own
output. Of the seven sets of components five contain one of the two conflict sets. -/
theorem rejected_iff_contains_conflict_row :
    let circuit := Circuit.ofComponents [⟨"B", .and, .output "A", .input "z"⟩,
      ⟨"A", .or, .input "x", .input "y"⟩, ⟨"C", .xor, .output "B", .output "C"⟩]
    let observations : List Observation :=
      [⟨.input "x", false⟩, ⟨.input "y", false⟩, ⟨.output "B", true⟩]
    let conflicts : List ComponentSet := [.ofList ["C"], .ofList ["A", "B"]]
    (Extractor.extract ⟨(), {}⟩ solverOracle circuit observations).outcome = .ok conflicts ∧
      (solverOracle.ask (.assuming circuit observations (.ofList ["B", "C"])) ()).verdict =
        .ok .unsatisfiable ∧
      {healthy : ComponentSet |
        healthy ⊆ circuit.all ∧ ∃ c ∈ conflicts, c ⊆ healthy}.encard = 5 := by
  intro circuit observations conflicts
  let extraction := Extractor.extract ⟨(), {}⟩ solverOracle circuit observations
  have hvalue : (extraction.outcome.toOption,
      extraction.extractor.statistics.numConflictingCandidates) = (some conflicts, 5) := by
    decide +kernel
  obtain ⟨hfound, hcount⟩ := Prod.mk.inj hvalue
  have houtcome : extraction.outcome = .ok conflicts := by
    cases h : extraction.outcome with
    | error e =>
        rw [h] at hfound
        cases hfound
    | ok found =>
        rw [h] at hfound
        exact congrArg Except.ok (Option.some.inj hfound)
  obtain ⟨hrejected, hcounted⟩ :=
    rejected_iff_contains_conflict circuit observations ⟨(), {}⟩ conflicts houtcome
  have hsub : OrdSet.ofList ["B", "C"] ⊆ circuit.all := subset_iff.mp (by decide)
  refine ⟨houtcome, (hrejected _ (by decide) hsub).mpr ⟨.ofList ["C"], ?_, ?_⟩, ?_⟩
  · exact List.mem_cons_self
  · exact subset_iff.mp (by decide)
  · rw [hcount] at hcounted
    exact (hcounted.trans (zero_add _)).symm

end CircuitDiagnosis
