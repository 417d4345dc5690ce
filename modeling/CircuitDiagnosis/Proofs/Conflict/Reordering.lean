import CircuitDiagnosis.HittingSet.Diagnosis
import CircuitDiagnosis.Proofs.Conflict.Generation
import CircuitDiagnosis.Proofs.Conflict.Questions
import CircuitDiagnosis.Proofs.HittingSet.Exactness

/-!
# The order of declaration does not matter

The order of the components decides in which order the solver is asked about the candidates, and
with the observations it decides how the variables are numbered. Neither shows in the results:
whether a query is closed (`Query.Closed.assuming_of_perm`) and whether it is consistent
(`Query.Consistent.assuming_of_perm`) depends on the components and the observations that there are,
so the same candidates are rejected (`rejectedCandidates_perm`), and the conflict sets are listed in
the order of the identifiers (`extract_eq_of_perm`).
-/

namespace CircuitDiagnosis

open Std OrdSet

/-- The counters after an extraction whose queries are closed. -/
theorem statistics_extract_of_closed {circuit : Circuit} {observations : List Observation}
    (extractor : Extractor Unit)
    (h : ∀ c ∈ circuit.candidates, (Query.assuming circuit observations c).Closed) :
    let before := extractor.statistics
    let rejected := rejectedCandidates circuit observations
    (extractor.extract solverOracle circuit observations).extractor.statistics =
      ⟨before.numQueries + (2 ^ circuit.size - 1),
        before.numConflictingCandidates + rejected.length,
        before.numMinimalConflicts + (retainMinimal rejected).length⟩ := by
  intro before rejected
  let extraction := extractor.extract solverOracle circuit observations
  have hqueries : extraction.extractor.statistics.numQueries =
      before.numQueries + (2 ^ circuit.size - 1) := by
    rw [← length_answers_extract extractor h]
    rfl
  have hconflicting : extraction.extractor.statistics.numConflictingCandidates =
      before.numConflictingCandidates + rejected.length :=
    numConflictingCandidates_extract extractor h
  have hminimal : extraction.extractor.statistics.numMinimalConflicts =
      before.numMinimalConflicts + (retainMinimal rejected).length := by
    change (before.add extraction.answers extraction.outcome).numMinimalConflicts = _
    rw [outcome_extract_of_closed extractor h]
    rfl
  rw [← hqueries, ← hconflicting, ← hminimal]

/-! ### Reordering -/

section Reordering

variable {circuit circuit' : Circuit} {observations observations' : List Observation}
  (hcomponents : circuit.components.Perm circuit'.components)

include hcomponents

theorem Circuit.mem_ids_of_perm {i : ComponentId} : i ∈ circuit.ids ↔ i ∈ circuit'.ids :=
  (hcomponents.map Component.id).mem_iff

theorem Circuit.all_eq_of_perm : circuit.all = circuit'.all :=
  ext_mem fun i => by rw [mem_all, mem_ids_of_perm hcomponents, mem_all]

theorem Circuit.Closed.of_perm (h : circuit.Closed) : circuit'.Closed := by
  rintro _ source ⟨c, hc, rfl, hs⟩
  exact (mem_ids_of_perm hcomponents).mp (h c.id source ⟨c, hcomponents.mem_iff.mpr hc, rfl, hs⟩)

variable (hobservations : ∀ o, o ∈ observations ↔ o ∈ observations')

include hobservations

theorem Query.Closed.assuming_of_perm {s t : ComponentSet}
    (h : (assuming circuit observations s).Closed) : (assuming circuit' observations' t).Closed :=
  closed_assuming (h.wiring.of_perm hcomponents) fun o ho i hi =>
    (Circuit.mem_ids_of_perm hcomponents).mp (h.observed o ((hobservations o).mpr ho) i hi)

theorem Query.Consistent.assuming_of_perm {s : ComponentSet}
    (h : (assuming circuit observations s).Consistent) :
    (assuming circuit' observations' s).Consistent := by
  obtain ⟨signal, hcomputes, hshows⟩ := consistent_assuming_iff.mp h
  refine consistent_assuming_iff.mpr ⟨signal, fun c hc => ?_, fun o ho => ?_⟩
  · exact hcomputes c (hcomponents.mem_iff.mpr hc)
  · exact hshows o ((hobservations o).mpr ho)

theorem isConflict_iff_of_perm {s : ComponentSet} :
    IsConflict circuit observations s ↔ IsConflict circuit' observations' s := by
  unfold IsConflict
  rw [Circuit.all_eq_of_perm hcomponents]
  refine and_congr_right fun _ => not_congr ⟨fun h => ?_, fun h => ?_⟩
  · exact h.assuming_of_perm hcomponents hobservations
  · exact h.assuming_of_perm hcomponents.symm fun o => (hobservations o).symm

/-- The same candidates are rejected. -/
theorem rejectedCandidates_perm :
    (rejectedCandidates circuit observations).Perm (rejectedCandidates circuit' observations') := by
  refine (List.perm_ext_iff_of_nodup (circuit.nodup_candidates.filter _)
    (circuit'.nodup_candidates.filter _)).mpr fun s => ?_
  refine mem_rejectedCandidates.trans (Iff.trans ?_ mem_rejectedCandidates.symm)
  exact and_congr_right fun _ => isConflict_iff_of_perm hcomponents hobservations

/-- An extraction that succeeds finds the same conflict sets in every other order, with the same
counters. -/
theorem extract_of_perm {extractor : Extractor Unit} {conflicts : List ComponentSet}
    (h : (extractor.extract solverOracle circuit observations).outcome = .ok conflicts) :
    (extractor.extract solverOracle circuit' observations').outcome = .ok conflicts ∧
      (extractor.extract solverOracle circuit' observations').extractor.statistics =
        (extractor.extract solverOracle circuit observations).extractor.statistics := by
  have hclosed := closed_of_outcome_extract h
  have hclosed' : ∀ c ∈ circuit'.candidates,
      (Query.assuming circuit' observations' c).Closed := by
    intro c hc
    obtain ⟨hne, hsub⟩ := Circuit.mem_candidates.mp hc
    rw [← Circuit.all_eq_of_perm hcomponents] at hsub
    exact (hclosed c (Circuit.mem_candidates.mpr ⟨hne, hsub⟩)).assuming_of_perm hcomponents
      hobservations
  have hperm := rejectedCandidates_perm hcomponents hobservations
  have hminimal : retainMinimal (rejectedCandidates circuit' observations') =
      retainMinimal (rejectedCandidates circuit observations) :=
    retainMinimal_congr fun s => hperm.mem_iff.symm
  have hsize : circuit'.size = circuit.size := hcomponents.length_eq.symm
  constructor
  · rw [outcome_extract_of_closed extractor hclosed] at h
    rw [outcome_extract_of_closed extractor hclosed', hminimal]
    exact h
  · rw [statistics_extract_of_closed extractor hclosed,
      statistics_extract_of_closed extractor hclosed', hminimal, hsize, hperm.length_eq]

end Reordering

/-- **The order of declaration does not matter.** Let two circuits have the same components in
different orders, and let the same be observed of them, in any order and any number of times. An
extraction by the solver succeeds on both or on none. If it does then the conflict sets are the same
list, and so are the counters of the extraction; complete searches of them, with any heuristics and
seeds, and the test of all combinations list the same minimal hitting sets. -/
theorem extract_eq_of_perm (circuit circuit' : Circuit)
    (observations observations' : List Observation)
    (hcomponents : circuit.components.Perm circuit'.components)
    (hobservations : ∀ o, o ∈ observations ↔ o ∈ observations') (extractor : Extractor Unit) :
    let extraction := extractor.extract solverOracle circuit observations
    let extraction' := extractor.extract solverOracle circuit' observations'
    ((∃ conflicts, extraction.outcome = .ok conflicts) ↔
      ∃ conflicts, extraction'.outcome = .ok conflicts) ∧
    ∀ conflicts conflicts', extraction.outcome = .ok conflicts →
      extraction'.outcome = .ok conflicts' →
      conflicts = conflicts' ∧
      extraction.extractor.statistics = extraction'.extractor.statistics ∧
      ∀ (options options' : SearchOptions) (unseeded unseeded' : Generator)
        (clock clock' : Nat → Nat) (condition condition' : StopCondition),
        let result := options.search unseeded clock condition conflicts
        let result' := options'.search unseeded' clock' condition' conflicts'
        result.status = .complete →
          (result'.status = .complete →
            result.minimalHittingSets = result'.minimalHittingSets) ∧
          result.minimalHittingSets = (bruteForce conflicts').minimalHittingSets := by
  intro extraction extraction'
  constructor
  · constructor
    · rintro ⟨conflicts, h⟩
      exact ⟨conflicts, (extract_of_perm hcomponents hobservations h).1⟩
    · rintro ⟨conflicts, h⟩
      exact ⟨conflicts, (extract_of_perm hcomponents.symm (fun o => (hobservations o).symm) h).1⟩
  · intro conflicts conflicts' h h'
    obtain ⟨houtcome, hstatistics⟩ := extract_of_perm hcomponents hobservations h
    cases h'.symm.trans houtcome
    refine ⟨rfl, hstatistics.symm, ?_⟩
    intro options options' unseeded unseeded' clock clock' condition condition' result result'
      hcomplete
    have hsets := enumerates_search_of_complete _ _ _ _ _ hcomplete
    refine ⟨fun hcomplete' => ?_, hsets.unique (enumerates_bruteForce conflicts)⟩
    exact hsets.unique (enumerates_search_of_complete _ _ _ _ _ hcomplete')

/-- Two gates in a row that cannot both work, declared one way with one heuristic and the other way,
with what was seen of the second gate given twice, with another heuristic. -/
theorem extract_eq_of_perm_row :
    let components : List Component :=
      [⟨"B", .and, .output "A", .input "z"⟩, ⟨"A", .or, .input "x", .input "y"⟩]
    let observations : List Observation :=
      [⟨.input "x", false⟩, ⟨.input "y", false⟩, ⟨.output "B", true⟩]
    let again : List Observation :=
      [⟨.output "B", true⟩, ⟨.input "y", false⟩, ⟨.output "B", true⟩, ⟨.input "x", false⟩]
    let first := Extractor.extract ⟨(), {}⟩ solverOracle (.ofComponents components) observations
    let second :=
      Extractor.extract ⟨(), {}⟩ solverOracle (.ofComponents components.reverse) again
    let result := SearchOptions.search ⟨.random, some 7⟩ (.ofSeed 0) frozenClock .absent
      [.ofList ["A", "B"]]
    first.outcome = .ok [.ofList ["A", "B"]] ∧ second.outcome = .ok [.ofList ["A", "B"]] ∧
      second.extractor.statistics = ⟨3, 1, 1⟩ ∧
      result.minimalHittingSets = [.ofList ["A"], .ofList ["B"]] := by
  intro components observations again first second result
  have hsame : (∀ o ∈ observations, o ∈ again) ∧ ∀ o ∈ again, o ∈ observations := by decide
  obtain ⟨hsucceeds, hequal⟩ := extract_eq_of_perm (.ofComponents components)
    (.ofComponents components.reverse) observations again (by decide)
    (fun o => ⟨hsame.1 o, hsame.2 o⟩) ⟨(), {}⟩
  have hvalue : (first.outcome.toOption, first.extractor.statistics) =
      (some [.ofList ["A", "B"]], ⟨3, 1, 1⟩) := by
    decide +kernel
  obtain ⟨hfound, hcounters⟩ := Prod.mk.inj hvalue
  have hfirst := eq_ok_of_toOption hfound
  obtain ⟨conflicts, hsecond⟩ := hsucceeds.mp ⟨_, hfirst⟩
  obtain ⟨rfl, hstatistics, hsearches⟩ := hequal _ conflicts hfirst hsecond
  obtain ⟨hsame, _⟩ := hsearches ⟨.mostFrequent, none⟩ ⟨.random, some 7⟩ (.ofSeed 0) (.ofSeed 0)
    frozenClock frozenClock .indefinite .absent (by decide +kernel)
  refine ⟨hfirst, hsecond, hstatistics.symm.trans hcounters,
    (hsame (by decide +kernel)).symm.trans ?_⟩
  decide +kernel

end CircuitDiagnosis
