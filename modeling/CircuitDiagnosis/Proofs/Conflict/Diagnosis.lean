import CircuitDiagnosis.HittingSet.Diagnosis
import CircuitDiagnosis.Proofs.Conflict.Extraction
import CircuitDiagnosis.Proofs.HittingSet.Exactness

/-!
# Diagnosis by conflicts

Conflicts and diagnoses determine each other. A diagnosis hits every conflict
(`IsDiagnosis.exists_mem_conflict`), and of a set that hits all minimal conflicts the components of
the circuit are a diagnosis (`isDiagnosis_of_hits`), provided that the observations do not contradict
each other. So the minimal hitting sets of the minimal conflicts are the minimal diagnoses
(`isMinimalHittingSet_iff_isMinimalDiagnosis`).

`enumerates_diagnoses` joins this with the exactness of the oracle, of the extraction and of the
search. The wiring may be cyclic, and the circuit may be empty.
-/

namespace CircuitDiagnosis

open OrdSet

variable {circuit : Circuit} {observations : List Observation}

/-! ### Conflicts and diagnoses -/

/-- The components that a diagnosis leaves healthy contain no conflict. -/
theorem IsDiagnosis.exists_mem_conflict {s c : ComponentSet}
    (hs : IsDiagnosis circuit observations s) (hc : IsConflict circuit observations c) :
    ∃ a, a ∈ s ∧ a ∈ c := by
  by_contra hnone
  have hhealthy : ∀ i ∈ circuit.ids, i ∈ c → i ∈ circuit.all.diff s := by
    intro i hi hic
    exact mem_diff.mpr ⟨Circuit.mem_all.mpr hi, fun his => hnone ⟨i, his, hic⟩⟩
  exact hc.2 (hs.2.assuming_mono hhealthy)

/-- The components of the circuit in a set that hits all minimal conflicts are a diagnosis. -/
theorem isDiagnosis_of_hits {conflicts : List ComponentSet} {t : ComponentSet}
    (hagree : ∀ s, ⟨s, true⟩ ∈ observations → ⟨s, false⟩ ∉ observations)
    (hconflicts : Enumerates (IsMinimalConflict circuit observations) conflicts) (ht : t.Hits conflicts) :
    IsDiagnosis circuit observations (t.filter circuit.all.contains) := by
  let healthy := circuit.all.diff (t.filter circuit.all.contains)
  refine ⟨fun i hi => contains_iff.mp (mem_filter.mp hi).2, ?_⟩
  by_contra hinconsistent
  have hne : healthy ≠ ∅ := by
    intro hempty
    have hconsistent := Query.consistent_assuming_empty circuit hagree
    rw [← hempty] at hconsistent
    exact hinconsistent hconsistent
  have hconflict : IsConflict circuit observations healthy :=
    ⟨fun i hi => (mem_diff.mp hi).1, hinconsistent⟩
  -- A minimal conflict among the components left healthy is hit by `t`, which is absurd.
  obtain ⟨m, hmhealthy, hm⟩ := hconflict.exists_minimal_subset hne
  obtain ⟨i, hit, him⟩ := ht m ((hconflicts.mem_iff m).mpr hm)
  obtain ⟨hall, hnot⟩ := mem_diff.mp (hmhealthy i him)
  exact hnot (mem_filter.mpr ⟨hit, contains_iff.mpr hall⟩)

/-- The minimal hitting sets of the minimal conflicts are the minimal diagnoses. -/
theorem isMinimalHittingSet_iff_isMinimalDiagnosis {conflicts : List ComponentSet}
    (hagree : ∀ s, ⟨s, true⟩ ∈ observations → ⟨s, false⟩ ∉ observations)
    (hconflicts : Enumerates (IsMinimalConflict circuit observations) conflicts) (s : ComponentSet) :
    IsMinimalHittingSet conflicts s ↔ IsMinimalDiagnosis circuit observations s := by
  refine (minimalFor_iff_of_cofinal (fun t ht c hc => ?_) (fun t ht => ?_) s).symm
  · exact ht.exists_mem_conflict ((hconflicts.mem_iff c).mp hc).holds.2
  · exact ⟨_, filter_subset _ t, isDiagnosis_of_hits hagree hconflicts ht⟩

/-! ### The whole computation -/

/-- **The diagnoses are exact.** Of a circuit and observations that refer to nothing outside the
circuit and do not contradict each other, an extraction by the solver succeeds; a search of its
conflict sets without a budget comes to its end; and every search that does enumerates the minimal
diagnoses, by size and then lexicographically. A diagnosis is a set of components that the solver
accepts as exactly the faulty ones. -/
theorem enumerates_diagnoses (circuit : Circuit) (observations : List Observation)
    (hwiring : circuit.Closed)
    (hobserved : ∀ o ∈ observations, ∀ i, o.signal = .output i → i ∈ circuit.ids)
    (hagree : ∀ s, ⟨s, true⟩ ∈ observations → ⟨s, false⟩ ∉ observations)
    (extractor : Extractor Unit) :
    (∃ conflicts, (extractor.extract solverOracle circuit observations).outcome = .ok conflicts ∧
      ∀ (options : SearchOptions) (unseeded : Generator) (clock : Nat → Nat)
        (condition : StopCondition),
        (condition = .indefinite ∨ condition = .absent →
          (options.search unseeded clock condition conflicts).status = .complete) ∧
        ((options.search unseeded clock condition conflicts).status = .complete →
          Enumerates (IsMinimalDiagnosis circuit observations)
            (options.search unseeded clock condition conflicts).minimalHittingSets)) ∧
      ∀ s, IsDiagnosis circuit observations s ↔ s ⊆ circuit.all ∧
        (solverOracle.ask (.blaming circuit observations s) ()).verdict = .ok .satisfiable := by
  have hclosed : ∀ s, (Query.assuming circuit observations s).Closed :=
    fun s => Query.closed_assuming hwiring hobserved
  constructor
  · obtain ⟨conflicts, houtcome, hconflicts⟩ := enumerates_extract extractor hclosed
    refine ⟨conflicts, houtcome, fun options unseeded clock condition => ⟨?_, ?_⟩⟩
    · intro hcondition
      exact status_search_of_neverStops _ _ _ _ _ (StopRule.neverStops_timed clock 0 hcondition)
    · intro hcomplete
      refine (enumerates_search_of_complete _ _ _ _ _ hcomplete).congr fun s => ?_
      exact isMinimalHittingSet_iff_isMinimalDiagnosis hagree hconflicts s
  · intro s
    have hblaming : (Query.blaming circuit observations s).Closed := hclosed _
    rw [Query.ask_eq_satisfiable_iff hblaming ()]
    exact Iff.rfl

/-- Two gates in a cycle, seen with values that neither of them can have: both are faulty. -/
theorem enumerates_diagnoses_cycle :
    Enumerates
      (IsMinimalDiagnosis
        (.ofComponents [⟨"A", .and, .input "x", .output "B"⟩, ⟨"B", .or, .output "A", .input "y"⟩])
        [⟨.output "A", true⟩, ⟨.output "B", false⟩])
      [.ofList ["A", "B"]] := by
  have hobserved : ∀ o ∈ [(⟨.output "A", true⟩ : Observation), ⟨.output "B", false⟩],
      Query.unknown? (.ofComponents
        [⟨"A", .and, .input "x", .output "B"⟩, ⟨"B", .or, .output "A", .input "y"⟩])
        o.signal = none := by
    decide
  have hagree : ∀ s, ⟨s, true⟩ ∈ [(⟨.output "A", true⟩ : Observation), ⟨.output "B", false⟩] →
      ⟨s, false⟩ ∉ [(⟨.output "A", true⟩ : Observation), ⟨.output "B", false⟩] := by
    intro s hs
    have hA : s = .output "A" := by simpa using hs
    rw [hA]
    decide
  obtain ⟨⟨conflicts, houtcome, hsearch⟩, _⟩ := enumerates_diagnoses
    (.ofComponents [⟨"A", .and, .input "x", .output "B"⟩, ⟨"B", .or, .output "A", .input "y"⟩])
    [⟨.output "A", true⟩, ⟨.output "B", false⟩]
    (Query.circuit_closed_iff.mpr (by decide))
    (fun o ho => Query.unknown?_eq_none_iff.mp (hobserved o ho)) hagree ⟨(), {}⟩
  obtain ⟨hends, henumerates⟩ := hsearch ⟨.random, some 7⟩ (.ofSeed 0) frozenClock .indefinite
  -- Each gate alone is a conflict, so the search has to take both.
  have hconflicts : conflicts = [.ofList ["A"], .ofList ["B"]] := by
    have hvalue : (Extractor.extract ⟨(), {}⟩ solverOracle
        (.ofComponents [⟨"A", .and, .input "x", .output "B"⟩, ⟨"B", .or, .output "A", .input "y"⟩])
        [⟨.output "A", true⟩, ⟨.output "B", false⟩]).outcome.toOption =
          some [.ofList ["A"], .ofList ["B"]] := by
      decide +kernel
    rw [houtcome] at hvalue
    exact Option.some.inj hvalue
  have hsets : (SearchOptions.search ⟨.random, some 7⟩ (.ofSeed 0) frozenClock .indefinite
      [.ofList ["A"], .ofList ["B"]]).minimalHittingSets = [.ofList ["A", "B"]] := by
    decide +kernel
  have hexact := henumerates (hends (Or.inl rfl))
  rw [hconflicts, hsets] at hexact
  exact hexact

end CircuitDiagnosis
