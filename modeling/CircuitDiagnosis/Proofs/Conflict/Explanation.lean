import CircuitDiagnosis.Proofs.CircuitFile.WellFormed
import CircuitDiagnosis.Proofs.Conflict.Diagnosis

/-!
# Which diagnoses explain the observations

The observations of a circuit file can contradict each other, but only at the outputs of components:
each input of the circuit was observed once (`ObservedCircuit.WellFormed.agree`). If they do not
then every minimal hitting set of the conflict sets explains them. If they do then nothing does.
The extraction does not ask whether all components can be faulty, so it finds each component to be a
conflict by itself (`ObservedCircuit.Contradictory.hits_iff`), and what a search reports as the only
diagnosis is the set of all components. `verdict_blaming_of_complete` says so of all circuit files.
-/

namespace CircuitDiagnosis

open CircuitFile OrdSet

namespace ObservedCircuit

variable {r : ObservedCircuit} {conflicts : List ComponentSet}

/-- Some component was observed to have both outputs. -/
def Contradictory (r : ObservedCircuit) : Prop :=
  ∃ i, ⟨.output i, true⟩ ∈ r.observations ∧ ⟨.output i, false⟩ ∈ r.observations

/-! ### Observations that agree -/

/-- No signal was observed to have both values, unless it is the output of a component. -/
theorem WellFormed.agree (h : r.WellFormed) (hnot : ¬ r.Contradictory) :
    ∀ s, ⟨s, true⟩ ∈ r.observations → ⟨s, false⟩ ∉ r.observations := by
  intro s htrue hfalse
  cases s with
  | output i => exact hnot ⟨i, htrue, hfalse⟩
  | input name =>
      obtain ⟨c, hc, pin, hpin⟩ := h.inputs_read _ htrue name rfl
      have honce := h.inputs_once c hc pin name hpin
      rw [List.countP_eq_length_filter] at honce
      obtain ⟨o, ho⟩ := List.length_eq_one_iff.mp honce
      have honly : ∀ value, ⟨.input name, value⟩ ∈ r.observations → ⟨.input name, value⟩ = o := by
        intro value hvalue
        rw [← List.mem_singleton, ← ho]
        exact List.mem_filter.mpr ⟨hvalue, beq_self_eq_true _⟩
      cases (honly true htrue).trans (honly false hfalse).symm

/-- If the observations agree then a minimal hitting set of the conflict sets explains them. -/
theorem WellFormed.isDiagnosis_of_minimal (h : r.WellFormed) (hnot : ¬ r.Contradictory)
    (hconflicts : Enumerates (IsMinimalConflict r.circuit r.observations) conflicts) {s : ComponentSet} (hs : IsMinimalHittingSet conflicts s) :
    IsDiagnosis r.circuit r.observations s :=
  ((isMinimalHittingSet_iff_isMinimalDiagnosis (h.agree hnot) hconflicts s).mp hs).holds

/-! ### Observations that contradict each other -/

namespace Contradictory

theorem not_consistent (h : r.Contradictory) (healthy : ComponentSet) :
    ¬ (Query.assuming r.circuit r.observations healthy).Consistent := by
  rintro ⟨v, hv⟩
  obtain ⟨i, htrue, hfalse⟩ := h
  have hone : v.signal (.output i) = true := hv.shows _ htrue
  have hzero : v.signal (.output i) = false := hv.shows _ hfalse
  rw [hone] at hzero
  cases hzero

theorem isConflict_iff (h : r.Contradictory) {s : ComponentSet} :
    IsConflict r.circuit r.observations s ↔ s ⊆ r.circuit.all :=
  and_iff_left (h.not_consistent s)

section Hitting

variable (h : r.Contradictory)
  (hconflicts : Enumerates (IsMinimalConflict r.circuit r.observations) conflicts)

include h hconflicts

/-- Each component is a conflict by itself, so a hitting set has all of them. -/
theorem hits_iff {t : ComponentSet} : t.Hits conflicts ↔ r.circuit.all ⊆ t := by
  constructor
  · intro ht i hi
    have hne : ofList [i] ≠ ∅ := fun hempty => List.cons_ne_nil i [] (ofList_eq_empty_iff.mp hempty)
    have hsub : ofList [i] ⊆ r.circuit.all := by
      intro j hj
      rw [List.mem_singleton.mp (mem_ofList.mp hj)]
      exact hi
    obtain ⟨m, hmi, hm⟩ := (h.isConflict_iff.mpr hsub).exists_minimal_subset hne
    obtain ⟨j, hjt, hjm⟩ := ht m ((hconflicts.mem_iff m).mpr hm)
    rw [← List.mem_singleton.mp (mem_ofList.mp (hmi j hjm))]
    exact hjt
  · intro hall c hc
    obtain ⟨hne, hconflict⟩ := ((hconflicts.mem_iff c).mp hc).holds
    obtain ⟨i, hi, _⟩ := exists_mem_of_not_subset fun hsub =>
      hne (subset_antisymm hsub (empty_subset c))
    exact ⟨i, hall i (hconflict.1 i hi), hi⟩

theorem isMinimalHittingSet_iff {s : ComponentSet} :
    IsMinimalHittingSet conflicts s ↔ s = r.circuit.all := by
  have hall : r.circuit.all.Hits conflicts := (h.hits_iff hconflicts).mpr (subset_refl _)
  constructor
  · intro hs
    exact (hs.eq_of_subset hall ((h.hits_iff hconflicts).mp hs.holds)).symm
  · rintro rfl
    exact ⟨hall, fun t _ ht => (h.hits_iff hconflicts).mp ht⟩

end Hitting

end Contradictory

end ObservedCircuit

/-! ### Reported diagnoses -/

/-- The solver accepts exactly the diagnoses as the faulty components. -/
theorem verdict_blaming_eq_satisfiable_iff {circuit : Circuit} {observations : List Observation}
    {s : ComponentSet} (h : (Query.blaming circuit observations s).Closed)
    (hs : s ⊆ circuit.all) :
    (solverOracle.ask (.blaming circuit observations s) ()).verdict = .ok .satisfiable ↔
      IsDiagnosis circuit observations s := by
  rw [Query.ask_eq_satisfiable_iff h ()]
  exact (and_iff_right hs).symm

/-- **A reported diagnosis explains the observations unless they contradict each other.** Of every
text that is read as a circuit the extraction finds conflict sets, and a search of these without a
budget comes to its end, with any heuristic and seed. Consider any search that does. If no component
was observed to have both outputs, then the solver accepts each minimal hitting set as the exact set
of faulty components. Otherwise the one that is reported is the set of all components, and the
solver rejects it. -/
theorem verdict_blaming_of_complete (text : String) (r : ObservedCircuit)
    (h : parse text = .ok r) :
    ∃ conflicts, extractConflicts r.circuit r.observations = .ok conflicts ∧
      ∀ (options : SearchOptions) (unseeded : Generator) (clock : Nat → Nat)
        (condition : StopCondition),
        let result := options.search unseeded clock condition conflicts
        (condition = .indefinite ∨ condition = .absent → result.status = .complete) ∧
        (result.status = .complete →
          (¬ r.Contradictory → ∀ s ∈ result.minimalHittingSets,
            (solverOracle.ask (.blaming r.circuit r.observations s) ()).verdict =
              .ok .satisfiable) ∧
          (r.Contradictory → result.minimalHittingSets = [r.circuit.all] ∧
            (solverOracle.ask (.blaming r.circuit r.observations r.circuit.all) ()).verdict =
              .ok .unsatisfiable)) := by
  have hwell := ObservedCircuit.WellFormed.of_parse h
  have hclosed : ∀ s, (Query.blaming r.circuit r.observations s).Closed := fun s => hwell.closed _
  obtain ⟨conflicts, houtcome, hconflicts⟩ := enumerates_extract ⟨(), {}⟩ hwell.closed
  refine ⟨conflicts, houtcome, fun options unseeded clock condition => ⟨?_, fun hcomplete => ?_⟩⟩
  · intro hcondition
    exact status_search_of_neverStops _ _ _ _ _ (StopRule.neverStops_timed clock 0 hcondition)
  · have hsets := enumerates_search_of_complete _ _ _ _ _ hcomplete
    refine ⟨fun hagree s hs => ?_, fun hcontradictory => ⟨?_, ?_⟩⟩
    · have hdiagnosis := hwell.isDiagnosis_of_minimal hagree hconflicts ((hsets.mem_iff s).mp hs)
      exact (verdict_blaming_eq_satisfiable_iff (hclosed s) hdiagnosis.1).mpr hdiagnosis
    · refine hsets.unique ((enumerates_singleton r.circuit.all).congr fun s => ?_)
      exact (hcontradictory.isMinimalHittingSet_iff hconflicts).symm
    · exact (Query.ask_eq_unsatisfiable_iff (hclosed _) ()).mpr (hcontradictory.not_consistent _)

/-- A gate that does not work is the only one that can be faulty, and its being faulty explains what
was observed. -/
theorem verdict_blaming_of_complete_gate :
    let text := "COMPONENTS:\nANDG(A)\nENDCOMPONENTS\nBEHAVIOUR:\nENDBEHAVIOUR\n" ++
      "OBSERVATIONS:\nIN1(A)=1\nIN2(A)=1\nENDOBSERVATIONS\n" ++
      "OUTOBSERVATIONS:\nOUT(A)=0\nENDOUTOBSERVATIONS\n"
    let result := SearchOptions.search ⟨.random, some 7⟩ (.ofSeed 0) frozenClock (.nodes 2)
      [.ofList ["A"]]
    ∃ r, parse text = .ok r ∧ ¬ r.Contradictory ∧ result.status = .complete ∧
      result.minimalHittingSets = [.ofList ["A"]] ∧
      (solverOracle.ask (.blaming r.circuit r.observations (.ofList ["A"])) ()).verdict =
        .ok .satisfiable := by
  intro text result
  have hvalue : (parse text).toOption.map (fun r =>
      (r.observations, (extractConflicts r.circuit r.observations).toOption)) =
        some ([⟨.input "IN1(A)", true⟩, ⟨.input "IN2(A)", true⟩, ⟨.output "A", false⟩],
          some [.ofList ["A"]]) := by
    decide +kernel
  obtain ⟨r, hparse, hr⟩ := exists_ok_of_map_toOption hvalue
  obtain ⟨hobservations, hextract⟩ := Prod.mk.inj hr
  have hagree : ¬ r.Contradictory := by
    rintro ⟨i, htrue, _⟩
    rw [hobservations] at htrue
    simp at htrue
  obtain ⟨conflicts, houtcome, hsearch⟩ := verdict_blaming_of_complete text r hparse
  rw [houtcome] at hextract
  have hconflicts : conflicts = [.ofList ["A"]] := Option.some.inj hextract
  rw [hconflicts] at hsearch
  have hstatus : result.status = .complete := by decide +kernel
  have hsets : result.minimalHittingSets = [.ofList ["A"]] := by decide +kernel
  refine ⟨r, hparse, hagree, hstatus, hsets, ?_⟩
  refine ((hsearch ⟨.random, some 7⟩ (.ofSeed 0) frozenClock (.nodes 2)).2 hstatus).1 hagree _ ?_
  rw [hsets]
  exact List.mem_singleton_self _

/-- A gate whose output was observed to be zero and to be one: the reported diagnosis, that the gate
is faulty, explains nothing. -/
theorem unsatisfiable_blaming_contradiction :
    let text := "COMPONENTS:\nANDG(A)\nENDCOMPONENTS\nBEHAVIOUR:\nENDBEHAVIOUR\n" ++
      "OBSERVATIONS:\nIN1(A)=1\nIN2(A)=1\nENDOBSERVATIONS\n" ++
      "OUTOBSERVATIONS:\nOUT(A)=0\nOUT(A)=1\nENDOUTOBSERVATIONS\n"
    let result := SearchOptions.search ⟨.smallest, none⟩ (.ofSeed 0) frozenClock .indefinite
      [.ofList ["A"]]
    ∃ r, parse text = .ok r ∧
      extractConflicts r.circuit r.observations = .ok [.ofList ["A"]] ∧
      result.status = .complete ∧ .ofList ["A"] ∈ result.minimalHittingSets ∧
      (solverOracle.ask (.blaming r.circuit r.observations (.ofList ["A"])) ()).verdict =
        .ok .unsatisfiable := by
  intro text result
  have hvalue : (parse text).toOption.map (fun r =>
      ((extractConflicts r.circuit r.observations).toOption,
        (solverOracle.ask (.blaming r.circuit r.observations (.ofList ["A"])) ()).verdict)) =
          some (some [.ofList ["A"]], .ok .unsatisfiable) := by
    decide +kernel
  obtain ⟨r, hparse, hr⟩ := exists_ok_of_map_toOption hvalue
  obtain ⟨hextract, hverdict⟩ := Prod.mk.inj hr
  exact ⟨r, hparse, eq_ok_of_toOption hextract, by decide +kernel, by decide +kernel, hverdict⟩

end CircuitDiagnosis
