import CircuitDiagnosis.Proofs.Circuit.Propagation
import CircuitDiagnosis.Proofs.HittingSet.Support

/-!
# Only components that influence an observation are blamed

A component influences an observation if its output was observed or reaches one that was, along the
wiring. In a circuit without cycles the other components do not matter: values that fit the healthy
components with influence are repaired for all healthy components, by computing anew the outputs of
those without influence. Nothing that was observed changes by that, and no component with influence
reads what changes (`Query.Consistent.of_influencing`).

So all members of a minimal conflict influence an observation (`influences_of_mem_minimal`), and so
do those of the hitting sets (`influences_of_mem_conflict`).
-/

namespace CircuitDiagnosis

open OrdSet

/-- The output of the component was observed, or it reaches along the wiring one that was. -/
def Influences (circuit : Circuit) (observations : List Observation) (i : ComponentId) : Prop :=
  ∃ j, circuit.Reaches i j ∧ ∃ o ∈ observations, o.signal = .output j

variable {circuit : Circuit} {observations : List Observation}

theorem Influences.of_observed {i : ComponentId} {o : Observation} (ho : o ∈ observations)
    (h : o.signal = .output i) : Influences circuit observations i :=
  ⟨i, .refl i, o, ho, h⟩

theorem Influences.of_reads {reader source : ComponentId} (hreads : circuit.Reads reader source)
    (h : Influences circuit observations reader) : Influences circuit observations source := by
  obtain ⟨j, hreaches, hobserved⟩ := h
  exact ⟨j, .step hreads hreaches, hobserved⟩

open Classical in
/-- The members of a set that influence an observation. -/
noncomputable def influencing (circuit : Circuit) (observations : List Observation)
    (s : ComponentSet) : ComponentSet :=
  s.filter fun i => decide (Influences circuit observations i)

theorem mem_influencing {s : ComponentSet} {i : ComponentId} :
    i ∈ influencing circuit observations s ↔ i ∈ s ∧ Influences circuit observations i := by
  classical
  unfold influencing
  rw [mem_filter, decide_eq_true_eq]

/-! ### The repair -/

section Repair

variable {idle : ComponentSet} (hidle : ∀ i ∈ idle, ¬ Influences circuit observations i)
  (signal : Signal → Bool)

include hidle

/-- Computing anew what has no influence does not change what a component with influence reads. -/
theorem settle_eq_of_mem_inputs {c : Component} (hc : c ∈ circuit.components)
    (h : Influences circuit observations c.id) {s : Signal} (hs : s ∈ c.inputs) :
    circuit.settle idle signal s = signal s := by
  cases s with
  | input name => exact Circuit.settle_input name
  | output j =>
      refine Circuit.settle_of_not_driven fun _ hj => hidle j hj ?_
      exact h.of_reads ⟨c, hc, rfl, hs⟩

theorem settle_eq_of_observed {o : Observation} (ho : o ∈ observations) :
    circuit.settle idle signal o.signal = signal o.signal := by
  cases hs : o.signal with
  | input name => exact Circuit.settle_input name
  | output j => exact Circuit.settle_of_not_driven fun _ hj => hidle j hj (.of_observed ho hs)

end Repair

/-- If the members of a set that have influence can be healthy then all its members can. -/
theorem Query.Consistent.of_influencing {s : ComponentSet} (hacyclic : circuit.Acyclic)
    (h : (Query.assuming circuit observations (influencing circuit observations s)).Consistent) :
    (Query.assuming circuit observations s).Consistent := by
  obtain ⟨signal, hcomputes, hshows⟩ := Query.consistent_assuming_iff.mp h
  let idle := s.diff (influencing circuit observations s)
  have hidle : ∀ i ∈ idle, ¬ Influences circuit observations i := by
    intro i hi hinfluences
    obtain ⟨his, hnot⟩ := mem_diff.mp hi
    exact hnot (mem_influencing.mpr ⟨his, hinfluences⟩)
  refine Query.consistent_assuming_iff.mpr
    ⟨circuit.settle idle signal, fun c hc hcs => ?_, fun o ho => ?_⟩
  · by_cases hinfluences : Influences circuit observations c.id
    · -- Neither the inputs nor the output of a component with influence have changed.
      have hinputs : ∀ t ∈ c.inputs, circuit.settle idle signal t = signal t :=
        fun t => settle_eq_of_mem_inputs hidle signal hc hinfluences
      have houtput : circuit.settle idle signal c.output = signal c.output :=
        Circuit.settle_of_not_driven fun _ hi => hidle c.id hi hinfluences
      unfold Component.Computes
      rw [houtput, Component.evaluate_congr hinputs]
      exact hcomputes c hc (mem_influencing.mpr ⟨hcs, hinfluences⟩)
    · have hdriven : c.id ∈ idle :=
        mem_diff.mpr ⟨hcs, fun hmem => hinfluences (mem_influencing.mp hmem).2⟩
      exact hacyclic.computes_settle hc hdriven
  · rw [settle_eq_of_observed hidle signal ho]
    exact hshows o ho

/-! ### Blame -/

/-- The members of a minimal conflict influence an observation. -/
theorem influences_of_mem_minimal {s : ComponentSet} (hacyclic : circuit.Acyclic)
    (hagree : ∀ s, ⟨s, true⟩ ∈ observations → ⟨s, false⟩ ∉ observations)
    (hs : IsMinimalConflict circuit observations s) :
    ∀ i ∈ s, Influences circuit observations i := by
  have hsub : influencing circuit observations s ⊆ s := fun i hi => (mem_influencing.mp hi).1
  obtain ⟨_, hall, hinconsistent⟩ := hs.holds
  have hconflict : IsConflict circuit observations (influencing circuit observations s) :=
    ⟨subset_trans hsub hall, fun h => hinconsistent (h.of_influencing hacyclic)⟩
  have hne : influencing circuit observations s ≠ ∅ := by
    intro hempty
    rw [hempty] at hconflict
    exact hconflict.2 (Query.consistent_assuming_empty circuit hagree)
  intro i hi
  exact (mem_influencing.mp (hs.minimal _ hsub ⟨hne, hconflict⟩ i hi)).2

/-- **Only components that influence an observation are blamed.** Let a circuit have no cycles, and
let no signal be observed with both values. If nothing refers to anything outside the circuit then
an extraction by the solver succeeds; and whenever it does, the members of its conflict sets
influence an observation. So do the members of all hitting sets of them that are found by any search,
complete or not, or by the test of all combinations. -/
theorem influences_of_mem_conflict (circuit : Circuit) (observations : List Observation)
    (hacyclic : circuit.Acyclic)
    (hagree : ∀ s, ⟨s, true⟩ ∈ observations → ⟨s, false⟩ ∉ observations)
    (extractor : Extractor Unit) :
    (circuit.Closed → (∀ o ∈ observations, ∀ i, o.signal = .output i → i ∈ circuit.ids) →
      ∃ conflicts,
        (extractor.extract solverOracle circuit observations).outcome = .ok conflicts) ∧
    ∀ conflicts, (extractor.extract solverOracle circuit observations).outcome = .ok conflicts →
      (∀ c ∈ conflicts, ∀ i ∈ c, Influences circuit observations i) ∧
      (∀ (σ τ : Type) (selector : Selector ComponentId σ) (choices : σ) (rule : StopRule τ)
        (stop : τ),
        let result := search conflicts selector choices rule stop
        ∀ s ∈ result.hittingSets ++ result.minimalHittingSets, ∀ i ∈ s,
          Influences circuit observations i) ∧
      ∀ s ∈ (bruteForce conflicts).hittingSets ++ (bruteForce conflicts).minimalHittingSets,
        ∀ i ∈ s, Influences circuit observations i := by
  constructor
  · intro hwiring hobserved
    obtain ⟨conflicts, houtcome, _⟩ :=
      enumerates_extract extractor fun s => Query.closed_assuming hwiring hobserved
    exact ⟨conflicts, houtcome⟩
  · intro conflicts houtcome
    rw [outcome_extract_of_closed extractor (closed_of_outcome_extract houtcome)] at houtcome
    cases houtcome
    have hconflicts := enumerates_rejectedCandidates circuit observations
    have hblamed : ∀ i ∈ union (retainMinimal (rejectedCandidates circuit observations)),
        Influences circuit observations i := by
      intro i hi
      obtain ⟨c, hc, hic⟩ := mem_union.mp hi
      exact influences_of_mem_minimal hacyclic hagree ((hconflicts.mem_iff c).mp hc) i hic
    refine ⟨fun c hc i hi => hblamed i (subset_union hc i hi), ?_, ?_⟩
    · intro σ τ selector choices rule stop result s hs i hi
      have hmem : s ∈ result.hittingSets :=
        (List.mem_append.mp hs).elim id (mem_hittingSets_of_mem_minimalHittingSets _ _ _ _ _)
      exact hblamed i (subset_union_of_mem_search _ _ _ _ _ hmem i hi)
    · intro s hs i hi
      have hmem := (List.mem_append.mp hs).elim id mem_hittingSets_of_mem_bruteForce
      exact hblamed i (subset_union_of_mem_bruteForce hmem i hi)

/-- Of three gates in a row the middle one was seen to fail. It is blamed together with the gate
that it reads, which influences what was seen; the gate that reads it is not. -/
theorem influences_of_mem_conflict_row :
    let circuit := Circuit.ofComponents [⟨"C", .xor, .output "B", .input "z"⟩,
      ⟨"B", .and, .output "A", .input "y"⟩, ⟨"A", .or, .input "x", .input "y"⟩]
    let observations : List Observation :=
      [⟨.input "x", true⟩, ⟨.input "y", true⟩, ⟨.input "z", false⟩, ⟨.output "B", false⟩]
    let result := search [OrdSet.ofList ["A", "B"]] Heuristic.mostFrequent.selector
      (Generator.ofSeed 7) .never ()
    circuit.Acyclic ∧
      (Extractor.extract ⟨(), {}⟩ solverOracle circuit observations).outcome =
        .ok [.ofList ["A", "B"]] ∧
      .ofList ["A"] ∈ result.hittingSets ∧ Influences circuit observations "A" := by
  intro circuit observations result
  have hacyclic : circuit.Acyclic := by
    refine Circuit.acyclic_of_rank (fun i => ["A", "B", "C"].idxOf i) ?_
    decide
  have hagree : ∀ o ∈ observations, o = ⟨o.signal, true⟩ → ⟨o.signal, false⟩ ∉ observations := by
    decide
  obtain ⟨hsucceeds, hblamed⟩ := influences_of_mem_conflict circuit observations hacyclic
    (fun s hs => hagree ⟨s, true⟩ hs rfl) ⟨(), {}⟩
  have hobserved : ∀ o ∈ observations, Query.unknown? circuit o.signal = none := by decide
  obtain ⟨conflicts, houtcome⟩ := hsucceeds (Query.circuit_closed_iff.mpr (by decide))
    fun o ho => Query.unknown?_eq_none_iff.mp (hobserved o ho)
  have hvalue : (Extractor.extract ⟨(), {}⟩ solverOracle circuit observations).outcome.toOption =
      some [.ofList ["A", "B"]] := by
    decide +kernel
  rw [houtcome] at hvalue
  rw [Option.some.inj hvalue] at houtcome
  obtain ⟨_, hsearched, _⟩ := hblamed _ houtcome
  have hmem : .ofList ["A"] ∈ result.hittingSets := by decide +kernel
  refine ⟨hacyclic, houtcome, hmem, ?_⟩
  exact hsearched _ _ Heuristic.mostFrequent.selector (Generator.ofSeed 7) .never () _
    (List.mem_append_left _ hmem) "A" (mem_ofList.mpr List.mem_cons_self)

end CircuitDiagnosis
