import CircuitDiagnosis.Proofs.Oracle.Consistency

/-!
# Verdicts depend on what is healthy

Which components are forced to be faulty has no influence on the verdict of a closed query: a faulty
component may do anything, so forcing it is the same as leaving its flag open
(`Query.verdict_congr`). With more components fixed to be healthy and more observations an
unsatisfiable query stays unsatisfiable (`Query.verdict_mono`).
-/

namespace CircuitDiagnosis

namespace Query

/-- Closed queries that observe the same and fix the same components to be healthy have the same
verdict, whatever else they fix. -/
theorem verdict_congr {q r : Query} (hq : q.Closed) (hr : r.Closed)
    (hcircuit : r.circuit = q.circuit) (hobservations : r.observations = q.observations)
    (hflags : ∀ i, ⟨i, false⟩ ∈ r.faults.flags ↔ ⟨i, false⟩ ∈ q.faults.flags) :
    q.verdict = r.verdict := by
  rw [q.verdict_of_closed hq, r.verdict_of_closed hr]
  refine congrArg Except.ok (solve_eq_of_consistent_iff ⟨fun h => ?_, fun h => ?_⟩)
  · exact h.mono hcircuit (fun i => (hflags i).mp) fun o ho => hobservations ▸ ho
  · exact h.mono hcircuit.symm (fun i => (hflags i).mpr) fun o ho => hobservations ▸ ho

/-- More healthy flags and more observations keep a query unsatisfiable. -/
theorem verdict_mono {q r : Query} (hr : r.Closed) (hcircuit : q.circuit = r.circuit)
    (hflags : ∀ i, ⟨i, false⟩ ∈ q.faults.flags → ⟨i, false⟩ ∈ r.faults.flags)
    (hobservations : ∀ o ∈ q.observations, o ∈ r.observations)
    (h : q.verdict = .ok .unsatisfiable) : r.verdict = .ok .unsatisfiable := by
  rw [q.verdict_of_closed (closed_of_verdict_eq_ok h), Except.ok.injEq,
    solve_eq_unsatisfiable_iff] at h
  rw [r.verdict_of_closed hr, Except.ok.injEq, solve_eq_unsatisfiable_iff]
  exact fun hconsistent => h (hconsistent.mono hcircuit hflags hobservations)

end Query

open FaultAssignment

/-- **Forcing is freeing, and verdicts are monotone.** In a circuit and observations that refer to
nothing outside the circuit, the verdict with the members of a set healthy is the same whether all
other components are forced to be faulty or their flags are left open. A query that is unsatisfiable
stays so when more components are fixed to be healthy and more is observed, whatever is fixed to be
faulty. -/
theorem verdict_solverOracle_mono (circuit : Circuit) (observations : List Observation)
    (hwiring : circuit.Closed)
    (hobserved : ∀ o ∈ observations, ∀ i, o.signal = .output i → i ∈ circuit.ids) :
    (∀ healthy : ComponentSet, healthy ⊆ circuit.all → ∃ verdict : Verdict,
      (solverOracle.ask ⟨circuit, observations, .healthySubset circuit healthy⟩ ()).verdict =
          .ok verdict ∧
        (solverOracle.ask ⟨circuit, observations, .healthyOnly healthy⟩ ()).verdict =
          .ok verdict) ∧
    ∀ (fewer : List Observation) (faults stricter : FaultAssignment),
      (∀ o ∈ fewer, o ∈ observations) →
      (∀ f ∈ stricter.flags, f.component ∈ circuit.ids) →
      (∀ i, faults.isFaulty? i = some false → stricter.isFaulty? i = some false) →
      (solverOracle.ask ⟨circuit, fewer, faults⟩ ()).verdict = .ok .unsatisfiable →
        (solverOracle.ask ⟨circuit, observations, stricter⟩ ()).verdict = .ok .unsatisfiable := by
  simp only [verdict_ask_solverOracle]
  constructor
  · intro healthy hhealthy
    have hforced : (⟨circuit, observations, .healthySubset circuit healthy⟩ : Query).Closed :=
      Query.closed_assuming hwiring hobserved
    have hids : ∀ i ∈ healthy, i ∈ circuit.ids := fun i hi => OrdSet.mem_ofList.mp (hhealthy i hi)
    have hfreed : (⟨circuit, observations, .healthyOnly healthy⟩ : Query).Closed :=
      ⟨hwiring, hobserved, fun f hf => hids _ (mem_flags_healthyOnly.mp hf).1⟩
    refine ⟨_, Query.verdict_of_closed _ hforced, ?_⟩
    rw [← Query.verdict_of_closed _ hforced]
    refine Query.verdict_congr hfreed hforced rfl rfl fun i => ?_
    rw [mem_flags_healthyOnly]
    refine Query.healthy_mem_flags_assuming.trans ⟨fun h => ⟨h.2, rfl⟩, fun h => ⟨hids i h.1, h.1⟩⟩
  · intro fewer faults stricter hfewer hstricter hhealthy h
    refine Query.verdict_mono (q := ⟨circuit, fewer, faults⟩) ⟨hwiring, hobserved, hstricter⟩ rfl
      (fun i hi => ?_) hfewer h
    exact isFaulty?_eq_some_iff.mp (hhealthy i (isFaulty?_eq_some_iff.mpr hi))

/-- Two gates in a row and a gate that reads its own output: with the first gate healthy the values
seen can be explained, with the self-reading one healthy they cannot. -/
theorem verdict_solverOracle_mono_row :
    let circuit := Circuit.ofComponents [⟨"B", .and, .output "A", .input "z"⟩,
      ⟨"A", .or, .input "x", .input "y"⟩, ⟨"C", .xor, .output "B", .output "C"⟩]
    let observations : List Observation := [⟨.input "x", false⟩, ⟨.output "B", true⟩]
    (solverOracle.ask ⟨circuit, observations, .healthySubset circuit (.ofList ["A"])⟩ ()).verdict =
        .ok .satisfiable ∧
      (solverOracle.ask ⟨circuit, observations,
        ((healthyOnly (.ofList ["C"])).setHealthy "B").setFaulty "A"⟩ ()).verdict =
          .ok .unsatisfiable := by
  intro circuit observations
  have hobserved : ∀ o ∈ observations, Query.unknown? circuit o.signal = none := by decide
  obtain ⟨hforcing, hmono⟩ := verdict_solverOracle_mono circuit observations
    (Query.circuit_closed_iff.mpr (by decide))
    fun o ho => Query.unknown?_eq_none_iff.mp (hobserved o ho)
  constructor
  · obtain ⟨verdict, hforced, hfreed⟩ := hforcing (.ofList ["A"]) (OrdSet.subset_iff.mp (by decide))
    have hvalue : (solverOracle.ask ⟨circuit, observations,
        .healthyOnly (.ofList ["A"])⟩ ()).verdict = .ok .satisfiable := by
      decide +kernel
    rw [hforced, ← hfreed, hvalue]
  · refine hmono [⟨.output "B", true⟩] (.healthyOnly (.ofList ["C"])) _ (by decide) (by decide) ?_
      (by decide +kernel)
    intro i hi
    have hhealthy := mem_flags_healthyOnly.mp (isFaulty?_eq_some_iff.mp hi)
    have hC : i = "C" := List.mem_singleton.mp hhealthy.1
    rw [hC]
    decide

end CircuitDiagnosis
